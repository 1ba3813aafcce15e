import JsonShape.Proofs.Inference.Conformance
import JsonShape.Proofs.Inference.Position

/-!
# The least type

A type is at most another one when it accepts no more: integers are numbers,
everything may be `any`, a struct may have fewer fields and fewer optional ones.
Of all the types that the documents conform to, and that assume nothing where
the documents supply nothing, inference returns the least:
`atMost_of_inferAll`.
-/

set_option autoImplicit false

namespace JsonShape

open Inference Unify

namespace Node

/-- The order of finished types. -/
inductive AtMost : Node → Node → Prop
  | any (type : Node) : AtMost type .any
  | primitive (type : Primitive) : AtMost (.primitive type) (.primitive type)
  | intAsFloat : AtMost .int .float
  | slice {element other : Node} (helement : AtMost element other) :
      AtMost (.slice element) (.slice other)
  /-- The greater struct has all the fields of the lesser one, and none that is
  required unless it is required there. -/
  | struct {fields others : List (String × Field Node)}
      (hnames : ∀ name ∈ fields.map Prod.fst, name ∈ others.map Prod.fst)
      (htypes : ∀ name field other, fields.lookup name = some field →
        others.lookup name = some other → AtMost field.type other.type)
      (hoptional : ∀ name field other, fields.lookup name = some field →
        others.lookup name = some other → field.optional = true → other.optional = true)
      (hextra : ∀ name other, others.lookup name = some other →
        name ∉ fields.map Prod.fst → other.optional = true) :
      AtMost (.struct fields) (.struct others)

end Node

/-- A type that accepts a value is `any`, is of the value's kind or takes an
integer for a number. -/
theorem Conforms.kind_cases {value : Json} {type : Node} (h : Conforms value type) :
    type = .any ∨ type.kind = value.kind ∨ type = .float ∧ value.kind = .primitive .int := by
  cases h with
  | any value => exact .inl rfl
  | bool value => exact .inr (.inl rfl)
  | string text => exact .inr (.inl rfl)
  | int value => exact .inr (.inl rfl)
  | integral hvalue => exact .inr (.inl (by rw [Json.kind, Json.raw, if_pos hvalue]))
  | intAsFloat value => exact .inr (.inr ⟨rfl, rfl⟩)
  | @float value hvalue =>
      rw [Json.kind, Json.raw]
      cases value.isIntegral with
      | true => exact .inr (.inr ⟨rfl, rfl⟩)
      | false => exact .inr (.inl rfl)
  | slice hitems => exact .inr (.inl (by rw [Json.kind, Json.raw_arr]; rfl))
  | struct hkeys hoptional htypes => exact .inr (.inl (by rw [Json.kind, Json.raw_obj]; rfl))

theorem Conforms.eq_any_of_null {type : Node} (h : Conforms .null type) : type = .any := by
  cases h
  rfl

/-- Only two types accept values of different kinds. -/
theorem Conforms.eq_any_or_float {left right : Json} {type : Node} (hleft : Conforms left type)
    (hright : Conforms right type) (hne : left.kind ≠ right.kind) :
    type = .any ∨ type = .float := by
  rcases hleft.kind_cases with hany | hkind | ⟨hfloat, -⟩
  · exact .inl hany
  · rcases hright.kind_cases with hany | hother | ⟨hfloat, -⟩
    · exact .inl hany
    · exact absurd (hkind.symm.trans hother) hne
    · exact .inr hfloat
  · exact .inr hfloat

theorem Conforms.isNumeric {value : Json} (h : Conforms value .float) :
    Unify.isNumeric value.kind = true := by
  rcases h.kind_cases with hany | hkind | ⟨-, hint⟩
  · cases hany
  · rw [← hkind]
    rfl
  · rw [hint]
    rfl

theorem Node.eq_primitive_of_kind {node : Node} {type : Primitive}
    (h : node.kind = .primitive type) : node = .primitive type := by
  cases node <;> simp_all [Node.kind]

/-- What the rules give is at most every type that the values conform to and that
is `any` where they supply nothing. -/
theorem Infers.atMost {values : List Json} {type : Node} (h : Infers values type) {bound : Node}
    (hconforms : ∀ value ∈ values, Conforms value bound)
    (hany : ∀ position part, bound.at? position = some part →
      (∀ value ∈ suppliedAt position values, value.isNull = true) → part = .any) :
    type.AtMost bound := by
  induction h generalizing bound with
  | none =>
      rw [hany [] bound (Node.at?_nil bound) (by simp [suppliedAt])]
      exact .any _
  | primitive type hne hkinds =>
      obtain ⟨value, hvalue⟩ := List.exists_mem_of_ne_nil _ hne
      have hkind := hkinds value hvalue
      rcases (hconforms value hvalue).kind_cases with rfl | hsame | ⟨rfl, hint⟩
      · exact .any _
      · rw [Node.eq_primitive_of_kind (hsame.trans hkind)]
        exact .primitive type
      · cases hkind.symm.trans hint
        exact .intAsFloat
  | numbers left right hleft hright hne hkinds =>
      rcases (hconforms left hleft).eq_any_or_float (hconforms right hright) hne with rfl | rfl
      · exact .any _
      · exact .primitive .float
  | nullItem hne hkinds hnull =>
      obtain ⟨items, hvalue, hitem⟩ := mem_itemsOf_iff.mp hnull
      cases hconforms _ hvalue with
      | any => exact .any _
      | slice hitems =>
          rw [(hitems _ hitem).eq_any_of_null]
          exact .slice (.any _)
  | slice hne hkinds hnull _ ih =>
      obtain ⟨value, hvalue⟩ := List.exists_mem_of_ne_nil _ hne
      obtain ⟨items, rfl⟩ := Json.kind_eq_slice_iff.mp (hkinds value hvalue)
      cases hconforms _ hvalue with
      | any => exact .any _
      | slice =>
          refine .slice (ih (fun item hitem => ?_) fun position part hpart => ?_)
          · obtain ⟨others, hother, hitem⟩ := mem_itemsOf_iff.mp hitem
            cases hconforms _ hother with
            | slice hitems => exact hitems item hitem
          · exact hany (.item :: position) part hpart
  | struct hne hkinds hnames _ hoptional ih =>
      obtain ⟨value, hvalue⟩ := List.exists_mem_of_ne_nil _ hne
      obtain ⟨members, rfl⟩ := Json.kind_eq_struct_iff.mp (hkinds value hvalue)
      cases hconforms _ hvalue with
      | any => exact .any _
      | @struct _ others =>
          refine .struct (fun name hname => ?_) (fun name field other hfield hother => ?_)
            (fun name field other hfield hother hset => ?_) fun name other hother hextra => ?_
          · rw [hnames, mem_keysOf_iff] at hname
            obtain ⟨known, hknown, hname⟩ := hname
            cases hconforms _ hknown with
            | struct hkeys => exact hkeys name hname
          · refine ih name field (mem_of_lookup_eq_some hfield) (fun member hmember => ?_)
              fun position part hpart => ?_
            · obtain ⟨hpresent, known, hknown, hlookup⟩ := mem_presentUnder_iff.mp hmember
              cases hconforms _ hknown with
              | struct _ _ htypes =>
                  exact htypes name other member hother
                    (Json.present?_eq_some_iff.mpr ⟨hlookup, hpresent⟩)
            · rw [← Node.at?_field hother position] at hpart
              exact hany (.field name :: position) part hpart
          · rw [hoptional name field (mem_of_lookup_eq_some hfield), List.any_eq_true] at hset
            obtain ⟨lacking, hlacking, hlacks⟩ := hset
            obtain ⟨known, rfl⟩ := Json.kind_eq_struct_iff.mp (hkinds lacking hlacking)
            cases hconforms _ hlacking with
            | struct _ hoptional => exact hoptional name other hother hlacks
          · cases hconforms _ hvalue with
            | struct _ hoptional =>
                refine hoptional name other hother (Json.lacks_iff.mpr (.inl ?_))
                rw [hnames, mem_keysOf_iff] at hextra
                rw [← Option.not_isSome_iff_eq_none, ← mem_names_iff]
                exact fun hname => hextra ⟨members, hvalue, hname⟩
  | mixed left right hleft hright hne hnumbers =>
      have hleft := hconforms left hleft
      have hright := hconforms right hright
      rcases hleft.eq_any_or_float hright hne with rfl | rfl
      · exact .any _
      · exact absurd ⟨hleft.isNumeric, hright.isNumeric⟩ hnumbers

/-- Inference returns the least of all the types that the documents conform to
and that are `any` wherever the documents supply nothing but nulls. -/
theorem atMost_of_inferAll [Room] {documents : List Json} {type bound : Node}
    (h : inferAll documents = .ok type)
    (hconforms : ∀ document ∈ documents, Conforms document bound)
    (hany : ∀ position part, bound.at? position = some part →
      (∀ value ∈ suppliedAt position documents, value.isNull = true) → part = .any) :
    type.AtMost bound :=
  (inferAll_eq_ok_iff_infers.mp h).2.2.atMost hconforms hany

/-- An object with one key. -/
def narrowDocument : Json := .obj [("id", .int 1)]

def narrowType : Node := .struct [("id", ⟨.int, false⟩)]

/-- A type that accepts more than the object, and knows nothing of a second key. -/
def wideType : Node := .struct [("id", ⟨.float, true⟩), ("note", ⟨.any, true⟩)]

theorem conforms_wideType : Conforms narrowDocument wideType := by
  refine .struct (by decide) (fun name field hfield _ => ?_)
    fun name field member hfield hmember => ?_
  · rcases lookup_cons_eq_some_iff.mp hfield with ⟨-, rfl⟩ | ⟨-, hnote⟩
    · rfl
    · rcases lookup_cons_eq_some_iff.mp hnote with ⟨-, rfl⟩ | ⟨-, hrest⟩
      · rfl
      · cases hrest
  · rw [Json.present?_eq_some_iff, Json.members, lookup_cons_eq_some_iff] at hmember
    obtain ⟨⟨rfl, rfl⟩ | ⟨-, hrest⟩, -⟩ := hmember
    · cases hfield
      exact .intAsFloat 1
    · cases hrest

theorem any_of_wideType {position : Position} {part : Node}
    (hpart : wideType.at? position = some part)
    (hnull : ∀ value ∈ suppliedAt position [narrowDocument], value.isNull = true) :
    part = .any := by
  match position with
  | [] => simp [suppliedAt, narrowDocument, Json.isNull] at hnull
  | .item :: rest => simp [wideType, Node.at?] at hpart
  | .field name :: rest =>
      obtain ⟨field, hfield, hpart⟩ := Option.bind_eq_some_iff.mp hpart
      rcases lookup_cons_eq_some_iff.mp hfield with ⟨rfl, rfl⟩ | ⟨-, hnote⟩
      · cases rest with
        | nil => simpa [Json.isNull] using hnull (.int 1) (List.mem_singleton_self _)
        | cons step rest => cases step <;> simp [Node.at?, Node.float] at hpart
      · rcases lookup_cons_eq_some_iff.mp hnote with ⟨rfl, rfl⟩ | ⟨-, hrest⟩
        · cases rest with
          | nil => simpa [eq_comm] using hpart
          | cons step rest => cases step <;> simp [Node.at?] at hpart
        · cases hrest

theorem atMost_of_inferAll_wideType :
    inferAll [narrowDocument] = .ok narrowType ∧ Conforms narrowDocument wideType ∧
      narrowType.AtMost wideType := by
  have hinfer : inferAll [narrowDocument] = .ok narrowType := rfl
  exact ⟨hinfer, conforms_wideType,
    atMost_of_inferAll hinfer (by simpa using conforms_wideType) fun _ _ => any_of_wideType⟩

end JsonShape

import JsonShape.Proofs.Inference.Parts

/-!
# More documents widen a type

Documents that are added to others can only widen what was inferred before: a
number type, a struct or `any` takes the place of a narrower type, known fields
stay in front and in their order, and new fields are optional.  Only where the
earlier documents supplied nothing, so that `any` stood for want of evidence, may
the type become more specific: `widens_of_inferAll_append`.
-/

set_option autoImplicit false

namespace JsonShape

open Inference Unify

/-- How the type of a place may change when documents are added.  `unseen` says
that nothing had been observed there. -/
inductive Widens (unseen : Prop) : Node → Node → Prop
  | any (type : Node) : Widens unseen type .any
  | primitive (type : Primitive) : Widens unseen (.primitive type) (.primitive type)
  | intAsFloat : Widens unseen .int .float
  | slice (element other : Node) : Widens unseen (.slice element) (.slice other)
  /-- The known fields come first, and what is optional stays optional. -/
  | struct {fields others : List (String × Field Node)}
      (hnames : fields.map Prod.fst <+: others.map Prod.fst)
      (hoptional : ∀ name field other, (name, field) ∈ fields → (name, other) ∈ others →
        field.optional = true → other.optional = true)
      (hnew : ∀ name other, (name, other) ∈ others → name ∉ fields.map Prod.fst →
        other.optional = true) :
      Widens unseen (.struct fields) (.struct others)
  | unseen (hunseen : unseen) (type : Node) : Widens unseen .any type

theorem Widens.imp {unseen other : Prop} {type wider : Node} (h : Widens unseen type wider)
    (hunseen : unseen → other) : Widens other type wider := by
  cases h with
  | any => exact .any _
  | primitive => exact .primitive _
  | intAsFloat => exact .intAsFloat
  | slice => exact .slice _ _
  | struct hnames hoptional hnew => exact .struct hnames hoptional hnew
  | unseen h => exact .unseen (hunseen h) _

/-- Nothing is observed at a position where every array is empty, or where the
member of the name is null in every object that has it. -/
inductive Unseen (documents : List Json) : Position → Prop
  | item (place : Position)
      (hempty : ∀ items, .arr items ∈ suppliedAt place documents → items = []) :
      Unseen documents (place ++ [.item])
  | field (place : Position) (name : String)
      (hnull : ∀ members member, .obj members ∈ suppliedAt place documents →
        members.lookup name = some member → member = .null) :
      Unseen documents (place ++ [.field name])

namespace Inference

variable {earlier later : List Json}

theorem suppliedAt_steps (place rest : Position) (values : List Json) :
    suppliedAt (place ++ rest) values = suppliedAt rest (suppliedAt place values) := by
  induction place generalizing values with
  | nil => rfl
  | cons step place ih =>
      cases step with
      | field name => exact ih _
      | item => exact ih _

/-- Below the root, supplying nothing means to be unseen. -/
theorem unseen_of_suppliedAt_eq_nil {documents : List Json} (hdocuments : documents ≠ [])
    {position : Position} (h : suppliedAt position documents = []) :
    Unseen documents position := by
  rcases List.eq_nil_or_concat position with rfl | ⟨place, step, rfl⟩
  · exact absurd h hdocuments
  · rw [List.concat_eq_append] at h ⊢
    rw [suppliedAt_steps] at h
    cases step with
    | item =>
        refine .item place fun items hitems => ?_
        refine List.eq_nil_iff_forall_not_mem.mpr fun item hitem => ?_
        have hmem : item ∈ itemsOf (suppliedAt place documents) :=
          mem_itemsOf_iff.mpr ⟨items, hitems, hitem⟩
        rw [show itemsOf (suppliedAt place documents) = [] from h] at hmem
        exact List.not_mem_nil hmem
    | field name =>
        refine .field place name fun members member hmembers hmember => ?_
        by_contra hne
        have hmem : member ∈ presentUnder name (suppliedAt place documents) := by
          rw [mem_presentUnder_iff, Bool.eq_false_iff, Ne, Json.isNull_iff]
          exact ⟨hne, members, hmembers, hmember⟩
        rw [show presentUnder name (suppliedAt place documents) = [] from h] at hmem
        exact List.not_mem_nil hmem

theorem itemsOf_append : itemsOf (earlier ++ later) = itemsOf earlier ++ itemsOf later := by
  rw [itemsOf, itemsOf, itemsOf, List.flatMap_append]

theorem presentUnder_append (name : String) :
    presentUnder name (earlier ++ later) =
      presentUnder name earlier ++ presentUnder name later := by
  rw [presentUnder, presentUnder, presentUnder, List.filterMap_append]

theorem suppliedAt_append (position : Position) :
    suppliedAt position (earlier ++ later) =
      suppliedAt position earlier ++ suppliedAt position later := by
  induction position generalizing earlier later with
  | nil => rfl
  | cons step rest ih =>
      cases step with
      | field name => rw [suppliedAt, suppliedAt, suppliedAt, presentUnder_append, ih]
      | item => rw [suppliedAt, suppliedAt, suppliedAt, itemsOf_append, ih]

/-- The names seen first stay in front. -/
theorem keysOf_prefix_append : keysOf earlier <+: keysOf (earlier ++ later) := by
  rw [keysOf, keysOf, List.flatMap_append, List.eraseDups_append]
  exact List.prefix_append _ _

end Inference

/-! ## Adding values to a place -/

/-- A null among the values lets the rules give nothing but `any`. -/
theorem Infers.eq_any_of_null {values : List Json} {type : Node} (h : Infers values type)
    (hnull : .null ∈ values) : type = .any := by
  have hkind : Json.null.kind = .ignore := rfl
  cases h with
  | none => rfl
  | mixed => rfl
  | numbers _ _ _ _ _ hkinds => simpa [hkind, isNumeric] using hkinds _ hnull
  | primitive _ _ hkinds | nullItem _ hkinds _ | slice _ hkinds _ _ | struct _ hkinds _ _ _ =>
      simpa [hkind] using hkinds _ hnull

/-- The type of values of one kind is of that kind, if there are values at all. -/
theorem Infers.kind_cases {values : List Json} {type : Node} (h : Infers values type) {kind : Kind}
    (hkinds : ∀ value ∈ values, value.kind = kind) :
    values = [] ∧ type = .any ∨
      (∃ primitive, kind = .primitive primitive ∧ type = .primitive primitive) ∨
      (kind = .slice ∧ ∃ element, type = .slice element) ∨
      (kind = .struct ∧ ∃ fields, type = .struct fields) := by
  have hsame {left right : Json} (hleft : left ∈ values) (hright : right ∈ values) :
      left.kind = right.kind := (hkinds left hleft).trans (hkinds right hright).symm
  cases h with
  | none => exact .inl ⟨rfl, rfl⟩
  | numbers left right hleft hright hne _ => exact absurd (hsame hleft hright) hne
  | mixed left right hleft hright hne _ => exact absurd (hsame hleft hright) hne
  | primitive type hne hprimitive =>
      obtain ⟨value, hvalue⟩ := List.exists_mem_of_ne_nil _ hne
      exact .inr (.inl ⟨type, (hkinds value hvalue).symm.trans (hprimitive value hvalue), rfl⟩)
  | nullItem hne hslices _ | slice hne hslices _ _ =>
      obtain ⟨value, hvalue⟩ := List.exists_mem_of_ne_nil _ hne
      exact .inr (.inr (.inl ⟨(hkinds value hvalue).symm.trans (hslices value hvalue), _, rfl⟩))
  | struct hne hstructs _ _ _ =>
      obtain ⟨value, hvalue⟩ := List.exists_mem_of_ne_nil _ hne
      exact .inr (.inr (.inr ⟨(hkinds value hvalue).symm.trans (hstructs value hvalue), _, rfl⟩))

/-- The type of numbers is a number type, if there are numbers at all. -/
theorem Infers.isNumeric_cases {values : List Json} {type : Node} (h : Infers values type)
    (hkinds : ∀ value ∈ values, isNumeric value.kind) :
    values = [] ∧ type = .any ∨ type = .int ∨ type = .float := by
  have hnot {kind : Kind} (hkind : isNumeric kind = false) (hne : values ≠ []) :
      ¬∀ value ∈ values, value.kind = kind := by
    obtain ⟨value, hvalue⟩ := List.exists_mem_of_ne_nil _ hne
    intro hall
    have hnumber := hkinds value hvalue
    rw [hall value hvalue, hkind] at hnumber
    exact Bool.false_ne_true hnumber
  cases h with
  | none => exact .inl ⟨rfl, rfl⟩
  | numbers => exact .inr (.inr rfl)
  | primitive type hne hprimitive =>
      cases type with
      | int => exact .inr (.inl rfl)
      | float => exact .inr (.inr rfl)
      | bool | string => exact absurd hprimitive (hnot rfl hne)
  | nullItem hne hslices _ | slice hne hslices _ _ => exact absurd hslices (hnot rfl hne)
  | struct hne hstructs _ _ _ => exact absurd hstructs (hnot rfl hne)
  | mixed left right hleft hright _ hnumbers =>
      exact absurd ⟨hkinds left hleft, hkinds right hright⟩ hnumbers

/-- The struct of more objects has the fields of fewer in front of its new ones. -/
theorem Infers.widens_struct {earlier later : List Json}
    {fields others : List (String × Field Node)} (h : Infers earlier (.struct fields))
    (hwider : Infers (earlier ++ later) (.struct others)) {unseen : Prop} :
    Widens unseen (.struct fields) (.struct others) := by
  generalize hall : earlier ++ later = all at hwider
  cases h with
  | struct hne hkinds hnames _ hoptional =>
      cases hwider with
      | struct _ _ hothers _ hwider =>
          subst hall
          refine .struct ?_ (fun name field other hfield hother hset => ?_)
            fun name other hother hnew => ?_
          · rw [hnames, hothers]
            exact keysOf_prefix_append
          · rw [hoptional name field hfield] at hset
            rw [hwider name other hother, List.any_append, hset, Bool.true_or]
          · -- every one of the earlier objects lacks a name that is new
            obtain ⟨value, hvalue⟩ := List.exists_mem_of_ne_nil _ hne
            obtain ⟨members, rfl⟩ := Json.kind_eq_struct_iff.mp (hkinds value hvalue)
            have hlacks : (Json.obj members).lacks name = true := by
              rw [hnames, mem_keysOf_iff] at hnew
              refine Json.lacks_iff.mpr (.inl ?_)
              rw [← Option.not_isSome_iff_eq_none]
              exact fun hname => hnew ⟨members, hvalue, mem_names_iff.mpr hname⟩
            rw [hwider name other hother, List.any_append,
              List.any_eq_true.mpr ⟨_, hvalue, hlacks⟩, Bool.true_or]

/-- Values that are added to a place widen its type. -/
theorem Infers.widens {earlier later : List Json} {type wider : Node} (h : Infers earlier type)
    (hwider : Infers (earlier ++ later) wider) : Widens (earlier = []) type wider := by
  have hearlier {holds : Json → Prop} (hall : ∀ value ∈ earlier ++ later, holds value) :
      ∀ value ∈ earlier, holds value :=
    fun value hvalue => hall value (List.mem_append_left _ hvalue)
  -- said of both lists, before the rule of the wider type is taken apart
  have hstruct {others : List (String × Field Node)} (hothers : wider = .struct others)
      {fields : List (String × Field Node)} (hfields : type = .struct fields) :
      Widens (earlier = []) type wider := by
    subst hothers hfields
    exact h.widens_struct hwider
  generalize hall : earlier ++ later = all at hearlier hwider
  cases hwider with
  | none => exact .any _
  | mixed => exact .any _
  | numbers _ _ _ _ _ hkinds =>
      rcases h.isNumeric_cases (hearlier hkinds) with ⟨hnil, rfl⟩ | rfl | rfl
      · exact .unseen hnil _
      · exact .intAsFloat
      · exact .primitive _
  | primitive type _ hkinds =>
      rcases h.kind_cases (hearlier hkinds) with
        ⟨hnil, rfl⟩ | ⟨other, hother, rfl⟩ | ⟨hkind, -⟩ | ⟨hkind, -⟩
      · exact .unseen hnil _
      · cases hother
        exact .primitive _
      all_goals cases hkind
  | nullItem _ hkinds _ | slice _ hkinds _ _ =>
      rcases h.kind_cases (hearlier hkinds) with
        ⟨hnil, rfl⟩ | ⟨_, hkind, -⟩ | ⟨-, element, rfl⟩ | ⟨hkind, -⟩
      · exact .unseen hnil _
      · cases hkind
      · exact .slice _ _
      · cases hkind
  | struct _ hkinds _ _ _ =>
      rcases h.kind_cases (hearlier hkinds) with
        ⟨hnil, rfl⟩ | ⟨_, hkind, -⟩ | ⟨hkind, -⟩ | ⟨-, fields, hfields⟩
      · exact .unseen hnil _
      · cases hkind
      · cases hkind
      · exact hstruct rfl hfields

/-- Documents that are added widen the type at every position. -/
theorem widens_of_inferAll_append [Room] {earlier later : List Json} {type wider : Node}
    (h : inferAll earlier = .ok type) (hwider : inferAll (earlier ++ later) = .ok wider)
    {position : Position} {part other : Node} (hpart : type.at? position = some part)
    (hother : wider.at? position = some other) :
    Widens (Unseen earlier position) part other := by
  obtain ⟨hne, -, hinfers⟩ := inferAll_eq_ok_iff_infers.mp h
  obtain ⟨-, -, hwider⟩ := inferAll_eq_ok_iff_infers.mp hwider
  have hother := hwider.part hother
  rw [suppliedAt_append] at hother
  rcases hother with hother | ⟨rfl, -⟩
  · rcases hinfers.part hpart with hpart | ⟨rfl, hnull⟩
    · exact (hpart.widens hother).imp (unseen_of_suppliedAt_eq_nil hne)
    · rw [hother.eq_any_of_null (List.mem_append_left _ hnull)]
      exact .any _
  · exact .any _

/-- What the first order alone shows of its lines, and what the second one adds. -/
def firstLineFields : List (String × Field Node) :=
  [("sku", ⟨.string, false⟩), ("note", ⟨.any, true⟩)]

def firstOrderType : Node := .struct [("lines", ⟨.slice (.struct firstLineFields), false⟩)]

theorem widens_of_inferAll_append_lines :
    inferAll (orderDocuments.take 1) = .ok firstOrderType ∧
      inferAll (orderDocuments.take 1 ++ orderDocuments.drop 1) = .ok orderType ∧
      Widens (Unseen (orderDocuments.take 1) [.field "lines", .item])
        (.struct firstLineFields) (.struct lineFields) := by
  have hfirst : inferAll (orderDocuments.take 1) = .ok firstOrderType := rfl
  have hall : inferAll (orderDocuments.take 1 ++ orderDocuments.drop 1) = .ok orderType := rfl
  have hpart : firstOrderType.at? [.field "lines", .item] = some (.struct firstLineFields) := rfl
  have hother : orderType.at? [.field "lines", .item] = some (.struct lineFields) := rfl
  exact ⟨hfirst, hall, widens_of_inferAll_append hfirst hall hpart hother⟩

end JsonShape

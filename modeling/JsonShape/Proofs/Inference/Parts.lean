import JsonShape.Proofs.Inference.Position
import JsonShape.Proofs.Inference.Rules

/-!
# The parts of an inferred type

The part of an inferred type at a position depends on nothing but the values
that the documents supply there: it is their type by the rules, or `any` because
a null among the items hides the others.  A struct at any depth can therefore be
read off the objects that the documents supply at its place, which is what
`struct_of_inferAll` says.
-/

set_option autoImplicit false

namespace JsonShape

open Inference

theorem Node.at?_any {position : Position} {part : Node}
    (h : Node.any.at? position = some part) : part = .any := by
  cases position with
  | nil => simpa [eq_comm] using h
  | cons step rest => cases step <;> simp [at?] at h

/-- The part at a position follows from the values supplied there, unless it is
hidden by a null among them. -/
theorem Infers.part {values : List Json} {type : Node} (h : Infers values type)
    {position : Position} {part : Node} (hpart : type.at? position = some part) :
    Infers (suppliedAt position values) part ∨
      part = .any ∧ .null ∈ suppliedAt position values := by
  induction position generalizing values type with
  | nil =>
      rw [Node.at?_nil, Option.some.injEq] at hpart
      exact .inl (hpart ▸ h)
  | cons step rest ih =>
      cases h with
      | slice hne hkinds hnull hitems =>
          cases step with
          | field name => simp [Node.at?] at hpart
          | item => exact ih hitems hpart
      | nullItem hne hkinds hnull =>
          cases step with
          | field name => simp [Node.at?] at hpart
          | item =>
              cases rest with
              | nil => exact .inr ⟨Node.at?_any hpart, hnull⟩
              | cons next rest => cases next <;> simp [Node.at?] at hpart
      | struct hne hkinds hnames htypes hoptional =>
          cases step with
          | item => simp [Node.at?] at hpart
          | field name =>
              obtain ⟨field, hfield, hpart⟩ := Option.bind_eq_some_iff.mp hpart
              exact ih (htypes name field (mem_of_lookup_eq_some hfield)) hpart
      | _ => cases step <;> simp [Node.at?, Node.float] at hpart

/-! ## Structs -/

/-- What a struct says about the objects at its place. -/
structure DescribesObjects (objects : List (List (String × Json)))
    (fields : List (String × Field Node)) : Prop where
  nonempty : objects ≠ []
  names : FirstSeen (objects.flatMap (List.map Prod.fst)) (fields.map Prod.fst)
  optional_iff : ∀ name field, (name, field) ∈ fields → (field.optional = true ↔
    ∃ members ∈ objects, members.lookup name = none ∨ members.lookup name = some .null)

/-- Values whose type is a struct are objects, and the struct describes them. -/
theorem Infers.describesObjects {values : List Json} {fields : List (String × Field Node)}
    (h : Infers values (.struct fields)) :
    ∃ objects : List (List (String × Json)),
      values = objects.map .obj ∧ DescribesObjects objects fields := by
  cases h with
  | struct hne hkinds hnames htypes hoptional =>
      have hobject : ∀ value ∈ values, Json.obj value.members = value := by
        intro value hvalue
        obtain ⟨members, rfl⟩ := Json.kind_eq_struct_iff.mp (hkinds value hvalue)
        rfl
      have hobjects : values = (values.map Json.members).map .obj := by
        rw [List.map_map]
        exact (List.map_id values).symm.trans
          (List.map_congr_left fun value hvalue => (hobject value hvalue).symm)
      refine ⟨values.map Json.members, hobjects, ?_, ?_, ?_⟩
      · simpa using hne
      · rw [hnames, keysOf, List.flatMap_map]
        exact firstSeen_eraseDups _
      · intro name field hfield
        rw [hoptional name field hfield, List.any_eq_true]
        simp only [Json.lacks_iff, List.mem_map, exists_exists_and_eq_and]

/-- A struct at any position of an inferred type describes the values that the
documents supply there, all of which are objects. -/
theorem struct_of_inferAll [Room] {documents : List Json} {type : Node}
    (h : inferAll documents = .ok type) {position : Position}
    {fields : List (String × Field Node)} (hstruct : type.at? position = some (.struct fields)) :
    ∃ objects : List (List (String × Json)),
      suppliedAt position documents = objects.map .obj ∧ DescribesObjects objects fields := by
  obtain ⟨-, -, hinfers⟩ := inferAll_eq_ok_iff_infers.mp h
  rcases hinfers.part hstruct with hpart | ⟨hany, -⟩
  · exact hpart.describesObjects
  · cases hany

/-- Two orders: in the lines of the one a note is null or missing, and only the other
has a price. -/
def orderDocuments : List Json :=
  [.obj [("lines", .arr [.obj [("sku", .str "a"), ("note", .null)], .obj [("sku", .str "b")]])],
    .obj [("lines", .arr [.obj [("price", .int 2), ("sku", .str "c")]])]]

def lineFields : List (String × Field Node) :=
  [("sku", ⟨.string, false⟩), ("note", ⟨.any, true⟩), ("price", ⟨.int, true⟩)]

def orderType : Node := .struct [("lines", ⟨.slice (.struct lineFields), false⟩)]

theorem struct_of_inferAll_lines :
    inferAll orderDocuments = .ok orderType ∧
      orderType.at? [.field "lines", .item] = some (.struct lineFields) ∧
      ∃ objects : List (List (String × Json)),
        suppliedAt [.field "lines", .item] orderDocuments = objects.map .obj ∧
          DescribesObjects objects lineFields := by
  have hinfer : inferAll orderDocuments = .ok orderType := rfl
  have hstruct : orderType.at? [.field "lines", .item] = some (.struct lineFields) := rfl
  exact ⟨hinfer, hstruct, struct_of_inferAll hinfer hstruct⟩

end JsonShape

import JsonShape.Proofs.Description.Reading

/-!
# Canonical descriptions

A description may leave out what has a default and may hold members that nobody
reads.  One that does neither is canonical: these are the descriptions that finished
trees have, and among all that are read as one tree exactly one is canonical.
-/

set_option autoImplicit false

namespace JsonShape.Description

/-- A description with all members that have a meaning, in their order, and no others. -/
inductive Canonical : Json → Prop
  | primitive (type : Primitive) : Canonical (.obj [("type", .str type.name)])
  | any : Canonical (.obj [("type", .str "any")])
  | slice {element : Json} (helement : Canonical element) :
      Canonical (.obj [("type", .str "slice"), ("of", element)])
  | struct {fields : List (String × Field Json)}
      (htypes : ∀ entry ∈ fields, Canonical entry.2.type) :
      Canonical (.obj [("type", .str "struct"),
        ("fields", .obj (fields.map fun entry => (entry.1, ofField entry.2)))])

theorem canonical_describe {node : Node} (hfinished : node.IsFinished) :
    Canonical node.describe := by
  induction node using Node.induction_on_children with
  | step node ih =>
      obtain ⟨hform, hchildren⟩ := Node.isFinished_iff.mp hfinished
      have hchild {child : Node} (hchild : child ∈ node.children) : Canonical child.describe :=
        ih child hchild (hchildren child hchild)
      cases node with
      | primitive type => exact .primitive type
      | any => exact .any
      | slice element => exact .slice (hchild (List.mem_singleton_self element))
      | struct fields =>
          have htypes : ∀ entry ∈ fields.map fun entry => (entry.1, entry.2.map Node.describe),
              Canonical entry.2.type :=
            List.forall_mem_map.mpr fun entry hentry => hchild (List.mem_map_of_mem hentry)
          have hfields := Canonical.struct htypes
          rw [List.map_map] at hfields
          rw [Node.describe, Node.describeFields_eq_map]
          exact hfields
      | _ => simp [Node.isFinishedForm] at hform

/-- The trees of the types of fields make a struct. -/
theorem exists_struct_of_fields {fields : List (String × Field Json)}
    (h : ∀ entry ∈ fields, ∃ node : Node, node.IsFinished ∧ node.describe = entry.2.type) :
    ∃ trees : List (String × Field Node), (Node.struct trees).IsFinished ∧
      Node.describeFields trees = fields.map fun entry => (entry.1, ofField entry.2) := by
  induction fields with
  | nil => exact ⟨[], by simp, rfl⟩
  | cons entry rest ih =>
      rw [List.forall_mem_cons] at h
      obtain ⟨node, hnode, hdescribe⟩ := h.1
      obtain ⟨trees, htrees, hfields⟩ := ih h.2
      rw [Node.isFinished_struct_iff] at htrees
      refine ⟨(entry.1, ⟨node, entry.2.optional⟩) :: trees, ?_, ?_⟩
      · rw [Node.isFinished_struct_iff, List.forall_mem_cons]
        exact ⟨hnode, htrees⟩
      · rw [Node.describeFields, hfields, hdescribe]
        rfl

/-- The canonical descriptions are those that finished trees have. -/
theorem canonical_iff {json : Json} :
    Canonical json ↔ ∃ node : Node, node.IsFinished ∧ node.describe = json := by
  constructor
  · intro h
    induction h with
    | primitive type => exact ⟨.primitive type, Node.isFinished_primitive type, rfl⟩
    | any => exact ⟨.any, Node.isFinished_any, rfl⟩
    | slice _ ih =>
        obtain ⟨node, hnode, rfl⟩ := ih
        exact ⟨.slice node, Node.isFinished_slice_iff.mpr hnode, rfl⟩
    | struct _ ih =>
        obtain ⟨trees, htrees, hfields⟩ := exists_struct_of_fields ih
        exact ⟨.struct trees, htrees, by rw [Node.describe, hfields]⟩
  · rintro ⟨node, hnode, rfl⟩
    exact canonical_describe hnode

/-- A canonical description that is read as a tree is the description of that tree. -/
theorem Canonical.eq_describe {json : Json} (h : Canonical json) {room : Nat} {node : Node}
    (hread : read room (Spec.ofJson json) = .ok node) : json = node.describe := by
  obtain ⟨other, hother, rfl⟩ := canonical_iff.mp h
  cases read_describe hother room with
  | inl hsame =>
      rw [hsame, Except.ok.injEq] at hread
      rw [hread]
  | inr hdeep => simp [hdeep.2] at hread

end JsonShape.Description

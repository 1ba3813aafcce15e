import JsonShape.Proofs.Description.Level
import JsonShape.Proofs.Nesting

/-!
# Reading descriptions

What is read is a finished tree, and the description of a finished tree is read as
this tree.  Only nesting can prevent it: a description that nests more deeply than
there is room for is refused.
-/

set_option autoImplicit false

namespace JsonShape

namespace Spec

theorem ofMembers_eq_map (members : List (String × Json)) :
    ofMembers members = members.map fun member => (member.1, ofJson member.2) := by
  induction members with
  | nil => rfl
  | cons member rest ih => rw [ofMembers, ih, List.map_cons]

end Spec

/-- A field with another form of its type. -/
def Field.map {ν μ : Type} (f : ν → μ) (field : Field ν) : Field μ := ⟨f field.type, field.optional⟩

namespace Description

/-- The description of a field whose type is described. -/
def ofField (field : Field Json) : Json :=
  .obj (("of", field.type) :: if field.optional then [("optional", .bool true)] else [])

theorem fieldEntry_ofField (name : String) (field : Field Json) :
    fieldEntry name (Spec.ofJson (ofField field)) =
      .ok ⟨Spec.ofJson field.type, field.optional⟩ := by
  obtain ⟨type, optional⟩ := field
  cases optional <;> rfl

/-- A field is read by reading its type. -/
theorem readField_ofField (read : Spec → Except DescriptionError Node) (name : String)
    (field : Field Json) :
    readField read (name, Spec.ofJson (ofField field)) =
      (read (Spec.ofJson field.type)).map fun type => (name, ⟨type, field.optional⟩) := by
  simp only [readField, fieldEntry_ofField, bind, Except.bind]
  cases read (Spec.ofJson field.type) <;> rfl

end Description

open Description

namespace Node

theorem describeFields_eq_map (fields : List (String × Field Node)) :
    describeFields fields =
      fields.map fun entry => (entry.1, ofField (entry.2.map Node.describe)) := by
  induction fields with
  | nil => rfl
  | cons entry rest ih => rw [describeFields, ih, List.map_cons, ofField, Field.map]

end Node

namespace Description

/-! ## What is read -/

theorem readField_eq_ok_iff {read : Spec → Except DescriptionError Node}
    {entry : String × Spec} {field : String × Field Node} :
    readField read entry = .ok field ↔
      ∃ type optional, fieldEntry entry.1 entry.2 = .ok ⟨type, optional⟩ ∧
        read type = .ok field.2.type ∧ field = (entry.1, ⟨field.2.type, optional⟩) := by
  simp only [readField, bind_eq_ok_iff, pure_eq_ok_iff]
  constructor
  · rintro ⟨⟨type, optional⟩, hentry, tree, htree, rfl⟩
    exact ⟨type, optional, hentry, htree, rfl⟩
  · rintro ⟨type, optional, hentry, htree, hfield⟩
    exact ⟨_, hentry, _, htree, hfield.symm⟩

/-- What a description is read as, by its outermost level. -/
theorem read_eq_ok_iff {room : Nat} {description : Spec} {node : Node} :
    read room description = .ok node ↔
      layer description = .ok (.leaf node) ∨
      (∃ inner element other, room = inner + 1 ∧ layer description = .ok (.slice element) ∧
        read inner element = .ok other ∧ node = .slice other) ∨
      ∃ inner entries fields, room = inner + 1 ∧ layer description = .ok (.struct entries) ∧
        entries.mapM (readField (read inner)) = .ok fields ∧ node = .struct fields := by
  rw [read.eq_def]
  cases hlayer : layer description with
  | error error => simp
  | ok level =>
      cases level with
      | leaf other => simp
      | slice element => cases room <;> simp [eq_comm (a := node)]
      | struct entries => cases room <;> simp [eq_comm (a := node)]

/-- The trees for which no inner description is read. -/
theorem leaf_cases {description : Spec} {node : Node} (h : layer description = .ok (.leaf node)) :
    (∃ type, node = .primitive type) ∨ node = .any ∨ node = .struct [] := by
  obtain ⟨members, rfl, hlevel⟩ := layer_eq_ok_iff.mp h
  cases hlevel with
  | primitive type _ => exact .inl ⟨type, rfl⟩
  | any _ => exact .inr (.inl rfl)
  | empty _ _ => exact .inr (.inr rfl)

theorem isFinished_of_leaf {description : Spec} {node : Node}
    (h : layer description = .ok (.leaf node)) : node.IsFinished := by
  rcases leaf_cases h with ⟨type, rfl⟩ | rfl | rfl
  · exact Node.isFinished_primitive type
  · exact Node.isFinished_any
  · exact Node.isFinished_struct_iff.mpr (by simp)

/-- What is read is finished at every depth. -/
theorem isFinished_of_read {room : Nat} {description : Spec} {node : Node}
    (h : read room description = .ok node) : node.IsFinished := by
  induction room generalizing description node with
  | zero =>
      rcases read_eq_ok_iff.mp h with hleaf | ⟨_, _, _, hroom, -⟩ | ⟨_, _, _, hroom, -⟩
      · exact isFinished_of_leaf hleaf
      · cases hroom
      · cases hroom
  | succ room ih =>
      rcases read_eq_ok_iff.mp h with
        hleaf | ⟨_, element, other, hroom, -, hother, rfl⟩ |
          ⟨_, entries, fields, hroom, -, hfields, rfl⟩
      · exact isFinished_of_leaf hleaf
      · cases hroom
        exact Node.isFinished_slice_iff.mpr (ih hother)
      · cases hroom
        apply Node.isFinished_struct_iff.mpr
        intro field hfield
        obtain ⟨entry, -, hentry⟩ := exists_of_mem_mapM hfields hfield
        obtain ⟨type, -, -, htype, -⟩ := readField_eq_ok_iff.mp hentry
        exact ih htype

/-! ## Reading a description of a tree -/

theorem layer_describe_primitive (type : Primitive) :
    layer (Spec.ofJson (Node.primitive type).describe) = .ok (.leaf (.primitive type)) := by
  cases type <;> rfl

theorem layer_describe_any : layer (Spec.ofJson Node.any.describe) = .ok (.leaf .any) := rfl

theorem layer_describe_slice (element : Node) :
    layer (Spec.ofJson (Node.slice element).describe) =
      .ok (.slice (Spec.ofJson element.describe)) := rfl

theorem layer_describe_struct (fields : List (String × Field Node)) :
    layer (Spec.ofJson (Node.struct fields).describe) =
      match Spec.ofMembers (Node.describeFields fields) with
      | [] => .ok (.leaf (.struct []))
      | entries => .ok (.struct entries) := by
  cases fields <;> rfl

theorem read_describe_slice (room : Nat) (element : Node) :
    read (room + 1) (Spec.ofJson (Node.slice element).describe) =
      (read room (Spec.ofJson element.describe)).map .slice := by
  rw [read.eq_def, layer_describe_slice]

/-- A description of a struct is read field by field. -/
theorem read_describe_struct (room : Nat) (fields : List (String × Field Node)) :
    read (room + 1) (Spec.ofJson (Node.struct fields).describe) =
      (fields.mapM fun entry => (read room (Spec.ofJson entry.2.type.describe)).map
        fun type => (entry.1, ⟨type, entry.2.optional⟩)).map .struct := by
  have hentries : Spec.ofMembers (Node.describeFields fields) = fields.map fun entry =>
      (entry.1, Spec.ofJson (ofField (entry.2.map Node.describe))) := by
    rw [Spec.ofMembers_eq_map, Node.describeFields_eq_map, List.map_map]
    rfl
  have hread : (readField (read room) ∘ fun entry : String × Field Node =>
      (entry.1, Spec.ofJson (ofField (entry.2.map Node.describe)))) =
        fun entry => (read room (Spec.ofJson entry.2.type.describe)).map
          fun type => (entry.1, ⟨type, entry.2.optional⟩) := by
    funext entry
    exact readField_ofField _ _ _
  rw [read.eq_def, layer_describe_struct, hentries, ← hread, ← List.mapM_map]
  cases fields <;> rfl

/-- A described struct is read back if the types of its fields are. -/
theorem read_describe_struct_eq_ok {room : Nat} {fields : List (String × Field Node)}
    (h : ∀ entry ∈ fields, read room (Spec.ofJson entry.2.type.describe) = .ok entry.2.type) :
    read (room + 1) (Spec.ofJson (Node.struct fields).describe) = .ok (.struct fields) := by
  rw [read_describe_struct, mapM_eq_ok_map fun entry hentry => by rw [h entry hentry]; rfl]
  exact congrArg (Except.ok ∘ Node.struct) (List.map_id fields)

theorem read_describe_of_leaf {description : Spec} {node : Node}
    (h : layer description = .ok (.leaf node)) (room : Nat) :
    read room (Spec.ofJson node.describe) = .ok node := by
  rcases leaf_cases h with ⟨type, rfl⟩ | rfl | rfl
  · rw [read.eq_def, layer_describe_primitive]
  · rw [read.eq_def, layer_describe_any]
  · rw [read.eq_def, layer_describe_struct]
    rfl

/-- The description of what was read is read as the same tree. -/
theorem read_describe_of_read {room : Nat} {description : Spec} {node : Node}
    (h : read room description = .ok node) : read room (Spec.ofJson node.describe) = .ok node := by
  induction room generalizing description node with
  | zero =>
      rcases read_eq_ok_iff.mp h with hleaf | ⟨_, _, _, hroom, -⟩ | ⟨_, _, _, hroom, -⟩
      · exact read_describe_of_leaf hleaf 0
      · cases hroom
      · cases hroom
  | succ room ih =>
      rcases read_eq_ok_iff.mp h with
        hleaf | ⟨_, element, other, hroom, -, hother, rfl⟩ |
        ⟨_, entries, fields, hroom, -, hfields, rfl⟩
      · exact read_describe_of_leaf hleaf (room + 1)
      · cases hroom
        rw [read_describe_slice, ih hother]
        rfl
      · cases hroom
        apply read_describe_struct_eq_ok
        intro field hfield
        obtain ⟨entry, -, hentry⟩ := exists_of_mem_mapM hfields hfield
        obtain ⟨type, -, -, htype, -⟩ := readField_eq_ok_iff.mp hentry
        exact ih htype

/-- The description of a struct nests too deeply only when that of a field's type does. -/
theorem read_describe_struct_cases {room : Nat} {fields : List (String × Field Node)}
    (h : ∀ entry ∈ fields,
      read room (Spec.ofJson entry.2.type.describe) = .ok entry.2.type ∨
        room < entry.2.type.depth ∧
          read room (Spec.ofJson entry.2.type.describe) = .error .tooDeep) :
    read (room + 1) (Spec.ofJson (Node.struct fields).describe) = .ok (.struct fields) ∨
      room < Node.fieldsDepth fields ∧
        read (room + 1) (Spec.ofJson (Node.struct fields).describe) = .error .tooDeep := by
  have hsteps : ∀ entry ∈ fields,
      (read room (Spec.ofJson entry.2.type.describe)).map
          (fun type => (entry.1, (⟨type, entry.2.optional⟩ : Field Node))) = pure entry ∨
        ∃ error, (room < Node.fieldsDepth fields ∧ error = .tooDeep) ∧
          (read room (Spec.ofJson entry.2.type.describe)).map
            (fun type => (entry.1, (⟨type, entry.2.optional⟩ : Field Node))) =
              .error error := by
    intro entry hentry
    cases h entry hentry with
    | inl hread => exact .inl (by rw [hread]; rfl)
    | inr hdeep =>
        have hdepth : entry.2.type.depth ≤ Node.fieldsDepth fields :=
          Node.fieldsDepth_le_iff.mp (Nat.le_refl _) entry hentry
        exact .inr ⟨.tooDeep, ⟨Nat.lt_of_lt_of_le hdeep.1 hdepth, rfl⟩,
          map_eq_error_iff.mpr hdeep.2⟩
  rw [read_describe_struct]
  cases mapM_eq_or_fails hsteps with
  | inl hfields =>
      apply Or.inl
      rw [hfields, List.mapM_pure, List.map_id']
      rfl
  | inr hdeep =>
      obtain ⟨_, ⟨hdepth, rfl⟩, herror⟩ := hdeep
      exact .inr ⟨hdepth, map_eq_error_iff.mpr herror⟩

/-- The description of a finished tree is read as this tree, or it nests too deeply. -/
theorem read_describe {node : Node} (hfinished : node.IsFinished) (room : Nat) :
    read room (Spec.ofJson node.describe) = .ok node ∨
      room < node.depth ∧ read room (Spec.ofJson node.describe) = .error .tooDeep := by
  induction node using Node.induction_on_children generalizing room with
  | step node ih =>
      obtain ⟨hform, hchildren⟩ := Node.isFinished_iff.mp hfinished
      have hchild {child : Node} (hchild : child ∈ node.children) (room : Nat) :=
        ih child hchild (hchildren child hchild) room
      cases node with
      | primitive type => exact .inl (read_describe_of_leaf (layer_describe_primitive type) room)
      | any => exact .inl (read_describe_of_leaf layer_describe_any room)
      | slice element =>
          rw [Node.depth]
          cases room with
          | zero =>
              refine .inr ⟨Nat.succ_pos _, ?_⟩
              rw [read.eq_def, layer_describe_slice]
          | succ room =>
              rw [read_describe_slice, Nat.add_lt_add_iff_right]
              cases hchild (List.mem_singleton_self element) room with
              | inl hread => exact .inl (map_eq_ok_iff.mpr ⟨element, hread, rfl⟩)
              | inr hdeep => exact .inr ⟨hdeep.1, map_eq_error_iff.mpr hdeep.2⟩
      | struct fields =>
          rw [Node.depth]
          cases room with
          | zero =>
              rw [read.eq_def, layer_describe_struct]
              cases fields with
              | nil => exact .inl rfl
              | cons entry rest => exact .inr ⟨Nat.succ_pos _, rfl⟩
          | succ room =>
              rw [Nat.add_lt_add_iff_right]
              exact read_describe_struct_cases fun entry hentry =>
                hchild (List.mem_map_of_mem hentry) room
      | _ => simp [Node.isFinishedForm] at hform

end Description

end JsonShape

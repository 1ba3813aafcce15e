import JsonShape.Node.Basic
import Mathlib.Logic.Basic

/-!
# Finished trees

Slices and structs lead down to the trees of their elements and fields, and all
other nodes are leaves.  A tree is finished when nothing that is met on the way
down is a raw node.
-/

set_option autoImplicit false

namespace JsonShape.Node

/-- The trees directly below a finished slice or struct. -/
def children : Node → List Node
  | slice element => [element]
  | struct fields => fields.map fun entry => entry.2.type
  | _ => []

/-- What is met going down from a tree through finished slices and structs. -/
inductive Within (part : Node) : Node → Prop
  | root : Within part part
  | child {node child : Node} (hchild : child ∈ node.children) (h : Within part child) :
      Within part node

/-- Whether only finished nodes are met. -/
def IsFinished (node : Node) : Prop := ∀ part : Node, part.Within node → part.isFinishedForm = true

/-- Whether a struct at any depth has a field under a name. -/
def HasField (node : Node) (name : String) (field : Field Node) : Prop :=
  ∃ fields, (struct fields).Within node ∧ (name, field) ∈ fields

theorem sizeOf_child_lt {node child : Node} (h : child ∈ node.children) :
    sizeOf child < sizeOf node := by
  cases node with
  | slice element =>
      rw [children, List.mem_singleton] at h
      simp [h]
  | struct fields =>
      obtain ⟨⟨name, type, optional⟩, hentry, rfl⟩ := List.mem_map.mp h
      have hsize := List.sizeOf_lt_of_mem hentry
      simp only [Prod.mk.sizeOf_spec, Field.mk.sizeOf_spec, struct.sizeOf_spec] at hsize ⊢
      omega
  | _ => simp [children] at h

/-- What holds of a tree when it holds of its children holds of every tree. -/
@[elab_as_elim]
theorem induction_on_children {motive : Node → Prop} (node : Node)
    (step : ∀ node, (∀ child ∈ node.children, motive child) → motive node) : motive node :=
  step node fun child _ => induction_on_children child step
termination_by sizeOf node
decreasing_by exact sizeOf_child_lt ‹_›

theorem within_iff {part node : Node} :
    part.Within node ↔ part = node ∨ ∃ child ∈ node.children, part.Within child := by
  constructor
  · intro h
    cases h with
    | root => exact .inl rfl
    | child hchild h => exact .inr ⟨_, hchild, h⟩
  · rintro (rfl | ⟨child, hchild, h⟩)
    · exact .root
    · exact .child hchild h

theorem isFinished_iff {node : Node} :
    node.IsFinished ↔ node.isFinishedForm = true ∧ ∀ child ∈ node.children, child.IsFinished := by
  constructor
  · intro h
    exact ⟨h node .root, fun child hchild part hpart => h part (.child hchild hpart)⟩
  · rintro ⟨hroot, hchildren⟩ part hpart
    rcases within_iff.mp hpart with rfl | ⟨child, hchild, hpart⟩
    · exact hroot
    · exact hchildren child hchild part hpart

/-! ## Form by form -/

variable {name : String} {field : Field Node} {element : Node}
  {fields : List (String × Field Node)}

@[simp]
theorem isFinished_primitive (type : Primitive) : (primitive type).IsFinished :=
  isFinished_iff.mpr ⟨rfl, by simp [children]⟩

@[simp]
theorem isFinished_any : any.IsFinished :=
  isFinished_iff.mpr ⟨rfl, by simp [children]⟩

@[simp]
theorem isFinished_slice_iff : (slice element).IsFinished ↔ element.IsFinished := by
  rw [isFinished_iff]
  simp [isFinishedForm, children]

@[simp]
theorem isFinished_struct_iff :
    (struct fields).IsFinished ↔ ∀ entry ∈ fields, entry.2.type.IsFinished := by
  rw [isFinished_iff, children, List.forall_mem_map]
  simp [isFinishedForm]

theorem HasField.of_mem (h : (name, field) ∈ fields) : (struct fields).HasField name field :=
  ⟨fields, .root, h⟩

theorem HasField.of_child {node child : Node} (hchild : child ∈ node.children)
    (h : child.HasField name field) : node.HasField name field := by
  obtain ⟨fields, hwithin, hfield⟩ := h
  exact ⟨fields, .child hchild hwithin, hfield⟩

theorem hasField_iff {node : Node} :
    node.HasField name field ↔
      (∃ fields, node = struct fields ∧ (name, field) ∈ fields) ∨
        ∃ child ∈ node.children, child.HasField name field := by
  constructor
  · rintro ⟨fields, hwithin, hfield⟩
    rcases within_iff.mp hwithin with rfl | ⟨child, hchild, hwithin⟩
    · exact .inl ⟨fields, rfl, hfield⟩
    · exact .inr ⟨child, hchild, fields, hwithin, hfield⟩
  · rintro (⟨fields, rfl, hfield⟩ | ⟨child, hchild, hfield⟩)
    · exact .of_mem hfield
    · exact .of_child hchild hfield

@[simp]
theorem not_hasField_primitive (type : Primitive) : ¬(primitive type).HasField name field := by
  rw [hasField_iff]
  simp [children]

@[simp]
theorem not_hasField_any : ¬any.HasField name field := by
  rw [hasField_iff]
  simp [children]

@[simp]
theorem hasField_slice_iff : (slice element).HasField name field ↔ element.HasField name field := by
  rw [hasField_iff]
  simp [children]

@[simp]
theorem hasField_struct_iff :
    (struct fields).HasField name field ↔
      (name, field) ∈ fields ∨ ∃ entry ∈ fields, entry.2.type.HasField name field := by
  rw [hasField_iff, children]
  simp only [struct.injEq, exists_eq_left', List.mem_map, exists_exists_and_eq_and]

/-! ## The search for a kind -/

theorem anyFieldContains_iff {kind : Kind} :
    anyFieldContains kind fields = true ↔
      ∃ child ∈ (struct fields).children, child.contains kind := by
  rw [children]
  induction fields with
  | nil => simp [anyFieldContains]
  | cons entry rest ih => simp [anyFieldContains, ih]

theorem contains_step_iff {kind : Kind} {node : Node} :
    node.contains kind = true ↔
      node.kind = kind ∨ ∃ child ∈ node.children, child.contains kind := by
  cases node with
  | struct fields => rw [contains, Bool.or_eq_true, beq_iff_eq, ← anyFieldContains_iff]
  | _ => simp [contains, children]

/-- The search for a kind visits all that is met going down. -/
theorem contains_iff {kind : Kind} {node : Node} :
    node.contains kind = true ↔ ∃ part : Node, part.Within node ∧ part.kind = kind := by
  induction node using induction_on_children with
  | step node ih =>
      rw [contains_step_iff]
      constructor
      · rintro (hkind | ⟨child, hchild, h⟩)
        · exact ⟨node, .root, hkind⟩
        · obtain ⟨part, hpart, hkind⟩ := (ih child hchild).mp h
          exact ⟨part, .child hchild hpart, hkind⟩
      · rintro ⟨part, hpart, hkind⟩
        rcases within_iff.mp hpart with rfl | ⟨child, hchild, hpart⟩
        · exact .inl hkind
        · exact .inr ⟨child, hchild, (ih child hchild).mpr ⟨part, hpart, hkind⟩⟩

theorem contains_any_iff {node : Node} : node.contains .any = true ↔ any.Within node := by
  rw [contains_iff]
  constructor
  · rintro ⟨part, hpart, hkind⟩
    cases part <;> simp [kind] at hkind
    exact hpart
  · intro h
    exact ⟨any, h, rfl⟩

instance (node : Node) : Decidable (any.Within node) :=
  decidable_of_iff (node.contains .any) contains_any_iff

end JsonShape.Node

import JsonShape.Description
import JsonShape.Proofs.Finished
import JsonShape.Proofs.Inference.Alternatives
import JsonShape.Proofs.Traversal

/-!
# Nesting

The depth of a tree counts the slices and structs, raw or finished, on the longest
way into it.  A union adds nothing to the depth of its alternatives, so opening it
up makes nothing deeper.  The depth of a specification value counts its lists and
objects; a tree that stands in it is a leaf.
-/

set_option autoImplicit false

namespace JsonShape

namespace Node

mutual

/-- The number of slices and structs on the longest way into a tree. -/
def depth : Node → Nat
  | slice element | rawSlice element => element.depth + 1
  | struct fields => fieldsDepth fields + 1
  | rawStruct fields => entriesDepth fields + 1
  | union nodes => allDepth nodes
  | primitive _ | any | ignore => 0

def fieldsDepth : List (String × Field Node) → Nat
  | [] => 0
  | (_, ⟨type, _⟩) :: rest => max type.depth (fieldsDepth rest)

def entriesDepth : List (String × Node) → Nat
  | [] => 0
  | (_, node) :: rest => max node.depth (entriesDepth rest)

def allDepth : List Node → Nat
  | [] => 0
  | node :: rest => max node.depth (allDepth rest)

end

theorem fieldsDepth_le_iff {fields : List (String × Field Node)} {room : Nat} :
    fieldsDepth fields ≤ room ↔ ∀ entry ∈ fields, entry.2.type.depth ≤ room := by
  induction fields with
  | nil => simp [fieldsDepth]
  | cons entry rest ih => rw [fieldsDepth, Nat.max_le, ih, List.forall_mem_cons]

theorem entriesDepth_le_iff {fields : List (String × Node)} {room : Nat} :
    entriesDepth fields ≤ room ↔ ∀ entry ∈ fields, entry.2.depth ≤ room := by
  induction fields with
  | nil => simp [entriesDepth]
  | cons entry rest ih => rw [entriesDepth, Nat.max_le, ih, List.forall_mem_cons]

theorem allDepth_le_iff {nodes : List Node} {room : Nat} :
    allDepth nodes ≤ room ↔ ∀ node ∈ nodes, node.depth ≤ room := by
  induction nodes with
  | nil => simp [allDepth]
  | cons node rest ih => rw [allDepth, Nat.max_le, ih, List.forall_mem_cons]

theorem describedFieldsDepth_le_iff {fields : List (String × Field Node)} {room : Nat} :
    describedFieldsDepth fields ≤ room ↔ ∀ entry ∈ fields, entry.2.type.describedDepth ≤ room := by
  induction fields with
  | nil => simp [describedFieldsDepth]
  | cons entry rest ih => rw [describedFieldsDepth, Nat.max_le, ih, List.forall_mem_cons]

mutual

theorem depth_le_of_mem_alternatives {node alternative : Node}
    (h : alternative ∈ node.alternatives) : alternative.depth ≤ node.depth := by
  match node with
  | union nodes =>
      rw [alternatives] at h
      rw [depth]
      exact depth_le_of_mem_flatten h
  | primitive _ | any | ignore | slice _ | struct _ | rawSlice _ | rawStruct _ =>
      simp only [alternatives, List.mem_singleton] at h
      exact Nat.le_of_eq (congrArg depth h)

/-- Opening up unions makes nothing deeper. -/
theorem depth_le_of_mem_flatten {nodes : List Node} {alternative : Node}
    (h : alternative ∈ flatten nodes) : alternative.depth ≤ allDepth nodes := by
  match nodes with
  | [] => simp [flatten] at h
  | node :: rest =>
      rw [flatten, List.mem_append] at h
      rw [allDepth]
      cases h with
      | inl hnode =>
          exact Nat.le_trans (depth_le_of_mem_alternatives hnode) (Nat.le_max_left _ _)
      | inr hrest => exact Nat.le_trans (depth_le_of_mem_flatten hrest) (Nat.le_max_right _ _)

end

/-- What adds a number of levels at most for each slice and each struct is bounded by the
depth times that number. -/
theorem le_mul_depth {measure : Node → Nat} {levels : Nat}
    (hslice : ∀ element, measure (slice element) ≤ measure element + levels)
    (hstruct : ∀ fields room, (∀ entry ∈ fields, measure entry.2.type ≤ room) →
      measure (struct fields) ≤ room + levels)
    (hleaf : ∀ node : Node, (∀ element, node ≠ slice element) → (∀ fields, node ≠ struct fields) →
      measure node = 0) (node : Node) : measure node ≤ levels * node.depth := by
  induction node using induction_on_children with
  | step node ih =>
      cases node with
      | slice element =>
          rw [depth, Nat.mul_succ]
          have helement := ih element (List.mem_singleton_self element)
          exact Nat.le_trans (hslice element) (Nat.add_le_add_right helement levels)
      | struct fields =>
          rw [depth, Nat.mul_succ]
          refine hstruct fields _ fun entry hentry => ?_
          have hdepth := fieldsDepth_le_iff.mp (Nat.le_refl _) entry hentry
          exact Nat.le_trans (ih _ (List.mem_map_of_mem hentry)) (Nat.mul_le_mul_left levels hdepth)
      | _ =>
          rw [hleaf _ (by simp) (by simp)]
          exact Nat.zero_le _

theorem describedDepth_le (node : Node) : node.describedDepth ≤ 3 * node.depth := by
  refine le_mul_depth ?_ ?_ ?_ node
  · intro element
    exact Nat.add_le_add_left (by decide) _
  · intro fields room hfields
    exact Nat.add_le_add_right (describedFieldsDepth_le_iff.mpr hfields) 3
  · intro node hslice hstruct
    cases node <;> simp_all [describedDepth]

end Node

namespace Spec

mutual

/-- The number of lists and objects on the longest way into a specification value. -/
def depth : Spec → Nat
  | arr items => itemsDepth items + 1
  | obj members => membersDepth members + 1
  | _ => 0

def itemsDepth : List Spec → Nat
  | [] => 0
  | item :: rest => max item.depth (itemsDepth rest)

def membersDepth : List (String × Spec) → Nat
  | [] => 0
  | (_, value) :: rest => max value.depth (membersDepth rest)

end

theorem membersDepth_le_iff {members : List (String × Spec)} {room : Nat} :
    membersDepth members ≤ room ↔ ∀ member ∈ members, member.2.depth ≤ room := by
  induction members with
  | nil => simp [membersDepth]
  | cons member rest ih => rw [membersDepth, Nat.max_le, ih, List.forall_mem_cons]

theorem depth_lt_of_mem {name : String} {value : Spec} {members : List (String × Spec)}
    (h : (name, value) ∈ members) : value.depth < (obj members).depth := by
  rw [depth, Nat.lt_succ_iff]
  exact membersDepth_le_iff.mp (Nat.le_refl _) _ h

/-- What is found in an object nests less deeply than the object. -/
theorem depth_lt_of_lookup {name : String} {value : Spec} {members : List (String × Spec)}
    (h : members.lookup name = some value) : value.depth < (obj members).depth :=
  depth_lt_of_mem (mem_of_lookup_eq_some h)

end Spec

end JsonShape

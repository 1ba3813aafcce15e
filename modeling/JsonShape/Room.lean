/-!
# Room for nested values

The steps of a run follow nested values by recursion, and go only as deep as the
machine lets them.  How deep that is depends on the machine and on what its stack
holds already, so it is left open here: a step that runs out of room fails.
-/

set_option autoImplicit false

namespace JsonShape

/-- How deep each step may go. -/
class Room where
  /-- The greatest number of containers that may be open at once in a text. -/
  text : Nat
  /-- The longest way of a search, through the parts of a pattern and through
  directories. -/
  search : Nat
  /-- The number of containers that may lie around a value that is classified. -/
  classification : Nat
  /-- The number of containers that may lie around a place that is unified. -/
  unification : Nat
  /-- The deepest nesting of a selection, in which a struct counts for three levels. -/
  selection : Nat
  /-- The deepest nesting of a description that is written or read. -/
  description : Nat
  /-- The deepest nesting of a description that is printed. -/
  printing : Nat
  /-- The deepest nesting of a type's text that is written. -/
  declaration : Nat
  classification_pos : 0 < classification
  /-- What is classified is also unified. -/
  classification_le_unification : classification ≤ unification
  /-- What is unified can be forced on a field. -/
  unification_add_le_selection : unification + 3 ≤ selection
  /-- Forced types are read within a selection. -/
  selection_le_description : selection ≤ description

/-- The room on a stack of a thousand calls. -/
instance (priority := low) Room.usual : Room where
  text := 990
  search := 960
  classification := 480
  unification := 480
  selection := 960
  description := 960
  printing := 958
  declaration := 960
  classification_pos := by decide
  classification_le_unification := by decide
  unification_add_le_selection := by decide
  selection_le_description := by decide

theorem Room.three_le_selection [Room] : 3 ≤ Room.selection :=
  Nat.le_trans (Nat.le_add_left 3 _) Room.unification_add_le_selection

end JsonShape

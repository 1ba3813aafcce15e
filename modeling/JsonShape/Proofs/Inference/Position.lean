import JsonShape.Proofs.Inference.Observation

/-!
# Positions

A position leads from the root of a type to a part of it, through fields and
slice elements.  The documents supply the values that the same steps lead to:
what is present under a field's name, or all items.
-/

set_option autoImplicit false

namespace JsonShape

inductive Step where
  | field (name : String)
  | item
  deriving DecidableEq, Repr

abbrev Position := List Step

/-- The part of a type at a position, if there is one. -/
def Node.at? : Position → Node → Option Node
  | [], node => some node
  | .field name :: rest, .struct fields =>
    (fields.lookup name).bind fun field => Node.at? rest field.type
  | .item :: rest, .slice element => Node.at? rest element
  | _, _ => none

namespace Inference

/-- The values that some documents supply at a position. -/
def suppliedAt : Position → List Json → List Json
  | [], values => values
  | .field name :: rest, values => suppliedAt rest (presentUnder name values)
  | .item :: rest, values => suppliedAt rest (itemsOf values)

end Inference

@[simp]
theorem Node.at?_nil (node : Node) : node.at? [] = some node := by
  rw [at?]

@[simp]
theorem Node.at?_item (element : Node) (rest : Position) :
    (Node.slice element).at? (.item :: rest) = element.at? rest := by
  rw [at?]

theorem Node.at?_field {name : String} {field : Field Node} {fields : List (String × Field Node)}
    (hfield : fields.lookup name = some field) (rest : Position) :
    (Node.struct fields).at? (.field name :: rest) = field.type.at? rest := by
  rw [at?, hfield, Option.bind_some]

end JsonShape

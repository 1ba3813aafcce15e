import JsonShape.Json.Basic
import JsonShape.Node.Basic
import JsonShape.Number.Decimal
import JsonShape.Room

/-!
# Classification of documents

A document becomes a raw tree of its own shape.  An array keeps the shapes of
its items as an unresolved union, and null is kept as a marker, because what
they mean is only decided when all documents are known.
-/

set_option autoImplicit false

namespace JsonShape

inductive ClassifyError where
  | nonFinite (value : Binary64)
  | unsupported (typeName text : String)
  | tooDeep
  deriving DecidableEq, Repr

namespace ClassifyError

def message : ClassifyError → String
  | nonFinite value =>
    String.join ["Cannot infer a type for non-finite number ", NumberStyle.message.text value]
  | unsupported typeName text =>
    String.join ["Cannot infer a type for value of type ", typeName, ": ", text]
  | tooDeep => "Document is nested too deeply to infer a type"

end ClassifyError

/-- A number is an integer when its value is one, however it is written. -/
def classifyNumber (value : Binary64) : Except ClassifyError Node :=
  if value.isFinite then .ok (if value.isIntegral then .int else .float)
  else .error (.nonFinite value)

/-- The raw tree of a value that at most `room` containers nest in. -/
def classifyWithin (room : Nat) (value : Json) : Except ClassifyError Node :=
  match room, value with
  | _, .null => .ok .ignore
  | _, .bool _ => .ok .bool
  | _, .int _ => .ok .int
  | _, .float value => classifyNumber value
  | _, .str _ => .ok .string
  | 0, .arr _ | 0, .obj _ => .error .tooDeep
  | room + 1, .arr items => do
    let nodes ← items.mapM (classifyWithin room)
    pure (.rawSlice (.union (Node.flatten nodes)))
  | room + 1, .obj members => do
    let fields ← members.mapM fun (name, item) => do pure (name, ← classifyWithin room item)
    pure (.rawStruct fields)

/-- The raw tree of a document. -/
def classify [Room] (value : Json) : Except ClassifyError Node :=
  classifyWithin Room.classification value

end JsonShape

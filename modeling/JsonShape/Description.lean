import JsonShape.Room
import JsonShape.Spec

/-!
# Descriptions of types

A finished tree has a description, an object with the name of its kind, the
description of a slice's elements under `of`, and of a struct's fields under
`fields`.  A description may leave out what has a default: without a type it
describes a struct, without fields an empty one, and a field is required unless
it says otherwise.
-/

set_option autoImplicit false

namespace JsonShape

namespace Node

mutual

/-- The description of a finished tree.  Unfinished nodes have no parts in it. -/
def describe : Node → Json
  | slice element => .obj [("type", .str "slice"), ("of", describe element)]
  | struct fields => .obj [("type", .str "struct"), ("fields", .obj (describeFields fields))]
  | node => .obj [("type", .str node.kind.name)]

def describeFields : List (String × Field Node) → List (String × Json)
  | [] => []
  | (name, ⟨type, optional⟩) :: rest =>
    (name, .obj (("of", describe type) :: if optional then [("optional", .bool true)] else []))
      :: describeFields rest

end

mutual

/-- The nesting of a description, in which a struct counts for three levels: its
own, that of its fields and that of the field. -/
def describedDepth : Node → Nat
  | slice element => describedDepth element + 1
  | struct fields => describedFieldsDepth fields + 3
  | _ => 0

def describedFieldsDepth : List (String × Field Node) → Nat
  | [] => 0
  | (_, ⟨type, _⟩) :: rest => max (describedDepth type) (describedFieldsDepth rest)

end

/-- The description of a finished tree, unless it would nest too deeply. -/
def describe? [Room] (node : Node) : Option Json :=
  if node.describedDepth ≤ Room.description then some node.describe else none

end Node

inductive DescriptionError where
  | notObject (typeName : String)
  | unknownType (text : String)
  | unfinished (name : String)
  | elementMissing
  | fieldsNotObject
  | fieldTypeMissing (name : String)
  | tooDeep
  deriving DecidableEq, Repr

namespace DescriptionError

def message : DescriptionError → String
  | notObject typeName => String.join ["IR type must be an object, got ", typeName]
  | unknownType text => String.join ["Unknown IR type '", text, "'"]
  | unfinished name => String.join ["IR type '", name, "' cannot be used in a finished IR"]
  | elementMissing => "IR slice type requires 'of'"
  | fieldsNotObject => "IR struct 'fields' must be an object"
  | fieldTypeMissing name => String.join ["IR struct field '", name, "' requires 'of'"]
  | tooDeep => "The description is nested too deeply"

end DescriptionError

namespace Description

/-- The kind that a description names; a false value stands for a struct. -/
def kindOf (members : List (String × Spec)) : Except DescriptionError Kind :=
  match members.lookup "type" with
  | none => .ok .struct
  | some type =>
    if type.isFalsy then .ok .struct
    else
      match type with
      | .str name =>
        match Kind.ofName? name with
        | some kind => .ok kind
        | none => .error (.unknownType name)
      | type => .error (.unknownType type.plainText)

/-- The entries under `fields`; a false value stands for none. -/
def fieldEntries (members : List (String × Spec)) :
    Except DescriptionError (List (String × Spec)) :=
  match members.lookup "fields" with
  | none => .ok []
  | some (.obj entries) => .ok entries
  | some value => if value.isFalsy then .ok [] else .error .fieldsNotObject

/-- A field's type description, and whether the field is optional. -/
def fieldEntry (name : String) (entry : Spec) : Except DescriptionError (Field Spec) :=
  match entry with
  | .obj members =>
    match members.lookup "of" with
    | some type => .ok ⟨type, ((members.lookup "optional").map Spec.isTruthy).getD false⟩
    | none => .error (.fieldTypeMissing name)
  | _ => .error (.fieldTypeMissing name)

/-- The outermost level of a description, with the descriptions inside it. -/
inductive Layer where
  | leaf (node : Node)
  | slice (element : Spec)
  | struct (entries : List (String × Spec))

/-- The outermost level of a description of the given kind. -/
def layerOf (members : List (String × Spec)) : Kind → Except DescriptionError Layer
  | .primitive type => .ok (.leaf (.primitive type))
  | .any => .ok (.leaf .any)
  | .union => .error (.unfinished Kind.union.name)
  | .ignore => .error (.unfinished Kind.ignore.name)
  | .slice =>
    match members.lookup "of" with
    | some element => .ok (.slice element)
    | none => .error .elementMissing
  | .struct =>
    match fieldEntries members with
    | .ok [] => .ok (.leaf (.struct []))
    | .ok entries => .ok (.struct entries)
    | .error error => .error error

/-- The outermost level of a description. -/
def layer (description : Spec) : Except DescriptionError Layer :=
  match description with
  | .obj members => kindOf members >>= layerOf members
  | value => .error (.notObject value.typeName)

/-- A field from its entry; `read` gives the tree that a description describes. -/
def readField (read : Spec → Except DescriptionError Node) (entry : String × Spec) :
    Except DescriptionError (String × Field Node) := do
  let field ← fieldEntry entry.1 entry.2
  let type ← read field.type
  pure (entry.1, ⟨type, field.optional⟩)

/-- The tree that a description nested at most `room` deep describes. -/
def read (room : Nat) (description : Spec) : Except DescriptionError Node :=
  match room, layer description with
  | _, .error error => .error error
  | _, .ok (.leaf node) => .ok node
  | 0, .ok _ => .error .tooDeep
  | room + 1, .ok (.slice element) => (read room element).map .slice
  | room + 1, .ok (.struct entries) => (entries.mapM (readField (read room))).map .struct

end Description

/-- The finished tree that a description describes. -/
def Node.ofDescription [Room] (description : Spec) : Except DescriptionError Node :=
  Description.read Room.description description

end JsonShape

import JsonShape.Text.Quoted

/-!
# Type trees

A tree describes the values found at one place of the documents.  Two families
share the leaves: finished trees, made of slices and structs whose fields are
marked optional or required, and raw trees, which also hold unresolved unions
and markers for observed nulls.  Mixed trees can be written down, so every
operation says what it does with a node of the other family.
-/

set_option autoImplicit false

namespace JsonShape

inductive Primitive where
  | bool
  | string
  | int
  | float
  deriving DecidableEq, Repr, Inhabited

/-- What a node describes, whichever family it belongs to. -/
inductive Kind where
  | primitive (type : Primitive)
  | any
  | struct
  | slice
  | union
  | ignore
  deriving DecidableEq, Repr, Inhabited

/-- A field's type, and whether documents may lack the field. -/
structure Field (ν : Type) where
  type : ν
  optional : Bool
  deriving Repr

inductive Node where
  | primitive (type : Primitive)
  /-- Nothing is known, or the documents disagree. -/
  | any
  /-- A null was observed. -/
  | ignore
  | slice (element : Node)
  | struct (fields : List (String × Field Node))
  | rawSlice (element : Node)
  | rawStruct (fields : List (String × Node))
  /-- Alternatives for the same place, not yet merged. -/
  | union (alternatives : List Node)
  deriving Repr, Inhabited

namespace Primitive

def name : Primitive → String
  | bool => "bool"
  | string => "string"
  | int => "int"
  | float => "float"

end Primitive

namespace Kind

def name : Kind → String
  | primitive type => type.name
  | any => "any"
  | struct => "struct"
  | slice => "slice"
  | union => "union"
  | ignore => "ignore"

/-- The name of a kind as a constant in messages. -/
def constant : Kind → String
  | primitive .bool => "BOOL"
  | primitive .string => "STRING"
  | primitive .int => "INT"
  | primitive .float => "FLOAT"
  | any => "ANY"
  | struct => "STRUCT"
  | slice => "SLICE"
  | union => "UNION"
  | ignore => "IGNORE"

def all : List Kind :=
  [primitive .bool, primitive .string, primitive .int, primitive .float, any, struct, slice,
   union, ignore]

def ofName? (name : String) : Option Kind := all.find? (·.name == name)

theorem ofName?_name (kind : Kind) : ofName? kind.name = some kind := by
  rcases kind with ⟨_ | _ | _ | _⟩ | _ | _ | _ | _ | _ <;> decide

end Kind

namespace Node

def bool : Node := primitive .bool

def string : Node := primitive .string

def int : Node := primitive .int

def float : Node := primitive .float

def kind : Node → Kind
  | primitive type => .primitive type
  | any => .any
  | ignore => .ignore
  | slice _ | rawSlice _ => .slice
  | struct _ | rawStruct _ => .struct
  | union _ => .union

/-- The name of a node's form in messages. -/
def typeName : Node → String
  | primitive _ => "PrimitiveType"
  | any => "AnyType"
  | ignore => "IgnoreType"
  | slice _ => "SliceType"
  | struct _ => "StructType"
  | rawSlice _ => "RawSlice"
  | rawStruct _ => "RawStruct"
  | union _ => "UnionType"

/-- Whether the node itself, at its root, is one of a finished tree. -/
def isFinishedForm : Node → Bool
  | primitive _ | any | slice _ | struct _ => true
  | _ => false

def isIgnore : Node → Bool
  | ignore => true
  | _ => false

mutual

/-- The alternatives that a node stands for, unions of unions opened up. -/
def alternatives : Node → List Node
  | union nodes => flatten nodes
  | node => [node]

/-- The alternatives of all the nodes, in order. -/
def flatten : List Node → List Node
  | [] => []
  | node :: rest => node.alternatives ++ flatten rest

end

@[simp]
theorem flatten_append (left right : List Node) :
    flatten (left ++ right) = flatten left ++ flatten right := by
  induction left with
  | nil => simp [flatten]
  | cons node rest ih => simp [flatten, ih]

mutual

theorem flatten_alternatives (node : Node) : flatten node.alternatives = node.alternatives := by
  match node with
  | union nodes => simp [alternatives, flatten_flatten nodes]
  | primitive _ | any | ignore | slice _ | struct _ | rawSlice _ | rawStruct _ =>
    simp [alternatives, flatten]

/-- What has been opened up holds no union any more. -/
theorem flatten_flatten (nodes : List Node) : flatten (flatten nodes) = flatten nodes := by
  match nodes with
  | [] => simp [flatten]
  | node :: rest => simp [flatten, flatten_alternatives node, flatten_flatten rest]

end

mutual

/-- Whether a kind occurs at the root or below finished slices and structs. -/
def contains (kind : Kind) (node : Node) : Bool :=
  node.kind == kind ||
    match node with
    | slice element => element.contains kind
    | struct fields => anyFieldContains kind fields
    | _ => false

def anyFieldContains (kind : Kind) : List (String × Field Node) → Bool
  | [] => false
  | (_, ⟨type, _⟩) :: rest => type.contains kind || anyFieldContains kind rest

end

end Node

/-! ## Primitive nodes by name -/

inductive PrimitiveError where
  | unknownKind (name : String)
  | notPrimitive (kind : Kind)
  deriving DecidableEq, Repr

namespace PrimitiveError

def message : PrimitiveError → String
  | unknownKind name => String.join [Text.quoteText name, " is not a valid TypeKind"]
  | notPrimitive kind => String.join ["TypeKind.", kind.constant, " is not a primitive kind"]

end PrimitiveError

/-- The leaf of the kind with the given name. -/
def Node.ofPrimitiveName (name : String) : Except PrimitiveError Node :=
  match Kind.ofName? name with
  | none => .error (.unknownKind name)
  | some (.primitive type) => .ok (.primitive type)
  | some kind => .error (.notPrimitive kind)

end JsonShape

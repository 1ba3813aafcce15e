import JsonShape.Json.Basic
import JsonShape.Node.Basic
import JsonShape.Number.Decimal
import JsonShape.Text.Quoted

/-!
# Specification values

Selections and descriptions of types are JSON values, except that a finished
type tree may stand in them as a leaf.  This module holds the common reading of
such values: which of them count as false, how their type is called and how
they are shown in messages.
-/

set_option autoImplicit false

namespace JsonShape

inductive Spec where
  | null
  | bool (value : Bool)
  | int (value : Int)
  | float (value : Binary64)
  | str (text : String)
  | arr (items : List Spec)
  | obj (members : List (String × Spec))
  | node (tree : Node)
  deriving Repr, Inhabited

namespace Spec

mutual

/-- A JSON value as a specification value. -/
def ofJson : Json → Spec
  | .null => null
  | .bool value => bool value
  | .int value => int value
  | .float value => float value
  | .str text => str text
  | .arr items => arr (ofItems items)
  | .obj members => obj (ofMembers members)

def ofItems : List Json → List Spec
  | [] => []
  | item :: rest => ofJson item :: ofItems rest

def ofMembers : List (String × Json) → List (String × Spec)
  | [] => []
  | (name, value) :: rest => (name, ofJson value) :: ofMembers rest

end

/-- The values that stand for no choice: null, false, zero and everything empty. -/
def isFalsy : Spec → Bool
  | null => true
  | bool value => !value
  | int value => value == 0
  | float value => value.isZero
  | str text => text.isEmpty
  | arr items => items.isEmpty
  | obj members => members.isEmpty
  | node _ => false

def isTruthy (spec : Spec) : Bool := !spec.isFalsy

/-- The name of a value's type in messages. -/
def typeName : Spec → String
  | null => "NoneType"
  | bool _ => "bool"
  | int _ => "int"
  | float _ => "float"
  | str _ => "str"
  | arr _ => "list"
  | obj _ => "dict"
  | node tree => tree.typeName

end Spec

/-! ## Values in messages -/

namespace Message

/-- Opening and closing braces around an entry list. -/
def braces (entries : String) : String := "\x7b" ++ entries ++ "\x7d"

def boolText (value : Bool) : String := if value then "True" else "False"

end Message

namespace Node

open Message

mutual

/-- A tree as messages show it. -/
def text : Node → String
  | primitive type =>
    String.join ["PrimitiveType(kind=<TypeKind.", (Kind.primitive type).constant, ": '",
      type.name, "'>)"]
  | any => "AnyType()"
  | ignore => "IgnoreType()"
  | slice element => String.join ["SliceType(element=", element.text, ")"]
  | struct fields =>
    String.join ["StructType(fields=mappingproxy(", braces (fieldsText fields), "))"]
  | rawSlice element => String.join ["RawSlice(element=", element.text, ")"]
  | rawStruct fields =>
    String.join ["RawStruct(fields=mappingproxy(", braces (entriesText fields), "))"]
  | union [] => "UnionType(alternatives=())"
  | union [node] => String.join ["UnionType(alternatives=(", node.text, ",))"]
  | union nodes => String.join ["UnionType(alternatives=(", alternativesText nodes, "))"]

def fieldsText : List (String × Field Node) → String
  | [] => ""
  | (name, ⟨type, optional⟩) :: rest =>
    String.join [Text.quoteText name, ": FieldDef(type_ref=", type.text, ", optional=",
      boolText optional, ")", (if rest.isEmpty then "" else ", "), fieldsText rest]

def entriesText : List (String × Node) → String
  | [] => ""
  | (name, node) :: rest =>
    String.join [Text.quoteText name, ": ", node.text, (if rest.isEmpty then "" else ", "),
      entriesText rest]

def alternativesText : List Node → String
  | [] => ""
  | node :: rest =>
    node.text ++ (if rest.isEmpty then "" else ", ") ++ alternativesText rest

end

end Node

namespace Spec

open Message

mutual

/-- A value as messages show it, strings in quotes. -/
def text : Spec → String
  | null => "None"
  | bool value => boolText value
  | int value => toString value
  | float value => NumberStyle.message.text value
  | str text => Text.quoteText text
  | arr items => String.join ["[", itemsText items, "]"]
  | obj members => braces (membersText members)
  | node tree => tree.text

def itemsText : List Spec → String
  | [] => ""
  | item :: rest => item.text ++ (if rest.isEmpty then "" else ", ") ++ itemsText rest

def membersText : List (String × Spec) → String
  | [] => ""
  | (name, value) :: rest =>
    String.join [Text.quoteText name, ": ", value.text, (if rest.isEmpty then "" else ", "),
      membersText rest]

end

/-- A value as messages show it, a string standing for itself. -/
def plainText : Spec → String
  | str text => text
  | value => value.text

end Spec

end JsonShape

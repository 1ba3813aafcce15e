import JsonShape.Inference.Classify
import JsonShape.Text.Quoted

/-!
# Values of a host program

A program may hand over values that no JSON text has: tuples, sets, octet
strings, complex numbers and the ellipsis, and objects whose keys are not
strings.  Tuples are classified like arrays, objects like objects whatever their
keys are; the others have no type.
-/

set_option autoImplicit false

namespace JsonShape

inductive HostValue where
  | null
  | bool (value : Bool)
  | int (value : Int)
  | float (value : Binary64)
  | complex (real imaginary : Binary64)
  | str (text : String)
  | bytes (octets : List UInt8)
  | ellipsis
  | list (items : List HostValue)
  | tuple (items : List HostValue)
  | set (items : List HostValue)
  | dict (entries : List (HostValue × HostValue))
  deriving Repr, Inhabited

namespace HostValue

mutual

def ofJson : Json → HostValue
  | .null => null
  | .bool value => bool value
  | .int value => int value
  | .float value => float value
  | .str text => str text
  | .arr items => list (ofItems items)
  | .obj members => dict (ofMembers members)

def ofItems : List Json → List HostValue
  | [] => []
  | item :: rest => ofJson item :: ofItems rest

def ofMembers : List (String × Json) → List (HostValue × HostValue)
  | [] => []
  | (name, value) :: rest => (str name, ofJson value) :: ofMembers rest

end

/-! ## Keys -/

/-- A real number: an integer of any size or a binary64 number. -/
inductive RealPart where
  | int (value : Int)
  | float (value : Binary64)

/-- Equality of the values, whatever their form. -/
def RealPart.same : RealPart → RealPart → Bool
  | .int left, .int right => left == right
  | .int left, .float right => right.toInt? == some left
  | .float left, .int right => left.toInt? == some right
  | .float left, .float right => left.sameValue right

/-- The real and the imaginary part of a number; truth values are numbers. -/
def parts? : HostValue → Option (RealPart × RealPart)
  | bool value => some (.int (if value then 1 else 0), .int 0)
  | int value => some (.int value, .int 0)
  | float value => some (.float value, .int 0)
  | complex real imaginary => some (.float real, .float imaginary)
  | _ => none

mutual

/-- Whether two values are the same key. -/
def sameKey (left right : HostValue) : Bool :=
  match left, right with
  | null, null => true
  | ellipsis, ellipsis => true
  | str left, str right => left == right
  | bytes left, bytes right => left == right
  | tuple left, tuple right => sameKeys left right
  | left, right =>
    match parts? left, parts? right with
    | some (real, imaginary), some (otherReal, otherImaginary) =>
      real.same otherReal && imaginary.same otherImaginary
    | _, _ => false

def sameKeys : List HostValue → List HostValue → Bool
  | [], [] => true
  | left :: lefts, right :: rights => sameKey left right && sameKeys lefts rights
  | _, _ => false

end

/-- Sets an entry: a key that is there stays and gets the new value. -/
def insertEntry {α : Type} (key : HostValue) (value : α) :
    List (HostValue × α) → List (HostValue × α)
  | [] => [(key, value)]
  | (known, old) :: rest =>
    if sameKey known key then (known, value) :: rest
    else (known, old) :: insertEntry key value rest

/-- An object with the given entries, set one after the other. -/
def ofEntries (entries : List (HostValue × HostValue)) : HostValue :=
  dict (entries.foldl (fun known (key, value) => insertEntry key value known) [])

/-- A set with the given items. -/
def ofSetItems (items : List HostValue) : HostValue :=
  set ((items.foldl (fun known item => insertEntry item () known) []).map Prod.fst)

/-! ## Text -/

/-- The name of a value's type in messages. -/
def typeName : HostValue → String
  | null => "NoneType"
  | bool _ => "bool"
  | int _ => "int"
  | float _ => "float"
  | complex _ _ => "complex"
  | str _ => "str"
  | bytes _ => "bytes"
  | ellipsis => "ellipsis"
  | list _ => "list"
  | tuple _ => "tuple"
  | set _ => "set"
  | dict _ => "dict"

/-- A real part of positive zero is left out. -/
def complexText (real imaginary : Binary64) : String :=
  let imaginaryText := NumberStyle.component.text imaginary
  match real with
  | .finite false 0 _ => imaginaryText ++ "j"
  | real =>
    let sign := if imaginaryText.toList.head? = some '-' then "" else "+"
    "(" ++ NumberStyle.component.text real ++ sign ++ imaginaryText ++ "j)"

mutual

/-- A value as messages show it. -/
def text : HostValue → String
  | null => "None"
  | bool value => if value then "True" else "False"
  | int value => toString value
  | float value => NumberStyle.message.text value
  | complex real imaginary => complexText real imaginary
  | str text => Text.quoteText text
  | bytes octets => "b" ++ Text.quoteOctets octets
  | ellipsis => "Ellipsis"
  | list items => "[" ++ itemsText items ++ "]"
  | tuple [item] => "(" ++ item.text ++ ",)"
  | tuple items => "(" ++ itemsText items ++ ")"
  | set [] => "set()"
  | set items => "\x7b" ++ itemsText items ++ "\x7d"
  | dict entries => "\x7b" ++ entriesText entries ++ "\x7d"

def itemsText : List HostValue → String
  | [] => ""
  | item :: rest => item.text ++ (if rest.isEmpty then "" else ", ") ++ itemsText rest

def entriesText : List (HostValue × HostValue) → String
  | [] => ""
  | (key, value) :: rest =>
    key.text ++ ": " ++ value.text ++ (if rest.isEmpty then "" else ", ") ++ entriesText rest

end

end HostValue

/-! ## Classification -/

/-- The raw shape of a host value, in which the keys of objects are kept as they
are. -/
inductive Outline where
  | leaf (node : Node)
  | array (items : List Outline)
  | object (entries : List (HostValue × Outline))

namespace HostValue

/-- The shape of a value that at most `room` containers nest in. -/
def classifyWithin (room : Nat) (value : HostValue) : Except ClassifyError Outline :=
  match room, value with
  | _, null => .ok (.leaf .ignore)
  | _, bool _ => .ok (.leaf .bool)
  | _, int _ => .ok (.leaf .int)
  | _, float value => (classifyNumber value).map .leaf
  | _, str _ => .ok (.leaf .string)
  | 0, list _ | 0, tuple _ | 0, dict _ => .error .tooDeep
  | room + 1, list items | room + 1, tuple items =>
    (items.mapM (classifyWithin room)).map .array
  | room + 1, dict entries => do
    let fields ← entries.mapM fun (key, item) => do pure (key, ← classifyWithin room item)
    pure (.object fields)
  | _, value => .error (.unsupported value.typeName value.text)

/-- The shape of a value. -/
def classify [Room] (value : HostValue) : Except ClassifyError Outline :=
  classifyWithin Room.classification value

end HostValue

end JsonShape

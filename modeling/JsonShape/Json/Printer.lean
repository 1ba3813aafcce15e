import JsonShape.Json.Basic
import JsonShape.Number.Decimal
import JsonShape.Text.Digits

/-!
# JSON texts

Values are written in their own order and in ASCII: a character outside the
printable range becomes one `\u` escape, or two when it lies beyond the basic
plane.  A `JsonLayout` fixes the separators and the indentation.
-/

set_option autoImplicit false

namespace JsonShape

structure JsonLayout where
  comma : String
  colon : String
  /-- Columns by which each level is indented, or `none` for a single line. -/
  indent : Option Nat

namespace JsonLayout

def compact : JsonLayout where
  comma := ","
  colon := ":"
  indent := none

def spaced : JsonLayout where
  comma := ", "
  colon := ": "
  indent := none

def indented : JsonLayout where
  comma := ","
  colon := ": "
  indent := some 2

/-- What stands before an entry of a container at the given level. -/
def lineBreak (layout : JsonLayout) (level : Nat) : String :=
  match layout.indent with
  | none => ""
  | some columns => String.ofList ('\n' :: List.replicate (columns * level) ' ')

end JsonLayout

namespace Json

/-- One or two `\u` escapes. -/
def unicodeEscape (code : Nat) : List Char :=
  let unit (value : Nat) : List Char := '\\' :: 'u' :: Text.hexDigits 4 value
  if code < 0x10000 then unit code
  else unit (0xD800 + (code - 0x10000) / 0x400) ++ unit (0xDC00 + (code - 0x10000) % 0x400)

def escapeChar (char : Char) : List Char :=
  match char with
  | '"' => ['\\', '"']
  | '\\' => ['\\', '\\']
  | '\n' => ['\\', 'n']
  | '\r' => ['\\', 'r']
  | '\t' => ['\\', 't']
  | '\x08' => ['\\', 'b']
  | '\x0c' => ['\\', 'f']
  | char =>
    if 0x20 ≤ char.toNat ∧ char.toNat ≤ 0x7E then [char] else unicodeEscape char.toNat

def quote (text : String) : String :=
  String.ofList ('"' :: text.toList.flatMap escapeChar ++ ['"'])

mutual

/-- The text of a value whose container's entries stand at the given level. -/
def print (layout : JsonLayout) (level : Nat) : Json → String
  | null => "null"
  | bool value => if value then "true" else "false"
  | int value => toString value
  | float value => NumberStyle.json.text value
  | str text => quote text
  | arr [] => "[]"
  | arr (item :: rest) =>
    let line := layout.lineBreak (level + 1)
    "[" ++ line ++ print layout (level + 1) item
      ++ printItems layout (level + 1) (layout.comma ++ line) rest
      ++ layout.lineBreak level ++ "]"
  | obj [] => "\x7b\x7d"
  | obj ((name, value) :: rest) =>
    let line := layout.lineBreak (level + 1)
    "\x7b" ++ line ++ quote name ++ layout.colon ++ print layout (level + 1) value
      ++ printMembers layout (level + 1) (layout.comma ++ line) rest
      ++ layout.lineBreak level ++ "\x7d"

/-- The texts of further items, each after a separator. -/
def printItems (layout : JsonLayout) (level : Nat) (separator : String) : List Json → String
  | [] => ""
  | item :: rest =>
    separator ++ print layout level item ++ printItems layout level separator rest

/-- The texts of further members, each after a separator. -/
def printMembers (layout : JsonLayout) (level : Nat) (separator : String) :
    List (String × Json) → String
  | [] => ""
  | (name, value) :: rest =>
    separator ++ quote name ++ layout.colon ++ print layout level value
      ++ printMembers layout level separator rest

end

/-- The text of a whole value. -/
def text (layout : JsonLayout) (value : Json) : String := value.print layout 0

end Json

end JsonShape

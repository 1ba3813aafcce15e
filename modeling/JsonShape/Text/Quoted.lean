import JsonShape.Text.Digits
import JsonShape.Text.Printable

/-!
# Quoted text in messages

A text is shown between apostrophes, or between double quotes when it holds an
apostrophe and no double quote.  Backslash, line ends, tabs, the quote in use
and everything unprintable are escaped.
-/

set_option autoImplicit false

namespace JsonShape.Text

/-- The quote around a text. -/
def quoteMark (text : List Char) : Char :=
  if text.contains '\x27' && !text.contains '"' then '"' else '\x27'

/-- An escape with the least of the three widths that holds the code point. -/
def codeEscape (code : Nat) : List Char :=
  if code < 0x100 then '\\' :: 'x' :: hexDigits 2 code
  else if code < 0x10000 then '\\' :: 'u' :: hexDigits 4 code
  else '\\' :: 'U' :: hexDigits 8 code

/-- Escapes that do not depend on the character being printable. -/
def namedEscape? (mark char : Char) : Option (List Char) :=
  if char = mark ∨ char = '\\' then some ['\\', char]
  else if char = '\n' then some ['\\', 'n']
  else if char = '\r' then some ['\\', 'r']
  else if char = '\t' then some ['\\', 't']
  else none

def quoteChar (mark char : Char) : List Char :=
  match namedEscape? mark char with
  | some escape => escape
  | none => if isPrintable char then [char] else codeEscape char.toNat

def quoteText (text : String) : String :=
  let chars := text.toList
  let mark := quoteMark chars
  String.ofList (mark :: chars.flatMap (quoteChar mark) ++ [mark])

/-- Octets are quoted like text, only ASCII being printable. -/
def quoteOctets (octets : List UInt8) : String :=
  let chars := octets.map fun octet => Char.ofNat octet.toNat
  let mark := quoteMark chars
  let quoted (char : Char) : List Char :=
    match namedEscape? mark char with
    | some escape => escape
    | none =>
      if 0x20 ≤ char.toNat ∧ char.toNat < 0x7F then [char] else codeEscape char.toNat
  String.ofList (mark :: chars.flatMap quoted ++ [mark])

end JsonShape.Text

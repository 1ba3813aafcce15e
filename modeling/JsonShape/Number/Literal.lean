import JsonShape.Number.Binary64
import JsonShape.Text.CodePoints
import JsonShape.Text.Digits

/-!
# Number texts

The text of a number may have a sign, a fraction and an exponent, and
underscores between digits.  Infinity and the number that is none have names, in
letters of either case.  Blanks around the text do not count, and the digits may
be those of any script.
-/

set_option autoImplicit false

namespace JsonShape.NumberLiteral

/-- Blanks, line ends and tabs. -/
def blankRanges : List (Nat × Nat) :=
  [(0x9, 0xD), (0x20, 0x20), (0x85, 0x85), (0xA0, 0xA0), (0x1680, 0x1680), (0x2000, 0x200A),
   (0x2028, 0x2029), (0x202F, 0x202F), (0x205F, 0x205F), (0x3000, 0x3000)]

def isBlank (char : Char) : Bool := Text.inRanges blankRanges char.toNat

def trim (text : List Char) : List Char :=
  ((text.dropWhile isBlank).reverse.dropWhile isBlank).reverse

/-- The digits of a row in which single underscores may stand between digits. -/
def plainDigits? : List Char → Option (List Char)
  | [] => none
  | [digit] => if Text.isDecimalDigit digit then some [digit] else none
  | digit :: '_' :: rest =>
    if Text.isDecimalDigit digit then (plainDigits? rest).map (digit :: ·) else none
  | digit :: rest =>
    if Text.isDecimalDigit digit then (plainDigits? rest).map (digit :: ·) else none

/-- The digits of a row that may be empty. -/
def digits? (text : List Char) : Option (List Char) :=
  if text.isEmpty then some [] else plainDigits? text

def splitSign : List Char → Bool × List Char
  | '-' :: rest => (true, rest)
  | '+' :: rest => (false, rest)
  | rest => (false, rest)

/-- Whole part and fraction of a text with at most one point. -/
def mantissa? (text : List Char) : Option (List Char × List Char) :=
  let parts := match text.span (· ≠ '.') with
    | (whole, []) => (whole, [])
    | (whole, _ :: fraction) => (whole, fraction)
  if parts.1.isEmpty && parts.2.isEmpty then none
  else
    match digits? parts.1, digits? parts.2 with
    | some whole, some fraction => some (whole, fraction)
    | _, _ => none

def exponent? (text : List Char) : Option Int :=
  let (negative, digits) := splitSign text
  (plainDigits? digits).map fun digits =>
    let value : Int := Text.decimalValue digits
    if negative then -value else value

/-- A number in decimal digits, without its sign. -/
def unsigned? (negative : Bool) (text : List Char) : Option Binary64 :=
  let (front, exponent) := match text.span fun char => char ≠ 'e' && char ≠ 'E' with
    | (front, []) => (front, some 0)
    | (front, _ :: rest) => (front, exponent? rest)
  match mantissa? front, exponent with
  | some (whole, fraction), some exponent =>
    some (Binary64.ofDecimal negative (Text.decimalValue (whole ++ fraction))
      (exponent - fraction.length))
  | _, _ => none

/-- The number that a text writes. -/
def read? (text : String) : Option Binary64 :=
  let plain := (trim text.toList).map fun char => (Text.plainDigit? char).getD char
  let (negative, rest) := splitSign plain
  let name := String.ofList (rest.map Char.toLower)
  if name = "nan" then some .nan
  else if name = "inf" ∨ name = "infinity" then some (.infinite negative)
  else unsigned? negative rest

end JsonShape.NumberLiteral

import JsonShape.Json.Basic
import JsonShape.Text.Digits

/-!
# Tokens of JSON texts

A text is cut into tokens with the positions at which they start, counted in
characters.  What cannot be a token is kept as one too: whether it is an error
there, and which one, depends on what the text had to continue with.
-/

set_option autoImplicit false

namespace JsonShape.Json

/-- What is wrong with a text. -/
inductive Problem where
  | expectingValue
  | expectingName
  | expectingColon
  | expectingComma
  | unterminatedString
  | controlCharacter
  | invalidEscape
  | invalidUnicodeEscape
  | extraData
  | byteOrderMark
  deriving DecidableEq, Repr

namespace Problem

def message : Problem → String
  | expectingValue => "Expecting value"
  | expectingName => "Expecting property name enclosed in double quotes"
  | expectingColon => "Expecting ':' delimiter"
  | expectingComma => "Expecting ',' delimiter"
  | unterminatedString => "Unterminated string starting at"
  | controlCharacter => "Invalid control character at"
  | invalidEscape => "Invalid \\escape"
  | invalidUnicodeEscape => "Invalid \\uXXXX escape"
  | extraData => "Extra data"
  | byteOrderMark => "Unexpected UTF-8 BOM (decode using utf-8-sig)"

end Problem

inductive Token where
  | openArray
  | closeArray
  | openObject
  | closeObject
  | comma
  | colon
  /-- A string, by its code points. -/
  | str (codes : List Nat)
  /-- A number or one of the literal names. -/
  | scalar (value : Json)
  /-- An integer literal with more digits than are converted. -/
  | longInteger (digits : Nat)
  /-- A string that breaks off at a position. -/
  | brokenString (problem : Problem) (position : Nat)
  /-- A character that starts no token. -/
  | other
  | endOfText

structure Lexeme where
  token : Token
  position : Nat

/-- The greatest number of digits of an integer literal. -/
def integerDigits : Nat := 4300

def isBlank (char : Char) : Bool :=
  char == ' ' || char == '\t' || char == '\n' || char == '\r'

/-! ## Strings -/

def hexQuad? (a b c d : Char) : Option Nat :=
  match Text.hexValue? a, Text.hexValue? b, Text.hexValue? c, Text.hexValue? d with
  | some a, some b, some c, some d => some (((a * 16 + b) * 16 + c) * 16 + d)
  | _, _, _, _ => none

def simpleEscape? (char : Char) : Option Nat :=
  match char with
  | '"' => some 0x22
  | '\\' => some 0x5C
  | '/' => some 0x2F
  | 'b' => some 0x08
  | 'f' => some 0x0C
  | 'n' => some 0x0A
  | 'r' => some 0x0D
  | 't' => some 0x09
  | _ => none

def isHighSurrogate (code : Nat) : Bool := 0xD800 ≤ code && code < 0xDC00

def isLowSurrogate (code : Nat) : Bool := 0xDC00 ≤ code && code < 0xE000

/-- Puts a code point in front of those before it, in reverse order.  A low
surrogate directly after a high one makes one code point with it. -/
def pushCode (code : Nat) : List Nat → List Nat
  | [] => [code]
  | last :: before =>
    if isHighSurrogate last && isLowSurrogate code then
      (0x10000 + (last - 0xD800) * 0x400 + (code - 0xDC00)) :: before
    else code :: last :: before

/-- Whether a code point is one half of a pair that stands for a character. -/
def isSurrogate (code : Nat) : Bool := isHighSurrogate code || isLowSurrogate code

/-- The character of a code point; a surrogate without its partner has none and
becomes the replacement character. -/
def charOfCode (code : Nat) : Char :=
  if isSurrogate code then Char.ofNat 0xFFFD else Char.ofNat code

/-- The text of a string.  Only a string without surrogates is kept in it. -/
def textOfCodes (codes : List Nat) : String := String.ofList (codes.map charOfCode)

/-- The rest of a string, with the code points read so far in reverse order.
The result is the code points of the string, the position after the closing quote
and the text there, or the problem and its position. -/
def scanString (start position : Nat) (codes : List Nat) :
    List Char → Except (Problem × Nat) (List Nat × Nat × List Char)
  | [] => .error (.unterminatedString, start)
  | '"' :: rest => .ok (codes.reverse, position + 1, rest)
  | ['\\'] => .error (.unterminatedString, start)
  | '\\' :: 'u' :: a :: b :: c :: d :: rest =>
    match hexQuad? a b c d with
    | some code =>
      if rest.isEmpty then .error (.invalidUnicodeEscape, position + 1)
      else scanString start (position + 6) (pushCode code codes) rest
    | none => .error (.invalidUnicodeEscape, position + 1)
  | '\\' :: 'u' :: _ => .error (.invalidUnicodeEscape, position + 1)
  | '\\' :: char :: rest =>
    match simpleEscape? char with
    | some code => scanString start (position + 2) (code :: codes) rest
    | none => .error (.invalidEscape, position)
  | char :: rest =>
    if char.toNat < 0x20 then .error (.controlCharacter, position)
    else scanString start (position + 1) (char.toNat :: codes) rest

/-! ## Numbers -/

/-- The parts of a number literal. -/
structure NumberText where
  negative : Bool
  whole : List Char
  fraction : List Char
  /-- Sign and digits, without the mark. -/
  exponent : Option (Bool × List Char)
  length : Nat

def scanWhole : List Char → List Char × List Char
  | '0' :: rest => (['0'], rest)
  | text => text.span Text.isDecimalDigit

/-- A point counts only before a digit. -/
def scanFraction : List Char → List Char × List Char
  | '.' :: rest =>
    match rest.span Text.isDecimalDigit with
    | ([], _) => ([], '.' :: rest)
    | found => found
  | text => ([], text)

/-- An exponent mark counts only before a digit or a sign and a digit. -/
def scanExponent : List Char → Option (Bool × List Char) × Nat × List Char
  | [] => (none, 0, [])
  | mark :: rest =>
    if mark = 'e' ∨ mark = 'E' then
      let (negative, signs, digits) := match rest with
        | '-' :: digits => (true, 1, digits)
        | '+' :: digits => (false, 1, digits)
        | digits => (false, 0, digits)
      match digits.span Text.isDecimalDigit with
      | ([], _) => (none, 0, mark :: rest)
      | (found, rest) => (some (negative, found), 1 + signs + found.length, rest)
    else (none, 0, mark :: rest)

/-- The number literal at the start of a text, if there is one. -/
def scanNumber? (text : List Char) : Option (NumberText × List Char) :=
  let (negative, unsigned) := match text with
    | '-' :: rest => (true, rest)
    | text => (false, text)
  match scanWhole unsigned with
  | ([], _) => none
  | (whole, rest) =>
    let (fraction, rest) := scanFraction rest
    let (exponent, marks, rest) := scanExponent rest
    let length := (if negative then 1 else 0) + whole.length
      + (if fraction.isEmpty then 0 else 1 + fraction.length) + marks
    some ({ negative, whole, fraction, exponent, length }, rest)

namespace NumberText

/-- A literal without fraction and exponent is an integer. -/
def token (number : NumberText) : Token :=
  match number.fraction, number.exponent with
  | [], none =>
    if integerDigits < number.whole.length then .longInteger number.whole.length
    else
      let value : Int := Text.decimalValue number.whole
      .scalar (.int (if number.negative then -value else value))
  | fraction, exponent =>
    let shift : Int := match exponent with
      | none => 0
      | some (false, digits) => Text.decimalValue digits
      | some (true, digits) => -(Text.decimalValue digits : Int)
    .scalar (.float (Binary64.ofDecimal number.negative
      (Text.decimalValue (number.whole ++ fraction)) (shift - fraction.length)))

end NumberText

/-! ## Texts -/

/-- The names that stand for values, the three last ones being extensions. -/
def literals : List (List Char × Json) :=
  [("null".toList, .null), ("true".toList, .bool true), ("false".toList, .bool false),
   ("NaN".toList, .float .nan), ("Infinity".toList, .float (.infinite false)),
   ("-Infinity".toList, .float (.infinite true))]

def scanLiteral? (text : List Char) : Option (Json × Nat × List Char) :=
  literals.findSome? fun (name, value) =>
    (name.isPrefixOf? text).map fun rest => (value, name.length, rest)

def punctuation? (char : Char) : Option Token :=
  match char with
  | '[' => some .openArray
  | ']' => some .closeArray
  | '\x7b' => some .openObject
  | '\x7d' => some .closeObject
  | ',' => some .comma
  | ':' => some .colon
  | _ => none

/-- The token at the start of a text that is neither empty nor blank there, the
position after it and the text there. -/
def nextToken (position : Nat) (char : Char) (rest : List Char) : Token × Nat × List Char :=
  match punctuation? char with
  | some token => (token, position + 1, rest)
  | none =>
    if char = '"' then
      match scanString position (position + 1) [] rest with
      | .ok (codes, next, rest) => (.str codes, next, rest)
      | .error (problem, place) => (.brokenString problem place, position + 1, [])
    else
      match scanLiteral? (char :: rest) with
      | some (value, length, rest) => (.scalar value, position + length, rest)
      | none =>
        match scanNumber? (char :: rest) with
        | some (number, rest) => (number.token, position + number.length, rest)
        | none => (.other, position + 1, rest)

/-- The tokens read so far in reverse order, followed by those of the text.
Every step takes at least one character, so `steps` need not exceed the length
of the text. -/
def tokensFrom (steps position : Nat) (read : List Lexeme) (text : List Char) : List Lexeme :=
  match steps, text with
  | _, [] | 0, _ => (⟨.endOfText, position⟩ :: read).reverse
  | steps + 1, char :: rest =>
    if isBlank char then tokensFrom steps (position + 1) read rest
    else
      let (token, next, rest) := nextToken position char rest
      tokensFrom steps next (⟨token, position⟩ :: read) rest

def tokens (text : List Char) : List Lexeme := tokensFrom text.length 0 [] text

/-- Whether a token is a string with a surrogate that has no partner. -/
def Token.hasSurrogate : Token → Bool
  | .str codes => codes.any isSurrogate
  | _ => false

/-- Whether a text has such a string. -/
def hasSurrogate (text : List Char) : Bool :=
  (tokens text).any fun lexeme => lexeme.token.hasSurrogate

end JsonShape.Json

import JsonShape.Json.Token
import JsonShape.Room

/-!
# Reading JSON texts

One pass over the tokens keeps the containers that are still open on a stack.
The state says what the text may continue with, and so which problem any other
token is.
-/

set_option autoImplicit false

namespace JsonShape.Json

/-- A place in a text: line and column count from one, the offset from zero. -/
structure Location where
  line : Nat
  column : Nat
  offset : Nat
  deriving DecidableEq, Repr

/-- Why a text is not read. -/
inductive DecodeError where
  | malformed (problem : Problem) (place : Location)
  | tooDeep
  | longInteger (digits : Nat)
  deriving DecidableEq, Repr

namespace DecodeError

def message : DecodeError → String
  | malformed problem place =>
    String.join [problem.message, ": line ", toString place.line, " column ",
      toString place.column, " (char ", toString place.offset, ")"]
  | tooDeep => "The text is nested too deeply"
  | longInteger digits =>
    String.join ["Exceeds the limit (", toString integerDigits,
      " digits) for integer string conversion: value has ", toString digits,
      " digits; use sys.set_int_max_str_digits() to increase the limit"]

end DecodeError

/-- The greatest number of containers that may be open at once. -/
def textRoom [Room] : Nat := Room.text

/-- A container that is still open around a value: the items of an array in
reverse order, or the members of an object and the name of the next one. -/
inductive Frame where
  | array (items : List Json)
  | object (members : List (String × Json)) (name : String)

/-- What the text has to continue with. -/
inductive Expectation where
  | value (outer : List Frame)
  | firstItem (outer : List Frame)
  | firstName (outer : List Frame)
  | name (members : List (String × Json)) (outer : List Frame)
  | colon (members : List (String × Json)) (name : String) (outer : List Frame)
  | afterItem (items : List Json) (outer : List Frame)
  | afterMember (members : List (String × Json)) (outer : List Frame)
  | finished (value : Json)

/-- Puts a value into the innermost open container. -/
def deliver (value : Json) : List Frame → Expectation
  | [] => .finished value
  | .array items :: outer => .afterItem (value :: items) outer
  | .object members name :: outer => .afterMember (insertMember name value members) outer

/-- Why a token is refused; positions become places once the text is at hand. -/
inductive Refusal where
  | problem (problem : Problem) (position : Nat)
  | tooDeep
  | longInteger (digits : Nat)

/-- The token that starts a value. -/
def startValue (room : Nat) (outer : List Frame) (lexeme : Lexeme) :
    Except Refusal Expectation :=
  match lexeme.token with
  | .openArray => if room ≤ outer.length then .error .tooDeep else .ok (.firstItem outer)
  | .openObject => if room ≤ outer.length then .error .tooDeep else .ok (.firstName outer)
  | .str codes => .ok (deliver (.str (textOfCodes codes)) outer)
  | .scalar value => .ok (deliver value outer)
  | .longInteger digits => .error (.longInteger digits)
  | .brokenString problem position => .error (.problem problem position)
  | _ => .error (.problem .expectingValue lexeme.position)

/-- The token that names a member. -/
def startMember (members : List (String × Json)) (outer : List Frame) (lexeme : Lexeme) :
    Except Refusal Expectation :=
  match lexeme.token with
  | .str codes => .ok (.colon members (textOfCodes codes) outer)
  | .brokenString problem position => .error (.problem problem position)
  | _ => .error (.problem .expectingName lexeme.position)

def step (room : Nat) (state : Expectation) (lexeme : Lexeme) : Except Refusal Expectation :=
  match state with
  | .value outer => startValue room outer lexeme
  | .firstItem outer =>
    match lexeme.token with
    | .closeArray => .ok (deliver (.arr []) outer)
    | _ => startValue room (.array [] :: outer) lexeme
  | .firstName outer =>
    match lexeme.token with
    | .closeObject => .ok (deliver (.obj []) outer)
    | _ => startMember [] outer lexeme
  | .name members outer => startMember members outer lexeme
  | .colon members name outer =>
    match lexeme.token with
    | .colon => .ok (.value (.object members name :: outer))
    | _ => .error (.problem .expectingColon lexeme.position)
  | .afterItem items outer =>
    match lexeme.token with
    | .comma => .ok (.value (.array items :: outer))
    | .closeArray => .ok (deliver (.arr items.reverse) outer)
    | _ => .error (.problem .expectingComma lexeme.position)
  | .afterMember members outer =>
    match lexeme.token with
    | .comma => .ok (.name members outer)
    | .closeObject => .ok (deliver (.obj members) outer)
    | _ => .error (.problem .expectingComma lexeme.position)
  | .finished value =>
    match lexeme.token with
    | .endOfText => .ok (.finished value)
    | _ => .error (.problem .extraData lexeme.position)

def placeOf (text : List Char) (offset : Nat) : Location :=
  let before := text.take offset
  { line := before.count '\n' + 1
    column := (before.reverse.takeWhile (· ≠ '\n')).length + 1
    offset }

def Refusal.toError (text : List Char) : Refusal → DecodeError
  | .problem cause position => .malformed cause (placeOf text position)
  | .tooDeep => .tooDeep
  | .longInteger digits => .longInteger digits

/-- Reads a text whose containers nest at most `room` deep. -/
def decode (room : Nat) (text : List Char) : Except DecodeError Json :=
  if text.head? = some (Char.ofNat 0xFEFF) then
    .error (.malformed .byteOrderMark (placeOf text 0))
  else
    match (tokens text).foldlM (step room) (.value []) with
    | .ok (.finished value) => .ok value
    | .ok _ => .error (.malformed .expectingValue (placeOf text text.length))
    | .error refusal => .error (refusal.toError text)

end JsonShape.Json

import JsonShape.Text.Digits

/-!
# Reading UTF-8

Octets are read one at a time.  Between the octets of a character the reader
knows how many more are owed and in which range the next one must lie, so a
fault is found at the first octet that no text continues with.
-/

set_option autoImplicit false

namespace JsonShape.Text

inductive Utf8Fault where
  | invalidStart
  | invalidContinuation
  | unexpectedEnd
  deriving DecidableEq, Repr

/-- A fault, the position of the character in which it lies, the number of
octets read of that character and the first of them. -/
structure Utf8Error where
  fault : Utf8Fault
  position : Nat
  length : Nat
  octet : UInt8
  deriving DecidableEq, Repr

namespace Utf8Fault

def message : Utf8Fault → String
  | invalidStart => "invalid start byte"
  | invalidContinuation => "invalid continuation byte"
  | unexpectedEnd => "unexpected end of data"

end Utf8Fault

namespace Utf8Error

/-- The octets that are at fault: one, or those of a range of positions. -/
def octetsText (error : Utf8Error) : String :=
  if error.length = 1 then
    String.join ["byte 0x", String.ofList (hexDigits 2 error.octet.toNat), " in position ",
      toString error.position]
  else
    String.join ["bytes in position ", toString error.position, "-",
      toString (error.position + error.length - 1)]

def message (error : Utf8Error) : String :=
  String.join ["'utf-8' codec can't decode ", error.octetsText, ": ", error.fault.message]

end Utf8Error

/-- A character of which some octets are read. -/
structure PartialChar where
  start : Nat
  lead : UInt8
  /-- The bits read so far. -/
  value : Nat
  /-- The number of octets owed. -/
  owed : Nat
  /-- The least and the greatest octet that may come next. -/
  low : Nat
  high : Nat

/-- What a character's first octet says: the whole character, or its beginning. -/
def firstOctet (position : Nat) (octet : UInt8) : Except Utf8Error (Char ⊕ PartialChar) :=
  let code := octet.toNat
  let begin_ (bits owed low high : Nat) : Except Utf8Error (Char ⊕ PartialChar) :=
    .ok (.inr ⟨position, octet, code - bits, owed, low, high⟩)
  if code < 0x80 then .ok (.inl (Char.ofNat code))
  else if code < 0xC2 then .error ⟨.invalidStart, position, 1, octet⟩
  else if code < 0xE0 then begin_ 0xC0 1 0x80 0xBF
  else if code = 0xE0 then begin_ 0xE0 2 0xA0 0xBF
  else if code = 0xED then begin_ 0xE0 2 0x80 0x9F
  else if code < 0xF0 then begin_ 0xE0 2 0x80 0xBF
  else if code = 0xF0 then begin_ 0xF0 3 0x90 0xBF
  else if code < 0xF4 then begin_ 0xF0 3 0x80 0xBF
  else if code = 0xF4 then begin_ 0xF0 3 0x80 0x8F
  else .error ⟨.invalidStart, position, 1, octet⟩

/-- Reads octets from a position on, inside a character or between two, with the
characters read so far in reverse order. -/
def decodeFrom (position : Nat) (unfinished : Option PartialChar) (read : List Char) :
    List UInt8 → Except Utf8Error (List Char)
  | [] =>
    match unfinished with
    | none => .ok read.reverse
    | some char => .error ⟨.unexpectedEnd, char.start, position - char.start, char.lead⟩
  | octet :: rest =>
    match unfinished with
    | none =>
      match firstOctet position octet with
      | .error error => .error error
      | .ok (.inl char) => decodeFrom (position + 1) none (char :: read) rest
      | .ok (.inr char) => decodeFrom (position + 1) (some char) read rest
    | some char =>
      if char.low ≤ octet.toNat ∧ octet.toNat ≤ char.high then
        let value := char.value * 64 + (octet.toNat - 0x80)
        if char.owed = 1 then decodeFrom (position + 1) none (Char.ofNat value :: read) rest
        else
          decodeFrom (position + 1)
            (some { char with value := value, owed := char.owed - 1, low := 0x80, high := 0xBF })
            read rest
      else .error ⟨.invalidContinuation, char.start, position - char.start, char.lead⟩

def decodeUtf8 (octets : List UInt8) : Except Utf8Error (List Char) :=
  decodeFrom 0 none [] octets

def encodeUtf8 (text : String) : List UInt8 := text.toUTF8.toList

/-- Every line ends with a line feed: a carriage return becomes one, and a line
feed directly after a carriage return is dropped. -/
def normalizeNewlines (text : List Char) : List Char :=
  (List.zip ('\n' :: text) text).filterMap fun (previous, char) =>
    if previous = '\r' ∧ char = '\n' then none
    else some (if char = '\r' then '\n' else char)

end JsonShape.Text

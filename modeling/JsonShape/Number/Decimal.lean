import JsonShape.Number.Binary64

/-!
# Shortest decimal text of a binary64 number

A finite number is written with the fewest decimal digits that read back as the
same number; among the candidates with that many digits the nearest one is
taken, and the even one of two equally near.  How the digits are laid out is a
separate matter, held in one `NumberStyle` value.
-/

set_option autoImplicit false

namespace JsonShape

/-- The number `digits * 10 ^ exponent`. -/
structure Decimal where
  digits : Nat
  exponent : Int
  deriving DecidableEq, Repr, Inhabited

namespace Decimal

/-- The decimal numbers that read back as `significand * 2 ^ exponent`, measured
in fourths of the unit in the last place: the ends belong to the interval exactly
when the significand is even. -/
structure Interval where
  low : Nat
  value : Nat
  high : Nat
  closed : Bool

/-- Below a power of two the neighbouring number is only half as far away. -/
def interval (significand : Nat) (exponent : Int) : Interval where
  low :=
    if significand = powerOfTwo 52 ∧ Binary64.leastExponent < exponent then 4 * significand - 1
    else 4 * significand - 2
  value := 4 * significand
  high := 4 * significand + 2
  closed := significand % 2 = 0

def Interval.holds (range : Interval) (factor point : Nat) : Bool :=
  let low := range.low * factor
  let high := range.high * factor
  if range.closed then low ≤ point && point ≤ high else low < point && point < high

/-- The multiple of `10 ^ place` nearest to the number, if a multiple reads back. -/
def onGrid? (range : Interval) (exponent place : Int) : Option Decimal :=
  let quarter := exponent - 2
  let factor := powerOfTwo quarter.toNat * powerOfTen (-place).toNat
  let grid := powerOfTen place.toNat * powerOfTwo (-quarter).toNat
  let value := range.value * factor
  let below := value / grid
  let above := below + 1
  match range.holds factor (below * grid), range.holds factor (above * grid) with
  | true, true =>
    let twice := 2 * (value - below * grid)
    if twice < grid ∨ (twice = grid ∧ below % 2 = 0) then some ⟨below, place⟩
    else some ⟨above, place⟩
  | true, false => some ⟨below, place⟩
  | false, true => some ⟨above, place⟩
  | false, false => none

/-- The place of the leading decimal digit of `significand * 2 ^ exponent`. -/
def leadingPlace (significand : Nat) (exponent : Int) : Int :=
  let above := significand * powerOfTwo exponent.toNat
  let below := powerOfTwo (-exponent).toNat
  if below ≤ above then (Nat.toDigits 10 (above / below)).length - 1
  else -(Nat.toDigits 10 ((below - 1) / above)).length

/-- Moves trailing zeros of the digits into the exponent, at most `steps` of them. -/
def trim (steps : Nat) (number : Decimal) : Decimal :=
  match steps with
  | 0 => number
  | steps + 1 =>
    if number.digits ≠ 0 ∧ number.digits % 10 = 0 then
      trim steps ⟨number.digits / 10, number.exponent + 1⟩
    else number

/-- The shortest decimal that reads back as `significand * 2 ^ exponent`.
Seventeen digits always suffice. -/
def shortest (significand : Nat) (exponent : Int) : Decimal :=
  if significand = 0 then ⟨0, 0⟩
  else
    let range := interval significand exponent
    let leading := leadingPlace significand exponent
    match (List.range 18).findSome? fun (step : Nat) => onGrid? range exponent (leading - step) with
    | some found => trim 18 found
    | none => ⟨significand, 0⟩

end Decimal

/-- How a number is laid out.  Numbers from `10 ^ -4` up to `10 ^ 16` are written
positionally, all others with an exponent of at least two digits and a sign. -/
structure NumberStyle where
  /-- Whether a whole number keeps `.0`. -/
  pointZero : Bool
  nan : String
  infinity : String

namespace NumberStyle

/-- The style of messages. -/
def message : NumberStyle where
  pointZero := true
  nan := "nan"
  infinity := "inf"

/-- The style of JSON texts. -/
def json : NumberStyle where
  pointZero := true
  nan := "NaN"
  infinity := "Infinity"

/-- The style of the two parts of a complex number. -/
def component : NumberStyle where
  pointZero := false
  nan := "nan"
  infinity := "inf"

def zeros (count : Nat) : List Char := List.replicate count '0'

def positional (style : NumberStyle) (digits : List Char) (point : Int) : List Char :=
  if point ≤ 0 then '0' :: '.' :: zeros (-point).toNat ++ digits
  else if (digits.length : Int) ≤ point then
    digits ++ zeros (point.toNat - digits.length) ++ (if style.pointZero then ['.', '0'] else [])
  else digits.take point.toNat ++ '.' :: digits.drop point.toNat

def scientific (digits : List Char) (order : Int) : List Char :=
  let exponent := Nat.toDigits 10 order.natAbs
  let fraction := match digits.drop 1 with
    | [] => []
    | rest => '.' :: rest
  digits.take 1 ++ fraction ++
    'e' :: (if order < 0 then '-' else '+') :: zeros (2 - exponent.length) ++ exponent

def magnitude (style : NumberStyle) (number : Decimal) : List Char :=
  let digits := Nat.toDigits 10 number.digits
  let point := (digits.length : Int) + number.exponent
  if -4 < point ∧ point ≤ 16 then style.positional digits point
  else scientific digits (point - 1)

def text (style : NumberStyle) : Binary64 → String
  | .nan => style.nan
  | .infinite negative => (if negative then "-" else "") ++ style.infinity
  | .finite negative significand exponent =>
    (if negative then "-" else "") ++
      String.ofList (style.magnitude (Decimal.shortest significand exponent))

end NumberStyle

end JsonShape

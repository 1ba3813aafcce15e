/-!
# Binary64 numbers

The finite values are `± significand * 2 ^ exponent`.  A decimal literal or a
quotient of natural numbers is rounded to the nearest of them, an exact tie
going to the even significand, by exact arithmetic on natural numbers.
-/

set_option autoImplicit false

namespace JsonShape

/-- A number of the binary64 format.  Reading keeps finite values normalised:
either the significand has 53 bits or the exponent is the least one. -/
inductive Binary64 where
  | nan
  | infinite (negative : Bool)
  | finite (negative : Bool) (significand : Nat) (exponent : Int)
  deriving DecidableEq, Repr, Inhabited

/-- Powers of the two bases that numbers are written in. -/
def powerOfTwo (exponent : Nat) : Nat := Nat.pow 2 exponent

def powerOfTen (exponent : Nat) : Nat := Nat.pow 10 exponent

namespace Binary64

/-- Exponent of the smallest positive value. -/
def leastExponent : Int := -1074

/-- Exponent of the unit in the last place of the largest finite value. -/
def greatestExponent : Int := 971

/-- The natural number nearest to a quotient, the even one of two equally near. -/
def roundHalfEven (numerator denominator : Nat) : Nat :=
  let quotient := numerator / denominator
  let twice := 2 * (numerator % denominator)
  if twice < denominator ∨ (twice = denominator ∧ quotient % 2 = 0) then quotient
  else quotient + 1

/-- Numerator and denominator of `numerator / denominator / 2 ^ exponent`. -/
def scaleBy (numerator denominator : Nat) (exponent : Int) : Nat × Nat :=
  if 0 ≤ exponent then (numerator, denominator * powerOfTwo exponent.toNat)
  else (numerator * powerOfTwo (-exponent).toNat, denominator)

/-- The least exponent at which a positive quotient has a significand below
`2 ^ 53`, or the least exponent of the format. -/
def unitExponent (numerator denominator : Nat) : Int :=
  let estimate : Int := (numerator.log2 : Int) - (denominator.log2 : Int) - 53
  let low := max leastExponent estimate
  let (above, below) := scaleBy numerator denominator low
  if above / below < powerOfTwo 53 then low else low + 1

/-- A significand that rounding carried to `2 ^ 53` is halved, and a value past
the greatest exponent overflows. -/
def assemble (negative : Bool) (significand : Nat) (exponent : Int) : Binary64 :=
  let (significand, exponent) :=
    if significand = powerOfTwo 53 then (powerOfTwo 52, exponent + 1) else (significand, exponent)
  if greatestExponent < exponent then infinite negative
  else finite negative significand exponent

/-- The value nearest to `± numerator / denominator`. -/
def ofRatio (negative : Bool) (numerator denominator : Nat) : Binary64 :=
  if numerator = 0 then finite negative 0 leastExponent
  else
    let exponent := unitExponent numerator denominator
    let (above, below) := scaleBy numerator denominator exponent
    assemble negative (roundHalfEven above below) exponent

/-- The value nearest to `± digits * 10 ^ exponent`.  Magnitudes far outside the
format are decided by their order alone, so a literal with a huge exponent costs
no huge power. -/
def ofDecimal (negative : Bool) (digits : Nat) (exponent : Int) : Binary64 :=
  let order : Int := (Nat.toDigits 10 digits).length + exponent
  if digits = 0 ∨ order < -400 then finite negative 0 leastExponent
  else if 400 < order then infinite negative
  else if 0 ≤ exponent then ofRatio negative (digits * powerOfTen exponent.toNat) 1
  else ofRatio negative digits (powerOfTen (-exponent).toNat)

def isFinite : Binary64 → Bool
  | finite _ _ _ => true
  | _ => false

/-- The integer that the number equals, if there is one. -/
def toInt? : Binary64 → Option Int
  | finite negative significand exponent =>
    let sign : Int := if negative then -1 else 1
    if 0 ≤ exponent then some (sign * (significand * powerOfTwo exponent.toNat : Nat))
    else
      let unit := powerOfTwo (-exponent).toNat
      if significand % unit = 0 then some (sign * (significand / unit : Nat)) else none
  | _ => none

def isIntegral (number : Binary64) : Bool := number.toInt?.isSome

/-- Whether the number is a zero of either sign. -/
def isZero : Binary64 → Bool
  | finite _ 0 _ => true
  | _ => false

/-- Equality of values: the two zeros are equal, and no value equals `nan`. -/
def sameValue (left right : Binary64) : Bool :=
  left != nan && (left == right || (left.isZero && right.isZero))

end Binary64

end JsonShape

/-!
# Tables of code points

A table lists code points in increasing order, as ranges or as runs with a
constant step, so a look-up stops at the first entry beyond the code point.
-/

set_option autoImplicit false

namespace JsonShape.Text

/-- Membership in a table of inclusive ranges `(first, last)`. -/
def inRanges : List (Nat × Nat) → Nat → Bool
  | [], _ => false
  | (first, last) :: rest, code =>
    if code < first then false else code ≤ last || inRanges rest code

/-- Membership in a table of runs `(first, last, step)`. -/
def inRuns : List (Nat × Nat × Nat) → Nat → Bool
  | [], _ => false
  | (first, last, step) :: rest, code =>
    if code < first then false
    else (code ≤ last && (code - first) % step == 0) || inRuns rest code

/-- The image of a code point under a table of runs `(first, last, step, shift)`,
each of which moves its members by `shift`. -/
def shifted? : List (Nat × Nat × Nat × Int) → Nat → Option Nat
  | [], _ => none
  | (first, last, step, shift) :: rest, code =>
    if code < first then none
    else if code ≤ last && (code - first) % step == 0 then some (code + shift).toNat
    else shifted? rest code

end JsonShape.Text

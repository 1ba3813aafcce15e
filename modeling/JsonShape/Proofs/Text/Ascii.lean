import JsonShape.Proofs.Text.Simple

/-!
# Letters and digits of ASCII

The basic characters are the small letters and the digits of ASCII.  The letters have
capitals, and the digits are their own.  All letters and numbers of ASCII have one of
them as their form in lower case.
-/

set_option autoImplicit false

namespace JsonShape.Text

/-- Whether all characters of a text belong to ASCII. -/
def IsAscii (text : List Char) : Prop := ∀ char ∈ text, char.toNat < 128

instance (text : List Char) : Decidable (IsAscii text) :=
  decidable_of_iff (text.all fun char => decide (char.toNat < 128)) (by
    simp [IsAscii, List.all_eq_true])

/-- Whether a character is one of `a` to `z` or of `0` to `9`. -/
def isBasic (char : Char) : Bool := char.isLower || char.isDigit

variable {char : Char}

/-- A property of all characters of ASCII, checked value by value. -/
theorem forall_ascii (holds : Char → Prop) (h : ∀ code < 128, holds (Char.ofNat code))
    (hascii : char.toNat < 128) : holds char := by
  rw [← Char.ofNat_toNat char]
  exact h char.toNat hascii

theorem ascii_of_isBasic (h : isBasic char = true) : char.toNat < 128 := by
  rw [isBasic, Bool.or_eq_true] at h
  rcases h with h | h
  · have hlast : char ≤ 'z' := of_decide_eq_true (Bool.and_eq_true_iff.mp h).2
    exact Nat.lt_of_le_of_lt (UInt32.le_iff_toNat_le.mp hlast) (by decide)
  · have hlast : char ≤ '9' := of_decide_eq_true (Bool.and_eq_true_iff.mp h).2
    exact Nat.lt_of_le_of_lt (UInt32.le_iff_toNat_le.mp hlast) (by decide)

theorem isSmall_of_isBasic (h : isBasic char = true) : IsSmall char :=
  forall_ascii (fun char => isBasic char = true → IsSmall char) (by decide +kernel)
    (ascii_of_isBasic h) h

theorem isSimple_capital (h : isBasic char = true) : IsSimple (capital char) :=
  forall_ascii (fun char => isBasic char = true → IsSimple (capital char)) (by decide +kernel)
    (ascii_of_isBasic h) h

theorem isSimple_of_isBasic (h : isBasic char = true) : IsSimple char :=
  isSimple_of_ascii (ascii_of_isBasic h) (isSmall_of_isBasic h).alphanumeric

theorem isUpper_capital (h : isBasic char = true) : isUpper (capital char) = char.isLower :=
  forall_ascii (fun char => isBasic char = true → isUpper (capital char) = char.isLower)
    (by decide +kernel) (ascii_of_isBasic h) h

theorem isDigit_of_isBasic (h : isBasic char = true) : isDigit char = char.isDigit :=
  forall_ascii (fun char => isBasic char = true → isDigit char = char.isDigit)
    (by decide +kernel) (ascii_of_isBasic h) h

theorem isLower_of_isBasic (h : isBasic char = true) : char.isLower = !char.isDigit :=
  forall_ascii (fun char => isBasic char = true → char.isLower = !char.isDigit)
    (by decide +kernel) (ascii_of_isBasic h) h

/-- Digits have no case. -/
theorem capital_of_isDigit (h : char.isDigit = true) : capital char = char := by
  have hbasic : isBasic char = true := by rw [isBasic, h, Bool.or_true]
  refine (isSmall_of_isBasic hbasic).capital_cases.resolve_left ?_
  rw [isUpper_capital hbasic, isLower_of_isBasic hbasic, h]
  exact Bool.false_ne_true

/-- A letter or number of ASCII has a basic form in lower case. -/
theorem isBasic_small (hascii : char.toNat < 128) (h : isAlphanumeric char = true) :
    isBasic (small char) = true :=
  forall_ascii (fun char => isAlphanumeric char = true → isBasic (small char) = true)
    (by decide +kernel) hascii h

end JsonShape.Text

import JsonShape.Proofs.Text.Category

/-!
# Letters with one form in either case

Most letters have a single form in lower case and a single one in upper case, which
lead back to each other, and most other characters of words are the same in both.  Texts
of such characters can be written in lower case and capitalised one character at a time.
All letters and digits of ASCII are of this kind.
-/

set_option autoImplicit false

namespace JsonShape.Text

/-! ## Characters -/

/-- The first character of the form in lower case. -/
def small (char : Char) : Char := (lowerChar char).headD char

/-- The first character of the form in title case. -/
def capital (char : Char) : Char := (titleChar char).headD char

/-- A character of words in lower case that can be told from its capital form. -/
structure IsSmall (char : Char) : Prop where
  alphanumeric : isAlphanumeric char = true
  not_upper : isUpper char = false
  lower_eq : lowerChar char = [char]
  title_eq : titleChar char = [capital char]
  capital_alphanumeric : isAlphanumeric (capital char) = true
  capital_digit : isDigit (capital char) = isDigit char
  capital_lower : lowerChar (capital char) = [char]
  capital_cases : isUpper (capital char) = true ∨ capital char = char

/-- A character of words that has one form in either case. -/
structure IsSimple (char : Char) : Prop where
  small : IsSmall (small char)
  lower_eq : lowerChar char = [Text.small char]
  digit_eq : isDigit (Text.small char) = isDigit char
  title_eq : titleChar char = [capital (Text.small char)]
  upper_eq : upperChar char = [capital (Text.small char)]

instance (char : Char) : Decidable (IsSmall char) :=
  decidable_of_iff
    ((isAlphanumeric char = true ∧ isUpper char = false ∧ lowerChar char = [char] ∧
      titleChar char = [capital char]) ∧ isAlphanumeric (capital char) = true ∧
      isDigit (capital char) = isDigit char ∧ lowerChar (capital char) = [char] ∧
      (isUpper (capital char) = true ∨ capital char = char))
    ⟨fun ⟨⟨a, b, c, d⟩, e, f, g, h⟩ => ⟨a, b, c, d, e, f, g, h⟩,
      fun ⟨a, b, c, d, e, f, g, h⟩ => ⟨⟨a, b, c, d⟩, e, f, g, h⟩⟩

instance (char : Char) : Decidable (IsSimple char) :=
  decidable_of_iff
    (IsSmall (small char) ∧ lowerChar char = [small char] ∧ isDigit (small char) = isDigit char ∧
      titleChar char = [capital (small char)] ∧ upperChar char = [capital (small char)])
    ⟨fun ⟨a, b, c, d, e⟩ => ⟨a, b, c, d, e⟩, fun ⟨a, b, c, d, e⟩ => ⟨a, b, c, d, e⟩⟩

/-- Letters and digits of ASCII are simple. -/
theorem isSimple_of_ascii {char : Char} (h : char.toNat < 128)
    (halphanumeric : isAlphanumeric char = true) : IsSimple char := by
  have hall : ∀ code < 128, isAlphanumeric (Char.ofNat code) = true →
      IsSimple (Char.ofNat code) := by
    decide +kernel
  rw [← Char.ofNat_toNat char] at halphanumeric ⊢
  exact hall char.toNat h halphanumeric

/-! ## Texts -/

section Texts

variable {text : List Char}

theorem flatMap_singletons {f : Char → List Char} {g : Char → Char}
    (h : ∀ char ∈ text, f char = [g char]) : text.flatMap f = text.map g := by
  rw [List.flatMap_def, List.map_congr_left h, ← List.flatMap_def, List.map_eq_flatMap]

/-- A capital sigma that begins a text is not the last letter of a word. -/
theorem lower_eq_flatMap (h : ∀ char ∈ text.tail, isUpper char = false) :
    lower text = text.flatMap lowerChar := by
  cases text with
  | nil => rfl
  | cons first rest =>
      rw [List.tail_cons] at h
      have hfirst : (if first = 'Σ' then if isFinalSigma [] rest then ['ς'] else ['σ']
          else lowerChar first) = lowerChar first := by
        split
        · next hsigma =>
            have hfinal : isFinalSigma [] rest = false := rfl
            rw [hfinal, if_neg Bool.false_ne_true, hsigma]
            decide +kernel
        · rfl
      rw [lower, lowerAfter, hfirst, lowerAfter_eq_flatMap h]
      rfl

theorem lower_of_simple (h : ∀ char ∈ text, IsSimple char)
    (htail : ∀ char ∈ text.tail, isUpper char = false) : lower text = text.map small := by
  rw [lower_eq_flatMap htail]
  exact flatMap_singletons fun char hchar => (h char hchar).lower_eq

theorem upper_of_simple (h : ∀ char ∈ text, IsSimple char) :
    upper text = (text.map small).map capital := by
  rw [List.map_map]
  exact flatMap_singletons fun char hchar => (h char hchar).upper_eq

theorem capitalize_of_simple {first : Char} {rest : List Char}
    (h : ∀ char ∈ first :: rest, IsSimple char) (htail : ∀ char ∈ rest, isUpper char = false) :
    capitalize (first :: rest) = capital (small first) :: rest.map small := by
  rw [List.forall_mem_cons] at h
  rw [capitalize, h.1.title_eq, lowerAfter_eq_flatMap htail,
    flatMap_singletons fun char hchar => (h.2 char hchar).lower_eq]
  rfl

theorem flatMap_lowerChar_of_small (h : ∀ char ∈ text, IsSmall char) :
    text.flatMap lowerChar = text := by
  rw [flatMap_singletons fun char hchar => (h char hchar).lower_eq]
  exact List.map_id' text

theorem capitalize_of_small {first : Char} {rest : List Char}
    (h : ∀ char ∈ first :: rest, IsSmall char) :
    capitalize (first :: rest) = capital first :: rest := by
  rw [List.forall_mem_cons] at h
  rw [capitalize, h.1.title_eq, lowerAfter_eq_flatMap fun char hchar => (h.2 char hchar).not_upper,
    flatMap_lowerChar_of_small h.2]
  rfl

theorem lower_capital_cons {first : Char} {rest : List Char}
    (h : ∀ char ∈ first :: rest, IsSmall char) : lower (capital first :: rest) = first :: rest := by
  rw [List.forall_mem_cons] at h
  have htail : ∀ char ∈ (capital first :: rest).tail, isUpper char = false :=
    fun char hchar => (h.2 char hchar).not_upper
  rw [lower_eq_flatMap htail, List.flatMap_cons, h.1.capital_lower, flatMap_lowerChar_of_small h.2]
  rfl

end Texts

end JsonShape.Text

import JsonShape.Proofs.Go.Boundaries
import JsonShape.Proofs.Go.Units
import JsonShape.Proofs.Text.Ascii
import JsonShape.Proofs.Text.Folding

/-!
# Keys in different styles

A key is a row of words, written with separators in between or with capitals where a word
begins.  If the words are letters or digits of ASCII and no digits touch, they are found
again in any style, up to their capitals, and the name of the key only depends on them.
-/

set_option autoImplicit false

namespace JsonShape.Go

open Text

/-! ## Basic words -/

def isNumeral (word : List Char) : Bool := word.all Char.isDigit

/-- A word of letters from `a` to `z`, or of digits from `0` to `9`. -/
structure IsBasicWord (word : List Char) : Prop where
  ne_nil : word ≠ []
  uniform : word.all Char.isLower = true ∨ isNumeral word = true

instance (word : List Char) : Decidable (IsBasicWord word) :=
  decidable_of_iff (word ≠ [] ∧ (word.all Char.isLower = true ∨ isNumeral word = true))
    ⟨fun ⟨hne, huniform⟩ => ⟨hne, huniform⟩, fun h => ⟨h.ne_nil, h.uniform⟩⟩

namespace IsBasicWord

variable {word : List Char}

theorem isBasic (h : IsBasicWord word) : ∀ char ∈ word, isBasic char = true := by
  intro char hchar
  rw [Text.isBasic, Bool.or_eq_true]
  exact h.uniform.imp (fun hall => List.all_eq_true.mp hall char hchar)
    fun hall => List.all_eq_true.mp hall char hchar

theorem isDigit_eq (h : IsBasicWord word) : ∀ char ∈ word, isDigit char = isNumeral word := by
  intro char hchar
  have hbasic := h.isBasic char hchar
  rw [isDigit_of_isBasic hbasic]
  cases hnumeral : isNumeral word with
  | true => exact List.all_eq_true.mp hnumeral char hchar
  | false =>
      have hlower := h.uniform.resolve_right (Bool.eq_false_iff.mp hnumeral)
      rw [← Bool.not_eq_true', ← isLower_of_isBasic hbasic]
      exact List.all_eq_true.mp hlower char hchar

theorem isNameUnit (h : IsBasicWord word) : IsNameUnit word where
  ne_nil := h.ne_nil
  small char hchar := isSmall_of_isBasic (h.isBasic char hchar)
  digits char hchar other hother :=
    (h.isDigit_eq char hchar).trans (h.isDigit_eq other hother).symm

theorem isDigits_eq (h : IsBasicWord word) : isDigits word = isNumeral word := by
  obtain ⟨first, rest, hword⟩ := List.exists_cons_of_ne_nil h.ne_nil
  have hfirst : first ∈ word := hword ▸ List.mem_cons_self
  exact (h.isNameUnit.isDigit_eq first hfirst).symm.trans (h.isDigit_eq first hfirst)

theorem isSimple_of_mem_capitalize (h : IsBasicWord word) :
    ∀ char ∈ capitalize word, IsSimple char := by
  have hbasic := h.isBasic
  obtain ⟨first, rest, rfl⟩ := List.exists_cons_of_ne_nil h.ne_nil
  rw [capitalize_of_small h.isNameUnit.small]
  rw [List.forall_mem_cons] at hbasic ⊢
  exact ⟨isSimple_capital hbasic.1, fun char hchar => isSimple_of_isBasic (hbasic.2 char hchar)⟩

/-- Which words begin with a letter shows at the first character of a name. -/
theorem isUpper_capital {first : Char} {rest : List Char} (h : IsBasicWord (first :: rest)) :
    isUpper (capital first) = !isNumeral (first :: rest) := by
  have hbasic := h.isBasic first List.mem_cons_self
  rw [← h.isDigit_eq first List.mem_cons_self, isDigit_of_isBasic hbasic,
    ← isLower_of_isBasic hbasic]
  exact Text.isUpper_capital hbasic

theorem isExported_capitalize (h : IsBasicWord word) :
    isExported (capitalize word) = !isNumeral word := by
  obtain ⟨first, rest, rfl⟩ := List.exists_cons_of_ne_nil h.ne_nil
  rw [capitalize_of_small h.isNameUnit.small]
  exact h.isUpper_capital

theorem upper_eq_map (h : IsBasicWord word) : upper word = word.map capital := by
  have hsmall : word.map small = word := map_eq_self fun char hchar => by
    rw [small, (h.isNameUnit.small char hchar).lower_eq]
    rfl
  rw [upper_of_simple fun char hchar => isSimple_of_isBasic (h.isBasic char hchar), hsmall]

theorem capitalize_capitalize (h : IsBasicWord word) :
    capitalize (capitalize word) = capitalize word := by
  rw [← capitalize_lower h.isNameUnit.isSingleWord_capitalize h.isSimple_of_mem_capitalize,
    h.isNameUnit.lower_capitalize]

/-- A word is spelled alike whether it is capitalised or not. -/
theorem spell_capitalize (acronyms : List (List Char)) (h : IsBasicWord word) :
    spell acronyms (capitalize word) = spell acronyms word := by
  have hacronym : isAcronym acronyms (capitalize word) = isAcronym acronyms word := by
    rw [isAcronym, isAcronym, h.isNameUnit.lower_capitalize, h.isNameUnit.lower_eq_self]
  rw [spell_eq, spell_eq, hacronym, upper_capitalize h.isNameUnit.isSingleWord.tail,
    h.capitalize_capitalize]

theorem head?_spell (acronyms : List (List Char)) (h : IsBasicWord word) :
    (spell acronyms word).head? = word.head?.map capital := by
  rw [spell_eq]
  split
  · rw [h.upper_eq_map, List.head?_map]
  · obtain ⟨first, rest, rfl⟩ := List.exists_cons_of_ne_nil h.ne_nil
    rw [capitalize_of_small h.isNameUnit.small]
    rfl

/-- Names of rows of words are exported unless digits come first. -/
theorem isExported_spell_append (acronyms : List (List Char)) (h : IsBasicWord word)
    (name : List Char) : isExported (spell acronyms word ++ name) = !isNumeral word := by
  obtain ⟨first, rest, rfl⟩ := List.exists_cons_of_ne_nil h.ne_nil
  have hhead : capital first ∈ (spell acronyms (first :: rest) ++ name).head? := by
    rw [List.head?_append, h.head?_spell]
    rfl
  rw [isExported_eq hhead, h.isUpper_capital]

end IsBasicWord

/-! ## Names of rows of words -/

/-- The name of a row of words, with further acronyms. -/
def rowName (acronyms row : List (List Char)) : List Char :=
  let name := row.flatMap fun word =>
    if word ∈ (builtinAcronyms ++ acronyms).map lower then upper word else capitalize word
  if row.head?.any isNumeral then 'X' :: name else name

/-- Whether a text is a word, be it capitalised or not. -/
def IsRespelled (word text : List Char) : Prop := text = word ∨ text = capitalize word

namespace IsRespelled

variable {word text : List Char}

theorem isSingleWord (h : IsRespelled word text) (hword : IsBasicWord word) :
    IsSingleWord text := by
  rcases h with rfl | rfl
  · exact hword.isNameUnit.isSingleWord
  · exact hword.isNameUnit.isSingleWord_capitalize

theorem isDigit_eq (h : IsRespelled word text) (hword : IsBasicWord word) :
    ∀ char ∈ text, isDigit char = isNumeral word := by
  rcases h with rfl | rfl
  · exact hword.isDigit_eq
  · rw [← hword.isDigits_eq]
    exact hword.isNameUnit.isDigit_of_mem_capitalize

theorem spell_eq (acronyms : List (List Char)) (h : IsRespelled word text)
    (hword : IsBasicWord word) :
    spell acronyms text =
      if word ∈ acronyms.map lower then upper word else capitalize word := by
  have hspell : spell acronyms text = spell acronyms word := by
    rcases h with rfl | rfl
    · rfl
    · exact hword.spell_capitalize acronyms
  rw [hspell, spell, hword.isNameUnit.lower_eq_self]
  simp only [List.contains_iff_mem]

end IsRespelled

section Names

variable {row spelled : List (List Char)} {text : List Char}

theorem flatMap_spell (acronyms : List (List Char)) (hbasic : ∀ word ∈ row, IsBasicWord word)
    (h : List.Forall₂ IsRespelled row spelled) :
    spelled.flatMap (spell acronyms) = row.flatMap fun word =>
      if word ∈ acronyms.map lower then upper word else capitalize word := by
  induction h with
  | nil => rfl
  | cons hword _ ih =>
      rw [List.forall_mem_cons] at hbasic
      rw [List.flatMap_cons, List.flatMap_cons, ih hbasic.2, hword.spell_eq acronyms hbasic.1]

/-- The name of a text is that of the row of words it has, whatever their capitals. -/
theorem fieldName_eq_rowName (acronyms : List (List Char)) (hne : row ≠ [])
    (hbasic : ∀ word ∈ row, IsBasicWord word) (h : List.Forall₂ IsRespelled row (words text)) :
    fieldName acronyms text = rowName acronyms row := by
  have hname := flatMap_spell (builtinAcronyms ++ acronyms) hbasic h
  obtain ⟨first, rest, rfl⟩ := List.exists_cons_of_ne_nil hne
  have hfirst := hbasic first List.mem_cons_self
  have hexported : isExported (pascalCase (builtinAcronyms ++ acronyms) text) =
      !isNumeral first := by
    rw [pascalCase, hname, List.flatMap_cons, ← IsRespelled.spell_eq _ (.inl rfl) hfirst]
    exact hfirst.isExported_spell_append _ _
  rw [fieldName, hexported, pascalCase, hname, rowName]
  cases hnumeral : isNumeral first <;> simp [hnumeral]

end Names

/-! ## Styles -/

/-- Words that can be put together so that they are told apart again. -/
structure AreBasicWords (row : List (List Char)) : Prop where
  ne_nil : row ≠ []
  isBasicWord : ∀ word ∈ row, IsBasicWord word
  apart : row.IsChain fun left right => ¬(isNumeral left = true ∧ isNumeral right = true)

instance (row : List (List Char)) : Decidable (AreBasicWords row) :=
  decidable_of_iff (row ≠ [] ∧ (∀ word ∈ row, IsBasicWord word) ∧
      row.IsChain fun left right => ¬(isNumeral left = true ∧ isNumeral right = true))
    ⟨fun ⟨hne, hbasic, hapart⟩ => ⟨hne, hbasic, hapart⟩,
      fun h => ⟨h.ne_nil, h.isBasicWord, h.apart⟩⟩

/-- A row of words written with other characters in between. -/
inductive Separated : List (List Char) → List Char → Prop
  | single (word : List Char) : Separated [word] word
  | cons {rest : List (List Char)} {text : List Char} (word separator : List Char)
      (hne : separator ≠ []) (hseparator : ∀ char ∈ separator, isAlphanumeric char = false)
      (h : Separated rest text) : Separated (word :: rest) (word ++ (separator ++ text))

/-- A row of words written with separators, or with capitals where a word begins. -/
inductive Styled : List (List Char) → List Char → Prop
  | separated {row : List (List Char)} {text : List Char} (h : Separated row text) :
      Styled row text
  | camelCase (first : List Char) (rest : List (List Char)) :
      Styled (first :: rest) (first ++ rest.flatMap capitalize)
  | pascalCase (row : List (List Char)) : Styled row (row.flatMap capitalize)

section Styles

variable {row : List (List Char)} {text : List Char}

theorem words_separated (h : Separated row text) (hbasic : ∀ word ∈ row, IsBasicWord word) :
    words text = row := by
  induction h with
  | single word =>
      exact words_eq_self (List.forall_mem_singleton.mp hbasic).isNameUnit.isSingleWord
  | cons word separator hne hseparator _ ih =>
      rw [List.forall_mem_cons] at hbasic
      rw [words_append, words_append, words_eq_self hbasic.1.isNameUnit.isSingleWord,
        words_eq_nil hseparator, ih hbasic.2]
      · rfl
      · exact fun last hlast first _ =>
          sameWord_eq_false_of_left (hseparator last (List.mem_of_mem_getLast? hlast))
      · intro last _ first hfirst
        rw [List.head?_append_of_ne_nil _ hne] at hfirst
        exact sameWord_eq_false_of_right (hseparator first (List.mem_of_mem_head? hfirst))

/-- A capitalised word is cut from the word before it, unless both are digits. -/
theorem IsBasicWord.cut_capitalize {left right : List Char} (hleft : IsBasicWord left)
    (hright : IsBasicWord right) (htext : IsRespelled left text)
    (hapart : ¬(isNumeral left = true ∧ isNumeral right = true)) :
    Cut text (capitalize right) := by
  intro last hlast first hfirst
  have hupper := hright.isExported_capitalize
  rw [isExported_eq hfirst] at hupper
  have hdigit : isDigit first = isNumeral right :=
    IsRespelled.isDigit_eq (.inr rfl) hright first (List.mem_of_mem_head? hfirst)
  rw [hupper, hdigit, htext.isDigit_eq hleft last (List.mem_of_mem_getLast? hlast)]
  revert hapart
  cases isNumeral left <;> cases isNumeral right <;> decide

theorem isChain_cut {first : List Char} {rest : List (List Char)}
    (h : AreBasicWords (first :: rest)) (htext : IsRespelled first text) :
    (text :: rest.map capitalize).IsChain Cut := by
  obtain ⟨-, hbasic, hapart⟩ := h
  induction rest generalizing first text with
  | nil => exact .singleton text
  | cons next rest ih =>
      rw [List.forall_mem_cons] at hbasic
      rw [List.isChain_cons_cons] at hapart
      refine .cons_cons ?_ (ih (.inr rfl) hbasic.2 hapart.2)
      exact hbasic.1.cut_capitalize (hbasic.2 next List.mem_cons_self) htext hapart.1

/-- Words that touch are told apart if all but the first are capitalised. -/
theorem words_append_capitalized {first : List Char} {rest : List (List Char)}
    (h : AreBasicWords (first :: rest)) (htext : IsRespelled first text) :
    words (text ++ rest.flatMap capitalize) = text :: rest.map capitalize := by
  have hbasic := List.forall_mem_cons.mp h.isBasicWord
  have hsingle : ∀ word ∈ text :: rest.map capitalize, IsSingleWord word :=
    List.forall_mem_cons.mpr ⟨htext.isSingleWord hbasic.1, List.forall_mem_map.mpr
      fun word hword => (hbasic.2 word hword).isNameUnit.isSingleWord_capitalize⟩
  rw [List.flatMap_def, ← List.flatten_cons, words_flatten hsingle (isChain_cut h htext)]

theorem forall₂_capitalize (row : List (List Char)) :
    List.Forall₂ IsRespelled row (row.map capitalize) :=
  List.forall₂_map_right_iff.mpr (List.forall₂_same.mpr fun _ _ => .inr rfl)

/-- The words of a row are found in each style, some of them capitalised. -/
theorem forall₂_words (hrow : AreBasicWords row) (h : Styled row text) :
    List.Forall₂ IsRespelled row (words text) := by
  cases h with
  | separated h =>
      rw [words_separated h hrow.isBasicWord]
      exact List.forall₂_same.mpr fun _ _ => .inl rfl
  | camelCase first rest =>
      rw [words_append_capitalized hrow (.inl rfl)]
      exact .cons (.inl rfl) (forall₂_capitalize rest)
  | pascalCase =>
      obtain ⟨first, rest, rfl⟩ := List.exists_cons_of_ne_nil hrow.ne_nil
      rw [List.flatMap_cons, words_append_capitalized hrow (.inr rfl)]
      exact forall₂_capitalize (first :: rest)

end Styles

/-- A row of words has the same name in each style. -/
theorem fieldName_of_styled (acronyms row : List (List Char)) {text : List Char}
    (hrow : AreBasicWords row) (h : Styled row text) :
    fieldName acronyms text = rowName acronyms row :=
  fieldName_eq_rowName acronyms hrow.ne_nil hrow.isBasicWord (forall₂_words hrow h)

theorem fieldName_of_styled_numbered :
    let acronyms := [['S', 'k', 'u']]
    let row := [['2'], ['u', 's', 'e', 'r'], ['i', 'd'], ['4', '2'], ['s', 'k', 'u']]
    rowName acronyms row = "X2UserID42SKU".toList ∧
      fieldName acronyms "2-user_id 42.sku".toList = "X2UserID42SKU".toList ∧
      fieldName acronyms "2UserId42Sku".toList = "X2UserID42SKU".toList := by
  intro acronyms row
  have hrow : AreBasicWords row := by decide
  have hname : rowName acronyms row = "X2UserID42SKU".toList := by decide +kernel
  have hblank (char : Char) (h : isAlphanumeric char = false) :
      ∀ other ∈ [char], isAlphanumeric other = false := List.forall_mem_singleton.mpr h
  have hseparated : Separated row "2-user_id 42.sku".toList :=
    .cons ['2'] ['-'] (by decide) (hblank '-' (by decide +kernel))
      (.cons ['u', 's', 'e', 'r'] ['_'] (by decide) (hblank '_' (by decide +kernel))
        (.cons ['i', 'd'] [' '] (by decide) (hblank ' ' (by decide +kernel))
          (.cons ['4', '2'] ['.'] (by decide) (hblank '.' (by decide +kernel))
            (.single ['s', 'k', 'u']))))
  have hpascal : row.flatMap capitalize = "2UserId42Sku".toList := by decide +kernel
  refine ⟨hname, ?_, ?_⟩
  · rw [fieldName_of_styled acronyms row hrow (.separated hseparated), hname]
  · rw [← hpascal, fieldName_of_styled acronyms row hrow (.pascalCase row), hname]

end JsonShape.Go

import JsonShape.Proofs.Go.Words
import JsonShape.Proofs.Text.Category

/-!
# Exported identifiers

A field name begins with an upper-case character, which is what makes Go export it.
The characters behind it come from the key, though, and words are made of more than
an identifier may hold: of all characters with a numeric value, and a few letters
gain a combining mark when they are written in another case.
`fieldName_isExportedIdentifier_iff` says of which keys the name is an identifier.
-/

set_option autoImplicit false

namespace JsonShape.Go

open Text

/-- Whether Go takes a text for a name and exports it: an upper-case letter comes first,
and letters, decimal digits or underscores follow. -/
def IsExportedIdentifier (name : List Char) : Prop :=
  ∃ first rest, name = first :: rest ∧ (isUpper first = true ∧ isLetter first = true) ∧
    ∀ char ∈ rest, isIdentifierChar char = true

theorem isExportedIdentifier_iff {name : List Char} :
    IsExportedIdentifier name ↔ isExported name = true ∧ name.all isIdentifierChar = true := by
  constructor
  · rintro ⟨first, rest, rfl, ⟨hupper, hletter⟩, hrest⟩
    refine ⟨hupper, List.all_eq_true.mpr (List.forall_mem_cons.mpr ⟨?_, hrest⟩)⟩
    rw [isIdentifierChar, hletter, Bool.true_or, Bool.true_or]
  · rintro ⟨hexported, hall⟩
    cases name with
    | nil => exact absurd hexported Bool.false_ne_true
    | cons first rest =>
        rw [List.all_eq_true, List.forall_mem_cons] at hall
        exact ⟨first, rest, rfl, ⟨hexported, isLetter_of_isUpper hexported hall.1⟩, hall.2⟩

instance (name : List Char) : Decidable (IsExportedIdentifier name) :=
  decidable_of_iff _ isExportedIdentifier_iff.symm

/-! ## Words that fit -/

/-- Whether a letter gains a combining mark in the spelling of its word: any letter of an
acronym may, and the first of another word. -/
def GainsMark (acronyms : List (List Char)) (word : List Char) : Prop :=
  if isAcronym acronyms word then ∃ char ∈ word, char.toNat ∈ markedInUpper
  else ∃ char ∈ word.head?, char.toNat ∈ markedInTitle

variable {acronyms : List (List Char)} {word text : List Char}

theorem all_upper (h : ∀ char ∈ word, isAlphanumeric char = true) :
    (upper word).all isIdentifierChar = true ↔
      word.all isIdentifierChar = true ∧ ¬ ∃ char ∈ word, char.toNat ∈ markedInUpper := by
  rw [upper, List.all_flatMap, List.all_eq_true, List.all_eq_true]
  push Not
  rw [← forall₂_and]
  refine forall₂_congr fun char hchar => ?_
  rw [fits_upperChar (h char hchar), Bool.and_eq_true, Bool.not_eq_true', ← Bool.not_eq_true,
    List.contains_iff_mem]

theorem all_capitalize (h : ∀ char ∈ word, isAlphanumeric char = true)
    (hlower : ∀ char ∈ word.tail, isUpper char = false) :
    (capitalize word).all isIdentifierChar = true ↔
      word.all isIdentifierChar = true ∧ ¬ ∃ char ∈ word.head?, char.toNat ∈ markedInTitle := by
  cases word with
  | nil => simp [capitalize]
  | cons first rest =>
      obtain ⟨hfirst, hrest⟩ := List.forall_mem_cons.mp h
      rw [capitalize, List.all_append, fits_titleChar hfirst, fits_lowerAfter hrest hlower,
        List.all_cons, Bool.and_eq_true, Bool.and_eq_true, Bool.and_eq_true, Bool.not_eq_true',
        ← Bool.not_eq_true, List.contains_iff_mem]
      simp only [List.head?_cons, Option.mem_def, Option.some.injEq, exists_eq_left']
      tauto

/-- The spelling of a word fits in an identifier if the word does and gains no mark. -/
theorem all_spell (h : word ∈ words text) :
    (spell acronyms word).all isIdentifierChar = true ↔
      word.all isIdentifierChar = true ∧ ¬ GainsMark acronyms word := by
  have hword := isSingleWord_of_mem_words h
  rw [spell_eq, GainsMark]
  split
  · exact all_upper hword.alphanumeric
  · exact all_capitalize hword.alphanumeric hword.tail

theorem all_pascalCase (acronyms : List (List Char)) (text : List Char) :
    (pascalCase acronyms text).all isIdentifierChar = true ↔
      (∀ char ∈ text, isAlphanumeric char = true → isIdentifierChar char = true) ∧
        ∀ word ∈ words text, ¬ GainsMark acronyms word := by
  have hwords : (∀ word ∈ words text, word.all isIdentifierChar = true) ↔
      ∀ char ∈ text, isAlphanumeric char = true → isIdentifierChar char = true := by
    rw [← List.all_eq_true, ← List.all_flatten, flatten_words, List.all_eq_true]
    simp only [List.mem_filter, and_imp]
  rw [pascalCase, List.all_flatMap, List.all_eq_true, ← hwords, ← forall₂_and]
  exact forall₂_congr fun word hword => all_spell hword

/-! ## Names -/

theorem isExported_fieldName (acronyms : List (List Char)) (key : List Char) :
    isExported (fieldName acronyms key) = true := by
  rw [fieldName]
  split
  · assumption
  · exact show isUpper 'X' = true by decide

/-- The name for a key is an identifier that Go exports exactly if all letters and numbers
of the key are letters or decimal digits, and no letter gains a combining mark where a
word is written in upper case or capitalised. -/
theorem fieldName_isExportedIdentifier_iff (acronyms : List (List Char)) (key : List Char) :
    IsExportedIdentifier (fieldName acronyms key) ↔
      (∀ char ∈ key, isAlphanumeric char = true → (isLetter char || isDecimal char) = true) ∧
        ∀ word ∈ words key, ¬ GainsMark (builtinAcronyms ++ acronyms) word := by
  have hname : (fieldName acronyms key).all isIdentifierChar =
      (pascalCase (builtinAcronyms ++ acronyms) key).all isIdentifierChar := by
    rw [fieldName]
    split
    · rfl
    · rw [List.all_cons, show isIdentifierChar 'X' = true by decide, Bool.true_and]
  rw [isExportedIdentifier_iff, isExported_fieldName, hname, all_pascalCase]
  simp only [true_and]
  refine and_congr_left' (forall₂_congr fun char _ => forall_congr' fun halphanumeric => ?_)
  rw [isIdentifierChar_of_isAlphanumeric halphanumeric]

/-- Three keys whose names Go rejects: a fraction, a small Roman numeral, and a letter
that has no upper-case form of its own. -/
theorem fieldName_not_isExportedIdentifier :
    (fieldName [] ['½'] = ['X', '½'] ∧ ¬ IsExportedIdentifier (fieldName [] ['½'])) ∧
      (fieldName [] ['ⅷ'] = ['Ⅷ'] ∧ ¬ IsExportedIdentifier (fieldName [] ['ⅷ'])) ∧
      fieldName [] ['ǰ'] = ['J', '\u030c'] ∧ ¬ IsExportedIdentifier (fieldName [] ['ǰ']) := by
  decide +kernel

end JsonShape.Go

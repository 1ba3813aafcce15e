import JsonShape.Proofs.Go.FieldName
import Mathlib.Data.List.SplitBy

/-!
# The words of a text

Cutting a text into words drops what is neither a letter nor a number, and nothing
else.  A word begins anew at every upper-case character, so such a character can only
be the first of its word, and a word is made of digits or has none.  Texts of which
this holds are words, wherever they stand next to each other with a cut in between.
-/

set_option autoImplicit false

namespace JsonShape.Go

open Text

/-- Whether a word is spelled as an acronym. -/
def isAcronym (acronyms : List (List Char)) (word : List Char) : Bool :=
  (acronyms.map lower).contains (lower word)

theorem spell_eq (acronyms : List (List Char)) (word : List Char) :
    spell acronyms word = if isAcronym acronyms word then upper word else capitalize word := rfl

theorem sameWord_iff {previous char : Char} :
    sameWord previous char = true ↔
      (isAlphanumeric previous = true ∧ isAlphanumeric char = true) ∧
        isUpper char = false ∧ isDigit char = isDigit previous := by
  simp [sameWord, Bool.and_eq_true, and_assoc]

/-- Whether nothing in a text makes a cut. -/
structure IsSingleWord (text : List Char) : Prop where
  ne_nil : text ≠ []
  alphanumeric : ∀ char ∈ text, isAlphanumeric char = true
  tail : ∀ char ∈ text.tail, isUpper char = false
  digits : ∀ char ∈ text, ∀ other ∈ text, isDigit char = isDigit other

/-- What each member of a chain takes over from the one before, all take over from the first. -/
theorem tail_of_isChain {α β : Type} {R : α → α → Prop} (holds : α → Prop) (f : α → β)
    (hR : ∀ left right, R left right → holds right ∧ f right = f left) {first : α}
    {rest : List α} (h : (first :: rest).IsChain R) :
    ∀ value ∈ rest, holds value ∧ f value = f first := by
  induction rest generalizing first with
  | nil => simp
  | cons next rest ih =>
      rw [List.isChain_cons_cons] at h
      have hnext := hR _ _ h.1
      refine List.forall_mem_cons.mpr ⟨hnext, fun value hvalue => ?_⟩
      exact (ih h.2 value hvalue).imp_right fun heq => heq.trans hnext.2

section Words

variable {text word : List Char}

theorem isSingleWord_of_mem_words (h : word ∈ words text) : IsSingleWord word := by
  obtain ⟨hpiece, hword⟩ := List.mem_filter.mp h
  have hchain := List.isChain_of_mem_splitBy hpiece
  cases word with
  | nil => exact absurd hpiece (List.nil_notMem_splitBy sameWord text)
  | cons first rest =>
      have htail := tail_of_isChain (fun char => isUpper char = false) isDigit
        (fun _ _ hsame => (sameWord_iff.mp hsame).2) hchain
      have hdigit : ∀ char ∈ first :: rest, isDigit char = isDigit first :=
        List.forall_mem_cons.mpr ⟨rfl, fun char hchar => (htail char hchar).2⟩
      exact {
        ne_nil := List.cons_ne_nil _ _
        alphanumeric := List.all_eq_true.mp hword
        tail := fun char hchar => (htail char hchar).1
        digits := fun char hchar other hother =>
          (hdigit char hchar).trans (hdigit other hother).symm }

/-- A piece of a text is a word, or a single character that belongs to none. -/
theorem filter_piece {piece : List Char} (h : piece ∈ text.splitBy sameWord) :
    piece.filter isAlphanumeric = if isWord piece then piece else [] := by
  split
  · rename_i hword
    exact List.filter_eq_self.mpr fun char hchar => List.all_eq_true.mp hword char hchar
  · rename_i hword
    cases piece with
    | nil => rfl
    | cons first rest =>
        cases rest with
        | nil =>
            rw [isWord, List.all_cons, List.all_nil, Bool.and_true] at hword
            rw [List.filter_singleton, Bool.eq_false_iff.mpr hword]
            rfl
        | cons next rest =>
            have hchain := List.isChain_of_mem_splitBy h
            have hfirst := (sameWord_iff.mp (List.isChain_cons_cons.mp hchain).1).1.1
            have hrest := tail_of_isChain (fun char => isAlphanumeric char = true) isDigit
              (fun _ _ hsame => (sameWord_iff.mp hsame).imp And.right And.right) hchain
            have hall : ∀ char ∈ first :: next :: rest, isAlphanumeric char = true :=
              List.forall_mem_cons.mpr ⟨hfirst, fun char hchar => (hrest char hchar).1⟩
            exact absurd (List.all_eq_true.mpr hall) hword

/-- The words of a text together are its letters and numbers. -/
theorem flatten_words (text : List Char) :
    (words text).flatten = text.filter isAlphanumeric := by
  have hpieces : (text.splitBy sameWord).map (List.filter isAlphanumeric) =
      (text.splitBy sameWord).map fun piece => if isWord piece then piece else [] :=
    List.map_congr_left fun piece hpiece => filter_piece hpiece
  have hflatten (pieces : List (List Char)) :
      (pieces.map fun piece => if isWord piece then piece else []).flatten =
        (pieces.filter isWord).flatten := by
    induction pieces with
    | nil => rfl
    | cons piece rest ih =>
        rw [List.map_cons, List.flatten_cons, ih, List.filter_cons]
        split <;> rfl
  calc (words text).flatten
      = ((text.splitBy sameWord).map (List.filter isAlphanumeric)).flatten := by
        rw [hpieces, hflatten, words]
    _ = text.filter isAlphanumeric := by
        rw [← List.filter_flatten, List.flatten_splitBy]

theorem mem_of_mem_words (h : word ∈ words text) {char : Char} (hchar : char ∈ word) :
    char ∈ text ∧ isAlphanumeric char = true := by
  rw [← List.mem_filter, ← flatten_words]
  exact List.mem_flatten.mpr ⟨word, h, hchar⟩

end Words

/-! ## Words side by side -/

/-- Whether a text is cut between two of its words that touch: an upper-case character
begins the second, or digits are on one side only. -/
def Cut (left right : List Char) : Prop :=
  ∀ last ∈ left.getLast?, ∀ first ∈ right.head?,
    isUpper first = true ∨ isDigit first ≠ isDigit last

theorem Cut.sameWord_eq_false {left right : List Char} (h : Cut left right) {last first : Char}
    (hlast : last ∈ left.getLast?) (hfirst : first ∈ right.head?) :
    sameWord last first = false := by
  rw [Bool.eq_false_iff]
  intro hsame
  obtain ⟨-, hupper, hdigit⟩ := sameWord_iff.mp hsame
  rcases h last hlast first hfirst with hcut | hcut
  · rw [hupper] at hcut
    exact Bool.false_ne_true hcut
  · exact hcut hdigit

namespace IsSingleWord

variable {text : List Char}

theorem isChain (h : IsSingleWord text) :
    text.IsChain fun previous char => sameWord previous char = true := by
  rw [List.isChain_iff_getElem]
  intro index hindex
  have htail : text[index + 1] ∈ text.tail := by
    rw [← List.getElem_tail (by simpa using Nat.lt_sub_of_add_lt hindex)]
    exact List.getElem_mem _
  exact sameWord_iff.mpr ⟨⟨h.alphanumeric _ (List.getElem_mem _),
    h.alphanumeric _ (List.getElem_mem _)⟩, h.tail _ htail,
    h.digits _ (List.getElem_mem _) _ (List.getElem_mem _)⟩

end IsSingleWord

/-- Single words with cuts in between are the words of what they make up together. -/
theorem words_flatten {pieces : List (List Char)} (h : ∀ piece ∈ pieces, IsSingleWord piece)
    (hcuts : pieces.IsChain Cut) : words pieces.flatten = pieces := by
  have hsplit : pieces.flatten.splitBy sameWord = pieces := by
    refine List.splitBy_flatten (fun hnil => (h _ hnil).ne_nil rfl)
      (fun piece hpiece => (h piece hpiece).isChain) ?_
    refine hcuts.imp_of_mem_imp fun left right hleft hright hcut => ?_
    refine ⟨(h left hleft).ne_nil, (h right hright).ne_nil, ?_⟩
    exact hcut.sameWord_eq_false (List.getLast?_eq_some_getLast _) (List.head?_eq_some_head _)
  rw [words, hsplit, List.filter_eq_self]
  exact fun piece hpiece => List.all_eq_true.mpr (h piece hpiece).alphanumeric

end JsonShape.Go

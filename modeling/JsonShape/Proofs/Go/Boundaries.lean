import JsonShape.Proofs.Go.Words

/-!
# Where a text is cut

The words of a text are described without the way they are found: together they are its
letters and numbers, they follow one another in the text, no boundary is left inside of
one, and there is one between any two.  Only one row of words fits the description.
-/

set_option autoImplicit false

namespace JsonShape.Go

open Text

/-! ## Texts put together -/

section Together

variable {left right text word : List Char}

/-- Texts side by side are cut apart where the second does not go on with a word. -/
theorem words_append (h : ∀ last ∈ left.getLast?, ∀ first ∈ right.head?,
    sameWord last first = false) : words (left ++ right) = words left ++ words right := by
  rw [words, List.splitBy_append h, List.filter_append, words, words]

theorem words_eq_nil (h : ∀ char ∈ text, isAlphanumeric char = false) : words text = [] := by
  rw [List.eq_nil_iff_forall_not_mem]
  intro word hword
  have hflatten := flatten_words text
  rw [List.filter_eq_nil_iff.mpr fun char hchar => by simp [h char hchar]] at hflatten
  have hnil := List.flatten_eq_nil_iff.mp hflatten word hword
  exact (isSingleWord_of_mem_words hword).ne_nil hnil

theorem words_eq_self (h : IsSingleWord word) : words word = [word] := by
  have hwords := words_flatten (List.forall_mem_singleton.mpr h) (List.isChain_singleton word)
  rwa [List.flatten_singleton] at hwords

theorem sameWord_eq_false_of_left {previous char : Char} (h : isAlphanumeric previous = false) :
    sameWord previous char = false := by
  rw [sameWord, h, Bool.false_and, Bool.false_and, Bool.false_and]

theorem sameWord_eq_false_of_right {previous char : Char} (h : isAlphanumeric char = false) :
    sameWord previous char = false := by
  rw [sameWord, h, Bool.and_false, Bool.false_and, Bool.false_and]

end Together

/-! ## Words in a text -/

/-- A text with something before its first word, and then the words with what stands after
each of them. -/
def runningText : List Char → List (List Char × List Char) → List Char
  | before, [] => before
  | before, (word, after) :: rest => before ++ (word ++ runningText after rest)

/-- Whether there is a boundary between two words with a text in between. -/
def CutBetween (left between right : List Char) : Prop :=
  (∃ char ∈ between, isAlphanumeric char = false) ∨ Cut left right

/-- Whether a text is cut into certain words. -/
structure IsSplit (text : List Char) (pieces : List (List Char)) : Prop where
  letters : pieces.flatten = text.filter isAlphanumeric
  placed : ∃ before row, text = runningText before row ∧ pieces = row.map Prod.fst ∧
    row.IsChain fun left right => CutBetween left.1 left.2 right.1
  ne_nil : ∀ piece ∈ pieces, piece ≠ []
  tail : ∀ piece ∈ pieces, ∀ char ∈ piece.tail, isUpper char = false
  digits : ∀ piece ∈ pieces, ∀ char ∈ piece, ∀ other ∈ piece, isDigit char = isDigit other

section Running

variable {before : List Char} {row : List (List Char × List Char)}

theorem head?_runningText {before : List Char} (h : before ≠ [])
    (row : List (List Char × List Char)) : (runningText before row).head? = before.head? := by
  obtain ⟨char, others, rfl⟩ := List.exists_cons_of_ne_nil h
  cases row <;> rfl

/-- A word is cut from what comes next, be it no word or the next one. -/
theorem sameWord_eq_false_of_cutBetween {word after : List Char}
    (hafter : ∀ char ∈ after, isAlphanumeric char = false)
    (hne : ∀ entry ∈ row, entry.1 ≠ [])
    (hcut : ∀ entry ∈ row.head?, CutBetween word after entry.1) {last first : Char}
    (hlast : last ∈ word.getLast?) (hfirst : first ∈ (runningText after row).head?) :
    sameWord last first = false := by
  by_cases hnil : after = []
  · subst hnil
    cases row with
    | nil => cases hfirst
    | cons next rest =>
        obtain ⟨word', after'⟩ := next
        rw [runningText, List.nil_append, List.head?_append_of_ne_nil _
          (hne _ List.mem_cons_self)] at hfirst
        rcases hcut _ rfl with ⟨char, hchar, -⟩ | hcut
        · cases hchar
        · exact hcut.sameWord_eq_false hlast hfirst
  · rw [head?_runningText hnil] at hfirst
    exact sameWord_eq_false_of_right (hafter first (List.mem_of_mem_head? hfirst))

theorem words_runningText (hbefore : ∀ char ∈ before, isAlphanumeric char = false)
    (hwords : ∀ entry ∈ row, IsSingleWord entry.1)
    (hgaps : ∀ entry ∈ row, ∀ char ∈ entry.2, isAlphanumeric char = false)
    (hcuts : row.IsChain fun left right => CutBetween left.1 left.2 right.1) :
    words (runningText before row) = row.map Prod.fst := by
  induction row generalizing before with
  | nil => exact words_eq_nil hbefore
  | cons entry rest ih =>
      obtain ⟨word, after⟩ := entry
      rw [List.forall_mem_cons] at hwords hgaps
      rw [List.isChain_cons] at hcuts
      have hne : ∀ entry ∈ rest, entry.1 ≠ [] := fun entry hentry => (hwords.2 entry hentry).ne_nil
      rw [runningText, words_append, words_append, words_eq_nil hbefore, words_eq_self hwords.1,
        ih hgaps.1 hwords.2 hgaps.2 hcuts.2]
      · rfl
      · exact fun last hlast first hfirst =>
          sameWord_eq_false_of_cutBetween hgaps.1 hne hcuts.1 hlast hfirst
      · exact fun last hlast first _ =>
          sameWord_eq_false_of_left (hbefore last (List.mem_of_mem_getLast? hlast))

theorem length_filter_runningText (before : List Char)
    (hwords : ∀ entry ∈ row, ∀ char ∈ entry.1, isAlphanumeric char = true) :
    ((runningText before row).filter isAlphanumeric).length = (row.map Prod.fst).flatten.length +
      ((before ++ (row.map Prod.snd).flatten).filter isAlphanumeric).length := by
  induction row generalizing before with
  | nil => simp [runningText]
  | cons entry rest ih =>
      obtain ⟨word, after⟩ := entry
      rw [List.forall_mem_cons] at hwords
      have hword : word.filter isAlphanumeric = word := List.filter_eq_self.mpr hwords.1
      have hrest := ih after hwords.2
      simp only [runningText, List.filter_append, List.length_append, List.map_cons,
        List.flatten_cons, hword] at hrest ⊢
      omega

/-- If the words of a row are all letters and numbers of its text, none stands in between. -/
theorem filter_gaps_eq_nil
    (hwords : ∀ entry ∈ row, ∀ char ∈ entry.1, isAlphanumeric char = true)
    (h : (row.map Prod.fst).flatten = (runningText before row).filter isAlphanumeric) :
    (before ++ (row.map Prod.snd).flatten).filter isAlphanumeric = [] := by
  have hlength := length_filter_runningText before hwords
  rw [← h] at hlength
  exact List.eq_nil_of_length_eq_zero (by omega)

end Running

/-! ## The words are a split -/

/-- A piece that is no word is something between the words. -/
theorem not_alphanumeric_of_mem_piece {text piece : List Char}
    (hpiece : piece ∈ text.splitBy sameWord) (h : isWord piece = false) :
    ∀ char ∈ piece, isAlphanumeric char = false := by
  have hfilter := filter_piece hpiece
  rw [h, if_neg Bool.false_ne_true, List.filter_eq_nil_iff] at hfilter
  exact fun char hchar => Bool.eq_false_iff.mpr (hfilter char hchar)

theorem cut_of_sameWord_eq_false {left right : List Char} (hleft : isWord left = true)
    (hright : isWord right = true) (h : ∀ last ∈ left.getLast?, ∀ first ∈ right.head?,
      sameWord last first = false) : Cut left right := by
  intro last hlast first hfirst
  have hsame := h last hlast first hfirst
  rw [sameWord, List.all_eq_true.mp hleft last (List.mem_of_mem_getLast? hlast),
    List.all_eq_true.mp hright first (List.mem_of_mem_head? hfirst), Bool.and_self,
    Bool.true_and, Bool.and_eq_false_iff, Bool.not_eq_false', beq_eq_false_iff_ne] at hsame
  exact hsame

/-- Between a word and the next one of the pieces that follow there is a boundary. -/
theorem cutBetween_of_pieces {word before : List Char} {pieces : List (List Char)}
    {row : List (List Char × List Char)} (hword : isWord word = true)
    (hfilter : pieces.filter isWord = row.map Prod.fst)
    (hbefore : ∀ char ∈ before, isAlphanumeric char = false)
    (hhead : before = [] → pieces.head? = (row.map Prod.fst).head?)
    (hcut : ∀ piece ∈ pieces.head?, ∃ hleft hright,
      sameWord (word.getLast hleft) (piece.head hright) = false)
    {next : List Char × List Char} (hnext : next ∈ row.head?) :
    CutBetween word before next.1 := by
  cases before with
  | cons char others => exact .inl ⟨char, List.mem_cons_self, hbefore char List.mem_cons_self⟩
  | nil =>
      have hmem : next.1 ∈ pieces.filter isWord :=
        hfilter ▸ List.mem_map_of_mem (List.mem_of_mem_head? hnext)
      have hfirst : next.1 ∈ pieces.head? := by
        rw [hhead rfl, List.head?_map, Option.mem_def.mp hnext]
        rfl
      obtain ⟨hleft, hright, hsame⟩ := hcut next.1 hfirst
      refine .inr (cut_of_sameWord_eq_false hword (List.mem_filter.mp hmem).2 ?_)
      intro last hlast first hfirst
      rwa [← List.getLast_of_mem_getLast? hlast, ← List.head_of_mem_head? hfirst]

/-- Pieces of a text can be put in a row of words. -/
theorem exists_row {pieces : List (List Char)} (hne : [] ∉ pieces)
    (hgaps : ∀ piece ∈ pieces, isWord piece = false → ∀ char ∈ piece, isAlphanumeric char = false)
    (hcuts : pieces.IsChain fun left right =>
      ∃ hleft hright, sameWord (left.getLast hleft) (right.head hright) = false) :
    ∃ before row, pieces.flatten = runningText before row ∧
      pieces.filter isWord = row.map Prod.fst ∧
      (row.IsChain fun left right => CutBetween left.1 left.2 right.1) ∧
      (∀ char ∈ before, isAlphanumeric char = false) ∧
      (before = [] → pieces.head? = (row.map Prod.fst).head?) := by
  induction pieces with
  | nil => exact ⟨[], [], rfl, rfl, .nil, by simp, fun _ => rfl⟩
  | cons piece rest ih =>
      rw [List.mem_cons, not_or] at hne
      rw [List.forall_mem_cons] at hgaps
      rw [List.isChain_cons] at hcuts
      obtain ⟨before, row, hflatten, hfilter, hrow, hbefore, hhead⟩ := ih hne.2 hgaps.2 hcuts.2
      cases hword : isWord piece with
      | true =>
          refine ⟨[], (piece, before) :: row, ?_, ?_, ?_, by simp, fun _ => rfl⟩
          · rw [List.flatten_cons, hflatten, runningText, List.nil_append]
          · rw [List.filter_cons_of_pos hword, hfilter, List.map_cons]
          · refine List.isChain_cons.mpr ⟨fun next hnext => ?_, hrow⟩
            exact cutBetween_of_pieces hword hfilter hbefore hhead hcuts.1 hnext
      | false =>
          refine ⟨piece ++ before, row, ?_, ?_, hrow, ?_, fun hnil => ?_⟩
          · rw [List.flatten_cons, hflatten]
            cases row with
            | nil => rfl
            | cons => rw [runningText, runningText, List.append_assoc]
          · rw [List.filter_cons_of_neg (Bool.eq_false_iff.mp hword), hfilter]
          · exact List.forall_mem_append.mpr ⟨hgaps.1 hword, hbefore⟩
          · exact absurd (List.append_eq_nil_iff.mp hnil).1 (Ne.symm hne.1)

theorem isSplit_words (text : List Char) : IsSplit text (words text) := by
  obtain ⟨before, row, hflatten, hfilter, hrow, -, -⟩ :=
    exists_row (List.nil_notMem_splitBy sameWord text)
      (fun piece hpiece => not_alphanumeric_of_mem_piece hpiece)
      (List.isChain_getLast_head_splitBy sameWord text)
  rw [List.flatten_splitBy] at hflatten
  exact {
    letters := flatten_words text
    placed := ⟨before, row, hflatten, hfilter, hrow⟩
    ne_nil := fun word hword => (isSingleWord_of_mem_words hword).ne_nil
    tail := fun word hword => (isSingleWord_of_mem_words hword).tail
    digits := fun word hword => (isSingleWord_of_mem_words hword).digits }

theorem IsSplit.eq_words {text : List Char} {pieces : List (List Char)} (h : IsSplit text pieces) :
    pieces = words text := by
  obtain ⟨before, row, rfl, rfl, hrow⟩ := h.placed
  have halphanumeric : ∀ piece ∈ row.map Prod.fst, ∀ char ∈ piece, isAlphanumeric char = true := by
    intro piece hpiece char hchar
    have hmem := h.letters ▸ List.mem_flatten.mpr ⟨piece, hpiece, hchar⟩
    exact (List.mem_filter.mp hmem).2
  have hgaps := filter_gaps_eq_nil
    (fun entry hentry => halphanumeric _ (List.mem_map_of_mem hentry)) h.letters
  rw [List.filter_eq_nil_iff] at hgaps
  refine (words_runningText ?_ ?_ ?_ hrow).symm
  · exact fun char hchar => Bool.eq_false_iff.mpr (hgaps char (List.mem_append_left _ hchar))
  · intro entry hentry
    have hmem : entry.1 ∈ row.map Prod.fst := List.mem_map_of_mem hentry
    exact ⟨h.ne_nil _ hmem, halphanumeric _ hmem, h.tail _ hmem, h.digits _ hmem⟩
  · intro entry hentry char hchar
    refine Bool.eq_false_iff.mpr (hgaps char (List.mem_append_right _ ?_))
    exact List.mem_flatten.mpr ⟨entry.2, List.mem_map_of_mem hentry, hchar⟩

/-- The words of a text are the only row of words that the text is cut into: they have all
its letters and numbers, follow one another in it, have no boundary inside and one between
any two. -/
theorem isSplit_iff (text : List Char) (pieces : List (List Char)) :
    IsSplit text pieces ↔ pieces = words text := by
  constructor
  · exact IsSplit.eq_words
  · rintro rfl
    exact isSplit_words text

example : words "HTTPServer2go__名前ok".toList =
    ["H", "T", "T", "P", "Server", "2", "go", "名前ok"].map String.toList := by
  decide +kernel

end JsonShape.Go

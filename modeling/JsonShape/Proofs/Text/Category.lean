import JsonShape.Proofs.Text.Alphabet
import JsonShape.Text.Digits

/-!
# Letters and decimal digits under the case mappings

The letters among the upper-case characters are those of the category Lu, and the
decimal digits of all scripts make up the category Nd.  The case mappings leave the
decimal digits alone, lead from other numbers to Roman numerals, and lead from letters
to letters, but for a few letters whose upper-case form is spelled with a combining
mark.  All of this is read off the tables, a range at a time.
-/

set_option autoImplicit false

namespace JsonShape.Text

/-- Whether a character is a decimal digit of some script. -/
def isDecimal (char : Char) : Bool := (plainDigit? char).isSome

/-- Whether a character can stand in an identifier: a letter, a decimal digit, or `_`. -/
def isIdentifierChar (char : Char) : Bool := isLetter char || isDecimal char || char == '_'

/-! ## Tables, a range at a time -/

/-- Whether a table of ranges holds all of a range. -/
def covers : List (Nat × Nat) → Nat → Nat → Bool
  | [], _, _ => false
  | (first, last) :: rest, low, high =>
    Nat.ble first low && (Nat.ble high last || covers rest low high)

/-- Whether a table of ranges holds nothing of a range. -/
def misses : List (Nat × Nat) → Nat → Nat → Bool
  | [], _, _ => true
  | (first, last) :: rest, low, high =>
    Nat.blt high first || (Nat.blt last low && misses rest low high)

section Ranges

variable {table : List (Nat × Nat)} {low high code : Nat}

theorem inRanges_of_covers (h : covers table low high = true) (hlow : low ≤ code)
    (hhigh : code ≤ high) : inRanges table code = true := by
  induction table with
  | nil => simp [covers] at h
  | cons range rest ih =>
      obtain ⟨first, last⟩ := range
      rw [covers, Bool.and_eq_true, Bool.or_eq_true, Nat.ble_eq, Nat.ble_eq] at h
      rw [inRanges, if_neg (by omega), Bool.or_eq_true, decide_eq_true_eq]
      exact h.2.imp (fun hlast => by omega) ih

theorem inRanges_eq_false_of_misses (h : misses table low high = true) (hlow : low ≤ code)
    (hhigh : code ≤ high) : inRanges table code = false := by
  induction table with
  | nil => rfl
  | cons range rest ih =>
      obtain ⟨first, last⟩ := range
      rw [misses, Bool.or_eq_true, Bool.and_eq_true, Nat.blt_eq, Nat.blt_eq] at h
      rw [inRanges]
      split
      · rfl
      · obtain ⟨hlast, hrest⟩ := h.resolve_left (by omega)
        rw [ih hrest, Bool.or_false, decide_eq_false_iff_not]
        omega

theorem inRanges_of_covers_self (h : covers table code code = true) : inRanges table code = true :=
  inRanges_of_covers h (Nat.le_refl _) (Nat.le_refl _)

/-- What is in one table is not in another that misses all ranges of the first. -/
theorem inRanges_eq_false_of_apart {others : List (Nat × Nat)}
    (hapart : (table.all fun range => misses others range.1 range.2) = true)
    (h : inRanges table code = true) : inRanges others code = false := by
  obtain ⟨range, hrange, hlow, hhigh⟩ := exists_range_of_inRanges h
  exact inRanges_eq_false_of_misses (List.all_eq_true.mp hapart range hrange) hlow hhigh

theorem toNat_ofNat_of_inRanges (hplain : plainRanges table = true)
    (h : inRanges table code = true) : (Char.ofNat code).toNat = code := by
  obtain ⟨range, hrange, hlow, hhigh⟩ := exists_range_of_inRanges h
  exact toNat_ofNat (List.all_eq_true.mp hplain range hrange) hlow hhigh

theorem inRuns_eq_false_of_misses {runs : List (Nat × Nat × Nat)}
    (h : misses (runs.map fun run => (run.1, run.2.1)) low high = true) (hlow : low ≤ code)
    (hhigh : code ≤ high) : inRuns runs code = false := by
  induction runs with
  | nil => rfl
  | cons run rest ih =>
      obtain ⟨first, last, step⟩ := run
      simp only [List.map_cons, misses, Bool.or_eq_true, Bool.and_eq_true, Nat.blt_eq] at h
      rw [inRuns]
      split
      · rfl
      · obtain ⟨hlast, hrest⟩ := h.resolve_left (by omega)
        rw [ih hrest, Bool.or_false, Bool.and_eq_false_iff, decide_eq_false_iff_not]
        exact .inl (by omega)

theorem shifted?_eq_none_of_misses {runs : List (Nat × Nat × Nat × Int)}
    (h : misses (runs.map fun run => (run.1, run.2.1)) low high = true) (hlow : low ≤ code)
    (hhigh : code ≤ high) : shifted? runs code = none := by
  induction runs with
  | nil => rfl
  | cons run rest ih =>
      obtain ⟨first, last, step, shift⟩ := run
      simp only [List.map_cons, misses, Bool.or_eq_true, Bool.and_eq_true, Nat.blt_eq] at h
      rw [shifted?]
      split
      · rfl
      · obtain ⟨hlast, hrest⟩ := h.resolve_left (by omega)
        rw [if_neg (by simp; omega), ih hrest]

end Ranges

/-- The members of a run. -/
def runMembers (first last step : Nat) : List Nat :=
  (List.range ((last - first) / step + 1)).map fun index => first + index * step

theorem mem_runMembers {first last step code : Nat} (hfirst : first ≤ code) (hlast : code ≤ last)
    (hstep : (code - first) % step = 0) : code ∈ runMembers first last step := by
  refine List.mem_map.mpr ⟨(code - first) / step, ?_, ?_⟩
  · rw [List.mem_range, Nat.lt_succ_iff]
    exact Nat.div_le_div_right (by omega)
  · rw [Nat.mul_comm, Nat.mul_div_cancel' (Nat.dvd_of_mod_eq_zero hstep)]
    omega

/-- A code point is moved by a run of which holds what holds of all runs. -/
theorem exists_checked_run {runs : List (Nat × Nat × Nat × Int)}
    {check : Nat × Nat × Nat × Int → Bool} (hruns : runs.all check = true) {code image : Nat}
    (himage : shifted? runs code = some image) :
    ∃ first last step shift, check (first, last, step, shift) = true ∧ first ≤ code ∧
      code ≤ last ∧ (code - first) % step = 0 ∧ image = (code + shift).toNat := by
  obtain ⟨⟨first, last, step, shift⟩, hrun, hmember⟩ := exists_run_of_shifted? himage
  exact ⟨first, last, step, shift, List.all_eq_true.mp hruns _ hrun, hmember⟩

/-- Whether runs move whatever they have of some ranges into others.  Most runs end up
within one range; the members of the others are looked up one by one. -/
def movesInto (source target : List (Nat × Nat)) (runs : List (Nat × Nat × Nat × Int)) : Bool :=
  runs.all fun (first, last, step, shift) =>
    covers target (first + shift).toNat (last + shift).toNat || misses source first last ||
      (runMembers first last step).all fun code =>
        covers target (code + shift).toNat (code + shift).toNat

theorem inRanges_of_shifted? {source target : List (Nat × Nat)}
    {runs : List (Nat × Nat × Nat × Int)} (hruns : movesInto source target runs = true)
    {code image : Nat} (hsource : inRanges source code = true)
    (himage : shifted? runs code = some image) : inRanges target image = true := by
  obtain ⟨first, last, step, shift, hmoves, hfirst, hlast, hstep, rfl⟩ :=
    exists_checked_run hruns himage
  dsimp only at hmoves
  rw [Bool.or_eq_true, Bool.or_eq_true] at hmoves
  rcases hmoves with (hcovers | hmisses) | hmembers
  · exact inRanges_of_covers hcovers (by omega) (by omega)
  · rw [inRanges_eq_false_of_misses hmisses hfirst hlast] at hsource
    exact absurd hsource Bool.false_ne_true
  · have hcode := List.all_eq_true.mp hmembers code (mem_runMembers hfirst hlast hstep)
    exact inRanges_of_covers_self hcode

/-! ## Decimal digits -/

theorem isDecimal_iff {char : Char} :
    isDecimal char = true ↔
      ∃ first ∈ decimalZeros, first ≤ char.toNat ∧ char.toNat ≤ first + 9 := by
  rw [isDecimal, plainDigit?, Option.isSome_map, List.find?_isSome]
  simp only [Bool.and_eq_true, decide_eq_true_eq, Nat.lt_succ_iff]

/-- Whether a table of ranges holds no decimal digit. -/
def missesDecimals (table : List (Nat × Nat)) : Bool :=
  decimalZeros.all fun first => misses table first (first + 9)

theorem isUpper_of_isDecimal {char : Char} (h : isDecimal char = true) : isUpper char = false := by
  obtain ⟨first, hmem, hlow, hhigh⟩ := isDecimal_iff.mp h
  have htable : missesDecimals (upperRuns.map fun run => (run.1, run.2.1)) = true := by
    decide +kernel
  exact inRuns_eq_false_of_misses (List.all_eq_true.mp htable first hmem) hlow hhigh

/-! ## Characters of identifiers -/

theorem isIdentifierChar_eq_false_iff {char : Char} :
    isIdentifierChar char = false ↔
      isLetter char = false ∧ isDecimal char = false ∧ char ≠ '_' := by
  rw [isIdentifierChar, Bool.or_eq_false_iff, Bool.or_eq_false_iff, beq_eq_false_iff_ne,
    and_assoc]

/-- Among letters and numbers, what can stand in identifiers are letters and decimal digits. -/
theorem isIdentifierChar_of_isAlphanumeric {char : Char} (h : isAlphanumeric char = true) :
    isIdentifierChar char = (isLetter char || isDecimal char) := by
  have hunderscore : char ≠ '_' := by
    rintro rfl
    exact absurd (isPlain_of_isAlphanumeric h) (by decide)
  rw [isIdentifierChar, beq_false_of_ne hunderscore, Bool.or_false]

theorem isLetter_of_isUpper {char : Char} (hupper : isUpper char = true)
    (h : isIdentifierChar char = true) : isLetter char = true := by
  rw [isIdentifierChar, Bool.or_eq_true, Bool.or_eq_true, beq_iff_eq] at h
  rcases h with (hletter | hdecimal) | rfl
  · exact hletter
  · rw [isUpper_of_isDecimal hdecimal] at hupper
    exact absurd hupper Bool.false_ne_true
  · exact absurd hupper (by decide)

theorem isLetter_of_isNumber {char : Char} (h : isNumber char = true) : isLetter char = false :=
  inRanges_eq_false_of_apart (by decide +kernel) h

theorem isLetter_ofNat {code : Nat} (h : inRanges letterRanges code = true) :
    isLetter (Char.ofNat code) = true := by
  rw [isLetter, toNat_ofNat_of_inRanges (by decide +kernel) h]
  exact h

/-- Combining marks, and the Roman numerals, which are the only numbers that the case
mappings lead to. -/
def outsideRanges : List (Nat × Nat) := [(0x300, 0x36F), (0x2160, 0x217F)]

theorem isIdentifierChar_of_outside {code : Nat} (h : inRanges outsideRanges code = true) :
    isIdentifierChar (Char.ofNat code) = false := by
  have hcode : (Char.ofNat code).toNat = code := toNat_ofNat_of_inRanges (by decide) h
  refine isIdentifierChar_eq_false_iff.mpr ⟨?_, Bool.eq_false_iff.mpr fun hdecimal => ?_, ?_⟩
  · rw [isLetter, hcode]
    exact inRanges_eq_false_of_apart (by decide +kernel) h
  · obtain ⟨first, hfirst, hzero, hnine⟩ := isDecimal_iff.mp hdecimal
    have hdigits : missesDecimals outsideRanges = true := by decide +kernel
    rw [hcode] at hzero hnine
    rw [inRanges_eq_false_of_misses (List.all_eq_true.mp hdigits first hfirst) hzero hnine] at h
    exact Bool.false_ne_true h
  · intro hunderscore
    rw [← hcode, hunderscore] at h
    exact absurd h (by decide)

/-! ## Case mappings and identifiers -/

theorem mem_of_lookup {expansions : List (Nat × List Nat)} {code : Nat} {codes : List Nat}
    (h : expansions.lookup code = some codes) : (code, codes) ∈ expansions := by
  obtain ⟨before, after, rfl, -⟩ := List.lookup_eq_some_iff.mp h
  simp

/-- A character that a mapping changes has an expansion or is moved by a run. -/
theorem mapped?_eq_some_iff {expansions : List (Nat × List Nat)}
    {runs : List (Nat × Nat × Nat × Int)} {char : Char} {image : List Char} :
    mapped? expansions runs char = some image ↔
      (∃ codes, expansions.lookup char.toNat = some codes ∧ codes.map Char.ofNat = image) ∨
        expansions.lookup char.toNat = none ∧
          ∃ code, shifted? runs char.toNat = some code ∧ [Char.ofNat code] = image := by
  rw [mapped?]
  cases expansions.lookup char.toNat <;> simp

/-- What the tables of a case mapping are asked for.  Letters lead to letters, but for
some whose images have a combining mark.  Of the numbers only Roman numerals are moved. -/
structure KeepsLetters (marked : List Nat) (expansions : List (Nat × List Nat))
    (runs : List (Nat × Nat × Nat × Int)) : Prop where
  expanded : (expansions.all fun (code, codes) =>
    misses numberRanges code code &&
      if marked.contains code then codes.any fun image => covers outsideRanges image image
      else codes.all fun image => covers letterRanges image image) = true
  letters : movesInto letterRanges letterRanges runs = true
  numbers : movesInto numberRanges outsideRanges runs = true
  decimals : missesDecimals (runs.map fun run => (run.1, run.2.1)) = true
  marks : (marked.all fun code =>
    (expansions.lookup code).isSome || (shifted? runs code).isNone) = true

namespace KeepsLetters

variable {marked : List Nat} {expansions : List (Nat × List Nat)}
  {runs : List (Nat × Nat × Nat × Int)} {char : Char} {image : List Char}

theorem shifted?_of_isDecimal (htables : KeepsLetters marked expansions runs)
    (h : isDecimal char = true) : shifted? runs char.toNat = none := by
  obtain ⟨first, hmem, hlow, hhigh⟩ := isDecimal_iff.mp h
  exact shifted?_eq_none_of_misses (List.all_eq_true.mp htables.decimals first hmem) hlow hhigh

theorem fits_expanded (htables : KeepsLetters marked expansions runs)
    (h : isAlphanumeric char = true) {codes : List Nat}
    (hcodes : expansions.lookup char.toNat = some codes) :
    (codes.map Char.ofNat).all isIdentifierChar =
      (isIdentifierChar char && !marked.contains char.toNat) := by
  have hentry := List.all_eq_true.mp htables.expanded _ (mem_of_lookup hcodes)
  dsimp only at hentry
  rw [Bool.and_eq_true] at hentry
  obtain ⟨hnumber, himages⟩ := hentry
  have hletter : isLetter char = true := by
    rw [isAlphanumeric, Bool.or_eq_true] at h
    refine h.resolve_right fun hnum => ?_
    rw [isNumber, inRanges_eq_false_of_misses hnumber (Nat.le_refl _) (Nat.le_refl _)] at hnum
    exact Bool.false_ne_true hnum
  have hfits : isIdentifierChar char = true := by simp [isIdentifierChar, hletter]
  rw [hfits, Bool.true_and, List.all_map]
  split at himages
  · rename_i hmarked
    obtain ⟨code, hcode, hcovers⟩ := List.any_eq_true.mp himages
    rw [hmarked, Bool.not_true, List.all_eq_false]
    refine ⟨code, hcode, ?_⟩
    rw [Function.comp_apply, isIdentifierChar_of_outside (inRanges_of_covers_self hcovers)]
    exact Bool.false_ne_true
  · rename_i hmarked
    rw [Bool.eq_false_iff.mpr hmarked, Bool.not_false, List.all_eq_true]
    intro code hcode
    have hcovers := List.all_eq_true.mp himages code hcode
    have hletter := isLetter_ofNat (inRanges_of_covers_self hcovers)
    simp [isIdentifierChar, hletter]

theorem fits_shifted (htables : KeepsLetters marked expansions runs)
    (h : isAlphanumeric char = true) {code : Nat} (hnone : expansions.lookup char.toNat = none)
    (hcode : shifted? runs char.toNat = some code) :
    isIdentifierChar (Char.ofNat code) =
      (isIdentifierChar char && !marked.contains char.toNat) := by
  have hmarked : marked.contains char.toNat = false := by
    rw [Bool.eq_false_iff]
    intro hmem
    have hmark := List.all_eq_true.mp htables.marks _ (List.contains_iff_mem.mp hmem)
    simp [hnone, hcode] at hmark
  rw [hmarked, Bool.not_false, Bool.and_true]
  rw [isAlphanumeric, Bool.or_eq_true] at h
  rcases h with hletter | hnumber
  · have himage := isLetter_ofNat (inRanges_of_shifted? htables.letters hletter hcode)
    simp [isIdentifierChar, hletter, himage]
  · rw [isIdentifierChar_of_outside (inRanges_of_shifted? htables.numbers hnumber hcode)]
    refine (isIdentifierChar_of_isAlphanumeric ?_).trans ?_ |>.symm
    · rw [isAlphanumeric, hnumber, Bool.or_true]
    · rw [isLetter_of_isNumber hnumber, Bool.false_or, Bool.eq_false_iff]
      intro hdecimal
      rw [htables.shifted?_of_isDecimal hdecimal] at hcode
      exact Option.some_ne_none _ hcode.symm

/-- The form of a letter or number in another case fits in an identifier if the character
itself does, unless it is one of the marked ones. -/
theorem fits_mapped (htables : KeepsLetters marked expansions runs)
    (h : isAlphanumeric char = true) (himage : mapped? expansions runs char = some image) :
    image.all isIdentifierChar = (isIdentifierChar char && !marked.contains char.toNat) := by
  rcases mapped?_eq_some_iff.mp himage with ⟨codes, hcodes, rfl⟩ | ⟨hnone, code, hcode, rfl⟩
  · exact htables.fits_expanded h hcodes
  · rw [List.all_cons, List.all_nil, Bool.and_true]
    exact htables.fits_shifted h hnone hcode

end KeepsLetters

/-- Letters whose form in upper case has a combining mark. -/
def markedInUpper : List Nat :=
  [0x1F0, 0x390, 0x3B0, 0x1E96, 0x1E97, 0x1E98, 0x1E99, 0x1F50, 0x1F52, 0x1F54, 0x1F56,
   0x1FB6, 0x1FB7, 0x1FC6, 0x1FC7, 0x1FD2, 0x1FD3, 0x1FD6, 0x1FD7, 0x1FE2, 0x1FE3, 0x1FE4,
   0x1FE6, 0x1FE7, 0x1FF6, 0x1FF7]

/-- Letters whose form in title case has a combining mark. -/
def markedInTitle : List Nat :=
  [0x1FB2, 0x1FB4, 0x1FC2, 0x1FC4, 0x1FF2, 0x1FF4] ++ markedInUpper

/-- The letter whose form in lower case has a combining mark. -/
def markedInLower : List Nat := [0x130]

theorem keepsLetters_upper : KeepsLetters markedInUpper toUpperExpansions toUpperRuns := by
  constructor <;> decide +kernel

theorem keepsLetters_title : KeepsLetters markedInTitle toTitleExpansions toTitleRuns := by
  constructor <;> decide +kernel

theorem keepsLetters_lower : KeepsLetters markedInLower toLowerExpansions toLowerRuns := by
  constructor <;> decide +kernel

theorem lookup_eq_none_of_mapped? {expansions : List (Nat × List Nat)}
    {runs : List (Nat × Nat × Nat × Int)} {char : Char}
    (h : mapped? expansions runs char = none) : expansions.lookup char.toNat = none := by
  rw [mapped?] at h
  cases hcodes : expansions.lookup char.toNat with
  | none => rfl
  | some codes => rw [hcodes] at h; exact absurd h (Option.some_ne_none _)

theorem contains_eq_false_of_lookup {marked : List Nat} {expansions : List (Nat × List Nat)}
    (hmarked : (marked.all fun code => (expansions.lookup code).isSome) = true) {code : Nat}
    (h : expansions.lookup code = none) : marked.contains code = false := by
  rw [Bool.eq_false_iff]
  intro hmem
  have hsome := List.all_eq_true.mp hmarked code (List.contains_iff_mem.mp hmem)
  rw [h] at hsome
  exact Bool.false_ne_true hsome

variable {char : Char}

theorem fits_upperChar (h : isAlphanumeric char = true) :
    (upperChar char).all isIdentifierChar =
      (isIdentifierChar char && !markedInUpper.contains char.toNat) := by
  rw [upperChar]
  cases himage : mapped? toUpperExpansions toUpperRuns char with
  | some image => exact keepsLetters_upper.fits_mapped h himage
  | none =>
      rw [contains_eq_false_of_lookup (by decide +kernel) (lookup_eq_none_of_mapped? himage)]
      simp

theorem fits_lowerChar (h : isAlphanumeric char = true) :
    (lowerChar char).all isIdentifierChar =
      (isIdentifierChar char && !markedInLower.contains char.toNat) := by
  rw [lowerChar]
  cases himage : mapped? toLowerExpansions toLowerRuns char with
  | some image => exact keepsLetters_lower.fits_mapped h himage
  | none =>
      rw [contains_eq_false_of_lookup (by decide +kernel) (lookup_eq_none_of_mapped? himage)]
      simp

theorem fits_titleChar (h : isAlphanumeric char = true) :
    (titleChar char).all isIdentifierChar =
      (isIdentifierChar char && !markedInTitle.contains char.toNat) := by
  rw [titleChar]
  cases himage : mapped? toTitleExpansions toTitleRuns char with
  | some image => exact keepsLetters_title.fits_mapped h himage
  | none =>
      -- what only the title case marks has an expansion there
      have hmarked : markedInTitle.contains char.toNat = markedInUpper.contains char.toNat := by
        rw [markedInTitle, List.contains_append, contains_eq_false_of_lookup (by decide +kernel)
          (lookup_eq_none_of_mapped? himage), Bool.false_or]
      rw [Option.getD_none, fits_upperChar h, hmarked]

/-! ## Texts -/

/-- Where no character is upper case there is no capital sigma, whose lower-case form
depends on its neighbours. -/
theorem lowerAfter_eq_flatMap {text : List Char} (h : ∀ char ∈ text, isUpper char = false)
    (before : List Char) : lowerAfter before text = text.flatMap lowerChar := by
  induction text generalizing before with
  | nil => rfl
  | cons char rest ih =>
      rw [List.forall_mem_cons] at h
      have hsigma : char ≠ 'Σ' := by
        rintro rfl
        exact absurd h.1 (by decide)
      rw [lowerAfter, if_neg hsigma, ih h.2, List.flatMap_cons]

theorem fits_lowerAfter {text : List Char} (h : ∀ char ∈ text, isAlphanumeric char = true)
    (hlower : ∀ char ∈ text, isUpper char = false) (before : List Char) :
    (lowerAfter before text).all isIdentifierChar = text.all isIdentifierChar := by
  rw [lowerAfter_eq_flatMap hlower, List.all_flatMap, Bool.eq_iff_iff, List.all_eq_true,
    List.all_eq_true]
  refine forall₂_congr fun char hchar => ?_
  have hmarked : markedInLower.contains char.toNat = false := by
    rw [Bool.eq_false_iff]
    intro hmem
    have hcode : char = Char.ofNat 0x130 := by
      rw [← Char.ofNat_toNat char, List.mem_singleton.mp (List.contains_iff_mem.mp hmem)]
    exact absurd (hcode ▸ hlower char hchar) (by decide)
  rw [fits_lowerChar (h char hchar), hmarked, Bool.not_false, Bool.and_true]

end JsonShape.Text

import JsonShape.Text.Case
import JsonShape.Text.Letters

/-!
# Characters of words

Letters and numbers are plain: within ASCII they are letters and digits in the
narrow sense, never blanks or punctuation.  The case mappings lead from plain
characters to plain characters, which is read off their tables.
-/

set_option autoImplicit false

namespace JsonShape.Text

/-- Whether a range of code points holds ASCII letters or digits only, or characters
beyond ASCII only. -/
def plainRange (first last : Nat) : Bool :=
  decide (0x30 ≤ first ∧ last ≤ 0x39) || decide (0x41 ≤ first ∧ last ≤ 0x5A)
    || decide (0x61 ≤ first ∧ last ≤ 0x7A) || decide (0x80 ≤ first ∧ last < 0xD800)
    || decide (0xE000 ≤ first ∧ last < 0x110000)

/-- Whether a character is an ASCII letter or digit, or no ASCII character at all. -/
def isPlain (char : Char) : Bool := plainRange char.toNat char.toNat

theorem plainRange_iff {first last : Nat} :
    plainRange first last = true ↔ (0x30 ≤ first ∧ last ≤ 0x39) ∨ (0x41 ≤ first ∧ last ≤ 0x5A) ∨
      (0x61 ≤ first ∧ last ≤ 0x7A) ∨ (0x80 ≤ first ∧ last < 0xD800) ∨
      0xE000 ≤ first ∧ last < 0x110000 := by
  simp only [plainRange, Bool.or_eq_true, decide_eq_true_eq, or_assoc]

theorem toNat_ofNat {first last code : Nat} (hrange : plainRange first last = true)
    (hfirst : first ≤ code) (hlast : code ≤ last) : (Char.ofNat code).toNat = code := by
  rw [plainRange_iff] at hrange
  have hvalid : code.isValidChar := by
    rw [Nat.isValidChar]
    omega
  rw [Char.ofNat, dif_pos hvalid]
  rfl

theorem isPlain_ofNat {first last code : Nat} (hrange : plainRange first last = true)
    (hfirst : first ≤ code) (hlast : code ≤ last) : isPlain (Char.ofNat code) = true := by
  rw [isPlain, toNat_ofNat hrange hfirst hlast]
  rw [plainRange_iff] at hrange ⊢
  omega

/-! ## Look-ups -/

theorem exists_range_of_inRanges {table : List (Nat × Nat)} {code : Nat}
    (h : inRanges table code = true) : ∃ range ∈ table, range.1 ≤ code ∧ code ≤ range.2 := by
  induction table with
  | nil => simp [inRanges] at h
  | cons range rest ih =>
      obtain ⟨first, last⟩ := range
      rw [inRanges] at h
      split at h
      · simp at h
      · rw [Bool.or_eq_true, decide_eq_true_eq] at h
        rcases h with hlast | hrest
        · exact ⟨_, List.mem_cons_self, by omega, hlast⟩
        · obtain ⟨range, hrange, hcode⟩ := ih hrest
          exact ⟨range, List.mem_cons_of_mem _ hrange, hcode⟩

theorem exists_run_of_shifted? {table : List (Nat × Nat × Nat × Int)} {code image : Nat}
    (h : shifted? table code = some image) :
    ∃ run ∈ table, run.1 ≤ code ∧ code ≤ run.2.1 ∧ (code - run.1) % run.2.2.1 = 0 ∧
      image = (code + run.2.2.2).toNat := by
  induction table with
  | nil => simp [shifted?] at h
  | cons run rest ih =>
      obtain ⟨first, last, step, shift⟩ := run
      rw [shifted?] at h
      split at h
      · simp at h
      · split at h
        · rename_i hfirst hlast
          rw [Bool.and_eq_true, decide_eq_true_eq, beq_iff_eq] at hlast
          exact ⟨_, List.mem_cons_self, by omega, hlast.1, hlast.2, (Option.some.inj h).symm⟩
        · obtain ⟨run, hrun, hcode⟩ := ih h
          exact ⟨run, List.mem_cons_of_mem _ hrun, hcode⟩

/-- Whether a table of ranges holds plain characters only. -/
def plainRanges (table : List (Nat × Nat)) : Bool :=
  table.all fun (first, last) => plainRange first last

/-- Whether a table of runs moves its members to plain characters. -/
def plainRuns (table : List (Nat × Nat × Nat × Int)) : Bool :=
  table.all fun (first, last, _, shift) => plainRange (first + shift).toNat (last + shift).toNat

/-- Whether a table of expansions holds plain characters only. -/
def plainExpansions (table : List (Nat × List Nat)) : Bool :=
  table.all fun (_, codes) => codes.all fun code => plainRange code code

theorem isPlain_of_inRanges {table : List (Nat × Nat)} (htable : plainRanges table = true)
    {char : Char} (h : inRanges table char.toNat = true) : isPlain char = true := by
  obtain ⟨range, hrange, hfirst, hlast⟩ := exists_range_of_inRanges h
  rw [← Char.ofNat_toNat char]
  exact isPlain_ofNat (List.all_eq_true.mp htable range hrange) hfirst hlast

/-- Whether all characters of a text are plain. -/
def Plain (text : List Char) : Prop := ∀ char ∈ text, isPlain char = true

theorem plain_singleton {char : Char} (h : isPlain char = true) : Plain [char] :=
  List.forall_mem_singleton.mpr h

theorem plain_append {left right : List Char} (hleft : Plain left) (hright : Plain right) :
    Plain (left ++ right) :=
  List.forall_mem_append.mpr ⟨hleft, hright⟩

/-- A case mapping with plain tables gives plain characters, if it does so for what
is in none of its tables. -/
theorem plain_mapped {expansions : List (Nat × List Nat)} {runs : List (Nat × Nat × Nat × Int)}
    (hexpansions : plainExpansions expansions = true) (hruns : plainRuns runs = true) (char : Char)
    {others : List Char} (hothers : Plain others) :
    Plain ((mapped? expansions runs char).getD others) := by
  rw [mapped?]
  cases hcodes : expansions.lookup char.toNat with
  | some codes =>
      obtain ⟨before, after, rfl, -⟩ := List.lookup_eq_some_iff.mp hcodes
      have hall := List.all_eq_true.mp hexpansions (char.toNat, codes) (by simp)
      refine List.forall_mem_map.mpr fun code hcode => ?_
      exact isPlain_ofNat (List.all_eq_true.mp hall code hcode) (Nat.le_refl _) (Nat.le_refl _)
  | none =>
      cases hcode : shifted? runs char.toNat with
      | none => exact hothers
      | some code =>
          obtain ⟨⟨first, last, step, shift⟩, hrun, hfirst, hlast, -, rfl⟩ :=
            exists_run_of_shifted? hcode
          dsimp only at hfirst hlast
          refine plain_singleton (isPlain_ofNat (List.all_eq_true.mp hruns _ hrun) ?_ ?_) <;>
            dsimp only <;> omega

/-! ## Letters, numbers and the case mappings -/

theorem isPlain_of_isAlphanumeric {char : Char} (h : isAlphanumeric char = true) :
    isPlain char = true := by
  rw [isAlphanumeric, Bool.or_eq_true] at h
  have hletters : plainRanges letterRanges = true := by decide +kernel
  have hnumbers : plainRanges numberRanges = true := by decide +kernel
  rcases h with hletter | hnumber
  · exact isPlain_of_inRanges hletters hletter
  · exact isPlain_of_inRanges hnumbers hnumber

theorem plain_upperChar {char : Char} (h : isPlain char = true) : Plain (upperChar char) :=
  plain_mapped (by decide +kernel) (by decide +kernel) char (plain_singleton h)

theorem plain_lowerChar {char : Char} (h : isPlain char = true) : Plain (lowerChar char) :=
  plain_mapped (by decide +kernel) (by decide +kernel) char (plain_singleton h)

theorem plain_titleChar {char : Char} (h : isPlain char = true) : Plain (titleChar char) :=
  plain_mapped (by decide +kernel) (by decide +kernel) char (plain_upperChar h)

theorem plain_upper {text : List Char} (h : Plain text) : Plain (upper text) := by
  intro other hother
  obtain ⟨char, hchar, hother⟩ := List.mem_flatMap.mp hother
  exact plain_upperChar (h char hchar) other hother

theorem plain_lowerAfter {text : List Char} (h : Plain text) (before : List Char) :
    Plain (lowerAfter before text) := by
  induction text generalizing before with
  | nil => simp [lowerAfter, Plain]
  | cons char rest ih =>
      obtain ⟨hchar, hrest⟩ := List.forall_mem_cons.mp h
      rw [lowerAfter]
      refine plain_append ?_ (ih hrest _)
      -- both forms of the small sigma lie beyond ASCII
      split
      · split <;> exact plain_singleton (by decide)
      · exact plain_lowerChar hchar

theorem plain_capitalize {text : List Char} (h : Plain text) : Plain (capitalize text) := by
  cases text with
  | nil => exact h
  | cons char rest =>
      obtain ⟨hchar, hrest⟩ := List.forall_mem_cons.mp h
      exact plain_append (plain_titleChar hchar) (plain_lowerAfter hrest _)

end JsonShape.Text

import JsonShape.Proofs.Text.Category

/-!
# Texts apart from case

Writing a text in upper case forgets how it was capitalised.  The upper-case form of a
character is not changed by writing it in upper case again, and the other forms of a
character have the same upper-case form as the character itself.  This is read off the
tables; the exception, a dotted capital `I`, is upper case already.
-/

set_option autoImplicit false

namespace JsonShape.Text

/-! ## Rows of code points -/

/-- Whether no run moves any code point of a row with a step of one or two. -/
def avoids : List (Nat × Nat × Nat × Int) → Nat → Nat → Nat → Bool
  | [], _, _, _ => true
  | (first, last, stride, _) :: rest, low, high, step =>
    Nat.blt high first ||
      (Nat.blt last low || Nat.beq stride 2 && (Nat.beq step 2 || Nat.beq low high) &&
        Nat.beq ((low + first) % 2) 1) && avoids rest low high step

/-- Whether no expansion belongs to a range. -/
def unexpanded (expansions : List (Nat × List Nat)) (low high : Nat) : Bool :=
  expansions.all fun entry => Nat.blt high entry.1 || Nat.blt entry.1 low

theorem shifted?_eq_none_of_avoids {runs : List (Nat × Nat × Nat × Int)} {low high step code : Nat}
    (h : avoids runs low high step = true) (hlow : low ≤ code) (hhigh : code ≤ high)
    (hstep : (code - low) % step = 0) : shifted? runs code = none := by
  induction runs with
  | nil => rfl
  | cons run rest ih =>
      obtain ⟨first, last, stride, shift⟩ := run
      simp only [avoids, Bool.or_eq_true, Bool.and_eq_true, Nat.blt_eq, Nat.beq_eq] at h
      rw [shifted?]
      split
      · rfl
      · rename_i hfirst
        obtain ⟨hrun, hrest⟩ := h.resolve_left (by omega)
        rw [if_neg, ih hrest]
        rw [Bool.and_eq_true, decide_eq_true_eq, beq_iff_eq]
        rintro ⟨hlast, hmember⟩
        rcases hrun with hrange | ⟨⟨rfl, rfl | rfl⟩, hparity⟩ <;> omega

theorem lookup_eq_none_of_unexpanded {expansions : List (Nat × List Nat)} {low high code : Nat}
    (h : unexpanded expansions low high = true) (hlow : low ≤ code) (hhigh : code ≤ high) :
    expansions.lookup code = none := by
  rw [List.lookup_eq_none_iff]
  intro entry hentry
  have hcode := List.all_eq_true.mp h entry hentry
  rw [Bool.or_eq_true, Nat.blt_eq, Nat.blt_eq] at hcode
  rw [bne_iff_ne]
  omega

/-- Whether a table of runs has all members of a run. -/
def coversRun : List (Nat × Nat × Nat) → Nat → Nat → Nat → Bool
  | [], _, _, _ => false
  | (first, last, stride) :: rest, low, high, step =>
    Nat.ble first low &&
      (Nat.ble high last &&
          (Nat.beq stride 1 || Nat.beq stride step && Nat.beq ((low - first) % stride) 0)
        || coversRun rest low high step)

theorem inRuns_of_coversRun {runs : List (Nat × Nat × Nat)} {low high step code : Nat}
    (h : coversRun runs low high step = true) (hlow : low ≤ code) (hhigh : code ≤ high)
    (hstep : (code - low) % step = 0) : inRuns runs code = true := by
  induction runs with
  | nil => simp [coversRun] at h
  | cons run rest ih =>
      obtain ⟨first, last, stride⟩ := run
      simp only [coversRun, Bool.or_eq_true, Bool.and_eq_true, Nat.ble_eq, Nat.beq_eq] at h
      rw [inRuns, if_neg (by omega), Bool.or_eq_true, Bool.and_eq_true, decide_eq_true_eq,
        beq_iff_eq]
      refine h.2.imp (fun hrun => ⟨by omega, ?_⟩) ih
      rcases hrun.2 with rfl | ⟨rfl, hoffset⟩
      · exact Nat.mod_one _
      · rw [show code - first = (code - low) + (low - first) by omega, Nat.add_mod, hstep, hoffset]
        rfl

/-! ## Texts that are in upper case already -/

@[simp]
theorem upper_singleton (char : Char) : upper [char] = upperChar char := by
  rw [upper, List.flatMap_singleton]

theorem upper_append (left right : List Char) : upper (left ++ right) = upper left ++ upper right :=
  List.flatMap_append

theorem upper_eq_self {text : List Char} (h : ∀ char ∈ text, upperChar char = [char]) :
    upper text = text := by
  rw [upper, List.flatMap_def, List.map_congr_left h, ← List.flatMap_def]
  exact List.flatMap_singleton' text

/-- Whether writing a row of code points in upper case does not change any of them. -/
def settled (low high step : Nat) : Bool :=
  plainRange low high && unexpanded toUpperExpansions low high && avoids toUpperRuns low high step

theorem upperChar_of_settled {low high step code : Nat} (h : settled low high step = true)
    (hlow : low ≤ code) (hhigh : code ≤ high) (hstep : (code - low) % step = 0) :
    upperChar (Char.ofNat code) = [Char.ofNat code] := by
  rw [settled, Bool.and_eq_true, Bool.and_eq_true] at h
  obtain ⟨⟨hplain, hexpansions⟩, hruns⟩ := h
  rw [upperChar, mapped?, toNat_ofNat hplain hlow hhigh,
    lookup_eq_none_of_unexpanded hexpansions hlow hhigh,
    shifted?_eq_none_of_avoids hruns hlow hhigh hstep]
  rfl

/-! ## The forms of a character -/

variable {char : Char} {image : List Char}

theorem upper_upperImage (h : mapped? toUpperExpansions toUpperRuns char = some image) :
    upper image = image := by
  rcases mapped?_eq_some_iff.mp h with ⟨codes, hcodes, rfl⟩ | ⟨-, code, hcode, rfl⟩
  · have hexpansions : (toUpperExpansions.all fun entry =>
        entry.2.all fun code => settled code code 1) = true := by
      decide +kernel
    have hentry := List.all_eq_true.mp hexpansions _ (mem_of_lookup hcodes)
    refine upper_eq_self (List.forall_mem_map.mpr fun code hcode => ?_)
    exact upperChar_of_settled (List.all_eq_true.mp hentry code hcode) (Nat.le_refl _)
      (Nat.le_refl _) (Nat.mod_one _)
  · have hruns : (toUpperRuns.all fun run =>
        settled (run.1 + run.2.2.2).toNat (run.2.1 + run.2.2.2).toNat run.2.2.1) = true := by
      decide +kernel
    obtain ⟨first, last, step, shift, hsettled, hfirst, hlast, hstep, rfl⟩ :=
      exists_checked_run hruns hcode
    dsimp only at hsettled
    have hplain : plainRange (first + shift).toNat (last + shift).toNat = true :=
      (Bool.and_eq_true_iff.mp (Bool.and_eq_true_iff.mp hsettled).1).1
    have hmember : (char.toNat + shift).toNat - (first + shift).toNat = char.toNat - first := by
      rw [plainRange_iff] at hplain
      omega
    exact upper_eq_self (List.forall_mem_singleton.mpr (upperChar_of_settled hsettled (by omega)
      (by omega) (hmember ▸ hstep)))

theorem upper_upperChar (char : Char) : upper (upperChar char) = upperChar char := by
  cases himage : mapped? toUpperExpansions toUpperRuns char with
  | none =>
      have hchar : upperChar char = [char] := by rw [upperChar, himage, Option.getD_none]
      rw [hchar, upper_singleton, hchar]
  | some image =>
      rw [upperChar, himage, Option.getD_some, upper_upperImage himage]

theorem upper_titleImage (h : mapped? toTitleExpansions toTitleRuns char = some image) :
    upper image = upperChar char := by
  rcases mapped?_eq_some_iff.mp h with ⟨codes, hcodes, rfl⟩ | ⟨-, code, hcode, rfl⟩
  · have hexpansions : (toTitleExpansions.all fun entry =>
        upper (entry.2.map Char.ofNat) == upperChar (Char.ofNat entry.1)) = true := by
      decide +kernel
    have hentry := List.all_eq_true.mp hexpansions _ (mem_of_lookup hcodes)
    dsimp only at hentry
    rw [Char.ofNat_toNat] at hentry
    exact eq_of_beq hentry
  · have hruns : (toTitleRuns.all fun run =>
        decide (run.2.2.2 = 0) || (runMembers run.1 run.2.1 run.2.2.1).all fun code =>
          upperChar (Char.ofNat (code + run.2.2.2).toNat) == upperChar (Char.ofNat code)) =
          true := by
      decide +kernel
    obtain ⟨first, last, step, shift, hentry, hfirst, hlast, hstep, rfl⟩ :=
      exists_checked_run hruns hcode
    dsimp only at hentry
    rw [Bool.or_eq_true, decide_eq_true_eq] at hentry
    rw [upper_singleton]
    rcases hentry with rfl | hmembers
    · rw [Int.add_zero, Int.toNat_natCast, Char.ofNat_toNat]
    · have hmember := List.all_eq_true.mp hmembers _ (mem_runMembers hfirst hlast hstep)
      rw [Char.ofNat_toNat] at hmember
      exact eq_of_beq hmember

theorem upper_titleChar (char : Char) : upper (titleChar char) = upperChar char := by
  rw [titleChar]
  cases himage : mapped? toTitleExpansions toTitleRuns char with
  | none => rw [Option.getD_none, upper_upperChar]
  | some image => rw [Option.getD_some, upper_titleImage himage]

theorem upper_lowerImage (hupper : isUpper char = false)
    (h : mapped? toLowerExpansions toLowerRuns char = some image) :
    upper image = upperChar char := by
  rcases mapped?_eq_some_iff.mp h with ⟨codes, hcodes, rfl⟩ | ⟨-, code, hcode, rfl⟩
  · have hexpansions :
        (toLowerExpansions.all fun entry => isUpper (Char.ofNat entry.1)) = true := by
      decide +kernel
    have hentry := List.all_eq_true.mp hexpansions _ (mem_of_lookup hcodes)
    dsimp only at hentry
    rw [Char.ofNat_toNat, hupper] at hentry
    exact absurd hentry Bool.false_ne_true
  · have hruns : (toLowerRuns.all fun run =>
        coversRun upperRuns run.1 run.2.1 run.2.2.1 ||
          (runMembers run.1 run.2.1 run.2.2.1).all fun code => isUpper (Char.ofNat code) ||
            upperChar (Char.ofNat (code + run.2.2.2).toNat) == upperChar (Char.ofNat code)) =
        true := by
      decide +kernel
    obtain ⟨first, last, step, shift, hentry, hfirst, hlast, hstep, rfl⟩ :=
      exists_checked_run hruns hcode
    dsimp only at hentry
    rw [Bool.or_eq_true] at hentry
    rw [upper_singleton]
    rcases hentry with hcovers | hmembers
    · have hinside := inRuns_of_coversRun hcovers hfirst hlast hstep
      rw [← isUpper, hupper] at hinside
      exact absurd hinside Bool.false_ne_true
    · have hmember := List.all_eq_true.mp hmembers _ (mem_runMembers hfirst hlast hstep)
      rw [Char.ofNat_toNat, hupper, Bool.false_or] at hmember
      exact eq_of_beq hmember

theorem upper_lowerChar (hupper : isUpper char = false) :
    upper (lowerChar char) = upperChar char := by
  rw [lowerChar]
  cases himage : mapped? toLowerExpansions toLowerRuns char with
  | none => rw [Option.getD_none, upper_singleton]
  | some image => rw [Option.getD_some, upper_lowerImage hupper himage]

/-! ## Texts -/

theorem upper_upper (text : List Char) : upper (upper text) = upper text := by
  rw [upper, upper, List.flatMap_assoc]
  exact congrArg (List.flatMap · text) (funext upper_upperChar)

theorem upper_capitalize {text : List Char} (h : ∀ char ∈ text.tail, isUpper char = false) :
    upper (capitalize text) = upper text := by
  cases text with
  | nil => rfl
  | cons first rest =>
      rw [List.tail_cons] at h
      have hrest : upper (rest.flatMap lowerChar) = upper rest := by
        rw [upper, List.flatMap_assoc, upper, List.flatMap_def, List.flatMap_def]
        exact congrArg List.flatten
          (List.map_congr_left fun char hchar => upper_lowerChar (h char hchar))
      rw [capitalize, upper_append, upper_titleChar, lowerAfter_eq_flatMap h, hrest]
      rfl

end JsonShape.Text

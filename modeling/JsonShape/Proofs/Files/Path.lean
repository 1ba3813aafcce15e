import JsonShape.Files.Path
import JsonShape.Proofs.Repetition

/-!
# The order of paths

No part of a path that is read from a text holds a slash, and a root is empty or
holds one.  The order therefore tells such paths apart, and sorting leaves nothing
of the order and the multiplicities in which they were found, but for repeats.
-/

set_option autoImplicit false

namespace JsonShape.Path

/-- A path whose root and parts cannot be taken for one another. -/
structure IsProper (path : Path) : Prop where
  root : path.root = "" ∨ '/' ∈ path.root.toList
  parts : ∀ part ∈ path.parts, '/' ∉ part.toList

/-- What lies between separators holds none. -/
theorem separator_notMem_of_mem_splitOn {separator : Char} {text piece : List Char}
    (h : piece ∈ text.splitOn separator) : separator ∉ piece := by
  induction text generalizing piece with
  | nil =>
      rw [List.splitOn_nil, List.mem_singleton] at h
      simp [h]
  | cons char rest ih =>
      rw [List.splitOn_cons_eq_if_modifyHead] at h
      split at h
      · rcases List.mem_cons.mp h with rfl | hrest
        · simp
        · exact ih hrest
      · rename_i hchar
        cases hpieces : rest.splitOn separator with
        | nil => exact absurd hpieces (List.splitOn_ne_nil separator rest)
        | cons first others =>
            rw [hpieces, List.modifyHead_cons] at h
            rcases List.mem_cons.mp h with rfl | hrest
            · have hfirst : separator ∉ first := ih (hpieces ▸ List.mem_cons_self)
              rw [List.mem_cons, not_or]
              refine ⟨?_, hfirst⟩
              rintro rfl
              exact hchar (beq_self_eq_true _)
            · exact ih (hpieces ▸ List.mem_cons_of_mem first hrest)

theorem rootOf_cases (text : String) : rootOf text = "" ∨ '/' ∈ (rootOf text).toList := by
  rw [rootOf]
  split <;> decide

theorem isProper_ofString (text : String) : (ofString text).IsProper where
  root := rootOf_cases text
  parts := by
    intro part hpart
    rw [ofString, List.mem_filter, split, List.mem_map] at hpart
    obtain ⟨⟨piece, hpiece, rfl⟩, -⟩ := hpart
    rw [String.toList_ofList]
    exact separator_notMem_of_mem_splitOn hpiece

theorem IsProper.join {base path : Path} (hbase : base.IsProper) (hpath : path.IsProper) :
    (base.join path).IsProper := by
  rw [Path.join]
  split
  · exact hpath
  · refine ⟨hbase.root, ?_⟩
    intro part hpart
    rcases List.mem_append.mp hpart with hfirst | hlast
    · exact hbase.parts part hfirst
    · exact hpath.parts part hlast

theorem key_of_isAbsolute {path : Path} (h : path.root ≠ "") :
    path.key = path.root :: path.parts := by
  simp [key, isAbsolute, h]

theorem key_of_not_isAbsolute {path : Path} (h : path.root = "") : path.key = path.parts := by
  simp [key, isAbsolute, h]

/-- The root of a path is no part of a proper one. -/
theorem key_ne_of_root {left right : Path} (hleft : left.IsProper) (hright : right.IsProper)
    (hrelative : left.root = "") (habsolute : right.root ≠ "") : left.key ≠ right.key := by
  rw [key_of_not_isAbsolute hrelative, key_of_isAbsolute habsolute]
  intro h
  have hpart : right.root ∈ left.parts := h ▸ List.mem_cons_self
  exact hleft.parts right.root hpart (hright.root.resolve_left habsolute)

/-- Paths that come at the same place in the order are the same. -/
theorem eq_of_key_eq {left right : Path} (hleft : left.IsProper) (hright : right.IsProper)
    (h : left.key = right.key) : left = right := by
  by_cases hl : left.root = "" <;> by_cases hr : right.root = ""
  · rw [key_of_not_isAbsolute hl, key_of_not_isAbsolute hr] at h
    cases left
    cases right
    simp_all
  · exact absurd h (key_ne_of_root hleft hright hl hr)
  · exact absurd h.symm (key_ne_of_root hright hleft hr hl)
  · rw [key_of_isAbsolute hl, key_of_isAbsolute hr] at h
    cases left
    cases right
    simp_all

/-! ## Sorting -/

theorem notAfter_trans (first second third : Path) (hfirst : notAfter first second = true)
    (hsecond : notAfter second third = true) : notAfter first third = true := by
  rw [notAfter, Bool.not_eq_true', decide_eq_false_iff_not] at hfirst hsecond ⊢
  exact List.le_trans hfirst hsecond

theorem notAfter_total (left right : Path) :
    (notAfter left right || notAfter right left) = true := by
  rw [Bool.or_eq_true]
  simp only [notAfter, Bool.not_eq_true', decide_eq_false_iff_not]
  exact List.le_total left.key right.key

theorem key_eq_of_notAfter {left right : Path} (hleft : notAfter left right = true)
    (hright : notAfter right left = true) : left.key = right.key := by
  rw [notAfter, Bool.not_eq_true', decide_eq_false_iff_not] at hleft hright
  exact List.le_antisymm hleft hright

theorem pairwise_sort (paths : List Path) :
    (sort paths).Pairwise fun left right => notAfter left right = true :=
  List.pairwise_mergeSort notAfter_trans notAfter_total paths

theorem mem_sort {path : Path} {paths : List Path} : path ∈ sort paths ↔ path ∈ paths :=
  List.mem_mergeSort

/-- Sorting makes the same of the same paths, but for repeats. -/
theorem sameFirsts_sort {left right : List Path} (hproper : ∀ path ∈ left, path.IsProper)
    (hsame : ∀ path, path ∈ left ↔ path ∈ right) : SameFirsts (sort left) (sort right) := by
  apply SameFirsts.of_sorted _ (pairwise_sort left) (pairwise_sort right)
  · intro path
    rw [mem_sort, mem_sort, hsame path]
  · intro first second hfirst hsecond hbefore hafter
    rw [mem_sort] at hfirst hsecond
    exact eq_of_key_eq (hproper first hfirst) (hproper second ((hsame second).mpr hsecond))
      (key_eq_of_notAfter hbefore hafter)

end JsonShape.Path

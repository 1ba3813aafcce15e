import JsonShape.Files.Tree
import JsonShape.Proofs.Traversal

/-!
# Putting a file

An entry that is put at a place is found there, and what stands at all other places is
what stood there before.  The root stays a directory, whatever is put there.
-/

set_option autoImplicit false

namespace JsonShape.Files

theorem lookup_replaced_of_ne (entries : List (Place × Entry)) {place other : Place}
    (entry : Entry) (h : other ≠ place) :
    (entries.map fun old => if old.1 = place then (place, entry) else old).lookup other =
      entries.lookup other := by
  induction entries with
  | nil => rfl
  | cons old rest ih =>
      obtain ⟨known, oldEntry⟩ := old
      rw [List.map_cons]
      by_cases hknown : known = place
      · rw [if_pos hknown, lookup_cons_ite, lookup_cons_ite, ih, hknown, if_neg h, if_neg h]
      · rw [if_neg hknown, lookup_cons_ite, lookup_cons_ite, ih]

theorem lookup_replaced {entries : List (Place × Entry)} {place : Place} (entry : Entry)
    (h : entries.any (·.1 == place) = true) :
    (entries.map fun old => if old.1 = place then (place, entry) else old).lookup place =
      some entry := by
  induction entries with
  | nil => cases h
  | cons old rest ih =>
      obtain ⟨known, oldEntry⟩ := old
      rw [List.map_cons]
      by_cases hknown : known = place
      · rw [if_pos hknown, lookup_cons_ite, if_pos rfl]
      · rw [if_neg hknown, lookup_cons_ite, if_neg (Ne.symm hknown)]
        refine ih ?_
        simpa [hknown] using h

theorem lookup_eq_none_of_not_any {entries : List (Place × Entry)} {place : Place}
    (h : entries.any (·.1 == place) = false) : entries.lookup place = none := by
  rw [List.lookup_eq_none_iff]
  rintro ⟨known, entry⟩ hmem
  have hknown : known ≠ place := by simpa using List.any_eq_false.mp h _ hmem
  exact bne_iff_ne.mpr hknown.symm

theorem entry?_set (files : Files) {place : Place} (hplace : place ≠ []) (entry : Entry)
    (other : Place) :
    Files.entry? (files.set place entry) other =
      if other = place then some entry else files.entry? other := by
  unfold entry? set
  by_cases hroot : other = []
  · simp [hroot, hplace.symm]
  · rw [if_neg hroot, if_neg hroot]
    cases hany : files.entries.any (·.1 == place) with
    | true =>
        rw [if_pos rfl]
        by_cases hother : other = place
        · rw [if_pos hother, hother, lookup_replaced entry hany]
        · rw [if_neg hother, lookup_replaced_of_ne _ _ hother]
    | false =>
        rw [if_neg Bool.false_ne_true, List.lookup_append, lookup_cons_ite, List.lookup_nil]
        by_cases hother : other = place
        · rw [if_pos hother, if_pos hother, hother, lookup_eq_none_of_not_any hany, Option.none_or]
        · rw [if_neg hother, if_neg hother, Option.or_none]

theorem content?_set_file (files : Files) {place : Place} (hplace : place ≠ [])
    (content : List UInt8) : (files.set place (.file content)).content? place = some content := by
  rw [content?, entry?_set files hplace, if_pos rfl]

theorem ne_nil_of_not_isDirectory {files : Files} {place : Place}
    (h : files.isDirectory place = false) : place ≠ [] := by
  rintro rfl
  simp [isDirectory, entry?] at h

end JsonShape.Files

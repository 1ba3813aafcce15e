import JsonShape.Proofs.Traversal
import Mathlib.Data.List.Induction

/-!
# Repetition

Two lists have the same first occurrences when they differ only by elements that
came before.  What is collected from such lists, and a traversal of them, differs in
the same way, and two sorted lists with the same elements are an instance.
-/

set_option autoImplicit false

namespace JsonShape

/-- The lists differ only by elements that came before in them. -/
inductive SameFirsts {α : Type} : List α → List α → Prop
  | again {before after : List α} {value : α} (h : value ∈ before) :
      SameFirsts (before ++ value :: after) (before ++ after)
  | refl (values : List α) : SameFirsts values values
  | symm {left right : List α} (h : SameFirsts left right) : SameFirsts right left
  | trans {left middle right : List α} (hleft : SameFirsts left middle)
      (hright : SameFirsts middle right) : SameFirsts left right

namespace SameFirsts

variable {α β ε : Type} {left right : List α}

theorem mem_iff (h : SameFirsts left right) (value : α) : value ∈ left ↔ value ∈ right := by
  induction h with
  | again hbefore =>
      rw [List.mem_append, List.mem_append, List.mem_cons]
      constructor
      · rintro (h | rfl | h)
        · exact .inl h
        · exact .inl hbefore
        · exact .inr h
      · rintro (h | h)
        · exact .inl h
        · exact .inr (.inr h)
  | refl => exact Iff.rfl
  | symm _ ih => exact ih.symm
  | trans _ _ hleft hright => exact hleft.trans hright

theorem eq_nil_iff (h : SameFirsts left right) : left = [] ↔ right = [] := by
  rw [List.eq_nil_iff_forall_not_mem, List.eq_nil_iff_forall_not_mem]
  simp only [h.mem_iff]

theorem forall_iff (h : SameFirsts left right) {holds : α → Prop} :
    (∀ value ∈ left, holds value) ↔ ∀ value ∈ right, holds value := by
  simp only [h.mem_iff]

theorem any_eq (h : SameFirsts left right) (test : α → Bool) : left.any test = right.any test := by
  rw [Bool.eq_iff_iff, List.any_eq_true, List.any_eq_true]
  simp only [h.mem_iff]

/-- Elements that came before can be left out one after the other. -/
theorem of_forall_mem {before block after : List α} (h : ∀ value ∈ block, value ∈ before) :
    SameFirsts (before ++ (block ++ after)) (before ++ after) := by
  induction block with
  | nil => exact .refl _
  | cons value rest ih =>
      rw [List.forall_mem_cons] at h
      exact .trans (.again h.1) (ih h.2)

theorem append_right (h : SameFirsts left right) (after : List α) :
    SameFirsts (left ++ after) (right ++ after) := by
  induction h with
  | again hbefore =>
      rw [List.append_assoc, List.append_assoc, List.cons_append]
      exact .again hbefore
  | refl => exact .refl _
  | symm _ ih => exact ih.symm
  | trans _ _ hleft hright => exact hleft.trans hright

/-! ## Collecting -/

theorem flatMap (h : SameFirsts left right) (f : α → List β) :
    SameFirsts (left.flatMap f) (right.flatMap f) := by
  induction h with
  | @again before after value hbefore =>
      rw [List.flatMap_append, List.flatMap_append, List.flatMap_cons]
      apply of_forall_mem
      intro part hpart
      exact List.mem_flatMap.mpr ⟨value, hbefore, hpart⟩
  | refl => exact .refl _
  | symm _ ih => exact ih.symm
  | trans _ _ hleft hright => exact hleft.trans hright

theorem filterMap (h : SameFirsts left right) (f : α → Option β) :
    SameFirsts (left.filterMap f) (right.filterMap f) := by
  rw [List.filterMap_eq_flatMap_toList, List.filterMap_eq_flatMap_toList]
  exact h.flatMap _

theorem filter (h : SameFirsts left right) (keep : α → Bool) :
    SameFirsts (left.filter keep) (right.filter keep) := by
  rw [← List.filterMap_eq_filter]
  exact h.filterMap _

/-- The first occurrences themselves are the same. -/
theorem eraseDups_eq [BEq α] [LawfulBEq α] (h : SameFirsts left right) :
    left.eraseDups = right.eraseDups := by
  induction h with
  | @again before after value hbefore =>
      have hvalue : before.elem value = true := List.elem_iff.mpr hbefore
      rw [List.eraseDups_append, List.eraseDups_append, List.removeAll, List.filter_cons, hvalue]
      rfl
  | refl => rfl
  | symm _ ih => exact ih.symm
  | trans _ _ hleft hright => exact hleft.trans hright

/-! ## Traversals -/

/-- Two traversals fail in the same way, or their results have the same first
occurrences. -/
inductive Outcomes {ε β : Type} : Except ε (List β) → Except ε (List β) → Prop
  | error (error : ε) : Outcomes (.error error) (.error error)
  | ok {left right : List β} (h : SameFirsts left right) : Outcomes (.ok left) (.ok right)

theorem Outcomes.refl (result : Except ε (List β)) : Outcomes result result := by
  cases result with
  | error error => exact .error error
  | ok values => exact .ok (.refl values)

theorem Outcomes.symm {left right : Except ε (List β)} (h : Outcomes left right) :
    Outcomes right left := by
  cases h with
  | error error => exact .error error
  | ok h => exact .ok h.symm

theorem Outcomes.trans {left middle right : Except ε (List β)} (hleft : Outcomes left middle)
    (hright : Outcomes middle right) : Outcomes left right := by
  cases hleft with
  | error error => exact hright
  | ok hleft =>
      cases hright with
      | ok hright => exact .ok (hleft.trans hright)

/-- A step that was taken before ends as it did then. -/
theorem mapM (h : SameFirsts left right) (f : α → Except ε β) :
    Outcomes (left.mapM f) (right.mapM f) := by
  induction h with
  | @again before after value hbefore =>
      rw [List.mapM_append, List.mapM_append, List.mapM_cons]
      cases hfirst : before.mapM f with
      | error error => exact .error error
      | ok results =>
          obtain ⟨result, hresult, hvalue⟩ := exists_eq_ok_of_mapM hfirst hbefore
          simp only [hvalue]
          cases after.mapM f with
          | error error => exact .error error
          | ok others => exact .ok (.again hresult)
  | refl => exact .refl _
  | symm _ ih => exact ih.symm
  | trans _ _ hleft hright => exact hleft.trans hright

/-! ## Sorted lists -/

/-- A list has the same first occurrences as its list of first occurrences. -/
theorem eraseDups_right [BEq α] [LawfulBEq α] (values : List α) :
    SameFirsts values values.eraseDups := by
  induction values using List.reverseRecOn with
  | nil => exact .refl _
  | append_singleton values value ih =>
      rw [List.eraseDups_append, List.removeAll, List.filter_singleton]
      cases hvalue : values.elem value with
      | true =>
          have hagain : SameFirsts (values ++ [value]) (values ++ []) :=
            .again (List.elem_iff.mp hvalue)
          exact hagain.trans (ih.append_right [])
      | false => exact ih.append_right [value]

/-- Sorted lists with the same elements have the same first occurrences, whatever the
multiplicities, if the order tells different elements apart. -/
theorem of_sorted [BEq α] [LawfulBEq α] {le : α → α → Prop}
    (hanti : ∀ first second, first ∈ left → second ∈ right → le first second → le second first →
      first = second)
    (hleft : left.Pairwise le) (hright : right.Pairwise le)
    (hmem : ∀ value, value ∈ left ↔ value ∈ right) : SameFirsts left right := by
  have hperm : left.eraseDups.Perm right.eraseDups := by
    rw [List.perm_ext_iff_of_nodup (nodup_eraseDups left) (nodup_eraseDups right)]
    simpa only [List.mem_eraseDups] using hmem
  have hsame : left.eraseDups = right.eraseDups := by
    refine hperm.eq_of_pairwise ?_ (hleft.sublist (eraseDups_sublist left))
      (hright.sublist (eraseDups_sublist right))
    intro first second hfirst hsecond
    exact hanti first second (List.mem_eraseDups.mp hfirst) (List.mem_eraseDups.mp hsecond)
  exact (eraseDups_right left).trans (hsame ▸ (eraseDups_right right).symm)

end SameFirsts

end JsonShape

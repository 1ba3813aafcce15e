import JsonShape.Proofs.Selection.Validity

/-!
# What a selection reaches

A selection comes to the changes of a field through slices and through the fields that
it selects within, each of which starts from its own type or from a forced one.  Only
forced types take it deeper than the tree.
-/

set_option autoImplicit false

namespace JsonShape.Selection

/-- A selection from a tree comes to the changes of a field that it keeps. -/
inductive Reaches [Room] : Node → Spec → List (String × Spec) → Prop
  | item {element : Node} {spec : Spec} {entries changes : List (String × Spec)}
      (hspec : entriesOf spec = .ok (entries, .slice))
      (h : Reaches element (.obj [("of", .obj entries)]) changes) :
      Reaches (.slice element) spec changes
  | here {fields : List (String × Field Node)} {spec : Spec} {entries : List (String × Spec)}
      {name : String} {field : Field Node} {changes : List (String × Spec)}
      (hspec : entriesOf spec = .ok (entries, .struct)) (hfield : (name, field) ∈ fields)
      (hentry : entries.lookup name = some (.obj changes)) (hne : changes ≠ []) :
      Reaches (.struct fields) spec changes
  | within {fields : List (String × Field Node)} {spec selection : Spec}
      {entries changes inner : List (String × Spec)} {name : String} {field : Field Node}
      {type : Node} (hspec : entriesOf spec = .ok (entries, .struct))
      (hfield : (name, field) ∈ fields) (hentry : entries.lookup name = some (.obj changes))
      (hstart : StartsAs changes field.type type) (hof : given? "of" changes = some selection)
      (h : Reaches type (within changes selection) inner) :
      Reaches (.struct fields) spec inner

variable {room : Nat} {node pruned : Node} {spec selection : Spec}
  {entries changes others : List (String × Spec)} {fields : List (String × Field Node)}
  {name : String} {field : Field Node}

/-- The selection within a field that fails for want of room, unless a type is forced. -/
theorem forces_of_selectFields_eq_tooDeep [Room] (hspec : entriesOf spec = .ok (entries, .struct))
    (hselect : ∀ type spec, apply room type spec = .error .tooDeep → room < 3 * type.depth ∨
      ∃ changes, Reaches type spec changes ∧ given? "forceType" changes ≠ none)
    (h : selectFields room (apply room) entries fields = .error .tooDeep) :
    room + 3 < 3 * (Node.struct fields).depth ∨
      ∃ changes, Reaches (.struct fields) spec changes ∧ given? "forceType" changes ≠ none := by
  rcases selectFields_error_cases h with ⟨name, herror⟩ | ⟨⟨name, field⟩, hfield, herror⟩
  · cases herror
  rcases selectField_error_cases herror with
    ⟨_, -, -, -, -, herror⟩ | ⟨changes, hentry, hoverride⟩
  · cases herror
  cases hforced : given? "forceType" changes with
  | some forced =>
      have hne : changes ≠ [] := by
        rintro rfl
        cases hforced
      exact .inr ⟨changes, .here hspec hfield hentry hne, by simp [hforced]⟩
  | none =>
      rw [overrideField_eq, typeBefore, hforced, bind_eq_error_iff] at hoverride
      rcases hoverride with hbefore | ⟨type, htype, hwithin⟩
      · cases hbefore
      have hown : field.type = type := Except.ok.inj htype
      subst hown
      rw [map_eq_error_iff, selectWithin] at hwithin
      cases hof : given? "of" changes with
      | none => simp [hof] at hwithin
      | some selection =>
          rw [hof] at hwithin
          rcases hselect _ _ hwithin with hroom | ⟨inner, hreach, hforces⟩
          · have hdepth : field.type.depth ≤ Node.fieldsDepth fields :=
              Node.fieldsDepth_le_iff.mp (Nat.le_refl _) _ hfield
            left
            rw [Node.depth]
            omega
          · exact .inr ⟨inner, .within hspec hfield hentry (.own hforced) hof hreach, hforces⟩

/-- A selection needs three levels of room for each level of the tree, and more only where
it comes to changes that force a type. -/
theorem forces_of_apply_eq_tooDeep [Room] (h : apply room node spec = .error .tooDeep) :
    room < 3 * node.depth ∨
      ∃ changes, Reaches node spec changes ∧ given? "forceType" changes ≠ none := by
  induction room using Nat.strongRecOn generalizing node spec with
  | ind room ih =>
      by_cases hresolve : ∃ result, resolve node spec = .ok result
      · obtain ⟨⟨entries, target⟩, hresolve⟩ := hresolve
        rcases resolve_eq_ok_iff.mp hresolve with
          ⟨element, rfl, hspec, rfl⟩ | ⟨fields, rfl, hspec, rfl⟩
        · rcases apply_error_cases hresolve h with
            ⟨-, hroom⟩ | ⟨inner, _, rfl, htarget, hitems⟩ | ⟨_, _, -, htarget, -⟩
          · left
            rw [Node.depth]
            omega
          · cases htarget
            rcases ih inner (Nat.lt_succ_self inner) hitems with hroom | ⟨changes, hreach, hforces⟩
            · left
              rw [Node.depth]
              omega
            · exact .inr ⟨changes, .item hspec hreach, hforces⟩
          · cases htarget
        · rcases apply_error_cases hresolve h with
            ⟨-, hroom⟩ | ⟨_, _, -, htarget, -⟩ | ⟨inner, _, rfl, htarget, hfields⟩
          · left
            rw [Node.depth]
            omega
          · cases htarget
          · cases htarget
            exact forces_of_selectFields_eq_tooDeep hspec
              (fun type spec => ih inner (by omega)) hfields
      · cases failure_of_not_resolve hresolve h with
        | tooDeep hfalse => exact hfalse.elim

/-- Where a selection succeeds, so does what it selects within a field. -/
theorem exists_apply_within (h : apply room (.struct fields) spec = .ok pruned)
    (hspec : entriesOf spec = .ok (entries, .struct)) (hfield : (name, field) ∈ fields)
    (hentry : entries.lookup name = some (.obj changes))
    (hof : given? "of" changes = some selection) :
    ∃ inner ≤ room, ∃ type part, typeBefore inner field changes = .ok type ∧
      apply inner type (within changes selection) = .ok part := by
  obtain ⟨inner, found, kept, rfl, hfound, hkept, -⟩ := apply_struct_eq_ok_iff.mp h
  cases hspec.symm.trans hfound
  obtain ⟨-, results, hresults, -⟩ := selectFields_eq_ok_iff.mp hkept
  obtain ⟨result, -, hresult⟩ := exists_eq_ok_of_mapM hresults hfield
  obtain ⟨changed, hchanged⟩ := exists_overrideField_of_selectField hresult hentry
  obtain ⟨type, part, hbefore, hpart, -⟩ := overrideField_eq_ok_iff_exists.mp hchanged
  rw [selectWithin, hof] at hpart
  exact ⟨inner, Nat.le_add_right inner 3, type, part, hbefore, hpart⟩

end JsonShape.Selection

import JsonShape.Proofs.Description.Failing
import JsonShape.Proofs.Selection.Applying

/-!
# Selections that fail

A selection fails at one place, which the error tells: an entry is malformed, the
tree is no container of the expected kind, or a field is unknown.  Want of room is an
error of its own, whether it shows in the selection or in a description within it,
and it hinders only what nests deeply.
-/

set_option autoImplicit false

namespace JsonShape.Selection

/-- What a selection can fail with; `deep` tells when there can be want of room. -/
inductive Failure (deep : Prop) : SelectionError → Prop
  | noSelection : Failure deep .noSelection
  | unknownContainer (text : String) : Failure deep (.unknownContainer text)
  | badEntry (name : String) : Failure deep (.badEntry name)
  | description {error : DescriptionError} (hroom : error ≠ .tooDeep) :
      Failure deep (.description error)
  | unknownField (name : String) : Failure deep (.unknownField name)
  | mismatch (found : Kind) (expected : Container) : Failure deep (.mismatch found expected)
  | tooDeep (h : deep) : Failure deep .tooDeep

variable {room : Nat} {select : Node → Spec → Except SelectionError Node}
  {entries : List (String × Spec)} {field : String × Field Node}
  {fields : List (String × Field Node)} {error : SelectionError}

theorem Failure.imp {deep other : Prop} (himp : deep → other) (h : Failure deep error) :
    Failure other error := by
  cases h with
  | noSelection => exact .noSelection
  | unknownContainer text => exact .unknownContainer text
  | badEntry name => exact .badEntry name
  | description hroom => exact .description hroom
  | unknownField name => exact .unknownField name
  | mismatch found expected => exact .mismatch found expected
  | tooDeep hdeep => exact .tooDeep (himp hdeep)

theorem Failure.of_ne_tooDeep {deep : Prop} (h : Failure deep error) (hne : error ≠ .tooDeep) :
    Failure False error := by
  cases h with
  | tooDeep => exact absurd rfl hne
  | description hroom => exact .description hroom
  | _ => constructor

/-! ## The outermost level -/

theorem failure_of_containerOf {type? : Option Spec} (h : containerOf type? = .error error) :
    Failure False error := by
  cases type? with
  | none => cases h
  | some type =>
      rw [containerOf.eq_def] at h
      split at h
      · cases h
      · split at h
        · cases h
        · split at h
          · cases h
          · cases h
          · rw [← Except.error.inj h]
            exact .unknownContainer _

theorem failure_of_entriesOf {spec : Spec} (h : entriesOf spec = .error error) :
    Failure False error := by
  rw [entriesOf.eq_def] at h
  split at h
  · split at h
    · rw [bind_eq_error_iff] at h
      cases h with
      | inl hcontainer => exact failure_of_containerOf hcontainer
      | inr hpure =>
          obtain ⟨_, -, hpure⟩ := hpure
          cases hpure
    · rw [← Except.error.inj h]
      exact .noSelection
  · rw [← Except.error.inj h]
    exact .noSelection

theorem failure_of_resolve {node : Node} {spec : Spec} (h : resolve node spec = .error error) :
    Failure False error := by
  rw [resolve, bind_eq_error_iff] at h
  cases h with
  | inl hentries => exact failure_of_entriesOf hentries
  | inr h =>
      obtain ⟨⟨entries, expected⟩, -, h⟩ := h
      simp only [bind_eq_error_iff] at h
      rcases h with htarget | ⟨_, -, hpure⟩
      · cases expected <;> cases node <;> cases htarget <;> exact .mismatch _ _
      · cases hpure

theorem depth_of_resolve {node : Node} {spec : Spec} {target : Target}
    (h : resolve node spec = .ok (entries, target)) : (Spec.obj entries).depth < spec.depth := by
  have hentries : ∃ container, entriesOf spec = .ok (entries, container) := by
    rcases resolve_eq_ok_iff.mp h with ⟨_, -, hentries, -⟩ | ⟨_, -, hentries, -⟩
    · exact ⟨_, hentries⟩
    · exact ⟨_, hentries⟩
  obtain ⟨container, hentries⟩ := hentries
  obtain ⟨members, rfl, hof, -⟩ := entriesOf_eq_ok_iff.mp hentries
  exact Spec.depth_lt_of_lookup hof

/-! ## The fields of a struct -/

theorem error_of_forcedType {type : Spec} (h : forcedType room type = .error error) :
    ∃ cause, error = .description cause ∧ (cause = .tooDeep → room < type.depth) := by
  rw [forcedType.eq_def] at h
  split at h
  · split at h
    · cases h
    · refine ⟨_, (Except.error.inj h).symm, ?_⟩
      intro hcause
      cases hcause
  · obtain ⟨cause, hread, rfl⟩ := mapError_eq_error_iff.mp h
    refine ⟨cause, rfl, ?_⟩
    rintro rfl
    exact Description.depth_of_read_eq_tooDeep hread

/-- A type that cannot be forced fails as its description does. -/
theorem failure_of_typeBefore {field : Field Node} {members : List (String × Spec)}
    (h : typeBefore room field members = .error error) :
    Failure (room < 2 * (Spec.obj members).depth) error := by
  rw [typeBefore] at h
  cases htype : given? "forceType" members with
  | none => simp [htype] at h
  | some type =>
      rw [htype, mapError_eq_error_iff] at h
      obtain ⟨_, hforced, rfl⟩ := h
      obtain ⟨cause, rfl, hdeep⟩ := error_of_forcedType hforced
      by_cases hcause : cause = .tooDeep
      · have hdepth : type.depth < (Spec.obj members).depth :=
          Spec.depth_lt_of_lookup (given?_eq_some_iff.mp htype).1
        rw [hcause]
        apply Failure.tooDeep
        have hroom := hdeep hcause
        omega
      · rw [absorbDepth]
        · exact .description hcause
        · simpa using hcause

theorem depth_within_le {members : List (String × Spec)} {entries : Spec}
    (h : given? "of" members = some entries) :
    (within members entries).depth ≤ (Spec.obj members).depth := by
  have hentries : entries.depth < (Spec.obj members).depth :=
    Spec.depth_lt_of_lookup (given?_eq_some_iff.mp h).1
  have htype : ((members.lookup "type").getD .null).depth < (Spec.obj members).depth := by
    cases hlookup : members.lookup "type" with
    | none => exact Nat.succ_pos _
    | some type => exact Spec.depth_lt_of_lookup hlookup
  simp only [within, Spec.depth, Spec.membersDepth] at hentries htype ⊢
  omega

/-- Within a field a selection fails as it does elsewhere. -/
theorem failure_of_overrideField {field : Field Node} {members : List (String × Spec)}
    (hselect : ∀ type spec, select type spec = .error error → Failure (room < 2 * spec.depth) error)
    (h : overrideField room select field members = .error error) :
    Failure (room < 2 * (Spec.obj members).depth) error := by
  rw [overrideField_eq, bind_eq_error_iff] at h
  cases h with
  | inl hbefore => exact failure_of_typeBefore hbefore
  | inr h =>
      obtain ⟨type, -, h⟩ := h
      rw [map_eq_error_iff, selectWithin] at h
      cases hentries : given? "of" members with
      | none => simp [hentries] at h
      | some entries =>
          rw [hentries] at h
          apply (hselect _ _ h).imp
          intro hroom
          have hwithin := depth_within_le hentries
          omega

/-- The entry for a field is malformed, or its changes fail. -/
theorem selectField_error_cases (h : selectField room select entries field = .error error) :
    (∃ entry, entries.lookup field.1 = some entry ∧ entry.isTruthy = true ∧ entry ≠ .bool true ∧
      (∀ members, entry ≠ .obj members) ∧ error = .badEntry field.1) ∨
      ∃ members, entries.lookup field.1 = some (.obj members) ∧
        overrideField room select field.2 members = .error error := by
  rw [selectField.eq_def] at h
  cases hlookup : entries.lookup field.1 with
  | none => simp [hlookup] at h
  | some entry =>
      cases entry with
      | obj members =>
          simp only [hlookup] at h
          split at h
          · cases h
          · rw [bind_eq_error_iff] at h
            rcases h with hoverride | ⟨_, -, hpure⟩
            · exact .inr ⟨members, rfl, hoverride⟩
            · cases hpure
      | bool value => cases value <;> simp [hlookup, Spec.isFalsy] at h
      | _ =>
          simp only [hlookup] at h
          split at h
          · cases h
          · next hfalsy =>
              exact .inl ⟨_, rfl, by simp [Spec.isTruthy, hfalsy], by simp, by simp,
                (Except.error.inj h).symm⟩

theorem selectFields_error_cases (h : selectFields room select entries fields = .error error) :
    (∃ name, error = .unknownField name) ∨
      ∃ field ∈ fields, selectField room select entries field = .error error := by
  rw [selectFields] at h
  cases hunknown : unknownField? entries fields with
  | some name =>
      rw [hunknown] at h
      exact .inl ⟨name, (Except.error.inj h).symm⟩
  | none =>
      rw [hunknown, map_eq_error_iff] at h
      exact .inr (exists_of_mapM_eq_error h)

theorem failure_of_selectFields
    (hselect : ∀ type spec, select type spec = .error error → Failure (room < 2 * spec.depth) error)
    (h : selectFields room select entries fields = .error error) :
    Failure (room + 2 < 2 * (Spec.obj entries).depth) error := by
  rcases selectFields_error_cases h with ⟨name, rfl⟩ | ⟨field, -, hfield⟩
  · exact .unknownField name
  · rcases selectField_error_cases hfield with
      ⟨_, -, -, -, -, rfl⟩ | ⟨members, hmembers, hoverride⟩
    · exact .badEntry field.1
    · apply (failure_of_overrideField hselect hoverride).imp
      intro hroom
      have hdepth := Spec.depth_lt_of_lookup hmembers
      omega

/-! ## A selection at any depth -/

theorem failure_of_not_resolve {node : Node} {spec : Spec}
    (hresolve : ¬∃ result, resolve node spec = .ok result)
    (h : apply room node spec = .error error) : Failure False error := by
  rw [apply.eq_def] at h
  cases hother : resolve node spec with
  | error other =>
      simp only [hother, Except.error.injEq] at h
      exact failure_of_resolve (h ▸ hother)
  | ok result => exact absurd ⟨result, hother⟩ hresolve

/-- Nothing is selected from a struct with less than three levels. -/
theorem apply_of_lt {node : Node} {spec : Spec}
    (hresolve : resolve node spec = .ok (entries, .struct fields)) (hroom : room < 3) :
    apply room node spec = .error .tooDeep := by
  rw [apply.eq_def, hresolve]
  obtain rfl | rfl | rfl : room = 0 ∨ room = 1 ∨ room = 2 := by omega
  all_goals rfl

/-- A struct takes up three levels, and two levels of the selection lie around the
selection within a field. -/
theorem failure_of_apply_struct {spec : Spec}
    (hselect : ∀ inner, inner < room → ∀ type spec, apply inner type spec = .error error →
      Failure (inner < 2 * spec.depth) error)
    (h : apply room (.struct fields) spec = .error error) :
    Failure (room + 1 < 2 * spec.depth) error := by
  by_cases hresolve : ∃ result, resolve (.struct fields) spec = .ok result
  · obtain ⟨⟨entries, target⟩, hresolve⟩ := hresolve
    have hdepth := depth_of_resolve hresolve
    obtain ⟨_, hnode, -⟩ | ⟨_, hnode, -, rfl⟩ := resolve_eq_ok_iff.mp hresolve
    · cases hnode
    · cases hnode
      rcases Nat.lt_or_ge room 3 with hsmall | hlarge
      · have hpos : 0 < (Spec.obj entries).depth := Nat.succ_pos _
        rw [apply_of_lt hresolve hsmall, Except.error.injEq] at h
        rw [← h]
        apply Failure.tooDeep
        omega
      · obtain ⟨inner, rfl⟩ := Nat.exists_eq_add_of_le' hlarge
        rw [apply.eq_def] at h
        simp only [hresolve, map_eq_error_iff] at h
        apply (failure_of_selectFields (hselect inner (by omega)) h).imp
        intro hroom
        omega
  · exact (failure_of_not_resolve hresolve h).imp False.elim

/-- Whatever a selection is applied to, it fails for one of the reasons, and for want
of room only when it nests deeply. -/
theorem failure_of_apply {node : Node} {spec : Spec} (h : apply room node spec = .error error) :
    Failure (room < 2 * spec.depth) error := by
  induction room using Nat.strongRecOn generalizing node spec with
  | ind room ih =>
      by_cases hresolve : ∃ result, resolve node spec = .ok result
      · obtain ⟨⟨entries, target⟩, hresolve⟩ := hresolve
        have hdepth := depth_of_resolve hresolve
        rcases resolve_eq_ok_iff.mp hresolve with ⟨element, rfl, -, rfl⟩ | ⟨fields, rfl, -, rfl⟩
        · rw [apply.eq_def] at h
          cases room with
          | zero =>
              simp only [hresolve, Except.error.injEq] at h
              rw [← h]
              apply Failure.tooDeep
              omega
          | succ room =>
              simp only [hresolve, map_eq_error_iff] at h
              -- what selects within the items of a slice expects structs
              by_cases hitems : ∃ result, resolve element (.obj [("of", .obj entries)]) = .ok result
              · obtain ⟨⟨others, target⟩, hitems⟩ := hitems
                rcases resolve_eq_ok_iff.mp hitems with ⟨_, -, hslice, -⟩ | ⟨fields, rfl, -, -⟩
                · cases hslice
                · apply (failure_of_apply_struct
                    (fun inner hlt type spec => ih inner (Nat.lt_succ_of_lt hlt)) h).imp
                  simp only [Spec.depth, Spec.membersDepth] at hdepth ⊢
                  omega
              · exact (failure_of_not_resolve hitems h).imp False.elim
        · apply (failure_of_apply_struct (fun inner hlt type spec => ih inner hlt) h).imp
          intro hroom
          omega
      · exact (failure_of_not_resolve hresolve h).imp False.elim

end JsonShape.Selection

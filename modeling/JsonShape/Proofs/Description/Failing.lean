import JsonShape.Proofs.Description.Reading

/-!
# Descriptions that are refused

A description is refused level by level: a level is malformed, or it lies deeper than
there is room for.  Want of room hinders only descriptions that nest deeply.
-/

set_option autoImplicit false

namespace JsonShape.Description

theorem fieldEntries_cases (members : List (String × Spec)) :
    fieldEntries members = .ok [] ∨
      (∃ entries, members.lookup "fields" = some (.obj entries) ∧
        fieldEntries members = .ok entries) ∨
      fieldEntries members = .error .fieldsNotObject := by
  rw [fieldEntries]
  cases members.lookup "fields" with
  | none => exact .inl rfl
  | some value =>
      cases value with
      | obj entries => exact .inr (.inl ⟨entries, rfl, rfl⟩)
      | _ =>
          dsimp only
          split
          · exact .inl rfl
          · exact .inr (.inr rfl)

theorem kindOf_error {members : List (String × Spec)} {error : DescriptionError}
    (h : kindOf members = .error error) : ∃ text, error = .unknownType text := by
  rw [kindOf] at h
  split at h
  · cases h
  · split at h
    · cases h
    · split at h
      · split at h
        · cases h
        · exact ⟨_, (Except.error.inj h).symm⟩
      · exact ⟨_, (Except.error.inj h).symm⟩

theorem layerOf_ne_tooDeep (members : List (String × Spec)) (kind : Kind) :
    layerOf members kind ≠ .error .tooDeep := by
  cases kind with
  | slice => cases hof : members.lookup "of" <;> simp [layerOf, hof]
  | struct =>
      rw [layerOf]
      rcases fieldEntries_cases members with hentries | ⟨entries, -, hentries⟩ | hentries
      · simp [hentries]
      · rw [hentries]
        cases entries <;> simp
      · simp [hentries]
  | _ => simp [layerOf]

theorem layer_ne_tooDeep (description : Spec) : layer description ≠ .error .tooDeep := by
  intro h
  cases description with
  | obj members =>
      rw [layer, bind_eq_error_iff] at h
      rcases h with hkind | ⟨kind, -, hlevel⟩
      · obtain ⟨text, htext⟩ := kindOf_error hkind
        cases htext
      · exact layerOf_ne_tooDeep members kind hlevel
  | _ => cases h

theorem fieldEntry_error {name : String} {entry : Spec} {error : DescriptionError}
    (h : fieldEntry name entry = .error error) : error = .fieldTypeMissing name := by
  cases entry with
  | obj members =>
      rw [fieldEntry] at h
      cases hof : members.lookup "of" <;> simp_all
  | _ => exact (Except.error.inj h).symm

theorem depth_of_fieldEntry {name : String} {entry : Spec} {field : Field Spec}
    (h : fieldEntry name entry = .ok field) : field.type.depth < entry.depth := by
  obtain ⟨members, rfl, hof, -⟩ := fieldEntry_eq_ok_iff.mp h
  exact Spec.depth_lt_of_lookup hof

theorem exists_type_of_readField {read : Spec → Except DescriptionError Node} {name : String}
    {entry : Spec} (h : readField read (name, entry) = .error .tooDeep) :
    ∃ field, fieldEntry name entry = .ok field ∧ read field.type = .error .tooDeep := by
  rw [readField, bind_eq_error_iff] at h
  cases h with
  | inl hmissing => cases fieldEntry_error hmissing
  | inr h =>
      obtain ⟨field, hfield, h⟩ := h
      rw [bind_eq_error_iff] at h
      cases h with
      | inl htype => exact ⟨field, hfield, htype⟩
      | inr h =>
          obtain ⟨_, -, hpure⟩ := h
          cases hpure

/-- A description that there is no room for nests more deeply than the room. -/
theorem depth_of_read_eq_tooDeep {room : Nat} {description : Spec}
    (h : read room description = .error .tooDeep) : room < description.depth := by
  induction room generalizing description with
  | zero =>
      cases hlayer : layer description with
      | error error =>
          simp only [read.eq_def, hlayer, Except.error.injEq] at h
          exact absurd (h ▸ hlayer) (layer_ne_tooDeep description)
      | ok level =>
          obtain ⟨members, rfl, -⟩ := layer_eq_ok_iff.mp hlayer
          exact Nat.succ_pos _
  | succ room ih =>
      rw [read.eq_def] at h
      cases hlayer : layer description with
      | error error =>
          simp only [hlayer, Except.error.injEq] at h
          exact absurd (h ▸ hlayer) (layer_ne_tooDeep description)
      | ok level =>
          obtain ⟨members, rfl, hlevel⟩ := layer_eq_ok_iff.mp hlayer
          cases hlevel with
          | primitive _ _ | any _ | empty _ _ => simp [hlayer] at h
          | slice _ hof =>
              simp only [hlayer, map_eq_error_iff] at h
              exact Nat.lt_of_le_of_lt (ih h) (Spec.depth_lt_of_lookup hof)
          | struct _ hentries =>
              simp only [hlayer, map_eq_error_iff] at h
              obtain ⟨⟨name, entry⟩, hentry, herror⟩ := exists_of_mapM_eq_error h
              obtain ⟨field, hfield, htype⟩ := exists_type_of_readField herror
              have hlookup := hentries.resolve_right fun hnone => nomatch hnone.1
              calc
                room + 1 ≤ field.type.depth := ih htype
                _ < entry.depth := depth_of_fieldEntry hfield
                _ < (Spec.obj _).depth := Spec.depth_lt_of_mem hentry
                _ < (Spec.obj members).depth := Spec.depth_lt_of_lookup hlookup

theorem readField_eq_or_tooDeep {read other : Spec → Except DescriptionError Node}
    (h : ∀ type, read type = other type ∨ read type = .error .tooDeep) (entry : String × Spec) :
    readField read entry = readField other entry ∨ readField read entry = .error .tooDeep := by
  rw [readField, readField]
  cases fieldEntry entry.1 entry.2 with
  | error error => exact .inl rfl
  | ok field =>
      simp only [bind, Except.bind]
      cases h field.type with
      | inl hsame => exact .inl (by rw [hsame])
      | inr hdeep => exact .inr (by rw [hdeep])

/-- With less room a description is read as the same tree, or it nests too deeply. -/
theorem read_eq_or_tooDeep {room more : Nat} (hroom : room ≤ more) (description : Spec) :
    read room description = read more description ∨ read room description = .error .tooDeep := by
  induction room generalizing more description with
  | zero =>
      rw [read.eq_def 0, read.eq_def more]
      cases layer description with
      | error error => exact .inl rfl
      | ok level =>
          cases level with
          | leaf node => exact .inl rfl
          | _ => exact .inr rfl
  | succ room ih =>
      obtain ⟨more, rfl⟩ := Nat.exists_eq_add_one_of_ne_zero (Nat.ne_zero_of_lt hroom)
      have hless : room ≤ more := Nat.le_of_succ_le_succ hroom
      rw [read.eq_def (room + 1), read.eq_def (more + 1)]
      cases layer description with
      | error error => exact .inl rfl
      | ok level =>
          cases level with
          | leaf node => exact .inl rfl
          | slice element =>
              dsimp only
              cases ih hless element with
              | inl hsame => exact .inl (by rw [hsame])
              | inr hdeep => exact .inr (by rw [hdeep]; rfl)
          | struct entries =>
              have hsteps : ∀ entry ∈ entries,
                  readField (read room) entry = readField (read more) entry ∨
                    ∃ error, error = .tooDeep ∧ readField (read room) entry = .error error := by
                intro entry _
                simpa using readField_eq_or_tooDeep (fun type => ih hless type) entry
              dsimp only
              rcases mapM_eq_or_fails hsteps with hsame | ⟨_, rfl, hdeep⟩
              · exact .inl (by rw [hsame])
              · exact .inr (map_eq_error_iff.mpr hdeep)

end JsonShape.Description

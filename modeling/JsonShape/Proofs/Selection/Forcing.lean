import JsonShape.Proofs.Description.Reading
import JsonShape.Proofs.Selection.Applying

/-!
# Forced types

An entry of a selection may force another type on its field.  Forcing a type is to
put it in the place of the field's own and to go on as if nothing was forced, so a
finished tree and the description of it can stand for each other.  Only nesting
tells them apart: a description is read with the room that is left for it.
-/

set_option autoImplicit false

namespace JsonShape.Selection

/-- An entry that forces a type; everything else is as in `changes`. -/
def forcingEntry (changes : List (String × Spec)) (type : Spec) : Spec :=
  .obj (insertMember "forceType" type changes)

/-- A selection in which the entry for a field forces a type; everything else is as
in `members`, `entries` and `changes`. -/
def forcing (members entries changes : List (String × Spec)) (name : String) (type : Spec) : Spec :=
  .obj (insertMember "of" (.obj (insertMember name (forcingEntry changes type) entries)) members)

theorem isTruthy_forcingEntry (changes : List (String × Spec)) (type : Spec) :
    (forcingEntry changes type).isTruthy = true := by
  rw [forcingEntry, Spec.isTruthy, Spec.isFalsy]
  cases hmembers : insertMember "forceType" type changes with
  | nil => simpa [hmembers] using lookup_insertMember_self "forceType" type changes
  | cons member rest => rfl

/-! ## The changes of an entry -/

theorem given?_insertMember_self {value : Spec} (hvalue : value ≠ .null) (name : String)
    (members : List (String × Spec)) :
    given? name (insertMember name value members) = some value := by
  rw [given?_eq_some_iff]
  exact ⟨lookup_insertMember_self name value members, hvalue⟩

theorem given?_insertMember_of_ne {name other : String} (hother : other ≠ name) (value : Spec)
    (members : List (String × Spec)) :
    given? other (insertMember name value members) = given? other members := by
  rw [given?, lookup_insertMember_of_ne hother, given?]

/-- A forced type is put in the place of the field's own. -/
theorem overrideField_forceType (room : Nat) (select : Node → Spec → Except SelectionError Node)
    (field : Field Node) (changes : List (String × Spec)) {type : Spec} (htype : type ≠ .null) :
    overrideField room select field (insertMember "forceType" type changes) =
      (forcedType room type).mapError absorbDepth >>= fun tree =>
        overrideField room select ⟨tree, field.optional⟩
          (insertMember "forceType" .null changes) := by
  have hnone : given? "forceType" (insertMember "forceType" .null changes) = none := by
    rw [given?, lookup_insertMember_self]
  simp only [overrideField, hnone, given?_insertMember_self htype,
    given?_insertMember_of_ne (show "of" ≠ "forceType" by decide),
    lookup_insertMember_of_ne (show "forceOptional" ≠ "forceType" by decide),
    lookup_insertMember_of_ne (show "type" ≠ "forceType" by decide)]
  rfl

theorem forcedType_node {tree : Node} (htree : tree.IsFinished) (room : Nat) :
    forcedType room (.node tree) = .ok tree := by
  rw [forcedType, if_pos (Node.isFinished_iff.mp htree).1]

/-- A description forces the tree that it describes, or it nests too deeply. -/
theorem forcedType_describe {tree : Node} (htree : tree.IsFinished) (room : Nat) :
    forcedType room (Spec.ofJson tree.describe) = .ok tree ∨
      room < tree.depth ∧
        forcedType room (Spec.ofJson tree.describe) = .error (.description .tooDeep) := by
  have hread : forcedType room (Spec.ofJson tree.describe) =
      (Description.read room (Spec.ofJson tree.describe)).mapError .description := by
    cases tree <;> rfl
  rw [hread]
  cases Description.read_describe htree room with
  | inl hsame => exact .inl (by rw [hsame]; rfl)
  | inr hdeep => exact .inr ⟨hdeep.1, by rw [hdeep.2]; rfl⟩

/-- Forcing a tree through its description is forcing the tree, if there is room. -/
theorem overrideField_describe (room : Nat) (select : Node → Spec → Except SelectionError Node)
    (field : Field Node) (changes : List (String × Spec)) {tree : Node} (htree : tree.IsFinished) :
    overrideField room select field
          (insertMember "forceType" (Spec.ofJson tree.describe) changes) =
        overrideField room select field (insertMember "forceType" (.node tree) changes) ∨
      room < tree.depth ∧
        overrideField room select field
          (insertMember "forceType" (Spec.ofJson tree.describe) changes) = .error .tooDeep := by
  have hdescription : Spec.ofJson tree.describe ≠ .null := by
    cases tree <;> simp [Node.describe, Spec.ofJson]
  rw [overrideField_forceType room select field changes hdescription,
    overrideField_forceType room select field changes (show Spec.node tree ≠ .null by simp),
    forcedType_node htree]
  cases forcedType_describe htree room with
  | inl hsame => exact .inl (by rw [hsame])
  | inr hdeep => exact .inr ⟨hdeep.1, by rw [hdeep.2]; rfl⟩

/-! ## The entry for one field -/

theorem unknownField?_cons (name : String) (entry : Spec) (entries : List (String × Spec))
    (fields : List (String × Field Node)) :
    unknownField? ((name, entry) :: entries) fields =
      if entry.isTruthy && (fields.lookup name).isNone then some name
      else unknownField? entries fields := by
  rw [unknownField?, List.find?_cons, unknownField?]
  dsimp only
  cases entry.isTruthy && (fields.lookup name).isNone <;> rfl

/-- Of an entry it only counts whether it is a false value when unknown fields are
looked for. -/
theorem unknownField?_insertMember {left right : Spec} (h : left.isTruthy = right.isTruthy)
    (name : String) (entries : List (String × Spec)) (fields : List (String × Field Node)) :
    unknownField? (insertMember name left entries) fields =
      unknownField? (insertMember name right entries) fields := by
  induction entries with
  | nil => rw [insertMember, insertMember, unknownField?_cons, unknownField?_cons, h]
  | cons entry rest ih =>
      rw [insertMember, insertMember]
      by_cases hname : entry.1 = name
      · rw [if_pos hname, if_pos hname, unknownField?_cons, unknownField?_cons, h]
      · rw [if_neg hname, if_neg hname, unknownField?_cons, unknownField?_cons, ih]

variable {room : Nat} {select : Node → Spec → Except SelectionError Node}

theorem selectField_forcingEntry (entries changes : List (String × Spec)) (type : Spec)
    (field : String × Field Node) :
    selectField room select (insertMember field.1 (forcingEntry changes type) entries) field =
      (overrideField room select field.2 (insertMember "forceType" type changes)).map
        fun changed => some (field.1, changed) := by
  have hkept : (forcingEntry changes type).isFalsy = false := by
    simpa [Spec.isTruthy] using isTruthy_forcingEntry changes type
  rw [selectField, lookup_insertMember_self, forcingEntry] at *
  simp only [hkept, Bool.false_eq_true, if_false]
  cases overrideField room select field.2 (insertMember "forceType" type changes) <;> rfl

theorem selectField_insertMember_of_ne {name : String} {field : String × Field Node}
    (hname : field.1 ≠ name) (entry : Spec) (entries : List (String × Spec)) :
    selectField room select (insertMember name entry entries) field =
      selectField room select entries field := by
  rw [selectField, lookup_insertMember_of_ne hname, selectField]

/-- A tree that is forced through its description, if there is room, makes no
difference to what is selected. -/
theorem selectFields_describe {tree : Node} (htree : tree.IsFinished) (name : String)
    (entries changes : List (String × Spec)) (fields : List (String × Field Node)) :
    selectFields room select
          (insertMember name (forcingEntry changes (Spec.ofJson tree.describe)) entries) fields =
        selectFields room select
          (insertMember name (forcingEntry changes (.node tree)) entries) fields ∨
      room < tree.depth ∧
        selectFields room select
          (insertMember name (forcingEntry changes (Spec.ofJson tree.describe)) entries) fields =
            .error .tooDeep := by
  have hunknown := unknownField?_insertMember
    ((isTruthy_forcingEntry changes (Spec.ofJson tree.describe)).trans
      (isTruthy_forcingEntry changes (.node tree)).symm) name entries fields
  rw [selectFields, selectFields, hunknown]
  cases unknownField? (insertMember name (forcingEntry changes (.node tree)) entries) fields with
  | some unknown => exact .inl rfl
  | none =>
      have hsteps : ∀ field ∈ fields,
          selectField room select (insertMember name
              (forcingEntry changes (Spec.ofJson tree.describe)) entries) field =
            selectField room select
              (insertMember name (forcingEntry changes (.node tree)) entries) field ∨
          ∃ error, (room < tree.depth ∧ error = .tooDeep) ∧
            selectField room select (insertMember name
              (forcingEntry changes (Spec.ofJson tree.describe)) entries) field =
                .error error := by
        intro field _
        by_cases hname : field.1 = name
        · rw [← hname, selectField_forcingEntry, selectField_forcingEntry]
          cases overrideField_describe room select field.2 changes htree with
          | inl hsame => exact .inl (by rw [hsame])
          | inr hdeep =>
              exact .inr ⟨.tooDeep, ⟨hdeep.1, rfl⟩, map_eq_error_iff.mpr hdeep.2⟩
        · rw [selectField_insertMember_of_ne hname, selectField_insertMember_of_ne hname]
          exact .inl rfl
      cases mapM_eq_or_fails hsteps with
      | inl hsame => exact .inl (by rw [hsame])
      | inr hdeep =>
          obtain ⟨_, ⟨hdepth, rfl⟩, herror⟩ := hdeep
          exact .inr ⟨hdepth, map_eq_error_iff.mpr herror⟩

/-! ## The selection -/

/-- A selection with a forced type applies to a struct through its fields. -/
theorem apply_forcing (members entries changes : List (String × Spec)) (name : String)
    (type : Spec) (fields : List (String × Field Node)) :
    apply (room + 3) (.struct fields) (forcing members entries changes name type) =
      containerOf (members.lookup "type") >>= fun
        | .slice => .error (.mismatch .struct .slice)
        | .struct =>
            (selectFields room (apply room)
              (insertMember name (forcingEntry changes type) entries) fields).map .struct := by
  have hresolve : resolve (.struct fields) (forcing members entries changes name type) =
      containerOf (members.lookup "type") >>= fun container =>
        (targetOf (.struct fields) container).map fun target =>
          (insertMember name (forcingEntry changes type) entries, target) := by
    rw [resolve, forcing, entriesOf, lookup_insertMember_self,
      lookup_insertMember_of_ne (by decide)]
    dsimp only
    cases containerOf (members.lookup "type") with
    | error error => rfl
    | ok container => cases container <;> rfl
  rw [apply.eq_def, hresolve]
  cases containerOf (members.lookup "type") with
  | error error => rfl
  | ok container => cases container <;> rfl

/-- A finished tree can be forced through its description, if there is room for it. -/
theorem apply_forcing_describe {tree : Node} (htree : tree.IsFinished)
    (members entries changes : List (String × Spec)) (name : String)
    (fields : List (String × Field Node)) :
    apply (room + 3) (.struct fields)
          (forcing members entries changes name (Spec.ofJson tree.describe)) =
        apply (room + 3) (.struct fields) (forcing members entries changes name (.node tree)) ∨
      room < tree.depth ∧
        apply (room + 3) (.struct fields)
          (forcing members entries changes name (Spec.ofJson tree.describe)) = .error .tooDeep := by
  rw [apply_forcing, apply_forcing]
  cases containerOf (members.lookup "type") with
  | error error => exact .inl rfl
  | ok container =>
      cases container with
      | slice => exact .inl rfl
      | struct =>
          cases selectFields_describe htree name entries changes fields with
          | inl hsame => exact .inl (congrArg (Except.map Node.struct) hsame)
          | inr hdeep => exact .inr ⟨hdeep.1, map_eq_error_iff.mpr hdeep.2⟩

end JsonShape.Selection

import JsonShape.Proofs.Traversal
import JsonShape.Selection

/-!
# Selections that succeed

A selection that succeeds follows the tree: it goes through a slice to the
elements and through a struct field by field.  Of each field it looks up the
name among its entries, which drop the field, keep it or keep it changed; the
fields that are kept stay in the order of the struct.
-/

set_option autoImplicit false

namespace JsonShape.Selection

theorem entriesOf_eq_ok_iff {spec : Spec} {entries : List (String × Spec)} {container : Container} :
    entriesOf spec = .ok (entries, container) ↔
      ∃ members, spec = .obj members ∧ members.lookup "of" = some (.obj entries) ∧
        containerOf (members.lookup "type") = .ok container := by
  cases spec with
  | obj members =>
      rw [entriesOf]
      cases hof : members.lookup "of" with
      | none => simp [hof]
      | some entry => cases entry <;> simp [hof, and_comm]
  | _ => simp [entriesOf]

theorem resolve_eq_ok_iff {node : Node} {spec : Spec} {entries : List (String × Spec)}
    {target : Target} :
    resolve node spec = .ok (entries, target) ↔
      (∃ element, node = .slice element ∧ entriesOf spec = .ok (entries, .slice) ∧
        target = .slice element) ∨
      ∃ fields, node = .struct fields ∧ entriesOf spec = .ok (entries, .struct) ∧
        target = .struct fields := by
  simp only [resolve, bind_eq_ok_iff, pure_eq_ok_iff, Prod.exists, Prod.mk.injEq]
  constructor
  · rintro ⟨_, expected, hentries, _, htarget, rfl, rfl⟩
    cases expected <;> cases node <;> simp_all [targetOf]
  · rintro (⟨element, rfl, hentries, rfl⟩ | ⟨fields, rfl, hentries, rfl⟩)
    · exact ⟨entries, .slice, hentries, _, rfl, rfl, rfl⟩
    · exact ⟨entries, .struct, hentries, _, rfl, rfl, rfl⟩

/-- What a selection applies to does not depend on its entries. -/
theorem resolve_obj {members entries : List (String × Spec)}
    (hof : members.lookup "of" = some (.obj entries)) (node : Node) :
    resolve node (.obj members) =
      (containerOf (members.lookup "type") >>= targetOf node).map fun target =>
        (entries, target) := by
  simp only [resolve, entriesOf, hof]
  cases containerOf (members.lookup "type") with
  | error error => rfl
  | ok container =>
      simp only [bind, Except.bind, pure, Except.pure]
      cases targetOf node container <;> rfl

/-- The trees to which a selection applies, and what becomes of them. -/
theorem apply_eq_ok_iff {room : Nat} {node pruned : Node} {spec : Spec} :
    apply room node spec = .ok pruned ↔
      (∃ inner entries element other, room = inner + 1 ∧ node = .slice element ∧
        entriesOf spec = .ok (entries, .slice) ∧
        apply inner element (.obj [("of", .obj entries)]) = .ok other ∧ pruned = .slice other) ∨
      ∃ inner entries fields others, room = inner + 3 ∧ node = .struct fields ∧
        entriesOf spec = .ok (entries, .struct) ∧
        selectFields inner (apply inner) entries fields = .ok others ∧ pruned = .struct others := by
  rw [apply.eq_def]
  cases hresolve : resolve node spec with
  | error error =>
      have hne : ∀ result, resolve node spec ≠ .ok result := by simp [hresolve]
      simp only [reduceCtorEq, false_iff]
      rintro (⟨_, entries, element, _, -, rfl, hentries, -⟩ |
        ⟨_, entries, fields, _, -, rfl, hentries, -⟩)
      · exact hne _ (resolve_eq_ok_iff.mpr (.inl ⟨element, rfl, hentries, rfl⟩))
      · exact hne _ (resolve_eq_ok_iff.mpr (.inr ⟨fields, rfl, hentries, rfl⟩))
  | ok result =>
      obtain ⟨entries, target⟩ := result
      rcases resolve_eq_ok_iff.mp hresolve with
        ⟨element, rfl, hentries, rfl⟩ | ⟨fields, rfl, hentries, rfl⟩
      · cases room with
        | zero => simp
        | succ inner => simp [hentries, eq_comm (a := pruned)]
      · rcases room with _ | _ | _ | inner
        all_goals simp [hentries, eq_comm (a := pruned)]

/-- A selection applies to a slice through its elements. -/
theorem apply_slice_eq_ok_iff {room : Nat} {element pruned : Node} {spec : Spec} :
    apply room (.slice element) spec = .ok pruned ↔
      ∃ inner entries other, room = inner + 1 ∧ entriesOf spec = .ok (entries, .slice) ∧
        apply inner element (.obj [("of", .obj entries)]) = .ok other ∧ pruned = .slice other := by
  rw [apply_eq_ok_iff]
  constructor
  · rintro (⟨inner, entries, _, other, hroom, hnode, h⟩ | ⟨_, _, _, _, -, hnode, -⟩)
    · cases hnode
      exact ⟨inner, entries, other, hroom, h⟩
    · cases hnode
  · rintro ⟨inner, entries, other, hroom, h⟩
    exact .inl ⟨inner, entries, element, other, hroom, rfl, h⟩

/-- A selection applies to a struct field by field. -/
theorem apply_struct_eq_ok_iff {room : Nat} {fields : List (String × Field Node)} {pruned : Node}
    {spec : Spec} :
    apply room (.struct fields) spec = .ok pruned ↔
      ∃ inner entries others, room = inner + 3 ∧ entriesOf spec = .ok (entries, .struct) ∧
        selectFields inner (apply inner) entries fields = .ok others ∧ pruned = .struct others := by
  rw [apply_eq_ok_iff]
  constructor
  · rintro (⟨_, _, _, _, -, hnode, -⟩ | ⟨inner, entries, _, others, hroom, hnode, h⟩)
    · cases hnode
    · cases hnode
      exact ⟨inner, entries, others, hroom, h⟩
  · rintro ⟨inner, entries, others, hroom, h⟩
    exact .inr ⟨inner, entries, fields, others, hroom, rfl, h⟩

/-- What holds of a selection that succeeds when it holds within what is left: of the
elements of a slice, and of whatever a struct's fields select. -/
theorem apply_induction {motive : Nat → Node → Spec → Node → Prop}
    (hslice : ∀ room spec entries element other, entriesOf spec = .ok (entries, .slice) →
      apply room element (.obj [("of", .obj entries)]) = .ok other →
      motive room element (.obj [("of", .obj entries)]) other →
        motive (room + 1) (.slice element) spec (.slice other))
    (hstruct : ∀ room spec entries fields others, entriesOf spec = .ok (entries, .struct) →
      selectFields room (apply room) entries fields = .ok others →
      (∀ type spec part, apply room type spec = .ok part → motive room type spec part) →
        motive (room + 3) (.struct fields) spec (.struct others))
    {room : Nat} {node pruned : Node} {spec : Spec} (h : apply room node spec = .ok pruned) :
    motive room node spec pruned := by
  induction room using Nat.strongRecOn generalizing node pruned spec with
  | ind room ih =>
      rcases apply_eq_ok_iff.mp h with
        ⟨inner, entries, element, other, rfl, rfl, hentries, hother, rfl⟩ |
        ⟨inner, entries, fields, others, rfl, rfl, hentries, hothers, rfl⟩
      · exact hslice inner spec entries element other hentries hother (ih inner (by omega) hother)
      · exact hstruct inner spec entries fields others hentries hothers
          fun type spec part => ih inner (by omega)

theorem container_of_apply {room : Nat} {node pruned : Node} {spec : Spec}
    (h : apply room node spec = .ok pruned) :
    (∃ element, node = .slice element) ∨ ∃ fields, node = .struct fields := by
  rcases apply_eq_ok_iff.mp h with ⟨_, _, element, _, -, hnode, -⟩ | ⟨_, _, fields, _, -, hnode, -⟩
  · exact .inl ⟨element, hnode⟩
  · exact .inr ⟨fields, hnode⟩

/-- Whether the field of a name is kept: the entry for it must not be a false value. -/
def keeps (entries : List (String × Spec)) (name : String) : Bool :=
  (entries.lookup name).any Spec.isTruthy

/-- The selection that an entry makes within its field. -/
def within (members : List (String × Spec)) (entries : Spec) : Spec :=
  .obj [("of", entries), ("type", (members.lookup "type").getD .null)]

/-- The selection within the field of a name, unless the field is left alone. -/
def inner? (entries : List (String × Spec)) (name : String) : Option Spec :=
  match entries.lookup name with
  | some (.obj members) => (given? "of" members).map (within members)
  | _ => none

theorem given?_eq_some_iff {name : String} {members : List (String × Spec)} {value : Spec} :
    given? name members = some value ↔ members.lookup name = some value ∧ value ≠ .null := by
  rw [given?]
  cases members.lookup name with
  | none => simp
  | some found =>
      cases found with
      | null => simp [eq_comm (a := value)]
      | _ =>
          constructor
          · rintro ⟨⟩
            exact ⟨rfl, by simp⟩
          · exact And.left

theorem keeps_of_lookup_true {entries : List (String × Spec)} {name : String}
    (h : entries.lookup name = some (.bool true)) : keeps entries name = true := by
  rw [keeps, h]
  rfl

/-- The type of a field before anything is selected within it. -/
def typeBefore (room : Nat) (field : Field Node) (members : List (String × Spec)) :
    Except SelectionError Node :=
  match given? "forceType" members with
  | none => .ok field.type
  | some type => (forcedType room type).mapError absorbDepth

/-- What is selected within a field of the given type. -/
def selectWithin (select : Node → Spec → Except SelectionError Node)
    (members : List (String × Spec)) (type : Node) : Except SelectionError Node :=
  match given? "of" members with
  | none => .ok type
  | some entries => select type (within members entries)

/-- Whether the changes of a field make it optional. -/
def forcesOptional (members : List (String × Spec)) : Bool :=
  ((members.lookup "forceOptional").map Spec.isTruthy).getD false

/-- A field is changed in two steps, of which each can fail. -/
theorem overrideField_eq (room : Nat) (select : Node → Spec → Except SelectionError Node)
    (field : Field Node) (members : List (String × Spec)) :
    overrideField room select field members =
      typeBefore room field members >>= fun type =>
        (selectWithin select members type).map fun selected =>
          ⟨selected, field.optional || forcesOptional members⟩ := by
  simp only [overrideField, typeBefore, selectWithin, within]
  cases given? "forceType" members <;> cases given? "of" members <;> rfl

theorem overrideField_eq_ok_iff_exists {room : Nat}
    {select : Node → Spec → Except SelectionError Node} {field changed : Field Node}
    {members : List (String × Spec)} :
    overrideField room select field members = .ok changed ↔
      ∃ type part, typeBefore room field members = .ok type ∧
        selectWithin select members type = .ok part ∧
        changed = ⟨part, field.optional || forcesOptional members⟩ := by
  simp only [overrideField_eq, bind_eq_ok_iff, map_eq_ok_iff, eq_comm (a := changed),
    exists_and_left]

/-! ## The fields of a struct -/

variable {room : Nat} {select : Node → Spec → Except SelectionError Node}
  {entries : List (String × Spec)} {field : String × Field Node}
  {result : Option (String × Field Node)} {fields others : List (String × Field Node)}

/-- A field is dropped, kept or kept changed; every other entry is an error. -/
theorem selectField_eq_ok_iff :
    selectField room select entries field = .ok result ↔
      (keeps entries field.1 = false ∧ result = none) ∨
      (entries.lookup field.1 = some (.bool true) ∧ result = some field) ∨
      ∃ members changed, entries.lookup field.1 = some (.obj members) ∧
        keeps entries field.1 = true ∧
        overrideField room select field.2 members = .ok changed ∧
        result = some (field.1, changed) := by
  rw [selectField, keeps]
  cases entries.lookup field.1 with
  | none => simp [eq_comm (a := result)]
  | some entry =>
      cases hfalsy : entry.isFalsy
      all_goals
        cases entry with
        | bool value =>
            cases value <;> simp_all [Spec.isTruthy, Spec.isFalsy, eq_comm (a := result)]
        | _ => simp [hfalsy, Spec.isTruthy, eq_comm (a := result)]

theorem selectField_obj {members : List (String × Spec)}
    (hentry : entries.lookup field.1 = some (.obj members)) (hne : members ≠ []) :
    selectField room select entries field =
      (overrideField room select field.2 members).map fun changed => some (field.1, changed) := by
  rw [selectField, hentry]
  simp only [Spec.isFalsy, List.isEmpty_iff, hne, if_false]
  cases overrideField room select field.2 members <;> rfl

/-- A field that is kept is left whole or changed. -/
theorem selectField_eq_some_iff {other : String × Field Node} :
    selectField room select entries field = .ok (some other) ↔
      (entries.lookup field.1 = some (.bool true) ∧ other = field) ∨
      ∃ members changed, entries.lookup field.1 = some (.obj members) ∧
        keeps entries field.1 = true ∧ overrideField room select field.2 members = .ok changed ∧
        other = (field.1, changed) := by
  simp only [selectField_eq_ok_iff, reduceCtorEq, and_false, false_or, Option.some.injEq]

/-- An entry that forces nothing leaves the field alone or selects within its type. -/
theorem overrideField_eq_ok_iff {field changed : Field Node} {members : List (String × Spec)}
    (htype : members.lookup "forceType" = none)
    (hoptional : members.lookup "forceOptional" = none) :
    overrideField room select field members = .ok changed ↔
      (given? "of" members = none ∧ changed = field) ∨
      ∃ entries type, given? "of" members = some entries ∧
        select field.type (within members entries) = .ok type ∧
        changed = ⟨type, field.optional⟩ := by
  have hgiven : given? "forceType" members = none := by rw [given?, htype]
  rw [overrideField, hgiven, hoptional]
  cases given? "of" members with
  | none => simp [eq_comm (a := changed)]
  | some entries => simp [within, eq_comm (a := changed)]

theorem unknownField?_eq_none_iff :
    unknownField? entries fields = none ↔
      ∀ name entry, (name, entry) ∈ entries → entry.isTruthy = true →
        name ∈ fields.map Prod.fst := by
  simp [unknownField?, mem_names_iff, Option.isSome_iff_ne_none]

theorem selectFields_eq_ok_iff :
    selectFields room select entries fields = .ok others ↔
      unknownField? entries fields = none ∧
        ∃ results, fields.mapM (selectField room select entries) = .ok results ∧
          others = results.filterMap id := by
  rw [selectFields]
  cases unknownField? entries fields <;> simp [eq_comm (a := others)]

/-- The fields that are kept correspond one by one to what becomes of them. -/
theorem selectFields_eq_ok_iff_forall₂ :
    selectFields room select entries fields = .ok others ↔
      unknownField? entries fields = none ∧
        List.Forall₂ (fun field other => selectField room select entries field = .ok (some other))
          (fields.filter fun field => keeps entries field.1) others := by
  rw [selectFields_eq_ok_iff]
  apply and_congr_right
  intro _
  apply filterMap_mapM_eq_ok_iff
  · intro field hkeeps
    exact selectField_eq_ok_iff.mpr (.inl ⟨hkeeps, rfl⟩)
  · intro field hkeeps hnone
    rcases selectField_eq_ok_iff.mp hnone with ⟨hdrops, -⟩ | ⟨-, hsome⟩ | ⟨_, _, -, -, -, hsome⟩
    · exact Bool.false_ne_true (hdrops.symm.trans hkeeps)
    · cases hsome
    · cases hsome

theorem name_of_selectField {other : String × Field Node}
    (h : selectField room select entries field = .ok (some other)) : other.1 = field.1 := by
  obtain ⟨-, rfl⟩ | ⟨_, _, -, -, -, rfl⟩ := selectField_eq_some_iff.mp h <;> rfl

/-- The fields that are kept stay in the order of the struct. -/
theorem names_of_selectFields (h : selectFields room select entries fields = .ok others) :
    others.map Prod.fst = (fields.map Prod.fst).filter (keeps entries) := by
  have hfields := (selectFields_eq_ok_iff_forall₂.mp h).2
  have hnames : List.Forall₂ Eq (others.map Prod.fst)
      ((fields.filter fun field => keeps entries field.1).map Prod.fst) := by
    rw [List.forall₂_map_left_iff, List.forall₂_map_right_iff]
    exact (hfields.imp fun _ _ => name_of_selectField).flip
  rw [List.forall₂_eq_eq_eq] at hnames
  rw [hnames, List.filter_map]
  rfl

/-- Every field that is kept comes from a field of the struct. -/
theorem exists_of_mem_selectFields {other : String × Field Node}
    (h : selectFields room select entries fields = .ok others) (hother : other ∈ others) :
    ∃ field ∈ fields, selectField room select entries field = .ok (some other) := by
  obtain ⟨-, results, hresults, rfl⟩ := selectFields_eq_ok_iff.mp h
  exact exists_of_mem_mapM hresults (by simpa using hother)

theorem mem_of_selectFields {other : String × Field Node}
    (h : selectFields room select entries fields = .ok others) (hfield : field ∈ fields)
    (hother : selectField room select entries field = .ok (some other)) : other ∈ others := by
  obtain ⟨-, results, hresults, rfl⟩ := selectFields_eq_ok_iff.mp h
  obtain ⟨result, hresult, hfound⟩ := exists_eq_ok_of_mapM hresults hfield
  rw [hother, Except.ok.injEq] at hfound
  simpa [hfound] using hresult

end JsonShape.Selection

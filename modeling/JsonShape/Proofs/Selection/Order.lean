import JsonShape.Proofs.Selection.EqualTrees

/-!
# The order of keys

A selection is applied by looking names up: those of its entries among the fields of a
struct, and those of the fields among its entries.  So neither the order of its entries
nor that of a struct's fields decides what is kept, or whether the selection fails.  The
order of the entries only tells which of several unknown fields is reported.
-/

set_option autoImplicit false

namespace JsonShape

/-- The classes of errors of a selection. -/
inductive SelectionFault where
  | invalid
  | unknownField
  | mismatch
  | tooDeep
  deriving DecidableEq, Repr

def SelectionError.fault : SelectionError → SelectionFault
  | unknownField _ => .unknownField
  | mismatch _ _ => .mismatch
  | tooDeep => .tooDeep
  | noSelection | unknownContainer _ | badEntry _ | description _ => .invalid

/-- Selections whose entries come in another order, at any depth.  All that is not
an entry is the same, and so is every type that is forced. -/
inductive Spec.Reordered : Spec → Spec → Prop
  | refl (spec : Spec) : Reordered spec spec
  | entries {members others entries reordered : List (String × Spec)}
      (hof : members.lookup "of" = some (.obj entries))
      (hothers : others.lookup "of" = some (.obj reordered))
      (hrest : ∀ name, name ≠ "of" → members.lookup name = others.lookup name)
      (hnames : (entries.map Prod.fst).Nodup)
      (horder : (entries.map Prod.fst).Perm (reordered.map Prod.fst))
      (hentries : ∀ name entry other, entries.lookup name = some entry →
        reordered.lookup name = some other → Reordered entry other) :
      Reordered (.obj members) (.obj others)

namespace Selection

/-! ## Results alike -/

section Alike

variable {α β : Type} {result other : Except SelectionError α}

/-- Results that are the same, or else failures of the same class. -/
def Alike (result other : Except SelectionError α) : Prop :=
  result.mapError SelectionError.fault = other.mapError SelectionError.fault

@[simp]
theorem Alike.refl (result : Except SelectionError α) : Alike result result := rfl

@[simp]
theorem alike_ok_iff {value found : α} :
    Alike (.ok value : Except SelectionError α) (.ok found) ↔ value = found := by
  simp [Alike, Except.mapError]

@[simp]
theorem alike_error_iff {error cause : SelectionError} :
    Alike (.error error : Except SelectionError α) (.error cause) ↔ error.fault = cause.fault := by
  simp [Alike, Except.mapError]

@[simp]
theorem not_alike_ok_error {value : α} {error : SelectionError} :
    ¬Alike (.ok value) (.error error) := by
  simp [Alike, Except.mapError]

@[simp]
theorem not_alike_error_ok {value : α} {error : SelectionError} :
    ¬Alike (.error error) (.ok value) := by
  simp [Alike, Except.mapError]

theorem Alike.bind {next following : α → Except SelectionError β} (h : Alike result other)
    (hnext : ∀ value, Alike (next value) (following value)) :
    Alike (result >>= next) (other >>= following) := by
  cases result <;> cases other <;> simp_all [Bind.bind, Except.bind]

theorem Alike.map {f : α → β} (h : Alike result other) : Alike (result.map f) (other.map f) := by
  cases result <;> cases other <;> simp_all [Except.map]

theorem alike_mapM {f g : α → Except SelectionError β} {values : List α}
    (h : ∀ value ∈ values, Alike (f value) (g value)) :
    Alike (values.mapM f) (values.mapM g) := by
  induction values with
  | nil => exact .refl _
  | cons value rest ih =>
      rw [List.forall_mem_cons] at h
      rw [List.mapM_cons, List.mapM_cons]
      exact h.1.bind fun first => (ih h.2).bind fun results => .refl _

end Alike

/-! ## Entries alike -/

variable {room : Nat} {members others entries reordered : List (String × Spec)}
  {fields : List (String × Field Node)} {field : String × Field Node}

/-- Entries of which both or neither select an unknown field, and that make the same of
known ones. -/
structure AlikeEntries (entries reordered : List (String × Spec)) : Prop where
  unknown : ∀ fields, unknownField? entries fields = none ↔ unknownField? reordered fields = none
  field : ∀ room field, Alike (selectField room (apply room) entries field)
    (selectField room (apply room) reordered field)

theorem alike_selectFields (h : AlikeEntries entries reordered) (room : Nat)
    (fields : List (String × Field Node)) :
    Alike (selectFields room (apply room) entries fields)
      (selectFields room (apply room) reordered fields) := by
  have hunknown := h.unknown fields
  rw [selectFields, selectFields]
  cases hleft : unknownField? entries fields with
  | none =>
      rw [hunknown.mp hleft]
      exact (alike_mapM fun field _ => h.field room field).map
  | some name =>
      cases hright : unknownField? reordered fields with
      | none => simp [hunknown.mpr hright] at hleft
      | some other => simp [SelectionError.fault]

/-- A selection is applied alike when its entries are. -/
theorem alike_apply (h : AlikeEntries entries reordered)
    (hof : members.lookup "of" = some (.obj entries))
    (hothers : others.lookup "of" = some (.obj reordered))
    (htype : members.lookup "type" = others.lookup "type") (room : Nat) (node : Node) :
    Alike (apply room node (.obj members)) (apply room node (.obj others)) := by
  induction room generalizing node members others with
  | zero =>
      rw [apply.eq_def 0 node (.obj members), apply.eq_def 0 node (.obj others),
        resolve_obj hof, resolve_obj hothers, htype]
      cases containerOf (others.lookup "type") >>= targetOf node with
      | error error => exact .refl _
      | ok target => cases target <;> exact .refl _
  | succ room ih =>
      rw [apply.eq_def (room + 1) node (.obj members), apply.eq_def (room + 1) node (.obj others),
        resolve_obj hof, resolve_obj hothers, htype]
      cases containerOf (others.lookup "type") >>= targetOf node with
      | error error => exact .refl _
      | ok target =>
          cases target with
          | slice element =>
              -- the same entries are applied to the elements
              exact (ih List.lookup_cons_self List.lookup_cons_self rfl element).map
          | struct fields =>
              rcases room with _ | _ | room
              · exact .refl _
              · exact .refl _
              · exact (alike_selectFields h room fields).map

/-- A field is changed alike when the selections within it are. -/
theorem alike_overrideField (h : AlikeEntries entries reordered)
    (hof : members.lookup "of" = some (.obj entries))
    (hothers : others.lookup "of" = some (.obj reordered))
    (hrest : ∀ name, name ≠ "of" → members.lookup name = others.lookup name)
    (room : Nat) (field : Field Node) :
    Alike (overrideField room (apply room) field members)
      (overrideField room (apply room) field others) := by
  have hgiven : given? "of" members = some (.obj entries) :=
    given?_eq_some_iff.mpr ⟨hof, nofun⟩
  have hgiven' : given? "of" others = some (.obj reordered) :=
    given?_eq_some_iff.mpr ⟨hothers, nofun⟩
  have hbefore : typeBefore room field members = typeBefore room field others := by
    simp only [typeBefore, given?, hrest "forceType" (by decide)]
  have hoptional : forcesOptional members = forcesOptional others := by
    rw [forcesOptional, forcesOptional, hrest "forceOptional" (by decide)]
  have hwithin (type : Node) : Alike (selectWithin (apply room) members type)
      (selectWithin (apply room) others type) := by
    simp only [selectWithin, hgiven, hgiven', within, hrest "type" (by decide)]
    exact alike_apply h List.lookup_cons_self List.lookup_cons_self rfl room type
  rw [overrideField_eq, overrideField_eq, hbefore, hoptional]
  exact (Alike.refl _).bind fun type => (hwithin type).map

/-! ## Selections alike -/

/-- Selections that do the same to every tree, and to a field that they are the entry for. -/
structure AlikeSpecs (spec other : Spec) : Prop where
  truthy : spec.isTruthy = other.isTruthy
  apply : ∀ room node, Alike (apply room node spec) (apply room node other)
  field : ∀ {entries reordered room} {field : String × Field Node},
    entries.lookup field.1 = some spec → reordered.lookup field.1 = some other →
      Alike (selectField room (Selection.apply room) entries field)
        (selectField room (Selection.apply room) reordered field)

theorem AlikeSpecs.refl (spec : Spec) : AlikeSpecs spec spec where
  truthy := rfl
  apply _ _ := .refl _
  field hentry hother := by
    rw [selectField, selectField, hentry, hother]
    exact .refl _

/-- If no name comes twice, no field is unknown when every name that is kept is a field's. -/
theorem unknownField?_eq_none_iff_keeps (hnames : (entries.map Prod.fst).Nodup) :
    unknownField? entries fields = none ↔
      ∀ name, keeps entries name = true → name ∈ fields.map Prod.fst := by
  simp only [unknownField?_eq_none_iff, keeps, Option.any_eq_true]
  constructor
  · rintro h name ⟨entry, hentry, htruthy⟩
    exact h name entry (mem_of_lookup_eq_some hentry) htruthy
  · intro h name entry hentry htruthy
    exact h name ⟨entry, lookup_eq_some_of_mem hnames hentry, htruthy⟩

theorem alikeEntries_of_perm (hnames : (entries.map Prod.fst).Nodup)
    (horder : (entries.map Prod.fst).Perm (reordered.map Prod.fst))
    (hentries : ∀ name entry other, entries.lookup name = some entry →
      reordered.lookup name = some other → AlikeSpecs entry other) :
    AlikeEntries entries reordered := by
  have hcases (name : String) : (entries.lookup name = none ∧ reordered.lookup name = none) ∨
      ∃ entry other, entries.lookup name = some entry ∧ reordered.lookup name = some other := by
    have hname := horder.mem_iff (a := name)
    rw [mem_names_iff, mem_names_iff] at hname
    cases hentry : entries.lookup name <;> cases hother : reordered.lookup name <;>
      simp_all
  have hkeeps (name : String) : keeps entries name = keeps reordered name := by
    rw [keeps, keeps]
    rcases hcases name with ⟨hentry, hother⟩ | ⟨entry, other, hentry, hother⟩
    · rw [hentry, hother]
    · rw [hentry, hother, Option.any_some, Option.any_some]
      exact (hentries name entry other hentry hother).truthy
  constructor
  · intro fields
    rw [unknownField?_eq_none_iff_keeps hnames,
      unknownField?_eq_none_iff_keeps (horder.nodup_iff.mp hnames)]
    simp only [hkeeps]
  · intro room field
    rcases hcases field.1 with ⟨hentry, hother⟩ | ⟨entry, other, hentry, hother⟩
    · rw [selectField, selectField, hentry, hother]
      exact .refl _
    · exact (hentries field.1 entry other hentry hother).field hentry hother

theorem alike_of_reordered {spec other : Spec} (h : spec.Reordered other) :
    AlikeSpecs spec other := by
  induction h with
  | refl spec => exact .refl spec
  | @entries members others entries reordered hof hothers hrest hnames horder _ ih =>
      have hentries : AlikeEntries entries reordered := alikeEntries_of_perm hnames horder ih
      have hne : members ≠ [] := by
        rintro rfl
        cases hof
      have hne' : others ≠ [] := by
        rintro rfl
        cases hothers
      refine ⟨?_, alike_apply hentries hof hothers (hrest "type" (by decide)), ?_⟩
      · rw [Spec.isTruthy, Spec.isTruthy, Spec.isFalsy, Spec.isFalsy,
          List.isEmpty_eq_false_iff.mpr hne, List.isEmpty_eq_false_iff.mpr hne']
      · intro entries reordered room field hentry hother
        rw [selectField_obj hentry hne, selectField_obj hother hne']
        exact (alike_overrideField hentries hof hothers hrest room field.2).map

end Selection

/-- The order of keys does not matter.  If only the entries of a selection come in
another order, it leaves the same tree or fails with an error of the same class, and if
two trees are equal, it leaves equal trees of both or fails for both. -/
theorem prune_ignores_order [Room] :
    (∀ (node : Node) (spec other : Spec), spec.Reordered other →
      (node.prune spec).mapError SelectionError.fault =
        (node.prune other).mapError SelectionError.fault) ∧
    ∀ (node other : Node) (spec : Spec), node.Equal other → spec.WellNamed →
      Agree (node.prune spec) (other.prune spec) :=
  ⟨fun node _ _ h => (Selection.alike_of_reordered h).apply Room.selection node,
    fun _ _ _ => Selection.agree_prune⟩

/-- The selection of some fields of a slice's elements. -/
def keepInItems (names : List String) : Spec :=
  .obj [("type", .str "slice"), ("of", .obj (names.map fun name => (name, .bool true)))]

theorem reordered_keepInItems {names others : List String} (hnames : names.Nodup)
    (horder : names.Perm others) : (keepInItems names).Reordered (keepInItems others) := by
  have hkept {names : List String} {name : String} {entry : Spec}
      (h : (names.map fun name => (name, Spec.bool true)).lookup name = some entry) :
      entry = .bool true := by
    obtain ⟨_, -, hentry⟩ := List.mem_map.mp (mem_of_lookup_eq_some h)
    exact (Prod.mk.inj hentry).2.symm
  refine .entries rfl rfl ?_ (by simpa [Function.comp_def] using hnames)
    (by simpa [Function.comp_def] using horder) ?_
  · intro name hname
    simp [List.lookup_cons, beq_eq_false_iff_ne.mpr hname]
  · intro name entry other hentry hother
    rw [hkept hentry, hkept hother]
    exact .refl _

/-- A selection from a parcel, whose entries stand in two orders at both levels. -/
def parcelSelection : Spec :=
  .obj [("of", .obj [("id", .bool true), ("lines", keepInItems ["sku", "count"])])]

def parcelSelectionTurned : Spec :=
  .obj [("of", .obj [("lines", keepInItems ["count", "sku"]), ("id", .bool true)])]

theorem reordered_parcelSelection : parcelSelection.Reordered parcelSelectionTurned := by
  refine .entries rfl rfl ?_ (by decide) (by decide) ?_
  · intro name hname
    simp [List.lookup_cons, beq_eq_false_iff_ne.mpr hname]
  · intro name entry other hentry hother
    rcases lookup_cons_eq_some_iff.mp hentry with ⟨rfl, rfl⟩ | ⟨-, hentry⟩
    · cases hother
      exact .refl _
    · rcases lookup_cons_eq_some_iff.mp hentry with ⟨rfl, rfl⟩ | ⟨-, hentry⟩
      · cases hother
        exact reordered_keepInItems (by decide) (by decide)
      · cases hentry

def parcelType : Node :=
  .struct [("id", ⟨.int, false⟩), ("note", ⟨.any, true⟩),
    ("lines", ⟨.slice (.struct [("sku", ⟨.string, false⟩), ("count", ⟨.int, true⟩)]), false⟩)]

def parcelTypeTurned : Node :=
  .struct [("note", ⟨.any, true⟩),
    ("lines", ⟨.slice (.struct [("count", ⟨.int, true⟩), ("sku", ⟨.string, false⟩)]), false⟩),
    ("id", ⟨.int, false⟩)]

theorem equal_parcelType : parcelType.Equal parcelTypeTurned where
  left := by simp [parcelType, Node.int, Node.string, Node.Distinct.primitive, Node.Distinct.any]
  right := by
    simp [parcelTypeTurned, Node.int, Node.string, Node.Distinct.primitive, Node.Distinct.any]
  same := by
    simp [parcelType, parcelTypeTurned, Node.same, Node.fieldsIn, Node.int, Node.string,
      List.lookup_cons]

theorem wellNamed_parcelSelection : parcelSelection.WellNamed where
  distinct := by
    simp [parcelSelection, keepInItems, Spec.distinct_obj_iff, Spec.Distinct.leaf]
  trees tree htree := by
    have hjson : parcelSelection = Spec.ofJson (.obj [("of", .obj [("id", .bool true),
        ("lines", .obj [("type", .str "slice"),
          ("of", .obj [("sku", .bool true), ("count", .bool true)])])])]) := rfl
    rw [hjson] at htree
    exact absurd htree Spec.not_holds_ofJson

/-- What is left of a parcel in either order. -/
def parcelLeft : Node :=
  .struct [("id", ⟨.int, false⟩),
    ("lines", ⟨.slice (.struct [("sku", ⟨.string, false⟩), ("count", ⟨.int, true⟩)]), false⟩)]

theorem prune_ignores_order_parcel :
    parcelType.prune parcelSelection = .ok parcelLeft ∧
      (parcelType.prune parcelSelection).mapError SelectionError.fault =
        (parcelType.prune parcelSelectionTurned).mapError SelectionError.fault ∧
      Agree (parcelType.prune parcelSelection) (parcelTypeTurned.prune parcelSelection) :=
  ⟨rfl, prune_ignores_order.1 parcelType _ _ reordered_parcelSelection,
    prune_ignores_order.2 _ _ _ equal_parcelType wellNamed_parcelSelection⟩

/-- Which of two unknown fields is reported depends on the order of the entries. -/
example : (Node.slice (.struct [])).prune (keepInItems ["sku", "count"]) =
      .error (.unknownField "sku") ∧
    (Node.slice (.struct [])).prune (keepInItems ["count", "sku"]) =
      .error (.unknownField "count") :=
  ⟨rfl, rfl⟩

end JsonShape

import JsonShape.Proofs.Selection.Forcing
import JsonShape.Proofs.Selection.Reach

/-!
# Types of changes

Changes that select within their field are read like a whole selection, so what stands
under `type` in them must be the kind of a container or a false value.  A selection that
succeeds has checked this at every depth.  The type of changes that select nothing is
never looked at, and anything may stand there.
-/

set_option autoImplicit false

namespace JsonShape.Selection

/-- The values that may stand under `type`. -/
def IsContainerType (type : Spec) : Prop :=
  type.isFalsy = true ∨ type = .str "struct" ∨ type = .str "slice"

/-- Whether changes name the kind of a container, if any. -/
def NamesContainer (changes : List (String × Spec)) : Prop :=
  ∀ type, changes.lookup "type" = some type → IsContainerType type

variable {room : Nat} {node pruned : Node} {spec selection : Spec}
  {entries changes others : List (String × Spec)} {fields : List (String × Field Node)}
  {name : String} {field : Field Node}

theorem isContainerType_of_containerOf {container : Container} {type : Spec}
    (h : containerOf (some type) = .ok container) : IsContainerType type := by
  cases container with
  | slice =>
      have hslice := containerOf_eq_slice_iff.mp h
      exact .inr (.inr (Option.some.inj hslice))
  | struct => exact (containerOf_eq_struct_iff.mp h type rfl).imp_right .inl

/-- Every other value is refused with the message that shows it. -/
theorem containerOf_of_not_isContainerType {type : Spec} (h : ¬IsContainerType type) :
    containerOf (some type) = .error (.unknownContainer type.text) := by
  simp only [IsContainerType, not_or, Bool.not_eq_true] at h
  obtain ⟨hfalsy, hstruct, hslice⟩ := h
  rw [containerOf.eq_def]
  simp only [hfalsy, Bool.false_eq_true, if_false]

/-! ## Types that are checked -/

/-- A selection within a field that succeeds has passed the check of its type. -/
theorem namesContainer_of_apply_within
    (h : apply room node (within changes selection) = .ok pruned) : NamesContainer changes := by
  intro type htype
  have hcontainer : ∃ entries container,
      entriesOf (within changes selection) = .ok (entries, container) := by
    rcases apply_eq_ok_iff.mp h with
      ⟨_, entries, _, _, -, -, hentries, -⟩ | ⟨_, entries, _, _, -, -, hentries, -⟩
    · exact ⟨entries, .slice, hentries⟩
    · exact ⟨entries, .struct, hentries⟩
  obtain ⟨entries, container, hentries⟩ := hcontainer
  obtain ⟨members, hmembers, -, hread⟩ := entriesOf_eq_ok_iff.mp hentries
  rw [within, Spec.obj.injEq] at hmembers
  rw [← hmembers, htype] at hread
  exact isContainerType_of_containerOf hread

/-- However deep a selection that succeeds comes to changes that select within their
field, it has checked their type. -/
theorem namesContainer_of_reaches [Room] (hreach : Reaches node spec changes)
    (hof : given? "of" changes = some selection) (hroom : room ≤ Room.description)
    (h : apply room node spec = .ok pruned) : NamesContainer changes := by
  induction hreach generalizing room pruned with
  | item hspec _ ih =>
      obtain ⟨inner, entries, other, rfl, hentries, hother, -⟩ := apply_slice_eq_ok_iff.mp h
      cases hspec.symm.trans hentries
      exact ih hof (by omega) hother
  | here hspec hfield hentry =>
      obtain ⟨inner, -, type, part, -, hpart⟩ := exists_apply_within h hspec hfield hentry hof
      exact namesContainer_of_apply_within hpart
  | within hspec hfield hentry hstart hselection _ ih =>
      obtain ⟨inner, hinner, type, part, hbefore, hpart⟩ :=
        exists_apply_within h hspec hfield hentry hselection
      have hbelow : inner ≤ Room.description := Nat.le_trans hinner hroom
      cases hstart.unique (startsAs_of_typeBefore hbelow hbefore)
      exact ih hof hbelow hpart

/-- A selection within a field is refused for its type before anything else is looked at. -/
theorem apply_within_of_not_isContainerType {type : Spec} (room : Nat) (node : Node)
    (htype : changes.lookup "type" = some type) (h : ¬IsContainerType type) :
    apply room node (within changes (.obj entries)) = .error (.unknownContainer type.text) := by
  have hentries : entriesOf (within changes (.obj entries)) =
      .error (.unknownContainer type.text) := by
    rw [within, htype]
    simp only [entriesOf, List.lookup_cons_self]
    rw [show List.lookup "type" [("of", Spec.obj entries), ("type", (some type).getD .null)] =
      some type from rfl, containerOf_of_not_isContainerType h]
    rfl
  rw [apply.eq_def, resolve, hentries]
  rfl

/-! ## Types that are not looked at -/

/-- Selections, or changes, that differ in one place: the type that stands there in changes
that select nothing. -/
inductive Retyped : List (String × Spec) → List (String × Spec) → Prop
  | idle {changes others : List (String × Spec)} (hne : changes ≠ []) (hothers : others ≠ [])
      (hof : given? "of" changes = none)
      (hrest : ∀ name, name ≠ "type" → changes.lookup name = others.lookup name) :
      Retyped changes others
  | entry {members others before after changes retyped : List (String × Spec)} {name : String}
      (hof : members.lookup "of" = some (.obj (before ++ (name, .obj changes) :: after)))
      (hothers : others.lookup "of" = some (.obj (before ++ (name, .obj retyped) :: after)))
      (hrest : ∀ name, name ≠ "of" → members.lookup name = others.lookup name)
      (h : Retyped changes retyped) : Retyped members others

/-- Objects that do the same as a selection, and as the changes of a field. -/
structure Interchangeable (members others : List (String × Spec)) : Prop where
  ne_nil : members ≠ []
  other_ne_nil : others ≠ []
  apply : ∀ room node, apply room node (.obj members) = apply room node (.obj others)
  override : ∀ room field, overrideField room (Selection.apply room) field members =
    overrideField room (Selection.apply room) field others

/-- A field is changed alike when it starts from the same type, becomes optional alike,
and the same is selected within it. -/
theorem overrideField_congr {select : Node → Spec → Except SelectionError Node}
    (hforced : given? "forceType" changes = given? "forceType" others)
    (hoptional : changes.lookup "forceOptional" = others.lookup "forceOptional")
    (hwithin : ∀ type, selectWithin select changes type = selectWithin select others type) :
    overrideField room select field changes = overrideField room select field others := by
  simp only [overrideField_eq, typeBefore, forcesOptional, hforced, hoptional, hwithin]

theorem interchangeable_of_idle (hne : changes ≠ []) (hothers : others ≠ [])
    (hof : given? "of" changes = none)
    (hrest : ∀ name, name ≠ "type" → changes.lookup name = others.lookup name) :
    Interchangeable changes others := by
  have hgiven {name : String} (hname : name ≠ "type") :
      given? name changes = given? name others := by
    rw [given?, given?, hrest name hname]
  have hof' : given? "of" others = none := hgiven (show "of" ≠ "type" by decide) ▸ hof
  refine ⟨hne, hothers, fun room node => ?_, fun room field => ?_⟩
  · have hnone {members : List (String × Spec)} (h : given? "of" members = none) :
        resolve node (.obj members) = .error .noSelection := by
      have hentries : entriesOf (.obj members) = .error .noSelection := by
        rw [given?] at h
        rw [entriesOf]
        split at h
        · next hlookup => rw [hlookup]
        · next hlookup => rw [hlookup]
        · cases h
      rw [resolve, hentries]
      rfl
    rw [apply.eq_def room node (.obj changes), apply.eq_def room node (.obj others), hnone hof,
      hnone hof']
  · refine overrideField_congr (hgiven (by decide)) (hrest _ (by decide)) fun type => ?_
    rw [selectWithin, selectWithin, hof, hof']

section Entry

variable {before after members retyped : List (String × Spec)}

/-- Unknown fields are looked for among the names of entries, and not within these. -/
theorem unknownField?_of_interchangeable (h : Interchangeable changes retyped) :
    unknownField? (before ++ (name, .obj changes) :: after) fields =
      unknownField? (before ++ (name, .obj retyped) :: after) fields := by
  have htruthy : (Spec.obj changes).isTruthy = (Spec.obj retyped).isTruthy := by
    rw [Spec.isTruthy, Spec.isTruthy, Spec.isFalsy, Spec.isFalsy,
      List.isEmpty_eq_false_iff.mpr h.ne_nil, List.isEmpty_eq_false_iff.mpr h.other_ne_nil]
  induction before with
  | nil => rw [List.nil_append, List.nil_append, unknownField?_cons, unknownField?_cons, htruthy]
  | cons entry before ih =>
      rw [List.cons_append, List.cons_append, unknownField?_cons, unknownField?_cons, ih]

theorem selectField_of_interchangeable (h : Interchangeable changes retyped)
    (entry : String × Field Node) :
    selectField room (apply room) (before ++ (name, .obj changes) :: after) entry =
      selectField room (apply room) (before ++ (name, .obj retyped) :: after) entry := by
  have hlookup (value : Spec) : (before ++ (name, value) :: after).lookup entry.1 =
      (before.lookup entry.1).or (if entry.1 = name then some value else after.lookup entry.1) := by
    rw [List.lookup_append, lookup_cons_ite]
  cases hbefore : before.lookup entry.1 with
  | some found =>
      rw [selectField, selectField, hlookup, hlookup, hbefore]
      rfl
  | none =>
      by_cases hname : entry.1 = name
      · rw [selectField_obj (by rw [hlookup, hbefore, if_pos hname]; rfl) h.ne_nil,
          selectField_obj (by rw [hlookup, hbefore, if_pos hname]; rfl) h.other_ne_nil, h.override]
      · rw [selectField, selectField, hlookup, hlookup, if_neg hname, if_neg hname]

theorem selectFields_of_interchangeable (h : Interchangeable changes retyped) :
    selectFields room (apply room) (before ++ (name, .obj changes) :: after) fields =
      selectFields room (apply room) (before ++ (name, .obj retyped) :: after) fields := by
  rw [selectFields, selectFields, unknownField?_of_interchangeable h,
    funext (selectField_of_interchangeable h)]

/-- A selection is applied alike when one of its entries is interchanged. -/
theorem apply_of_interchangeable (h : Interchangeable changes retyped)
    (hof : members.lookup "of" = some (.obj (before ++ (name, .obj changes) :: after)))
    (hothers : others.lookup "of" = some (.obj (before ++ (name, .obj retyped) :: after)))
    (htype : members.lookup "type" = others.lookup "type") (room : Nat) (node : Node) :
    apply room node (.obj members) = apply room node (.obj others) := by
  induction room generalizing node members others with
  | zero =>
      rw [apply.eq_def 0 node (.obj members), apply.eq_def 0 node (.obj others),
        resolve_obj hof, resolve_obj hothers, htype]
      cases containerOf (others.lookup "type") >>= targetOf node with
      | error error => rfl
      | ok target => cases target <;> rfl
  | succ room ih =>
      rw [apply.eq_def (room + 1) node (.obj members), apply.eq_def (room + 1) node (.obj others),
        resolve_obj hof, resolve_obj hothers, htype]
      cases containerOf (others.lookup "type") >>= targetOf node with
      | error error => rfl
      | ok target =>
          cases target with
          | slice element =>
              -- the same entries are applied to the elements
              exact congrArg (Except.map Node.slice)
                (ih List.lookup_cons_self List.lookup_cons_self rfl element)
          | struct fields =>
              rcases room with _ | _ | room
              · rfl
              · rfl
              · exact congrArg (Except.map Node.struct) (selectFields_of_interchangeable h)

theorem interchangeable_of_entry (h : Interchangeable changes retyped)
    (hof : members.lookup "of" = some (.obj (before ++ (name, .obj changes) :: after)))
    (hothers : others.lookup "of" = some (.obj (before ++ (name, .obj retyped) :: after)))
    (hrest : ∀ name, name ≠ "of" → members.lookup name = others.lookup name) :
    Interchangeable members others := by
  refine ⟨?_, ?_, apply_of_interchangeable h hof hothers (hrest _ (by decide)), ?_⟩
  · rintro rfl
    cases hof
  · rintro rfl
    cases hothers
  · intro room field
    refine overrideField_congr ?_ (hrest _ (by decide)) fun type => ?_
    · rw [given?, given?, hrest _ (by decide)]
    · rw [selectWithin, selectWithin, given?_eq_some_iff.mpr ⟨hof, by simp⟩,
        given?_eq_some_iff.mpr ⟨hothers, by simp⟩]
      dsimp only
      rw [within, within, hrest "type" (by decide)]
      exact apply_of_interchangeable h List.lookup_cons_self List.lookup_cons_self rfl room type

end Entry

theorem interchangeable_of_retyped (h : Retyped changes others) :
    Interchangeable changes others := by
  induction h with
  | idle hne hothers hof hrest => exact interchangeable_of_idle hne hothers hof hrest
  | entry hof hothers hrest _ ih => exact interchangeable_of_entry ih hof hothers hrest

/-- The type of changes is checked exactly where they select within their field.  A
selection that succeeds has found the kind of a container in all such changes that it
comes to, at every depth, so all changes name one exactly if those do that select nothing.
Where something is selected, any other value is refused at once; where nothing is, any type
can be put in the place of another, and it makes no difference. -/
theorem container_types_checked [Room] (node : Node) (spec : Spec) :
    (∀ pruned, node.prune spec = .ok pruned →
      (∀ changes, Reaches node spec changes → given? "of" changes ≠ none →
        NamesContainer changes) ∧
      ((∀ changes, Reaches node spec changes → NamesContainer changes) ↔
        ∀ changes, Reaches node spec changes → given? "of" changes = none →
          NamesContainer changes)) ∧
    (∀ room changes entries type, changes.lookup "type" = some type → ¬IsContainerType type →
      apply room node (within changes (.obj entries)) = .error (.unknownContainer type.text)) ∧
    ∀ members others, spec = .obj members → Retyped members others →
      node.prune spec = node.prune (.obj others) := by
  refine ⟨fun pruned h => ?_, ?_, ?_⟩
  · have hchecked : ∀ changes, Reaches node spec changes → given? "of" changes ≠ none →
        NamesContainer changes := by
      intro changes hreach hof
      obtain ⟨selection, hselection⟩ := Option.ne_none_iff_exists'.mp hof
      exact namesContainer_of_reaches hreach hselection Room.selection_le_description h
    refine ⟨hchecked, fun hall changes hreach _ => hall changes hreach, ?_⟩
    intro hidle changes hreach
    by_cases hof : given? "of" changes = none
    · exact hidle changes hreach hof
    · exact hchecked changes hreach hof
  · intro room changes entries type htype h
    exact apply_within_of_not_isContainerType room node htype h
  · rintro members others rfl h
    exact (interchangeable_of_retyped h).apply Room.selection node

/-- Orders with lines, of which the number is to be optional. -/
def lineType : Node :=
  .struct [("id", ⟨.int, false⟩), ("lines", ⟨.slice (.struct [("sku", ⟨.string, false⟩)]), false⟩)]

def lineChanges : List (String × Spec) :=
  [("type", .str "slice"), ("of", .obj [("sku", .bool true)])]

/-- Changes that name a kind, but select nothing. -/
def numberChanges (kind : String) : List (String × Spec) :=
  [("type", .str kind), ("forceOptional", .bool true)]

def lineSelection (kind : String) : List (String × Spec) :=
  [("of", .obj [("lines", .obj lineChanges), ("id", .obj (numberChanges kind))])]

def lineLeft : Node :=
  .struct [("id", ⟨.int, true⟩), ("lines", ⟨.slice (.struct [("sku", ⟨.string, false⟩)]), false⟩)]

theorem not_isContainerType_map : ¬IsContainerType (.str "map") := by
  simp [IsContainerType, Spec.isFalsy]

theorem retyped_lineSelection (kind other : String) :
    Retyped (lineSelection kind) (lineSelection other) := by
  have hof (kind : String) : (lineSelection kind).lookup "of" = some (.obj
      ([("lines", .obj lineChanges)] ++ ("id", .obj (numberChanges kind)) :: [])) := rfl
  refine .entry (hof kind) (hof other) ?_ ?_
  · intro name hname
    simp only [lineSelection, lookup_cons_ite, if_neg hname]
  · refine .idle (List.cons_ne_nil _ _) (List.cons_ne_nil _ _) rfl fun name hname => ?_
    simp only [numberChanges, lookup_cons_ite, if_neg hname]

theorem container_types_checked_lineSelection :
    lineType.prune (.obj (lineSelection "map")) = .ok lineLeft ∧
      Reaches lineType (.obj (lineSelection "map")) lineChanges ∧ NamesContainer lineChanges ∧
      apply 960 lineType (within [("type", .str "map")] (.obj [])) =
        .error (.unknownContainer (Spec.str "map").text) ∧
      lineType.prune (.obj (lineSelection "map")) =
        lineType.prune (.obj (lineSelection "struct")) := by
  have hprune : lineType.prune (.obj (lineSelection "map")) = .ok lineLeft := rfl
  have hreach : Reaches lineType (.obj (lineSelection "map")) lineChanges :=
    .here rfl (List.mem_cons_of_mem _ List.mem_cons_self) rfl (List.cons_ne_nil _ _)
  obtain ⟨hchecked, hrefused, hidle⟩ :=
    container_types_checked lineType (.obj (lineSelection "map"))
  refine ⟨hprune, hreach, (hchecked _ hprune).1 _ hreach nofun, ?_, ?_⟩
  · exact hrefused 960 _ [] _ rfl not_isContainerType_map
  · exact hidle _ _ rfl (retyped_lineSelection "map" "struct")

/-- A selection can succeed though the type of changes that it comes to is no container's. -/
theorem prune_of_lineSelection_map :
    lineType.prune (.obj (lineSelection "map")) = .ok lineLeft ∧
      Reaches lineType (.obj (lineSelection "map")) (numberChanges "map") ∧
      ¬NamesContainer (numberChanges "map") := by
  refine ⟨rfl, ?_, fun h => not_isContainerType_map (h _ rfl)⟩
  exact .here rfl List.mem_cons_self rfl (List.cons_ne_nil _ _)

end JsonShape.Selection

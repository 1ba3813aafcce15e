import JsonShape.Proofs.Selection.Failing

/-!
# Valid selections

A selection is valid for a tree when it follows the tree: it expects the container
that it meets, all fields that it keeps are there, and what it changes can be changed.
Up to the nesting, the valid selections are exactly those that succeed.
-/

set_option autoImplicit false

namespace JsonShape.Selection

/-- A finished tree is forced as it is, everything else as the description of a tree. -/
inductive Forces [Room] : Spec → Node → Prop
  | tree {tree : Node} (hform : tree.isFinishedForm = true) : Forces (.node tree) tree
  | description {description : Spec} {tree : Node}
      (hread : Node.ofDescription description = .ok tree) : Forces description tree

/-- The type from which a changed field starts: the forced type, or else its own. -/
inductive StartsAs [Room] (changes : List (String × Spec)) (own : Node) : Node → Prop
  | own (hforced : given? "forceType" changes = none) : StartsAs changes own own
  | forced {forced : Spec} {tree : Node} (hforced : given? "forceType" changes = some forced)
      (htree : Forces forced tree) : StartsAs changes own tree

/-- What a selection must be like for a tree. -/
inductive Valid [Room] : Node → Spec → Prop
  | slice {element : Node} {members entries : List (String × Spec)}
      (hof : members.lookup "of" = some (.obj entries))
      (htype : members.lookup "type" = some (.str "slice"))
      (helement : Valid element (.obj [("of", .obj entries)])) :
      Valid (.slice element) (.obj members)
  | struct {fields : List (String × Field Node)} {members entries : List (String × Spec)}
      (hof : members.lookup "of" = some (.obj entries))
      (htype : ∀ type, members.lookup "type" = some type →
        type.isFalsy = true ∨ type = .str "struct")
      (hknown : ∀ name entry, (name, entry) ∈ entries → entry.isTruthy = true →
        name ∈ fields.map Prod.fst)
      (hentry : ∀ name field entry, (name, field) ∈ fields → entries.lookup name = some entry →
        entry.isTruthy = true → entry = .bool true ∨ ∃ changes, entry = .obj changes)
      (hstart : ∀ name field changes, (name, field) ∈ fields →
        entries.lookup name = some (.obj changes) → ∃ type, StartsAs changes field.type type)
      (hwithin : ∀ name field changes selection type, (name, field) ∈ fields →
        entries.lookup name = some (.obj changes) → given? "of" changes = some selection →
        StartsAs changes field.type type → Valid type (within changes selection)) :
      Valid (.struct fields) (.obj members)

/-! ## Forced types -/

/-- A node in a selection is no description. -/
theorem ofDescription_node_ne_ok [Room] (tree other : Node) :
    Node.ofDescription (.node tree) ≠ .ok other := by
  rw [Node.ofDescription]
  cases Room.description <;> simp [Description.read, Description.layer]

theorem Forces.unique [Room] {forced : Spec} {tree other : Node} (h : Forces forced tree)
    (hother : Forces forced other) : tree = other := by
  cases h with
  | tree hform =>
      cases hother with
      | tree => rfl
      | description hread => exact absurd hread (ofDescription_node_ne_ok _ _)
  | description hread =>
      cases hother with
      | tree => exact absurd hread (ofDescription_node_ne_ok _ _)
      | description hother => exact Except.ok.inj (hread.symm.trans hother)

theorem StartsAs.unique [Room] {changes : List (String × Spec)} {own type other : Node}
    (h : StartsAs changes own type) (hother : StartsAs changes own other) : type = other := by
  cases h with
  | own hforced =>
      cases hother with
      | own => rfl
      | forced hsome => simp [hforced] at hsome
  | forced hforced htree =>
      cases hother with
      | own hnone => simp [hforced] at hnone
      | forced hother hothers =>
          rw [hforced, Option.some.injEq] at hother
          exact htree.unique (hother ▸ hothers)

variable {room : Nat} {forced : Spec} {tree : Node}

theorem forcedType_eq_read (hforced : ∀ tree, forced ≠ .node tree) (room : Nat) :
    forcedType room forced = (Description.read room forced).mapError .description := by
  cases forced with
  | node tree => exact absurd rfl (hforced tree)
  | _ => rfl

/-- What is forced with less room is forced with the whole room. -/
theorem forces_of_forcedType [Room] (hroom : room ≤ Room.description)
    (h : forcedType room forced = .ok tree) : Forces forced tree := by
  by_cases hnode : ∃ tree, forced = .node tree
  · obtain ⟨given, rfl⟩ := hnode
    rw [forcedType] at h
    split at h
    · next hform =>
        rw [← Except.ok.inj h]
        exact .tree hform
    · cases h
  · rw [forcedType_eq_read (not_exists.mp hnode), mapError_eq_ok_iff] at h
    cases Description.read_eq_or_tooDeep hroom forced with
    | inl hsame => exact .description (hsame.symm.trans h)
    | inr hdeep => simp [hdeep] at h

theorem Forces.forcedType_eq [Room] (h : Forces forced tree) (hroom : room ≤ Room.description) :
    forcedType room forced = .ok tree ∨
      forcedType room forced = .error (.description .tooDeep) := by
  cases h with
  | tree hform => exact .inl (if_pos hform)
  | description hread =>
      have hnode : ∀ tree, forced ≠ .node tree := by
        rintro given rfl
        exact ofDescription_node_ne_ok _ _ hread
      rw [forcedType_eq_read hnode]
      cases Description.read_eq_or_tooDeep hroom forced with
      | inl hsame =>
          rw [hsame]
          exact .inl (mapError_eq_ok_iff.mpr hread)
      | inr hdeep => exact .inr (mapError_eq_error_iff.mpr ⟨_, hdeep, rfl⟩)

section Start

variable {changes : List (String × Spec)} {field : Field Node} {type : Node}

theorem startsAs_of_typeBefore [Room] (hroom : room ≤ Room.description)
    (h : typeBefore room field changes = .ok type) : StartsAs changes field.type type := by
  rw [typeBefore] at h
  cases hforced : given? "forceType" changes with
  | none =>
      rw [hforced, Except.ok.injEq] at h
      exact h ▸ .own hforced
  | some forced =>
      rw [hforced, mapError_eq_ok_iff] at h
      exact .forced hforced (forces_of_forcedType hroom h)

theorem StartsAs.typeBefore_eq [Room] (h : StartsAs changes field.type type)
    (hroom : room ≤ Room.description) :
    typeBefore room field changes = .ok type ∨ typeBefore room field changes = .error .tooDeep := by
  rw [typeBefore]
  cases h with
  | own hforced =>
      rw [hforced]
      exact .inl rfl
  | forced hforced htree =>
      rw [hforced]
      cases htree.forcedType_eq hroom with
      | inl hsame => exact .inl (mapError_eq_ok_iff.mpr hsame)
      | inr hdeep => exact .inr (mapError_eq_error_iff.mpr ⟨_, hdeep, rfl⟩)

end Start

/-! ## The outermost level -/

theorem containerOf_eq_slice_iff {type? : Option Spec} :
    containerOf type? = .ok .slice ↔ type? = some (.str "slice") := by
  rw [containerOf.eq_def]
  cases type? with
  | none => simp
  | some type =>
      dsimp only
      split
      · next hfalsy =>
          simp only [reduceCtorEq, Option.some.injEq, false_iff, Except.ok.injEq]
          rintro rfl
          simp [Spec.isFalsy] at hfalsy
      · split <;> simp_all

theorem containerOf_eq_struct_iff {type? : Option Spec} :
    containerOf type? = .ok .struct ↔
      ∀ type, type? = some type → type.isFalsy = true ∨ type = .str "struct" := by
  rw [containerOf.eq_def]
  cases type? with
  | none => simp
  | some type =>
      dsimp only
      split
      · next hfalsy => simp [hfalsy]
      · split <;> simp_all

variable {node pruned : Node} {spec : Spec} {entries : List (String × Spec)}
  {error : SelectionError}

theorem apply_error_cases {target : Target} (hresolve : resolve node spec = .ok (entries, target))
    (h : apply room node spec = .error error) :
    (error = .tooDeep ∧ room < 3) ∨
      (∃ inner element, room = inner + 1 ∧ target = .slice element ∧
        apply inner element (.obj [("of", .obj entries)]) = .error error) ∨
      ∃ inner fields, room = inner + 3 ∧ target = .struct fields ∧
        selectFields inner (apply inner) entries fields = .error error := by
  cases target with
  | slice element =>
      rw [apply.eq_def] at h
      cases room with
      | zero => simp_all
      | succ inner =>
          simp only [hresolve, map_eq_error_iff] at h
          exact .inr (.inl ⟨inner, element, rfl, rfl, h⟩)
  | struct fields =>
      rcases Nat.lt_or_ge room 3 with hsmall | hlarge
      · rw [apply_of_lt hresolve hsmall, Except.error.injEq] at h
        exact .inl ⟨h.symm, hsmall⟩
      · obtain ⟨inner, rfl⟩ := Nat.exists_eq_add_of_le' hlarge
        rw [apply.eq_def] at h
        simp only [hresolve, map_eq_error_iff] at h
        exact .inr (.inr ⟨inner, fields, rfl, rfl, h⟩)

/-! ## Validity and success -/

theorem exists_overrideField_of_selectField {select : Node → Spec → Except SelectionError Node}
    {name : String} {field : Field Node} {result : Option (String × Field Node)}
    {changes : List (String × Spec)}
    (h : selectField room select entries (name, field) = .ok result)
    (hentry : entries.lookup name = some (.obj changes)) :
    ∃ changed, overrideField room select field changes = .ok changed := by
  rcases selectField_eq_ok_iff.mp h with
    ⟨hkeeps, -⟩ | ⟨htrue, -⟩ | ⟨_, changed, hobj, -, hchanged, -⟩
  · cases changes with
    | nil => exact ⟨field, by simp [overrideField, given?, pure, Except.pure, bind, Except.bind]⟩
    | cons change rest => simp [keeps, hentry, Spec.isTruthy, Spec.isFalsy] at hkeeps
  · simp [hentry] at htrue
  · rw [hentry, Option.some.injEq, Spec.obj.injEq] at hobj
    exact ⟨changed, hobj ▸ hchanged⟩

theorem entry_of_selectField {select : Node → Spec → Except SelectionError Node}
    {name : String} {field : Field Node} {result : Option (String × Field Node)} {entry : Spec}
    (h : selectField room select entries (name, field) = .ok result)
    (hentry : entries.lookup name = some entry) (htruthy : entry.isTruthy = true) :
    entry = .bool true ∨ ∃ changes, entry = .obj changes := by
  rcases selectField_eq_ok_iff.mp h with ⟨hkeeps, -⟩ | ⟨htrue, -⟩ | ⟨changes, _, hobj, -⟩
  · simp [keeps, hentry, htruthy] at hkeeps
  · rw [hentry] at htrue
    exact .inl (Option.some.inj htrue)
  · rw [hentry] at hobj
    exact .inr ⟨changes, Option.some.inj hobj⟩

/-- A selection that succeeds is valid. -/
theorem valid_of_apply [Room] (hroom : room ≤ Room.description)
    (h : apply room node spec = .ok pruned) : Valid node spec := by
  refine apply_induction
    (motive := fun room node spec _ => room ≤ Room.description → Valid node spec) ?_ ?_ h hroom
  · intro room spec entries element other hentries _ ih hroom
    obtain ⟨members, rfl, hof, htype⟩ := entriesOf_eq_ok_iff.mp hentries
    exact .slice hof (containerOf_eq_slice_iff.mp htype) (ih (by omega))
  · intro room spec entries fields others hentries hothers ih hroom
    obtain ⟨members, rfl, hof, htype⟩ := entriesOf_eq_ok_iff.mp hentries
    obtain ⟨hunknown, results, hresults, rfl⟩ := selectFields_eq_ok_iff.mp hothers
    have hbelow : room ≤ Room.description := by omega
    have hchanged {name field changes} (hfield : (name, field) ∈ fields)
        (hentry : entries.lookup name = some (.obj changes)) :
        ∃ type part, StartsAs changes field.type type ∧
          selectWithin (apply room) changes type = .ok part := by
      obtain ⟨result, -, hresult⟩ := exists_eq_ok_of_mapM hresults hfield
      obtain ⟨changed, hoverride⟩ := exists_overrideField_of_selectField hresult hentry
      obtain ⟨type, part, hbefore, hpart, -⟩ := overrideField_eq_ok_iff_exists.mp hoverride
      exact ⟨type, part, startsAs_of_typeBefore hbelow hbefore, hpart⟩
    refine .struct hof (containerOf_eq_struct_iff.mp htype)
      (unknownField?_eq_none_iff.mp hunknown) ?_ ?_ ?_
    · intro name field entry hfield hentry
      obtain ⟨result, -, hresult⟩ := exists_eq_ok_of_mapM hresults hfield
      exact entry_of_selectField hresult hentry
    · intro name field changes hfield hentry
      obtain ⟨type, -, hstart, -⟩ := hchanged hfield hentry
      exact ⟨type, hstart⟩
    · intro name field changes selection type hfield hentry hselection hstart
      obtain ⟨other, part, hother, hpart⟩ := hchanged hfield hentry
      rw [hother.unique hstart, selectWithin, hselection] at hpart
      exact ih type _ part hpart hbelow

/-- Once it is clear from which type a field starts, only the selection within it can fail. -/
theorem StartsAs.eq_tooDeep [Room] {select : Node → Spec → Except SelectionError Node}
    {changes : List (String × Spec)} {field : Field Node} {type : Node}
    (hstart : StartsAs changes field.type type) (hroom : room ≤ Room.description)
    (hwithin : ∀ selection, given? "of" changes = some selection →
      select type (within changes selection) = .error error → error = .tooDeep)
    (h : overrideField room select field changes = .error error) : error = .tooDeep := by
  rw [overrideField_eq, bind_eq_error_iff] at h
  cases hstart.typeBefore_eq hroom with
  | inr hdeep =>
      rcases h with hbefore | ⟨other, hbefore, -⟩
      · exact Except.error.inj (hbefore.symm.trans hdeep)
      · cases hdeep.symm.trans hbefore
  | inl hok =>
      rcases h with hbefore | ⟨other, hbefore, hselect⟩
      · cases hok.symm.trans hbefore
      · cases hok.symm.trans hbefore
        rw [map_eq_error_iff, selectWithin] at hselect
        cases hselection : given? "of" changes with
        | none => simp [hselection] at hselect
        | some selection =>
            rw [hselection] at hselect
            exact hwithin selection hselection hselect

/-- Only the nesting can keep a valid selection from succeeding. -/
theorem Valid.eq_tooDeep [Room] (hvalid : Valid node spec) (hroom : room ≤ Room.description)
    (h : apply room node spec = .error error) : error = .tooDeep := by
  induction hvalid generalizing room with
  | @slice element members entries hof htype helement ih =>
      have hentries : entriesOf (.obj members) = .ok (entries, .slice) :=
        entriesOf_eq_ok_iff.mpr ⟨members, rfl, hof, containerOf_eq_slice_iff.mpr htype⟩
      have hresolve := resolve_eq_ok_iff.mpr (.inl ⟨element, rfl, hentries, rfl⟩)
      rcases apply_error_cases hresolve h with
        ⟨hdeep, -⟩ | ⟨inner, _, rfl, htarget, helement⟩ | ⟨_, _, -, htarget, -⟩
      · exact hdeep
      · cases htarget
        exact ih (by omega) helement
      · cases htarget
  | @struct fields members entries hof htype hknown hentry hstart hwithin ih =>
      have hentries : entriesOf (.obj members) = .ok (entries, .struct) :=
        entriesOf_eq_ok_iff.mpr ⟨members, rfl, hof, containerOf_eq_struct_iff.mpr htype⟩
      have hresolve := resolve_eq_ok_iff.mpr (.inr ⟨fields, rfl, hentries, rfl⟩)
      rcases apply_error_cases hresolve h with
        ⟨hdeep, -⟩ | ⟨_, _, -, htarget, -⟩ | ⟨inner, _, rfl, htarget, hfields⟩
      · exact hdeep
      · cases htarget
      · cases htarget
        rw [selectFields, unknownField?_eq_none_iff.mpr hknown, map_eq_error_iff] at hfields
        obtain ⟨⟨name, field⟩, hfield, herror⟩ := exists_of_mapM_eq_error hfields
        rcases selectField_error_cases herror with
          ⟨entry, hlookup, htruthy, htrue, hobj, -⟩ | ⟨changes, hlookup, hoverride⟩
        · rcases hentry name field entry hfield hlookup htruthy with rfl | ⟨changes, rfl⟩
          · exact absurd rfl htrue
          · exact absurd rfl (hobj changes)
        · obtain ⟨type, htype⟩ := hstart name field changes hfield hlookup
          have hbelow : inner ≤ Room.description := by omega
          refine htype.eq_tooDeep hbelow (fun selection hselection herror => ?_) hoverride
          exact ih name field changes selection type hfield hlookup hselection htype hbelow herror

/-! ## Unknown fields -/

theorem unknownField?_of_first {fields : List (String × Field Node)}
    {before after : List (String × Spec)} {name : String} {entry : Spec}
    (hbefore : ∀ known other, (known, other) ∈ before → other.isTruthy = true →
      known ∈ fields.map Prod.fst)
    (htruthy : entry.isTruthy = true) (hname : name ∉ fields.map Prod.fst) :
    unknownField? (before ++ (name, entry) :: after) fields = some name := by
  have hnone := unknownField?_eq_none_iff.mpr hbefore
  rw [unknownField?, Option.map_eq_none_iff] at hnone
  rw [mem_names_iff, Option.not_isSome_iff_eq_none] at hname
  rw [unknownField?, List.find?_append, hnone, Option.none_or,
    List.find?_cons_of_pos (by simp [htruthy, hname])]
  rfl

/-- An unknown field is looked for before any field is selected. -/
theorem prune_of_unknownField? [Room] {fields : List (String × Field Node)}
    {members : List (String × Spec)} {name : String}
    (hentries : entriesOf (.obj members) = .ok (entries, .struct))
    (hunknown : unknownField? entries fields = some name) :
    (Node.struct fields).prune (.obj members) = .error (.unknownField name) := by
  have hresolve := resolve_eq_ok_iff.mpr (.inr ⟨fields, rfl, hentries, rfl⟩)
  obtain ⟨room, hroom⟩ := Nat.exists_eq_add_of_le' Room.three_le_selection
  rw [Node.prune, hroom, apply.eq_def, hresolve]
  simp only [selectFields, hunknown]
  rfl

/-- A selection succeeds exactly when it is valid, and fails for one of the reasons
otherwise, unless it nests too deeply.  The first entry that selects an unknown field of
a struct is told whatever else is wrong. -/
theorem prune_succeeds_iff_valid [Room] (node : Node) (spec : Spec) :
    (node.prune spec = .error .tooDeep → Room.selection < 2 * spec.depth) ∧
    (node.prune spec ≠ .error .tooDeep →
      ((∃ pruned, node.prune spec = .ok pruned) ↔ Valid node spec) ∧
      (¬Valid node spec → ∃ error, node.prune spec = .error error ∧ Failure False error)) ∧
    ∀ fields members before name entry after, node = .struct fields → spec = .obj members →
      members.lookup "of" = some (.obj (before ++ (name, entry) :: after)) →
      (∀ type, members.lookup "type" = some type → type.isFalsy = true ∨ type = .str "struct") →
      (∀ known other, (known, other) ∈ before → other.isTruthy = true →
        known ∈ fields.map Prod.fst) →
      entry.isTruthy = true → name ∉ fields.map Prod.fst →
        node.prune spec = .error (.unknownField name) := by
  refine ⟨fun hdeep => ?_, fun hfits => ?_, ?_⟩
  · cases failure_of_apply hdeep with
    | tooDeep h => exact h
  · have hvalid : (∃ pruned, node.prune spec = .ok pruned) ↔ Valid node spec := by
      constructor
      · rintro ⟨pruned, hpruned⟩
        exact valid_of_apply Room.selection_le_description hpruned
      · intro hvalid
        cases hprune : node.prune spec with
        | ok pruned => exact ⟨pruned, rfl⟩
        | error error =>
            rw [hvalid.eq_tooDeep Room.selection_le_description hprune] at hprune
            exact absurd hprune hfits
    refine ⟨hvalid, fun hinvalid => ?_⟩
    cases hprune : node.prune spec with
    | ok pruned => exact absurd (hvalid.mp ⟨pruned, hprune⟩) hinvalid
    | error error =>
        refine ⟨error, rfl, (failure_of_apply hprune).of_ne_tooDeep ?_⟩
        rintro rfl
        exact hfits hprune
  · rintro fields members before name entry after rfl rfl hof htype hbefore htruthy hname
    have hentries : entriesOf (.obj members) = .ok (before ++ (name, entry) :: after, .struct) :=
      entriesOf_eq_ok_iff.mpr ⟨members, rfl, hof, containerOf_eq_struct_iff.mpr htype⟩
    exact prune_of_unknownField? hentries (unknownField?_of_first hbefore htruthy hname)

/-- A struct with a list of structs. -/
def orderType : Node :=
  .struct [("id", ⟨.int, false⟩), ("lines", ⟨.slice (.struct [("sku", ⟨.string, true⟩)]), false⟩),
    ("note", ⟨.any, true⟩)]

/-- Selects within the list and within a type that is forced by its description. -/
def orderSelection : Spec :=
  .obj [("of", .obj [("id", .int 0),
    ("lines", .obj [("type", .str "slice"), ("of", .obj [("sku", .bool true)])]),
    ("note", .obj [("forceType", Spec.ofJson (Node.struct [("text", ⟨.string, false⟩)]).describe),
      ("of", .obj [("text", .bool true)])])])]

/-- Nothing can be selected within a number, which is only found out after the
unknown fields. -/
def badSelection (unknown : Spec) : Spec :=
  .obj [("of", .obj [("id", .obj [("of", .obj [])]), ("lines", .bool false),
    ("total", unknown)])]

theorem prune_succeeds_iff_valid_order :
    Valid orderType orderSelection ∧ ¬Valid orderType (badSelection .null) ∧
      orderType.prune (badSelection .null) = .error (.mismatch (.primitive .int) .struct) ∧
      orderType.prune (badSelection (.str "x")) = .error (.unknownField "total") := by
  have hok : orderType.prune orderSelection = .ok (.struct
      [("lines", ⟨.slice (.struct [("sku", ⟨.string, true⟩)]), false⟩),
        ("note", ⟨.struct [("text", ⟨.string, false⟩)], true⟩)]) := rfl
  have hbad : orderType.prune (badSelection .null) =
      .error (.mismatch (.primitive .int) .struct) := rfl
  have hvalid := ((prune_succeeds_iff_valid orderType orderSelection).2.1 (by simp [hok])).1
  have hinvalid :=
    ((prune_succeeds_iff_valid orderType (badSelection .null)).2.1 (by simp [hbad])).1
  refine ⟨hvalid.mp ⟨_, hok⟩, fun h => ?_, hbad, ?_⟩
  · obtain ⟨pruned, hpruned⟩ := hinvalid.mpr h
    simp [hbad] at hpruned
  · refine (prune_succeeds_iff_valid orderType (badSelection (.str "x"))).2.2 _ _
      [("id", .obj [("of", .obj [])]), ("lines", .bool false)] "total" (.str "x") [] rfl rfl rfl
      ?_ ?_ rfl (by decide)
    · rintro type ⟨⟩
    · intro known other hknown _
      simp only [List.mem_cons, Prod.mk.injEq, List.not_mem_nil, or_false] at hknown
      rcases hknown with ⟨rfl, -⟩ | ⟨rfl, -⟩ <;> decide

end JsonShape.Selection

import JsonShape.Proofs.Inference.Rules
import JsonShape.Proofs.Selection.Applying

/-!
# Selecting commutes with inference

A selection can be applied to the documents as well as to their type: of every
object it keeps the keys that it selects.  Documents reduced by a selection that
forces nothing are inferred to have the reduced type.
-/

set_option autoImplicit false

namespace JsonShape

open Inference

namespace Selection

mutual

/-- The part of a value that a selection keeps: the selected keys of an object, and
of an array the selected keys of its items when the selection is one for slices. -/
def project : Spec → Json → Json
  | spec, .obj members =>
    match entriesOf spec with
    | .ok (entries, .struct) => .obj (projectMembers entries members)
    | _ => .obj members
  | spec, .arr items =>
    match entriesOf spec with
    | .ok (entries, .slice) => .arr (projectItems (.obj [("of", .obj entries)]) items)
    | _ => .arr items
  | _, value => value

def projectItems : Spec → List Json → List Json
  | _, [] => []
  | spec, item :: rest => project spec item :: projectItems spec rest

/-- A member is kept as it is unless the entry for it selects within it. -/
def projectMembers : List (String × Spec) → List (String × Json) → List (String × Json)
  | _, [] => []
  | entries, (name, value) :: rest =>
    if keeps entries name then
      (name, match inner? entries name with
        | none => value
        | some spec => project spec value) :: projectMembers entries rest
    else projectMembers entries rest

end

/-- What is kept of the member of a name. -/
def projectUnder (entries : List (String × Spec)) (name : String) (value : Json) : Json :=
  match inner? entries name with
  | none => value
  | some spec => project spec value

theorem projectItems_eq_map (spec : Spec) (items : List Json) :
    projectItems spec items = items.map (project spec) := by
  induction items with
  | nil => simp [projectItems]
  | cons item rest ih => simp [projectItems, ih]

theorem names_projectMembers (entries : List (String × Spec)) (members : List (String × Json)) :
    (projectMembers entries members).map Prod.fst =
      (members.map Prod.fst).filter (keeps entries) := by
  induction members with
  | nil => simp [projectMembers]
  | cons member rest ih =>
      rw [projectMembers, List.map_cons, List.filter_cons]
      cases keeps entries member.1 <;> simp [ih]

theorem lookup_projectMembers {entries : List (String × Spec)} {name : String}
    (hkeeps : keeps entries name = true) (members : List (String × Json)) :
    (projectMembers entries members).lookup name =
      (members.lookup name).map (projectUnder entries name) := by
  induction members with
  | nil => simp [projectMembers]
  | cons member rest ih =>
      rw [projectMembers, List.lookup_cons]
      cases hname : name == member.1 with
      | true =>
          rw [beq_iff_eq] at hname
          rw [← hname, if_pos hkeeps, List.lookup_cons_self]
          rfl
      | false =>
          split
          · rw [List.lookup_cons, hname]
            exact ih
          · exact ih

theorem isNull_project (spec : Spec) (value : Json) :
    (project spec value).isNull = value.isNull := by
  cases value with
  | arr items =>
      rw [project]
      split <;> rfl
  | obj members =>
      rw [project]
      split <;> rfl
  | _ => rfl

theorem isNull_projectUnder (entries : List (String × Spec)) (name : String) (value : Json) :
    (projectUnder entries name value).isNull = value.isNull := by
  rw [projectUnder]
  split
  · rfl
  · exact isNull_project _ value

theorem kind_project (spec : Spec) (value : Json) : (project spec value).kind = value.kind := by
  cases value with
  | arr items =>
      rw [project]
      split <;> simp [Json.kind, Node.kind]
  | obj members =>
      rw [project]
      split <;> simp [Json.kind, Node.kind]
  | _ => rfl

variable {spec : Spec} {entries : List (String × Spec)}

theorem members_project (hspec : entriesOf spec = .ok (entries, .struct)) (value : Json) :
    (project spec value).members = projectMembers entries value.members := by
  cases value with
  | arr items => simp [project, hspec, Json.members, projectMembers]
  | obj members => simp [project, hspec, Json.members]
  | _ => simp [project, Json.members, projectMembers]

theorem items_project (hspec : entriesOf spec = .ok (entries, .slice)) (value : Json) :
    (project spec value).items = value.items.map (project (.obj [("of", .obj entries)])) := by
  cases value with
  | arr items => simp [project, hspec, Json.items, projectItems_eq_map]
  | obj members => simp [project, hspec, Json.items]
  | _ => simp [project, Json.items]

theorem present?_project (hspec : entriesOf spec = .ok (entries, .struct)) {name : String}
    (hkeeps : keeps entries name = true) (value : Json) :
    (project spec value).present? name = (value.present? name).map (projectUnder entries name) := by
  rw [Json.present?, Json.present?, members_project hspec, lookup_projectMembers hkeeps]
  cases value.members.lookup name with
  | none => rfl
  | some member =>
      rw [Option.map_some, Option.filter_some, Option.filter_some, isNull_projectUnder]
      split <;> rfl

theorem lacks_project (hspec : entriesOf spec = .ok (entries, .struct)) {name : String}
    (hkeeps : keeps entries name = true) (value : Json) :
    (project spec value).lacks name = value.lacks name := by
  rw [Json.lacks, Json.lacks, present?_project hspec hkeeps, Option.isNone_map]

/-! ## What projected values supply -/

variable {values : List Json}

theorem itemsOf_map_project (hspec : entriesOf spec = .ok (entries, .slice)) :
    itemsOf (values.map (project spec)) =
      (itemsOf values).map (project (.obj [("of", .obj entries)])) := by
  rw [itemsOf, itemsOf, List.flatMap_map, List.map_flatMap]
  simp only [items_project hspec]

theorem keysOf_map_project (hspec : entriesOf spec = .ok (entries, .struct)) :
    keysOf (values.map (project spec)) = (keysOf values).filter (keeps entries) := by
  rw [keysOf, keysOf, ← eraseDups_filter, List.flatMap_map, List.filter_flatMap]
  simp only [members_project hspec, names_projectMembers]

theorem presentUnder_map_project (hspec : entriesOf spec = .ok (entries, .struct)) {name : String}
    (hkeeps : keeps entries name = true) :
    presentUnder name (values.map (project spec)) =
      (presentUnder name values).map (projectUnder entries name) := by
  rw [presentUnder, presentUnder, List.filterMap_map, List.map_filterMap]
  congr 1
  funext value
  exact present?_project hspec hkeeps value

theorem any_lacks_map_project (hspec : entriesOf spec = .ok (entries, .struct)) {name : String}
    (hkeeps : keeps entries name = true) :
    (values.map (project spec)).any (Json.lacks name) = values.any (Json.lacks name) := by
  rw [List.any_map]
  congr 1
  funext value
  exact lacks_project hspec hkeeps value

/-- What is left of an object is what is left of its members. -/
theorem exists_of_mem_projectMembers {members : List (String × Json)} {member : String × Json}
    (h : member ∈ projectMembers entries members) :
    ∃ value, (member.1, value) ∈ members ∧ member.2 = projectUnder entries member.1 value := by
  induction members with
  | nil => simp [projectMembers] at h
  | cons first rest ih =>
      have hrest (h : member ∈ projectMembers entries rest) : ∃ value,
          (member.1, value) ∈ first :: rest ∧ member.2 = projectUnder entries member.1 value := by
        obtain ⟨value, hmem, hvalue⟩ := ih h
        exact ⟨value, List.mem_cons_of_mem _ hmem, hvalue⟩
      rw [projectMembers] at h
      split at h
      · rcases List.mem_cons.mp h with rfl | h
        · exact ⟨first.2, List.mem_cons_self, rfl⟩
        · exact hrest h
      · exact hrest h

/-- Projecting makes no value deeper, and brings in no number. -/
theorem fits_project {value : Json} {room : Nat} (hdepth : value.depth ≤ room)
    (hfinite : value.nonFinite = []) (spec : Spec) :
    (project spec value).depth ≤ room ∧ (project spec value).nonFinite = [] := by
  induction value using Json.induction_on generalizing room spec with
  | scalar value hscalar =>
      cases value with
      | arr items => simp [Json.depth] at hscalar
      | obj members => simp [Json.depth] at hscalar
      | _ => exact ⟨hdepth, hfinite⟩
  | arr items ih =>
      cases room with
      | zero => simp [Json.depth] at hdepth
      | succ room =>
          rw [project]
          split
          · rw [Json.arr_depth_le_succ_iff] at hdepth ⊢
            rw [Json.nonFinite_arr_eq_nil_iff] at hfinite ⊢
            rw [projectItems_eq_map, List.forall_mem_map, List.forall_mem_map, ← forall₂_and]
            exact fun item hitem => ih item hitem (hdepth item hitem) (hfinite item hitem) _
          · exact ⟨hdepth, hfinite⟩
  | obj members ih =>
      cases room with
      | zero => simp [Json.depth] at hdepth
      | succ room =>
          rw [project]
          split
          · rw [Json.obj_depth_le_succ_iff] at hdepth ⊢
            rw [Json.nonFinite_obj_eq_nil_iff] at hfinite ⊢
            rw [← forall₂_and]
            intro member hmember
            obtain ⟨value, hmem, hvalue⟩ := exists_of_mem_projectMembers hmember
            have hfits := ih _ hmem (hdepth _ hmem) (hfinite _ hmem)
            rw [hvalue, projectUnder]
            split
            · exact ⟨hdepth _ hmem, hfinite _ hmem⟩
            · exact hfits _
          · exact ⟨hdepth, hfinite⟩

theorem isDocument_project [Room] {document : Json} (h : IsDocument document) (spec : Spec) :
    IsDocument (project spec document) where
  container := kind_project spec document ▸ h.container
  depth_le := (fits_project h.depth_le h.finite spec).1
  finite := (fits_project h.depth_le h.finite spec).2

end Selection

/-! ## Selections that force nothing -/

/-- A selection in which no object forces a type or makes a field optional, at any depth. -/
inductive Spec.Unforced : Spec → Prop
  | leaf {spec : Spec} (hleaf : ∀ members, spec ≠ .obj members) : Unforced spec
  | mapping {members : List (String × Spec)} (htype : members.lookup "forceType" = none)
      (hoptional : members.lookup "forceOptional" = none)
      (hentries : ∀ entries, members.lookup "of" = some (.obj entries) →
        ∀ name entry, entries.lookup name = some entry → Unforced entry) :
      Unforced (.obj members)

theorem Spec.unforced_obj_iff {members : List (String × Spec)} :
    (Spec.obj members).Unforced ↔
      members.lookup "forceType" = none ∧ members.lookup "forceOptional" = none ∧
        ∀ entries, members.lookup "of" = some (.obj entries) →
          ∀ name entry, entries.lookup name = some entry → entry.Unforced := by
  constructor
  · rintro (⟨hleaf⟩ | ⟨htype, hoptional, hentries⟩)
    · exact absurd rfl (hleaf members)
    · exact ⟨htype, hoptional, hentries⟩
  · rintro ⟨htype, hoptional, hentries⟩
    exact .mapping htype hoptional hentries

namespace Selection

/-- Nothing is forced by the entries of a selection. -/
def EntriesUnforced (spec : Spec) : Prop :=
  ∀ entries container, entriesOf spec = .ok (entries, container) →
    ∀ name entry, entries.lookup name = some entry → entry.Unforced

theorem entriesUnforced_of_unforced {spec : Spec} (h : spec.Unforced) : EntriesUnforced spec := by
  intro entries container hspec
  obtain ⟨members, rfl, hof, -⟩ := entriesOf_eq_ok_iff.mp hspec
  exact (Spec.unforced_obj_iff.mp h).2.2 entries hof

theorem entriesUnforced_of_slice {spec : Spec} {entries : List (String × Spec)}
    {container : Container} (h : EntriesUnforced spec)
    (hspec : entriesOf spec = .ok (entries, container)) :
    EntriesUnforced (.obj [("of", .obj entries)]) := by
  intro others other hothers
  obtain ⟨members, hmembers, hof, -⟩ := entriesOf_eq_ok_iff.mp hothers
  cases hmembers
  cases hof
  exact h entries container hspec

theorem entriesUnforced_within {members : List (String × Spec)} {entries : Spec}
    (h : (Spec.obj members).Unforced) (hof : given? "of" members = some entries) :
    EntriesUnforced (within members entries) := by
  intro others container hothers
  obtain ⟨inner, hinner, hlookup, -⟩ := entriesOf_eq_ok_iff.mp hothers
  cases hinner
  cases hlookup
  exact (Spec.unforced_obj_iff.mp h).2.2 others (given?_eq_some_iff.mp hof).1

/-- Where nothing is forced, a field that is kept keeps its mark, and its type up to
the selection within it. -/
theorem kept_of_selectField {room : Nat} {select : Node → Spec → Except SelectionError Node}
    {entries : List (String × Spec)} {field other : String × Field Node}
    (hunforced : ∀ name entry, entries.lookup name = some entry → entry.Unforced)
    (h : selectField room select entries field = .ok (some other)) :
    keeps entries field.1 = true ∧ other.1 = field.1 ∧ other.2.optional = field.2.optional ∧
      ((inner? entries field.1 = none ∧ other.2.type = field.2.type) ∨
        ∃ spec, inner? entries field.1 = some spec ∧ EntriesUnforced spec ∧
          select field.2.type spec = .ok other.2.type) := by
  rcases selectField_eq_some_iff.mp h with
    ⟨hentry, rfl⟩ | ⟨members, changed, hentry, hkeeps, hchanged, rfl⟩
  · exact ⟨keeps_of_lookup_true hentry, rfl, rfl, .inl ⟨by rw [inner?, hentry], rfl⟩⟩
  · have hmembers := hunforced _ _ hentry
    obtain ⟨htype, hoptional, -⟩ := Spec.unforced_obj_iff.mp hmembers
    rcases (overrideField_eq_ok_iff htype hoptional).mp hchanged with
      ⟨hof, rfl⟩ | ⟨of, type, hof, hselect, rfl⟩
    · exact ⟨hkeeps, rfl, rfl, .inl ⟨by simp [inner?, hentry, hof], rfl⟩⟩
    · have hinner : inner? entries field.1 = some (within members of) := by
        simp [inner?, hentry, hof]
      exact ⟨hkeeps, rfl, rfl, .inr ⟨_, hinner, entriesUnforced_within hmembers hof, hselect⟩⟩

/-- The field from which a kept one comes. -/
theorem exists_of_mem_kept {room : Nat} {select : Node → Spec → Except SelectionError Node}
    {entries : List (String × Spec)} {fields others : List (String × Field Node)}
    (hunforced : ∀ name entry, entries.lookup name = some entry → entry.Unforced)
    (h : selectFields room select entries fields = .ok others) {name : String} {other : Field Node}
    (hother : (name, other) ∈ others) :
    ∃ field, (name, field) ∈ fields ∧ keeps entries name = true ∧
      other.optional = field.optional ∧
      ((inner? entries name = none ∧ other.type = field.type) ∨
        ∃ spec, inner? entries name = some spec ∧ EntriesUnforced spec ∧
          select field.type spec = .ok other.type) := by
  obtain ⟨⟨known, field⟩, hfield, hselect⟩ := exists_of_mem_selectFields h hother
  obtain ⟨hkeeps, rfl, hkept⟩ := kept_of_selectField hunforced hselect
  exact ⟨field, hfield, hkeeps, hkept⟩

theorem projectUnder_of_none {entries : List (String × Spec)} {name : String}
    (h : inner? entries name = none) : projectUnder entries name = id := by
  funext value
  rw [projectUnder, h]
  rfl

theorem projectUnder_of_some {entries : List (String × Spec)} {name : String} {spec : Spec}
    (h : inner? entries name = some spec) : projectUnder entries name = project spec := by
  funext value
  rw [projectUnder, h]

end Selection

open Selection

/-- The type of projected values is the selected part of the type of the values. -/
theorem Infers.project {values : List Json} {type : Node} (h : Infers values type) {room : Nat}
    {spec : Spec} {pruned : Node} (happly : apply room type spec = .ok pruned)
    (hunforced : EntriesUnforced spec) : Infers (values.map (Selection.project spec)) pruned := by
  have hkinds {kind : Kind} {spec : Spec} {values : List Json}
      (hvalues : ∀ value ∈ values, value.kind = kind) :
      ∀ value ∈ values.map (Selection.project spec), value.kind = kind := by
    rw [List.forall_mem_map]
    intro value hvalue
    rw [kind_project, hvalues value hvalue]
  induction h generalizing room spec pruned with
  -- only containers can be selected from
  | none | primitive | numbers | mixed =>
      obtain ⟨_, hnode⟩ | ⟨_, hnode⟩ := container_of_apply happly <;> cases hnode
  | nullItem hne hslices hnull =>
      obtain ⟨_, _, _, -, -, hany, -⟩ := apply_slice_eq_ok_iff.mp happly
      obtain ⟨_, hnode⟩ | ⟨_, hnode⟩ := container_of_apply hany <;> cases hnode
  | slice hne hslices hnull hitems ih =>
      obtain ⟨inner, entries, other, -, hspec, helement, rfl⟩ := apply_slice_eq_ok_iff.mp happly
      have hprojected := ih helement (entriesUnforced_of_slice hunforced hspec)
      rw [← itemsOf_map_project hspec] at hprojected
      refine .slice (by simpa using hne) (hkinds hslices) ?_ hprojected
      rw [itemsOf_map_project hspec, List.mem_map]
      rintro ⟨item, hitem, hproject⟩
      have hsame := isNull_project (.obj [("of", .obj entries)]) item
      rw [hproject] at hsame
      exact hnull (Json.isNull_iff.mp hsame.symm ▸ hitem)
  | struct hne hstructs hnames htypes hoptional ih =>
      obtain ⟨inner, entries, others, -, hspec, hfields, rfl⟩ := apply_struct_eq_ok_iff.mp happly
      have hentries := hunforced entries _ hspec
      refine .struct (by simpa using hne) (hkinds hstructs) ?_ (fun name other hother => ?_)
        fun name other hother => ?_
      · rw [names_of_selectFields hfields, hnames, keysOf_map_project hspec]
      · obtain ⟨field, hfield, hkeeps, -, hcase⟩ := exists_of_mem_kept hentries hfields hother
        rw [presentUnder_map_project hspec hkeeps]
        rcases hcase with ⟨hinner, htype⟩ | ⟨within, hinner, hwithin, hselect⟩
        · rw [projectUnder_of_none hinner, List.map_id, htype]
          exact htypes name field hfield
        · rw [projectUnder_of_some hinner]
          exact ih name field hfield hselect hwithin
      · obtain ⟨field, hfield, hkeeps, hmark, -⟩ := exists_of_mem_kept hentries hfields hother
        rw [hmark, hoptional name field hfield, any_lacks_map_project hspec hkeeps]

/-- Selecting from the inferred type and inferring from the selected parts of the
documents give the same, when the selection succeeds and forces nothing. -/
theorem inferAll_map_project [Room] {documents : List Json} {type pruned : Node} {spec : Spec}
    (hinfer : inferAll documents = .ok type) (hprune : type.prune spec = .ok pruned)
    (hunforced : spec.Unforced) :
    inferAll (documents.map (project spec)) = .ok pruned := by
  obtain ⟨hne, hdocuments, hinfers⟩ := inferAll_eq_ok_iff_infers.mp hinfer
  refine inferAll_eq_ok_iff_infers.mpr ⟨by simpa using hne, ?_, ?_⟩
  · exact List.forall_mem_map.mpr fun document hdocument =>
      isDocument_project (hdocuments document hdocument) spec
  · exact hinfers.project hprune (entriesUnforced_of_unforced hunforced)

/-- Two objects of which a selection keeps a list and a part of a nested object. -/
def nestedDocuments : List Json :=
  [.obj [("user", .obj [("id", .int 1), ("name", .str "a")]), ("sizes", .arr [])],
    .obj [("sizes", .arr [.int 2]), ("note", .bool true), ("user", .null)]]

def nestedType : Node :=
  .struct [("user", ⟨.struct [("id", ⟨.int, false⟩), ("name", ⟨.string, false⟩)], true⟩),
    ("sizes", ⟨.slice .int, false⟩), ("note", ⟨.bool, true⟩)]

def nestedSelection : Spec :=
  .obj [("of", .obj [("sizes", .bool true),
    ("user", .obj [("of", .obj [("name", .bool true)])])])]

def selectedType : Node :=
  .struct [("user", ⟨.struct [("name", ⟨.string, false⟩)], true⟩), ("sizes", ⟨.slice .int, false⟩)]

theorem unforced_nestedSelection : nestedSelection.Unforced := by
  have hkeep : (Spec.bool true).Unforced := .leaf fun _ => by simp
  have hname : (Spec.obj [("of", .obj [("name", .bool true)])]).Unforced := by
    refine .mapping rfl rfl fun entries hof name entry hentry => ?_
    cases hof
    rcases lookup_cons_eq_some_iff.mp hentry with ⟨-, rfl⟩ | ⟨-, hrest⟩
    · exact hkeep
    · cases hrest
  refine .mapping rfl rfl fun entries hof name entry hentry => ?_
  cases hof
  rcases lookup_cons_eq_some_iff.mp hentry with ⟨-, rfl⟩ | ⟨-, huser⟩
  · exact hkeep
  · rcases lookup_cons_eq_some_iff.mp huser with ⟨-, rfl⟩ | ⟨-, hrest⟩
    · exact hname
    · cases hrest

theorem inferAll_map_project_nested :
    inferAll nestedDocuments = .ok nestedType ∧
      nestedType.prune nestedSelection = .ok selectedType ∧ nestedSelection.Unforced ∧
      inferAll (nestedDocuments.map (project nestedSelection)) = .ok selectedType := by
  have hinfer : inferAll nestedDocuments = .ok nestedType := rfl
  have hprune : nestedType.prune nestedSelection = .ok selectedType := rfl
  exact ⟨hinfer, hprune, unforced_nestedSelection,
    inferAll_map_project hinfer hprune unforced_nestedSelection⟩

end JsonShape

import JsonShape.Proofs.Description.Failing

/-!
# The grammar of descriptions

A description names a leaf, or a slice with the description of its elements, or it
describes a struct field by field.  Whatever else stands in it is not looked at.  The
descriptions of this form are exactly those that are read, want of room apart, and the
tree that is read has the nesting, the fields and the marks of its description.
-/

set_option autoImplicit false

namespace JsonShape.Description

/-- What a description must be like. -/
inductive Form : Spec → Prop
  | leaf {members : List (String × Spec)} {name : String}
      (hname : name ∈ ["bool", "string", "int", "float", "any"])
      (htype : members.lookup "type" = some (.str name)) : Form (.obj members)
  | slice {members : List (String × Spec)} {element : Spec}
      (htype : members.lookup "type" = some (.str "slice"))
      (hof : members.lookup "of" = some element) (helement : Form element) : Form (.obj members)
  | struct {members entries : List (String × Spec)} (htype : NamesStruct members)
      (hentries : HasEntries members entries)
      (hentry : ∀ name entry, (name, entry) ∈ entries →
        ∃ inner type, entry = .obj inner ∧ inner.lookup "of" = some type)
      (hform : ∀ name inner type, (name, .obj inner) ∈ entries →
        inner.lookup "of" = some type → Form type) : Form (.obj members)

/-- A field that has the name, the type and the mark of its description, when `R` tells
which trees mirror the descriptions of types. -/
inductive FieldMirrors (R : Spec → Node → Prop) : String × Spec → String × Field Node → Prop
  | intro {name : String} {members : List (String × Spec)} {type : Spec} {field : Field Node}
      (hof : members.lookup "of" = some type) (htype : R type field.type)
      (hoptional : field.optional = true ↔
        ∃ mark, members.lookup "optional" = some mark ∧ mark.isTruthy = true) :
      FieldMirrors R (name, .obj members) (name, field)

/-- A tree that has the nesting of a description, and the fields in its order. -/
inductive Mirrors : Spec → Node → Prop
  | primitive {members : List (String × Spec)} (type : Primitive)
      (htype : members.lookup "type" = some (.str type.name)) :
      Mirrors (.obj members) (.primitive type)
  | any {members : List (String × Spec)} (htype : members.lookup "type" = some (.str "any")) :
      Mirrors (.obj members) .any
  | slice {members : List (String × Spec)} {element : Spec} {node : Node}
      (htype : members.lookup "type" = some (.str "slice"))
      (hof : members.lookup "of" = some element) (helement : Mirrors element node) :
      Mirrors (.obj members) (.slice node)
  | struct {R : Spec → Node → Prop} {members entries : List (String × Spec)}
      {fields : List (String × Field Node)} (hR : ∀ spec node, R spec node → Mirrors spec node)
      (htype : NamesStruct members) (hentries : HasEntries members entries)
      (hfields : List.Forall₂ (FieldMirrors R) entries fields) :
      Mirrors (.obj members) (.struct fields)

variable {members entries : List (String × Spec)} {description : Spec} {node : Node}

/-! ## What is read mirrors its description -/

theorem readField_eq_ok_iff_fieldMirrors {read : Spec → Except DescriptionError Node}
    {entry : String × Spec} {field : String × Field Node} :
    readField read entry = .ok field ↔
      FieldMirrors (fun type tree => read type = .ok tree) entry field := by
  rw [readField_eq_ok_iff]
  constructor
  · rintro ⟨type, optional, hentry, htype, hfield⟩
    obtain ⟨members, hmembers, hof, rfl⟩ := fieldEntry_eq_ok_iff.mp hentry
    obtain ⟨name, entry⟩ := entry
    subst hmembers
    rw [hfield]
    exact .intro hof htype getD_isTruthy_iff
  · rintro @⟨name, members, type, field, hof, htype, hoptional⟩
    have hmark : field.optional = ((members.lookup "optional").map Spec.isTruthy).getD false :=
      Bool.eq_iff_iff.mpr (hoptional.trans getD_isTruthy_iff.symm)
    exact ⟨type, field.optional, fieldEntry_eq_ok_iff.mpr ⟨members, rfl, hof, hmark⟩, htype, rfl⟩

/-- Whatever is read, with much room or little, mirrors its description. -/
theorem mirrors_of_read {room : Nat} (h : read room description = .ok node) :
    Mirrors description node := by
  induction room using Nat.strongRecOn generalizing description node with
  | ind room ih =>
      rcases read_eq_ok_iff.mp h with
        hlayer | ⟨inner, element, other, rfl, hlayer, hother, rfl⟩ |
          ⟨inner, entries, fields, rfl, hlayer, hfields, rfl⟩
      · obtain ⟨members, rfl, hlevel⟩ := layer_eq_ok_iff.mp hlayer
        cases hlevel with
        | primitive type htype => exact .primitive type htype
        | any htype => exact .any htype
        | empty htype hentries =>
            exact .struct (R := Mirrors) (fun _ _ => id) htype hentries .nil
      · obtain ⟨members, rfl, hlevel⟩ := layer_eq_ok_iff.mp hlayer
        cases hlevel with
        | slice htype hof => exact .slice htype hof (ih inner (Nat.lt_succ_self inner) hother)
      · obtain ⟨members, rfl, hlevel⟩ := layer_eq_ok_iff.mp hlayer
        cases hlevel with
        | struct htype hentries =>
            refine .struct (fun type tree => ih inner (Nat.lt_succ_self inner)) htype hentries ?_
            exact (mapM_eq_ok_iff.mp hfields).imp fun _ _ => readField_eq_ok_iff_fieldMirrors.mp

theorem FieldMirrors.readField_cases {R : Spec → Node → Prop} {room : Nat} {entry : String × Spec}
    {field : String × Field Node} (h : FieldMirrors R entry field)
    (hR : ∀ type tree, R type tree →
      read room type = .ok tree ∨ read room type = .error .tooDeep) :
    readField (read room) entry = .ok field ∨
      readField (read room) entry = .error .tooDeep := by
  obtain @⟨name, members, type, field, hof, htype, hoptional⟩ := h
  cases hR type field.type htype with
  | inl hread => exact .inl (readField_eq_ok_iff_fieldMirrors.mpr (.intro hof hread hoptional))
  | inr hdeep =>
      have hentry : fieldEntry name (.obj members) = .ok ⟨type, _⟩ :=
        fieldEntry_eq_ok_iff.mpr ⟨members, rfl, hof, rfl⟩
      exact .inr (by rw [readField, hentry]; simp only [bind, Except.bind, hdeep])

/-- A tree that mirrors a description is read from it, where there is room. -/
theorem Mirrors.read_cases (h : Mirrors description node) (room : Nat) :
    read room description = .ok node ∨ read room description = .error .tooDeep := by
  induction h generalizing room with
  | primitive type htype =>
      rw [read.eq_def, (Level.primitive type htype).layer_eq]
      exact .inl rfl
  | any htype =>
      rw [read.eq_def, (Level.any htype).layer_eq]
      exact .inl rfl
  | slice htype hof _ ih =>
      rw [read.eq_def, (Level.slice htype hof).layer_eq]
      cases room with
      | zero => exact .inr rfl
      | succ room =>
          simp only [map_eq_ok_iff, map_eq_error_iff]
          exact (ih room).imp_left fun hread => ⟨_, hread, rfl⟩
  | struct _ htype hentries hfields ih =>
      cases hfields with
      | nil =>
          rw [read.eq_def, (Level.empty htype hentries).layer_eq]
          exact .inl rfl
      | cons hfirst hrest =>
          rw [read.eq_def, (Level.struct htype hentries).layer_eq]
          cases room with
          | zero => exact .inr rfl
          | succ room =>
              have hsteps := (List.Forall₂.cons hfirst hrest).imp fun entry field hfield =>
                hfield.readField_cases fun type tree htree => ih type tree htree room
              simp only [map_eq_ok_iff, map_eq_error_iff]
              exact (mapM_eq_ok_or_error hsteps).imp_left fun hread => ⟨_, hread, rfl⟩

theorem Mirrors.unique {other : Node} (h : Mirrors description node)
    (hother : Mirrors description other) : node = other := by
  -- there is room for a description below its own depth
  have hroom : read description.depth description ≠ .error .tooDeep := fun hdeep =>
    Nat.lt_irrefl _ (depth_of_read_eq_tooDeep hdeep)
  have hread := (h.read_cases description.depth).resolve_right hroom
  exact Except.ok.inj (hread.symm.trans ((hother.read_cases description.depth).resolve_right hroom))

/-! ## What has the form is mirrored -/

theorem Mirrors.form (h : Mirrors description node) : Form description := by
  induction h with
  | primitive type htype => exact .leaf (by cases type <;> simp [Primitive.name]) htype
  | any htype => exact .leaf (by simp) htype
  | slice htype hof _ ih => exact .slice htype hof ih
  | struct _ htype hentries hfields ih =>
      refine .struct htype hentries ?_ ?_
      · intro name entry hentry
        obtain ⟨_, -, ⟨hof, -, -⟩⟩ := exists_of_mem_forall₂ hfields hentry
        exact ⟨_, _, rfl, hof⟩
      · intro name inner type hentry htype
        obtain ⟨_, -, ⟨hof, hmirrors, -⟩⟩ := exists_of_mem_forall₂ hfields hentry
        cases htype.symm.trans hof
        exact ih _ _ hmirrors

theorem exists_fieldMirrors {name : String} {entry : Spec}
    (hentry : ∃ inner type, entry = .obj inner ∧ inner.lookup "of" = some type ∧
      ∃ node, Mirrors type node) :
    ∃ field, FieldMirrors Mirrors (name, entry) field := by
  obtain ⟨inner, type, rfl, hof, node, hnode⟩ := hentry
  exact ⟨(name, ⟨node, _⟩), .intro hof hnode getD_isTruthy_iff⟩

theorem Form.exists_mirrors (h : Form description) : ∃ node, Mirrors description node := by
  induction h with
  | @leaf members name hname htype =>
      simp only [List.mem_cons, List.not_mem_nil, or_false] at hname
      rcases hname with rfl | rfl | rfl | rfl | rfl
      · exact ⟨_, .primitive .bool htype⟩
      · exact ⟨_, .primitive .string htype⟩
      · exact ⟨_, .primitive .int htype⟩
      · exact ⟨_, .primitive .float htype⟩
      · exact ⟨_, .any htype⟩
  | slice htype hof _ ih =>
      obtain ⟨node, hnode⟩ := ih
      exact ⟨.slice node, .slice htype hof hnode⟩
  | @struct members entries htype hentries hentry _ ih =>
      have hfields : ∀ entry ∈ entries, ∃ field, FieldMirrors Mirrors entry field := by
        rintro ⟨name, entry⟩ hmem
        obtain ⟨inner, type, rfl, hof⟩ := hentry name entry hmem
        exact exists_fieldMirrors ⟨inner, type, rfl, hof, ih name inner type hmem hof⟩
      obtain ⟨fields, hfields⟩ := exists_forall₂ hfields
      exact ⟨.struct fields, .struct (fun _ _ => id) htype hentries hfields⟩

/-- A description has the form when some tree mirrors it. -/
theorem form_iff : Form description ↔ ∃ node, Mirrors description node :=
  ⟨Form.exists_mirrors, fun ⟨_, h⟩ => h.form⟩

/-- A description is read exactly when it has the form, and refused otherwise, unless it
nests too deeply.  What is read mirrors it, and nothing else does. -/
theorem ofDescription_succeeds_iff_form [Room] (description : Spec) :
    (Node.ofDescription description = .error .tooDeep →
      Room.description < description.depth) ∧
    (Node.ofDescription description ≠ .error .tooDeep →
      ((∃ node, Node.ofDescription description = .ok node) ↔ Form description) ∧
      (¬Form description →
        ∃ error, error ≠ .tooDeep ∧ Node.ofDescription description = .error error)) ∧
    ∀ node, Node.ofDescription description = .ok node →
      Mirrors description node ∧ ∀ other, Mirrors description other → other = node := by
  refine ⟨depth_of_read_eq_tooDeep, fun hfits => ?_, fun node hnode => ?_⟩
  · have hform : (∃ node, Node.ofDescription description = .ok node) ↔ Form description := by
      rw [form_iff]
      constructor
      · rintro ⟨node, hnode⟩
        exact ⟨node, mirrors_of_read hnode⟩
      · rintro ⟨node, hnode⟩
        exact ⟨node, (hnode.read_cases Room.description).resolve_right hfits⟩
    refine ⟨hform, fun hother => ?_⟩
    cases hread : Node.ofDescription description with
    | ok node => exact absurd (hform.mp ⟨node, hread⟩) hother
    | error error => exact ⟨error, fun hdeep => hfits (hdeep ▸ hread), rfl⟩
  · exact ⟨mirrors_of_read hnode, fun other hother => hother.unique (mirrors_of_read hnode)⟩

/-- A description that leaves out what it can, in which numbers and lists stand for truth
values. -/
def looseDescription : Spec :=
  .obj [("note", .null), ("type", .int 0), ("fields", .obj
    [("sizes", .obj [("optional", .arr [.null]),
        ("of", .obj [("of", .obj [("type", .str "int"), ("of", .int 1)]),
          ("type", .str "slice")])]),
      ("at", .obj [("of", .obj [("fields", .arr [])]), ("optional", .str "")])])]

def looseType : Node := .struct [("sizes", ⟨.slice .int, true⟩), ("at", ⟨.struct [], false⟩)]

/-- A slice must say what its elements are, which null does not. -/
def nullElements : Spec := .obj [("type", .str "slice"), ("of", .null)]

theorem ofDescription_succeeds_iff_form_loose :
    (Form looseDescription ∧ Mirrors looseDescription looseType ∧
      ∀ other, Mirrors looseDescription other → other = looseType) ∧
    ¬Form nullElements ∧
      Node.ofDescription nullElements = .error (.notObject "NoneType") := by
  have hloose : Node.ofDescription looseDescription = .ok looseType := rfl
  have hnull : Node.ofDescription nullElements = .error (.notObject "NoneType") := rfl
  have hform := ((ofDescription_succeeds_iff_form looseDescription).2.1 (by simp [hloose])).1
  have hother := ((ofDescription_succeeds_iff_form nullElements).2.1 (by simp [hnull])).1
  have hmirrors := (ofDescription_succeeds_iff_form looseDescription).2.2 looseType hloose
  refine ⟨⟨hform.mp ⟨looseType, hloose⟩, hmirrors⟩, ?_, hnull⟩
  intro h
  obtain ⟨node, hnode⟩ := hother.mpr h
  simp [hnull] at hnode

end JsonShape.Description

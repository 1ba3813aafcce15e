import JsonShape.Node.Equality
import JsonShape.Proofs.Traversal

/-!
# Equality of trees

Two finished structs are equal when they have equally many fields and every field
of the one is found in the other with an equal type and the same mark; raw structs
are compared in the same way.  On trees whose structs name their fields once this is
reflexive and symmetric.
-/

set_option autoImplicit false

namespace JsonShape.Node

theorem fieldsIn_iff {fields others : List (String × Field Node)} :
    fieldsIn fields others = true ↔ ∀ entry ∈ fields, ∃ other,
      others.lookup entry.1 = some other ∧ entry.2.type.same other.type = true ∧
        entry.2.optional = other.optional := by
  induction fields with
  | nil => simp [fieldsIn]
  | cons entry rest ih =>
      obtain ⟨name, type, optional⟩ := entry
      rw [fieldsIn, Bool.and_eq_true, ih, List.forall_mem_cons]
      cases others.lookup name <;> simp

/-- Equality of structs, field by field. -/
theorem same_struct_iff {fields others : List (String × Field Node)} :
    (struct fields).same (struct others) = true ↔
      fields.length = others.length ∧ ∀ entry ∈ fields, ∃ other,
        others.lookup entry.1 = some other ∧ entry.2.type.same other.type = true ∧
          entry.2.optional = other.optional := by
  rw [same, Bool.and_eq_true, beq_iff_eq, fieldsIn_iff]

theorem entriesIn_iff {fields others : List (String × Node)} :
    entriesIn fields others = true ↔ ∀ entry ∈ fields, ∃ other,
      others.lookup entry.1 = some other ∧ entry.2.same other = true := by
  induction fields with
  | nil => simp [entriesIn]
  | cons entry rest ih =>
      rw [entriesIn, Bool.and_eq_true, ih, List.forall_mem_cons]
      cases others.lookup entry.1 <;> simp

/-- Equality of raw structs, entry by entry. -/
theorem same_rawStruct_iff {fields others : List (String × Node)} :
    (rawStruct fields).same (rawStruct others) = true ↔
      fields.length = others.length ∧ ∀ entry ∈ fields, ∃ other,
        others.lookup entry.1 = some other ∧ entry.2.same other = true := by
  rw [same, Bool.and_eq_true, beq_iff_eq, entriesIn_iff]

/-- Equality of unions, place by place. -/
theorem same_union_iff {nodes others : List Node} :
    (union nodes).same (union others) = true ↔
      List.Forall₂ (fun node other => node.same other = true) nodes others := by
  rw [same]
  induction nodes generalizing others with
  | nil => cases others <;> simp [allSame]
  | cons node rest ih => cases others <;> simp [allSame, ih]

/-- A tree in which every struct names its fields once, as is the case for every mapping. -/
inductive Distinct : Node → Prop
  | primitive (type : Primitive) : Distinct (primitive type)
  | any : Distinct any
  | ignore : Distinct ignore
  | slice {element : Node} (helement : Distinct element) : Distinct (slice element)
  | struct {fields : List (String × Field Node)} (hnames : (fields.map Prod.fst).Nodup)
      (hfields : ∀ entry ∈ fields, Distinct entry.2.type) : Distinct (struct fields)
  | rawSlice {element : Node} (helement : Distinct element) : Distinct (rawSlice element)
  | rawStruct {fields : List (String × Node)} (hnames : (fields.map Prod.fst).Nodup)
      (hfields : ∀ entry ∈ fields, Distinct entry.2) : Distinct (rawStruct fields)
  | union {nodes : List Node} (hnodes : ∀ node ∈ nodes, Distinct node) : Distinct (union nodes)

@[simp]
theorem distinct_slice_iff {element : Node} : (slice element).Distinct ↔ element.Distinct := by
  constructor
  · rintro ⟨⟩
    assumption
  · exact .slice

@[simp]
theorem distinct_struct_iff {fields : List (String × Field Node)} :
    (struct fields).Distinct ↔
      (fields.map Prod.fst).Nodup ∧ ∀ entry ∈ fields, entry.2.type.Distinct := by
  constructor
  · rintro ⟨⟩
    constructor <;> assumption
  · rintro ⟨hnames, hfields⟩
    exact .struct hnames hfields

@[simp]
theorem distinct_rawSlice_iff {element : Node} :
    (rawSlice element).Distinct ↔ element.Distinct := by
  constructor
  · rintro ⟨⟩
    assumption
  · exact .rawSlice

@[simp]
theorem distinct_rawStruct_iff {fields : List (String × Node)} :
    (rawStruct fields).Distinct ↔
      (fields.map Prod.fst).Nodup ∧ ∀ entry ∈ fields, entry.2.Distinct := by
  constructor
  · rintro ⟨⟩
    constructor <;> assumption
  · rintro ⟨hnames, hfields⟩
    exact .rawStruct hnames hfields

@[simp]
theorem distinct_union_iff {nodes : List Node} :
    (union nodes).Distinct ↔ ∀ node ∈ nodes, node.Distinct := by
  constructor
  · rintro ⟨⟩
    assumption
  · exact .union

theorem same_refl {node : Node} (h : node.Distinct) : node.same node = true := by
  induction h with
  | primitive type => simp [same]
  | any | ignore => rw [same]
  | slice _ ih | rawSlice _ ih => rw [same, ih]
  | struct hnames _ ih =>
      refine same_struct_iff.mpr ⟨rfl, fun entry hentry => ⟨entry.2, ?_, ih entry hentry, rfl⟩⟩
      exact lookup_eq_some_of_mem hnames hentry
  | rawStruct hnames _ ih =>
      refine same_rawStruct_iff.mpr ⟨rfl, fun entry hentry => ⟨entry.2, ?_, ih entry hentry⟩⟩
      exact lookup_eq_some_of_mem hnames hentry
  | union _ ih => exact same_union_iff.mpr (List.forall₂_same.mpr ih)

theorem same_symm {node other : Node} (hnode : node.Distinct) (hother : other.Distinct)
    (h : node.same other = true) : other.same node = true := by
  induction hnode generalizing other with
  | primitive type =>
      cases hother with
      | primitive other =>
          rw [same, beq_iff_eq] at h ⊢
          exact h.symm
      | _ => simp [same] at h
  | any =>
      cases hother with
      | any => exact h
      | _ => simp [same] at h
  | ignore =>
      cases hother with
      | ignore => exact h
      | _ => simp [same] at h
  | slice _ ih =>
      cases hother with
      | slice hother =>
          rw [same] at h ⊢
          exact ih hother h
      | _ => simp [same] at h
  | rawSlice _ ih =>
      cases hother with
      | rawSlice hother =>
          rw [same] at h ⊢
          exact ih hother h
      | _ => simp [same] at h
  | struct hnames _ ih =>
      cases hother with
      | struct hothers hfields =>
          obtain ⟨hlength, hfound⟩ := same_struct_iff.mp h
          refine same_struct_iff.mpr ⟨hlength.symm, fun entry hentry => ?_⟩
          obtain ⟨field, hfield, hsame, hoptional⟩ :=
            found_symm (R := fun field other => field.type.same other.type = true ∧
              field.optional = other.optional) hnames hothers hlength hfound entry hentry
          have htype := ih _ (mem_of_lookup_eq_some hfield) (hfields entry hentry) hsame
          exact ⟨field, hfield, htype, hoptional.symm⟩
      | _ => simp [same] at h
  | rawStruct hnames _ ih =>
      cases hother with
      | rawStruct hothers hfields =>
          obtain ⟨hlength, hfound⟩ := same_rawStruct_iff.mp h
          refine same_rawStruct_iff.mpr ⟨hlength.symm, fun entry hentry => ?_⟩
          obtain ⟨field, hfield, hsame⟩ :=
            found_symm (R := fun field other => field.same other = true) hnames hothers hlength
              hfound entry hentry
          exact ⟨field, hfield, ih _ (mem_of_lookup_eq_some hfield) (hfields entry hentry) hsame⟩
      | _ => simp [same] at h
  | union _ ih =>
      cases hother with
      | union hothers =>
          refine same_union_iff.mpr (flip_of_forall₂ (same_union_iff.mp h) ?_)
          exact fun node hnode other hother => ih node hnode (hothers other hother)
      | _ => simp [same] at h

end JsonShape.Node

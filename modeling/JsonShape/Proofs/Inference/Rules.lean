import JsonShape.Proofs.Inference.Observation
import JsonShape.Shape

/-!
# The rules of inference

The type of some values observed at one place is given by seven rules, which
speak of the values themselves and know neither raw trees nor a nesting limit.
Inference of documents follows these rules, and it succeeds exactly when every
document is a container within the nesting limit that holds finite numbers only:
`inferAll_eq_ok_iff_infers`.
-/

set_option autoImplicit false

namespace JsonShape

open Inference Unify

/-- The type of some values none of which is null. -/
inductive Infers : List Json → Node → Prop
  /-- Nothing was observed. -/
  | none : Infers [] .any
  | primitive {values : List Json} (type : Primitive) (hne : values ≠ [])
      (hkinds : ∀ value ∈ values, value.kind = .primitive type) :
      Infers values (.primitive type)
  /-- Integers and other numbers were observed. -/
  | numbers {values : List Json} (left right : Json) (hleft : left ∈ values)
      (hright : right ∈ values) (hne : left.kind ≠ right.kind)
      (hkinds : ∀ value ∈ values, isNumeric value.kind) :
      Infers values .float
  /-- An item cannot be left out, so a null among the items hides the others. -/
  | nullItem {values : List Json} (hne : values ≠ [])
      (hkinds : ∀ value ∈ values, value.kind = .slice) (hnull : .null ∈ itemsOf values) :
      Infers values (.slice .any)
  | slice {values : List Json} {element : Node} (hne : values ≠ [])
      (hkinds : ∀ value ∈ values, value.kind = .slice) (hnull : .null ∉ itemsOf values)
      (hitems : Infers (itemsOf values) element) :
      Infers values (.slice element)
  | struct {values : List Json} {fields : List (String × Field Node)} (hne : values ≠ [])
      (hkinds : ∀ value ∈ values, value.kind = .struct)
      (hnames : fields.map Prod.fst = keysOf values)
      (htypes : ∀ name field, (name, field) ∈ fields →
        Infers (presentUnder name values) field.type)
      (hoptional : ∀ name field, (name, field) ∈ fields →
        field.optional = values.any (Json.lacks name)) :
      Infers values (.struct fields)
  /-- Two values disagree, and not as numbers do. -/
  | mixed {values : List Json} (left right : Json) (hleft : left ∈ values)
      (hright : right ∈ values) (hne : left.kind ≠ right.kind)
      (hnumbers : ¬(isNumeric left.kind ∧ isNumeric right.kind)) :
      Infers values .any

namespace Inference

variable {values : List Json}

theorem not_isNull_of_mem_presentUnder {name : String} :
    ∀ value ∈ presentUnder name values, value.isNull = false :=
  fun _ hvalue => (mem_presentUnder_iff.mp hvalue).1

theorem isRaw_map_raw : ∀ node ∈ values.map Json.raw, node.isRaw :=
  List.forall_mem_map.mpr fun value _ => value.isRaw_raw

theorem isRaw_union_map_raw (values : List Json) : (Node.union (values.map Json.raw)).isRaw := by
  rw [Node.isRaw, Node.allRaw_iff]
  exact isRaw_map_raw

theorem isNull_of_mem_itemsOf (hnull : .null ∉ itemsOf values) :
    ∀ item ∈ itemsOf values, item.isNull = false := by
  intro item hitem
  rw [Bool.eq_false_iff, Ne, Json.isNull_iff]
  rintro rfl
  exact hnull hitem

/-- Without nulls the kinds that count are the kinds of the values. -/
theorem outcome_map_raw (hnull : ∀ value ∈ values, value.isNull = false) :
    outcome (kindsOf (values.map Json.raw)) = outcome (values.map Json.kind) := by
  apply outcome_congr
  intro kind
  rw [mem_kindsOf_iff, List.mem_map]
  constructor
  · rintro ⟨-, node, hnode, rfl⟩
    obtain ⟨value, hvalue, rfl⟩ := List.mem_map.mp hnode
    exact ⟨value, hvalue, rfl⟩
  · rintro ⟨value, hvalue, rfl⟩
    refine ⟨fun hignore => ?_, value.raw, List.mem_map_of_mem hvalue, rfl⟩
    have hvalue := hnull value hvalue
    rw [Json.kind_eq_ignore_iff.mp hignore] at hvalue
    exact absurd hvalue (by simp [Json.isNull])

theorem depth_of_mem_itemsOf {room : Nat} (hdepth : ∀ value ∈ values, value.depth ≤ room + 1) :
    ∀ item ∈ itemsOf values, item.depth ≤ room := by
  intro item hitem
  obtain ⟨items, hvalue, hitem⟩ := mem_itemsOf_iff.mp hitem
  exact Json.arr_depth_le_succ_iff.mp (hdepth _ hvalue) item hitem

theorem depth_of_mem_presentUnder {room : Nat} {name : String}
    (hdepth : ∀ value ∈ values, value.depth ≤ room + 1) :
    ∀ member ∈ presentUnder name values, member.depth ≤ room := by
  intro member hmember
  obtain ⟨-, members, hvalue, hlookup⟩ := mem_presentUnder_iff.mp hmember
  exact Json.obj_depth_le_succ_iff.mp (hdepth _ hvalue) _ (mem_of_lookup_eq_some hlookup)

theorem nonFinite_of_mem_itemsOf (hfinite : ∀ value ∈ values, value.nonFinite = []) :
    ∀ item ∈ itemsOf values, item.nonFinite = [] := by
  intro item hitem
  obtain ⟨items, hvalue, hitem⟩ := mem_itemsOf_iff.mp hitem
  exact Json.nonFinite_arr_eq_nil_iff.mp (hfinite _ hvalue) item hitem

theorem nonFinite_of_mem_presentUnder {name : String}
    (hfinite : ∀ value ∈ values, value.nonFinite = []) :
    ∀ member ∈ presentUnder name values, member.nonFinite = [] := by
  intro member hmember
  obtain ⟨-, members, hvalue, hlookup⟩ := mem_presentUnder_iff.mp hmember
  exact Json.nonFinite_obj_eq_nil_iff.mp (hfinite _ hvalue) _ (mem_of_lookup_eq_some hlookup)

/-- Containers leave room for what is in them. -/
theorem exists_room {room : Nat} (hne : values ≠ [])
    (hkinds : ∀ value ∈ values, value.kind = .slice ∨ value.kind = .struct)
    (hdepth : ∀ value ∈ values, value.depth ≤ room) : ∃ inner, room = inner + 1 := by
  obtain ⟨value, hvalue⟩ := List.exists_mem_of_ne_nil values hne
  have hpositive : 0 < value.depth := by
    rcases hkinds value hvalue with hkind | hkind
    · obtain ⟨items, rfl⟩ := Json.kind_eq_slice_iff.mp hkind
      simp [Json.depth]
    · obtain ⟨members, rfl⟩ := Json.kind_eq_struct_iff.mp hkind
      simp [Json.depth]
  exact Nat.exists_eq_add_of_le' (Nat.lt_of_lt_of_le hpositive (hdepth value hvalue))

end Inference

/-! ## Merging follows the rules -/

variable {values : List Json}

theorem infers_of_outcome_eq_leaf (hnull : ∀ value ∈ values, value.isNull = false) {type : Node}
    (houtcome : outcome (kindsOf (values.map Json.raw)) = .leaf type) : Infers values type := by
  rw [outcome_map_raw hnull] at houtcome
  cases mixture (values.map Json.kind) with
  | none hnil =>
      rw [hnil, outcome, Outcome.leaf.injEq] at houtcome
      rw [List.map_eq_nil_iff.mp hnil, ← houtcome]
      exact .none
  | uniform kind hne huniform =>
      rw [outcome_eq_uniform hne huniform] at houtcome
      rw [List.forall_mem_map] at huniform
      obtain ⟨value, hvalue⟩ := List.exists_mem_of_ne_nil values (by simpa using hne)
      have hvalueNull := hnull value hvalue
      rw [← huniform value hvalue] at houtcome huniform
      obtain ⟨primitive, hkind⟩ | ⟨items, rfl⟩ | ⟨members, rfl⟩ | rfl := value.kind_cases
      · rw [hkind] at houtcome huniform
        cases houtcome
        exact .primitive primitive (List.ne_nil_of_mem hvalue) huniform
      · simp [Json.kind, Node.kind, uniform] at houtcome
      · simp [Json.kind, Node.kind, uniform] at houtcome
      · simp [Json.isNull] at hvalueNull
  | numbers left right hleft hright hne hnumbers =>
      rw [outcome_eq_float hleft hright hne hnumbers, Outcome.leaf.injEq] at houtcome
      obtain ⟨first, hfirst, rfl⟩ := List.mem_map.mp hleft
      obtain ⟨second, hsecond, rfl⟩ := List.mem_map.mp hright
      rw [← houtcome]
      exact .numbers first second hfirst hsecond hne (List.forall_mem_map.mp hnumbers)
  | mixed left right hleft hright hne hnumbers =>
      rw [outcome_eq_any hleft hright hne hnumbers, Outcome.leaf.injEq] at houtcome
      obtain ⟨first, hfirst, rfl⟩ := List.mem_map.mp hleft
      obtain ⟨second, hsecond, rfl⟩ := List.mem_map.mp hright
      rw [← houtcome]
      exact .mixed first second hfirst hsecond hne hnumbers

/-- Values of one kind are merged as the kind asks. -/
theorem outcome_of_kinds {kind : Kind} (hne : values ≠ [])
    (hkinds : ∀ value ∈ values, value.kind = kind)
    (hnull : ∀ value ∈ values, value.isNull = false) :
    outcome (kindsOf (values.map Json.raw)) = uniform kind := by
  rw [outcome_map_raw hnull]
  exact outcome_eq_uniform (by simpa using hne) (List.forall_mem_map.mpr hkinds)

/-- Values that are merged as containers of a kind are all of that kind. -/
theorem kind_of_outcome {kind : Kind} (hcontainer : kind = .slice ∨ kind = .struct)
    (hnull : ∀ value ∈ values, value.isNull = false)
    (houtcome : outcome (kindsOf (values.map Json.raw)) = uniform kind) :
    values ≠ [] ∧ ∀ value ∈ values, value.kind = kind := by
  constructor
  · rintro rfl
    rcases hcontainer with rfl | rfl <;> simp [kindsOf, outcome, uniform] at houtcome
  · rw [outcome_map_raw hnull] at houtcome
    exact List.forall_mem_map.mp (eq_of_outcome_eq_uniform hcontainer houtcome)

/-- What merging returns for some values is their type by the rules. -/
theorem infers_of_merge (hnull : ∀ value ∈ values, value.isNull = false) {room : Nat} {type : Node}
    (h : merge room (values.map Json.raw) = .ok type) : Infers values type := by
  induction room generalizing values type with
  | zero => exact infers_of_outcome_eq_leaf hnull (outcome_of_merge_zero h)
  | succ room ih =>
      cases houtcome : outcome (kindsOf (values.map Json.raw)) with
      | leaf node =>
          rw [merge_leaf _ houtcome, Except.ok.injEq] at h
          exact h ▸ infers_of_outcome_eq_leaf hnull houtcome
      | slices =>
          obtain ⟨hne, hkinds⟩ := kind_of_outcome (.inl rfl) hnull houtcome
          rw [merge_slices_eq_ok_iff isRaw_map_raw houtcome, itemPool_map_raw,
            List.forall_mem_map] at h
          simp only [Json.isIgnore_raw] at h
          rcases h with ⟨hitem, rfl⟩ | ⟨hitems, element, helement, rfl⟩
          · obtain ⟨node, hnode, hignore⟩ := hitem
            obtain ⟨item, hitem, rfl⟩ := List.mem_map.mp hnode
            rw [Json.isIgnore_raw, Json.isNull_iff] at hignore
            exact .nullItem hne hkinds (hignore ▸ hitem)
          · refine .slice hne hkinds (fun hitem => ?_) (ih hitems helement)
            simpa [Json.isNull] using hitems _ hitem
      | structs =>
          obtain ⟨hne, hkinds⟩ := kind_of_outcome (.inr rfl) hnull houtcome
          rw [merge_structs_eq_ok_iff isRaw_map_raw houtcome, fieldNames_map_raw] at h
          obtain ⟨fields, rfl, hnames, hfields⟩ := h
          refine .struct hne hkinds hnames (fun name field hfield => ?_) fun name field hfield => ?_
          · have htype := (hfields name field hfield).1
            rw [presentIn_map_raw] at htype
            exact ih not_isNull_of_mem_presentUnder htype
          · rw [(hfields name field hfield).2, isOptional_map_raw name hkinds]

/-- Where there is room for the values, merging returns their type by the rules. -/
theorem merge_of_infers {type : Node} (h : Infers values type) {room : Nat}
    (hnull : ∀ value ∈ values, value.isNull = false)
    (hdepth : ∀ value ∈ values, value.depth ≤ room) :
    merge room (values.map Json.raw) = .ok type := by
  induction h generalizing room with
  | none => exact merge_leaf room rfl
  | primitive type hne hkinds =>
      exact merge_leaf room (outcome_of_kinds hne hkinds hnull)
  | numbers left right hleft hright hne hkinds =>
      apply merge_leaf
      rw [outcome_map_raw hnull]
      exact outcome_eq_float (List.mem_map_of_mem hleft) (List.mem_map_of_mem hright) hne
        (List.forall_mem_map.mpr hkinds)
  | mixed left right hleft hright hne hnumbers =>
      apply merge_leaf
      rw [outcome_map_raw hnull]
      exact outcome_eq_any (List.mem_map_of_mem hleft) (List.mem_map_of_mem hright) hne hnumbers
  | nullItem hne hkinds hitem =>
      obtain ⟨inner, rfl⟩ := exists_room hne (fun value hvalue => .inl (hkinds value hvalue)) hdepth
      have houtcome := outcome_of_kinds hne hkinds hnull
      rw [merge_slices_eq_ok_iff isRaw_map_raw houtcome, itemPool_map_raw]
      exact .inl ⟨⟨_, List.mem_map_of_mem hitem, rfl⟩, rfl⟩
  | slice hne hkinds hitem _ ih =>
      obtain ⟨inner, rfl⟩ := exists_room hne (fun value hvalue => .inl (hkinds value hvalue)) hdepth
      have houtcome := outcome_of_kinds hne hkinds hnull
      rw [merge_slices_eq_ok_iff isRaw_map_raw houtcome, itemPool_map_raw, List.forall_mem_map]
      simp only [Json.isIgnore_raw]
      have hitems := isNull_of_mem_itemsOf hitem
      exact .inr ⟨hitems, _, ih hitems (depth_of_mem_itemsOf hdepth), rfl⟩
  | struct hne hkinds hnames _ hoptional ih =>
      obtain ⟨inner, rfl⟩ := exists_room hne (fun value hvalue => .inr (hkinds value hvalue)) hdepth
      have houtcome := outcome_of_kinds hne hkinds hnull
      rw [merge_structs_eq_ok_iff isRaw_map_raw houtcome, fieldNames_map_raw]
      refine ⟨_, rfl, hnames, fun name field hfield => ⟨?_, ?_⟩⟩
      · rw [presentIn_map_raw]
        exact ih name field hfield not_isNull_of_mem_presentUnder (depth_of_mem_presentUnder hdepth)
      · rw [hoptional name field hfield, isOptional_map_raw name hkinds]

/-! ## Inference of documents -/

/-- What inference asks of a document. -/
structure IsDocument [Room] (document : Json) : Prop where
  container : document.kind = .slice ∨ document.kind = .struct
  depth_le : document.depth ≤ Room.classification
  finite : document.nonFinite = []

theorem IsDocument.isNull_eq_false [Room] {document : Json} (h : IsDocument document) :
    document.isNull = false := by
  rcases h.container with hkind | hkind
  · obtain ⟨items, rfl⟩ := Json.kind_eq_slice_iff.mp hkind
    rfl
  · obtain ⟨members, rfl⟩ := Json.kind_eq_struct_iff.mp hkind
    rfl

theorem isRawContainer_raw_iff {value : Json} :
    value.raw.isRawContainer = true ↔ value.kind = .slice ∨ value.kind = .struct := by
  obtain ⟨type, hkind⟩ | ⟨items, rfl⟩ | ⟨members, rfl⟩ | rfl := value.kind_cases
  · rw [hkind]
    rw [Json.kind] at hkind
    cases hraw : value.raw <;> simp_all [Node.kind, Node.isRawContainer]
  all_goals simp [Json.kind, Json.raw, Node.kind, Node.isRawContainer]

theorem firstScalar?_eq_none_iff {nodes : List Node} :
    firstScalar? nodes = none ↔ ∀ node ∈ nodes, node.isRawContainer := by
  rw [firstScalar?, List.find?_eq_none]
  constructor
  · intro h node hnode
    rw [← List.zipIdx_map_fst 0 nodes] at hnode
    obtain ⟨entry, hentry, rfl⟩ := List.mem_map.mp hnode
    simpa using h entry hentry
  · rintro h ⟨node, index⟩ hentry
    simpa using h node (List.fst_mem_of_mem_zipIdx hentry)

/-- Classified documents are unified when there are some and all are containers. -/
theorem unify_eq_ok_iff [Room] {nodes : List Node} {type : Node} :
    unify nodes = .ok type ↔
      nodes ≠ [] ∧ (∀ node ∈ nodes, node.isRawContainer) ∧ unifyNode (.union nodes) = .ok type := by
  rw [unify, ← firstScalar?_eq_none_iff]
  cases nodes with
  | nil => simp
  | cons node rest =>
      rw [if_neg (by simp)]
      cases hscalar : firstScalar? (node :: rest) <;> simp

theorem inferAll_eq_ok_iff [Room] {documents : List Json} {type : Node} :
    inferAll documents = .ok type ↔
      documents ≠ [] ∧ (∀ document ∈ documents, IsDocument document) ∧
        unifyNode (.union (documents.map Json.raw)) = .ok type := by
  have hclassify (nodes : List Node) : documents.mapM classify = .ok nodes ↔
      (∀ document ∈ documents, document.depth ≤ Room.classification ∧ document.nonFinite = []) ∧
        nodes = documents.map Json.raw :=
    mapM_eq_ok_map_iff fun document _ node => classify_eq_ok_iff
  simp only [inferAll, bind_eq_ok_iff, mapError_eq_ok_iff, hclassify, unify_eq_ok_iff]
  constructor
  · rintro ⟨nodes, ⟨hall, rfl⟩, hne, hcontainers, htype⟩
    refine ⟨by simpa using hne, fun document hdocument => ⟨?_, ?_, ?_⟩, htype⟩
    · exact isRawContainer_raw_iff.mp (hcontainers _ (List.mem_map_of_mem hdocument))
    · exact (hall document hdocument).1
    · exact (hall document hdocument).2
  · rintro ⟨hne, hall, htype⟩
    refine ⟨_, ⟨fun document hdocument => ?_, rfl⟩, by simpa using hne, ?_, htype⟩
    · exact ⟨(hall document hdocument).depth_le, (hall document hdocument).finite⟩
    · exact List.forall_mem_map.mpr fun document hdocument =>
        isRawContainer_raw_iff.mpr (hall document hdocument).container

/-- Inference returns the type by the rules, and fails only where one of the
documents is not fit for it. -/
theorem inferAll_eq_ok_iff_infers [Room] {documents : List Json} {type : Node} :
    inferAll documents = .ok type ↔
      documents ≠ [] ∧ (∀ document ∈ documents, IsDocument document) ∧ Infers documents type := by
  rw [inferAll_eq_ok_iff]
  refine and_congr_right fun _ => and_congr_right fun hall => ?_
  have hnull : ∀ document ∈ documents, document.isNull = false :=
    fun document hdocument => (hall document hdocument).isNull_eq_false
  rw [unifyNode, Node.alternatives, Json.flatten_map_raw]
  -- the merge has as much room as the classification
  exact ⟨infers_of_merge hnull,
    fun h => merge_of_infers h hnull fun document hdocument =>
      Nat.le_trans (hall document hdocument).depth_le Room.classification_le_unification⟩

/-- Two objects: the one has an empty array and the other a null where more is known
from its companion. -/
def sampleDocuments : List Json :=
  [.obj [("id", .int 1), ("sizes", .arr [])],
    .obj [("sizes", .arr [.int 2, .int 3]), ("id", .null)]]

def sampleType : Node := .struct [("id", ⟨.int, true⟩), ("sizes", ⟨.slice .int, false⟩)]

theorem inferAll_sampleDocuments : inferAll sampleDocuments = .ok sampleType := rfl

end JsonShape

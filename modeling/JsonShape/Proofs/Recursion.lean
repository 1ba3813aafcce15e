import JsonShape.Proofs.Inference.Growth
import JsonShape.Proofs.Selection.Reach
import JsonShape.Proofs.Shape

/-!
# How deep the work on documents goes

The depth of the documents bounds how deep the merge goes and how deep the inferred type
nests, and with it the levels that writing the type takes.  A selection goes no deeper
than the type, until it comes to a field whose type is forced: what is selected within a
forced type is as deep as that type, which no document bounds.
-/

set_option autoImplicit false

namespace JsonShape

namespace Go

theorem fieldsTextDepth_le_iff {fields : List (String × Field Node)} {room : Nat} :
    fieldsTextDepth fields ≤ room ↔ ∀ entry ∈ fields, textDepth entry.2.type ≤ room := by
  induction fields with
  | nil => simp [fieldsTextDepth]
  | cons entry rest ih => rw [fieldsTextDepth, Nat.max_le, ih, List.forall_mem_cons]

theorem textDepth_le (node : Node) : textDepth node ≤ 4 * node.depth := by
  refine Node.le_mul_depth ?_ ?_ ?_ node
  · intro element
    exact Nat.add_le_add_left (by decide) _
  · intro fields room hfields
    exact Nat.add_le_add_right (fieldsTextDepth_le_iff.mpr hfields) 4
  · intro node hslice hstruct
    cases node <;> simp_all [textDepth]

end Go

open Unify

variable {nodes : List Node} {type : Node} {depth : Nat}

/-- What a depth bounds of the work on a type: its nesting, the levels of its description
and of its text, and those of a selection that comes to no forced type. -/
structure Node.StaysWithin [Room] (type : Node) (depth : Nat) : Prop where
  nesting : type.depth ≤ depth
  description : type.describedDepth ≤ 3 * depth
  text : Go.textDepth type ≤ 4 * depth
  selection : ∀ room spec, 3 * depth ≤ room → Selection.apply room type spec = .error .tooDeep →
    ∃ changes, Selection.Reaches type spec changes ∧
      Selection.given? "forceType" changes ≠ none

theorem Node.staysWithin [Room] (h : type.depth ≤ depth) : type.StaysWithin depth where
  nesting := h
  description := Nat.le_trans type.describedDepth_le (Nat.mul_le_mul_left 3 h)
  text := Nat.le_trans (Go.textDepth_le type) (Nat.mul_le_mul_left 4 h)
  selection room spec hroom herror := by
    refine (Selection.forces_of_apply_eq_tooDeep herror).resolve_left (Nat.not_lt.mpr ?_)
    exact Nat.le_trans (Nat.mul_le_mul_left 3 h) hroom

/-- Raw documents are unified like the alternatives of one place. -/
theorem exists_unify [Room] (hne : nodes ≠ [])
    (hnodes : ∀ node ∈ nodes, node.isRaw = true ∧ node.isRawContainer = true) :
    ∃ type, type.depth ≤ Node.allDepth nodes ∧ type.size ≤ 1 + Node.allSize nodes ∧
      (unify nodes = .ok type ∨
        Room.unification < Node.allDepth nodes ∧ unify nodes = .error .tooDeep) := by
  have hraw : (Node.union nodes).isRaw = true := by
    rw [Node.isRaw, Node.allRaw_iff]
    exact fun node hnode => (hnodes node hnode).1
  have hunify : unify nodes = unifyNode (.union nodes) := by
    have hscalar := firstScalar?_eq_none_iff.mpr fun node hnode => (hnodes node hnode).2
    rw [unify, if_neg (by simpa using hne), hscalar]
  obtain ⟨type, hdepth, hsize, hmerge⟩ := exists_merge_alternatives hraw
  rw [Node.depth] at hdepth
  rw [Node.size, Nat.add_comm] at hsize
  refine ⟨type, hdepth, hsize, ?_⟩
  rw [hunify]
  exact hmerge Room.unification

/-- The type of documents stays within their depth. -/
theorem staysWithin_of_inferAll [Room] {documents : List Json}
    (hdepth : ∀ document ∈ documents, document.depth ≤ depth)
    (h : inferAll documents = .ok type) : type.StaysWithin depth := by
  apply Node.staysWithin
  obtain ⟨-, hdocuments, hunify⟩ := inferAll_eq_ok_iff.mp h
  obtain ⟨merged, hmerged, -, hmerge⟩ :=
    exists_merge_alternatives (Inference.isRaw_union_map_raw documents)
  rcases hmerge Room.unification with hok | ⟨-, herror⟩
  · cases hunify.symm.trans hok
    exact Nat.le_trans hmerged (depth_union_map_raw_le hdepth)
  · cases hunify.symm.trans herror

/-! ## Forced types -/

namespace Selection

/-- The description of a list of records with one field. -/
def recordsDescription : Json :=
  .obj [("type", .str "slice"),
    ("of", .obj [("fields", .obj [("c", .obj [("of", .obj [("type", .str "any")])])])])]

def recordsType : Node := .slice (.struct [("c", ⟨.any, false⟩)])

/-- Forces a list of records on the field of each record, and in the last of them selects a
field that is not there. -/
def recordsEntries : Nat → List (String × Json)
  | 0 => [("d", .bool true)]
  | levels + 1 =>
    [("c", .obj [("forceType", recordsDescription), ("type", .str "slice"),
      ("of", .obj (recordsEntries levels))])]

def recordsSelection (levels : Nat) : List (String × Json) :=
  [("of", .obj (recordsEntries levels))]

/-- The changes of the field of a record. -/
def recordsChanges (levels : Nat) : List (String × Spec) :=
  Spec.ofMembers [("forceType", recordsDescription), ("type", .str "slice"),
    ("of", .obj (recordsEntries levels))]

/-- Reading the description takes two levels. -/
theorem forcedType_recordsDescription (room : Nat) :
    forcedType room (Spec.ofJson recordsDescription) =
      if room < 2 then .error (.description .tooDeep) else .ok recordsType := by
  rcases room with _ | _ | _ | room
  · rfl
  · rfl
  · rfl
  · rw [if_neg (by omega)]
    rfl

theorem typeBefore_recordsChanges (room levels : Nat) (field : Field Node) :
    typeBefore room field (recordsChanges levels) =
      if room < 2 then .error .tooDeep else .ok recordsType := by
  have hforced : given? "forceType" (recordsChanges levels) =
      some (Spec.ofJson recordsDescription) := rfl
  rw [typeBefore, hforced]
  simp only [forcedType_recordsDescription]
  split <;> rfl

/-- Within the list one level is taken for the list itself. -/
theorem selectWithin_recordsChanges (room levels : Nat) :
    selectWithin (apply (room + 1)) (recordsChanges levels) recordsType =
      (apply room (.struct [("c", ⟨.any, false⟩)])
        (Spec.ofJson (.obj (recordsSelection levels)))).map .slice := rfl

theorem resolve_recordsSelection (levels : Nat) (field : Field Node) :
    resolve (.struct [("c", field)]) (Spec.ofJson (.obj (recordsSelection levels))) =
      .ok (Spec.ofMembers (recordsEntries levels), .struct [("c", field)]) := rfl

/-- A record takes three levels around the changes of its field. -/
theorem apply_record (room levels : Nat) (field : Field Node) :
    apply (room + 3) (.struct [("c", field)])
        (Spec.ofJson (.obj (recordsSelection (levels + 1)))) =
      (overrideField room (apply room) field (recordsChanges levels)).map fun changed =>
        .struct [("c", changed)] := by
  have hknown : unknownField? (Spec.ofMembers (recordsEntries (levels + 1))) [("c", field)] =
      none := rfl
  have hfield : selectField room (apply room) (Spec.ofMembers (recordsEntries (levels + 1)))
      ("c", field) = (overrideField room (apply room) field (recordsChanges levels)).map
        fun changed => some ("c", changed) :=
    selectField_obj rfl (List.cons_ne_nil _ _)
  rw [apply.eq_def, resolve_recordsSelection]
  simp only [selectFields, hknown, List.mapM_cons, List.mapM_nil, hfield]
  cases overrideField room (apply room) field (recordsChanges levels) <;> rfl

/-- Every list of records takes four levels, and the selection has as many as it wants;
without room for all of them the unknown field is not found out. -/
theorem apply_recordsSelection (room levels : Nat) (field : Field Node) :
    apply room (.struct [("c", field)]) (Spec.ofJson (.obj (recordsSelection levels))) =
      if room < 4 * levels + 3 then .error .tooDeep else .error (.unknownField "d") := by
  induction levels generalizing room field with
  | zero =>
      rcases Nat.lt_or_ge room 3 with hless | henough
      · rw [apply_of_lt (resolve_recordsSelection 0 field) hless, if_pos (by omega)]
      · obtain ⟨inner, rfl⟩ := Nat.exists_eq_add_of_le' henough
        rw [if_neg (by omega)]
        rfl
  | succ levels ih =>
      rcases Nat.lt_or_ge room 3 with hless | henough
      · rw [apply_of_lt (resolve_recordsSelection (levels + 1) field) hless, if_pos (by omega)]
      · obtain ⟨room, rfl⟩ := Nat.exists_eq_add_of_le' henough
        rw [apply_record, overrideField_eq, typeBefore_recordsChanges]
        rcases Nat.lt_or_ge room 2 with hless | henough
        · rw [if_pos hless, if_pos (by omega)]
          rfl
        · obtain ⟨inner, rfl⟩ := Nat.exists_eq_add_of_le' henough
          have hwithin := selectWithin_recordsChanges (inner + 1) levels
          rw [ih] at hwithin
          rw [if_neg (Nat.not_lt.mpr henough)]
          simp only [bind, Except.bind, hwithin]
          by_cases hroom : inner + 1 < 4 * levels + 3
          · rw [if_pos hroom, if_pos (by omega)]
            rfl
          · rw [if_neg hroom, if_neg (by omega)]
            rfl

end Selection

/-- An object with one number. -/
def countDocument : Json := .obj [("c", .int 1)]

def countType : Node := .struct [("c", ⟨.int, false⟩)]

theorem inferAll_countDocument : inferAll [countDocument] = .ok countType := rfl

theorem prune_countType [Room] {levels : Nat} (h : Room.selection < 4 * levels + 3) :
    countType.prune (Spec.ofJson (.obj (Selection.recordsSelection levels))) =
      .error .tooDeep := by
  rw [Node.prune, countType, Selection.apply_recordsSelection, if_pos h]

/-! ## Bounds for all work -/

/-- Merging a raw tree ends, with as many levels as the tree nests, in a type that is no
deeper and no larger, and so does unifying documents.  Hence the depth of the documents
bounds the levels of all work on their type: it is described and rendered if its limits
leave room for three and four levels for each of the documents, and a selection that
needs more than three comes to a forced type. -/
theorem unification_never_grows [Room] :
    (∀ node : Node, node.isRaw = true →
      ∃ type, type.depth ≤ node.depth ∧ type.size ≤ node.size ∧
        ∀ room, merge room node.alternatives = .ok type ∨
          room < node.depth ∧ merge room node.alternatives = .error .tooDeep) ∧
    (∀ nodes : List Node, nodes ≠ [] →
      (∀ node ∈ nodes, node.isRaw = true ∧ node.isRawContainer = true) →
      ∃ type, type.depth ≤ Node.allDepth nodes ∧ type.size ≤ 1 + Node.allSize nodes ∧
        (unify nodes = .ok type ∨
          Room.unification < Node.allDepth nodes ∧ unify nodes = .error .tooDeep)) ∧
    ∀ documents type depth, (∀ document ∈ documents, document.depth ≤ depth) →
      inferAll documents = .ok type →
      type.StaysWithin depth ∧
      (3 * depth ≤ Room.description → type.describe? = some type.describe) ∧
      (4 * depth ≤ Room.declaration → ∀ config, ∃ text, render config .go type = .ok text) := by
  refine ⟨fun node => exists_merge_alternatives, fun nodes => exists_unify,
    fun documents type depth hdepth h => ?_⟩
  have hwithin := staysWithin_of_inferAll hdepth h
  refine ⟨hwithin, fun hroom => ?_, fun hroom config => ?_⟩
  · rw [Node.describe?, if_pos (Nat.le_trans hwithin.description hroom)]
  · obtain ⟨text, htext⟩ := exists_sourceText config (isFinished_of_inferAll h).1
    rw [render, if_neg (Nat.not_lt.mpr (Nat.le_trans hwithin.text hroom)), htext]
    exact ⟨_, rfl⟩

/-- Two structs, of which the one has an empty slice and the other a null. -/
def pairedStructs : List Node :=
  [.rawStruct [("at", .int), ("sizes", .rawSlice (.union []))],
    .rawStruct [("sizes", .rawSlice (.union [.float, .int])), ("note", .ignore)]]

def pairedType : Node :=
  .struct [("at", ⟨.int, true⟩), ("sizes", ⟨.slice .float, false⟩), ("note", ⟨.any, true⟩)]

theorem unification_never_grows_paired :
    (merge 2 pairedStructs = .ok pairedType ∧ pairedType.depth ≤ 2 ∧ pairedType.size ≤ 11) ∧
    (unify pairedStructs = .ok pairedType ∧ pairedType.depth ≤ 2 ∧ pairedType.size ≤ 1 + 10) ∧
    (sampleType.StaysWithin 2 ∧ sampleType.describe? = some sampleType.describe ∧
      ∃ text, render {} .go sampleType = .ok text) ∧
    ∃ changes, Selection.Reaches countType
        (Spec.ofJson (.obj (Selection.recordsSelection 280))) changes ∧
      Selection.given? "forceType" changes ≠ none := by
  have hsample := unification_never_grows.2.2 sampleDocuments sampleType 2 (by decide)
    inferAll_sampleDocuments
  have hcount := unification_never_grows.2.2 [countDocument] countType 1 (by decide)
    inferAll_countDocument
  refine ⟨?_, ?_, ⟨hsample.1, hsample.2.1 (by decide), hsample.2.2 (by decide) {}⟩,
    hcount.1.selection Room.selection _ (by decide) (prune_countType (by decide))⟩
  · obtain ⟨type, hdepth, hsize, hmerge⟩ :=
      unification_never_grows.1 (.union pairedStructs) (by decide)
    have htype : merge 2 pairedStructs = .ok type :=
      (hmerge 2).resolve_right fun hdeep => absurd hdeep.1 (by decide)
    cases htype
    exact ⟨rfl, hdepth, hsize⟩
  · obtain ⟨type, hdepth, hsize, hunify⟩ :=
      unification_never_grows.2.1 pairedStructs (by decide) (by decide)
    have htype : unify pairedStructs = .ok type :=
      hunify.resolve_right fun hdeep => absurd hdeep.1 (by decide)
    cases htype
    exact ⟨rfl, hdepth, hsize⟩

/-- No depth of the documents bounds the levels of a selection from their type: a flat object
is enough for selections that force types to need any room, and more than there is. -/
theorem selection_exceeds_documents :
    (¬∃ bound : Nat → Nat, ∀ documents type spec depth,
      (∀ document ∈ documents, document.depth ≤ depth) → inferAll documents = .ok type →
        Selection.apply (bound depth) type spec ≠ .error .tooDeep) ∧
    infer { filter := some (Selection.recordsSelection 280) } [countDocument] =
      .error (.selection .tooDeep) := by
  constructor
  · rintro ⟨bound, hbound⟩
    apply hbound [countDocument] countType
      (Spec.ofJson (.obj (Selection.recordsSelection (bound 1)))) 1 (by decide)
      inferAll_countDocument
    rw [countType, Selection.apply_recordsSelection, if_pos (by omega)]
  · have hprune : countType.prune (Spec.ofJson (.obj (Selection.recordsSelection 280))) =
        .error .tooDeep := prune_countType (by decide)
    rw [infer, inferAll_countDocument]
    simp only [bind, Except.bind, applyFilter, hprune]
    rfl

end JsonShape

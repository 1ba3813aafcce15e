import JsonShape.Proofs.Inference.Alternatives
import JsonShape.Proofs.Traversal

/-!
# Merging raw trees

The containers of one place are merged through the pool of all their items, or
field by field through the pool of all the values that they supply.  On raw
trees merging fails for want of room only.
-/

set_option autoImplicit false

namespace JsonShape.Unify

/-- The element of a raw slice. -/
def element? : Node → Option Node
  | .rawSlice element => some element
  | _ => none

/-- The fields of a raw struct. -/
def fields? : Node → Option (List (String × Node))
  | .rawStruct fields => some fields
  | _ => none

/-- The alternatives for the items of all the slices among some nodes. -/
def itemPool (nodes : List Node) : List Node := Node.flatten (nodes.filterMap element?)

/-- The fields of all the structs among some nodes. -/
def structPool (nodes : List Node) : List (List (String × Node)) := nodes.filterMap fields?

theorem element?_eq_some_iff {node element : Node} :
    element? node = some element ↔ node = .rawSlice element := by
  cases node <;> simp [element?]

theorem fields?_eq_some_iff {node : Node} {fields : List (String × Node)} :
    fields? node = some fields ↔ node = .rawStruct fields := by
  cases node <;> simp [fields?]

theorem mem_itemPool_iff {nodes : List Node} {item : Node} :
    item ∈ itemPool nodes ↔ ∃ element, .rawSlice element ∈ nodes ∧ item ∈ element.alternatives := by
  simp only [itemPool, Node.mem_flatten_iff, List.mem_filterMap, element?_eq_some_iff]
  simp

theorem mem_structPool_iff {nodes : List Node} {fields : List (String × Node)} :
    fields ∈ structPool nodes ↔ .rawStruct fields ∈ nodes := by
  simp [structPool, fields?_eq_some_iff]

theorem mem_kindsOf_iff {nodes : List Node} {kind : Kind} :
    kind ∈ kindsOf nodes ↔ kind ≠ .ignore ∧ ∃ node ∈ nodes, node.kind = kind := by
  simp [kindsOf, and_comm]

/-! ## Fields of a pool -/

theorem mem_fieldNames_iff {structs : List (List (String × Node))} {name : String} :
    name ∈ fieldNames structs ↔ ∃ fields ∈ structs, (fields.lookup name).isSome := by
  rw [fieldNames, List.mem_eraseDups, List.mem_flatMap]
  simp only [mem_names_iff]

theorem nodup_fieldNames (structs : List (List (String × Node))) : (fieldNames structs).Nodup :=
  nodup_eraseDups _

theorem mem_presentIn_iff {structs : List (List (String × Node))} {name : String} {value : Node} :
    value ∈ presentIn name structs ↔
      value.isIgnore = false ∧ ∃ fields ∈ structs, ∃ node, fields.lookup name = some node ∧
        value ∈ node.alternatives := by
  simp only [presentIn, valuesOf, List.mem_filter, Node.mem_flatten_iff, List.mem_filterMap,
    Bool.not_eq_eq_eq_not, Bool.not_true]
  grind

/-- A field is optional when a struct lacks it or a null was supplied for it. -/
theorem isOptional_iff {structs : List (List (String × Node))} {name : String} :
    isOptional name structs = true ↔
      (∃ fields ∈ structs, fields.lookup name = none) ∨
        ∃ fields ∈ structs, ∃ node, fields.lookup name = some node ∧
          ∃ value ∈ node.alternatives, value.isIgnore := by
  have hlacks : (valuesOf name structs).length < structs.length ↔
      ∃ fields ∈ structs, fields.lookup name = none := by
    rw [valuesOf, Nat.lt_iff_le_and_ne, Ne, List.filterMap_length_eq_length]
    simp only [List.length_filterMap_le, true_and, Classical.not_forall, Bool.not_eq_true,
      Option.isSome_eq_false_iff, Option.isNone_iff_eq_none, exists_prop]
  have hnull : (Node.flatten (valuesOf name structs)).any Node.isIgnore = true ↔
      ∃ fields ∈ structs, ∃ node, fields.lookup name = some node ∧
        ∃ value ∈ node.alternatives, value.isIgnore := by
    simp only [List.any_eq_true, valuesOf, Node.mem_flatten_iff, List.mem_filterMap]
    grind
  rw [isOptional, Bool.or_eq_true, decide_eq_true_iff, hlacks, hnull]

/-! ## One step of merging -/

variable {nodes : List Node}

theorem merge_leaf {node : Node} (room : Nat) (houtcome : outcome (kindsOf nodes) = .leaf node) :
    merge room nodes = .ok node := by
  rw [merge.eq_def, houtcome]

/-- Without room nothing is merged but what has no parts. -/
theorem merge_zero_cases (nodes : List Node) :
    (∃ node, outcome (kindsOf nodes) = .leaf node ∧ merge 0 nodes = .ok node) ∨
      merge 0 nodes = .error .tooDeep := by
  rw [merge.eq_def]
  cases outcome (kindsOf nodes) with
  | leaf node => exact .inl ⟨node, rfl, rfl⟩
  | slices => exact .inr rfl
  | structs => exact .inr rfl

theorem outcome_of_merge_zero {type : Node} (h : merge 0 nodes = .ok type) :
    outcome (kindsOf nodes) = .leaf type := by
  rcases merge_zero_cases nodes with ⟨node, houtcome, hmerge⟩ | hmerge
  · rw [houtcome, Except.ok.inj (hmerge.symm.trans h)]
  · exact absurd (hmerge.symm.trans h) (by simp)

/-- A node that counts has the one kind of all that count. -/
theorem kind_eq_of_outcome {kind : Kind} (hcontainer : kind = .slice ∨ kind = .struct)
    (houtcome : outcome (kindsOf nodes) = uniform kind) {node : Node} (hnode : node ∈ nodes)
    (hignore : node.kind ≠ .ignore) : node.kind = kind :=
  eq_of_outcome_eq_uniform hcontainer houtcome node.kind
    (mem_kindsOf_iff.mpr ⟨hignore, node, hnode, rfl⟩)

/-- Containers are merged only where one was found. -/
theorem exists_kind_eq_of_outcome {kind : Kind} (hcontainer : kind = .slice ∨ kind = .struct)
    (houtcome : outcome (kindsOf nodes) = uniform kind) : ∃ node ∈ nodes, node.kind = kind := by
  have hne : kindsOf nodes ≠ [] := by
    intro hnil
    rw [hnil] at houtcome
    rcases hcontainer with rfl | rfl <;> simp [outcome, uniform] at houtcome
  obtain ⟨found, hfound⟩ := List.exists_mem_of_ne_nil _ hne
  obtain ⟨-, node, hnode, hkind⟩ := mem_kindsOf_iff.mp hfound
  exact ⟨node, hnode, hkind.trans (eq_of_outcome_eq_uniform hcontainer houtcome found hfound)⟩

theorem merge_slices_of_elements (helements : nodes.mapM elementOf? = .ok (nodes.map element?))
    (houtcome : outcome (kindsOf nodes) = .slices) (room : Nat) :
    merge (room + 1) nodes =
      if (itemPool nodes).any Node.isIgnore then .ok (.slice .any)
      else (merge room (itemPool nodes)).map .slice := by
  rw [merge.eq_def, houtcome]
  simp only [helements, bind, Except.bind, List.filterMap_map]
  rfl

/-- Slices are merged through the pool of their items. -/
theorem merge_slices (hraw : ∀ node ∈ nodes, node.isRaw)
    (houtcome : outcome (kindsOf nodes) = .slices) (room : Nat) :
    merge (room + 1) nodes =
      if (itemPool nodes).any Node.isIgnore then .ok (.slice .any)
      else (merge room (itemPool nodes)).map .slice := by
  apply merge_slices_of_elements ?_ houtcome
  refine mapM_eq_ok_map fun node hnode => ?_
  have hkind := kind_eq_of_outcome (.inl rfl) houtcome hnode
  have hraw := hraw node hnode
  cases node <;> simp_all [Node.kind, Node.isRaw, elementOf?, element?]

/-- A field of merged structs. -/
def mergeField (room : Nat) (structs : List (List (String × Node))) (name : String) :
    Except UnifyError (String × Field Node) :=
  (merge room (presentIn name structs)).map fun type => (name, ⟨type, isOptional name structs⟩)

theorem merge_structs_of_fields (hfields : nodes.mapM fieldsOf? = .ok (nodes.map fields?))
    (houtcome : outcome (kindsOf nodes) = .structs) (room : Nat) :
    merge (room + 1) nodes =
      ((fieldNames (structPool nodes)).mapM (mergeField room (structPool nodes))).map .struct := by
  rw [merge.eq_def, houtcome]
  simp only [hfields, bind, Except.bind, List.filterMap_map]
  rfl

/-- Structs are merged field by field. -/
theorem merge_structs (hraw : ∀ node ∈ nodes, node.isRaw)
    (houtcome : outcome (kindsOf nodes) = .structs) (room : Nat) :
    merge (room + 1) nodes =
      ((fieldNames (structPool nodes)).mapM (mergeField room (structPool nodes))).map .struct := by
  apply merge_structs_of_fields ?_ houtcome
  refine mapM_eq_ok_map fun node hnode => ?_
  have hkind := kind_eq_of_outcome (.inr rfl) houtcome hnode
  have hraw := hraw node hnode
  cases node <;> simp_all [Node.kind, Node.isRaw, fieldsOf?, fields?]

/-- What merged slices are: a null among the items hides what the others are. -/
theorem merge_slices_eq_ok_iff (hraw : ∀ node ∈ nodes, node.isRaw)
    (houtcome : outcome (kindsOf nodes) = .slices) {room : Nat} {result : Node} :
    merge (room + 1) nodes = .ok result ↔
      ((∃ item ∈ itemPool nodes, item.isIgnore) ∧ result = .slice .any) ∨
        ((∀ item ∈ itemPool nodes, item.isIgnore = false) ∧
          ∃ element, merge room (itemPool nodes) = .ok element ∧ result = .slice element) := by
  rw [merge_slices hraw houtcome]
  cases hnull : (itemPool nodes).any Node.isIgnore with
  | true =>
      rw [List.any_eq_true] at hnull
      rw [if_pos rfl, Except.ok.injEq, eq_comm]
      grind
  | false =>
      rw [List.any_eq_false] at hnull
      rw [if_neg Bool.false_ne_true, map_eq_ok_iff]
      grind

/-- What merged structs are, field by field. -/
theorem merge_structs_eq_ok_iff (hraw : ∀ node ∈ nodes, node.isRaw)
    (houtcome : outcome (kindsOf nodes) = .structs) {room : Nat} {result : Node} :
    merge (room + 1) nodes = .ok result ↔
      ∃ fields, result = .struct fields ∧
        fields.map Prod.fst = fieldNames (structPool nodes) ∧
        ∀ name field, (name, field) ∈ fields →
          merge room (presentIn name (structPool nodes)) = .ok field.type ∧
            field.optional = isOptional name (structPool nodes) := by
  have hentry : ∀ name entry, mergeField room (structPool nodes) name = .ok entry ↔
      entry.1 = name ∧ merge room (presentIn name (structPool nodes)) = .ok entry.2.type ∧
        entry.2.optional = isOptional name (structPool nodes) := by
    rintro name ⟨known, type, optional⟩
    simp only [mergeField, map_eq_ok_iff, Prod.mk.injEq, Field.mk.injEq]
    grind
  rw [merge_structs hraw houtcome, map_eq_ok_iff]
  simp only [mapM_eq_ok_entries_iff fun name entry h => ((hentry name entry).mp h).1, hentry,
    true_and, Prod.forall]
  grind

/-! ## Merging raw trees -/

theorem isRaw_of_mem_itemPool (hraw : ∀ node ∈ nodes, node.isRaw) {item : Node}
    (hitem : item ∈ itemPool nodes) : item.isRaw := by
  obtain ⟨element, helement, hitem⟩ := mem_itemPool_iff.mp hitem
  have hslice := hraw _ helement
  rw [Node.isRaw] at hslice
  exact Node.isRaw_of_mem_alternatives hslice hitem

theorem isRaw_of_mem_presentIn (hraw : ∀ node ∈ nodes, node.isRaw) {name : String} {value : Node}
    (hvalue : value ∈ presentIn name (structPool nodes)) : value.isRaw := by
  obtain ⟨-, fields, hfields, node, hnode, hvalue⟩ := mem_presentIn_iff.mp hvalue
  have hstruct := hraw _ (mem_structPool_iff.mp hfields)
  rw [Node.isRaw, Node.entriesRaw_iff] at hstruct
  exact Node.isRaw_of_mem_alternatives (hstruct _ (mem_of_lookup_eq_some hnode)) hvalue

/-- On raw trees merging fails for want of room only. -/
theorem merge_error_eq_tooDeep (hraw : ∀ node ∈ nodes, node.isRaw) {room : Nat}
    {error : UnifyError} (h : merge room nodes = .error error) : error = .tooDeep := by
  induction room generalizing nodes with
  | zero =>
      rcases merge_zero_cases nodes with ⟨node, -, hmerge⟩ | hmerge
      · exact absurd (hmerge.symm.trans h) (by simp)
      · exact Except.error.inj (h.symm.trans hmerge)
  | succ room ih =>
      cases houtcome : outcome (kindsOf nodes) with
      | leaf node => simp [merge_leaf _ houtcome] at h
      | slices =>
          rw [merge_slices hraw houtcome] at h
          split at h
          · simp at h
          · exact ih (fun item hitem => isRaw_of_mem_itemPool hraw hitem) (map_eq_error_iff.mp h)
      | structs =>
          rw [merge_structs hraw houtcome, map_eq_error_iff] at h
          obtain ⟨name, -, hfield⟩ := exists_of_mapM_eq_error h
          exact ih (fun value hvalue => isRaw_of_mem_presentIn hraw hvalue)
            (map_eq_error_iff.mp hfield)

end JsonShape.Unify

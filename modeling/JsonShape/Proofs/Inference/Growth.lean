import JsonShape.Proofs.Inference.Mixed
import Mathlib.Algebra.Order.BigOperators.Group.List
import Mathlib.Algebra.Order.Ring.Nat

/-!
# Merging never grows a tree

The size of a tree counts all its nodes, unions and markers for nulls among them.  Opened
unions, the pool of the items and the values regrouped by field hold no node more than
what they are made of, and where nothing is left, the emptied node makes up for the `any`
that takes its place.  How deep the merge goes is the depth of what is merged: with that
much room it gives the tree that it gives with any more.
-/

set_option autoImplicit false

namespace JsonShape

namespace Node

mutual

/-- The number of nodes of a tree. -/
def size : Node → Nat
  | slice element | rawSlice element => element.size + 1
  | struct fields => fieldsSize fields + 1
  | rawStruct fields => entriesSize fields + 1
  | union nodes => allSize nodes + 1
  | primitive _ | any | ignore => 1

def fieldsSize : List (String × Field Node) → Nat
  | [] => 0
  | (_, ⟨type, _⟩) :: rest => type.size + fieldsSize rest

def entriesSize : List (String × Node) → Nat
  | [] => 0
  | (_, node) :: rest => node.size + entriesSize rest

def allSize : List Node → Nat
  | [] => 0
  | node :: rest => node.size + allSize rest

end

theorem size_pos (node : Node) : 0 < node.size := by
  cases node <;> simp [size]

theorem fieldsSize_eq_sum (fields : List (String × Field Node)) :
    fieldsSize fields = (fields.map fun entry => entry.2.type.size).sum := by
  induction fields with
  | nil => simp [fieldsSize]
  | cons entry rest ih => rw [fieldsSize, ih, List.map_cons, List.sum_cons]

theorem allSize_append (left right : List Node) :
    allSize (left ++ right) = allSize left + allSize right := by
  induction left with
  | nil => simp [allSize]
  | cons node rest ih => rw [List.cons_append, allSize, allSize, ih, Nat.add_assoc]

theorem allSize_filter_le (keep : Node → Bool) (nodes : List Node) :
    allSize (nodes.filter keep) ≤ allSize nodes := by
  induction nodes with
  | nil => exact Nat.le_refl 0
  | cons node rest ih =>
      rw [List.filter_cons, allSize]
      split
      · exact Nat.add_le_add_left ih _
      · exact Nat.le_add_left_of_le ih

theorem allSize_pos {nodes : List Node} (hne : nodes ≠ []) : 0 < allSize nodes := by
  cases nodes with
  | nil => exact absurd rfl hne
  | cons node rest => exact Nat.add_pos_left node.size_pos _

mutual

theorem allSize_alternatives_le (node : Node) : allSize node.alternatives ≤ node.size := by
  match node with
  | union nodes =>
      rw [alternatives, size]
      exact Nat.le_succ_of_le (allSize_flatten_le nodes)
  | primitive _ | any | ignore | slice _ | struct _ | rawSlice _ | rawStruct _ =>
      simp [alternatives, allSize]

/-- Opening up unions makes no node more. -/
theorem allSize_flatten_le (nodes : List Node) : allSize (flatten nodes) ≤ allSize nodes := by
  match nodes with
  | [] => simp [flatten]
  | node :: rest =>
      rw [flatten, allSize_append, allSize]
      exact Nat.add_le_add (allSize_alternatives_le node) (allSize_flatten_le rest)

end

theorem size_of_leaf {node : Node} (hfinished : node.IsFinished) (hdepth : node.depth = 0) :
    node.size = 1 := by
  obtain ⟨hform, -⟩ := isFinished_iff.mp hfinished
  cases node <;> simp [isFinishedForm, depth, size] at hform hdepth ⊢

end Node

namespace Unify

open Node

variable {room : Nat} {nodes : List Node} {type : Node}

/-! ## Sizes of pools -/

/-- The parts of some of the nodes are smaller than all the nodes, each by one node. -/
theorem sum_filterMap_le {α : Type} (part? : Node → Option α) (weight : α → Nat)
    (h : ∀ node part, part? node = some part → node.size = weight part + 1) (nodes : List Node) :
    ((nodes.filterMap part?).map weight).sum + (nodes.filterMap part?).length ≤ allSize nodes := by
  induction nodes with
  | nil => exact Nat.le_refl 0
  | cons node rest ih =>
      rw [allSize]
      cases hpart : part? node with
      | none =>
          rw [List.filterMap_cons_none hpart]
          exact Nat.le_add_left_of_le ih
      | some part =>
          rw [List.filterMap_cons_some hpart, List.map_cons, List.sum_cons, List.length_cons,
            h node part hpart]
          omega

theorem sum_map_size (nodes : List Node) : (nodes.map size).sum = allSize nodes := by
  induction nodes with
  | nil => simp [allSize]
  | cons node rest ih => rw [List.map_cons, List.sum_cons, ih, allSize]

/-- The items of the slices are fewer nodes than the slices, also where there are none and
one node takes their place. -/
theorem allSize_itemPool_lt (hslice : ∃ element, .rawSlice element ∈ nodes) :
    max 1 (allSize (itemPool nodes)) < allSize nodes := by
  have hne : nodes.filterMap element? ≠ [] := by
    obtain ⟨element, helement⟩ := hslice
    exact List.ne_nil_of_mem (List.mem_filterMap.mpr ⟨_, helement, rfl⟩)
  have hparts := sum_filterMap_le element? size
    (fun node element h => by rw [element?_eq_some_iff.mp h, size]) nodes
  rw [sum_map_size] at hparts
  have hflatten : allSize (itemPool nodes) ≤ allSize (nodes.filterMap element?) :=
    allSize_flatten_le _
  have hpos := allSize_pos hne
  have hlength := List.length_pos_of_ne_nil hne
  omega

/-- What is found in one struct under different names are different nodes of it. -/
theorem sum_lookup_le {names : List String} (hnames : names.Nodup) (fields : List (String × Node)) :
    (names.map fun name => allSize (fields.lookup name).toList).sum ≤ entriesSize fields := by
  induction fields generalizing names with
  | nil => simp [allSize]
  | cons entry rest ih =>
      obtain ⟨key, node⟩ := entry
      have hrest {kept : List String} (hkept : ∀ name ∈ kept, name ≠ key) :
          (kept.map fun name => allSize (((key, node) :: rest).lookup name).toList) =
            kept.map fun name => allSize (rest.lookup name).toList :=
        List.map_congr_left fun name hname => by rw [lookup_cons_ite, if_neg (hkept name hname)]
      rw [entriesSize]
      by_cases hkey : key ∈ names
      · rw [← List.sum_map_erase _ hkey, lookup_cons_ite, if_pos rfl,
          hrest fun name hname => (hnames.mem_erase_iff.mp hname).1]
        exact Nat.add_le_add (by simp [allSize]) (ih (hnames.erase key))
      · rw [hrest fun name hname => ne_of_mem_of_not_mem hname hkey]
        exact Nat.le_add_left_of_le (ih hnames)

/-- Regrouping the values of the structs by field makes no node more. -/
theorem sum_valuesOf_le {names : List String} (hnames : names.Nodup)
    (structs : List (List (String × Node))) :
    (names.map fun name => allSize (valuesOf name structs)).sum ≤
      (structs.map entriesSize).sum := by
  induction structs with
  | nil => simp [valuesOf, allSize]
  | cons fields rest ih =>
      have hvalues : ∀ name, allSize (valuesOf name (fields :: rest)) =
          allSize (fields.lookup name).toList + allSize (valuesOf name rest) := by
        intro name
        rw [valuesOf, valuesOf, List.filterMap_eq_flatMap_toList, List.flatMap_cons,
          allSize_append, List.filterMap_eq_flatMap_toList]
      simp only [hvalues, List.sum_map_add, List.map_cons, List.sum_cons]
      exact Nat.add_le_add (sum_lookup_le hnames fields) ih

theorem allSize_presentIn_le {structs : List (List (String × Node))} {name : String}
    (hname : name ∈ fieldNames structs) :
    max 1 (allSize (presentIn name structs)) ≤ allSize (valuesOf name structs) := by
  obtain ⟨fields, hfields, hlookup⟩ := mem_fieldNames_iff.mp hname
  obtain ⟨node, hnode⟩ := Option.isSome_iff_exists.mp hlookup
  have hne : valuesOf name structs ≠ [] :=
    List.ne_nil_of_mem (List.mem_filterMap.mpr ⟨fields, hfields, hnode⟩)
  refine Nat.max_le.mpr ⟨allSize_pos hne, ?_⟩
  exact Nat.le_trans (allSize_filter_le _ _) (allSize_flatten_le _)

/-- The fields of the structs are fewer nodes than the structs, also where one node takes
the place of a field without values. -/
theorem sum_presentIn_lt (hstruct : ∃ fields, .rawStruct fields ∈ nodes) :
    ((fieldNames (structPool nodes)).map fun name =>
      max 1 (allSize (presentIn name (structPool nodes)))).sum < allSize nodes := by
  have hne : structPool nodes ≠ [] := by
    obtain ⟨fields, hfields⟩ := hstruct
    exact List.ne_nil_of_mem (mem_structPool_iff.mpr hfields)
  have hparts := sum_filterMap_le fields? entriesSize
    (fun node fields h => by rw [fields?_eq_some_iff.mp h, size]) nodes
  have hlength := List.length_pos_of_ne_nil hne
  calc
    ((fieldNames (structPool nodes)).map fun name =>
        max 1 (allSize (presentIn name (structPool nodes)))).sum ≤
      ((fieldNames (structPool nodes)).map fun name =>
        allSize (valuesOf name (structPool nodes))).sum :=
      List.sum_le_sum fun name hname => allSize_presentIn_le hname
    _ ≤ ((structPool nodes).map entriesSize).sum :=
      sum_valuesOf_le (nodup_fieldNames _) _
    _ < allSize nodes := by
      rw [structPool] at hlength ⊢
      omega

/-! ## Merging -/

theorem exists_rawSlice (hraw : ∀ node ∈ nodes, node.isRaw)
    (houtcome : outcome (kindsOf nodes) = .slices) : ∃ element, .rawSlice element ∈ nodes := by
  obtain ⟨node, hnode, hkind⟩ := exists_kind_eq_of_outcome (.inl rfl) houtcome
  have hnodeRaw := hraw node hnode
  cases node <;> simp only [kind, reduceCtorEq, isRaw, Bool.false_eq_true] at hkind hnodeRaw
  exact ⟨_, hnode⟩

theorem exists_rawStruct (hraw : ∀ node ∈ nodes, node.isRaw)
    (houtcome : outcome (kindsOf nodes) = .structs) : ∃ fields, .rawStruct fields ∈ nodes := by
  obtain ⟨node, hnode, hkind⟩ := exists_kind_eq_of_outcome (.inr rfl) houtcome
  have hnodeRaw := hraw node hnode
  cases node <;> simp only [kind, reduceCtorEq, isRaw, Bool.false_eq_true] at hkind hnodeRaw
  exact ⟨_, hnode⟩

/-- Whatever raw nodes are merged, the result has no more nodes than they have. -/
theorem size_of_merge (hraw : ∀ node ∈ nodes, node.isRaw) (h : merge room nodes = .ok type) :
    type.size ≤ max 1 (allSize nodes) := by
  have hleaf {nodes : List Node} {type : Node} (houtcome : outcome (kindsOf nodes) = .leaf type) :
      type.size ≤ max 1 (allSize nodes) := by
    obtain ⟨hfinished, hdepth⟩ := leaf_of_outcome houtcome
    rw [size_of_leaf hfinished hdepth]
    exact Nat.le_max_left _ _
  induction room generalizing nodes type with
  | zero => exact hleaf (outcome_of_merge_zero h)
  | succ room ih =>
      cases houtcome : outcome (kindsOf nodes) with
      | leaf node =>
          rw [merge_leaf _ houtcome, Except.ok.injEq] at h
          exact hleaf (h ▸ houtcome)
      | slices =>
          have hlt := allSize_itemPool_lt (exists_rawSlice hraw houtcome)
          rw [merge_slices_eq_ok_iff hraw houtcome] at h
          rcases h with ⟨-, rfl⟩ | ⟨-, element, helement, rfl⟩
          · rw [size, size]
            omega
          · have helement := ih (fun item hitem => isRaw_of_mem_itemPool hraw hitem) helement
            rw [size]
            omega
      | structs =>
          have hlt := sum_presentIn_lt (exists_rawStruct hraw houtcome)
          rw [merge_structs_eq_ok_iff hraw houtcome] at h
          obtain ⟨fields, rfl, hnames, hfields⟩ := h
          have htypes : (fields.map fun entry => entry.2.type.size).sum ≤
              (fields.map fun entry =>
                max 1 (allSize (presentIn entry.1 (structPool nodes)))).sum :=
            List.sum_le_sum fun entry hentry =>
              ih (fun value hvalue => isRaw_of_mem_presentIn hraw hvalue)
                (hfields entry.1 entry.2 hentry).1
          rw [← hnames, List.map_map] at hlt
          rw [size, fieldsSize_eq_sum]
          exact Nat.le_trans (Nat.lt_of_le_of_lt htypes hlt) (Nat.le_max_right _ _)

/-- With more room the result is the same. -/
theorem merge_of_le {larger : Nat} (hraw : ∀ node ∈ nodes, node.isRaw) (hle : room ≤ larger)
    (h : merge room nodes = .ok type) : merge larger nodes = .ok type := by
  induction room generalizing larger nodes type with
  | zero => exact merge_leaf larger (outcome_of_merge_zero h)
  | succ room ih =>
      obtain ⟨larger, rfl⟩ := Nat.exists_eq_add_of_le' (Nat.le_trans (Nat.succ_pos room) hle)
      have hle := Nat.le_of_succ_le_succ hle
      cases houtcome : outcome (kindsOf nodes) with
      | leaf node =>
          rw [merge_leaf _ houtcome] at h ⊢
          exact h
      | slices =>
          rw [merge_slices_eq_ok_iff hraw houtcome] at h ⊢
          refine h.imp_right fun ⟨hitems, element, helement, htype⟩ => ?_
          exact ⟨hitems, element,
            ih (fun item hitem => isRaw_of_mem_itemPool hraw hitem) hle helement, htype⟩
      | structs =>
          rw [merge_structs_eq_ok_iff hraw houtcome] at h ⊢
          obtain ⟨fields, rfl, hnames, hfields⟩ := h
          refine ⟨fields, rfl, hnames, fun name field hfield => ?_⟩
          obtain ⟨htype, hoptional⟩ := hfields name field hfield
          exact ⟨ih (fun value hvalue => isRaw_of_mem_presentIn hraw hvalue) hle htype, hoptional⟩

/-- Merging raw nodes gives one result, for which their depth is room enough. -/
theorem exists_merge (hraw : ∀ node ∈ nodes, node.isRaw) :
    ∃ type, type.depth ≤ allDepth nodes ∧ type.size ≤ max 1 (allSize nodes) ∧
      ∀ room, merge room nodes = .ok type ∨
        room < allDepth nodes ∧ merge room nodes = .error .tooDeep := by
  have hresult := mergeResult (allDepth nodes) nodes
  cases hmerge : merge (allDepth nodes) nodes with
  | error error =>
      rw [hmerge] at hresult
      cases hresult with
      | notRaw found expected => cases merge_error_eq_tooDeep hraw hmerge
      | tooDeep hnode hdeep =>
          exact absurd hdeep (Nat.not_lt.mpr (allDepth_le_iff.mp (Nat.le_refl _) _ hnode))
  | ok type =>
      rw [hmerge] at hresult
      cases hresult with
      | type hfinished hdepth =>
          refine ⟨type, hdepth, size_of_merge hraw hmerge, fun room => ?_⟩
          rcases Nat.lt_or_ge room (allDepth nodes) with hless | henough
          · cases hpart : merge room nodes with
            | ok other =>
                have hother := merge_of_le hraw (Nat.le_of_lt hless) hpart
                exact .inl (hother.symm.trans hmerge)
            | error error =>
                rw [merge_error_eq_tooDeep hraw hpart]
                exact .inr ⟨hless, rfl⟩
          · exact .inl (merge_of_le hraw henough hmerge)

/-- Merging the alternatives of a raw tree gives a tree that is no deeper and no larger. -/
theorem exists_merge_alternatives {node : Node} (hraw : node.isRaw) :
    ∃ type, type.depth ≤ node.depth ∧ type.size ≤ node.size ∧
      ∀ room, merge room node.alternatives = .ok type ∨
        room < node.depth ∧ merge room node.alternatives = .error .tooDeep := by
  obtain ⟨type, hdepth, hsize, hmerge⟩ :=
    exists_merge fun alternative halternative => isRaw_of_mem_alternatives hraw halternative
  have halternatives : allDepth node.alternatives ≤ node.depth :=
    allDepth_le_iff.mpr fun alternative => depth_le_of_mem_alternatives
  refine ⟨type, Nat.le_trans hdepth halternatives, ?_, fun room => ?_⟩
  · exact Nat.le_trans hsize (Nat.max_le.mpr ⟨node.size_pos, node.allSize_alternatives_le⟩)
  · exact (hmerge room).imp_right (And.imp_left fun hless => Nat.lt_of_lt_of_le hless halternatives)

end Unify

end JsonShape

import JsonShape.Proofs.Finished
import JsonShape.Proofs.Inference.Merging
import JsonShape.Proofs.Nesting

/-!
# Merging any trees

Raw and finished nodes can be mixed in one tree.  Whatever the mixture, merging ends
in one of three ways: it refuses a finished container where a raw one is merged, it
finds a tree that nests too deeply, or it gives a finished tree, which nests no
deeper than there is room for.
-/

set_option autoImplicit false

namespace JsonShape.Unify

/-- What merging can end in. -/
inductive MergeResult (room : Nat) (nodes : List Node) : Except UnifyError Node → Prop
  | notRaw (found expected : String) : MergeResult room nodes (.error (.notRaw found expected))
  | tooDeep {node : Node} (hnode : node ∈ nodes) (hdeep : room < node.depth) :
      MergeResult room nodes (.error .tooDeep)
  | type {type : Node} (hfinished : type.IsFinished) (hdepth : type.depth ≤ room) :
      MergeResult room nodes (.ok type)

variable {room : Nat} {nodes : List Node}

/-! ## One step of merging -/

theorem leaf_of_outcome {kinds : List Kind} {type : Node} (h : outcome kinds = .leaf type) :
    type.IsFinished ∧ type.depth = 0 := by
  cases mixture kinds with
  | none hnil =>
      rw [hnil, outcome, Outcome.leaf.injEq] at h
      exact h ▸ ⟨Node.isFinished_any, rfl⟩
  | uniform kind hne hkinds =>
      rw [outcome_eq_uniform hne hkinds] at h
      cases kind <;> simp only [uniform, Outcome.leaf.injEq, reduceCtorEq] at h <;>
        rw [← h] <;> exact ⟨by simp, rfl⟩
  | numbers left right hleft hright hne hkinds =>
      rw [outcome_eq_float hleft hright hne hkinds, Outcome.leaf.injEq] at h
      exact h ▸ ⟨Node.isFinished_primitive .float, rfl⟩
  | mixed left right hleft hright hne hnumbers =>
      rw [outcome_eq_any hleft hright hne hnumbers, Outcome.leaf.injEq] at h
      exact h ▸ ⟨Node.isFinished_any, rfl⟩

theorem exists_container_of_outcome {kind : Kind} (hcontainer : kind = .slice ∨ kind = .struct)
    (houtcome : outcome (kindsOf nodes) = uniform kind) : ∃ node ∈ nodes, 0 < node.depth := by
  obtain ⟨node, hnode, hkind⟩ := exists_kind_eq_of_outcome hcontainer houtcome
  refine ⟨node, hnode, ?_⟩
  rcases hcontainer with rfl | rfl <;> cases node <;> simp_all [Node.kind, Node.depth]

/-- The containers of one kind are all raw, or a finished one is refused. -/
theorem mapM_cases {α : Type} {read : Node → Except UnifyError (Option α)}
    {part? : Node → Option α}
    (h : ∀ node, read node = .ok (part? node) ∨
      ∃ found expected, read node = .error (.notRaw found expected)) (nodes : List Node) :
    nodes.mapM read = .ok (nodes.map part?) ∨
      ∃ found expected, nodes.mapM read = .error (.notRaw found expected) := by
  have hsteps : ∀ node ∈ nodes, read node = pure (part? node) ∨
      ∃ error, (∃ found expected, error = .notRaw found expected) ∧ read node = .error error := by
    intro node _
    cases h node with
    | inl hok => exact .inl hok
    | inr herror =>
        obtain ⟨found, expected, herror⟩ := herror
        exact .inr ⟨_, ⟨found, expected, rfl⟩, herror⟩
  cases mapM_eq_or_fails hsteps with
  | inl hok => exact .inl (by rw [hok, List.mapM_pure]; rfl)
  | inr herror =>
      obtain ⟨_, ⟨found, expected, rfl⟩, herror⟩ := herror
      exact .inr ⟨found, expected, herror⟩

theorem elementOf?_cases (node : Node) :
    elementOf? node = .ok (element? node) ∨
      ∃ found expected, elementOf? node = .error (.notRaw found expected) := by
  cases node <;> simp [elementOf?, element?]

theorem fieldsOf?_cases (node : Node) :
    fieldsOf? node = .ok (fields? node) ∨
      ∃ found expected, fieldsOf? node = .error (.notRaw found expected) := by
  cases node <;> simp [fieldsOf?, fields?]

/-! ## Depths of pools -/

theorem depth_of_mem_itemPool {item : Node} (hitem : item ∈ itemPool nodes) :
    ∃ node ∈ nodes, item.depth + 1 ≤ node.depth := by
  obtain ⟨element, helement, hitem⟩ := mem_itemPool_iff.mp hitem
  refine ⟨_, helement, ?_⟩
  rw [Node.depth]
  exact Nat.succ_le_succ (Node.depth_le_of_mem_alternatives hitem)

theorem depth_of_mem_presentIn {name : String} {value : Node}
    (hvalue : value ∈ presentIn name (structPool nodes)) :
    ∃ node ∈ nodes, value.depth + 1 ≤ node.depth := by
  obtain ⟨-, fields, hfields, field, hfield, hvalue⟩ := mem_presentIn_iff.mp hvalue
  refine ⟨_, mem_structPool_iff.mp hfields, ?_⟩
  have hdepth : field.depth ≤ Node.entriesDepth fields :=
    Node.entriesDepth_le_iff.mp (Nat.le_refl _) _ (mem_of_lookup_eq_some hfield)
  rw [Node.depth]
  exact Nat.succ_le_succ (Nat.le_trans (Node.depth_le_of_mem_alternatives hvalue) hdepth)

/-! ## Merging -/

/-- Merging with one level more around what is merged. -/
theorem MergeResult.map_slice {items : List Node} {result : Except UnifyError Node}
    (hitems : ∀ item ∈ items, ∃ node ∈ nodes, item.depth + 1 ≤ node.depth)
    (h : MergeResult room items result) : MergeResult (room + 1) nodes (result.map .slice) := by
  cases h with
  | notRaw found expected => exact .notRaw found expected
  | tooDeep hitem hdeep =>
      obtain ⟨node, hnode, hdepth⟩ := hitems _ hitem
      exact .tooDeep hnode (Nat.lt_of_lt_of_le (Nat.succ_lt_succ hdeep) hdepth)
  | type hfinished hdepth =>
      exact .type (Node.isFinished_slice_iff.mpr hfinished) (Nat.succ_le_succ hdepth)

/-- The fields of merged structs, each merged on its own. -/
theorem mergeResult_fields {names : List String} {structs : List (List (String × Node))}
    (hvalues : ∀ name, ∀ value ∈ presentIn name structs, ∃ node ∈ nodes,
      value.depth + 1 ≤ node.depth)
    (h : ∀ name, MergeResult room (presentIn name structs) (merge room (presentIn name structs))) :
    MergeResult (room + 1) nodes ((names.mapM (mergeField room structs)).map .struct) := by
  cases hfields : names.mapM (mergeField room structs) with
  | error error =>
      obtain ⟨name, -, herror⟩ := exists_of_mapM_eq_error hfields
      have hresult := h name
      rw [map_eq_error_iff.mp herror] at hresult
      cases hresult with
      | notRaw found expected => exact .notRaw found expected
      | tooDeep hvalue hdeep =>
          obtain ⟨node, hnode, hdepth⟩ := hvalues name _ hvalue
          exact .tooDeep hnode (Nat.lt_of_lt_of_le (Nat.succ_lt_succ hdeep) hdepth)
  | ok fields =>
      have htypes : ∀ field ∈ fields, field.2.type.IsFinished ∧ field.2.type.depth ≤ room := by
        intro field hfield
        obtain ⟨name, -, hname⟩ := exists_of_mem_mapM hfields hfield
        obtain ⟨type, htype, rfl⟩ := map_eq_ok_iff.mp hname
        have hresult := h name
        rw [htype] at hresult
        cases hresult with
        | type hfinished hdepth => exact ⟨hfinished, hdepth⟩
      apply MergeResult.type
      · exact Node.isFinished_struct_iff.mpr fun field hfield => (htypes field hfield).1
      · rw [Node.depth]
        exact Nat.succ_le_succ
          (Node.fieldsDepth_le_iff.mpr fun field hfield => (htypes field hfield).2)

/-- Whatever the nodes are, merging them ends in one of the three ways. -/
theorem mergeResult (room : Nat) (nodes : List Node) :
    MergeResult room nodes (merge room nodes) := by
  induction room generalizing nodes with
  | zero =>
      rw [merge.eq_def]
      cases houtcome : outcome (kindsOf nodes) with
      | leaf type =>
          obtain ⟨hfinished, hdepth⟩ := leaf_of_outcome houtcome
          exact .type hfinished (Nat.le_of_eq hdepth)
      | slices =>
          obtain ⟨node, hnode, hdepth⟩ := exists_container_of_outcome (.inl rfl) houtcome
          exact .tooDeep hnode hdepth
      | structs =>
          obtain ⟨node, hnode, hdepth⟩ := exists_container_of_outcome (.inr rfl) houtcome
          exact .tooDeep hnode hdepth
  | succ room ih =>
      cases houtcome : outcome (kindsOf nodes) with
      | leaf type =>
          obtain ⟨hfinished, hdepth⟩ := leaf_of_outcome houtcome
          rw [merge_leaf _ houtcome]
          exact .type hfinished (hdepth ▸ Nat.zero_le _)
      | slices =>
          cases mapM_cases elementOf?_cases nodes with
          | inl helements =>
              rw [merge_slices_of_elements helements houtcome]
              cases (itemPool nodes).any Node.isIgnore with
              | true =>
                  exact .type (Node.isFinished_slice_iff.mpr Node.isFinished_any)
                    (Nat.succ_le_succ (Nat.zero_le _))
              | false => exact (ih _).map_slice fun item hitem => depth_of_mem_itemPool hitem
          | inr herror =>
              obtain ⟨found, expected, herror⟩ := herror
              rw [merge.eq_def, houtcome]
              simp only [herror]
              exact .notRaw found expected
      | structs =>
          cases mapM_cases fieldsOf?_cases nodes with
          | inl hfields =>
              rw [merge_structs_of_fields hfields houtcome]
              exact mergeResult_fields (fun name value hvalue => depth_of_mem_presentIn hvalue)
                fun name => ih _
          | inr herror =>
              obtain ⟨found, expected, herror⟩ := herror
              rw [merge.eq_def, houtcome]
              simp only [herror]
              exact .notRaw found expected

theorem MergeResult.of_alternatives {node : Node} {result : Except UnifyError Node}
    (h : MergeResult room node.alternatives result) : MergeResult room [node] result := by
  cases h with
  | notRaw found expected => exact .notRaw found expected
  | tooDeep halternative hdeep =>
      exact .tooDeep List.mem_cons_self
        (Nat.lt_of_lt_of_le hdeep (Node.depth_le_of_mem_alternatives halternative))
  | type hfinished hdepth => exact .type hfinished hdepth

/-- What becomes of any tree, raw and finished nodes mixed freely. -/
theorem mergeResult_unifyNode [Room] (node : Node) :
    MergeResult Room.unification [node] (unifyNode node) :=
  (mergeResult Room.unification node.alternatives).of_alternatives

end JsonShape.Unify

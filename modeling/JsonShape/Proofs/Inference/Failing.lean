import JsonShape.Proofs.Inference.Mixed
import JsonShape.Proofs.Inference.Rules

/-!
# Inference that fails

Documents have no type when there are none, when a number in one of them is not
finite, when one nests too deeply, or when one is neither an object nor an array.
What was classified is raw and nests no deeper than there is room for in merging, so
merging never fails.
-/

set_option autoImplicit false

namespace JsonShape

namespace Json

theorem nonFinite_arr (items : List Json) : (arr items).nonFinite = items.flatMap nonFinite := by
  rw [nonFinite]
  induction items with
  | nil => rfl
  | cons item rest ih => rw [itemsNonFinite, ih, List.flatMap_cons]

theorem nonFinite_obj (members : List (String × Json)) :
    (obj members).nonFinite = members.flatMap fun member => member.2.nonFinite := by
  rw [nonFinite]
  induction members with
  | nil => rfl
  | cons member rest ih => rw [membersNonFinite, ih, List.flatMap_cons]

/-- A raw tree nests as deeply as the value that it was made from. -/
theorem depth_raw (value : Json) : value.raw.depth ≤ value.depth := by
  induction value using induction_on with
  | scalar value hdepth =>
      cases value with
      | arr items => simp [depth] at hdepth
      | obj members => simp [depth] at hdepth
      | float value =>
          rw [raw]
          split <;> exact Nat.zero_le _
      | _ => exact Nat.zero_le _
  | arr items ih =>
      rw [raw_arr, Node.depth, Node.depth, depth, Nat.add_le_add_iff_right, Node.allDepth_le_iff,
        List.forall_mem_map]
      intro item hitem
      exact Nat.le_trans (ih item hitem) (itemsDepth_le_iff.mp (Nat.le_refl _) item hitem)
  | obj members ih =>
      rw [raw_obj, Node.depth, depth, Nat.add_le_add_iff_right, Node.entriesDepth_le_iff,
        List.forall_mem_map]
      intro member hmember
      exact Nat.le_trans (ih member hmember) (membersDepth_le_iff.mp (Nat.le_refl _) member hmember)

end Json

/-! ## Classification -/

theorem classifyNumber_error {value : Binary64} {error : ClassifyError}
    (h : classifyNumber value = .error error) :
    value ∈ (Json.float value).nonFinite ∧ error = .nonFinite value := by
  rw [classifyNumber] at h
  rw [Json.nonFinite]
  cases hfinite : value.isFinite with
  | true => simp [hfinite] at h
  | false =>
      rw [hfinite, if_neg Bool.false_ne_true, Except.error.injEq] at h
      exact ⟨List.mem_singleton_self value, h.symm⟩

/-- Classification fails at a number that is not finite, or for want of room. -/
theorem classifyWithin_error_cases {room : Nat} {value : Json} {error : ClassifyError}
    (h : classifyWithin room value = .error error) :
    (∃ number ∈ value.nonFinite, error = .nonFinite number) ∨
      room < value.depth ∧ error = .tooDeep := by
  induction room generalizing value with
  | zero =>
      cases value with
      | float number => exact .inl ⟨number, classifyNumber_error h⟩
      | arr items => exact .inr ⟨Nat.succ_pos _, (Except.error.inj h).symm⟩
      | obj members => exact .inr ⟨Nat.succ_pos _, (Except.error.inj h).symm⟩
      | _ => cases h
  | succ room ih =>
      cases value with
      | float number => exact .inl ⟨number, classifyNumber_error h⟩
      | arr items =>
          have hitems : items.mapM (classifyWithin room) = .error error := by
            rw [classifyWithin, bind_eq_error_iff] at h
            rcases h with hitems | ⟨_, -, hpure⟩
            · exact hitems
            · cases hpure
          obtain ⟨item, hitem, herror⟩ := exists_of_mapM_eq_error hitems
          rcases ih herror with ⟨number, hnumber, rfl⟩ | ⟨hdeep, rfl⟩
          · rw [Json.nonFinite_arr]
            exact .inl ⟨number, List.mem_flatMap_of_mem hitem hnumber, rfl⟩
          · exact .inr ⟨Nat.lt_of_not_le fun hle =>
              Nat.not_le.mpr hdeep (Json.arr_depth_le_succ_iff.mp hle item hitem), rfl⟩
      | obj members =>
          have hmembers : (members.mapM fun member => do
              pure (member.1, ← classifyWithin room member.2)) = .error error := by
            rw [classifyWithin, bind_eq_error_iff] at h
            rcases h with hmembers | ⟨_, -, hpure⟩
            · exact hmembers
            · cases hpure
          obtain ⟨member, hmember, herror⟩ := exists_of_mapM_eq_error hmembers
          rw [bind_eq_error_iff] at herror
          rcases herror with herror | ⟨_, -, hpure⟩
          · rcases ih herror with ⟨number, hnumber, rfl⟩ | ⟨hdeep, rfl⟩
            · rw [Json.nonFinite_obj]
              exact .inl ⟨number, List.mem_flatMap_of_mem hmember hnumber, rfl⟩
            · exact .inr ⟨Nat.lt_of_not_le fun hle =>
                Nat.not_le.mpr hdeep (Json.obj_depth_le_succ_iff.mp hle member hmember), rfl⟩
          · cases hpure
      | _ => cases h

/-! ## Unification -/

theorem unifyNode_ne_notRaw [Room] {node : Node} (hraw : node.isRaw = true)
    (found expected : String) :
    unifyNode node ≠ .error (.notRaw found expected) := by
  intro h
  have halternatives : ∀ alternative ∈ node.alternatives, alternative.isRaw = true :=
    fun alternative => Node.isRaw_of_mem_alternatives hraw
  cases Unify.merge_error_eq_tooDeep halternatives h

/-- Raw trees that nest no deeper than the room are merged. -/
theorem exists_unifyNode_eq_ok [Room] {node : Node} (hraw : node.isRaw = true)
    (hdepth : node.depth ≤ Room.unification) : ∃ type, unifyNode node = .ok type := by
  cases hresult : unifyNode node with
  | ok type => exact ⟨type, rfl⟩
  | error error =>
      have hmerge := Unify.mergeResult_unifyNode node
      rw [hresult] at hmerge
      cases hmerge with
      | notRaw found expected => exact absurd hresult (unifyNode_ne_notRaw hraw found expected)
      | tooDeep hnode hdeep =>
          rw [List.mem_singleton] at hnode
          exact absurd (hnode ▸ hdeep) (Nat.not_lt.mpr hdepth)

theorem depth_union_map_raw_le {documents : List Json} {room : Nat}
    (hdepth : ∀ document ∈ documents, document.depth ≤ room) :
    (Node.union (documents.map Json.raw)).depth ≤ room := by
  rw [Node.depth, Node.allDepth_le_iff, List.forall_mem_map]
  exact fun document hdocument => Nat.le_trans document.depth_raw (hdepth document hdocument)

/-- What the inference from documents can fail with. -/
inductive DocumentsFailure [Room] (documents : List Json) : ShapeError → Prop
  | noDocuments (h : documents = []) : DocumentsFailure documents (.unify .noDocuments)
  | nonFinite {document : Json} {number : Binary64} (hdocument : document ∈ documents)
      (hnumber : number ∈ document.nonFinite) :
      DocumentsFailure documents (.classify (.nonFinite number))
  | tooDeep {document : Json} (hdocument : document ∈ documents)
      (hdeep : Room.classification < document.depth) :
      DocumentsFailure documents (.classify .tooDeep)
  | notContainer {index : Nat} {document : Json} (hdocument : documents[index]? = some document)
      (hkind : ¬(document.kind = .slice ∨ document.kind = .struct)) :
      DocumentsFailure documents (.unify (.notContainer index document.kind))

theorem failure_of_classify [Room] {documents : List Json} {error : ClassifyError}
    (h : documents.mapM classify = .error error) :
    DocumentsFailure documents (.classify error) := by
  obtain ⟨document, hdocument, herror⟩ := exists_of_mapM_eq_error h
  rcases classifyWithin_error_cases herror with ⟨number, hnumber, rfl⟩ | ⟨hdeep, rfl⟩
  · exact .nonFinite hdocument hnumber
  · exact .tooDeep hdocument hdeep

theorem failure_of_firstScalar? [Room] {documents : List Json} {node : Node} {index : Nat}
    (h : firstScalar? (documents.map Json.raw) = some (node, index)) :
    DocumentsFailure documents (.unify (.notContainer index node.kind)) := by
  have hmem := List.mem_of_find?_eq_some h
  have hscalar := List.find?_some h
  rw [List.mk_mem_zipIdx_iff_getElem?, List.getElem?_map, Option.map_eq_some_iff] at hmem
  obtain ⟨document, hdocument, rfl⟩ := hmem
  apply DocumentsFailure.notContainer hdocument
  rw [← isRawContainer_raw_iff]
  simpa using hscalar

theorem failure_of_unify [Room] {documents : List Json} {error : UnifyError}
    (hdepth : ∀ document ∈ documents, document.depth ≤ Room.unification)
    (h : unify (documents.map Json.raw) = .error error) :
    DocumentsFailure documents (.unify error) := by
  rw [unify] at h
  split at h
  · rename_i hempty
    rw [← Except.error.inj h]
    exact .noDocuments (by simpa using hempty)
  · split at h
    · rename_i hscalar
      rw [← Except.error.inj h]
      exact failure_of_firstScalar? hscalar
    · obtain ⟨type, htype⟩ := exists_unifyNode_eq_ok (Inference.isRaw_union_map_raw documents)
        (depth_union_map_raw_le hdepth)
      rw [htype] at h
      cases h

/-- Every failure of the inference from documents. -/
theorem failure_of_inferAll [Room] {documents : List Json} {error : ShapeError}
    (h : inferAll documents = .error error) : DocumentsFailure documents error := by
  rw [inferAll, bind_eq_error_iff] at h
  cases h with
  | inl hclassify =>
      obtain ⟨cause, hcause, rfl⟩ := mapError_eq_error_iff.mp hclassify
      exact failure_of_classify hcause
  | inr h =>
      obtain ⟨nodes, hnodes, hunify⟩ := h
      obtain ⟨cause, hcause, rfl⟩ := mapError_eq_error_iff.mp hunify
      rw [mapError_eq_ok_iff,
        mapM_eq_ok_map_iff fun document _ node => classify_eq_ok_iff] at hnodes
      obtain ⟨hall, rfl⟩ := hnodes
      -- the merge has as much room as the classification
      exact failure_of_unify (fun document hdocument =>
        Nat.le_trans (hall document hdocument).1 Room.classification_le_unification) hcause

/-- What is inferred is finished and nests no deeper than there is room for. -/
theorem isFinished_of_inferAll [Room] {documents : List Json} {type : Node}
    (h : inferAll documents = .ok type) : type.IsFinished ∧ type.depth ≤ Room.unification := by
  have hmerge := Unify.mergeResult_unifyNode (.union (documents.map Json.raw))
  rw [(inferAll_eq_ok_iff.mp h).2.2] at hmerge
  cases hmerge with
  | type hfinished hdepth => exact ⟨hfinished, hdepth⟩

end JsonShape

import JsonShape.Proofs.Description.RoundTrip
import JsonShape.Proofs.Inference.Rejection

/-!
# Documents inside documents

Documents, the members under one name and the items of arrays are merged alike.  What
is inferred from some documents is inferred from them wherever they stand: under a name,
and spread over arrays.  Only the nesting limit sees the difference, since a document
inside another one nests one deeper.
-/

set_option autoImplicit false

namespace JsonShape

open Inference

variable {documents values : List Json} {name : String} {type : Node}

namespace Json

/-- The object that has a value under one name and nothing else. -/
def under (name : String) (value : Json) : Json := obj [(name, value)]

theorem present?_under {value : Json} (hnull : value.isNull = false) :
    (value.under name).present? name = some value :=
  present?_eq_some_iff.mpr ⟨List.lookup_cons_self, hnull⟩

theorem under_depth_le_iff [Room] {value : Json} :
    (value.under name).depth ≤ Room.classification ↔ value.depth < Room.classification := by
  obtain ⟨room, hroom⟩ := Nat.exists_eq_add_one.mpr Room.classification_pos
  rw [hroom, under, obj_depth_le_succ_iff, List.forall_mem_singleton, Nat.lt_succ_iff]

theorem arr_depth_le_iff [Room] {items : List Json} :
    (arr items).depth ≤ Room.classification ↔ ∀ item ∈ items, item.depth < Room.classification := by
  obtain ⟨room, hroom⟩ := Nat.exists_eq_add_one.mpr Room.classification_pos
  simp only [hroom, arr_depth_le_succ_iff, Nat.lt_succ_iff]

end Json

/-! ## Under a name -/

theorem keysOf_map_under (hne : values ≠ []) : keysOf (values.map (Json.under name)) = [name] := by
  obtain ⟨value, rest, rfl⟩ := List.exists_cons_of_ne_nil hne
  have hrest : (rest.flatMap fun _ => [name]).filter (fun other => !other == name) = [] := by
    simp [List.filter_eq_nil_iff]
  simp [keysOf, Json.under, Json.members, List.flatMap_map, List.eraseDups_cons, hrest]

theorem presentUnder_map_under (hnull : ∀ value ∈ values, value.isNull = false) :
    presentUnder name (values.map (Json.under name)) = values := by
  rw [presentUnder, List.filterMap_map]
  refine (List.filterMap_congr fun value hvalue => ?_).trans List.filterMap_some
  exact Json.present?_under (hnull value hvalue)

/-- Values under one name make it a required field of their type. -/
theorem Infers.under (h : Infers values type) (hne : values ≠ [])
    (hnull : ∀ value ∈ values, value.isNull = false) (name : String) :
    Infers (values.map (Json.under name)) (.struct [(name, ⟨type, false⟩)]) := by
  refine .struct (by simpa using hne) ?_ (keysOf_map_under hne).symm ?_ ?_
  · exact List.forall_mem_map.mpr fun value _ => Json.kind_eq_struct_iff.mpr ⟨_, rfl⟩
  · intro other field hfield
    cases List.mem_singleton.mp hfield
    rw [presentUnder_map_under hnull]
    exact h
  · intro other field hfield
    cases List.mem_singleton.mp hfield
    rw [eq_comm, List.any_eq_false]
    refine List.forall_mem_map.mpr fun value hvalue => ?_
    simp [Json.lacks, Json.present?_under (hnull value hvalue)]

/-! ## In arrays -/

theorem itemsOf_map_arr (pieces : List (List Json)) :
    itemsOf (pieces.map .arr) = pieces.flatten := by
  rw [itemsOf, List.flatMap_map]
  exact List.flatMap_id

/-- Arrays are slices of the type of all their items, however these are spread over them. -/
theorem Infers.arr {pieces : List (List Json)} (h : Infers pieces.flatten type)
    (hne : pieces ≠ []) (hnull : ∀ value ∈ pieces.flatten, value.isNull = false) :
    Infers (pieces.map .arr) (.slice type) := by
  refine .slice (by simpa using hne) ?_ ?_ ?_
  · exact List.forall_mem_map.mpr fun items _ => Json.kind_eq_slice_iff.mpr ⟨_, rfl⟩
  · rw [itemsOf_map_arr]
    intro hmem
    simpa [Json.isNull] using hnull _ hmem
  · rw [itemsOf_map_arr]
    exact h

/-! ## The nesting limit -/

/-- Containers of finite numbers have the type by the rules, unless they nest too deeply. -/
theorem inferAll_eq_of_infers [Room] (h : Infers documents type) (hne : documents ≠ [])
    (hfit : ∀ document ∈ documents, document.isContainer = true ∧ document.nonFinite = []) :
    inferAll documents =
      if ∀ document ∈ documents, document.depth ≤ Room.classification then .ok type
      else .error (.classify .tooDeep) := by
  split
  · rename_i hdepth
    refine inferAll_eq_ok_iff_infers.mpr ⟨hne, fun document hdocument => ⟨?_, ?_, ?_⟩, h⟩
    · exact Json.isContainer_iff.mp (hfit document hdocument).1
    · exact hdepth document hdocument
    · exact (hfit document hdocument).2
  · rename_i hdepth
    cases hresult : inferAll documents with
    | ok other =>
        obtain ⟨-, hall, -⟩ := inferAll_eq_ok_iff_infers.mp hresult
        exact absurd (fun document hdocument => (hall document hdocument).depth_le) hdepth
    | error error => rw [(tooDeep_of_fit hne hfit hresult).1]

theorem inferAll_map_under [Room] (h : inferAll documents = .ok type) (name : String) :
    inferAll (documents.map (Json.under name)) =
      if ∀ document ∈ documents, document.depth < Room.classification
        then .ok (.struct [(name, ⟨type, false⟩)])
        else .error (.classify .tooDeep) := by
  obtain ⟨hne, hall, hinfers⟩ := inferAll_eq_ok_iff_infers.mp h
  have hnull : ∀ document ∈ documents, document.isNull = false :=
    fun document hdocument => (hall document hdocument).isNull_eq_false
  rw [inferAll_eq_of_infers (hinfers.under hne hnull name) (by simpa using hne)]
  · simp only [List.forall_mem_map, Json.under_depth_le_iff]
  · refine List.forall_mem_map.mpr fun document hdocument => ⟨rfl, ?_⟩
    exact Json.nonFinite_obj_eq_nil_iff.mpr
      (List.forall_mem_singleton.mpr (hall document hdocument).finite)

theorem inferAll_map_arr [Room] {pieces : List (List Json)}
    (h : inferAll pieces.flatten = .ok type) :
    inferAll (pieces.map .arr) =
      if ∀ document ∈ pieces.flatten, document.depth < Room.classification then .ok (.slice type)
        else .error (.classify .tooDeep) := by
  obtain ⟨hne, hall, hinfers⟩ := inferAll_eq_ok_iff_infers.mp h
  have hpieces : pieces ≠ [] := by
    rintro rfl
    exact hne rfl
  have hnull : ∀ document ∈ pieces.flatten, document.isNull = false :=
    fun document hdocument => (hall document hdocument).isNull_eq_false
  rw [inferAll_eq_of_infers (hinfers.arr hpieces hnull) (by simpa using hpieces)]
  · simp only [List.forall_mem_map, Json.arr_depth_le_iff, List.forall_mem_flatten]
  · refine List.forall_mem_map.mpr fun items hitems => ⟨rfl, ?_⟩
    exact Json.nonFinite_arr_eq_nil_iff.mpr fun item hitem =>
      (hall item (List.mem_flatten_of_mem hitems hitem)).finite

/-- The type of documents is also the type of the field whose values they are, and of the
items that they are, however they are cut into arrays.  This fails only where one of them
nests as deeply as a document may. -/
theorem inference_ignores_context [Room] {config : Config} (hfilter : config.filter = none)
    (h : infer config documents = .ok type) :
    (∀ name : String, infer config (documents.map (Json.under name)) =
      if ∀ document ∈ documents, document.depth < Room.classification
        then .ok (.struct [(name, ⟨type, false⟩)])
        else .error (.classify .tooDeep)) ∧
    (∀ pieces : List (List Json), pieces.flatten = documents →
      infer config (pieces.map .arr) =
        if ∀ document ∈ documents, document.depth < Room.classification then .ok (.slice type)
          else .error (.classify .tooDeep)) := by
  simp only [infer_of_no_filter hfilter] at h ⊢
  refine ⟨inferAll_map_under h, ?_⟩
  rintro pieces rfl
  exact inferAll_map_arr h

theorem inference_ignores_context_sample :
    infer {} (sampleDocuments.map (Json.under "order")) =
        .ok (.struct [("order", ⟨sampleType, false⟩)]) ∧
      infer {} [.arr (sampleDocuments.take 1), .arr [], .arr (sampleDocuments.drop 1)] =
        .ok (.slice sampleType) := by
  have hinfer : infer {} sampleDocuments = .ok sampleType := rfl
  have hdepth : ∀ document ∈ sampleDocuments, document.depth < Room.classification := by decide
  have hcontext := inference_ignores_context rfl hinfer
  refine ⟨?_, ?_⟩
  · rw [hcontext.1 "order", if_pos hdepth]
  · have harrays := hcontext.2 [sampleDocuments.take 1, [], sampleDocuments.drop 1] rfl
    rw [if_pos hdepth] at harrays
    exact harrays

theorem depth_objectChain (depth : Nat) : (objectChain depth).depth = depth := by
  induction depth with
  | zero => rfl
  | succ depth ih => simp [objectChain, Json.depth, Json.membersDepth, ih]

/-- Objects that nest as deeply as they may have a type, but not inside another container. -/
theorem infer_under_objectChain :
    infer {} [objectChain 480] = .ok (structChain 480) ∧
      infer {} [(objectChain 480).under "c"] = .error (.classify .tooDeep) ∧
      infer {} [.arr [objectChain 480]] = .error (.classify .tooDeep) := by
  have hinfer : inferAll [objectChain 480] = .ok (structChain 480) := by
    refine inferAll_eq_ok_iff_infers.mpr ⟨by simp, ?_, infers_objectChain 480⟩
    exact List.forall_mem_singleton.mpr (isDocument_objectChain (by decide) (by decide))
  have hdeep : ¬∀ document ∈ [objectChain 480], document.depth < Room.classification := by
    rw [List.forall_mem_singleton, depth_objectChain]
    decide
  refine ⟨?_, ?_, ?_⟩ <;> rw [infer_of_no_filter rfl]
  · exact hinfer
  · exact (inferAll_map_under hinfer "c").trans (if_neg hdeep)
  · have hitems : inferAll [[objectChain 480]].flatten = .ok (structChain 480) := hinfer
    exact (inferAll_map_arr hitems).trans (if_neg hdeep)

end JsonShape

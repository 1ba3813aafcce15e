import JsonShape.Proofs.Inference.Failing

/-!
# Documents that are rejected

The numbers of all documents are looked at before anything else.  A number that is not
finite rejects the documents, however deep it lies and whatever the documents before it
are.  Only then there must be some documents, each of them an object or an array, and
nothing else is asked of documents that do not nest too deeply.
-/

set_option autoImplicit false

namespace JsonShape

namespace Json

/-- What stands in a value, at any depth. -/
inductive Within (part : Json) : Json → Prop
  | root : Within part part
  | item {item : Json} {items : List Json} (hitem : item ∈ items) (h : Within part item) :
      Within part (.arr items)
  | member {member : String × Json} {members : List (String × Json)}
      (hmember : member ∈ members) (h : Within part member.2) : Within part (.obj members)

def isContainer : Json → Bool
  | arr _ | obj _ => true
  | _ => false

/-- Arrays and objects are the values that may stand at the top. -/
theorem isContainer_iff {value : Json} :
    value.isContainer = true ↔ value.kind = .slice ∨ value.kind = .struct := by
  rw [kind_eq_slice_iff, kind_eq_struct_iff]
  cases value <;> simp [isContainer]

/-- The numbers that are listed are those that stand in a value and are not finite. -/
theorem mem_nonFinite_iff {number : Binary64} {value : Json} :
    number ∈ value.nonFinite ↔ (float number).Within value ∧ number.isFinite = false := by
  constructor
  · intro h
    induction value using induction_on with
    | scalar value hdepth =>
        cases value with
        | float other =>
            rw [nonFinite] at h
            cases hfinite : other.isFinite with
            | true => simp [hfinite] at h
            | false =>
                rw [hfinite, if_neg Bool.false_ne_true, List.mem_singleton] at h
                rw [h]
                exact ⟨.root, hfinite⟩
        | arr items => simp [depth] at hdepth
        | obj members => simp [depth] at hdepth
        | _ => simp [nonFinite] at h
    | arr items ih =>
        rw [nonFinite_arr, List.mem_flatMap] at h
        obtain ⟨item, hitem, h⟩ := h
        exact (ih item hitem h).imp_left (.item hitem)
    | obj members ih =>
        rw [nonFinite_obj, List.mem_flatMap] at h
        obtain ⟨member, hmember, h⟩ := h
        exact (ih member hmember h).imp_left (.member hmember)
  · rintro ⟨h, hfinite⟩
    induction h with
    | root => simp [nonFinite, hfinite]
    | item hitem _ ih =>
        rw [nonFinite_arr]
        exact List.mem_flatMap_of_mem hitem ih
    | member hmember _ ih =>
        rw [nonFinite_obj]
        exact List.mem_flatMap_of_mem hmember ih

theorem nonFinite_eq_nil_iff {value : Json} :
    value.nonFinite = [] ↔ ∀ number, (float number).Within value → number.isFinite = true := by
  rw [List.eq_nil_iff_forall_not_mem]
  simp only [mem_nonFinite_iff, not_and, Bool.not_eq_false]

end Json

/-! ## The first number that is not finite -/

theorem classifyNumber_of_first {value number : Binary64} {others : List Binary64}
    (h : (Json.float value).nonFinite = number :: others) :
    classifyNumber value = .error (.nonFinite number) := by
  rw [Json.nonFinite] at h
  rw [classifyNumber]
  cases hfinite : value.isFinite with
  | true => simp [hfinite] at h
  | false =>
      rw [hfinite, if_neg Bool.false_ne_true, List.cons.injEq] at h
      rw [if_neg Bool.false_ne_true, h.1]

/-- Classification stops at the first number that is not finite. -/
theorem classifyWithin_of_first {room : Nat} {value : Json} {number : Binary64}
    {others : List Binary64} (hdepth : value.depth ≤ room)
    (h : value.nonFinite = number :: others) :
    classifyWithin room value = .error (.nonFinite number) := by
  induction room generalizing value number others with
  | zero =>
      cases value with
      | float value => exact classifyNumber_of_first h
      | arr items => simp [Json.depth] at hdepth
      | obj members => simp [Json.depth] at hdepth
      | _ => simp [Json.nonFinite] at h
  | succ room ih =>
      cases value with
      | float value => exact classifyNumber_of_first h
      | arr items =>
          rw [Json.arr_depth_le_succ_iff] at hdepth
          rw [Json.nonFinite_arr] at h
          have hok : ∀ item ∈ items, item.nonFinite = [] →
              ∃ node, classifyWithin room item = .ok node := fun item hitem hfinite =>
            ⟨item.raw, classifyWithin_eq_ok_iff.mpr ⟨⟨hdepth item hitem, hfinite⟩, rfl⟩⟩
          have hitems := mapM_eq_error_of_first .nonFinite hok
            (fun item hitem first others => ih (hdepth item hitem)) h
          rw [classifyWithin, hitems]
          rfl
      | obj members =>
          rw [Json.obj_depth_le_succ_iff] at hdepth
          rw [Json.nonFinite_obj] at h
          have hok : ∀ member ∈ members, member.2.nonFinite = [] → ∃ field,
              (do pure (member.1, ← classifyWithin room member.2)) = .ok field :=
            fun member hmember hfinite => ⟨(member.1, member.2.raw), bind_eq_ok_iff.mpr
              ⟨_, classifyWithin_eq_ok_iff.mpr ⟨⟨hdepth member hmember, hfinite⟩, rfl⟩, rfl⟩⟩
          have hmembers := mapM_eq_error_of_first .nonFinite hok
            (fun member hmember first others h =>
              bind_eq_error_iff.mpr (.inl (ih (hdepth member hmember) h))) h
          rw [classifyWithin, hmembers]
          rfl
      | _ => simp [Json.nonFinite] at h

/-! ## The outcome for all documents -/

/-- Why documents are rejected, and with which text. -/
inductive Rejected (documents : List Json) : ShapeError → String → Prop
  | nonFinite {number : Binary64} {others : List Binary64}
      (hfirst : documents.flatMap Json.nonFinite = number :: others) :
      Rejected documents (.classify (.nonFinite number))
        (String.join ["Cannot infer a type for non-finite number ",
          NumberStyle.message.text number])
  | noDocuments (h : documents = []) :
      Rejected documents (.unify .noDocuments) "At least one document is required for unification"
  | notContainer {before after : List Json} {document : Json}
      (hfinite : documents.flatMap Json.nonFinite = [])
      (hdocuments : documents = before ++ document :: after)
      (hbefore : ∀ other ∈ before, other.isContainer = true)
      (hdocument : document.isContainer = false) :
      Rejected documents (.unify (.notContainer before.length document.kind))
        (String.join ["Document #", toString before.length, " is a ", document.kind.name,
          ", top-level documents must be objects or arrays"])

variable {documents : List Json} {error : ShapeError} {text : String}

theorem isRawContainer_raw (value : Json) : value.raw.isRawContainer = value.isContainer := by
  rw [Bool.eq_iff_iff, isRawContainer_raw_iff, Json.isContainer_iff]

theorem mapM_classify_of_finite [Room]
    (hdepth : ∀ document ∈ documents, document.depth ≤ Room.classification)
    (hfinite : documents.flatMap Json.nonFinite = []) :
    documents.mapM classify = .ok (documents.map Json.raw) := by
  rw [List.flatMap_eq_nil_iff] at hfinite
  refine mapM_eq_ok_map fun document hdocument => classify_eq_ok_iff.mpr ⟨⟨?_, ?_⟩, rfl⟩
  · exact hdepth document hdocument
  · exact hfinite document hdocument

theorem mapM_classify_of_first [Room]
    (hdepth : ∀ document ∈ documents, document.depth ≤ Room.classification)
    {number : Binary64} {others : List Binary64}
    (hfirst : documents.flatMap Json.nonFinite = number :: others) :
    documents.mapM classify = .error (.nonFinite number) := by
  refine mapM_eq_error_of_first ClassifyError.nonFinite ?_ ?_ hfirst
  · intro document hdocument hfinite
    exact ⟨document.raw, classify_eq_ok_iff.mpr ⟨⟨hdepth document hdocument, hfinite⟩, rfl⟩⟩
  · intro document hdocument first others
    exact classifyWithin_of_first (hdepth document hdocument)

theorem unify_of_first [Room] {before after : List Json} {document : Json}
    (hbefore : ∀ other ∈ before, other.isContainer = true)
    (hdocument : document.isContainer = false) :
    unify ((before ++ document :: after).map Json.raw) =
      .error (.notContainer before.length document.kind) := by
  have hscalar : firstScalar? ((before ++ document :: after).map Json.raw) =
      some (document.raw, before.length) := by
    have hnone : firstScalar? (before.map Json.raw) = none :=
      firstScalar?_eq_none_iff.mpr <| List.forall_mem_map.mpr fun other hother =>
        (isRawContainer_raw other).trans (hbefore other hother)
    rw [firstScalar?] at hnone ⊢
    rw [List.map_append, List.map_cons, List.zipIdx_append, List.find?_append, hnone,
      Option.none_or, List.zipIdx_cons,
      List.find?_cons_of_pos (by simp [isRawContainer_raw, hdocument]), Nat.zero_add,
      List.length_map]
  rw [unify, if_neg (by simp), hscalar]
  rfl

/-- Documents are rejected for whatever reason there is to. -/
theorem Rejected.inferAll_eq [Room] (h : Rejected documents error text)
    (hdepth : ∀ document ∈ documents, document.depth ≤ Room.classification) :
    inferAll documents = .error error ∧ text = error.message := by
  cases h with
  | nonFinite hfirst =>
      rw [inferAll, mapM_classify_of_first hdepth hfirst]
      exact ⟨rfl, rfl⟩
  | noDocuments hnil =>
      rw [hnil]
      exact ⟨rfl, rfl⟩
  | notContainer hfinite hdocuments hbefore hdocument =>
      rw [inferAll, mapM_classify_of_finite hdepth hfinite, hdocuments]
      refine ⟨?_, rfl⟩
      exact mapError_eq_error_iff.mpr ⟨_, unify_of_first hbefore hdocument, rfl⟩

/-- Documents have a type unless there is a reason to reject them. -/
theorem rejected_or_fit (documents : List Json) :
    (∃ error text, Rejected documents error text) ∨
      documents ≠ [] ∧ ∀ document ∈ documents,
        document.isContainer = true ∧ document.nonFinite = [] := by
  cases hnumbers : documents.flatMap Json.nonFinite with
  | cons number others => exact .inl ⟨_, _, .nonFinite hnumbers⟩
  | nil =>
      by_cases hnil : documents = []
      · exact .inl ⟨_, _, .noDocuments hnil⟩
      · cases hscalar : documents.find? fun document => !document.isContainer with
        | some document =>
            obtain ⟨hdocument, before, after, hdocuments, hbefore⟩ :=
              List.find?_eq_some_iff_append.mp hscalar
            refine .inl ⟨_, _, .notContainer hnumbers hdocuments ?_ (by simpa using hdocument)⟩
            simpa using hbefore
        | none =>
            refine .inr ⟨hnil, fun document hdocument => ⟨?_, ?_⟩⟩
            · simpa using List.find?_eq_none.mp hscalar document hdocument
            · exact List.flatMap_eq_nil_iff.mp hnumbers document hdocument

/-- Containers of finite numbers are only rejected for their depth. -/
theorem tooDeep_of_fit [Room] (hne : documents ≠ [])
    (hfit : ∀ document ∈ documents, document.isContainer = true ∧ document.nonFinite = [])
    (h : inferAll documents = .error error) :
    error = .classify .tooDeep ∧ ∃ document ∈ documents, Room.classification < document.depth := by
  cases failure_of_inferAll h with
  | noDocuments hnil => exact absurd hnil hne
  | nonFinite hdocument hnumber => simp [(hfit _ hdocument).2] at hnumber
  | tooDeep hdocument hdeep => exact ⟨rfl, _, hdocument, hdeep⟩
  | notContainer hdocument hkind =>
      have hcontainer := (hfit _ (List.mem_of_getElem? hdocument)).1
      exact absurd (Json.isContainer_iff.mp hcontainer) hkind

/-- The documents that have a type. -/
theorem exists_inferAll_eq_ok_iff [Room]
    (hdepth : ∀ document ∈ documents, document.depth ≤ Room.classification) :
    (∃ type, inferAll documents = .ok type) ↔
      documents ≠ [] ∧ ∀ document ∈ documents,
        document.isContainer = true ∧ document.nonFinite = [] := by
  constructor
  · rintro ⟨type, htype⟩
    apply (rejected_or_fit documents).resolve_left
    rintro ⟨error, text, hrejected⟩
    cases htype.symm.trans (hrejected.inferAll_eq hdepth).1
  · rintro ⟨hne, hfit⟩
    cases hresult : inferAll documents with
    | ok type => exact ⟨type, rfl⟩
    | error error =>
        obtain ⟨-, document, hdocument, hdeep⟩ := tooDeep_of_fit hne hfit hresult
        exact absurd hdeep (Nat.not_lt.mpr (hdepth document hdocument))

theorem inferAll_eq_error_iff_rejected [Room]
    (hdepth : ∀ document ∈ documents, document.depth ≤ Room.classification) :
    inferAll documents = .error error ↔ Rejected documents error error.message := by
  constructor
  · intro h
    rcases rejected_or_fit documents with ⟨other, text, hrejected⟩ | hfit
    · obtain ⟨hother, rfl⟩ := hrejected.inferAll_eq hdepth
      cases h.symm.trans hother
      exact hrejected
    · obtain ⟨type, htype⟩ := (exists_inferAll_eq_ok_iff hdepth).mpr hfit
      cases h.symm.trans htype
  · intro h
    exact (h.inferAll_eq hdepth).1

theorem infer_of_no_filter [Room] {config : Config} (hfilter : config.filter = none)
    (documents : List Json) : infer config documents = inferAll documents := by
  rw [infer]
  cases inferAll documents with
  | ok type => simp [applyFilter, hfilter, bind, Except.bind]
  | error error => rfl

/-- Within the nesting limit documents are rejected exactly for the first reason there is,
which the text tells: a number in one of them that is not finite, then the lack of any
document, then a document that is neither an object nor an array.  All others have a type. -/
theorem infer_rejects_exactly [Room] {config : Config} (hfilter : config.filter = none)
    (hdepth : ∀ document ∈ documents, document.depth ≤ Room.classification) :
    (∀ error, infer config documents = .error error ↔ Rejected documents error error.message) ∧
    ((∃ number, infer config documents = .error (.classify (.nonFinite number))) ↔
      ∃ document ∈ documents, ∃ number : Binary64,
        (Json.float number).Within document ∧ number.isFinite = false) ∧
    ((∃ type, infer config documents = .ok type) ↔
      documents ≠ [] ∧ ∀ document ∈ documents, document.isContainer = true ∧
        ∀ number : Binary64, (Json.float number).Within document → number.isFinite = true) := by
  rw [infer_of_no_filter hfilter]
  refine ⟨fun error => inferAll_eq_error_iff_rejected hdepth, ?_, ?_⟩
  · simp only [inferAll_eq_error_iff_rejected hdepth, ← Json.mem_nonFinite_iff]
    constructor
    · rintro ⟨number, ⟨hfirst⟩⟩
      have hmem : number ∈ documents.flatMap Json.nonFinite := hfirst ▸ List.mem_cons_self
      obtain ⟨document, hdocument, hnumber⟩ := List.mem_flatMap.mp hmem
      exact ⟨document, hdocument, number, hnumber⟩
    · rintro ⟨document, hdocument, number, hnumber⟩
      have hne := List.ne_nil_of_mem (List.mem_flatMap_of_mem hdocument hnumber)
      obtain ⟨first, others, hfirst⟩ := List.exists_cons_of_ne_nil hne
      exact ⟨first, .nonFinite hfirst⟩
  · simp only [exists_inferAll_eq_ok_iff hdepth, Json.nonFinite_eq_nil_iff]

/-- The first document is no container, the others hold a number that is not finite each. -/
def unfitDocuments : List Json :=
  [.int 3, .obj [("id", .int 1), ("rates", .arr [.int 1, .float .nan])],
    .arr [.float (.infinite true)]]

theorem infer_rejects_exactly_unfit :
    infer {} unfitDocuments = .error (.classify (.nonFinite .nan)) ∧
      (ShapeError.classify (.nonFinite .nan)).message =
        "Cannot infer a type for non-finite number nan" := by
  have hdepth : ∀ document ∈ unfitDocuments, document.depth ≤ Room.classification := by decide
  have hfirst : unfitDocuments.flatMap Json.nonFinite = [.nan, .infinite true] := rfl
  exact ⟨((infer_rejects_exactly rfl hdepth).1 _).mpr (.nonFinite hfirst), rfl⟩

end JsonShape

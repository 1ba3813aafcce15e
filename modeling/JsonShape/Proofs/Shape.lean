import JsonShape.Proofs.Go.Printer
import JsonShape.Proofs.Inference.Failing
import JsonShape.Proofs.Selection.Failing
import JsonShape.Proofs.Selection.Finished

/-!
# Only finished trees leave the inference

Raw nodes stay inside: what is merged is finished at every depth, and a filter keeps it
so.  Therefore every type that is inferred can be described and written as source text,
unless it nests too deeply, and the ways in which inference can fail are few.
-/

set_option autoImplicit false

namespace JsonShape

/-- What the inference under a configuration can fail with. -/
inductive InferenceFailure [Room] (config : Config) (documents : List Json) : ShapeError → Prop
  | documents {error : ShapeError} (h : DocumentsFailure documents error) :
      InferenceFailure config documents error
  | filter {members : List (String × Json)} {error : SelectionError}
      (hfilter : config.filter = some members)
      (h : Selection.Failure
        (Room.selection < 2 * (Spec.ofJson (.obj members)).depth) error) :
      InferenceFailure config documents (.selection error)

variable {config : Config} {documents : List Json} {node : Node}

theorem isFinished_of_applyFilter [Room] {filtered : Node} (hnode : node.IsFinished)
    (h : applyFilter config node = .ok filtered) : filtered.IsFinished := by
  rw [applyFilter] at h
  cases hfilter : config.filter with
  | none =>
      rw [hfilter, Except.ok.injEq] at h
      exact h ▸ hnode
  | some members =>
      rw [hfilter, mapError_eq_ok_iff] at h
      exact Selection.isFinished_of_apply hnode (Spec.holdsFinished_ofJson _) h

/-- What is inferred is finished, whatever the filter selects and forces. -/
theorem isFinished_of_infer [Room] (h : infer config documents = .ok node) : node.IsFinished := by
  rw [infer, bind_eq_ok_iff] at h
  obtain ⟨merged, hmerged, hfilter⟩ := h
  exact isFinished_of_applyFilter (isFinished_of_inferAll hmerged).1 hfilter

theorem failure_of_infer [Room] {error : ShapeError} (h : infer config documents = .error error) :
    InferenceFailure config documents error := by
  rw [infer, bind_eq_error_iff] at h
  cases h with
  | inl hmerged => exact .documents (failure_of_inferAll hmerged)
  | inr h =>
      obtain ⟨merged, -, h⟩ := h
      rw [applyFilter] at h
      cases hfilter : config.filter with
      | none => simp [hfilter] at h
      | some members =>
          rw [hfilter, mapError_eq_error_iff] at h
          obtain ⟨cause, hcause, rfl⟩ := h
          exact .filter hfilter (Selection.failure_of_apply hcause)

/-! ## Writing what is inferred -/

theorem exists_sourceText (config : Config) (hnode : node.IsFinished) :
    ∃ text, Go.sourceText config node = .ok text := by
  cases htype : Go.typeText config node with
  | ok type =>
      rw [Go.sourceText, htype]
      exact ⟨_, rfl⟩
  | error error =>
      obtain ⟨part, hpart, hform, -⟩ := Go.exists_of_typeText_eq_error htype
      rw [hnode part hpart] at hform
      cases hform

theorem describe_of_infer [Room] (h : infer config documents = .ok node) :
    describe config documents =
      if node.describedDepth ≤ Room.description then .ok node.describe
      else .error .describeTooDeep := by
  simp only [describe, h, bind, Except.bind]
  by_cases hdepth : node.describedDepth ≤ Room.description
  · rw [if_pos hdepth, Node.describe?, if_pos hdepth]
    rfl
  · rw [if_neg hdepth, Node.describe?, if_neg hdepth]
    rfl

theorem generate_of_infer [Room] (h : infer config documents = .ok node) :
    ∃ text, Go.sourceText config node = .ok text ∧
      generate config .go documents =
        if Room.declaration < Go.textDepth node then .error (.renderTooDeep .go)
        else .ok (String.ofList text) := by
  obtain ⟨text, htext⟩ := exists_sourceText config (isFinished_of_infer h)
  refine ⟨text, htext, ?_⟩
  simp only [generate, h, bind, Except.bind, render, htext]
  rfl

/-- A tree of any nodes is unified to a finished one, unless it is refused for a finished
container in it or nests too deeply, and raw trees are not refused.  Inference fails in
the known ways only, and what it returns is finished and can be written in both forms. -/
theorem only_finished_types_leave [Room] :
    (∀ node : Node,
      (∃ found expected, unifyNode node = .error (.notRaw found expected)) ∨
      (Room.unification < node.depth ∧ unifyNode node = .error .tooDeep) ∨
      ∃ type, unifyNode node = .ok type ∧ type.IsFinished) ∧
    (∀ node : Node, node.isRaw = true →
      ∀ found expected, unifyNode node ≠ .error (.notRaw found expected)) ∧
    ∀ config documents,
      (∀ error, infer config documents = .error error →
        InferenceFailure config documents error) ∧
      ∀ node, infer config documents = .ok node →
        node.IsFinished ∧
        (node.describedDepth ≤ Room.description →
          describe config documents = .ok node.describe) ∧
        (Go.textDepth node ≤ Room.declaration →
          ∃ text, generate config .go documents = .ok text) := by
  refine ⟨fun node => ?_, fun node hraw => unifyNode_ne_notRaw hraw, fun config documents =>
    ⟨fun error => failure_of_infer, fun node h => ⟨isFinished_of_infer h, ?_, ?_⟩⟩⟩
  · have hmerge := Unify.mergeResult_unifyNode node
    cases hresult : unifyNode node with
    | ok type =>
        rw [hresult] at hmerge
        cases hmerge with
        | type hfinished _ => exact .inr (.inr ⟨type, rfl, hfinished⟩)
    | error error =>
        rw [hresult] at hmerge
        cases hmerge with
        | notRaw found expected => exact .inl ⟨found, expected, rfl⟩
        | tooDeep hnode hdeep =>
            rw [List.mem_singleton] at hnode
            exact .inr (.inl ⟨hnode ▸ hdeep, rfl⟩)
  · intro hdepth
    rw [describe_of_infer h, if_pos hdepth]
  · intro hdepth
    obtain ⟨text, -, htext⟩ := generate_of_infer h
    rw [htext, if_neg (Nat.not_lt.mpr hdepth)]
    exact ⟨_, rfl⟩

/-- Raw slices around an integer. -/
def rawSlices : Nat → Node
  | 0 => .int
  | depth + 1 => .rawSlice (.union [rawSlices depth])

theorem alternatives_rawSlices (depth : Nat) :
    (rawSlices depth).alternatives = [rawSlices depth] := by
  cases depth <;> rfl

theorem isRaw_rawSlices (depth : Nat) : (rawSlices depth).isRaw = true := by
  induction depth with
  | zero => rfl
  | succ depth ih => simp [rawSlices, Node.isRaw, Node.allRaw, ih]

theorem merge_rawSlices {room depth : Nat} (h : room < depth) :
    Unify.merge room [rawSlices depth] = .error .tooDeep := by
  induction room generalizing depth with
  | zero =>
      cases depth with
      | zero => exact absurd h (Nat.lt_irrefl 0)
      | succ depth => rfl
  | succ room ih =>
      cases depth with
      | zero => exact absurd h (Nat.not_lt_zero _)
      | succ depth =>
          have hpool : Unify.itemPool [rawSlices (depth + 1)] = [rawSlices depth] := by
            rw [Unify.itemPool]
            simp [rawSlices, Unify.element?, Node.flatten, Node.alternatives,
              alternatives_rawSlices]
          have hnull : ([rawSlices depth].any Node.isIgnore) = false := by cases depth <;> rfl
          rw [Unify.merge_slices_of_elements rfl rfl, hpool, hnull, if_neg Bool.false_ne_true,
            ih (Nat.lt_of_succ_lt_succ h)]
          rfl

/-- Keeps one field and forces a described type on another. -/
def forcingConfig : Config :=
  { filter := some [("of", .obj
      [("id", .bool true),
        ("sizes", .obj [("forceType", .obj [("type", .str "slice"), ("of", .obj [])]),
          ("forceOptional", .bool true)])])] }

def forcedType : Node := .struct [("id", ⟨.int, true⟩), ("sizes", ⟨.slice (.struct []), true⟩)]

theorem infer_forcingConfig : infer forcingConfig sampleDocuments = .ok forcedType := rfl

theorem only_finished_types_leave_forced :
    ((rawSlices 3).isRaw = true ∧
      unifyNode (rawSlices 3) ≠ .error (.notRaw "SliceType" "RawSlice")) ∧
    infer forcingConfig sampleDocuments = .ok forcedType ∧ forcedType.IsFinished ∧
      describe forcingConfig sampleDocuments = .ok forcedType.describe ∧
      ∃ text, generate forcingConfig .go sampleDocuments = .ok text := by
  have h := (only_finished_types_leave.2.2 forcingConfig sampleDocuments).2 forcedType
    infer_forcingConfig
  exact ⟨⟨isRaw_rawSlices 3, only_finished_types_leave.2.1 _ (isRaw_rawSlices 3) _ _⟩,
    infer_forcingConfig, h.1, h.2.1 (by decide), h.2.2 (by decide)⟩

/-- Not every raw tree is unified: one can nest too deeply. -/
theorem unifyNode_rawSlices :
    (rawSlices 600).isRaw = true ∧ unifyNode (rawSlices 600) = .error .tooDeep ∧
      ¬((∃ found expected, unifyNode (rawSlices 600) = .error (.notRaw found expected)) ∨
        ∃ type, unifyNode (rawSlices 600) = .ok type ∧ type.IsFinished) := by
  have hdeep : unifyNode (rawSlices 600) = .error .tooDeep := by
    rw [unifyNode, alternatives_rawSlices]
    exact merge_rawSlices (by decide)
  exact ⟨isRaw_rawSlices 600, hdeep, by simp [hdeep]⟩

end JsonShape

import JsonShape.Proofs.Inference.Rules
import JsonShape.Proofs.Inference.Similarity
import Mathlib.Order.Nat

/-!
# Inference ignores arrangement

The order in which documents, items and keys come, and how often a document or
an item is repeated, leave no trace in the inferred type.  Rearranged documents
have similar raw trees, and similar raw trees are unified to equal types.
-/

set_option autoImplicit false

namespace JsonShape

open Inference Unify

/-- Two results agree when both are failures or both are types that are equal. -/
def Agree {ε : Type} : Except ε Node → Except ε Node → Prop
  | .ok type, .ok other => type.same other = true
  | .error _, .error _ => True
  | _, _ => False

theorem agree_of_ok {ε : Type} {left right : Except ε Node}
    (forth : ∀ type, left = .ok type → ∃ other, right = .ok other ∧ type.same other = true)
    (back : ∀ other, right = .ok other → ∃ type, left = .ok type ∧ other.same type = true) :
    Agree left right := by
  cases left with
  | ok type =>
      obtain ⟨other, rfl, hsame⟩ := forth type rfl
      exact hsame
  | error error =>
      cases right with
      | ok other =>
          obtain ⟨type, htype, -⟩ := back other rfl
          exact absurd htype (by simp)
      | error other => trivial

/-- Where unification returns a type, it returns an equal one for a similar tree. -/
theorem unifyNode_similar [Room] {left right : Node} (hleft : left.isRaw) (hright : right.isRaw)
    (h : Similar left right) {type : Node} (htype : unifyNode left = .ok type) :
    ∃ other, unifyNode right = .ok other ∧ type.same other = true :=
  mergesAlike Room.unification (fun _ => Node.isRaw_of_mem_alternatives hleft)
    (fun _ => Node.isRaw_of_mem_alternatives hright) h.alternatives htype

namespace Json

/-- Values that differ in the order of object keys and in the order and the number
of equal array items, at any depth.  `R` collects pairs that are rearranged already. -/
inductive Rearranged : Json → Json → Prop
  | refl (value : Json) : Rearranged value value
  | symm {left right : Json} (h : Rearranged left right) : Rearranged right left
  | trans {left middle right : Json} (h : Rearranged left middle) (h' : Rearranged middle right) :
      Rearranged left right
  | items {R : Json → Json → Prop} {items others : List Json}
      (hR : ∀ x y, R x y → Rearranged x y) (h : SameUpTo R items others) :
      Rearranged (arr items) (arr others)
  | members {R : Json → Json → Prop} {members others : List (String × Json)}
      (hR : ∀ x y, R x y → Rearranged x y)
      (h : List.Forall₂ (fun member other => member.1 = other.1 ∧ R member.2 other.2)
        members others) :
      Rearranged (obj members) (obj others)
  | order {members others : List (String × Json)} (hnames : (members.map Prod.fst).Nodup)
      (h : members.Perm others) : Rearranged (obj members) (obj others)

namespace Rearranged

theorem raw {left right : Json} (h : Rearranged left right) : Similar left.raw right.raw := by
  induction h with
  | refl value => exact .refl _
  | symm _ ih => exact ih.symm
  | trans _ _ ih ih' => exact ih.trans ih'
  | @items R items others _ h ih =>
      rw [raw_arr, raw_arr]
      refine .rawSlice (.set (fun _ _ => id) ?_)
      rw [flatten_map_raw, flatten_map_raw]
      exact h.map ih
  | members _ h ih =>
      rw [raw_obj, raw_obj]
      refine .rawStruct (fun _ _ => id) ?_
      rw [List.forall₂_map_left_iff, List.forall₂_map_right_iff]
      exact h.imp fun member other hpair => ⟨hpair.1, ih _ _ hpair.2⟩
  | order hnames h =>
      rw [raw_obj, raw_obj]
      exact .order (by simpa [Function.comp_def] using hnames) (h.map _)

/-- Rearranging keeps what a container draws from the set of the values in it. -/
theorem eq_of_local {α : Sort*} {f : Json → α}
    (harr : ∀ items others : List Json, SameUpTo (fun item other => f item = f other) items others →
      f (arr items) = f (arr others))
    (hobj : ∀ members others : List (String × Json),
      SameUpTo (fun member other => f member.2 = f other.2) members others →
        f (obj members) = f (obj others))
    {left right : Json} (h : Rearranged left right) : f left = f right := by
  induction h with
  | refl value => rfl
  | symm _ ih => exact ih.symm
  | trans _ _ ih ih' => exact ih.trans ih'
  | items _ h ih => exact harr _ _ (h.mono ih)
  | members _ h ih =>
      exact hobj _ _ ((SameUpTo.of_forall₂ h).mono fun member other hpair => ih _ _ hpair.2)
  | order _ h =>
      refine hobj _ _ ⟨fun member hmember => ⟨member, h.subset hmember, rfl⟩, ?_⟩
      exact fun member hmember => ⟨member, h.symm.subset hmember, rfl⟩

theorem depth_eq {left right : Json} (h : Rearranged left right) : left.depth = right.depth := by
  refine eq_of_local (fun items others hsame => ?_) (fun members others hsame => ?_) h
  · rw [depth, depth, Nat.add_right_cancel_iff]
    refine eq_of_forall_ge_iff fun room => ?_
    rw [itemsDepth_le_iff, itemsDepth_le_iff, hsame.forall_iff fun x y hxy => by rw [hxy]]
  · rw [depth, depth, Nat.add_right_cancel_iff]
    refine eq_of_forall_ge_iff fun room => ?_
    rw [membersDepth_le_iff, membersDepth_le_iff, hsame.forall_iff fun x y hxy => by rw [hxy]]

theorem nonFinite_eq_nil_iff {left right : Json} (h : Rearranged left right) :
    left.nonFinite = [] ↔ right.nonFinite = [] := by
  refine Iff.of_eq <| eq_of_local (f := fun value => value.nonFinite = [])
    (fun items others hsame => ?_) (fun members others hsame => ?_) h
  · rw [nonFinite_arr_eq_nil_iff, nonFinite_arr_eq_nil_iff,
      hsame.forall_iff fun x y hxy => Iff.of_eq hxy]
  · rw [nonFinite_obj_eq_nil_iff, nonFinite_obj_eq_nil_iff,
      hsame.forall_iff fun x y hxy => Iff.of_eq hxy]

theorem kind_eq {left right : Json} (h : Rearranged left right) : left.kind = right.kind :=
  eq_of_local (fun _ _ _ => by simp [kind, Node.kind]) (fun _ _ _ => by simp [kind, Node.kind]) h

end Rearranged

end Json

theorem IsDocument.of_rearranged [Room] {document other : Json} (hdocument : IsDocument document)
    (h : document.Rearranged other) : IsDocument other where
  container := h.kind_eq ▸ hdocument.container
  depth_le := h.depth_eq ▸ hdocument.depth_le
  finite := h.nonFinite_eq_nil_iff.mp hdocument.finite

/-- Documents are rearranged by rearranging each of them, by putting them in another
order and by repeating them. -/
def RearrangedAll (documents others : List Json) : Prop :=
  SameUpTo Json.Rearranged documents others

namespace RearrangedAll

variable {documents others : List Json}

theorem symm (h : RearrangedAll documents others) : RearrangedAll others documents :=
  (SameUpTo.symm h).mono fun _ _ hpair => hpair.symm

theorem similar (h : RearrangedAll documents others) :
    Similar (.union (documents.map Json.raw)) (.union (others.map Json.raw)) := by
  refine .set (fun _ _ => id) ?_
  rw [Json.flatten_map_raw, Json.flatten_map_raw]
  exact h.map fun _ _ hpair => hpair.raw

theorem exists_of_inferAll [Room] (h : RearrangedAll documents others) {type : Node}
    (htype : inferAll documents = .ok type) :
    ∃ other, inferAll others = .ok other ∧ type.same other = true := by
  obtain ⟨hne, hall, htype⟩ := inferAll_eq_ok_iff.mp htype
  obtain ⟨other, hother, hsame⟩ :=
    unifyNode_similar (isRaw_union_map_raw _) (isRaw_union_map_raw _) h.similar htype
  refine ⟨other, inferAll_eq_ok_iff.mpr ⟨?_, ?_, hother⟩, hsame⟩
  · rintro rfl
    obtain ⟨document, hdocument⟩ := List.exists_mem_of_ne_nil documents hne
    obtain ⟨_, hmem, -⟩ := h.forth document hdocument
    exact absurd hmem (by simp)
  · intro other hother
    obtain ⟨document, hdocument, hpair⟩ := h.back other hother
    exact (hall document hdocument).of_rearranged hpair

end RearrangedAll

/-- Similar raw trees are unified to equal types, and rearranged documents are
inferred to have equal types. -/
theorem inference_ignores_arrangement [Room] :
    (∀ left right : Node, left.isRaw → right.isRaw → Similar left right →
      Agree (unifyNode left) (unifyNode right)) ∧
    ∀ documents others : List Json, RearrangedAll documents others →
      Agree (inferAll documents) (inferAll others) := by
  constructor
  · intro left right hleft hright h
    exact agree_of_ok (fun _ => unifyNode_similar hleft hright h)
      fun _ => unifyNode_similar hright hleft h.symm
  · intro documents others h
    exact agree_of_ok (fun _ => h.exists_of_inferAll) fun _ => h.symm.exists_of_inferAll

/-- The sample in another arrangement of documents, keys and items. -/
def rearrangedSample : List Json :=
  [.obj [("id", .null), ("sizes", .arr [.int 3, .int 2, .int 3])],
    .obj [("id", .int 1), ("sizes", .arr [])], .obj [("sizes", .arr []), ("id", .int 1)]]

theorem rearrangedAll_sample : RearrangedAll sampleDocuments rearrangedSample := by
  have hswap (left right : String × Json) (hne : left.1 ≠ right.1) :
      Json.Rearranged (.obj [left, right]) (.obj [right, left]) :=
    .order (by simpa using hne) (.swap right left [])
  have hitems : Json.Rearranged (.arr [.int 2, .int 3]) (.arr [.int 3, .int 2, .int 3]) :=
    .items (R := Eq) (fun _ _ h => h ▸ .refl _) ⟨by simp, by simp⟩
  have hfirst := hswap ("id", .int 1) ("sizes", .arr []) (by decide)
  have hsecond : Json.Rearranged (.obj [("sizes", .arr [.int 2, .int 3]), ("id", .null)])
      (.obj [("id", .null), ("sizes", .arr [.int 3, .int 2, .int 3])]) :=
    (hswap _ _ (by decide)).trans
      (.members (fun _ _ => id) (.cons ⟨rfl, .refl _⟩ (.cons ⟨rfl, hitems⟩ .nil)))
  constructor
  · rw [sampleDocuments, List.forall_mem_cons, List.forall_mem_singleton]
    exact ⟨⟨_, by simp [rearrangedSample], .refl _⟩, _, List.mem_cons_self, hsecond⟩
  · rw [rearrangedSample, List.forall_mem_cons, List.forall_mem_cons, List.forall_mem_singleton]
    exact ⟨⟨_, List.mem_cons_of_mem _ List.mem_cons_self, hsecond⟩,
      ⟨_, List.mem_cons_self, .refl _⟩, _, List.mem_cons_self, hfirst⟩

/-- Alternatives in two groupings. -/
def groupedNumbers : Node := .union [.int, .union [.float, .int]]

def flatNumbers : Node := .union [.float, .int]

theorem similar_groupedNumbers : Similar groupedNumbers flatNumbers :=
  .set (R := Eq) (fun _ _ h => h ▸ .refl _)
    ⟨by simp [Node.flatten, Node.alternatives, Node.int, Node.float],
      by simp [Node.flatten, Node.alternatives, Node.int, Node.float]⟩

theorem inference_ignores_arrangement_sample :
    (unifyNode groupedNumbers = .ok .float ∧
        Agree (unifyNode groupedNumbers) (unifyNode flatNumbers)) ∧
      inferAll sampleDocuments = .ok sampleType ∧
        Agree (inferAll sampleDocuments) (inferAll rearrangedSample) :=
  ⟨⟨rfl, inference_ignores_arrangement.1 _ _ rfl rfl similar_groupedNumbers⟩,
    inferAll_sampleDocuments, inference_ignores_arrangement.2 _ _ rearrangedAll_sample⟩

end JsonShape

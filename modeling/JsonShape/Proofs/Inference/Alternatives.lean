import JsonShape.Inference.Unify
import Mathlib.Tactic.Push

/-!
# Alternatives of one place

Opening up a union leaves alternatives that are no unions themselves.  What they
are merged to depends on the set of their kinds only, which is one of four
mixtures: no kind, a single kind, both kinds of numbers, or a disagreement.
-/

set_option autoImplicit false

namespace JsonShape

namespace Node

/-! ## Opened unions -/

theorem flatten_eq_flatMap (nodes : List Node) : flatten nodes = nodes.flatMap alternatives := by
  induction nodes with
  | nil => simp [flatten]
  | cons node rest ih => rw [flatten, ih, List.flatMap_cons]

theorem mem_flatten_iff {node : Node} {nodes : List Node} :
    node ∈ flatten nodes ↔ ∃ other ∈ nodes, node ∈ other.alternatives := by
  rw [flatten_eq_flatMap, List.mem_flatMap]

/-- Opening up leaves a list without unions as it is. -/
theorem flatten_eq_self {nodes : List Node}
    (h : ∀ node ∈ nodes, node.alternatives = [node]) : flatten nodes = nodes := by
  induction nodes with
  | nil => simp [flatten]
  | cons node rest ih =>
      rw [flatten, h node List.mem_cons_self,
        ih fun other hother => h other (List.mem_cons_of_mem _ hother)]
      rfl

mutual

theorem alternatives_of_mem_alternatives {node alternative : Node}
    (h : alternative ∈ node.alternatives) : alternative.alternatives = [alternative] := by
  match node with
  | union nodes =>
      rw [alternatives] at h
      exact alternatives_of_mem_flatten h
  | primitive _ | any | ignore | slice _ | struct _ | rawSlice _ | rawStruct _ =>
      simp only [alternatives, List.mem_singleton] at h
      rw [h, alternatives]
      all_goals simp

/-- An alternative stands for itself only. -/
theorem alternatives_of_mem_flatten {nodes : List Node} {alternative : Node}
    (h : alternative ∈ flatten nodes) : alternative.alternatives = [alternative] := by
  match nodes with
  | [] => simp [flatten] at h
  | node :: rest =>
      rw [flatten, List.mem_append] at h
      rcases h with hnode | hrest
      · exact alternatives_of_mem_alternatives hnode
      · exact alternatives_of_mem_flatten hrest

end

/-! ## Raw trees -/

mutual

/-- Whether no finished slice or struct occurs in a tree. -/
def isRaw : Node → Bool
  | primitive _ | any | ignore => true
  | slice _ | struct _ => false
  | rawSlice element => element.isRaw
  | rawStruct fields => entriesRaw fields
  | union nodes => allRaw nodes

def allRaw : List Node → Bool
  | [] => true
  | node :: rest => node.isRaw && allRaw rest

def entriesRaw : List (String × Node) → Bool
  | [] => true
  | (_, node) :: rest => node.isRaw && entriesRaw rest

end

theorem allRaw_iff {nodes : List Node} : allRaw nodes = true ↔ ∀ node ∈ nodes, node.isRaw := by
  induction nodes with
  | nil => simp [allRaw]
  | cons node rest ih => simp [allRaw, ih]

theorem entriesRaw_iff {fields : List (String × Node)} :
    entriesRaw fields = true ↔ ∀ entry ∈ fields, entry.2.isRaw := by
  induction fields with
  | nil => simp [entriesRaw]
  | cons entry rest ih => simp [entriesRaw, ih]

mutual

theorem isRaw_of_mem_alternatives {node alternative : Node} (hraw : node.isRaw)
    (h : alternative ∈ node.alternatives) : alternative.isRaw := by
  match node with
  | union nodes =>
      rw [alternatives] at h
      exact isRaw_of_mem_flatten (allRaw_iff.mp (by simpa [isRaw] using hraw)) h
  | primitive _ | any | ignore | slice _ | struct _ | rawSlice _ | rawStruct _ =>
      simp only [alternatives, List.mem_singleton] at h
      rwa [h]

/-- The alternatives of raw trees are raw trees. -/
theorem isRaw_of_mem_flatten {nodes : List Node} {alternative : Node}
    (hraw : ∀ node ∈ nodes, node.isRaw) (h : alternative ∈ flatten nodes) :
    alternative.isRaw := by
  match nodes with
  | [] => simp [flatten] at h
  | node :: rest =>
      rw [flatten, List.mem_append] at h
      rcases h with hnode | hrest
      · exact isRaw_of_mem_alternatives (hraw node List.mem_cons_self) hnode
      · exact isRaw_of_mem_flatten (fun other hother => hraw other (List.mem_cons_of_mem _ hother))
          hrest

end

end Node

namespace Unify

/-! ## Mixtures of kinds -/

/-- What a list of kinds can be. -/
inductive Mixture (kinds : List Kind) : Prop
  | none (hkinds : kinds = [])
  | uniform (kind : Kind) (hne : kinds ≠ []) (hkinds : ∀ other ∈ kinds, other = kind)
  | numbers (left right : Kind) (hleft : left ∈ kinds) (hright : right ∈ kinds)
      (hne : left ≠ right) (hkinds : ∀ kind ∈ kinds, isNumeric kind)
  | mixed (left right : Kind) (hleft : left ∈ kinds) (hright : right ∈ kinds)
      (hne : left ≠ right) (hnumbers : ¬(isNumeric left ∧ isNumeric right))

theorem mixture (kinds : List Kind) : Mixture kinds := by
  cases kinds with
  | nil => exact .none rfl
  | cons first rest =>
      by_cases huniform : ∀ other ∈ first :: rest, other = first
      · exact .uniform first (List.cons_ne_nil _ _) huniform
      · push Not at huniform
        obtain ⟨other, hother, hne⟩ := huniform
        by_cases hnumbers : ∀ kind ∈ first :: rest, isNumeric kind
        · exact .numbers other first hother List.mem_cons_self hne hnumbers
        · push Not at hnumbers
          obtain ⟨odd, hodd, hnumber⟩ := hnumbers
          -- a kind that is no number's disagrees with the first or with the other kind
          by_cases hfirst : odd = first
          · exact .mixed odd other hodd hother (hfirst ▸ hne.symm) fun h => hnumber h.1
          · exact .mixed odd first hodd List.mem_cons_self hfirst fun h => hnumber h.1

theorem outcome_eq_uniform {kinds : List Kind} {kind : Kind} (hne : kinds ≠ [])
    (hkinds : ∀ other ∈ kinds, other = kind) : outcome kinds = uniform kind := by
  cases kinds with
  | nil => exact absurd rfl hne
  | cons first rest =>
      have hfirst : first = kind := hkinds first List.mem_cons_self
      have hrest : rest.all (· == first) = true := by
        rw [List.all_eq_true]
        intro other hother
        rw [hkinds other (List.mem_cons_of_mem _ hother), hfirst, beq_self_eq_true]
      rw [outcome, if_pos hrest, hfirst]

/-- Two kinds that differ leave only the question whether all are numbers. -/
theorem outcome_of_ne {kinds : List Kind} {left right : Kind} (hleft : left ∈ kinds)
    (hright : right ∈ kinds) (hne : left ≠ right) :
    outcome kinds = .leaf (if kinds.all isNumeric then .float else .any) := by
  cases kinds with
  | nil => simp at hleft
  | cons first rest =>
      have hrest : ¬rest.all (· == first) = true := by
        intro hall
        have hsame : ∀ kind ∈ first :: rest, kind = first :=
          List.forall_mem_cons.mpr
            ⟨rfl, fun kind hkind => by simpa using List.all_eq_true.mp hall kind hkind⟩
        exact hne ((hsame left hleft).trans (hsame right hright).symm)
      rw [outcome, if_neg hrest]
      split <;> simp_all

theorem outcome_eq_float {kinds : List Kind} {left right : Kind} (hleft : left ∈ kinds)
    (hright : right ∈ kinds) (hne : left ≠ right) (hkinds : ∀ kind ∈ kinds, isNumeric kind) :
    outcome kinds = .leaf .float := by
  rw [outcome_of_ne hleft hright hne, if_pos (List.all_eq_true.mpr hkinds)]

theorem outcome_eq_any {kinds : List Kind} {left right : Kind} (hleft : left ∈ kinds)
    (hright : right ∈ kinds) (hne : left ≠ right)
    (hnumbers : ¬(isNumeric left ∧ isNumeric right)) : outcome kinds = .leaf .any := by
  rw [outcome_of_ne hleft hright hne, if_neg]
  intro hall
  rw [List.all_eq_true] at hall
  exact hnumbers ⟨hall left hleft, hall right hright⟩

/-- The outcome depends on which kinds occur, not on how often or in which order. -/
theorem outcome_congr {kinds others : List Kind}
    (hkinds : ∀ kind, kind ∈ kinds ↔ kind ∈ others) : outcome kinds = outcome others := by
  cases mixture kinds with
  | none hnil =>
      have hothers : others = [] := by
        apply List.eq_nil_iff_forall_not_mem.mpr
        intro kind hkind
        simpa [hnil] using (hkinds kind).mpr hkind
      rw [hnil, hothers]
  | uniform kind hne huniform =>
      obtain ⟨some, hsome⟩ := List.exists_mem_of_ne_nil kinds hne
      rw [outcome_eq_uniform hne huniform, outcome_eq_uniform
        (List.ne_nil_of_mem ((hkinds some).mp hsome))
        fun other hother => huniform other ((hkinds other).mpr hother)]
  | numbers left right hleft hright hne hnumbers =>
      rw [outcome_eq_float hleft hright hne hnumbers, outcome_eq_float ((hkinds left).mp hleft)
        ((hkinds right).mp hright) hne fun kind hkind => hnumbers kind ((hkinds kind).mpr hkind)]
  | mixed left right hleft hright hne hnumbers =>
      rw [outcome_eq_any hleft hright hne hnumbers, outcome_eq_any ((hkinds left).mp hleft)
        ((hkinds right).mp hright) hne hnumbers]

/-- Containers are merged as such only when every kind is theirs. -/
theorem eq_of_outcome_eq_uniform {kinds : List Kind} {kind : Kind}
    (hcontainer : kind = .slice ∨ kind = .struct) (h : outcome kinds = uniform kind) :
    ∀ other ∈ kinds, other = kind := by
  cases mixture kinds with
  | none hnil => simp [hnil]
  | uniform single hne huniform =>
      rw [outcome_eq_uniform hne huniform] at h
      have hsingle : single = kind := by
        rcases hcontainer with rfl | rfl <;> cases single <;> simp [uniform] at h ⊢
      exact hsingle ▸ huniform
  | numbers left right hleft hright hne hnumbers =>
      rw [outcome_eq_float hleft hright hne hnumbers] at h
      rcases hcontainer with rfl | rfl <;> simp [uniform] at h
  | mixed left right hleft hright hne hnumbers =>
      rw [outcome_eq_any hleft hright hne hnumbers] at h
      rcases hcontainer with rfl | rfl <;> simp [uniform] at h

end Unify

end JsonShape

import JsonShape.Proofs.Equality
import JsonShape.Proofs.Inference.Merging

/-!
# Similar raw trees

A union stands for the set of its alternatives: their order, their number and
the way in which they are grouped do not count, nor does the order of a struct's
fields.  Raw trees that differ in nothing else are similar.  Similar trees have
matching alternatives, and pools of matching alternatives are merged to the same
type: `mergesAlike`.
-/

set_option autoImplicit false

namespace JsonShape

/-- Two lists have the same elements, up to a relation. -/
structure SameUpTo {α β : Type} (R : α → β → Prop) (left : List α) (right : List β) : Prop where
  forth : ∀ x ∈ left, ∃ y ∈ right, R x y
  back : ∀ y ∈ right, ∃ x ∈ left, R x y

namespace SameUpTo

variable {α β γ : Type} {R : α → β → Prop} {left : List α} {right : List β}

theorem refl {S : α → α → Prop} (hS : ∀ x, S x x) (values : List α) : SameUpTo S values values :=
  ⟨fun x hx => ⟨x, hx, hS x⟩, fun x hx => ⟨x, hx, hS x⟩⟩

theorem symm (h : SameUpTo R left right) : SameUpTo (fun y x => R x y) right left :=
  ⟨h.back, h.forth⟩

theorem mono {S : α → β → Prop} (h : SameUpTo R left right) (hRS : ∀ x y, R x y → S x y) :
    SameUpTo S left right where
  forth x hx := (h.forth x hx).imp fun y hy => ⟨hy.1, hRS x y hy.2⟩
  back y hy := (h.back y hy).imp fun x hx => ⟨hx.1, hRS x y hx.2⟩

theorem comp {S : β → γ → Prop} {last : List γ} (h : SameUpTo R left right)
    (hS : SameUpTo S right last) : SameUpTo (fun x z => ∃ y, R x y ∧ S y z) left last where
  forth x hx := by
    obtain ⟨y, hy, hxy⟩ := h.forth x hx
    obtain ⟨z, hz, hyz⟩ := hS.forth y hy
    exact ⟨z, hz, y, hxy, hyz⟩
  back z hz := by
    obtain ⟨y, hy, hyz⟩ := hS.back z hz
    obtain ⟨x, hx, hxy⟩ := h.back y hy
    exact ⟨x, hx, y, hxy, hyz⟩

theorem append {left' : List α} {right' : List β} (h : SameUpTo R left right)
    (h' : SameUpTo R left' right') : SameUpTo R (left ++ left') (right ++ right') where
  forth x hx := by
    rcases List.mem_append.mp hx with hx | hx
    · obtain ⟨y, hy, hxy⟩ := h.forth x hx
      exact ⟨y, List.mem_append_left _ hy, hxy⟩
    · obtain ⟨y, hy, hxy⟩ := h'.forth x hx
      exact ⟨y, List.mem_append_right _ hy, hxy⟩
  back y hy := by
    rcases List.mem_append.mp hy with hy | hy
    · obtain ⟨x, hx, hxy⟩ := h.back y hy
      exact ⟨x, List.mem_append_left _ hx, hxy⟩
    · obtain ⟨x, hx, hxy⟩ := h'.back y hy
      exact ⟨x, List.mem_append_right _ hx, hxy⟩

theorem singleton_iff {x : α} {y : β} : SameUpTo R [x] [y] ↔ R x y :=
  ⟨fun h => by simpa using h.forth x (List.mem_singleton_self x),
    fun h => ⟨by simpa using h, by simpa using h⟩⟩

theorem map {γ δ : Type} {S : γ → δ → Prop} {f : α → γ} {g : β → δ} (h : SameUpTo R left right)
    (hRS : ∀ x y, R x y → S (f x) (g y)) : SameUpTo S (left.map f) (right.map g) where
  forth := by
    rw [List.forall_mem_map]
    intro x hx
    obtain ⟨y, hy, hxy⟩ := h.forth x hx
    exact ⟨g y, List.mem_map_of_mem hy, hRS x y hxy⟩
  back := by
    rw [List.forall_mem_map]
    intro y hy
    obtain ⟨x, hx, hxy⟩ := h.back y hy
    exact ⟨f x, List.mem_map_of_mem hx, hRS x y hxy⟩

theorem of_forall₂ (h : List.Forall₂ R left right) : SameUpTo R left right := by
  induction h with
  | nil => exact ⟨by simp, by simp⟩
  | cons hxy _ ih => exact (singleton_iff.mpr hxy).append ih

/-- What the related elements agree on is found in both lists or in neither. -/
theorem exists_iff (h : SameUpTo R left right) {p : α → Prop} {q : β → Prop}
    (hpq : ∀ x y, R x y → (p x ↔ q y)) : (∃ x ∈ left, p x) ↔ ∃ y ∈ right, q y := by
  constructor
  · rintro ⟨x, hx, hp⟩
    obtain ⟨y, hy, hxy⟩ := h.forth x hx
    exact ⟨y, hy, (hpq x y hxy).mp hp⟩
  · rintro ⟨y, hy, hq⟩
    obtain ⟨x, hx, hxy⟩ := h.back y hy
    exact ⟨x, hx, (hpq x y hxy).mpr hq⟩

theorem forall_iff (h : SameUpTo R left right) {p : α → Prop} {q : β → Prop}
    (hpq : ∀ x y, R x y → (p x ↔ q y)) : (∀ x ∈ left, p x) ↔ ∀ y ∈ right, q y := by
  constructor
  · intro hall y hy
    obtain ⟨x, hx, hxy⟩ := h.back y hy
    exact (hpq x y hxy).mp (hall x hx)
  · intro hall x hx
    obtain ⟨y, hy, hxy⟩ := h.forth x hx
    exact (hpq x y hxy).mpr (hall y hy)

end SameUpTo

section OptionRel

variable {α β γ : Type} {R : α → β → Prop} {left : Option α} {right : Option β}

theorem optionRel_mono {S : α → β → Prop} (h : Option.Rel R left right)
    (hRS : ∀ x y, R x y → S x y) : Option.Rel S left right := by
  cases h with
  | some hxy => exact .some (hRS _ _ hxy)
  | none => exact .none

theorem optionRel_symm (h : Option.Rel R left right) :
    Option.Rel (fun y x => R x y) right left := by
  cases h with
  | some hxy => exact .some hxy
  | none => exact .none

theorem optionRel_comp {S : β → γ → Prop} {last : Option γ} (h : Option.Rel R left right)
    (hS : Option.Rel S right last) : Option.Rel (fun x z => ∃ y, R x y ∧ S y z) left last := by
  cases h with
  | some hxy =>
      cases hS with
      | some hyz => exact .some ⟨_, hxy, hyz⟩
  | none =>
      cases hS with
      | none => exact .none

theorem optionRel_isSome_iff (h : Option.Rel R left right) :
    left.isSome = true ↔ right.isSome = true := by
  cases h <;> simp

theorem optionRel_eq_none_iff (h : Option.Rel R left right) : left = none ↔ right = none := by
  cases h <;> simp

theorem optionRel_exists_iff (h : Option.Rel R left right) {p : α → Prop} {q : β → Prop}
    (hpq : ∀ x y, R x y → (p x ↔ q y)) :
    (∃ x, left = some x ∧ p x) ↔ ∃ y, right = some y ∧ q y := by
  cases h with
  | some hxy => simpa using hpq _ _ hxy
  | none => simp

end OptionRel

/-- Entries of the same names in the same order are found alike. -/
theorem lookup_rel_of_forall₂ {α : Type} {R : α → α → Prop} {entries others : List (String × α)}
    (h : List.Forall₂ (fun entry other => entry.1 = other.1 ∧ R entry.2 other.2) entries others)
    (name : String) : Option.Rel R (entries.lookup name) (others.lookup name) := by
  induction h with
  | nil => exact .none
  | @cons entry other _ _ hentry _ ih =>
      rw [List.lookup_cons, List.lookup_cons, hentry.1]
      cases name == other.1 with
      | true => exact .some hentry.2
      | false => exact ih

/-- The least congruence on raw trees for which a node is the union of itself and
a union is the set of its alternatives, in which `R` collects pairs that are
similar already. -/
inductive Similar : Node → Node → Prop
  | refl (node : Node) : Similar node node
  | symm {left right : Node} (h : Similar left right) : Similar right left
  | trans {left middle right : Node} (h : Similar left middle) (h' : Similar middle right) :
      Similar left right
  | single (node : Node) : Similar node (.union [node])
  | set {R : Node → Node → Prop} {nodes others : List Node} (hR : ∀ x y, R x y → Similar x y)
      (h : SameUpTo R (Node.flatten nodes) (Node.flatten others)) :
      Similar (.union nodes) (.union others)
  | order {fields others : List (String × Node)} (hnames : (fields.map Prod.fst).Nodup)
      (h : fields.Perm others) : Similar (.rawStruct fields) (.rawStruct others)
  | rawSlice {element other : Node} (h : Similar element other) :
      Similar (.rawSlice element) (.rawSlice other)
  | rawStruct {R : Node → Node → Prop} {fields others : List (String × Node)}
      (hR : ∀ x y, R x y → Similar x y)
      (h : List.Forall₂ (fun field other => field.1 = other.1 ∧ R field.2 other.2) fields others) :
      Similar (.rawStruct fields) (.rawStruct others)
  | union {R : Node → Node → Prop} {nodes others : List Node} (hR : ∀ x y, R x y → Similar x y)
      (h : List.Forall₂ R nodes others) : Similar (.union nodes) (.union others)

/-! ## Matching alternatives -/

/-- Two alternatives match when what is below them has matching alternatives.
`R` collects pairs that match already. -/
inductive Matches : Node → Node → Prop
  | refl (node : Node) : Matches node node
  | slice {R : Node → Node → Prop} {element other : Node} (hR : ∀ x y, R x y → Matches x y)
      (h : SameUpTo R element.alternatives other.alternatives) :
      Matches (.rawSlice element) (.rawSlice other)
  | struct {R : Node → Node → Prop} {fields others : List (String × Node)}
      (hR : ∀ x y, R x y → Matches x y)
      (h : ∀ name, Option.Rel (fun node other => SameUpTo R node.alternatives other.alternatives)
        (fields.lookup name) (others.lookup name)) :
      Matches (.rawStruct fields) (.rawStruct others)

namespace Matches

theorem kind_eq {left right : Node} (h : Matches left right) : left.kind = right.kind := by
  cases h <;> rfl

theorem isIgnore_eq {left right : Node} (h : Matches left right) :
    left.isIgnore = right.isIgnore := by
  cases h <;> rfl

theorem slice_inv {element right : Node} (h : Matches (.rawSlice element) right) :
    ∃ other, right = .rawSlice other ∧
      SameUpTo Matches element.alternatives other.alternatives := by
  cases h with
  | refl => exact ⟨element, rfl, .refl .refl _⟩
  | slice hR h => exact ⟨_, rfl, h.mono hR⟩

theorem struct_inv {fields : List (String × Node)} {right : Node}
    (h : Matches (.rawStruct fields) right) :
    ∃ others, right = .rawStruct others ∧ ∀ name,
      Option.Rel (fun node other => SameUpTo Matches node.alternatives other.alternatives)
        (fields.lookup name) (others.lookup name) := by
  cases h with
  | refl =>
      refine ⟨fields, rfl, fun name => ?_⟩
      cases fields.lookup name with
      | none => exact .none
      | some node => exact .some (.refl .refl _)
  | struct hR h => exact ⟨_, rfl, fun name => optionRel_mono (h name) fun _ _ h => h.mono hR⟩

theorem symm {left right : Node} (h : Matches left right) : Matches right left := by
  induction h with
  | refl node => exact .refl node
  | slice hR h ih => exact .slice (fun x y hxy => ih y x hxy) h.symm
  | struct hR h ih =>
      refine .struct (fun x y hxy => ih y x hxy) fun name => ?_
      exact optionRel_mono (optionRel_symm (h name)) fun _ _ h => h.symm

theorem trans {left middle right : Node} (h : Matches left middle) (h' : Matches middle right) :
    Matches left right := by
  induction h generalizing right with
  | refl node => exact h'
  | @slice R element middle hR h ih =>
      obtain ⟨other, rfl, hother⟩ := h'.slice_inv
      exact .slice (R := fun x z => ∃ y, R x y ∧ Matches y z)
        (fun x z ⟨y, hxy, hyz⟩ => ih x y hxy hyz) (h.comp hother)
  | @struct R fields middle hR h ih =>
      obtain ⟨others, rfl, hothers⟩ := h'.struct_inv
      refine .struct (R := fun x z => ∃ y, R x y ∧ Matches y z)
        (fun x z ⟨y, hxy, hyz⟩ => ih x y hxy hyz) fun name => ?_
      exact optionRel_mono (optionRel_comp (h name) (hothers name))
        fun _ _ ⟨_, hxy, hyz⟩ => hxy.comp hyz

/-- Two structs match when they have the same names with matching alternatives. -/
def Fields (fields others : List (String × Node)) : Prop :=
  ∀ name, Option.Rel (fun node other => SameUpTo Matches node.alternatives other.alternatives)
    (fields.lookup name) (others.lookup name)

end Matches

theorem Matches.Fields.symm {fields others : List (String × Node)} (h : Fields fields others) :
    Fields others fields :=
  fun name => optionRel_mono (optionRel_symm (h name)) fun _ _ h =>
    h.symm.mono fun _ _ h => h.symm

theorem SameUpTo.flip {nodes others : List Node} (h : SameUpTo Matches nodes others) :
    SameUpTo Matches others nodes :=
  h.symm.mono fun _ _ h => h.symm

/-- Similar trees have matching alternatives. -/
theorem Similar.alternatives {left right : Node} (h : Similar left right) :
    SameUpTo Matches left.alternatives right.alternatives := by
  induction h with
  | refl node => exact .refl .refl _
  | symm _ ih => exact ih.symm.mono fun _ _ h => h.symm
  | trans _ _ ih ih' => exact (ih.comp ih').mono fun _ _ ⟨_, h, h'⟩ => h.trans h'
  | single node =>
      rw [Node.alternatives, Node.flatten, Node.flatten, List.append_nil]
      exact .refl .refl _
  | @set R nodes others hR h ih =>
      have hmatches {x y : Node} (hx : x ∈ Node.flatten nodes) (hy : y ∈ Node.flatten others)
          (hxy : R x y) : Matches x y := by
        have hsame := ih x y hxy
        rwa [Node.alternatives_of_mem_flatten hx, Node.alternatives_of_mem_flatten hy,
          SameUpTo.singleton_iff] at hsame
      rw [Node.alternatives, Node.alternatives]
      constructor
      · intro x hx
        obtain ⟨y, hy, hxy⟩ := h.forth x hx
        exact ⟨y, hy, hmatches hx hy hxy⟩
      · intro y hy
        obtain ⟨x, hx, hxy⟩ := h.back y hy
        exact ⟨x, hx, hmatches hx hy hxy⟩
  | @order fields others hnames h =>
      refine SameUpTo.singleton_iff.mpr (.struct (fun _ _ => id) fun name => ?_)
      rw [lookup_eq_of_perm hnames h]
      cases others.lookup name with
      | none => exact .none
      | some node => exact .some (.refl .refl _)
  | rawSlice _ ih => exact SameUpTo.singleton_iff.mpr (.slice (fun _ _ => id) ih)
  | rawStruct hR h ih =>
      refine SameUpTo.singleton_iff.mpr (.struct (fun _ _ => id) fun name => ?_)
      exact optionRel_mono (lookup_rel_of_forall₂ h name) ih
  | union hR h ih =>
      rw [Node.alternatives, Node.alternatives]
      clear hR
      induction h with
      | nil => exact .refl .refl _
      | cons hxy _ ihrest => exact (ih _ _ hxy).append ihrest

/-! ## Merging matching alternatives -/

open Unify

variable {nodes others : List Node}

theorem outcome_of_sameUpTo (h : SameUpTo Matches nodes others) :
    outcome (kindsOf nodes) = outcome (kindsOf others) := by
  apply outcome_congr
  intro kind
  rw [mem_kindsOf_iff, mem_kindsOf_iff, h.exists_iff fun x y hxy => by rw [hxy.kind_eq]]

theorem exists_matching_item (h : SameUpTo Matches nodes others) :
    ∀ item ∈ itemPool nodes, ∃ other ∈ itemPool others, Matches item other := by
  intro item hitem
  obtain ⟨element, helement, hitem⟩ := mem_itemPool_iff.mp hitem
  obtain ⟨slice, hslice, hmatches⟩ := h.forth _ helement
  obtain ⟨otherElement, rfl, hsame⟩ := hmatches.slice_inv
  obtain ⟨other, hother, hmatch⟩ := hsame.forth item hitem
  exact ⟨other, mem_itemPool_iff.mpr ⟨otherElement, hslice, hother⟩, hmatch⟩

theorem itemPool_of_sameUpTo (h : SameUpTo Matches nodes others) :
    SameUpTo Matches (itemPool nodes) (itemPool others) where
  forth := exists_matching_item h
  back item hitem := by
    obtain ⟨other, hother, hmatch⟩ := exists_matching_item h.flip item hitem
    exact ⟨other, hother, hmatch.symm⟩

theorem structPool_of_sameUpTo (h : SameUpTo Matches nodes others) :
    SameUpTo Matches.Fields (structPool nodes) (structPool others) where
  forth fields hfields := by
    obtain ⟨struct, hstruct, hmatches⟩ := h.forth _ (mem_structPool_iff.mp hfields)
    obtain ⟨matching, rfl, hsame⟩ := hmatches.struct_inv
    exact ⟨matching, mem_structPool_iff.mpr hstruct, hsame⟩
  back fields hfields := by
    obtain ⟨struct, hstruct, hmatches⟩ := h.back _ (mem_structPool_iff.mp hfields)
    obtain ⟨matching, rfl, hsame⟩ := hmatches.symm.struct_inv
    exact ⟨matching, mem_structPool_iff.mpr hstruct, Matches.Fields.symm hsame⟩

variable {structs matching : List (List (String × Node))}

theorem mem_fieldNames_of_sameUpTo (h : SameUpTo Matches.Fields structs matching) (name : String) :
    name ∈ fieldNames structs ↔ name ∈ fieldNames matching := by
  rw [mem_fieldNames_iff, mem_fieldNames_iff,
    h.exists_iff fun fields others hfields => optionRel_isSome_iff (hfields name)]

theorem exists_matching_present (h : SameUpTo Matches.Fields structs matching) (name : String) :
    ∀ value ∈ presentIn name structs, ∃ other ∈ presentIn name matching, Matches value other := by
  intro value hvalue
  obtain ⟨hpresent, fields, hfields, node, hnode, hvalue⟩ := mem_presentIn_iff.mp hvalue
  obtain ⟨others, hothers, hmatches⟩ := h.forth fields hfields
  have hname := hmatches name
  rw [hnode] at hname
  cases hlookup : others.lookup name with
  | none => simp [hlookup] at hname
  | some found =>
      rw [hlookup, Option.rel_some_some] at hname
      obtain ⟨other, hother, hsame⟩ := hname.forth value hvalue
      refine ⟨other, mem_presentIn_iff.mpr ⟨?_, others, hothers, found, hlookup, hother⟩, hsame⟩
      rw [← hsame.isIgnore_eq, hpresent]

theorem presentIn_of_sameUpTo (h : SameUpTo Matches.Fields structs matching) (name : String) :
    SameUpTo Matches (presentIn name structs) (presentIn name matching) where
  forth := exists_matching_present h name
  back value hvalue := by
    have hflip := h.symm.mono fun _ _ hfields => Matches.Fields.symm hfields
    obtain ⟨other, hother, hmatch⟩ := exists_matching_present hflip name value hvalue
    exact ⟨other, hother, hmatch.symm⟩

theorem isOptional_of_sameUpTo (h : SameUpTo Matches.Fields structs matching) (name : String) :
    isOptional name structs = isOptional name matching := by
  have hnull {node other : Node} (hsame : SameUpTo Matches node.alternatives other.alternatives) :
      (∃ value ∈ node.alternatives, value.isIgnore = true) ↔
        ∃ value ∈ other.alternatives, value.isIgnore = true :=
    hsame.exists_iff fun x y hxy => by rw [hxy.isIgnore_eq]
  rw [Bool.eq_iff_iff, isOptional_iff, isOptional_iff,
    h.exists_iff fun fields others hfields => optionRel_eq_none_iff (hfields name),
    h.exists_iff fun fields others hfields =>
      optionRel_exists_iff (hfields name) fun node other hsame => hnull hsame]

/-- The leaves that alternatives are merged to equal themselves. -/
theorem same_of_outcome_eq_leaf {kinds : List Kind} {node : Node}
    (h : outcome kinds = .leaf node) : node.same node = true := by
  cases mixture kinds with
  | none hnil =>
      rw [hnil, outcome, Outcome.leaf.injEq] at h
      simp [← h, Node.same]
  | uniform kind hne huniform =>
      rw [outcome_eq_uniform hne huniform] at h
      cases kind <;> simp only [uniform, Outcome.leaf.injEq, reduceCtorEq] at h <;>
        simp [← h, Node.same]
  | numbers left right hleft hright hne hnumbers =>
      rw [outcome_eq_float hleft hright hne hnumbers, Outcome.leaf.injEq] at h
      simp [← h, Node.float, Node.same]
  | mixed left right hleft hright hne hnumbers =>
      rw [outcome_eq_any hleft hright hne hnumbers, Outcome.leaf.injEq] at h
      simp [← h, Node.same]

theorem leaf_alike {room : Nat} (h : SameUpTo Matches nodes others) {type : Node}
    (houtcome : outcome (kindsOf nodes) = .leaf type) :
    ∃ other, merge room others = .ok other ∧ type.same other = true :=
  ⟨type, merge_leaf room (outcome_of_sameUpTo h ▸ houtcome), same_of_outcome_eq_leaf houtcome⟩

/-- Where there is room for it, merging gives equal types for matching pools. -/
def MergesAlike (room : Nat) : Prop :=
  ∀ {nodes others : List Node}, (∀ node ∈ nodes, node.isRaw) → (∀ node ∈ others, node.isRaw) →
    SameUpTo Matches nodes others → ∀ {type : Node}, merge room nodes = .ok type →
      ∃ other, merge room others = .ok other ∧ type.same other = true

theorem merge_slices_alike {room : Nat} (hroom : MergesAlike room)
    (hnodes : ∀ node ∈ nodes, node.isRaw) (hothers : ∀ node ∈ others, node.isRaw)
    (h : SameUpTo Matches nodes others) (houtcome : outcome (kindsOf nodes) = .slices) {type : Node}
    (htype : merge (room + 1) nodes = .ok type) :
    ∃ other, merge (room + 1) others = .ok other ∧ type.same other = true := by
  have hitems := itemPool_of_sameUpTo h
  have hsame := outcome_of_sameUpTo h ▸ houtcome
  rw [merge_slices_eq_ok_iff hnodes houtcome] at htype
  rcases htype with ⟨hnull, rfl⟩ | ⟨hnull, element, helement, rfl⟩
  · rw [hitems.exists_iff fun x y hxy => by rw [hxy.isIgnore_eq]] at hnull
    refine ⟨_, (merge_slices_eq_ok_iff hothers hsame).mpr (.inl ⟨hnull, rfl⟩), ?_⟩
    simp [Node.same]
  · obtain ⟨other, hother, hequal⟩ := hroom (fun _ => isRaw_of_mem_itemPool hnodes)
      (fun _ => isRaw_of_mem_itemPool hothers) hitems helement
    have hpresent : ∀ item ∈ itemPool others, item.isIgnore = false := by
      intro item hitem
      obtain ⟨match_, hmatch, hmatches⟩ := hitems.back item hitem
      rw [← hmatches.isIgnore_eq, hnull match_ hmatch]
    refine ⟨_, (merge_slices_eq_ok_iff hothers hsame).mpr (.inr ⟨hpresent, other, hother, rfl⟩), ?_⟩
    rw [Node.same, hequal]

theorem merge_structs_alike {room : Nat} (hroom : MergesAlike room)
    (hnodes : ∀ node ∈ nodes, node.isRaw) (hothers : ∀ node ∈ others, node.isRaw)
    (h : SameUpTo Matches nodes others) (houtcome : outcome (kindsOf nodes) = .structs)
    {type : Node} (htype : merge (room + 1) nodes = .ok type) :
    ∃ other, merge (room + 1) others = .ok other ∧ type.same other = true := by
  have hstructs := structPool_of_sameUpTo h
  have hsame := outcome_of_sameUpTo h ▸ houtcome
  rw [merge_structs_eq_ok_iff hnodes houtcome] at htype
  obtain ⟨fields, rfl, hnames, hfields⟩ := htype
  have hmem (name : String) :
      name ∈ fields.map Prod.fst ↔ name ∈ fieldNames (structPool others) := by
    rw [hnames, mem_fieldNames_of_sameUpTo hstructs]
  have hfield {name : String} {field : Field Node} (hfield : (name, field) ∈ fields) :
      ∃ other, merge room (presentIn name (structPool others)) = .ok other ∧
        field.type.same other = true :=
    hroom (fun _ => isRaw_of_mem_presentIn hnodes) (fun _ => isRaw_of_mem_presentIn hothers)
      (presentIn_of_sameUpTo hstructs name) (hfields name field hfield).1
  -- the other struct exists because each of its fields has a counterpart
  obtain ⟨merged, hmerged⟩ : ∃ merged, merge (room + 1) others = .ok (.struct merged) := by
    rw [merge_structs hothers hsame]
    have hall : ∀ name ∈ fieldNames (structPool others),
        ∃ entry, mergeField room (structPool others) name = .ok entry := by
      intro name hname
      obtain ⟨⟨_, field⟩, hentry, rfl⟩ := List.mem_map.mp ((hmem name).mpr hname)
      obtain ⟨other, hother, -⟩ := hfield hentry
      exact ⟨_, map_eq_ok_iff.mpr ⟨other, hother, rfl⟩⟩
    obtain ⟨merged, hmerged⟩ := exists_mapM_eq_ok hall
    exact ⟨merged, map_eq_ok_iff.mpr ⟨merged, hmerged, rfl⟩⟩
  obtain ⟨_, heq, hmergedNames, hmergedFields⟩ :=
    (merge_structs_eq_ok_iff hothers hsame).mp hmerged
  cases heq
  refine ⟨_, hmerged, Node.same_struct_iff.mpr ⟨?_, fun ⟨name, field⟩ hentry => ?_⟩⟩
  · have hperm : (fields.map Prod.fst).Perm (merged.map Prod.fst) := by
      rw [hnames, hmergedNames,
        List.perm_ext_iff_of_nodup (nodup_fieldNames _) (nodup_fieldNames _)]
      exact mem_fieldNames_of_sameUpTo hstructs
    simpa using hperm.length_eq
  · obtain ⟨type, htype, hequal⟩ := hfield hentry
    have hname : name ∈ merged.map Prod.fst := by
      rw [hmergedNames, ← hmem]
      exact List.mem_map_of_mem hentry
    obtain ⟨other, hother⟩ := Option.isSome_iff_exists.mp (mem_names_iff.mp hname)
    obtain ⟨hmergedType, hmergedOptional⟩ :=
      hmergedFields name other (mem_of_lookup_eq_some hother)
    rw [htype, Except.ok.injEq] at hmergedType
    refine ⟨other, hother, hmergedType ▸ hequal, ?_⟩
    rw [(hfields name field hentry).2, hmergedOptional, isOptional_of_sameUpTo hstructs]

/-- Pools of matching alternatives are merged to equal types. -/
theorem mergesAlike (room : Nat) : MergesAlike room := by
  induction room with
  | zero =>
      intro nodes others _ _ h type htype
      exact leaf_alike h (outcome_of_merge_zero htype)
  | succ room ih =>
      intro nodes others hnodes hothers h type htype
      cases houtcome : outcome (kindsOf nodes) with
      | leaf node =>
          rw [merge_leaf _ houtcome, Except.ok.injEq] at htype
          exact leaf_alike h (htype ▸ houtcome)
      | slices => exact merge_slices_alike ih hnodes hothers h houtcome htype
      | structs => exact merge_structs_alike ih hnodes hothers h houtcome htype

end JsonShape

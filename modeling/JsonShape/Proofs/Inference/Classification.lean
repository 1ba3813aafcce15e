import JsonShape.Inference.Classify
import JsonShape.Proofs.Inference.Alternatives
import JsonShape.Proofs.Traversal

/-!
# What classification returns

Every value has a raw tree of its own shape.  Classification returns that tree
exactly for the values that nest no deeper than the room and hold finite numbers
only; the main statement is `classifyWithin_eq_ok_iff`.
-/

set_option autoImplicit false

namespace JsonShape

namespace Json

mutual

/-- The raw tree of a value, however deep it is and whatever numbers it holds. -/
def raw : Json → Node
  | null => .ignore
  | bool _ => .bool
  | int _ => .int
  | float value => if value.isIntegral then .int else .float
  | str _ => .string
  | arr items => .rawSlice (.union (rawItems items))
  | obj members => .rawStruct (rawMembers members)

def rawItems : List Json → List Node
  | [] => []
  | item :: rest => item.raw :: rawItems rest

def rawMembers : List (String × Json) → List (String × Node)
  | [] => []
  | (name, value) :: rest => (name, value.raw) :: rawMembers rest

end

mutual

/-- The numbers of a value that are not finite, in the order of the text. -/
def nonFinite : Json → List Binary64
  | float value => if value.isFinite then [] else [value]
  | arr items => itemsNonFinite items
  | obj members => membersNonFinite members
  | _ => []

def itemsNonFinite : List Json → List Binary64
  | [] => []
  | item :: rest => item.nonFinite ++ itemsNonFinite rest

def membersNonFinite : List (String × Json) → List Binary64
  | [] => []
  | (_, value) :: rest => value.nonFinite ++ membersNonFinite rest

end

theorem rawItems_eq_map (items : List Json) : rawItems items = items.map raw := by
  induction items with
  | nil => simp [rawItems]
  | cons item rest ih => simp [rawItems, ih]

theorem rawMembers_eq_map (members : List (String × Json)) :
    rawMembers members = members.map fun member => (member.1, member.2.raw) := by
  induction members with
  | nil => simp [rawMembers]
  | cons member rest ih => simp [rawMembers, ih]

@[simp]
theorem raw_arr (items : List Json) : (arr items).raw = .rawSlice (.union (items.map raw)) := by
  rw [raw, rawItems_eq_map]

@[simp]
theorem raw_obj (members : List (String × Json)) :
    (obj members).raw = .rawStruct (members.map fun member => (member.1, member.2.raw)) := by
  rw [raw, rawMembers_eq_map]

/-- A raw tree of a value is never a union at its root. -/
@[simp]
theorem alternatives_raw (value : Json) : value.raw.alternatives = [value.raw] := by
  cases value with
  | float value =>
      rw [raw]
      split <;> rfl
  | _ => simp [raw, Node.alternatives, Node.bool, Node.int, Node.string]

@[simp]
theorem flatten_map_raw (values : List Json) :
    Node.flatten (values.map raw) = values.map raw :=
  Node.flatten_eq_self (List.forall_mem_map.mpr fun value _ => alternatives_raw value)

theorem itemsDepth_le_iff {items : List Json} {room : Nat} :
    itemsDepth items ≤ room ↔ ∀ item ∈ items, item.depth ≤ room := by
  induction items with
  | nil => simp [itemsDepth]
  | cons item rest ih => rw [itemsDepth, Nat.max_le, ih, List.forall_mem_cons]

theorem membersDepth_le_iff {members : List (String × Json)} {room : Nat} :
    membersDepth members ≤ room ↔ ∀ member ∈ members, member.2.depth ≤ room := by
  induction members with
  | nil => simp [membersDepth]
  | cons member rest ih => rw [membersDepth, Nat.max_le, ih, List.forall_mem_cons]

theorem arr_depth_le_succ_iff {items : List Json} {room : Nat} :
    (arr items).depth ≤ room + 1 ↔ ∀ item ∈ items, item.depth ≤ room := by
  rw [depth, Nat.add_le_add_iff_right, itemsDepth_le_iff]

theorem obj_depth_le_succ_iff {members : List (String × Json)} {room : Nat} :
    (obj members).depth ≤ room + 1 ↔ ∀ member ∈ members, member.2.depth ≤ room := by
  rw [depth, Nat.add_le_add_iff_right, membersDepth_le_iff]

theorem nonFinite_arr_eq_nil_iff {items : List Json} :
    (arr items).nonFinite = [] ↔ ∀ item ∈ items, item.nonFinite = [] := by
  rw [nonFinite]
  induction items with
  | nil => simp [itemsNonFinite]
  | cons item rest ih => simp [itemsNonFinite, ih]

theorem nonFinite_obj_eq_nil_iff {members : List (String × Json)} :
    (obj members).nonFinite = [] ↔ ∀ member ∈ members, member.2.nonFinite = [] := by
  rw [nonFinite]
  induction members with
  | nil => simp [membersNonFinite]
  | cons member rest ih => simp [membersNonFinite, ih]

end Json

/-- A number has a raw tree when it is finite. -/
theorem classifyNumber_eq_ok_iff {value : Binary64} {node : Node} :
    classifyNumber value = .ok node ↔
      (Json.float value).nonFinite = [] ∧ node = (Json.float value).raw := by
  rw [classifyNumber, Json.nonFinite, Json.raw]
  cases value.isFinite <;> simp [eq_comm (a := node)]

/-- Classification succeeds within the room and on finite numbers, and returns
the raw tree of the value. -/
theorem classifyWithin_eq_ok_iff {room : Nat} {value : Json} {node : Node} :
    classifyWithin room value = .ok node ↔
      (value.depth ≤ room ∧ value.nonFinite = []) ∧ node = value.raw := by
  induction room generalizing value node with
  | zero =>
      cases value with
      | float value => simp [classifyWithin, Json.depth, classifyNumber_eq_ok_iff]
      | arr items => simp [classifyWithin, Json.depth]
      | obj members => simp [classifyWithin, Json.depth]
      | _ => simp [classifyWithin, Json.depth, Json.nonFinite, Json.raw, eq_comm (a := node)]
  | succ room ih =>
      cases value with
      | float value => simp [classifyWithin, Json.depth, classifyNumber_eq_ok_iff]
      | arr items =>
          have hitems : ∀ nodes, items.mapM (classifyWithin room) = .ok nodes ↔
              (∀ item ∈ items, item.depth ≤ room ∧ item.nonFinite = []) ∧
                nodes = items.map Json.raw := fun nodes =>
            mapM_eq_ok_map_iff fun item _ result => ih
          simp only [classifyWithin, bind_eq_ok_iff, hitems, pure_eq_ok_iff,
            Json.arr_depth_le_succ_iff, Json.nonFinite_arr_eq_nil_iff, Json.raw_arr,
            ← forall₂_and]
          constructor
          · rintro ⟨nodes, ⟨hall, rfl⟩, rfl⟩
            exact ⟨hall, by rw [Json.flatten_map_raw]⟩
          · rintro ⟨hall, rfl⟩
            exact ⟨_, ⟨hall, rfl⟩, by rw [Json.flatten_map_raw]⟩
      | obj members =>
          have hmembers : ∀ fields, (members.mapM fun member => do
              pure (member.1, ← classifyWithin room member.2)) = .ok fields ↔
              (∀ member ∈ members, member.2.depth ≤ room ∧ member.2.nonFinite = []) ∧
                fields = members.map fun member => (member.1, member.2.raw) := by
            refine fun fields => mapM_eq_ok_map_iff fun member _ field => ?_
            simp only [bind_eq_ok_iff, ih, pure_eq_ok_iff]
            constructor
            · rintro ⟨node, ⟨hmember, rfl⟩, rfl⟩
              exact ⟨hmember, rfl⟩
            · rintro ⟨hmember, rfl⟩
              exact ⟨_, ⟨hmember, rfl⟩, rfl⟩
          simp only [classifyWithin, bind_eq_ok_iff, hmembers, pure_eq_ok_iff,
            Json.obj_depth_le_succ_iff, Json.nonFinite_obj_eq_nil_iff, Json.raw_obj,
            ← forall₂_and]
          constructor
          · rintro ⟨fields, ⟨hall, rfl⟩, rfl⟩
            exact ⟨hall, rfl⟩
          · rintro ⟨hall, rfl⟩
            exact ⟨_, ⟨hall, rfl⟩, rfl⟩
      | _ => simp [classifyWithin, Json.depth, Json.nonFinite, Json.raw, eq_comm (a := node)]

/-- The conditions under which a document is classified. -/
theorem classify_eq_ok_iff [Room] {value : Json} {node : Node} :
    classify value = .ok node ↔
      (value.depth ≤ Room.classification ∧ value.nonFinite = []) ∧ node = value.raw :=
  classifyWithin_eq_ok_iff

end JsonShape

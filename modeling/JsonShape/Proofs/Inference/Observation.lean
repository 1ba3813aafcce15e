import JsonShape.Proofs.Inference.Classification
import JsonShape.Proofs.Inference.Merging

/-!
# What documents supply

Some values were observed at one place.  Together they supply items, and under
every name the values that are present there, which excludes null.  The pools of
their raw trees hold the raw trees of exactly these values.
-/

set_option autoImplicit false

namespace JsonShape

namespace Json

def isNull : Json → Bool
  | null => true
  | _ => false

/-- What a value is, integral numbers being integers. -/
def kind (value : Json) : Kind := value.raw.kind

/-- The items of an array; other values have none. -/
def items : Json → List Json
  | arr items => items
  | _ => []

/-- The members of an object; other values have none. -/
def members : Json → List (String × Json)
  | obj members => members
  | _ => []

/-- The member of a name, unless it is null. -/
def present? (name : String) (value : Json) : Option Json :=
  (value.members.lookup name).filter fun member => !member.isNull

/-- Whether the member of a name is absent or null. -/
def lacks (name : String) (value : Json) : Bool := (value.present? name).isNone

theorem present?_eq_some_iff {name : String} {value member : Json} :
    value.present? name = some member ↔
      value.members.lookup name = some member ∧ member.isNull = false := by
  rw [present?, Option.filter_eq_some_iff, Bool.not_eq_true']

theorem lacks_iff {name : String} {value : Json} :
    value.lacks name = true ↔
      value.members.lookup name = none ∨ value.members.lookup name = some null := by
  rw [lacks, present?]
  cases value.members.lookup name with
  | none => simp
  | some member => cases member <;> simp [isNull, Option.filter]

theorem sizeOf_item_lt {item : Json} {items : List Json} (h : item ∈ items) :
    sizeOf item < sizeOf (arr items) := by
  have hitem := List.sizeOf_lt_of_mem h
  simp only [arr.sizeOf_spec]
  omega

theorem sizeOf_member_lt {member : String × Json} {members : List (String × Json)}
    (h : member ∈ members) : sizeOf member.2 < sizeOf (obj members) := by
  have hmember := List.sizeOf_lt_of_mem h
  obtain ⟨name, value⟩ := member
  simp only [obj.sizeOf_spec, Prod.mk.sizeOf_spec] at hmember ⊢
  omega

/-- What holds of a value when it holds of all that is in it holds of every value. -/
@[elab_as_elim]
theorem induction_on {motive : Json → Prop} (value : Json)
    (scalar : ∀ value, value.depth = 0 → motive value)
    (arr : ∀ items, (∀ item ∈ items, motive item) → motive (arr items))
    (obj : ∀ members, (∀ member ∈ members, motive member.2) → motive (obj members)) :
    motive value := by
  match value with
  | null | bool _ | int _ | float _ | str _ => exact scalar _ (by simp [depth])
  | .arr items => exact arr items fun item _ => induction_on item scalar arr obj
  | .obj members => exact obj members fun member _ => induction_on member.2 scalar arr obj
termination_by sizeOf value
decreasing_by
  · exact sizeOf_item_lt ‹_›
  · exact sizeOf_member_lt ‹_›

theorem isNull_iff {value : Json} : value.isNull = true ↔ value = null := by
  cases value <;> simp [isNull]

theorem isIgnore_raw (value : Json) : value.raw.isIgnore = value.isNull := by
  cases value with
  | float value =>
      rw [raw]
      split <;> rfl
  | _ => rfl

theorem isRaw_raw (value : Json) : value.raw.isRaw = true := by
  induction value using induction_on with
  | scalar value hdepth =>
      cases value with
      | arr items => simp [depth] at hdepth
      | obj members => simp [depth] at hdepth
      | float value =>
          rw [raw]
          split <;> rfl
      | _ => rfl
  | arr items ih =>
      rw [raw_arr, Node.isRaw, Node.isRaw, Node.allRaw_iff, List.forall_mem_map]
      exact ih
  | obj members ih =>
      rw [raw_obj, Node.isRaw, Node.entriesRaw_iff, List.forall_mem_map]
      exact ih

/-- The kinds of values. -/
theorem kind_cases (value : Json) :
    (∃ type, value.kind = .primitive type) ∨ (∃ items, value = arr items) ∨
      (∃ members, value = obj members) ∨ value = null := by
  cases value with
  | float value =>
      rw [kind, raw]
      split <;> exact .inl ⟨_, rfl⟩
  | _ => simp [kind, raw, Node.kind, Node.bool, Node.int, Node.string]

theorem kind_eq_slice_iff {value : Json} : value.kind = .slice ↔ ∃ items, value = arr items := by
  obtain ⟨type, h⟩ | ⟨items, rfl⟩ | ⟨members, rfl⟩ | rfl := value.kind_cases
  · constructor
    · simp [h]
    · rintro ⟨items, rfl⟩
      simp [kind, Node.kind] at h
  all_goals simp [kind, raw, Node.kind]

theorem kind_eq_struct_iff {value : Json} :
    value.kind = .struct ↔ ∃ members, value = obj members := by
  obtain ⟨type, h⟩ | ⟨items, rfl⟩ | ⟨members, rfl⟩ | rfl := value.kind_cases
  · constructor
    · simp [h]
    · rintro ⟨members, rfl⟩
      simp [kind, Node.kind] at h
  all_goals simp [kind, raw, Node.kind]

theorem kind_eq_ignore_iff {value : Json} : value.kind = .ignore ↔ value = null := by
  obtain ⟨type, h⟩ | ⟨items, rfl⟩ | ⟨members, rfl⟩ | rfl := value.kind_cases
  · constructor
    · simp [h]
    · rintro rfl
      simp [kind, raw, Node.kind] at h
  all_goals simp [kind, raw, Node.kind]

end Json

namespace Inference

open Unify

/-- The items of all the arrays among some values. -/
def itemsOf (values : List Json) : List Json := values.flatMap Json.items

/-- The names in all the objects among some values, in the order in which they
are first seen. -/
def keysOf (values : List Json) : List String :=
  (values.flatMap fun value => value.members.map Prod.fst).eraseDups

/-- The values that are present under a name. -/
def presentUnder (name : String) (values : List Json) : List Json :=
  values.filterMap (Json.present? name)

theorem mem_itemsOf_iff {item : Json} {values : List Json} :
    item ∈ itemsOf values ↔ ∃ items, .arr items ∈ values ∧ item ∈ items := by
  rw [itemsOf, List.mem_flatMap]
  constructor
  · rintro ⟨value, hvalue, hitem⟩
    cases value with
    | arr items => exact ⟨items, hvalue, hitem⟩
    | _ => simp [Json.items] at hitem
  · rintro ⟨items, hvalue, hitem⟩
    exact ⟨_, hvalue, hitem⟩

theorem mem_presentUnder_iff {name : String} {member : Json} {values : List Json} :
    member ∈ presentUnder name values ↔
      member.isNull = false ∧
        ∃ members, .obj members ∈ values ∧ members.lookup name = some member := by
  rw [presentUnder, List.mem_filterMap]
  simp only [Json.present?_eq_some_iff]
  constructor
  · rintro ⟨value, hvalue, hlookup, hnull⟩
    cases value with
    | obj members => exact ⟨hnull, members, hvalue, hlookup⟩
    | _ => simp [Json.members] at hlookup
  · rintro ⟨hnull, members, hvalue, hlookup⟩
    exact ⟨_, hvalue, hlookup, hnull⟩

theorem mem_keysOf_iff {name : String} {values : List Json} :
    name ∈ keysOf values ↔ ∃ members, .obj members ∈ values ∧ name ∈ members.map Prod.fst := by
  rw [keysOf, List.mem_eraseDups, List.mem_flatMap]
  constructor
  · rintro ⟨value, hvalue, hname⟩
    cases value with
    | obj members => exact ⟨members, hvalue, hname⟩
    | _ => simp [Json.members] at hname
  · rintro ⟨members, hvalue, hname⟩
    exact ⟨_, hvalue, hname⟩

theorem itemPool_map_raw (values : List Json) :
    itemPool (values.map Json.raw) = (itemsOf values).map Json.raw := by
  have hone (value : Json) : itemPool [value.raw] = value.items.map Json.raw := by
    cases value with
    | float value =>
        rw [Json.raw]
        split <;> rfl
    | arr items => simp [itemPool, element?, Json.items, Node.flatten, Node.alternatives]
    | _ => rfl
  induction values with
  | nil => rfl
  | cons value rest ih =>
      rw [List.map_cons, ← List.singleton_append, itemPool, List.filterMap_append,
        Node.flatten_append, itemsOf, List.flatMap_cons, List.map_append, ← hone, ← itemsOf, ← ih]
      rfl

/-- The fields of an object's raw tree. -/
def rawFields? : Json → Option (List (String × Node))
  | .obj members => some (members.map fun member => (member.1, member.2.raw))
  | _ => none

theorem structPool_map_raw (values : List Json) :
    structPool (values.map Json.raw) = values.filterMap rawFields? := by
  rw [structPool, List.filterMap_map]
  congr 1
  funext value
  cases value with
  | float value =>
      rw [Function.comp_apply, Json.raw]
      split <;> rfl
  | obj members => simp [fields?, rawFields?]
  | _ => rfl

theorem fieldNames_map_raw (values : List Json) :
    fieldNames (structPool (values.map Json.raw)) = keysOf values := by
  have hone (value : Json) :
      (rawFields? value).toList.flatMap (List.map Prod.fst) = value.members.map Prod.fst := by
    cases value <;> simp [rawFields?, Json.members]
  rw [fieldNames, structPool_map_raw, List.filterMap_eq_flatMap_toList, List.flatMap_assoc]
  simp only [hone, keysOf]

theorem valuesOf_map_raw (name : String) (values : List Json) :
    valuesOf name (structPool (values.map Json.raw)) =
      (values.filterMap fun value => value.members.lookup name).map Json.raw := by
  have hone (value : Json) :
      (rawFields? value).bind (List.lookup name) = (value.members.lookup name).map Json.raw := by
    cases value <;> simp [rawFields?, Json.members, lookup_map_snd]
  rw [valuesOf, structPool_map_raw, List.filterMap_filterMap, List.map_filterMap]
  simp only [hone]

theorem presentIn_map_raw (name : String) (values : List Json) :
    presentIn name (structPool (values.map Json.raw)) =
      (presentUnder name values).map Json.raw := by
  have hnull : (fun node : Node => !node.isIgnore) ∘ Json.raw = fun value => !value.isNull := by
    funext value
    rw [Function.comp_apply, Json.isIgnore_raw]
  rw [presentIn, valuesOf_map_raw, Json.flatten_map_raw, List.filter_map, List.filter_filterMap,
    hnull]
  rfl

/-- A field of objects is optional when one of them lacks it. -/
theorem isOptional_map_raw (name : String) {values : List Json}
    (hobjects : ∀ value ∈ values, value.kind = .struct) :
    isOptional name (structPool (values.map Json.raw)) = values.any (Json.lacks name) := by
  have hfields {value : Json} (hvalue : value ∈ values) {fields : List (String × Node)} :
      rawFields? value = some fields ↔
        fields = value.members.map fun member => (member.1, member.2.raw) := by
    obtain ⟨members, rfl⟩ := Json.kind_eq_struct_iff.mp (hobjects value hvalue)
    simp [rawFields?, Json.members, eq_comm]
  rw [Bool.eq_iff_iff, isOptional_iff, structPool_map_raw, List.any_eq_true, ← exists_or]
  simp only [List.mem_filterMap, Json.lacks_iff]
  constructor
  · rintro ⟨fields, ⟨⟨value, hvalue, hraw⟩, hnone⟩ | ⟨⟨value, hvalue, hraw⟩, node, hnode, hnull⟩⟩
    · rw [hfields hvalue] at hraw
      rw [hraw, lookup_map_snd, Option.map_eq_none_iff] at hnone
      exact ⟨value, hvalue, .inl hnone⟩
    · rw [hfields hvalue] at hraw
      rw [hraw, lookup_map_snd, Option.map_eq_some_iff] at hnode
      obtain ⟨member, hmember, rfl⟩ := hnode
      simp only [Json.alternatives_raw, List.mem_singleton, exists_eq_left, Json.isIgnore_raw,
        Json.isNull_iff] at hnull
      exact ⟨value, hvalue, .inr (hnull ▸ hmember)⟩
  · rintro ⟨value, hvalue, hlookup⟩
    refine ⟨_, hlookup.imp (fun hnone => ⟨⟨value, hvalue, (hfields hvalue).mpr rfl⟩, ?_⟩)
      fun hnull => ⟨⟨value, hvalue, (hfields hvalue).mpr rfl⟩, .ignore, ?_, .ignore, ?_, rfl⟩⟩
    · rw [lookup_map_snd, hnone, Option.map_none]
    · rw [lookup_map_snd, hnull]
      rfl
    · simp [Node.alternatives]

end Inference

end JsonShape

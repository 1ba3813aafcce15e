import JsonShape.Description
import JsonShape.Proofs.Traversal

/-!
# The levels of a description

A description is an object.  The kind that it names, or else that of a struct, tells
which of its members is looked at next: the description of a slice's elements, or the
fields of a struct, each of which has a description of its type.
-/

set_option autoImplicit false

namespace JsonShape.Description

/-- Whether an object describes a struct, which it also does without saying so. -/
def NamesStruct (members : List (String × Spec)) : Prop :=
  ∀ type, members.lookup "type" = some type → type.isFalsy = true ∨ type = .str "struct"

/-- The fields that an object describes; a false value stands for none. -/
def HasEntries (members entries : List (String × Spec)) : Prop :=
  members.lookup "fields" = some (.obj entries) ∨
    entries = [] ∧ ∀ value, members.lookup "fields" = some value → value.isFalsy = true

variable {members entries : List (String × Spec)} {description : Spec}

theorem ofName?_eq_some_iff {name : String} {kind : Kind} :
    Kind.ofName? name = some kind ↔ name = kind.name := by
  constructor
  · intro h
    rw [Kind.ofName?] at h
    have hname := List.find?_some h
    exact (beq_iff_eq.mp hname).symm
  · rintro rfl
    exact Kind.ofName?_name kind

theorem name_ne_empty (kind : Kind) : kind.name ≠ "" := by
  rcases kind with ⟨_ | _ | _ | _⟩ | _ | _ | _ | _ | _ <;> decide

/-- A description has the kind that it names, and that of a struct if it names none. -/
theorem kindOf_eq_ok_iff {kind : Kind} :
    kindOf members = .ok kind ↔
      members.lookup "type" = some (.str kind.name) ∨
        kind = .struct ∧ ∀ type, members.lookup "type" = some type → type.isFalsy = true := by
  rw [kindOf]
  cases members.lookup "type" with
  | none => simp [eq_comm (a := kind)]
  | some type =>
      cases hfalsy : type.isFalsy with
      | true =>
          have hne : type ≠ .str kind.name := by
            rintro rfl
            simp [Spec.isFalsy, name_ne_empty] at hfalsy
          simp [hfalsy, hne, eq_comm (a := kind)]
      | false =>
          cases type with
          | str name =>
              simp only [hfalsy, Bool.false_eq_true, if_false, Option.some.injEq, Spec.str.injEq,
                forall_eq', and_false, or_false, ← ofName?_eq_some_iff]
              cases Kind.ofName? name <;> simp
          | _ => simp [hfalsy]

theorem kindOf_eq_struct_iff : kindOf members = .ok .struct ↔ NamesStruct members := by
  rw [kindOf_eq_ok_iff, NamesStruct]
  cases members.lookup "type" with
  | none => simp
  | some type => simp [Kind.name, or_comm]

theorem fieldEntries_eq_ok_iff :
    fieldEntries members = .ok entries ↔ HasEntries members entries := by
  rw [fieldEntries, HasEntries]
  cases members.lookup "fields" with
  | none => simp
  | some value =>
      cases value with
      | obj others =>
          simp only [Except.ok.injEq, Option.some.injEq, Spec.obj.injEq, forall_eq', Spec.isFalsy,
            List.isEmpty_iff]
          constructor
          · exact .inl
          · rintro (rfl | ⟨rfl, rfl⟩) <;> rfl
      | _ =>
          dsimp only
          split
          · next hfalsy => simp [hfalsy]
          · next htruthy => simp [htruthy]

/-- The outermost level of an object that is a description. -/
inductive Level (members : List (String × Spec)) : Layer → Prop
  | primitive (type : Primitive) (htype : members.lookup "type" = some (.str type.name)) :
      Level members (.leaf (.primitive type))
  | any (htype : members.lookup "type" = some (.str "any")) : Level members (.leaf .any)
  | slice {element : Spec} (htype : members.lookup "type" = some (.str "slice"))
      (hof : members.lookup "of" = some element) : Level members (.slice element)
  | empty (htype : NamesStruct members) (hentries : HasEntries members []) :
      Level members (.leaf (.struct []))
  | struct {entry : String × Spec} {rest : List (String × Spec)} (htype : NamesStruct members)
      (hentries : HasEntries members (entry :: rest)) : Level members (.struct (entry :: rest))

theorem level_of_layerOf {kind : Kind} {level : Layer} (hkind : kindOf members = .ok kind)
    (h : layerOf members kind = .ok level) : Level members level := by
  have hname (hne : kind ≠ .struct) : members.lookup "type" = some (.str kind.name) :=
    (kindOf_eq_ok_iff.mp hkind).resolve_right fun hstruct => hne hstruct.1
  cases kind with
  | primitive type =>
      cases h
      exact .primitive type (hname nofun)
  | any =>
      cases h
      exact .any (hname nofun)
  | slice =>
      rw [layerOf] at h
      split at h
      · next element hof =>
          cases h
          exact .slice (hname nofun) hof
      · cases h
  | struct =>
      have htype : NamesStruct members := kindOf_eq_struct_iff.mp hkind
      rw [layerOf] at h
      split at h
      · next hentries =>
          cases h
          exact .empty htype (fieldEntries_eq_ok_iff.mp hentries)
      · next entries hne hentries =>
          cases h
          obtain ⟨entry, rest, rfl⟩ := List.exists_cons_of_ne_nil hne
          exact .struct htype (fieldEntries_eq_ok_iff.mp hentries)
      · cases h
  | _ => cases h

theorem Level.layer_eq {level : Layer} (h : Level members level) :
    layer (.obj members) = .ok level := by
  have hkind (kind : Kind) (htype : members.lookup "type" = some (.str kind.name)) :
      kindOf members = .ok kind := kindOf_eq_ok_iff.mpr (.inl htype)
  rw [layer]
  cases h with
  | primitive type htype => rw [hkind (.primitive type) htype]; rfl
  | any htype => rw [hkind .any htype]; rfl
  | slice htype hof =>
      rw [hkind .slice htype, bind_eq_ok_iff]
      exact ⟨.slice, rfl, by rw [layerOf, hof]⟩
  | empty htype hentries =>
      rw [kindOf_eq_struct_iff.mpr htype, bind_eq_ok_iff]
      exact ⟨.struct, rfl, by rw [layerOf, fieldEntries_eq_ok_iff.mpr hentries]⟩
  | struct htype hentries =>
      rw [kindOf_eq_struct_iff.mpr htype, bind_eq_ok_iff]
      exact ⟨.struct, rfl, by rw [layerOf, fieldEntries_eq_ok_iff.mpr hentries]⟩

theorem layer_eq_ok_iff {level : Layer} :
    layer description = .ok level ↔
      ∃ members, description = .obj members ∧ Level members level := by
  constructor
  · intro h
    cases description with
    | obj members =>
        rw [layer, bind_eq_ok_iff] at h
        obtain ⟨kind, hkind, hlevel⟩ := h
        exact ⟨members, rfl, level_of_layerOf hkind hlevel⟩
    | _ => cases h
  · rintro ⟨members, rfl, hlevel⟩
    exact hlevel.layer_eq

/-- A field's entry tells a type under `of`, and the field's mark. -/
theorem fieldEntry_eq_ok_iff {name : String} {entry : Spec} {field : Field Spec} :
    fieldEntry name entry = .ok field ↔
      ∃ members, entry = .obj members ∧ members.lookup "of" = some field.type ∧
        field.optional = ((members.lookup "optional").map Spec.isTruthy).getD false := by
  cases entry with
  | obj members =>
      obtain ⟨type, optional⟩ := field
      rw [fieldEntry]
      simp only [Spec.obj.injEq, exists_eq_left']
      cases members.lookup "of" <;> simp [eq_comm (a := optional)]
  | _ => simp [fieldEntry]

theorem getD_isTruthy_iff {value : Option Spec} :
    (value.map Spec.isTruthy).getD false = true ↔
      ∃ mark, value = some mark ∧ mark.isTruthy = true := by
  cases value <;> simp

end JsonShape.Description

import JsonShape.Proofs.Inference.Rules

/-!
# Conformance

A type says which values are acceptable.  Every document conforms to the type
that is inferred from it and others: `conforms_of_inferAll`.
-/

set_option autoImplicit false

namespace JsonShape

open Inference Unify

/-- What a type accepts. -/
inductive Conforms : Json → Node → Prop
  | any (value : Json) : Conforms value .any
  | bool (value : Bool) : Conforms (.bool value) .bool
  | string (text : String) : Conforms (.str text) .string
  | int (value : Int) : Conforms (.int value) .int
  /-- Only finite numbers have an integral value. -/
  | integral {value : Binary64} (hvalue : value.isIntegral = true) : Conforms (.float value) .int
  | intAsFloat (value : Int) : Conforms (.int value) .float
  | float {value : Binary64} (hvalue : value.isFinite = true) : Conforms (.float value) .float
  | slice {items : List Json} {element : Node} (hitems : ∀ item ∈ items, Conforms item element) :
      Conforms (.arr items) (.slice element)
  /-- An object has no other keys than the fields, and lacks optional ones only. -/
  | struct {members : List (String × Json)} {fields : List (String × Field Node)}
      (hkeys : ∀ name ∈ members.map Prod.fst, name ∈ fields.map Prod.fst)
      (hoptional : ∀ name field, fields.lookup name = some field →
        (Json.obj members).lacks name → field.optional = true)
      (htypes : ∀ name field member, fields.lookup name = some field →
        (Json.obj members).present? name = some member → Conforms member field.type) :
      Conforms (.obj members) (.struct fields)

/-- A value whose kind is primitive conforms to the primitive type of that kind. -/
theorem conforms_primitive {value : Json} {type : Primitive} (hkind : value.kind = .primitive type)
    (hfinite : value.nonFinite = []) : Conforms value (.primitive type) := by
  cases value with
  | bool value =>
      cases hkind
      exact .bool value
  | int value =>
      cases hkind
      exact .int value
  | str text =>
      cases hkind
      exact .string text
  | float value =>
      cases hintegral : value.isIntegral with
      | true =>
          rw [Json.kind, Json.raw, if_pos hintegral] at hkind
          cases hkind
          exact .integral hintegral
      | false =>
          rw [Json.kind, Json.raw, if_neg (by simp [hintegral])] at hkind
          cases hkind
          refine .float ?_
          simpa [Json.nonFinite] using hfinite
  | _ => simp [Json.kind, Json.raw, Node.kind] at hkind

theorem conforms_float {value : Json} (hkind : isNumeric value.kind = true)
    (hfinite : value.nonFinite = []) : Conforms value .float := by
  cases value with
  | int value => exact .intAsFloat value
  | float value =>
      refine .float ?_
      simpa [Json.nonFinite] using hfinite
  | _ => simp [Json.kind, Json.raw, Node.kind, Node.bool, Node.string, isNumeric] at hkind

/-- All values observed at a place conform to the type that the rules give. -/
theorem Infers.conforms {values : List Json} {type : Node} (h : Infers values type)
    (hfinite : ∀ value ∈ values, value.nonFinite = []) :
    ∀ value ∈ values, Conforms value type := by
  induction h with
  | none => simp
  | primitive type _ hkinds =>
      intro value hvalue
      exact conforms_primitive (hkinds value hvalue) (hfinite value hvalue)
  | numbers _ _ _ _ _ hkinds =>
      intro value hvalue
      exact conforms_float (hkinds value hvalue) (hfinite value hvalue)
  | nullItem _ hkinds _ =>
      intro value hvalue
      obtain ⟨items, rfl⟩ := Json.kind_eq_slice_iff.mp (hkinds value hvalue)
      exact .slice fun item _ => .any item
  | slice _ hkinds _ _ ih =>
      intro value hvalue
      obtain ⟨items, rfl⟩ := Json.kind_eq_slice_iff.mp (hkinds value hvalue)
      exact .slice fun item hitem =>
        ih (nonFinite_of_mem_itemsOf hfinite) item (mem_itemsOf_iff.mpr ⟨items, hvalue, hitem⟩)
  | struct _ hkinds hnames _ hoptional ih =>
      intro value hvalue
      obtain ⟨members, rfl⟩ := Json.kind_eq_struct_iff.mp (hkinds value hvalue)
      refine .struct (fun name hname => ?_) (fun name field hfield hlacks => ?_)
        fun name field member hfield hmember => ?_
      · rw [hnames, mem_keysOf_iff]
        exact ⟨members, hvalue, hname⟩
      · rw [hoptional name field (mem_of_lookup_eq_some hfield), List.any_eq_true]
        exact ⟨_, hvalue, hlacks⟩
      · exact ih name field (mem_of_lookup_eq_some hfield) (nonFinite_of_mem_presentUnder hfinite)
          member (List.mem_filterMap.mpr ⟨_, hvalue, hmember⟩)
  | mixed _ _ _ _ _ _ => exact fun value _ => .any value

/-- Every document conforms to the type inferred from all of them. -/
theorem conforms_of_inferAll [Room] {documents : List Json} {type : Node}
    (h : inferAll documents = .ok type) : ∀ document ∈ documents, Conforms document type := by
  obtain ⟨-, hdocuments, hinfers⟩ := inferAll_eq_ok_iff_infers.mp h
  exact hinfers.conforms fun document hdocument => (hdocuments document hdocument).finite

theorem conforms_of_inferAll_sampleDocuments :
    inferAll sampleDocuments = .ok sampleType ∧
      ∀ document ∈ sampleDocuments, Conforms document sampleType :=
  ⟨inferAll_sampleDocuments, conforms_of_inferAll inferAll_sampleDocuments⟩

end JsonShape

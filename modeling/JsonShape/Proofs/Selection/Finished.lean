import JsonShape.Proofs.Description.Reading
import JsonShape.Proofs.Selection.Applying

/-!
# Selections and finished trees

A selection puts nothing into a tree but the types that it forces.  These are read
from descriptions or stand in the selection as trees, so if all the trees in it are
finished, a finished tree stays finished.
-/

set_option autoImplicit false

namespace JsonShape

namespace Spec

/-- Whether a tree stands somewhere in a specification value. -/
inductive Holds (tree : Node) : Spec → Prop
  | here : Holds tree (.node tree)
  | item {item : Spec} {items : List Spec} (hitem : item ∈ items) (h : Holds tree item) :
      Holds tree (.arr items)
  | member {name : String} {value : Spec} {members : List (String × Spec)}
      (hmember : (name, value) ∈ members) (h : Holds tree value) : Holds tree (.obj members)

theorem ofItems_eq_map (items : List Json) : ofItems items = items.map ofJson := by
  induction items with
  | nil => rfl
  | cons item rest ih => rw [ofItems, ih, List.map_cons]

/-- No tree stands in a JSON value. -/
theorem not_holds_ofJson {tree : Node} {json : Json} : ¬(ofJson json).Holds tree := by
  intro h
  generalize hspec : ofJson json = spec at h
  induction h generalizing json with
  | here => cases json <;> simp [ofJson] at hspec
  | item hitem _ ih =>
      cases json with
      | arr items =>
          rw [ofJson, ofItems_eq_map, arr.injEq] at hspec
          rw [← hspec, List.mem_map] at hitem
          obtain ⟨item, -, hitem⟩ := hitem
          exact ih hitem
      | _ => simp [ofJson] at hspec
  | member hmember _ ih =>
      cases json with
      | obj members =>
          rw [ofJson, ofMembers_eq_map, obj.injEq] at hspec
          rw [← hspec, List.mem_map] at hmember
          obtain ⟨member, -, hmember⟩ := hmember
          exact ih (Prod.mk.inj hmember).2
      | _ => simp [ofJson] at hspec

/-- Whether every tree in a specification value is finished. -/
def HoldsFinished (spec : Spec) : Prop := ∀ tree : Node, spec.Holds tree → tree.IsFinished

theorem holdsFinished_ofJson (json : Json) : (ofJson json).HoldsFinished :=
  fun _ h => absurd h not_holds_ofJson

theorem Holds.of_lookup {tree : Node} {name : String} {value : Spec}
    {members : List (String × Spec)} (h : value.Holds tree)
    (hvalue : members.lookup name = some value) : (obj members).Holds tree :=
  .member (mem_of_lookup_eq_some hvalue) h

theorem Holds.of_entriesOf {tree : Node} {spec : Spec} {entries : List (String × Spec)}
    {container : Container} (h : (obj entries).Holds tree)
    (hspec : Selection.entriesOf spec = .ok (entries, container)) : spec.Holds tree := by
  obtain ⟨members, rfl, hof, -⟩ := Selection.entriesOf_eq_ok_iff.mp hspec
  exact h.of_lookup hof

/-- What stands in the selection within a field stands in the changes of the field. -/
theorem Holds.of_within {tree : Node} {members : List (String × Spec)} {entries : Spec}
    (h : (Selection.within members entries).Holds tree)
    (hof : Selection.given? "of" members = some entries) : (obj members).Holds tree := by
  rw [Selection.within] at h
  cases h with
  | member hmember htree =>
      simp only [List.mem_cons, Prod.mk.injEq, List.not_mem_nil, or_false] at hmember
      rcases hmember with ⟨-, rfl⟩ | ⟨-, rfl⟩
      · exact htree.of_lookup (Selection.given?_eq_some_iff.mp hof).1
      · cases hlookup : members.lookup "type" with
        | none =>
            rw [hlookup] at htree
            cases htree
        | some type =>
            rw [hlookup] at htree
            exact htree.of_lookup hlookup

theorem HoldsFinished.of_lookup {name : String} {value : Spec} {members : List (String × Spec)}
    (h : (obj members).HoldsFinished) (hvalue : members.lookup name = some value) :
    value.HoldsFinished :=
  fun tree htree => h tree (htree.of_lookup hvalue)

theorem HoldsFinished.of_entriesOf {spec : Spec} {entries : List (String × Spec)}
    {container : Container} (h : spec.HoldsFinished)
    (hspec : Selection.entriesOf spec = .ok (entries, container)) :
    (obj entries).HoldsFinished :=
  fun tree htree => h tree (htree.of_entriesOf hspec)

theorem holdsFinished_obj_iff {members : List (String × Spec)} :
    (obj members).HoldsFinished ↔ ∀ member ∈ members, member.2.HoldsFinished := by
  constructor
  · intro h member hmember tree htree
    exact h tree (.member hmember htree)
  · intro h tree htree
    cases htree with
    | member hmember htree => exact h _ hmember tree htree

end Spec

namespace Selection

variable {room : Nat} {select : Node → Spec → Except SelectionError Node}

theorem isFinished_of_forcedType {type : Spec} {tree : Node} (htype : type.HoldsFinished)
    (h : forcedType room type = .ok tree) : tree.IsFinished := by
  rw [forcedType.eq_def] at h
  split at h
  · split at h
    · rw [← Except.ok.inj h]
      exact htype _ .here
    · cases h
  · exact Description.isFinished_of_read (mapError_eq_ok_iff.mp h)

theorem isFinished_of_typeBefore {field : Field Node} {members : List (String × Spec)}
    {type : Node} (hfield : field.type.IsFinished) (hmembers : (Spec.obj members).HoldsFinished)
    (h : typeBefore room field members = .ok type) : type.IsFinished := by
  rw [typeBefore] at h
  cases hforced : given? "forceType" members with
  | none =>
      rw [hforced, Except.ok.injEq] at h
      exact h ▸ hfield
  | some forced =>
      rw [hforced, mapError_eq_ok_iff] at h
      exact isFinished_of_forcedType (hmembers.of_lookup (given?_eq_some_iff.mp hforced).1) h

theorem holdsFinished_within {members : List (String × Spec)} {entries : Spec}
    (hmembers : (Spec.obj members).HoldsFinished) (h : given? "of" members = some entries) :
    (within members entries).HoldsFinished :=
  fun tree htree => hmembers tree (htree.of_within h)

/-- A changed field is finished when the selection within it keeps trees finished. -/
theorem isFinished_of_overrideField {field changed : Field Node} {members : List (String × Spec)}
    (hselect : ∀ type spec selected, type.IsFinished → spec.HoldsFinished →
      select type spec = .ok selected → selected.IsFinished)
    (hfield : field.type.IsFinished) (hmembers : (Spec.obj members).HoldsFinished)
    (h : overrideField room select field members = .ok changed) : changed.type.IsFinished := by
  obtain ⟨type, selected, hbefore, hwithin, rfl⟩ := overrideField_eq_ok_iff_exists.mp h
  have htype : type.IsFinished := isFinished_of_typeBefore hfield hmembers hbefore
  rw [selectWithin] at hwithin
  cases hentries : given? "of" members with
  | none =>
      rw [hentries, Except.ok.injEq] at hwithin
      exact hwithin ▸ htype
  | some entries =>
      rw [hentries] at hwithin
      exact hselect type _ selected htype (holdsFinished_within hmembers hentries) hwithin

theorem isFinished_of_selectFields {entries : List (String × Spec)}
    {fields others : List (String × Field Node)}
    (hselect : ∀ type spec selected, type.IsFinished → spec.HoldsFinished →
      select type spec = .ok selected → selected.IsFinished)
    (hfields : (Node.struct fields).IsFinished) (hentries : (Spec.obj entries).HoldsFinished)
    (h : selectFields room select entries fields = .ok others) :
    (Node.struct others).IsFinished := by
  rw [Node.isFinished_struct_iff] at hfields ⊢
  intro other hother
  obtain ⟨field, hfield, hselected⟩ := exists_of_mem_selectFields h hother
  rcases selectField_eq_some_iff.mp hselected with
    ⟨-, rfl⟩ | ⟨members, changed, hmembers, -, hchanged, rfl⟩
  · exact hfields other hfield
  · exact isFinished_of_overrideField hselect (hfields field hfield)
      (hentries.of_lookup hmembers) hchanged

/-- A finished tree stays finished, whatever is selected and forced. -/
theorem isFinished_of_apply {node pruned : Node} {spec : Spec} (hnode : node.IsFinished)
    (hspec : spec.HoldsFinished) (h : apply room node spec = .ok pruned) : pruned.IsFinished := by
  refine apply_induction
    (motive := fun _ node spec pruned =>
      node.IsFinished → spec.HoldsFinished → pruned.IsFinished) ?_ ?_ h hnode hspec
  · intro room spec entries element other hentries _ ih hnode hspec
    have hitems : (Spec.obj [("of", .obj entries)]).HoldsFinished := by
      rw [Spec.holdsFinished_obj_iff, List.forall_mem_singleton]
      exact hspec.of_entriesOf hentries
    exact Node.isFinished_slice_iff.mpr (ih (Node.isFinished_slice_iff.mp hnode) hitems)
  · intro room spec entries fields others hentries hothers ih hnode hspec
    refine isFinished_of_selectFields ?_ hnode (hspec.of_entriesOf hentries) hothers
    intro type spec selected htype hspec hselected
    exact ih type spec selected hselected htype hspec

end Selection

end JsonShape

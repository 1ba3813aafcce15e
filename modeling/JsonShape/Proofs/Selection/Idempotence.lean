import JsonShape.Proofs.Selection.Applying

/-!
# Selecting twice

What is left by a selection has all the fields that the selection keeps, and a type
that is forced is forced again.  So a selection leaves what it has left as it is.
-/

set_option autoImplicit false

namespace JsonShape

/-- A specification value whose objects name no two members alike, as is the case for every
mapping; lists are not looked into. -/
inductive Spec.Distinct : Spec → Prop
  | leaf {spec : Spec} (hleaf : ∀ members, spec ≠ .obj members) : Distinct spec
  | object {members : List (String × Spec)} (hnames : (members.map Prod.fst).Nodup)
      (hmembers : ∀ member ∈ members, Distinct member.2) : Distinct (.obj members)

theorem Spec.distinct_obj_iff {members : List (String × Spec)} :
    (Spec.obj members).Distinct ↔
      (members.map Prod.fst).Nodup ∧ ∀ member ∈ members, member.2.Distinct := by
  constructor
  · rintro (⟨hleaf⟩ | ⟨hnames, hmembers⟩)
    · exact absurd rfl (hleaf members)
    · exact ⟨hnames, hmembers⟩
  · rintro ⟨hnames, hmembers⟩
    exact .object hnames hmembers

theorem Spec.Distinct.of_lookup {members : List (String × Spec)} {name : String} {value : Spec}
    (h : (Spec.obj members).Distinct) (hvalue : members.lookup name = some value) :
    value.Distinct :=
  (Spec.distinct_obj_iff.mp h).2 (name, value) (mem_of_lookup_eq_some hvalue)

open Selection

theorem Spec.Distinct.of_entriesOf {spec : Spec} {entries : List (String × Spec)}
    {container : Container} (h : spec.Distinct)
    (hspec : entriesOf spec = .ok (entries, container)) : (Spec.obj entries).Distinct := by
  obtain ⟨members, rfl, hof, -⟩ := entriesOf_eq_ok_iff.mp hspec
  exact h.of_lookup hof

namespace Selection

theorem distinct_within {changes : List (String × Spec)} {selection : Spec}
    (hchanges : (Spec.obj changes).Distinct) (hof : given? "of" changes = some selection) :
    (within changes selection).Distinct := by
  have htype : ((changes.lookup "type").getD .null).Distinct := by
    cases hlookup : changes.lookup "type" with
    | none => exact .leaf nofun
    | some type => exact hchanges.of_lookup hlookup
  rw [within, Spec.distinct_obj_iff, List.forall_mem_cons, List.forall_mem_singleton]
  exact ⟨by simp, hchanges.of_lookup (given?_eq_some_iff.mp hof).1, htype⟩

variable {room : Nat} {select : Node → Spec → Except SelectionError Node}
  {entries changes : List (String × Spec)} {fields others : List (String × Field Node)}

/-! ## One field -/

section Field

variable (hselect : ∀ selection type part, given? "of" changes = some selection →
  select type (within changes selection) = .ok part →
    select part (within changes selection) = .ok part)
include hselect

theorem selectWithin_again {type part : Node} (h : selectWithin select changes type = .ok part) :
    selectWithin select changes part = .ok part := by
  rw [selectWithin] at h ⊢
  cases hof : given? "of" changes with
  | none => rfl
  | some selection =>
      rw [hof] at h
      exact hselect selection type part hof h

/-- A forced type is forced again, and else the field starts from what was left. -/
theorem overrideField_again {field changed : Field Node}
    (h : overrideField room select field changes = .ok changed) :
    overrideField room select changed changes = .ok changed := by
  obtain ⟨type, part, hbefore, hpart, rfl⟩ := overrideField_eq_ok_iff_exists.mp h
  rw [overrideField_eq_ok_iff_exists]
  dsimp only
  rw [Bool.or_assoc, Bool.or_self]
  rw [typeBefore] at hbefore ⊢
  cases hforced : given? "forceType" changes with
  | none => exact ⟨part, part, rfl, selectWithin_again hselect hpart, rfl⟩
  | some forced =>
      rw [hforced] at hbefore
      exact ⟨type, part, hbefore, hpart, rfl⟩

end Field

theorem selectField_again {field other : String × Field Node}
    (hselect : ∀ changes selection type part, entries.lookup field.1 = some (.obj changes) →
      given? "of" changes = some selection → select type (within changes selection) = .ok part →
        select part (within changes selection) = .ok part)
    (h : selectField room select entries field = .ok (some other)) :
    selectField room select entries other = .ok (some other) := by
  rcases selectField_eq_some_iff.mp h with
    ⟨-, rfl⟩ | ⟨changes, changed, hentry, hkeeps, hchanged, rfl⟩
  · exact h
  · have hwithin selection type part := hselect changes selection type part hentry
    have hagain := overrideField_again hwithin hchanged
    exact selectField_eq_some_iff.mpr (.inr ⟨changes, changed, hentry, hkeeps, hagain, rfl⟩)

/-! ## The fields of a struct -/

/-- No entry selects a field that was not kept. -/
theorem unknownField?_of_selectFields (hnames : (entries.map Prod.fst).Nodup)
    (h : selectFields room select entries fields = .ok others) :
    unknownField? entries others = none := by
  rw [unknownField?_eq_none_iff]
  intro name entry hentry htruthy
  have hknown : name ∈ fields.map Prod.fst :=
    unknownField?_eq_none_iff.mp (selectFields_eq_ok_iff.mp h).1 name entry hentry htruthy
  have hkeeps : keeps entries name = true := by
    rw [keeps, lookup_eq_some_of_mem hnames hentry]
    exact htruthy
  rw [names_of_selectFields h]
  exact List.mem_filter.mpr ⟨hknown, hkeeps⟩

theorem selectFields_again (hnames : (entries.map Prod.fst).Nodup)
    (hselect : ∀ name changes selection type part, entries.lookup name = some (.obj changes) →
      given? "of" changes = some selection → select type (within changes selection) = .ok part →
        select part (within changes selection) = .ok part)
    (h : selectFields room select entries fields = .ok others) :
    selectFields room select entries others = .ok others := by
  have hall : ∀ other ∈ others, keeps entries other.1 = true := by
    intro other hother
    have hname : other.1 ∈ others.map Prod.fst := List.mem_map_of_mem hother
    rw [names_of_selectFields h] at hname
    exact (List.mem_filter.mp hname).2
  refine selectFields_eq_ok_iff_forall₂.mpr ⟨unknownField?_of_selectFields hnames h, ?_⟩
  rw [List.filter_eq_self.mpr hall, List.forall₂_same]
  intro other hother
  obtain ⟨field, -, hfield⟩ := exists_of_mem_selectFields h hother
  exact selectField_again (hselect field.1) hfield

/-! ## A selection at any depth -/

/-- Selecting again takes the same room. -/
theorem apply_again {node pruned : Node} {spec : Spec} (hspec : spec.Distinct)
    (h : apply room node spec = .ok pruned) : apply room pruned spec = .ok pruned := by
  refine apply_induction
    (motive := fun room _ spec pruned => spec.Distinct → apply room pruned spec = .ok pruned)
    ?_ ?_ h hspec
  · intro room spec entries element other hentries _ ih hspec
    have hitems : (Spec.obj [("of", .obj entries)]).Distinct := by
      rw [Spec.distinct_obj_iff, List.forall_mem_singleton]
      exact ⟨by simp, hspec.of_entriesOf hentries⟩
    exact apply_slice_eq_ok_iff.mpr ⟨room, entries, other, rfl, hentries, ih hitems, rfl⟩
  · intro room spec entries fields others hentries hothers ih hspec
    have hdistinct : (Spec.obj entries).Distinct := hspec.of_entriesOf hentries
    refine apply_struct_eq_ok_iff.mpr ⟨room, entries, others, rfl, hentries, ?_, rfl⟩
    refine selectFields_again (Spec.distinct_obj_iff.mp hdistinct).1 ?_ hothers
    intro name changes selection type part hentry hof hpart
    exact ih type _ part hpart (distinct_within (hdistinct.of_lookup hentry) hof)

end Selection

/-- What a selection has left, it leaves as it is. -/
theorem Node.prune_again [Room] {node pruned : Node} {spec : Spec} (hspec : spec.Distinct)
    (h : node.prune spec = .ok pruned) : pruned.prune spec = .ok pruned :=
  apply_again hspec h

def ledgerType : Node :=
  .struct [("lines", ⟨.slice (.struct [("sku", ⟨.string, false⟩), ("count", ⟨.int, true⟩),
      ("tax", ⟨.struct [("code", ⟨.string, false⟩), ("rate", ⟨.float, false⟩)], true⟩)]), false⟩),
    ("id", ⟨.int, false⟩), ("notes", ⟨.any, false⟩)]

/-- The type that is forced on `notes`. -/
def notesDescription : Spec :=
  .obj [("type", .str "slice"), ("of", .obj [("fields", .obj
    [("by", .obj [("of", .obj [("type", .str "int")])]),
      ("text", .obj [("of", .obj [("type", .str "string")])])])])]

def ledgerSelection : Spec :=
  .obj [("of", .obj
    [("notes", .obj [("forceType", notesDescription), ("type", .str "slice"),
        ("of", .obj [("text", .obj [("forceOptional", .bool true)])])]),
      ("id", .bool false),
      ("lines", .obj [("type", .str "slice"), ("of", .obj [("sku", .bool true),
        ("tax", .obj [("of", .obj [("rate", .bool true)])])])])])]

def ledgerLeft : Node :=
  .struct [("lines", ⟨.slice (.struct [("sku", ⟨.string, false⟩),
      ("tax", ⟨.struct [("rate", ⟨.float, false⟩)], true⟩)]), false⟩),
    ("notes", ⟨.slice (.struct [("text", ⟨.string, true⟩)]), false⟩)]

theorem distinct_ledgerSelection : ledgerSelection.Distinct := by
  simp [ledgerSelection, notesDescription, Spec.distinct_obj_iff, Spec.Distinct.leaf]

theorem Node.prune_again_ledger :
    ledgerType.prune ledgerSelection = .ok ledgerLeft ∧
      ledgerLeft.prune ledgerSelection = .ok ledgerLeft := by
  have hprune : ledgerType.prune ledgerSelection = .ok ledgerLeft := rfl
  exact ⟨hprune, Node.prune_again distinct_ledgerSelection hprune⟩

end JsonShape

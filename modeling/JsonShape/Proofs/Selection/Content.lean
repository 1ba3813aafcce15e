import JsonShape.Proofs.Inference.Position
import JsonShape.Proofs.Selection.Validity

/-!
# What a selection leaves

Each field of what is left comes from a field with an entry, which leaves the field
whole, changes it, or selects within it.  So what is left is known from the selection
and the tree alone, and below a field that is left whole everything is as it was.
-/

set_option autoImplicit false

namespace JsonShape.Selection

/-- What becomes of a field that is kept, when `R` tells what is left of a type. -/
inductive KeptAs [Room] (R : Spec → Node → Node → Prop) (entries : List (String × Spec)) :
    String × Field Node → String × Field Node → Prop
  | whole {field : String × Field Node} (hentry : entries.lookup field.1 = some (.bool true)) :
      KeptAs R entries field field
  | changed {name : String} {own type : Node} {optional : Bool} {changes : List (String × Spec)}
      (hentry : entries.lookup name = some (.obj changes)) (hstart : StartsAs changes own type)
      (hof : given? "of" changes = none) :
      KeptAs R entries (name, ⟨own, optional⟩) (name, ⟨type, optional || forcesOptional changes⟩)
  | selected {name : String} {own type part : Node} {optional : Bool}
      {changes : List (String × Spec)} {selection : Spec}
      (hentry : entries.lookup name = some (.obj changes)) (hstart : StartsAs changes own type)
      (hof : given? "of" changes = some selection)
      (hpart : R (within changes selection) type part) :
      KeptAs R entries (name, ⟨own, optional⟩) (name, ⟨part, optional || forcesOptional changes⟩)

/-- What a selection leaves of a tree.  Slices stay around what is left of their elements,
and the fields of a struct that are kept stay in the order of the struct. -/
inductive Content [Room] : Spec → Node → Node → Prop
  | slice {spec : Spec} {entries : List (String × Spec)} {element part : Node}
      (hspec : entriesOf spec = .ok (entries, .slice))
      (helement : Content (.obj [("of", .obj entries)]) element part) :
      Content spec (.slice element) (.slice part)
  | struct {R : Spec → Node → Node → Prop} {spec : Spec} {entries : List (String × Spec)}
      {fields others : List (String × Field Node)}
      (hR : ∀ spec type part, R spec type part → Content spec type part)
      (hspec : entriesOf spec = .ok (entries, .struct))
      (hfields : List.Forall₂ (KeptAs R entries)
        (fields.filter fun field => keeps entries field.1) others) :
      Content spec (.struct fields) (.struct others)

variable {R S : Spec → Node → Node → Prop} {entries : List (String × Spec)}
  {field other : String × Field Node} {room : Nat} {spec : Spec} {node pruned : Node}

theorem KeptAs.name_eq [Room] (h : KeptAs R entries field other) : other.1 = field.1 := by
  cases h <;> rfl

/-- What is left of a field is known when it is known what is left of types. -/
theorem KeptAs.unique [Room] {left right : String × Field Node}
    (hunique : ∀ spec type left right, R spec type left → S spec type right → left = right)
    (hleft : KeptAs R entries field left) (hright : KeptAs S entries field right) :
    left = right := by
  cases hleft with
  | whole hentry =>
      cases hright with
      | whole => rfl
      | changed hother => simp [hother] at hentry
      | selected hother => simp [hother] at hentry
  | changed hentry hstart hof =>
      cases hright with
      | whole hother => simp [hentry] at hother
      | changed hother hstarts =>
          cases hentry.symm.trans hother
          rw [hstart.unique hstarts]
      | selected hother _ hsome =>
          cases hentry.symm.trans hother
          simp [hof] at hsome
  | selected hentry hstart hof hpart =>
      cases hright with
      | whole hother => simp [hentry] at hother
      | changed hother _ hnone =>
          cases hentry.symm.trans hother
          simp [hof] at hnone
      | selected hother hstarts hselection hparts =>
          cases hentry.symm.trans hother
          cases hof.symm.trans hselection
          cases hstart.unique hstarts
          rw [hunique _ _ _ _ hpart hparts]

theorem Content.unique [Room] {left right : Node} (hleft : Content spec node left)
    (hright : Content spec node right) : left = right := by
  induction hleft generalizing right with
  | slice hspec _ ih =>
      cases hright with
      | slice hother helement =>
          cases hspec.symm.trans hother
          rw [ih helement]
  | struct _ hspec hfields ih =>
      cases hright with
      | struct hS hother hothers =>
          cases hspec.symm.trans hother
          rw [eq_of_forall₂ ?_ hfields hothers]
          intro field left right
          exact KeptAs.unique fun spec type left right hl hr => ih spec type left hl (hS _ _ _ hr)

/-! ## The content of what is left -/

theorem keptAs_of_selectField [Room] {select : Node → Spec → Except SelectionError Node}
    (hroom : room ≤ Room.description)
    (hselect : ∀ spec type part, select type spec = .ok part → R spec type part)
    (h : selectField room select entries field = .ok (some other)) :
    KeptAs R entries field other := by
  rcases selectField_eq_some_iff.mp h with
    ⟨hentry, rfl⟩ | ⟨changes, changed, hentry, -, hchanged, rfl⟩
  · exact .whole hentry
  · obtain ⟨type, part, hbefore, hwithin, rfl⟩ := overrideField_eq_ok_iff_exists.mp hchanged
    have hstart := startsAs_of_typeBefore hroom hbefore
    rw [selectWithin] at hwithin
    cases hof : given? "of" changes with
    | none =>
        rw [hof, Except.ok.injEq] at hwithin
        exact hwithin ▸ .changed hentry hstart hof
    | some selection =>
        rw [hof] at hwithin
        exact .selected hentry hstart hof (hselect _ _ _ hwithin)

theorem content_of_apply [Room] (hroom : room ≤ Room.description)
    (h : apply room node spec = .ok pruned) : Content spec node pruned := by
  refine apply_induction
    (motive := fun room node spec pruned => room ≤ Room.description → Content spec node pruned)
    ?_ ?_ h hroom
  · intro room spec entries element other hentries _ ih hroom
    exact .slice hentries (ih (by omega))
  · intro room spec entries fields others hentries hothers ih hroom
    have hinner : ∀ spec type part, apply room type spec = .ok part → Content spec type part :=
      fun spec type part hpart => ih type spec part hpart (by omega)
    have hfields := (selectFields_eq_ok_iff_forall₂.mp hothers).2
    refine .struct hinner hentries (hfields.imp fun field other hfield => ?_)
    exact keptAs_of_selectField (by omega) (fun _ _ _ => id) hfield

/-! ## Positions -/

/-- A selection leads to a position through the fields that it keeps and the elements of
slices.  What applies there is a selection again, or none within a field that is left
without one. -/
inductive Leads : Spec → Position → Option Spec → Prop
  | here {spec : Spec} : Leads spec [] (some spec)
  | item {spec : Spec} {entries : List (String × Spec)} {rest : Position} {applies : Option Spec}
      (hspec : entriesOf spec = .ok (entries, .slice))
      (hrest : Leads (.obj [("of", .obj entries)]) rest applies) :
      Leads spec (.item :: rest) applies
  | whole {spec : Spec} {entries : List (String × Spec)} {name : String} {rest : Position}
      (hspec : entriesOf spec = .ok (entries, .struct)) (hkeeps : keeps entries name = true)
      (hinner : inner? entries name = none) : Leads spec (.field name :: rest) none
  | field {spec inner : Spec} {entries : List (String × Spec)} {name : String} {rest : Position}
      {applies : Option Spec} (hspec : entriesOf spec = .ok (entries, .struct))
      (hkeeps : keeps entries name = true) (hinner : inner? entries name = some inner)
      (hrest : Leads inner rest applies) : Leads spec (.field name :: rest) applies

/-- A selection in which no entry forces a type, at any depth. -/
inductive KeepsTypes : Spec → Prop
  | intro {spec : Spec}
      (hforced : ∀ entries container name changes, entriesOf spec = .ok (entries, container) →
        entries.lookup name = some (.obj changes) → given? "forceType" changes = none)
      (hwithin : ∀ entries container name inner, entriesOf spec = .ok (entries, container) →
        inner? entries name = some inner → KeepsTypes inner) : KeepsTypes spec

section KeepsTypes

variable {container : Container} (hspec : entriesOf spec = .ok (entries, container))
include hspec

theorem KeepsTypes.of_entriesOf
    (hforced : ∀ name changes, entries.lookup name = some (.obj changes) →
      given? "forceType" changes = none)
    (hwithin : ∀ name inner, inner? entries name = some inner → KeepsTypes inner) :
    KeepsTypes spec := by
  constructor
  · intro _ _ name changes hother
    cases hspec.symm.trans hother
    exact hforced name changes
  · intro _ _ name inner hother
    cases hspec.symm.trans hother
    exact hwithin name inner

theorem KeepsTypes.of_entries
    (h : ∀ name changes, (name, Spec.obj changes) ∈ entries →
      given? "forceType" changes = none ∧
        ∀ selection, given? "of" changes = some selection →
          KeepsTypes (within changes selection)) : KeepsTypes spec := by
  refine .of_entriesOf hspec ?_ ?_
  · intro name changes hentry
    exact (h name changes (mem_of_lookup_eq_some hentry)).1
  · intro name inner hinner
    rw [inner?] at hinner
    split at hinner
    · next changes hentry =>
        obtain ⟨selection, hselection, rfl⟩ := Option.map_eq_some_iff.mp hinner
        exact (h name changes (mem_of_lookup_eq_some hentry)).2 selection hselection
    · cases hinner

theorem KeepsTypes.of_slice (h : KeepsTypes spec) : KeepsTypes (.obj [("of", .obj entries)]) := by
  cases h with
  | intro hforced hwithin =>
      exact .of_entriesOf rfl (fun name changes => hforced entries container name changes hspec)
        fun name inner => hwithin entries container name inner hspec

end KeepsTypes

theorem StartsAs.eq_own [Room] {changes : List (String × Spec)} {own type : Node}
    (h : StartsAs changes own type) (hforced : given? "forceType" changes = none) :
    type = own := by
  cases h with
  | own => rfl
  | forced hsome => simp [hforced] at hsome

theorem inner?_of_lookup {name : String} {changes : List (String × Spec)}
    (h : entries.lookup name = some (.obj changes)) :
    inner? entries name = (given? "of" changes).map (within changes) := by
  rw [inner?, h]

/-- What is at a position of what is left, if no types are forced: the part of the tree
at the position, up to what the selection leaves of it. -/
def FromTree [Room] (node : Node) (position : Position) (applies : Option Spec)
    (part : Node) : Prop :=
  ∃ original, node.at? position = some original ∧
    match applies with
    | none => part = original
    | some inner => Content inner original part

/-- A step to a field that is kept, when the rest of the way is known for types. -/
theorem KeptAs.leads [Room] {name : String} {own left : Field Node} {rest : Position} {part : Node}
    (hrest : ∀ spec type selected, R spec type selected → selected.at? rest = some part →
      ∃ applies, Leads spec rest applies ∧ (KeepsTypes spec → FromTree type rest applies part))
    (hspec : entriesOf spec = .ok (entries, .struct)) (hkeeps : keeps entries name = true)
    (h : KeptAs R entries (name, own) (name, left)) (hpart : left.type.at? rest = some part) :
    ∃ applies, Leads spec (.field name :: rest) applies ∧
      (KeepsTypes spec → FromTree own.type rest applies part) := by
  cases h with
  | whole hentry =>
      refine ⟨none, .whole hspec hkeeps (by rw [inner?, hentry]), fun _ => ?_⟩
      exact ⟨part, hpart, rfl⟩
  | @changed _ _ type _ changes hentry hstart hof =>
      have hinner : inner? entries name = none := by rw [inner?_of_lookup hentry, hof]; rfl
      refine ⟨none, .whole hspec hkeeps hinner, fun ⟨hforced, _⟩ => ⟨part, ?_, rfl⟩⟩
      rwa [← hstart.eq_own (hforced entries .struct name changes hspec hentry)]
  | @selected _ _ type _ _ changes selection hentry hstart hof hselected =>
      have hinner : inner? entries name = some (within changes selection) := by
        rw [inner?_of_lookup hentry, hof]
        rfl
      obtain ⟨applies, hleads, hfrom⟩ := hrest _ _ _ hselected hpart
      refine ⟨applies, .field hspec hkeeps hinner hleads, fun ⟨hforced, hwithin⟩ => ?_⟩
      rw [← hstart.eq_own (hforced entries .struct name changes hspec hentry)]
      exact hfrom (hwithin entries .struct name _ hspec hinner)

/-- Every part of what is left is one to which the selection leads. -/
theorem Content.leads [Room] {position : Position} {part : Node} (h : Content spec node pruned)
    (hpart : pruned.at? position = some part) :
    ∃ applies, Leads spec position applies ∧
      (KeepsTypes spec → FromTree node position applies part) := by
  induction position generalizing spec node pruned with
  | nil =>
      rw [Node.at?_nil, Option.some.injEq] at hpart
      exact ⟨some spec, .here, fun _ => ⟨node, Node.at?_nil node, hpart ▸ h⟩⟩
  | cons step rest ih =>
      cases h with
      | slice hspec helement =>
          cases step with
          | field name => simp [Node.at?] at hpart
          | item =>
              rw [Node.at?_item] at hpart
              obtain ⟨applies, hleads, hfrom⟩ := ih helement hpart
              refine ⟨applies, .item hspec hleads, fun hkeeps => ?_⟩
              rw [FromTree, Node.at?_item]
              exact hfrom (hkeeps.of_slice hspec)
      | @struct R _ entries fields others hR hspec hfields =>
          cases step with
          | item => simp [Node.at?] at hpart
          | field name =>
              rw [Node.at?, Option.bind_eq_some_iff] at hpart
              obtain ⟨other, hother, hpart⟩ := hpart
              obtain ⟨field, hfield, hkept⟩ :=
                exists_of_lookup_forall₂ (fun _ _ => KeptAs.name_eq) hfields hother
              rw [lookup_filter, ite_eq_iff] at hfield
              obtain ⟨hkeeps, hfield⟩ | ⟨-, hnone⟩ := hfield
              · obtain ⟨applies, hleads, hfrom⟩ :=
                  hkept.leads (fun _ _ _ hselected => ih (hR _ _ _ hselected)) hspec hkeeps hpart
                refine ⟨applies, hleads, fun hkeeps => ?_⟩
                rw [FromTree, Node.at?_field hfield]
                exact hfrom hkeeps
              · cases hnone

/-- What is left of a tree is told by the selection, and only by it.  The selection leads
to every part of what is left; unless types are forced, a part that it leaves whole is the
part of the tree at the same position. -/
theorem content_of_prune [Room] {node pruned : Node} {spec : Spec}
    (h : node.prune spec = .ok pruned) :
    Content spec node pruned ∧ (∀ other, Content spec node other → other = pruned) ∧
    ∀ position part, pruned.at? position = some part →
      ∃ applies, Leads spec position applies ∧
        (KeepsTypes spec → FromTree node position applies part) := by
  have hcontent : Content spec node pruned := content_of_apply Room.selection_le_description h
  exact ⟨hcontent, fun _ hother => hother.unique hcontent, fun _ _ => hcontent.leads⟩

def invoiceType : Node :=
  .struct [("id", ⟨.int, false⟩),
    ("lines", ⟨.slice (.struct [("sku", ⟨.string, false⟩), ("price", ⟨.float, true⟩)]), false⟩),
    ("note", ⟨.any, true⟩)]

/-- The changes of the field `sku` of the elements of `lines`. -/
def skuSelection : Spec :=
  .obj [("type", .str "slice"), ("of", .obj [("sku", .obj [("forceOptional", .bool true)])])]

def invoiceSelection : Spec :=
  .obj [("of", .obj [("lines", skuSelection), ("id", .bool true)])]

/-- A type in the place of nothing known, of which all but one field is dropped. -/
def noteSelection : Spec :=
  .obj [("of", .obj [("note", .obj
    [("forceType", .node (.struct [("text", ⟨.string, false⟩), ("by", ⟨.int, true⟩)])),
      ("of", .obj [("text", .bool true)])])])]

theorem keepsTypes_invoiceSelection : KeepsTypes invoiceSelection := by
  refine .of_entries rfl fun name changes hentry => ?_
  simp only [skuSelection, List.mem_cons, Prod.mk.injEq, Spec.obj.injEq, reduceCtorEq, and_false,
    List.not_mem_nil, or_false] at hentry
  obtain ⟨-, rfl⟩ := hentry
  refine ⟨rfl, fun selection hselection => ?_⟩
  cases hselection
  refine .of_entries rfl fun name changes hentry => ?_
  simp only [List.mem_cons, Prod.mk.injEq, Spec.obj.injEq, List.not_mem_nil, or_false] at hentry
  obtain ⟨-, rfl⟩ := hentry
  exact ⟨rfl, nofun⟩

def invoiceLeft : Node :=
  .struct [("id", ⟨.int, false⟩), ("lines", ⟨.slice (.struct [("sku", ⟨.string, true⟩)]), false⟩)]

def noteLeft : Node :=
  .struct [("note", ⟨.struct [("text", ⟨.string, false⟩)], true⟩)]

theorem content_of_prune_invoice :
    Content invoiceSelection invoiceType invoiceLeft ∧ Content noteSelection invoiceType noteLeft ∧
      ∃ applies, Leads invoiceSelection [.field "lines", .item, .field "sku"] applies ∧
        FromTree invoiceType [.field "lines", .item, .field "sku"] applies .string := by
  have hinvoice : invoiceType.prune invoiceSelection = .ok invoiceLeft := rfl
  have hnote : invoiceType.prune noteSelection = .ok noteLeft := rfl
  obtain ⟨hcontent, -, hparts⟩ := content_of_prune hinvoice
  obtain ⟨applies, hleads, hfrom⟩ := hparts [.field "lines", .item, .field "sku"] .string rfl
  exact ⟨hcontent, (content_of_prune hnote).1, applies, hleads, hfrom keepsTypes_invoiceSelection⟩

end JsonShape.Selection

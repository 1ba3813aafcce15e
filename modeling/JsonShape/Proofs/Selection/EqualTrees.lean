import JsonShape.Proofs.Description.Grammar
import JsonShape.Proofs.Inference.Rearrangement
import JsonShape.Proofs.Selection.Finished
import JsonShape.Proofs.Selection.Idempotence

/-!
# Selecting from equal trees

Equal trees have the same fields, though perhaps in another order.  A selection looks
fields up by name, so what it keeps of the one tree it keeps of the other, and it fails
for the one where it fails for the other.
-/

set_option autoImplicit false

namespace JsonShape

/-- Trees that are equal and name nothing twice. -/
structure Node.Equal (node other : Node) : Prop where
  left : node.Distinct
  right : other.Distinct
  same : node.same other = true

namespace Node.Equal

variable {node other element : Node} {fields : List (String × Field Node)}

theorem refl (h : node.Distinct) : node.Equal node := ⟨h, h, same_refl h⟩

theorem symm (h : node.Equal other) : other.Equal node :=
  ⟨h.right, h.left, same_symm h.left h.right h.same⟩

theorem slice_inv (h : (Node.slice element).Equal node) :
    ∃ other, node = .slice other ∧ element.Equal other := by
  obtain ⟨hleft, hright, hsame⟩ := h
  rw [distinct_slice_iff] at hleft
  cases hright with
  | slice hright => exact ⟨_, rfl, hleft, hright, by simpa [Node.same] using hsame⟩
  | _ => simp [Node.same] at hsame

/-- Equal structs have equal fields of the same names. -/
theorem struct_inv (h : (Node.struct fields).Equal node) :
    ∃ others, node = .struct others ∧ (fields.map Prod.fst).Nodup ∧
      (others.map Prod.fst).Nodup ∧ fields.length = others.length ∧
      ∀ entry ∈ fields, ∃ other, others.lookup entry.1 = some other ∧
        entry.2.type.Equal other.type ∧ entry.2.optional = other.optional := by
  obtain ⟨hleft, hright, hsame⟩ := h
  obtain ⟨hnames, hfields⟩ := distinct_struct_iff.mp hleft
  cases hright with
  | struct hothers hright =>
      obtain ⟨hlength, hfound⟩ := same_struct_iff.mp hsame
      refine ⟨_, rfl, hnames, hothers, hlength, fun entry hentry => ?_⟩
      obtain ⟨other, hother, htype, hoptional⟩ := hfound entry hentry
      have hdistinct := hright _ (mem_of_lookup_eq_some hother)
      exact ⟨other, hother, ⟨hfields entry hentry, hdistinct, htype⟩, hoptional⟩
  | _ => simp [Node.same] at hsame

theorem names_perm {others : List (String × Field Node)}
    (h : (Node.struct fields).Equal (.struct others)) :
    (fields.map Prod.fst).Perm (others.map Prod.fst) := by
  obtain ⟨_, ⟨⟩, hnames, -, hlength, hfields⟩ := h.struct_inv
  exact names_perm_of_found hnames hlength fun entry hentry =>
    (hfields entry hentry).imp fun _ => And.left

end Node.Equal

/-! ## Trees that are forced -/

namespace Description

/-- What a description describes names nothing twice if the description does not. -/
theorem Mirrors.distinct {description : Spec} {node : Node} (h : Mirrors description node)
    (hdistinct : description.Distinct) : node.Distinct := by
  induction h with
  | primitive type _ => exact .primitive type
  | any _ => exact .any
  | slice _ hof _ ih => exact .slice (ih (hdistinct.of_lookup hof))
  | @struct R members entries fields _ _ hentries hfields ih =>
      have hobject : (Spec.obj entries).Distinct := by
        rcases hentries with hentries | ⟨rfl, -⟩
        · exact hdistinct.of_lookup hentries
        · exact .object .nil nofun
      obtain ⟨hnames, hmembers⟩ := Spec.distinct_obj_iff.mp hobject
      have hsame : List.Forall₂ Eq (fields.map Prod.fst) (entries.map Prod.fst) := by
        rw [List.forall₂_map_left_iff, List.forall₂_map_right_iff]
        exact (hfields.imp fun _ _ ⟨_, _, _⟩ => rfl).flip
      rw [List.forall₂_eq_eq_eq] at hsame
      refine .struct (hsame ▸ hnames) fun field hfield => ?_
      obtain ⟨entry, hentry, hmirrors⟩ := exists_of_mem_forall₂ hfields.flip hfield
      cases hmirrors with
      | intro hof htype _ => exact ih _ _ htype ((hmembers _ hentry).of_lookup hof)

end Description

namespace Spec

/-- A specification value in which neither a mapping nor a tree names anything twice. -/
structure WellNamed (spec : Spec) : Prop where
  distinct : spec.Distinct
  trees : ∀ tree : Node, spec.Holds tree → tree.Distinct

variable {spec value : Spec} {name : String} {members entries : List (String × Spec)}
  {container : Container}

theorem WellNamed.of_lookup (h : (obj members).WellNamed)
    (hvalue : members.lookup name = some value) : value.WellNamed where
  distinct := h.distinct.of_lookup hvalue
  trees tree htree := h.trees tree (htree.of_lookup hvalue)

theorem WellNamed.of_entriesOf (h : spec.WellNamed)
    (hspec : Selection.entriesOf spec = .ok (entries, container)) : (obj entries).WellNamed where
  distinct := h.distinct.of_entriesOf hspec
  trees tree htree := h.trees tree (htree.of_entriesOf hspec)

theorem WellNamed.within (h : (obj members).WellNamed)
    (hof : Selection.given? "of" members = some value) :
    (Selection.within members value).WellNamed where
  distinct := Selection.distinct_within h.distinct hof
  trees tree htree := h.trees tree (htree.of_within hof)

theorem WellNamed.items (h : (obj entries).WellNamed) :
    (obj [("of", obj entries)]).WellNamed where
  distinct := by
    rw [distinct_obj_iff, List.forall_mem_singleton]
    exact ⟨by simp, h.distinct⟩
  trees tree htree := by
    cases htree with
    | member hmember htree =>
        cases List.mem_singleton.mp hmember
        exact h.trees tree htree

end Spec

namespace Selection

theorem distinct_of_forcedType {room : Nat} {type : Spec} {tree : Node} (htype : type.WellNamed)
    (h : forcedType room type = .ok tree) : tree.Distinct := by
  rw [forcedType.eq_def] at h
  split at h
  · split at h
    · rw [← Except.ok.inj h]
      exact htype.trees _ .here
    · cases h
  · have hmirrors := Description.mirrors_of_read (mapError_eq_ok_iff.mp h)
    exact hmirrors.distinct htype.distinct

/-! ## One field -/

variable {room : Nat} {select : Node → Spec → Except SelectionError Node}
  {entries changes : List (String × Spec)}

/-- Fields of equal types start from equal types, and from the same one where it is forced. -/
theorem exists_typeBefore {field other : Field Node} {type : Node}
    (hequal : field.type.Equal other.type) (hchanges : (Spec.obj changes).WellNamed)
    (h : typeBefore room field changes = .ok type) :
    ∃ start, typeBefore room other changes = .ok start ∧ type.Equal start := by
  rw [typeBefore] at h ⊢
  cases hforced : given? "forceType" changes with
  | none =>
      rw [hforced, Except.ok.injEq] at h
      exact ⟨other.type, rfl, h ▸ hequal⟩
  | some forced =>
      rw [hforced] at h
      have hwell : forced.WellNamed := hchanges.of_lookup (given?_eq_some_iff.mp hforced).1
      exact ⟨type, h, .refl (distinct_of_forcedType hwell (mapError_eq_ok_iff.mp h))⟩

/-- Fields of equal trees. -/
def SameField (field other : Field Node) : Prop :=
  field.type.same other.type = true ∧ field.optional = other.optional

section Field

variable (hselect : ∀ spec type other part, spec.WellNamed → type.Equal other →
  select type spec = .ok part → ∃ result, select other spec = .ok result ∧ part.same result = true)
include hselect

theorem exists_overrideField {field other changed : Field Node}
    (hequal : field.type.Equal other.type) (hoptional : field.optional = other.optional)
    (hchanges : (Spec.obj changes).WellNamed)
    (h : overrideField room select field changes = .ok changed) :
    ∃ result, overrideField room select other changes = .ok result ∧
      SameField changed result := by
  obtain ⟨type, part, hbefore, hpart, rfl⟩ := overrideField_eq_ok_iff_exists.mp h
  obtain ⟨start, hstart, hequal⟩ := exists_typeBefore hequal hchanges hbefore
  have hwithin : ∃ result, selectWithin select changes start = .ok result ∧
      part.same result = true := by
    rw [selectWithin] at hpart ⊢
    cases hof : given? "of" changes with
    | none =>
        rw [hof, Except.ok.injEq] at hpart
        exact ⟨start, rfl, hpart ▸ hequal.same⟩
    | some selection =>
        rw [hof] at hpart
        exact hselect _ type start part (hchanges.within hof) hequal hpart
  obtain ⟨result, hresult, hsame⟩ := hwithin
  refine ⟨⟨result, other.optional || forcesOptional changes⟩, ?_, hsame, ?_⟩
  · exact overrideField_eq_ok_iff_exists.mpr ⟨start, result, hstart, hresult, rfl⟩
  · exact congrArg (· || forcesOptional changes) hoptional

/-- An entry does the same to fields of equal trees. -/
theorem exists_selectField {name : String} {field other : Field Node}
    {result : Option (String × Field Node)} (hequal : field.type.Equal other.type)
    (hoptional : field.optional = other.optional) (hentries : (Spec.obj entries).WellNamed)
    (h : selectField room select entries (name, field) = .ok result) :
    ∃ found, selectField room select entries (name, other) = .ok found ∧
      Option.Rel (fun left right => left.1 = name ∧ right.1 = name ∧ SameField left.2 right.2)
        result found := by
  simp only [selectField_eq_ok_iff] at h ⊢
  rcases h with ⟨hdrops, rfl⟩ | ⟨hwhole, rfl⟩ | ⟨changes, changed, hentry, hkeeps, hchanged, rfl⟩
  · exact ⟨none, .inl ⟨hdrops, rfl⟩, .none⟩
  · exact ⟨_, .inr (.inl ⟨hwhole, rfl⟩), .some ⟨rfl, rfl, hequal.same, hoptional⟩⟩
  · obtain ⟨found, hfound, hsame⟩ :=
      exists_overrideField hselect hequal hoptional (hentries.of_lookup hentry) hchanged
    refine ⟨some (name, found), .inr (.inr ?_), .some ⟨rfl, rfl, hsame⟩⟩
    exact ⟨changes, found, hentry, hkeeps, hfound, rfl⟩

/-! ## The fields of a struct -/

section Struct

variable {fields others kept found : List (String × Field Node)}
  (hequal : (Node.struct fields).Equal (.struct others)) (hentries : (Spec.obj entries).WellNamed)
  (h : selectFields room select entries fields = .ok kept)
include hequal hentries h

/-- If an entry fails for no field of the one struct, it fails for none of the other. -/
theorem exists_selectFields_eq_ok :
    ∃ found, selectFields room select entries others = .ok found := by
  obtain ⟨_, ⟨⟩, hnames, hothers, hlength, hfields⟩ := hequal.struct_inv
  obtain ⟨hknown, results, hresults, -⟩ := selectFields_eq_ok_iff.mp h
  -- every field of the other struct has its like in the first one
  have hsucceeds : ∀ entry ∈ others, ∃ result,
      selectField room select entries entry = .ok result := by
    intro entry hentry
    obtain ⟨field, hfield, htype, hoptional⟩ := found_symm
      (R := fun field other => field.type.Equal other.type ∧ field.optional = other.optional)
      hnames hothers hlength hfields entry hentry
    obtain ⟨result, -, hresult⟩ := exists_eq_ok_of_mapM hresults (mem_of_lookup_eq_some hfield)
    obtain ⟨other, hother, -⟩ := exists_selectField hselect htype hoptional hentries hresult
    exact ⟨other, hother⟩
  obtain ⟨found, hfound⟩ := exists_mapM_eq_ok hsucceeds
  refine ⟨_, selectFields_eq_ok_iff.mpr ⟨?_, found, hfound, rfl⟩⟩
  rw [unknownField?_eq_none_iff] at hknown ⊢
  exact fun name entry hentry htruthy => hequal.names_perm.subset (hknown name entry hentry htruthy)

/-- What is kept of the fields of the one struct is kept of the fields of the other. -/
theorem same_of_selectFields (hfound : selectFields room select entries others = .ok found) :
    (Node.struct kept).same (.struct found) = true := by
  obtain ⟨_, ⟨⟩, -, hothers, -, hfields⟩ := hequal.struct_inv
  refine Node.same_struct_iff.mpr ⟨?_, fun entry hentry => ?_⟩
  · have hlength := (hequal.names_perm.filter (keeps entries)).length_eq
    rwa [← names_of_selectFields h, ← names_of_selectFields hfound, List.length_map,
      List.length_map] at hlength
  · obtain ⟨⟨name, field⟩, hfield, hkept⟩ := exists_of_mem_selectFields h hentry
    obtain ⟨other, hother, htype, hoptional⟩ := hfields _ hfield
    obtain ⟨_, hresult, hrelated⟩ := exists_selectField hselect htype hoptional hentries hkept
    cases hrelated with
    | @some _ result hrelated =>
        obtain ⟨hname, hname', hsame⟩ := hrelated
        have hmem := mem_of_selectFields hfound (mem_of_lookup_eq_some hother) hresult
        have hdistinct : (found.map Prod.fst).Nodup := by
          rw [names_of_selectFields hfound]
          exact hothers.filter _
        refine ⟨result.2, ?_, hsame⟩
        rw [hname, ← hname']
        exact lookup_eq_some_of_mem hdistinct hmem

end Struct

end Field

/-! ## Trees at any depth -/

/-- What a selection leaves of equal trees is equal. -/
theorem exists_apply {node other pruned : Node} {spec : Spec} (hequal : node.Equal other)
    (hspec : spec.WellNamed) (h : apply room node spec = .ok pruned) :
    ∃ result, apply room other spec = .ok result ∧ pruned.same result = true := by
  refine apply_induction
    (motive := fun room node spec pruned => ∀ other, node.Equal other → spec.WellNamed →
      ∃ result, apply room other spec = .ok result ∧ pruned.same result = true)
    ?_ ?_ h other hequal hspec
  · intro room spec entries element part hentries _ ih other hequal hspec
    obtain ⟨inner, rfl, helement⟩ := hequal.slice_inv
    obtain ⟨result, hresult, hsame⟩ := ih inner helement (hspec.of_entriesOf hentries).items
    refine ⟨.slice result, ?_, by rwa [Node.same]⟩
    exact apply_slice_eq_ok_iff.mpr ⟨room, entries, result, rfl, hentries, hresult, rfl⟩
  · intro room spec entries fields kept hentries hkept ih other hequal hspec
    obtain ⟨others, rfl, -⟩ := hequal.struct_inv
    have hselect spec type other part (hspec : spec.WellNamed) (hequal : type.Equal other)
        (hpart : apply room type spec = .ok part) := ih type spec part hpart other hequal hspec
    have hentries' : (Spec.obj entries).WellNamed := hspec.of_entriesOf hentries
    obtain ⟨found, hfound⟩ := exists_selectFields_eq_ok hselect hequal hentries' hkept
    refine ⟨.struct found, ?_, same_of_selectFields hselect hequal hentries' hkept hfound⟩
    exact apply_struct_eq_ok_iff.mpr ⟨room, entries, found, rfl, hentries, hfound, rfl⟩

/-- A selection from equal trees fails for both or leaves equal trees. -/
theorem agree_prune [Room] {node other : Node} {spec : Spec} (hequal : node.Equal other)
    (hspec : spec.WellNamed) : Agree (node.prune spec) (other.prune spec) :=
  agree_of_ok (fun _ => exists_apply hequal hspec) fun _ => exists_apply hequal.symm hspec

end Selection

end JsonShape

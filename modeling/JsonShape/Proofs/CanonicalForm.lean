import JsonShape.Proofs.Equality
import Mathlib.Data.List.Nodup
import Mathlib.Data.String.Basic

/-!
# Canonical forms

Trees are equal when sorting the fields of every struct by name makes the same tree of
them.  Hence equality is an equivalence.  A hash that takes fields in any order cannot
tell a tree from its canonical form, so equal trees hash alike and a set keeps one of
them only.
-/

set_option autoImplicit false

namespace JsonShape

/-! ## Entries in the order of their names -/

section Entries

variable {α : Type} {entries others : List (String × α)}

def sortByName (entries : List (String × α)) : List (String × α) :=
  entries.mergeSort fun left right => decide (left.1 ≤ right.1)

theorem sortByName_perm (entries : List (String × α)) : (sortByName entries).Perm entries :=
  List.mergeSort_perm entries _

theorem pairwise_sortByName (entries : List (String × α)) :
    (sortByName entries).Pairwise fun left right => left.1 ≤ right.1 := by
  refine List.Pairwise.imp (fun hle => of_decide_eq_true hle)
    (List.pairwise_mergeSort ?_ ?_ entries)
  · intro first second third
    simp only [decide_eq_true_eq]
    exact le_trans
  · intro left right
    simpa using le_total left.1 right.1

/-- Entries that name nothing twice are sorted into the same list exactly when they
differ in their order only. -/
theorem sortByName_eq_iff (hnames : (entries.map Prod.fst).Nodup) :
    sortByName entries = sortByName others ↔ entries.Perm others := by
  constructor
  · intro h
    exact (sortByName_perm entries).symm.trans (h ▸ sortByName_perm others)
  · intro h
    refine List.Perm.eq_of_pairwise ?_ (pairwise_sortByName entries) (pairwise_sortByName others)
      ((sortByName_perm entries).trans (h.trans (sortByName_perm others).symm))
    intro left right hleft hright hle hge
    have hentry : left ∈ entries := (sortByName_perm entries).subset hleft
    have hother : right ∈ entries := h.symm.subset ((sortByName_perm others).subset hright)
    exact List.inj_on_of_nodup_map hnames hentry hother (le_antisymm hle hge)

/-- Entries differ in their order only if equally many of them are all found. -/
theorem perm_iff_found (hnames : (entries.map Prod.fst).Nodup)
    (hothers : (others.map Prod.fst).Nodup) :
    entries.Perm others ↔ entries.length = others.length ∧
      ∀ entry ∈ entries, others.lookup entry.1 = some entry.2 := by
  constructor
  · intro h
    exact ⟨h.length_eq, fun entry hentry => lookup_eq_some_of_mem hothers (h.subset hentry)⟩
  · rintro ⟨hlength, hfound⟩
    have hsubset : entries ⊆ others := fun entry hentry =>
      mem_of_lookup_eq_some (hfound entry hentry)
    exact (List.subperm_of_subset (.of_map Prod.fst hnames) hsubset).perm_of_length_le hlength.ge

end Entries

namespace Node

mutual

/-- A tree with the fields of every struct in the order of their names. -/
def canon : Node → Node
  | primitive type => primitive type
  | any => any
  | ignore => ignore
  | slice element => slice element.canon
  | struct fields => struct (sortByName (canonFields fields))
  | rawSlice element => rawSlice element.canon
  | rawStruct fields => rawStruct (sortByName (canonEntries fields))
  | union nodes => union (canonAll nodes)

def canonFields : List (String × Field Node) → List (String × Field Node)
  | [] => []
  | (name, ⟨type, optional⟩) :: rest => (name, ⟨type.canon, optional⟩) :: canonFields rest

def canonEntries : List (String × Node) → List (String × Node)
  | [] => []
  | (name, node) :: rest => (name, node.canon) :: canonEntries rest

def canonAll : List Node → List Node
  | [] => []
  | node :: rest => node.canon :: canonAll rest

end

/-- A field with the canonical form of its type. -/
def canonField (field : Field Node) : Field Node := ⟨field.type.canon, field.optional⟩

theorem canonFields_eq_map (fields : List (String × Field Node)) :
    canonFields fields = fields.map fun entry => (entry.1, canonField entry.2) := by
  induction fields with
  | nil => rfl
  | cons entry rest ih => rw [canonFields, ih, List.map_cons, canonField]

theorem canonEntries_eq_map (fields : List (String × Node)) :
    canonEntries fields = fields.map fun entry => (entry.1, entry.2.canon) := by
  induction fields with
  | nil => rfl
  | cons entry rest ih => rw [canonEntries, ih, List.map_cons]

theorem canonAll_eq_map (nodes : List Node) : canonAll nodes = nodes.map canon := by
  induction nodes with
  | nil => rfl
  | cons node rest ih => rw [canonAll, ih, List.map_cons]

/-! ## Equality through canonical forms -/

/-- Structs whose entries are mapped to the same sorted list have equally many entries,
and each is found with the same image. -/
theorem sortByName_map_eq_iff {α β : Type} (f : α → β) {entries others : List (String × α)}
    (hnames : (entries.map Prod.fst).Nodup) (hothers : (others.map Prod.fst).Nodup) :
    sortByName (entries.map fun entry => (entry.1, f entry.2)) =
        sortByName (others.map fun entry => (entry.1, f entry.2)) ↔
      entries.length = others.length ∧ ∀ entry ∈ entries, ∃ other,
        others.lookup entry.1 = some other ∧ f entry.2 = f other := by
  have hmapped {entries : List (String × α)} (hnames : (entries.map Prod.fst).Nodup) :
      ((entries.map fun entry => (entry.1, f entry.2)).map Prod.fst).Nodup := by
    rwa [List.map_map]
  rw [sortByName_eq_iff (hmapped hnames), perm_iff_found (hmapped hnames) (hmapped hothers)]
  simp only [List.length_map, List.forall_mem_map, lookup_map_snd, Option.map_eq_some_iff]
  refine and_congr_right fun _ => forall₂_congr fun entry _ => exists_congr fun other => ?_
  exact and_congr_right fun _ => eq_comm

theorem canonField_eq_iff {field other : Field Node} :
    canonField field = canonField other ↔
      field.type.canon = other.type.canon ∧ field.optional = other.optional := by
  rw [canonField, canonField, Field.mk.injEq]

/-- Trees are equal exactly when they have the same canonical form. -/
theorem same_iff_canon_eq {node other : Node} (hnode : node.Distinct) (hother : other.Distinct) :
    node.same other = true ↔ node.canon = other.canon := by
  induction hnode generalizing other with
  | primitive type => cases hother <;> simp [same, canon]
  | any => cases hother <;> simp [same, canon]
  | ignore => cases hother <;> simp [same, canon]
  | slice _ ih =>
      cases hother with
      | slice hother => rw [same, canon, canon, slice.injEq, ih hother]
      | _ => simp [same, canon]
  | rawSlice _ ih =>
      cases hother with
      | rawSlice hother => rw [same, canon, canon, rawSlice.injEq, ih hother]
      | _ => simp [same, canon]
  | struct hnames _ ih =>
      cases hother with
      | struct hothers hfields =>
          rw [same_struct_iff, canon, canon, struct.injEq, canonFields_eq_map, canonFields_eq_map,
            sortByName_map_eq_iff canonField hnames hothers]
          refine and_congr_right fun _ => forall₂_congr fun entry hentry =>
            exists_congr fun field => and_congr_right fun hfield => ?_
          rw [ih entry hentry (hfields _ (mem_of_lookup_eq_some hfield)), canonField_eq_iff]
      | _ => simp [same, canon]
  | rawStruct hnames _ ih =>
      cases hother with
      | rawStruct hothers hfields =>
          rw [same_rawStruct_iff, canon, canon, rawStruct.injEq, canonEntries_eq_map,
            canonEntries_eq_map, sortByName_map_eq_iff canon hnames hothers]
          refine and_congr_right fun _ => forall₂_congr fun entry hentry =>
            exists_congr fun field => and_congr_right fun hfield => ?_
          exact ih entry hentry (hfields _ (mem_of_lookup_eq_some hfield))
      | _ => simp [same, canon]
  | @union nodes hnodes ih =>
      cases hother with
      | @union others hothers =>
          rw [same_union_iff, canon, canon, union.injEq, canonAll_eq_map, canonAll_eq_map,
            ← List.forall₂_eq_eq_eq, List.forall₂_map_left_iff, List.forall₂_map_right_iff]
          rw [List.forall₂_iff_zip, List.forall₂_iff_zip]
          refine and_congr_right fun _ => forall₂_congr fun node other => ?_
          refine imp_congr_right fun h => ?_
          exact ih node (List.of_mem_zip h).1 (hothers other (List.of_mem_zip h).2)
      | _ => simp [same, canon]

/-! ## Hashes through canonical forms -/

/-- The hash of a field under its name. -/
def fieldHash (hashing : Hashing) (entry : String × Field Node) : UInt64 :=
  hashing.row [hashing.text entry.1,
    hashing.row [entry.2.type.hash hashing, hashing.mark entry.2.optional]]

theorem fieldHashes_eq_map (hashing : Hashing) (fields : List (String × Field Node)) :
    fieldHashes hashing fields = fields.map (fieldHash hashing) := by
  induction fields with
  | nil => rfl
  | cons entry rest ih => rw [fieldHashes, ih, List.map_cons, fieldHash]

theorem entryHashes_eq_map (hashing : Hashing) (fields : List (String × Node)) :
    entryHashes hashing fields =
      fields.map fun entry => hashing.row [hashing.text entry.1, entry.2.hash hashing] := by
  induction fields with
  | nil => rfl
  | cons entry rest ih => rw [entryHashes, ih, List.map_cons]

theorem hash_struct_of_perm (hashing : Hashing) {fields others : List (String × Field Node)}
    (h : fields.Perm others) : (struct fields).hash hashing = (struct others).hash hashing := by
  rw [hash, hash, fieldHashes_eq_map, fieldHashes_eq_map]
  exact hashing.set_perm (h.map _)

theorem hash_rawStruct_of_perm (hashing : Hashing) {fields others : List (String × Node)}
    (h : fields.Perm others) :
    (rawStruct fields).hash hashing = (rawStruct others).hash hashing := by
  rw [hash, hash, entryHashes_eq_map, entryHashes_eq_map]
  exact hashing.set_perm (h.map _)

mutual

/-- A hash does not tell a tree from its canonical form. -/
theorem hash_canon (hashing : Hashing) (node : Node) :
    node.canon.hash hashing = node.hash hashing := by
  match node with
  | primitive _ | any | ignore => rw [canon]
  | slice element => rw [canon, hash, hash, hash_canon hashing element]
  | rawSlice element => rw [canon, hash, hash, hash_canon hashing element]
  | struct fields =>
      rw [canon, hash_struct_of_perm hashing (sortByName_perm _), hash, hash,
        fieldHashes_canonFields hashing fields]
  | rawStruct fields =>
      rw [canon, hash_rawStruct_of_perm hashing (sortByName_perm _), hash, hash,
        entryHashes_canonEntries hashing fields]
  | union nodes => rw [canon, hash, hash, nodeHashes_canonAll hashing nodes]

theorem fieldHashes_canonFields (hashing : Hashing) (fields : List (String × Field Node)) :
    fieldHashes hashing (canonFields fields) = fieldHashes hashing fields := by
  match fields with
  | [] => rw [canonFields]
  | (name, ⟨type, optional⟩) :: rest =>
      rw [canonFields, fieldHashes, fieldHashes, hash_canon hashing type,
        fieldHashes_canonFields hashing rest]

theorem entryHashes_canonEntries (hashing : Hashing) (fields : List (String × Node)) :
    entryHashes hashing (canonEntries fields) = entryHashes hashing fields := by
  match fields with
  | [] => rw [canonEntries]
  | (name, node) :: rest =>
      rw [canonEntries, entryHashes, entryHashes, hash_canon hashing node,
        entryHashes_canonEntries hashing rest]

theorem nodeHashes_canonAll (hashing : Hashing) (nodes : List Node) :
    nodeHashes hashing (canonAll nodes) = nodeHashes hashing nodes := by
  match nodes with
  | [] => rw [canonAll]
  | node :: rest =>
      rw [canonAll, nodeHashes, nodeHashes, hash_canon hashing node,
        nodeHashes_canonAll hashing rest]

end

/-- Equal trees hash alike. -/
theorem hash_eq_of_same (hashing : Hashing) {node other : Node} (hnode : node.Distinct)
    (hother : other.Distinct) (h : node.same other = true) :
    node.hash hashing = other.hash hashing := by
  rw [← hash_canon hashing node, (same_iff_canon_eq hnode hother).mp h, hash_canon hashing other]

/-- A set of two trees has one element exactly when they are equal. -/
theorem setSize_eq_one_iff (hashing : Hashing) {node other : Node} (hnode : node.Distinct)
    (hother : other.Distinct) : setSize hashing node other = 1 ↔ node.same other = true := by
  rw [setSize]
  constructor
  · intro h
    split at h
    · next hequal => exact (Bool.and_eq_true_iff.mp hequal).2
    · cases h
  · intro h
    rw [if_pos (by simp [h, hash_eq_of_same hashing hnode hother h])]

/-- Equality of trees, raw or finished, is equality of their canonical forms, and
therefore an equivalence.  However trees are hashed, equal ones hash alike, and a set of
two trees has one element exactly when they are equal. -/
theorem equality_of_canonical_forms :
    (∀ node other : Node, node.Distinct → other.Distinct →
      (node.same other = true ↔ node.canon = other.canon)) ∧
    (Equivalence fun node other : {node : Node // node.Distinct} =>
      node.1.same other.1 = true) ∧
    ∀ (hashing : Hashing) (node other : Node), node.Distinct → other.Distinct →
      (node.same other = true → node.hash hashing = other.hash hashing) ∧
        (setSize hashing node other = 1 ↔ node.same other = true) := by
  refine ⟨fun node other => same_iff_canon_eq, ?_, fun hashing node other hnode hother =>
    ⟨hash_eq_of_same hashing hnode hother, setSize_eq_one_iff hashing hnode hother⟩⟩
  constructor
  · exact fun node => (same_iff_canon_eq node.2 node.2).mpr rfl
  · intro node other h
    rw [same_iff_canon_eq node.2 other.2] at h
    exact (same_iff_canon_eq other.2 node.2).mpr h.symm
  · intro first second third hfirst hsecond
    rw [same_iff_canon_eq first.2 second.2] at hfirst
    rw [same_iff_canon_eq second.2 third.2] at hsecond
    exact (same_iff_canon_eq first.2 third.2).mpr (hfirst.trans hsecond)

/-- Two documents before they are merged, with a finished type for one of their fields. -/
def mixedTree : Node :=
  .union [.rawStruct [("id", .int),
      ("at", .struct [("x", ⟨.int, false⟩), ("y", ⟨.slice .string, true⟩)])],
    .rawSlice (.union [.ignore, .rawStruct []])]

def mixedTreeTurned : Node :=
  .union [.rawStruct [("at", .struct [("y", ⟨.slice .string, true⟩), ("x", ⟨.int, false⟩)]),
      ("id", .int)],
    .rawSlice (.union [.ignore, .rawStruct []])]

theorem equality_of_canonical_forms_mixedTree :
    mixedTree.Distinct ∧ mixedTreeTurned.Distinct ∧ mixedTree.same mixedTreeTurned = true ∧
      mixedTree.canon = mixedTreeTurned.canon ∧ mixedTreeTurned.same mixedTree = true ∧
      mixedTree.hash .standard = mixedTreeTurned.hash .standard ∧
      mixedTree.countDistinct mixedTreeTurned = 1 := by
  have hleft : mixedTree.Distinct := by
    simp [mixedTree, int, string, Distinct.primitive, Distinct.ignore]
  have hright : mixedTreeTurned.Distinct := by
    simp [mixedTreeTurned, int, string, Distinct.primitive, Distinct.ignore]
  have hsame : mixedTree.same mixedTreeTurned = true := by
    simp [mixedTree, mixedTreeTurned, same, allSame, entriesIn, fieldsIn, int, string,
      List.lookup_cons]
  obtain ⟨hcanon, hequivalence, hhash⟩ := equality_of_canonical_forms
  obtain ⟨halike, hone⟩ := hhash .standard _ _ hleft hright
  refine ⟨hleft, hright, hsame, (hcanon _ _ hleft hright).mp hsame, ?_, halike hsame,
    hone.mpr hsame⟩
  exact hequivalence.symm (x := ⟨mixedTree, hleft⟩) (y := ⟨mixedTreeTurned, hright⟩) hsame

/-- The order of a union's alternatives counts, and a raw slice is no finished one. -/
example : (union [.int, .string]).same (union [.string, .int]) = false ∧
    (rawSlice .int).same (slice .int) = false :=
  ⟨by simp [same, allSame, int, string], by simp [same]⟩

end Node

end JsonShape

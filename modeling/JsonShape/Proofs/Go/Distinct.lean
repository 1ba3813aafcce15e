import JsonShape.Proofs.Go.Layout
import JsonShape.Proofs.Go.Units
import JsonShape.Proofs.Text.Folding

/-!
# Fields of one struct

Go wants the names of a struct's fields to be distinct.  A name keeps the letters and
numbers of its key, but not their case nor what stands between words, and nothing tells
two keys apart that lead to the same name.  `field_names_distinct` says which keys these
can be.
-/

set_option autoImplicit false

namespace JsonShape.Go

open Text

/-! ## What all names keep -/

/-- The letters and numbers of a key, apart from case. -/
def letters (key : List Char) : List Char := upper (key.filter isAlphanumeric)

variable {acronyms : List (List Char)} {key left right : List Char}

theorem upper_spell {word : List Char} (h : IsSingleWord word) :
    upper (spell acronyms word) = upper word := by
  rw [spell_eq]
  split
  · exact upper_upper word
  · exact upper_capitalize h.tail

theorem upper_pascalCase (acronyms : List (List Char)) (text : List Char) :
    upper (pascalCase acronyms text) = letters text := by
  rw [letters, ← flatten_words, pascalCase, upper, upper, List.flatMap_assoc,
    List.flatten_eq_flatMap, List.flatMap_assoc]
  exact List.flatMap_congr fun word hword => upper_spell (isSingleWord_of_mem_words hword)

/-- A name has the letters and numbers of its key, and an `X` in front if need be. -/
theorem upper_fieldName (acronyms : List (List Char)) (key : List Char) :
    upper (fieldName acronyms key) = letters key ∨
      upper (fieldName acronyms key) = 'X' :: letters key := by
  rw [fieldName]
  split
  · exact .inl (upper_pascalCase _ key)
  · refine .inr ?_
    rw [← upper_pascalCase (builtinAcronyms ++ acronyms) key, upper, List.flatMap_cons,
      show upperChar 'X' = ['X'] by decide +kernel]
    rfl

/-- Whether two keys have the same letters and numbers, apart from case and an `X` in
front of one of them. -/
def SameLetters (left right : List Char) : Prop :=
  letters left = letters right ∨ letters left = 'X' :: letters right ∨
    'X' :: letters left = letters right

instance (left right : List Char) : Decidable (SameLetters left right) :=
  inferInstanceAs (Decidable (_ ∨ _))

theorem sameLetters_of_fieldName_eq (h : fieldName acronyms left = fieldName acronyms right) :
    SameLetters left right := by
  have hupper := congrArg upper h
  rcases upper_fieldName acronyms left with hleft | hleft <;>
    rcases upper_fieldName acronyms right with hright | hright <;>
    rw [hleft, hright] at hupper
  · exact .inl hupper
  · exact .inr (.inl hupper)
  · exact .inr (.inr hupper)
  · exact .inl (List.cons.inj hupper).2

/-! ## Keys that clash -/

/-- Whether two keys clash: simple keys that have the same units, and other keys that have
the same letters. -/
def Clash (acronyms : List (List Char)) (left right : List Char) : Prop :=
  (SimpleKey left → SimpleKey right → nameUnits acronyms left = nameUnits acronyms right) ∧
    SameLetters left right

instance (acronyms : List (List Char)) (left right : List Char) :
    Decidable (Clash acronyms left right) :=
  inferInstanceAs (Decidable (_ ∧ _))

theorem clash_of_fieldName_eq (h : fieldName acronyms left = fieldName acronyms right) :
    Clash acronyms left right :=
  ⟨fun hleft hright => (fieldName_eq_iff hleft hright).mp h, sameLetters_of_fieldName_eq h⟩

theorem clash_iff_of_simple (hleft : SimpleKey left) (hright : SimpleKey right) :
    Clash acronyms left right ↔ nameUnits acronyms left = nameUnits acronyms right :=
  ⟨fun h => h.1 hleft hright,
    fun h => clash_of_fieldName_eq ((fieldName_eq_iff hleft hright).mpr h)⟩

/-! ## Names in the text -/

/-- The names of the fields that a row of parts declares in the structs at a depth. -/
def declaredNames (depth : Nat) (row : List Part) : List (List Char) :=
  row.filterMap fun part =>
    match part.role with
    | .fieldName level _ => if level = depth then some part.text else none
    | _ => none

variable {config : Config} {depth level : Nat} {node : Node}

/-- The fields of a type's inner structs stand deeper. -/
theorem le_of_mem_parts {part : Part} {key : String} (h : part ∈ parts config depth node)
    (hrole : part.role = .fieldName level key) : depth ≤ level := by
  induction node using Node.induction_on_children generalizing depth with
  | step node ih =>
      cases node with
      | slice element =>
          rcases List.mem_cons.mp h with rfl | helement
          · simp at hrole
          · exact ih element (List.mem_singleton_self _) helement
      | struct fields =>
          rcases mem_parts_struct_iff.mp h with (rfl | rfl) | ⟨entry, hentry, hown | hinner⟩
          · simp at hrole
          · simp at hrole
          · simp only [ownParts, List.mem_cons, List.not_mem_nil, or_false] at hown
            rcases hown with rfl | rfl | rfl | rfl | rfl | rfl <;> simp at hrole
            exact Nat.le_of_eq hrole.1
          · exact Nat.le_of_succ_le (ih _ (List.mem_map_of_mem hentry) hinner)
      | _ => simp [parts] at h <;> simp [h] at hrole

theorem declaredNames_inner (h : depth < level) :
    declaredNames depth (parts config level node) = [] := by
  refine List.filterMap_eq_nil_iff.mpr fun part hpart => ?_
  split
  · next hrole =>
      have hle := le_of_mem_parts hpart hrole
      exact if_neg (by omega)
  · rfl

theorem declaredNames_fieldParts (config : Config) (depth : Nat)
    (fields : List (String × Field Node)) :
    declaredNames depth (fieldParts config depth fields) =
      fields.map fun entry => exportedName config entry.1 := by
  induction fields with
  | nil => rfl
  | cons entry rest ih =>
      obtain ⟨key, type, optional⟩ := entry
      have hinner : declaredNames depth (parts config (depth + 1) type) = [] :=
        declaredNames_inner (Nat.lt_succ_self depth)
      rw [declaredNames] at hinner ih ⊢
      simp [fieldParts, hinner, ih]

theorem declaredNames_struct (config : Config) (depth : Nat)
    (fields : List (String × Field Node)) :
    declaredNames depth (parts config depth (.struct fields)) =
      fields.map fun entry => exportedName config entry.1 := by
  rw [← declaredNames_fieldParts config depth fields, declaredNames]
  simp [parts, declaredNames]

/-! ## Structs in the text -/

theorem infix_fieldParts {fields : List (String × Field Node)} {entry : String × Field Node}
    (h : entry ∈ fields) :
    parts config (depth + 1) entry.2.type <:+: fieldParts config depth fields := by
  induction fields with
  | nil => simp at h
  | cons first rest ih =>
      obtain ⟨key, type, optional⟩ := first
      rw [fieldParts]
      rcases List.mem_cons.mp h with rfl | hrest
      · exact List.infix_append [_, _, _] _ _
      · have hlater : fieldParts config depth rest <:+
            parts config (depth + 1) type ++ ⟨.layout, ['\t']⟩
              :: ⟨.tag depth key optional, quoted (indented depth (tag config key optional))⟩
              :: ⟨.layout, ['\n']⟩ :: fieldParts config depth rest :=
          (List.suffix_append [_, _, _] _).trans (List.suffix_append _ _)
        exact (ih hrest).trans (hlater.trans (List.suffix_append [_, _, _] _)).isInfix

/-- The text of every struct of a type stands in the text of the type. -/
theorem infix_parts {part : Node} (h : part.Within node) (depth : Nat) :
    ∃ level, parts config level part <:+: parts config depth node := by
  induction h generalizing depth with
  | root => exact ⟨depth, List.infix_refl _⟩
  | @child node child hchild _ ih =>
      cases node with
      | slice element =>
          rw [Node.children, List.mem_singleton] at hchild
          obtain ⟨level, hinfix⟩ := ih depth
          exact ⟨level, hinfix.trans (hchild ▸ (List.suffix_cons _ _).isInfix)⟩
      | struct fields =>
          obtain ⟨entry, hentry, rfl⟩ := List.mem_map.mp hchild
          obtain ⟨level, hinfix⟩ := ih (depth + 1)
          refine ⟨level, hinfix.trans ((infix_fieldParts hentry).trans ?_)⟩
          exact List.infix_append [_] _ _
      | _ => simp [Node.children] at hchild

/-! ## Distinct names -/

/-- Whether the keys of two fields clash. -/
def ClashIn (config : Config) (left right : String × Field Node) : Prop :=
  Clash (config.acronyms.map String.toList) left.1.toList right.1.toList

instance (config : Config) (left right : String × Field Node) :
    Decidable (ClashIn config left right) :=
  inferInstanceAs (Decidable (Clash _ _ _))

theorem nodup_of_no_clash {fields : List (String × Field Node)}
    (h : fields.Pairwise fun left right => ¬ ClashIn config left right) :
    (fields.map fun entry => exportedName config entry.1).Nodup :=
  List.pairwise_map.mpr (h.imp fun hclash heq => hclash (clash_of_fieldName_eq heq))

theorem nodup_iff_no_clash {fields : List (String × Field Node)}
    (hsimple : ∀ entry ∈ fields, SimpleKey entry.1.toList) :
    (fields.map fun entry => exportedName config entry.1).Nodup ↔
      fields.Pairwise fun left right => ¬ ClashIn config left right := by
  rw [List.Nodup, List.pairwise_map]
  refine List.Pairwise.iff_of_mem fun hleft hright => not_congr ?_
  rw [ClashIn, clash_iff_of_simple (hsimple _ hleft) (hsimple _ hright)]
  exact fieldName_eq_iff (hsimple _ hleft) (hsimple _ hright)

/-- The text of every struct of a finished tree stands in the text of the tree's type.  The
names of the fields that are declared there are distinct if no two keys of the struct clash,
and if the keys are simple, only then. -/
theorem field_names_distinct (config : Config) {node : Node} (hfinished : node.IsFinished) :
    typeText config node = .ok (spelled (parts config 0 node)) ∧
      ∀ fields, (Node.struct fields).Within node →
        (∃ depth, parts config depth (.struct fields) <:+: parts config 0 node) ∧
          ∀ depth,
            (fields.Pairwise (fun left right => ¬ ClashIn config left right) →
              (declaredNames depth (parts config depth (.struct fields))).Nodup) ∧
            ((∀ entry ∈ fields, SimpleKey entry.1.toList) →
              ((declaredNames depth (parts config depth (.struct fields))).Nodup ↔
                fields.Pairwise fun left right => ¬ ClashIn config left right)) := by
  refine ⟨typeText_eq_spelled config hfinished, fun fields hwithin => ?_⟩
  refine ⟨infix_parts hwithin 0, fun depth => ?_⟩
  rw [declaredNames_struct]
  exact ⟨nodup_of_no_clash, nodup_iff_no_clash⟩

/-- Fields of which some have the same letters, but not the same words. -/
def memberFields : List (String × Field Node) :=
  [("user_id", ⟨.int, false⟩), ("userid", ⟨.any, true⟩), ("новый_ключ", ⟨.int, true⟩),
    ("новыйключ", ⟨.int, false⟩)]

theorem field_names_distinct_member :
    (Node.slice (.struct memberFields)).IsFinished ∧
      (Node.struct memberFields).Within (.slice (.struct memberFields)) ∧
      memberFields.Pairwise (fun left right => ¬ ClashIn {} left right) ∧
      (declaredNames 0 (parts {} 0 (.struct memberFields))).Nodup := by
  have hfinished : (Node.slice (.struct memberFields)).IsFinished := by
    simp [memberFields, Node.int]
  have hwithin : (Node.struct memberFields).Within (.slice (.struct memberFields)) :=
    .child (List.mem_singleton_self _) .root
  have hclash : memberFields.Pairwise (fun left right => ¬ ClashIn {} left right) := by
    decide +kernel
  obtain ⟨-, hstructs⟩ := field_names_distinct {} hfinished
  exact ⟨hfinished, hwithin, hclash, ((hstructs memberFields hwithin).2 0).1 hclash⟩

/-- Two keys that differ in style only. -/
def restyledType : Node :=
  .struct [("user_id", ⟨.int, false⟩), ("userId", ⟨.int, false⟩)]

/-- The keys are distinct, and their fields have one name. -/
theorem field_names_of_restyledType :
    restyledType.IsFinished ∧ "user_id" ≠ "userId" ∧
      typeText {} restyledType =
        .ok ("struct \x7b\n\tUserID\t*int\t`json:\"user_id\"`\n" ++
          "\tUserID\t*int\t`json:\"userId\"`\n\x7d").toList ∧
      ¬ (declaredNames 0 (parts {} 0 restyledType)).Nodup := by
  refine ⟨by simp [restyledType, Node.int], by decide, ?_, ?_⟩
  · rw [typeText_eq_spelled {} (by simp [restyledType, Node.int])]
    decide +kernel
  · decide +kernel

end JsonShape.Go

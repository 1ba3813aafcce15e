import JsonShape.Proofs.Go.Words
import JsonShape.Proofs.Text.Simple

/-!
# What a name tells of its key

A name is a text that can be cut into words again.  If the letters of a key have one
form in either case, these are the words of the key, but for three things: an acronym
falls apart into its letters, words come together where nothing in the name shows a cut,
and an `X` in front is one more word.  Two such keys have the same name exactly if what is
left of their words, the units, is the same.
-/

set_option autoImplicit false

namespace JsonShape.Go

open Text

def isDigits (unit : List Char) : Bool := unit.all isDigit

/-- What a word can be told by in a name: its small letters one by one if it is an acronym,
and all together otherwise. -/
def wordUnits (acronyms : List (List Char)) (word : List Char) : List (List Char) :=
  if isAcronym acronyms word then (lower word).map fun char => [char] else [lower word]

/-- Puts a unit in front of what does not begin with a letter that has an upper-case form. -/
def exportedUnits : List (List Char) → List (List Char)
  | [] => [['x']]
  | first :: rest =>
    if isExported (capitalize first) then first :: rest else ['x'] :: first :: rest

/-- Whether nothing in a name shows a cut between two units. -/
def silent (left right : List Char) : Bool :=
  !isExported (capitalize right) && isDigits right == isDigits left

/-- Units in groups, without cuts inside of them. -/
def unitGroups (units : List (List Char)) : List (List (List Char)) := units.splitBy silent

/-- Puts units together where no cut is shown. -/
def joinSilent (units : List (List Char)) : List (List Char) := (unitGroups units).map List.flatten

/-- The units of a key's name, with further acronyms. -/
def nameUnits (acronyms : List (List Char)) (key : List Char) : List (List Char) :=
  joinSilent (exportedUnits ((words key).flatMap (wordUnits (builtinAcronyms ++ acronyms))))

/-! ## Units as words -/

/-- A row of digits, or of other small characters. -/
structure IsNameUnit (unit : List Char) : Prop where
  ne_nil : unit ≠ []
  small : ∀ char ∈ unit, IsSmall char
  digits : ∀ char ∈ unit, ∀ other ∈ unit, isDigit char = isDigit other

theorem isExported_eq {text : List Char} {first : Char} (h : first ∈ text.head?) :
    isExported text = isUpper first := by
  cases text with
  | nil => simp at h
  | cons char rest => rw [← Option.some.inj h]; rfl

theorem isExported_append {left : List Char} (h : left ≠ []) (right : List Char) :
    isExported (left ++ right) = isExported left := by
  obtain ⟨first, rest, rfl⟩ := List.exists_cons_of_ne_nil h
  rfl

namespace IsNameUnit

variable {unit : List Char}

theorem isDigit_eq (h : IsNameUnit unit) : ∀ char ∈ unit, isDigit char = isDigits unit := by
  intro char hchar
  cases hdigit : isDigit char with
  | true =>
      exact (List.all_eq_true.mpr fun other hother =>
        (h.digits other hother char hchar).trans hdigit).symm
  | false => exact (List.all_eq_false.mpr ⟨char, hchar, Bool.eq_false_iff.mp hdigit⟩).symm

theorem isSingleWord (h : IsNameUnit unit) : IsSingleWord unit where
  ne_nil := h.ne_nil
  alphanumeric char hchar := (h.small char hchar).alphanumeric
  tail char hchar := (h.small char (List.mem_of_mem_tail hchar)).not_upper
  digits := h.digits

theorem lower_eq_self (h : IsNameUnit unit) : lower unit = unit := by
  rw [lower_eq_flatMap h.isSingleWord.tail, flatMap_lowerChar_of_small h.small]

theorem capitalize_ne_nil (h : IsNameUnit unit) : capitalize unit ≠ [] := by
  obtain ⟨first, rest, rfl⟩ := List.exists_cons_of_ne_nil h.ne_nil
  rw [capitalize_of_small h.small]
  exact List.cons_ne_nil _ _

theorem isDigit_of_mem_capitalize (h : IsNameUnit unit) :
    ∀ char ∈ capitalize unit, isDigit char = isDigits unit := by
  obtain ⟨first, rest, rfl⟩ := List.exists_cons_of_ne_nil h.ne_nil
  rw [capitalize_of_small h.small, List.forall_mem_cons,
    (h.small first List.mem_cons_self).capital_digit]
  exact List.forall_mem_cons.mp h.isDigit_eq

/-- A capitalised unit is a single word. -/
theorem isSingleWord_capitalize (h : IsNameUnit unit) : IsSingleWord (capitalize unit) where
  ne_nil := h.capitalize_ne_nil
  alphanumeric := by
    obtain ⟨first, rest, rfl⟩ := List.exists_cons_of_ne_nil h.ne_nil
    have hsmall := List.forall_mem_cons.mp h.small
    rw [capitalize_of_small h.small]
    exact List.forall_mem_cons.mpr
      ⟨hsmall.1.capital_alphanumeric, fun char hchar => (hsmall.2 char hchar).alphanumeric⟩
  tail := by
    obtain ⟨first, rest, rfl⟩ := List.exists_cons_of_ne_nil h.ne_nil
    rw [capitalize_of_small h.small]
    exact fun char hchar => (h.small char (List.mem_cons_of_mem _ hchar)).not_upper
  digits char hchar other hother :=
    (h.isDigit_of_mem_capitalize char hchar).trans (h.isDigit_of_mem_capitalize other hother).symm

/-- A unit can be read back from its capitalised form. -/
theorem lower_capitalize (h : IsNameUnit unit) : lower (capitalize unit) = unit := by
  obtain ⟨first, rest, rfl⟩ := List.exists_cons_of_ne_nil h.ne_nil
  rw [capitalize_of_small h.small, lower_capital_cons h.small]

/-- What begins with a character that has no upper-case form is its own capitalised form. -/
theorem capitalize_eq_self (h : IsNameUnit unit)
    (hexported : isExported (capitalize unit) = false) : capitalize unit = unit := by
  obtain ⟨first, rest, rfl⟩ := List.exists_cons_of_ne_nil h.ne_nil
  rw [capitalize_of_small h.small] at hexported ⊢
  have hcapital := (h.small first List.mem_cons_self).capital_cases.resolve_left
    (Bool.eq_false_iff.mp hexported)
  rw [hcapital]

theorem cut {left right : List Char} (hleft : IsNameUnit left) (hright : IsNameUnit right)
    (h : silent left right = false) : Cut (capitalize left) (capitalize right) := by
  intro last hlast first hfirst
  rw [silent, Bool.and_eq_false_iff, Bool.not_eq_false', beq_eq_false_iff_ne,
    isExported_eq hfirst] at h
  refine h.imp_right fun hdigits => ?_
  rwa [hright.isDigit_of_mem_capitalize first (List.mem_of_mem_head? hfirst),
    hleft.isDigit_of_mem_capitalize last (List.mem_of_mem_getLast? hlast)]

end IsNameUnit

/-! ## Rows of units -/

/-- Units side by side in a name, with cuts that show. -/
structure AreNameUnits (units : List (List Char)) : Prop where
  isNameUnit : ∀ unit ∈ units, IsNameUnit unit
  apart : units.IsChain fun left right => silent left right = false

theorem map_eq_self {α : Type} {f : α → α} {values : List α}
    (h : ∀ value ∈ values, f value = value) : values.map f = values :=
  (List.map_congr_left h).trans (List.map_id _)

namespace AreNameUnits

variable {units : List (List Char)}

/-- Cutting a name made of units gives the capitalised units again. -/
theorem words_flatMap (h : AreNameUnits units) :
    words (units.flatMap capitalize) = units.map capitalize := by
  rw [List.flatMap_def]
  refine words_flatten (List.forall_mem_map.mpr fun unit hunit => ?_) ?_
  · exact (h.isNameUnit unit hunit).isSingleWord_capitalize
  · rw [List.isChain_map]
    exact h.apart.imp_of_mem_imp fun left right hleft hright hapart =>
      (h.isNameUnit left hleft).cut (h.isNameUnit right hright) hapart

theorem injective {others : List (List Char)} (h : AreNameUnits units)
    (hothers : AreNameUnits others)
    (heq : units.flatMap capitalize = others.flatMap capitalize) : units = others := by
  have hmap : units.map capitalize = others.map capitalize := by
    rw [← h.words_flatMap, heq, hothers.words_flatMap]
  have hlower {row : List (List Char)} (hrow : AreNameUnits row) :
      (row.map capitalize).map lower = row := by
    rw [List.map_map]
    exact map_eq_self fun unit hunit => (hrow.isNameUnit unit hunit).lower_capitalize
  rw [← hlower h, hmap, hlower hothers]

end AreNameUnits

/-! ## Units that come together -/

section Groups

variable {units : List (List Char)}

theorem silent_iff {left right : List Char} :
    silent left right = true ↔
      isExported (capitalize right) = false ∧ isDigits right = isDigits left := by
  rw [silent, Bool.and_eq_true, Bool.not_eq_true', beq_iff_eq]

/-- Units that come together are a unit, and no character changes its case by it. -/
theorem flatten_group {first : List Char} {rest : List (List Char)}
    (hunits : ∀ unit ∈ first :: rest, IsNameUnit unit)
    (hchain : (first :: rest).IsChain fun left right => silent left right = true) :
    IsNameUnit (first :: rest).flatten ∧
      capitalize (first :: rest).flatten = (first :: rest).flatMap capitalize := by
  have htail := tail_of_isChain (fun unit => isExported (capitalize unit) = false) isDigits
    (fun _ _ hsilent => silent_iff.mp hsilent) hchain
  have hdigits : ∀ unit ∈ first :: rest, isDigits unit = isDigits first :=
    List.forall_mem_cons.mpr ⟨rfl, fun unit hunit => (htail unit hunit).2⟩
  have hsmall : ∀ char ∈ (first :: rest).flatten, IsSmall char := fun char hchar => by
    obtain ⟨unit, hunit, hchar⟩ := List.mem_flatten.mp hchar
    exact (hunits unit hunit).small char hchar
  have hdigit : ∀ char ∈ (first :: rest).flatten, isDigit char = isDigits first :=
    fun char hchar => by
      obtain ⟨unit, hunit, hchar⟩ := List.mem_flatten.mp hchar
      rw [(hunits unit hunit).isDigit_eq char hchar, hdigits unit hunit]
  have hrest : rest.flatMap capitalize = rest.flatten := by
    rw [List.flatMap_def, map_eq_self fun unit hunit => (hunits unit
      (List.mem_cons_of_mem _ hunit)).capitalize_eq_self (htail unit hunit).1]
  obtain ⟨char, others, rfl⟩ :=
    List.exists_cons_of_ne_nil (hunits first List.mem_cons_self).ne_nil
  constructor
  · exact {
      ne_nil := List.cons_ne_nil _ _
      small := hsmall
      digits := fun char hchar other hother =>
        (hdigit char hchar).trans (hdigit other hother).symm }
  · rw [List.flatMap_cons, hrest, capitalize_of_small (hunits _ List.mem_cons_self).small]
    exact capitalize_of_small hsmall

theorem flatten_unitGroups (units : List (List Char)) : (unitGroups units).flatten = units :=
  List.flatten_splitBy silent units

theorem mem_of_mem_unitGroups {group : List (List Char)} (hgroup : group ∈ unitGroups units)
    {unit : List Char} (hunit : unit ∈ group) : unit ∈ units := by
  rw [← flatten_unitGroups units]
  exact List.mem_flatten.mpr ⟨group, hgroup, hunit⟩

theorem isNameUnit_of_mem_unitGroups (hunits : ∀ unit ∈ units, IsNameUnit unit)
    {group : List (List Char)} (hgroup : group ∈ unitGroups units) :
    ∀ unit ∈ group, IsNameUnit unit :=
  fun unit hunit => hunits unit (mem_of_mem_unitGroups hgroup hunit)

theorem flatten_of_mem_unitGroups (hunits : ∀ unit ∈ units, IsNameUnit unit)
    {group : List (List Char)} (hgroup : group ∈ unitGroups units) :
    IsNameUnit group.flatten ∧ capitalize group.flatten = group.flatMap capitalize := by
  cases group with
  | nil => exact absurd hgroup (List.nil_notMem_splitBy silent units)
  | cons first rest =>
      exact flatten_group (isNameUnit_of_mem_unitGroups hunits hgroup)
        (List.isChain_of_mem_splitBy hgroup)

theorem isDigits_flatten (hunits : ∀ unit ∈ units, IsNameUnit unit)
    {group : List (List Char)} (hgroup : group ∈ unitGroups units) {unit : List Char}
    (hunit : unit ∈ group) : isDigits unit = isDigits group.flatten := by
  have hmember := isNameUnit_of_mem_unitGroups hunits hgroup unit hunit
  obtain ⟨char, rest, hchar⟩ := List.exists_cons_of_ne_nil hmember.ne_nil
  have hmem : char ∈ unit := hchar ▸ List.mem_cons_self
  rw [← hmember.isDigit_eq char hmem, (flatten_of_mem_unitGroups hunits hgroup).1.isDigit_eq char
    (List.mem_flatten.mpr ⟨unit, hunit, hmem⟩)]

theorem areNameUnits_joinSilent (hunits : ∀ unit ∈ units, IsNameUnit unit) :
    AreNameUnits (joinSilent units) where
  isNameUnit := List.forall_mem_map.mpr fun group hgroup =>
    (flatten_of_mem_unitGroups hunits hgroup).1
  apart := by
    rw [joinSilent, List.isChain_map]
    refine (List.isChain_getLast_head_splitBy silent units).imp_of_mem_imp
      fun left right hleft hright hsilent => ?_
    obtain ⟨hlast, hhead, hsilent⟩ := hsilent
    -- the groups begin and end with units between which a cut shows
    have hexported : isExported (capitalize right.flatten) =
        isExported (capitalize (right.head hhead)) := by
      obtain ⟨first, rest, rfl⟩ := List.exists_cons_of_ne_nil hhead
      rw [(flatten_of_mem_unitGroups hunits hright).2, List.flatMap_cons, isExported_append]
      · rfl
      · exact (isNameUnit_of_mem_unitGroups hunits hright _ List.mem_cons_self).capitalize_ne_nil
    rw [silent, hexported, ← isDigits_flatten hunits hleft (List.getLast_mem hlast),
      ← isDigits_flatten hunits hright (List.head_mem hhead)]
    exact hsilent

/-- Putting units together does not change what is spelled. -/
theorem flatMap_joinSilent (hunits : ∀ unit ∈ units, IsNameUnit unit) :
    (joinSilent units).flatMap capitalize = units.flatMap capitalize := by
  have hgroups : (joinSilent units).map capitalize =
      (unitGroups units).map (List.flatMap capitalize) := by
    rw [joinSilent, List.map_map]
    exact List.map_congr_left fun group hgroup => (flatten_of_mem_unitGroups hunits hgroup).2
  calc (joinSilent units).flatMap capitalize
      = (unitGroups units).flatMap (List.flatMap capitalize) := by
        rw [List.flatMap_def, hgroups, ← List.flatMap_def]
    _ = (unitGroups units).flatten.flatMap capitalize := by
        rw [List.flatten_eq_flatMap, List.flatMap_assoc]
        rfl
    _ = units.flatMap capitalize := by rw [flatten_unitGroups]

end Groups

/-! ## The units of a word -/

section Words

variable {acronyms : List (List Char)} {word : List Char}

theorem isNameUnit_lower (h : IsSingleWord word) (hsimple : ∀ char ∈ word, IsSimple char) :
    IsNameUnit (lower word) := by
  rw [lower_of_simple hsimple h.tail]
  exact {
    ne_nil := List.map_eq_nil_iff.not.mpr h.ne_nil
    small := List.forall_mem_map.mpr fun char hchar => (hsimple char hchar).small
    digits := List.forall_mem_map.mpr fun char hchar => List.forall_mem_map.mpr
      fun other hother => by
        rw [(hsimple char hchar).digit_eq, (hsimple other hother).digit_eq,
          h.digits char hchar other hother] }

theorem IsNameUnit.singleton {unit : List Char} (h : IsNameUnit unit) {char : Char}
    (hchar : char ∈ unit) : IsNameUnit [char] where
  ne_nil := List.cons_ne_nil _ _
  small := List.forall_mem_singleton.mpr (h.small char hchar)
  digits := List.forall_mem_singleton.mpr (List.forall_mem_singleton.mpr rfl)

theorem isNameUnit_of_mem_wordUnits (h : IsSingleWord word)
    (hsimple : ∀ char ∈ word, IsSimple char) :
    ∀ unit ∈ wordUnits acronyms word, IsNameUnit unit := by
  rw [wordUnits]
  split
  · exact List.forall_mem_map.mpr fun char hchar => (isNameUnit_lower h hsimple).singleton hchar
  · exact List.forall_mem_singleton.mpr (isNameUnit_lower h hsimple)

theorem capitalize_lower (h : IsSingleWord word) (hsimple : ∀ char ∈ word, IsSimple char) :
    capitalize (lower word) = capitalize word := by
  have hsmall := (isNameUnit_lower h hsimple).small
  rw [lower_of_simple hsimple h.tail] at hsmall ⊢
  obtain ⟨first, rest, rfl⟩ := List.exists_cons_of_ne_nil h.ne_nil
  rw [capitalize_of_simple hsimple h.tail]
  exact capitalize_of_small hsmall

theorem upper_eq_flatMap (h : IsSingleWord word) (hsimple : ∀ char ∈ word, IsSimple char) :
    upper word = ((lower word).map fun char => [char]).flatMap capitalize := by
  have hsmall := (isNameUnit_lower h hsimple).small
  rw [upper_of_simple hsimple, ← lower_of_simple hsimple h.tail, List.flatMap_map]
  exact (flatMap_singletons fun char hchar =>
    capitalize_of_small (List.forall_mem_singleton.mpr (hsmall char hchar))).symm

/-- A word is spelled by capitalising its units. -/
theorem spell_eq_flatMap (h : IsSingleWord word) (hsimple : ∀ char ∈ word, IsSimple char) :
    spell acronyms word = (wordUnits acronyms word).flatMap capitalize := by
  rw [spell_eq, wordUnits]
  split
  · exact upper_eq_flatMap h hsimple
  · rw [List.flatMap_singleton, capitalize_lower h hsimple]

end Words

/-! ## The units of a name -/

theorem isNameUnit_x : IsNameUnit ['x'] where
  ne_nil := List.cons_ne_nil _ _
  small := List.forall_mem_singleton.mpr (by decide +kernel)
  digits := List.forall_mem_singleton.mpr (List.forall_mem_singleton.mpr rfl)

section Exported

variable {units : List (List Char)}

theorem isNameUnit_of_mem_exportedUnits (hunits : ∀ unit ∈ units, IsNameUnit unit) :
    ∀ unit ∈ exportedUnits units, IsNameUnit unit := by
  cases units with
  | nil => exact List.forall_mem_singleton.mpr isNameUnit_x
  | cons first rest =>
      rw [exportedUnits]
      split
      · exact hunits
      · exact List.forall_mem_cons.mpr ⟨isNameUnit_x, hunits⟩

theorem flatMap_exportedUnits (hunits : ∀ unit ∈ units, IsNameUnit unit) :
    (exportedUnits units).flatMap capitalize =
      if isExported (units.flatMap capitalize) then units.flatMap capitalize
      else 'X' :: units.flatMap capitalize := by
  have hx : capitalize ['x'] = ['X'] := by decide +kernel
  cases units with
  | nil => simp [exportedUnits, hx, isExported]
  | cons first rest =>
      have hne := (hunits first List.mem_cons_self).capitalize_ne_nil
      rw [List.flatMap_cons, isExported_append hne, exportedUnits]
      split
      · rfl
      · rw [List.flatMap_cons, hx]
        rfl

end Exported

/-- Whether all letters and numbers of a key have one form in either case. -/
def SimpleKey (key : List Char) : Prop :=
  ∀ char ∈ key, isAlphanumeric char = true → IsSimple char

instance (key : List Char) : Decidable (SimpleKey key) :=
  decidable_of_iff (key.all fun char => !isAlphanumeric char || decide (IsSimple char)) (by
    simp [SimpleKey, List.all_eq_true, ← Bool.not_eq_true, imp_iff_not_or])

section Names

variable {acronyms : List (List Char)} {key : List Char}

theorem isSimple_of_mem_words (h : SimpleKey key) {word : List Char} (hword : word ∈ words key) :
    ∀ char ∈ word, IsSimple char := by
  intro char hchar
  obtain ⟨hkey, halphanumeric⟩ := mem_of_mem_words hword hchar
  exact h char hkey halphanumeric

theorem isNameUnit_of_mem_words (h : SimpleKey key) :
    ∀ unit ∈ (words key).flatMap (wordUnits acronyms), IsNameUnit unit := by
  intro unit hunit
  obtain ⟨word, hword, hunit⟩ := List.mem_flatMap.mp hunit
  exact isNameUnit_of_mem_wordUnits (isSingleWord_of_mem_words hword)
    (isSimple_of_mem_words h hword) unit hunit

theorem areNameUnits_nameUnits (h : SimpleKey key) : AreNameUnits (nameUnits acronyms key) :=
  areNameUnits_joinSilent (isNameUnit_of_mem_exportedUnits (isNameUnit_of_mem_words h))

/-- A name is spelled by capitalising its units. -/
theorem fieldName_eq_flatMap (h : SimpleKey key) :
    fieldName acronyms key = (nameUnits acronyms key).flatMap capitalize := by
  have hunits : ∀ unit ∈ (words key).flatMap (wordUnits (builtinAcronyms ++ acronyms)),
      IsNameUnit unit := isNameUnit_of_mem_words h
  have hspelled : pascalCase (builtinAcronyms ++ acronyms) key =
      ((words key).flatMap (wordUnits (builtinAcronyms ++ acronyms))).flatMap capitalize := by
    rw [pascalCase, List.flatMap_assoc]
    exact List.flatMap_congr fun word hword =>
      spell_eq_flatMap (isSingleWord_of_mem_words hword) (isSimple_of_mem_words h hword)
  rw [nameUnits, flatMap_joinSilent (isNameUnit_of_mem_exportedUnits hunits),
    flatMap_exportedUnits hunits, ← hspelled, fieldName]

/-- The words of a name are its units, capitalised. -/
theorem words_fieldName (h : SimpleKey key) :
    words (fieldName acronyms key) = (nameUnits acronyms key).map capitalize := by
  rw [fieldName_eq_flatMap h, (areNameUnits_nameUnits h).words_flatMap]

/-- Two simple keys have the same name exactly if they have the same units. -/
theorem fieldName_eq_iff {other : List Char} (h : SimpleKey key) (hother : SimpleKey other) :
    fieldName acronyms key = fieldName acronyms other ↔
      nameUnits acronyms key = nameUnits acronyms other := by
  constructor
  · intro heq
    rw [fieldName_eq_flatMap h, fieldName_eq_flatMap hother] at heq
    exact (areNameUnits_nameUnits h).injective (areNameUnits_nameUnits hother) heq
  · intro heq
    rw [fieldName_eq_flatMap h, fieldName_eq_flatMap hother, heq]

example : nameUnits [] "2_1_fa_ID".toList = ["x", "21", "fa", "i", "d"].map String.toList := by
  decide +kernel

end Names

end JsonShape.Go

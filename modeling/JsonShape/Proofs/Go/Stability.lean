import JsonShape.Proofs.Go.Exported
import JsonShape.Proofs.Go.Styles

/-!
# Names of names

A name can be the key of another name.  Its words are the units of its own key, and if that
is a text of ASCII, none of them is spelled in another way now: of an acronym, there are
single letters left, digits have no case, and any other word is no acronym.
-/

set_option autoImplicit false

namespace JsonShape.Go

open Text

/-! ## Units that are spelled as they are capitalised -/

/-- Whether it makes no difference to the spelling of a unit if it is an acronym. -/
structure IsSettled (acronyms : List (List Char)) (unit : List Char) : Prop where
  isBasicWord : IsBasicWord unit
  spell_eq : spell acronyms unit = capitalize unit

theorem IsNameUnit.isBasicWord {unit : List Char} (h : IsNameUnit unit)
    (hbasic : ∀ char ∈ unit, isBasic char = true) : IsBasicWord unit where
  ne_nil := h.ne_nil
  uniform := by
    have hdigit : ∀ char ∈ unit, char.isDigit = isDigits unit := fun char hchar => by
      rw [← isDigit_of_isBasic (hbasic char hchar), h.isDigit_eq char hchar]
    cases hdigits : isDigits unit with
    | true =>
        exact .inr (List.all_eq_true.mpr fun char hchar => (hdigit char hchar).trans hdigits)
    | false =>
        refine .inl (List.all_eq_true.mpr fun char hchar => ?_)
        rw [isLower_of_isBasic (hbasic char hchar), hdigit char hchar, hdigits]
        rfl

section Settled

variable {acronyms : List (List Char)} {unit word : List Char}

theorem isSettled_of_isNumeral (h : IsBasicWord unit) (hnumeral : isNumeral unit = true) :
    IsSettled acronyms unit where
  isBasicWord := h
  spell_eq := by
    have hexported := h.isExported_capitalize
    rw [hnumeral, Bool.not_true] at hexported
    have hupper : upper unit = unit := by
      rw [h.upper_eq_map]
      exact map_eq_self fun char hchar =>
        capital_of_isDigit (List.all_eq_true.mp hnumeral char hchar)
    rw [Go.spell_eq, hupper, h.isNameUnit.capitalize_eq_self hexported, ite_self]

theorem isSettled_singleton {char : Char} (h : isBasic char = true) :
    IsSettled acronyms [char] := by
  have hword : IsBasicWord [char] := by
    refine ⟨List.cons_ne_nil _ _, ?_⟩
    rwa [isNumeral, List.all_cons, List.all_cons, List.all_nil, List.all_nil, Bool.and_true,
      Bool.and_true, ← Bool.or_eq_true]
  refine ⟨hword, ?_⟩
  rw [spell_eq, hword.upper_eq_map, capitalize_of_small hword.isNameUnit.small, List.map_singleton,
    ite_self]

theorem isSimple_of_isAscii (h : IsSingleWord word) (hascii : IsAscii word) :
    ∀ char ∈ word, IsSimple char :=
  fun char hchar => isSimple_of_ascii (hascii char hchar) (h.alphanumeric char hchar)

theorem isBasic_of_mem_lower (h : IsSingleWord word) (hascii : IsAscii word) :
    ∀ char ∈ lower word, isBasic char = true := by
  rw [lower_of_simple (isSimple_of_isAscii h hascii) h.tail, List.forall_mem_map]
  exact fun char hchar => isBasic_small (hascii char hchar) (h.alphanumeric char hchar)

/-- A word that is an acronym comes apart, and another one is none in lower case either. -/
theorem isSettled_of_mem_wordUnits (h : IsSingleWord word) (hascii : IsAscii word) :
    ∀ unit ∈ wordUnits acronyms word, IsSettled acronyms unit := by
  have hbasic := isBasic_of_mem_lower h hascii
  rw [wordUnits]
  split
  · exact List.forall_mem_map.mpr fun char hchar => isSettled_singleton (hbasic char hchar)
  · rename_i hacronym
    have hunit := isNameUnit_lower h (isSimple_of_isAscii h hascii)
    refine List.forall_mem_singleton.mpr ⟨hunit.isBasicWord hbasic, ?_⟩
    have hlower : isAcronym acronyms (lower word) = isAcronym acronyms word := by
      rw [isAcronym, isAcronym, hunit.lower_eq_self]
    rw [spell_eq, hlower, if_neg hacronym]

variable {units : List (List Char)}

theorem isSettled_of_mem_exportedUnits (h : ∀ unit ∈ units, IsSettled acronyms unit) :
    ∀ unit ∈ exportedUnits units, IsSettled acronyms unit := by
  have hx : IsSettled acronyms ['x'] := isSettled_singleton (by decide)
  cases units with
  | nil => exact List.forall_mem_singleton.mpr hx
  | cons first rest =>
      rw [exportedUnits]
      split
      · exact h
      · exact List.forall_mem_cons.mpr ⟨hx, h⟩

/-- Only digits come together, since every letter is shown to begin a word. -/
theorem isSettled_of_mem_joinSilent (h : ∀ unit ∈ units, IsSettled acronyms unit) :
    ∀ unit ∈ joinSilent units, IsSettled acronyms unit := by
  have hunits : ∀ unit ∈ units, IsNameUnit unit := fun unit hunit =>
    (h unit hunit).isBasicWord.isNameUnit
  refine List.forall_mem_map.mpr fun group hgroup => ?_
  have hmember : ∀ unit ∈ group, IsSettled acronyms unit :=
    fun unit hunit => h unit (mem_of_mem_unitGroups hgroup hunit)
  match group with
  | [] => exact absurd hgroup (List.nil_notMem_splitBy silent units)
  | [unit] =>
      rw [List.flatten_singleton]
      exact hmember unit List.mem_cons_self
  | first :: next :: rest =>
      have hnext : next ∈ first :: next :: rest := List.mem_cons_of_mem _ List.mem_cons_self
      -- a unit that shows no cut from the one before it begins with a digit
      have hsilent := (List.isChain_cons_cons.mp (List.isChain_of_mem_splitBy hgroup)).1
      have hnumeral := (silent_iff.mp hsilent).1
      rw [(hmember next hnext).isBasicWord.isExported_capitalize, Bool.not_eq_false'] at hnumeral
      have hword : IsBasicWord (first :: next :: rest).flatten := by
        refine (flatten_of_mem_unitGroups hunits hgroup).1.isBasicWord fun char hchar => ?_
        obtain ⟨unit, hunit, hchar⟩ := List.mem_flatten.mp hchar
        exact (hmember unit hunit).isBasicWord.isBasic char hchar
      refine isSettled_of_isNumeral hword ?_
      rw [← hword.isDigits_eq, ← isDigits_flatten hunits hgroup hnext,
        (hmember next hnext).isBasicWord.isDigits_eq, hnumeral]

end Settled

/-! ## Keys of ASCII -/

section Keys

variable {acronyms : List (List Char)} {key : List Char}

theorem simpleKey_of_isAscii (h : IsAscii key) : SimpleKey key := fun char hchar halphanumeric =>
  isSimple_of_ascii (h char hchar) halphanumeric

theorem isAscii_of_mem_words (h : IsAscii key) {word : List Char} (hword : word ∈ words key) :
    IsAscii word := fun char hchar => h char (mem_of_mem_words hword hchar).1

theorem isSettled_of_mem_nameUnits (h : IsAscii key) :
    ∀ unit ∈ nameUnits acronyms key, IsSettled (builtinAcronyms ++ acronyms) unit := by
  refine isSettled_of_mem_joinSilent (isSettled_of_mem_exportedUnits fun unit hunit => ?_)
  obtain ⟨word, hword, hunit⟩ := List.mem_flatMap.mp hunit
  exact isSettled_of_mem_wordUnits (isSingleWord_of_mem_words hword)
    (isAscii_of_mem_words h hword) unit hunit

theorem pascalCase_fieldName (h : IsAscii key) :
    pascalCase (builtinAcronyms ++ acronyms) (fieldName acronyms key) =
      fieldName acronyms key := by
  have hsimple := simpleKey_of_isAscii h
  rw [pascalCase, words_fieldName hsimple, List.flatMap_map, fieldName_eq_flatMap hsimple]
  refine List.flatMap_congr fun unit hunit => ?_
  have hsettled := isSettled_of_mem_nameUnits h unit hunit
  rw [hsettled.isBasicWord.spell_capitalize, hsettled.spell_eq]

end Keys

theorem fieldName_eq_self {acronyms : List (List Char)} {name : List Char}
    (hpascal : pascalCase (builtinAcronyms ++ acronyms) name = name)
    (hexported : isExported name = true) : fieldName acronyms name = name := by
  rw [fieldName, hpascal, if_pos hexported]

/-- The name of a key of ASCII is its own name. -/
theorem fieldName_fieldName (acronyms : List (List Char)) {key : List Char} (h : IsAscii key) :
    fieldName acronyms (fieldName acronyms key) = fieldName acronyms key :=
  fieldName_eq_self (pascalCase_fieldName h) (isExported_fieldName acronyms key)

/-- The digits come together in the name, and the acronym falls apart. -/
theorem fieldName_fieldName_digits :
    let name := "X21FASKUUser".toList
    fieldName [['S', 'k', 'u'], ['f', 'a']] "2_1fa sku-user".toList = name ∧
      fieldName [['S', 'k', 'u'], ['f', 'a']] name = name := by
  intro name
  have hascii : IsAscii "2_1fa sku-user".toList := by decide
  have hname : fieldName [['S', 'k', 'u'], ['f', 'a']] "2_1fa sku-user".toList = name := by
    decide +kernel
  have hstable := fieldName_fieldName [['S', 'k', 'u'], ['f', 'a']] hascii
  rw [hname] at hstable
  exact ⟨hname, hstable⟩

end JsonShape.Go

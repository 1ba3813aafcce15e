import JsonShape.Config
import JsonShape.Proofs.Traversal

/-!
# What the entries of a configuration set

The entries count one after the other.  The first that gives a setting a value of the
wrong type rejects the configuration, whatever comes after it.  Otherwise every setting
has the value of the last entry that gives it one, in either spelling, and without such
an entry its default.  A written configuration is read back as it was.
-/

set_option autoImplicit false

namespace JsonShape

/-! ## Types of values -/

namespace Json

variable {value : Json}

theorem exists_bool_of_typeName (h : value.typeName = "bool") : ∃ bool, value = .bool bool := by
  cases value with
  | bool bool => exact ⟨bool, rfl⟩
  | _ => simp [typeName] at h

theorem exists_str_of_typeName (h : value.typeName = "str") : ∃ text, value = .str text := by
  cases value with
  | str text => exact ⟨text, rfl⟩
  | _ => simp [typeName] at h

theorem exists_arr_of_typeName (h : value.typeName = "list") : ∃ items, value = .arr items := by
  cases value with
  | arr items => exact ⟨items, rfl⟩
  | _ => simp [typeName] at h

theorem exists_obj_of_typeName (h : value.typeName = "dict") : ∃ members, value = .obj members := by
  cases value with
  | obj members => exact ⟨members, rfl⟩
  | _ => simp [typeName] at h

end Json

/-! ## Settings and their values -/

namespace Setting

/-- The name of the type of a setting's values. -/
def valueType : Setting → String
  | glob | optionalTag | requiredTag | typeName | packageName => "str"
  | acronyms => "list"
  | pointerIfOptional | pointerIfRequired => "bool"
  | filter => "dict"

/-- Whether a name is a spelling of a setting. -/
def IsCalled (setting : Setting) (name : String) : Prop :=
  name = setting.key ∨ name = setting.snakeKey

instance (setting : Setting) (name : String) : Decidable (setting.IsCalled name) :=
  inferInstanceAs (Decidable (_ ∨ _))

/-- Whether an entry gives a setting a value. -/
def IsGivenBy (setting : Setting) (entry : String × Json) : Prop :=
  setting.IsCalled entry.1 ∧ entry.2 ≠ .null

/-- The value that an entry gives to a setting. -/
def given? (setting : Setting) (entry : String × Json) : Option Json :=
  if setting.IsCalled entry.1 then
    match entry.2 with
    | .null => none
    | value => some value
  else none

/-- The value that the last of some entries gives to a setting. -/
def lastGiven? (setting : Setting) (members : List (String × Json)) : Option Json :=
  (members.filterMap setting.given?).getLast?

variable {setting : Setting} {entry : String × Json}

/-- No two settings have a spelling in common. -/
theorem ofKey?_eq_some_iff {name : String} :
    ofKey? name = some setting ↔ setting.IsCalled name := by
  constructor
  · intro h
    have hname := List.find?_some h
    rw [Bool.or_eq_true, beq_iff_eq, beq_iff_eq] at hname
    exact hname.imp Eq.symm Eq.symm
  · rintro (rfl | rfl) <;> cases setting <;> decide

theorem eq_of_isCalled {other : Setting} {name : String} (h : setting.IsCalled name)
    (hother : other.IsCalled name) : setting = other :=
  Option.some.inj ((ofKey?_eq_some_iff.mpr h).symm.trans (ofKey?_eq_some_iff.mpr hother))

theorem given?_of_isGivenBy (h : setting.IsGivenBy entry) :
    setting.given? entry = some entry.2 := by
  obtain ⟨name, value⟩ := entry
  obtain ⟨hcalled, hvalue⟩ := h
  rw [given?, if_pos hcalled]
  cases value <;> first | rfl | exact absurd rfl hvalue

theorem given?_of_not_isGivenBy (h : ¬ setting.IsGivenBy entry) :
    setting.given? entry = none := by
  obtain ⟨name, value⟩ := entry
  rw [given?]
  split
  · next hcalled => cases value <;> first | rfl | exact absurd ⟨hcalled, nofun⟩ h
  · rfl

end Setting

/-- Why an entry is rejected, and with which text: it gives a setting a value of the wrong
type, or a list that does not consist of texts. -/
inductive Misfit (entry : String × Json) : ConfigError → String → Prop
  | wrongType {setting : Setting} (hgiven : setting.IsGivenBy entry)
      (htype : entry.2.typeName ≠ setting.valueType) :
      Misfit entry (.wrongType entry.1 setting.valueType entry.2.typeName)
        (String.join ["Configuration key '", entry.1, "' must be of type ", setting.valueType,
          ", got ", entry.2.typeName])
  | notStrings {items : List Json} {item : Json} (hgiven : Setting.acronyms.IsGivenBy entry)
      (hvalue : entry.2 = .arr items) (hitem : item ∈ items) (htext : ∀ text, item ≠ .str text) :
      Misfit entry (.notStrings entry.1)
        (String.join ["Configuration key '", entry.1, "' must be a list of strings"])

/-- Whether nothing about an entry rejects a configuration. -/
def Fits (entry : String × Json) : Prop := ∀ error text, ¬ Misfit entry error text

namespace Config

/-! ## One setting -/

theorem ext_get {left right : Config} (h : ∀ setting, left.get setting = right.get setting) :
    left = right := by
  obtain ⟨glob, acronyms, optional, required, optionalTag, requiredTag, filter, typeName,
    packageName⟩ := left
  obtain ⟨glob', acronyms', optional', required', optionalTag', requiredTag', filter', typeName',
    packageName'⟩ := right
  have hacronyms : acronyms = acronyms' :=
    List.map_injective_iff.mpr (fun _ _ => Json.str.inj) (Json.arr.inj (h .acronyms))
  have hfilter : filter = filter' := by
    have hget := h .filter
    cases filter <;> cases filter' <;> cases hget <;> rfl
  cases h .glob
  cases h .pointerIfOptional
  cases h .pointerIfRequired
  cases h .optionalTag
  cases h .requiredTag
  cases h .typeName
  cases h .packageName
  rw [hacronyms, hfilter]

variable {key : String} {value : Json} {setting : Setting}

theorem stringsValue_strings (key : String) (texts : List String) :
    stringsValue key (.arr (texts.map .str)) = .ok texts := by
  rw [stringsValue, List.mapM_map]
  exact (mapM_eq_ok_map fun text _ => rfl).trans (congrArg _ (List.map_id _))

theorem stringItem_of_not_str {item : Json} (h : ∀ text, item ≠ .str text) :
    stringItem key item = .error (.notStrings key) := by
  cases item <;> first | rfl | exact absurd rfl (h _)

/-- A list with an item that is no text is rejected. -/
theorem stringsValue_of_not_str {items : List Json} {item : Json} (hitem : item ∈ items)
    (htext : ∀ text, item ≠ .str text) :
    stringsValue key (.arr items) = .error (.notStrings key) := by
  rw [stringsValue]
  cases hresult : items.mapM (stringItem key) with
  | ok texts =>
      obtain ⟨text, -, htextual⟩ := exists_eq_ok_of_mapM hresult hitem
      rw [stringItem_of_not_str htext] at htextual
      cases htextual
  | error error =>
      obtain ⟨other, -, hother⟩ := exists_of_mapM_eq_error hresult
      cases other <;> cases hother <;> rfl

variable (config : Config)

/-- A value of the right type becomes the value of its setting, and of no other. -/
theorem exists_set (htype : value.typeName = setting.valueType)
    (htexts : ∀ items, value = .arr items → ∀ item ∈ items, ∃ text, item = .str text) :
    ∃ result, config.set setting key value = .ok result ∧
      ∀ other, result.get other = if other = setting then value else config.get other := by
  cases setting with
  | acronyms =>
      obtain ⟨items, rfl⟩ := Json.exists_arr_of_typeName htype
      obtain ⟨texts, htexts⟩ := exists_forall₂ (htexts items rfl)
      obtain rfl : items = texts.map .str := by
        rwa [← List.forall₂_eq_eq_eq, List.forall₂_map_right_iff]
      refine ⟨{ config with acronyms := texts }, ?_, fun other => by cases other <;> rfl⟩
      rw [set, stringsValue_strings]
      rfl
  | pointerIfOptional | pointerIfRequired =>
      obtain ⟨value, rfl⟩ := Json.exists_bool_of_typeName htype
      exact ⟨_, rfl, fun other => by cases other <;> rfl⟩
  | filter =>
      obtain ⟨members, rfl⟩ := Json.exists_obj_of_typeName htype
      exact ⟨_, rfl, fun other => by cases other <;> rfl⟩
  | glob | optionalTag | requiredTag | typeName | packageName =>
      obtain ⟨text, rfl⟩ := Json.exists_str_of_typeName htype
      exact ⟨_, rfl, fun other => by cases other <;> rfl⟩

theorem set_of_wrongType (h : value.typeName ≠ setting.valueType) :
    config.set setting key value = .error (.wrongType key setting.valueType value.typeName) := by
  cases setting <;> cases value <;> first | rfl | exact absurd rfl h

theorem set_of_not_str {items : List Json} {item : Json} (hitem : item ∈ items)
    (htext : ∀ text, item ≠ .str text) :
    config.set .acronyms key (.arr items) = .error (.notStrings key) := by
  rw [set, stringsValue_of_not_str hitem htext]
  rfl

/-! ## One entry -/

variable {entry : String × Json} {error : ConfigError} {text : String}

theorem applyEntry_of_isGivenBy (h : setting.IsGivenBy entry) :
    applyEntry config entry = config.set setting entry.1 entry.2 := by
  obtain ⟨name, value⟩ := entry
  obtain ⟨hcalled, hvalue⟩ := h
  rw [applyEntry, Setting.ofKey?_eq_some_iff.mpr hcalled]
  cases value <;> first | rfl | exact absurd rfl hvalue

/-- An entry without a value, or for no setting, has no effect. -/
theorem applyEntry_of_not_isGivenBy (h : ∀ setting : Setting, ¬ setting.IsGivenBy entry) :
    applyEntry config entry = .ok config := by
  obtain ⟨name, value⟩ := entry
  rw [applyEntry]
  cases hname : Setting.ofKey? name with
  | none => rfl
  | some setting =>
      have hcalled := Setting.ofKey?_eq_some_iff.mp hname
      cases value <;> first | rfl | exact absurd ⟨hcalled, nofun⟩ (h setting)

theorem applyEntry_of_misfit (h : Misfit entry error text) :
    applyEntry config entry = .error error ∧ text = error.message := by
  cases h with
  | wrongType hgiven htype =>
      rw [applyEntry_of_isGivenBy config hgiven, set_of_wrongType config htype]
      exact ⟨rfl, rfl⟩
  | notStrings hgiven hvalue hitem htext =>
      rw [applyEntry_of_isGivenBy config hgiven, hvalue, set_of_not_str config hitem htext]
      exact ⟨rfl, rfl⟩

/-- What an entry that fits gives to a setting replaces its value, and no other changes. -/
theorem exists_applyEntry (h : Fits entry) :
    ∃ next, applyEntry config entry = .ok next ∧
      ∀ setting, next.get setting = (setting.given? entry).getD (config.get setting) := by
  by_cases hgiven : ∃ setting : Setting, setting.IsGivenBy entry
  · obtain ⟨setting, hgiven⟩ := hgiven
    have htype : entry.2.typeName = setting.valueType :=
      Decidable.not_not.mp fun htype => h _ _ (.wrongType hgiven htype)
    have htexts : ∀ items, entry.2 = .arr items → ∀ item ∈ items, ∃ text, item = .str text := by
      intro items hvalue item hitem
      have hsetting : setting = .acronyms := by
        rw [hvalue] at htype
        cases setting <;> simp [Json.typeName, Setting.valueType] at htype ⊢
      rw [hsetting] at hgiven
      by_contra! htext
      exact h _ _ (.notStrings hgiven hvalue hitem htext)
    obtain ⟨next, hnext, hget⟩ := config.exists_set htype htexts
    refine ⟨next, (applyEntry_of_isGivenBy config hgiven).trans hnext, fun other => ?_⟩
    rw [hget]
    split
    · next heq => rw [heq, Setting.given?_of_isGivenBy hgiven, Option.getD_some]
    · next hne =>
        have hother : ¬ other.IsGivenBy entry :=
          fun hother => hne (Setting.eq_of_isCalled hother.1 hgiven.1)
        rw [Setting.given?_of_not_isGivenBy hother, Option.getD_none]
  · have hnone : ∀ setting : Setting, ¬ setting.IsGivenBy entry := not_exists.mp hgiven
    refine ⟨config, applyEntry_of_not_isGivenBy config hnone, fun setting => ?_⟩
    rw [Setting.given?_of_not_isGivenBy (hnone setting), Option.getD_none]

/-! ## All entries -/

variable {members : List (String × Json)}

/-- Entries that fit leave every setting with the last value given to it. -/
theorem exists_applyEntries (h : ∀ entry ∈ members, Fits entry) :
    ∃ result, members.foldlM applyEntry config = .ok result ∧
      ∀ setting, result.get setting = (setting.lastGiven? members).getD (config.get setting) := by
  induction members generalizing config with
  | nil => exact ⟨config, rfl, fun _ => rfl⟩
  | cons entry rest ih =>
      rw [List.forall_mem_cons] at h
      obtain ⟨next, hnext, hget⟩ := config.exists_applyEntry h.1
      obtain ⟨result, hresult, hlast⟩ := ih next h.2
      refine ⟨result, ?_, fun setting => ?_⟩
      · rw [List.foldlM_cons, hnext]
        exact hresult
      · rw [hlast, hget, Setting.lastGiven?, Setting.lastGiven?]
        cases hgiven : setting.given? entry with
        | none => rw [List.filterMap_cons_none hgiven, Option.getD_none]
        | some value =>
            rw [List.filterMap_cons_some hgiven, List.getLast?_cons, Option.getD_some,
              Option.getD_some]

/-- The first entry that does not fit decides about the error. -/
theorem applyEntries_of_misfit {before after : List (String × Json)}
    (hbefore : ∀ entry ∈ before, Fits entry) (h : Misfit entry error text) :
    (before ++ entry :: after).foldlM applyEntry config = .error error := by
  obtain ⟨next, hnext, -⟩ := config.exists_applyEntries hbefore
  exact foldlM_eq_error_iff.mpr
    ⟨before, entry, after, next, rfl, hnext, (next.applyEntry_of_misfit h).1⟩

/-- An entry for no setting can be left out. -/
theorem applyEntries_of_unknown {before after : List (String × Json)}
    (h : ∀ setting : Setting, ¬ setting.IsCalled entry.1) :
    (before ++ entry :: after).foldlM applyEntry config =
      (before ++ after).foldlM applyEntry config := by
  rw [List.foldlM_append, List.foldlM_append]
  refine congrArg _ (funext fun next => ?_)
  rw [List.foldlM_cons, next.applyEntry_of_not_isGivenBy fun setting hgiven => h setting hgiven.1]
  rfl

/-- Either all entries fit, or there is a first one that does not. -/
theorem fits_or_first (members : List (String × Json)) :
    (∀ entry ∈ members, Fits entry) ∨ ∃ before entry after error text,
      members = before ++ entry :: after ∧ (∀ other ∈ before, Fits other) ∧
        Misfit entry error text := by
  induction members with
  | nil => exact .inl (by simp)
  | cons entry rest ih =>
      by_cases hentry : Fits entry
      · rcases ih with hrest | ⟨before, other, after, error, text, rfl, hbefore, hother⟩
        · exact .inl (List.forall_mem_cons.mpr ⟨hentry, hrest⟩)
        · exact .inr ⟨entry :: before, other, after, error, text, rfl,
            List.forall_mem_cons.mpr ⟨hentry, hbefore⟩, hother⟩
      · simp only [Fits, not_forall, not_not] at hentry
        obtain ⟨error, text, hentry⟩ := hentry
        exact .inr ⟨[], entry, rest, error, text, rfl, by simp, hentry⟩

/-! ## Written configurations -/

theorem isCalled_key_iff {other : Setting} : setting.IsCalled other.key ↔ setting = other := by
  constructor
  · exact fun h => Setting.eq_of_isCalled h (.inl rfl)
  · rintro rfl
    exact .inl rfl

theorem typeName_get (h : config.get setting ≠ .null) :
    (config.get setting).typeName = setting.valueType := by
  cases setting with
  | filter =>
      cases hfilter : config.filter with
      | none => exact absurd (by rw [get, hfilter]; rfl) h
      | some members =>
          rw [get, hfilter]
          rfl
  | _ => rfl

theorem fits_written (setting : Setting) : Fits (setting.key, config.get setting) := by
  intro error text h
  cases h with
  | wrongType hgiven htype =>
      obtain rfl := isCalled_key_iff.mp hgiven.1
      exact htype (config.typeName_get hgiven.2)
  | notStrings hgiven hvalue hitem htext =>
      obtain rfl := isCalled_key_iff.mp hgiven.1
      rw [← Json.arr.inj hvalue] at hitem
      obtain ⟨text, -, rfl⟩ := List.mem_map.mp hitem
      exact htext text rfl

/-- A written setting has no other entry than its own. -/
theorem lastGiven?_written (setting : Setting) :
    setting.lastGiven? (Setting.all.map fun other => (other.key, config.get other)) =
      setting.given? (setting.key, config.get setting) := by
  cases setting <;> simp [Setting.lastGiven?, Setting.all, Setting.given?, isCalled_key_iff]

theorem get_default_of_null (h : config.get setting = .null) : get {} setting = .null := by
  cases setting with
  | filter => rfl
  | _ => cases h

/-- A written configuration is read back as it was. -/
theorem ofJson_toJson : ofJson config.toJson = .ok config := by
  have hfits : ∀ entry ∈ Setting.all.map fun other => (other.key, config.get other),
      Fits entry := List.forall_mem_map.mpr fun setting _ => config.fits_written setting
  obtain ⟨result, hresult, hget⟩ := exists_applyEntries {} hfits
  suffices result = config by rw [toJson, ofJson, hresult, this]
  refine ext_get fun setting => ?_
  rw [hget, lastGiven?_written]
  by_cases hnull : config.get setting = .null
  · rw [Setting.given?_of_not_isGivenBy fun hgiven => hgiven.2 hnull, Option.getD_none, hnull]
    exact config.get_default_of_null hnull
  · rw [Setting.given?_of_isGivenBy ⟨.inl rfl, hnull⟩, Option.getD_some]

/-! ## Configurations -/

theorem ofJson_eq_error_iff :
    ofJson (.obj members) = .error error ↔
      ∃ before entry after, members = before ++ entry :: after ∧
        (∀ other ∈ before, Fits other) ∧ Misfit entry error error.message := by
  constructor
  · intro h
    rcases fits_or_first members with hfits | ⟨before, entry, after, cause, text, hmembers,
      hbefore, hentry⟩
    · obtain ⟨config, hconfig, -⟩ := exists_applyEntries {} hfits
      cases hconfig.symm.trans h
    · have hcause : (before ++ entry :: after).foldlM applyEntry {} = .error cause :=
        applyEntries_of_misfit {} hbefore hentry
      rw [ofJson, hmembers, hcause] at h
      cases h
      obtain ⟨-, rfl⟩ := applyEntry_of_misfit {} hentry
      exact ⟨before, entry, after, hmembers, hbefore, hentry⟩
  · rintro ⟨before, entry, after, rfl, hbefore, hentry⟩
    exact applyEntries_of_misfit {} hbefore hentry

theorem ofJson_eq_ok_iff {config : Config} :
    ofJson (.obj members) = .ok config ↔
      (∀ entry ∈ members, Fits entry) ∧ ∀ setting : Setting,
        config.get setting = (setting.lastGiven? members).getD (get {} setting) := by
  constructor
  · intro h
    rcases fits_or_first members with hfits | ⟨before, entry, after, error, text, rfl,
      hbefore, hentry⟩
    · obtain ⟨result, hresult, hget⟩ := exists_applyEntries {} hfits
      cases hresult.symm.trans h
      exact ⟨hfits, hget⟩
    · cases (applyEntries_of_misfit {} hbefore hentry).symm.trans h
  · rintro ⟨hfits, hconfig⟩
    obtain ⟨result, hresult, hget⟩ := exists_applyEntries {} hfits
    obtain rfl : result = config :=
      ext_get fun setting => (hget setting).trans (hconfig setting).symm
    exact hresult

/-- A configuration is rejected exactly for its first entry that does not fit, which the
text names as it is spelled.  Otherwise every setting has the value of the last entry that
gives it one, or its default.  Entries for no setting have no effect, and what was read is
read again from the configuration as it is written. -/
theorem settings_of_members (members : List (String × Json)) :
    (∀ error, ofJson (.obj members) = .error error ↔
      ∃ before entry after, members = before ++ entry :: after ∧
        (∀ other ∈ before, Fits other) ∧ Misfit entry error error.message) ∧
    ((∃ config, ofJson (.obj members) = .ok config) ↔ ∀ entry ∈ members, Fits entry) ∧
    (∀ config, ofJson (.obj members) = .ok config ↔
      (∀ entry ∈ members, Fits entry) ∧ ∀ setting : Setting,
        config.get setting = (setting.lastGiven? members).getD (get {} setting)) ∧
    (∀ before entry after, members = before ++ entry :: after →
      (∀ setting : Setting, ¬ setting.IsCalled entry.1) →
        ofJson (.obj members) = ofJson (.obj (before ++ after))) ∧
    ∀ config, ofJson (.obj members) = .ok config → ofJson config.toJson = .ok config := by
  refine ⟨fun error => ofJson_eq_error_iff, ⟨?_, ?_⟩, fun config => ofJson_eq_ok_iff, ?_, ?_⟩
  · rintro ⟨config, hconfig⟩
    exact (ofJson_eq_ok_iff.mp hconfig).1
  · intro hfits
    obtain ⟨config, hconfig, -⟩ := exists_applyEntries {} hfits
    exact ⟨config, hconfig⟩
  · rintro before entry after rfl hunknown
    exact applyEntries_of_unknown {} hunknown
  · intro config _
    exact config.ofJson_toJson

/-- A setting in both spellings, a null, and a key that denotes no setting. -/
def respelledMembers : List (String × Json) :=
  [("typeName", .str "Order"), ("comment", .int 1), ("use_pointer_field", .bool true),
    ("type_name", .str "Event"), ("usePointerField", .null), ("acronyms", .null),
    ("abbrMustBeUpperCase", .arr [.str "sku"])]

def respelledConfig : Config :=
  { typeName := "Event", pointerIfOptional := true, acronyms := ["sku"] }

theorem settings_of_members_respelled :
    ofJson (.obj respelledMembers) = .ok respelledConfig ∧
      (∀ setting : Setting, respelledConfig.get setting =
        (setting.lastGiven? respelledMembers).getD (get {} setting)) ∧
      ofJson respelledConfig.toJson = .ok respelledConfig ∧
      ofJson (.obj [("type_name", .int 1), ("typeName", .str "Event")]) =
        .error (.wrongType "type_name" "str" "int") := by
  have hread : ofJson (.obj respelledMembers) = .ok respelledConfig := rfl
  have hgiven : Setting.typeName.IsGivenBy ("type_name", .int 1) := ⟨.inr rfl, nofun⟩
  have hmisfit : Misfit ("type_name", .int 1) (.wrongType "type_name" "str" "int")
      (ConfigError.wrongType "type_name" "str" "int").message := .wrongType hgiven (by decide)
  obtain ⟨-, -, hok, -, hagain⟩ := settings_of_members respelledMembers
  refine ⟨hread, ((hok _).mp hread).2, hagain _ hread, ?_⟩
  exact ((settings_of_members _).1 _).mpr ⟨[], _, _, rfl, by simp, hmisfit⟩

end Config

end JsonShape

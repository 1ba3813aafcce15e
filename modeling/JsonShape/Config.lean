import JsonShape.Json.Basic

/-!
# Configuration

A configuration is read from an object whose keys are written in camel case or
in snake case.  A null keeps what was set before, an unknown key has no effect,
and of several entries for one setting the last one counts.  The first entry of
a wrong type makes the whole configuration invalid.
-/

set_option autoImplicit false

namespace JsonShape

/-- In a tag template, the place of a field's key. -/
def namePlaceholder : String := "%name%"

def defaultTagTemplate : String := "json:\"" ++ namePlaceholder ++ "\""

structure Config where
  /-- Pattern of the documents' paths. -/
  glob : String := ""
  /-- Words written in upper case in field names, besides the built-in ones. -/
  acronyms : List String := []
  /-- Whether optional fields are pointers. -/
  pointerIfOptional : Bool := false
  /-- Whether required fields are pointers. -/
  pointerIfRequired : Bool := true
  /-- Tag of optional fields. -/
  optionalTag : String := defaultTagTemplate
  /-- Tag of required fields. -/
  requiredTag : String := defaultTagTemplate
  /-- Selection applied to the inferred type. -/
  filter : Option (List (String × Json)) := none
  /-- Name of the declared type; without one the bare type is written. -/
  typeName : String := ""
  /-- Name of the package; without one no package clause is written. -/
  packageName : String := ""
  deriving Repr, Inhabited

inductive ConfigError where
  | notObject (typeName : String)
  | wrongType (key expected found : String)
  | notStrings (key : String)
  deriving DecidableEq, Repr

namespace ConfigError

def message : ConfigError → String
  | notObject typeName => String.join ["Configuration must be an object, got ", typeName]
  | wrongType key expected found =>
    String.join ["Configuration key '", key, "' must be of type ", expected, ", got ", found]
  | notStrings key => String.join ["Configuration key '", key, "' must be a list of strings"]

end ConfigError

/-- What can be configured. -/
inductive Setting where
  | glob
  | acronyms
  | pointerIfOptional
  | pointerIfRequired
  | optionalTag
  | requiredTag
  | filter
  | typeName
  | packageName
  deriving DecidableEq, Repr

namespace Setting

def all : List Setting :=
  [glob, acronyms, pointerIfOptional, pointerIfRequired, optionalTag, requiredTag, filter,
   typeName, packageName]

/-- The key in camel case, under which a setting is written. -/
def key : Setting → String
  | glob => "glob"
  | acronyms => "abbrMustBeUpperCase"
  | pointerIfOptional => "usePointerField"
  | pointerIfRequired => "usePointerFieldForRequired"
  | optionalTag => "tagTemplate"
  | requiredTag => "tagRequiredTemplate"
  | filter => "filter"
  | typeName => "typeName"
  | packageName => "packageName"

/-- The key in snake case. -/
def snakeKey : Setting → String
  | glob => "glob"
  | acronyms => "abbr_must_be_upper_case"
  | pointerIfOptional => "use_pointer_field"
  | pointerIfRequired => "use_pointer_field_for_required"
  | optionalTag => "tag_template"
  | requiredTag => "tag_required_template"
  | filter => "filter"
  | typeName => "type_name"
  | packageName => "package_name"

/-- The setting that a key denotes, in either spelling. -/
def ofKey? (name : String) : Option Setting :=
  all.find? fun setting => setting.key == name || setting.snakeKey == name

end Setting

namespace Config

def textValue (key : String) : Json → Except ConfigError String
  | .str text => .ok text
  | value => .error (.wrongType key "str" value.typeName)

def boolValue (key : String) : Json → Except ConfigError Bool
  | .bool value => .ok value
  | value => .error (.wrongType key "bool" value.typeName)

def objectValue (key : String) : Json → Except ConfigError (List (String × Json))
  | .obj members => .ok members
  | value => .error (.wrongType key "dict" value.typeName)

def stringItem (key : String) : Json → Except ConfigError String
  | .str text => .ok text
  | _ => .error (.notStrings key)

def stringsValue (key : String) : Json → Except ConfigError (List String)
  | .arr items => items.mapM (stringItem key)
  | value => .error (.wrongType key "list" value.typeName)

/-- Changes one setting; `key` is its spelling in messages. -/
def set (config : Config) (setting : Setting) (key : String) (value : Json) :
    Except ConfigError Config :=
  match setting with
  | .glob => do pure { config with glob := ← textValue key value }
  | .acronyms => do pure { config with acronyms := ← stringsValue key value }
  | .pointerIfOptional => do pure { config with pointerIfOptional := ← boolValue key value }
  | .pointerIfRequired => do pure { config with pointerIfRequired := ← boolValue key value }
  | .optionalTag => do pure { config with optionalTag := ← textValue key value }
  | .requiredTag => do pure { config with requiredTag := ← textValue key value }
  | .filter => do pure { config with filter := some (← objectValue key value) }
  | .typeName => do pure { config with typeName := ← textValue key value }
  | .packageName => do pure { config with packageName := ← textValue key value }

/-- The effect of one entry of a configuration. -/
def applyEntry (config : Config) (entry : String × Json) : Except ConfigError Config :=
  match Setting.ofKey? entry.1, entry.2 with
  | none, _ | some _, .null => .ok config
  | some setting, value => config.set setting entry.1 value

def ofJson : Json → Except ConfigError Config
  | .obj members => members.foldlM applyEntry {}
  | value => .error (.notObject value.typeName)

/-- The value of a setting as it is written. -/
def get (config : Config) : Setting → Json
  | .glob => .str config.glob
  | .acronyms => .arr (config.acronyms.map .str)
  | .pointerIfOptional => .bool config.pointerIfOptional
  | .pointerIfRequired => .bool config.pointerIfRequired
  | .optionalTag => .str config.optionalTag
  | .requiredTag => .str config.requiredTag
  | .filter => (config.filter.map Json.obj).getD .null
  | .typeName => .str config.typeName
  | .packageName => .str config.packageName

/-- All settings under their camel-case keys. -/
def toJson (config : Config) : Json :=
  .obj (Setting.all.map fun setting => (setting.key, config.get setting))

end Config

end JsonShape

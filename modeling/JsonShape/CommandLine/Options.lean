import JsonShape.CommandLine.Similarity
import JsonShape.Text.Quoted

/-!
# Options of the command

An argument that begins with a hyphen and is longer than it sets options, `--`
ends the options, and all other arguments are positional, wherever they stand.
The value of a long option follows an equals sign or is the next argument; short
options may be written together, and what follows one that takes a value is its
value.  The last value of an option counts.
-/

set_option autoImplicit false

namespace JsonShape.CommandLine

inductive Switch where
  | name
  | package
  | output
  | dumpIr
  | verbose
  | help
  deriving DecidableEq, Repr

namespace Switch

def all : List Switch := [name, package, output, dumpIr, verbose, help]

def long : Switch → String
  | name => "--name"
  | package => "--package"
  | output => "--output"
  | dumpIr => "--dump-ir"
  | verbose => "--verbose"
  | help => "--help"

def short? : Switch → Option Char
  | name => some 'n'
  | package => some 'p'
  | output => some 'o'
  | verbose => some 'v'
  | dumpIr | help => none

def takesValue : Switch → Bool
  | name | package | output => true
  | dumpIr | verbose | help => false

def ofLong? (text : String) : Option Switch := all.find? (·.long == text)

def ofShort? (char : Char) : Option Switch := all.find? (·.short? == some char)

end Switch

/-- What the options say. -/
structure Options where
  name : Option String := none
  package : Option String := none
  output : Option String := none
  dumpIr : Bool := false
  verbose : Bool := false
  help : Bool := false
  deriving DecidableEq, Repr, Inhabited

namespace Options

/-- The effect of an option; one that takes no value has none. -/
def set (options : Options) (switch : Switch) (value : String) : Options :=
  match switch with
  | .name => { options with name := some value }
  | .package => { options with package := some value }
  | .output => { options with output := some value }
  | .dumpIr => { options with dumpIr := true }
  | .verbose => { options with verbose := true }
  | .help => { options with help := true }

end Options

/-- An argument list that cannot be understood. -/
inductive ArgumentError where
  | noSuchOption (name : String) (similar : List String)
  | valueMissing (option : String)
  | valueNotTaken (option : String)
  | pathMissing
  | extraArguments (arguments : List String)
  | noSuchFile (parameter path : String)
  | isDirectory (parameter path : String)
  deriving DecidableEq, Repr

namespace ArgumentError

def message : ArgumentError → String
  | noSuchOption name [] => String.join ["No such option: ", name]
  | noSuchOption name [similar] =>
    String.join ["No such option: ", name, " Did you mean ", similar, "?"]
  | noSuchOption name similar =>
    String.join ["No such option: ", name, " (Possible options: ",
      String.intercalate ", " similar, ")"]
  | valueMissing option =>
    String.join ["Option ", Text.quoteText option, " requires an argument."]
  | valueNotTaken option =>
    String.join ["Option ", Text.quoteText option, " does not take a value."]
  | pathMissing => "Missing argument 'CONFIG_PATH'."
  | extraArguments [argument] => String.join ["Got unexpected extra argument (", argument, ")"]
  | extraArguments arguments =>
    String.join ["Got unexpected extra arguments (", String.intercalate " " arguments, ")"]
  | noSuchFile parameter path =>
    String.join ["Invalid value for ", parameter, ": File ", Text.quoteText path,
      " does not exist."]
  | isDirectory parameter path =>
    String.join ["Invalid value for ", parameter, ": File ", Text.quoteText path,
      " is a directory."]

/-- Whether the usage is shown before the message. -/
def showsUsage : ArgumentError → Bool
  | valueMissing _ | valueNotTaken _ => false
  | _ => true

end ArgumentError

/-- What one argument says: options with their values, and maybe one more option,
as it was written, whose value is the next argument. -/
structure Reading where
  settings : List (Switch × String)
  awaiting : Option (Switch × String)

/-- A long option, alone or with an equals sign and a value. -/
def readLong (switch : Switch) (value : Option String) : Except ArgumentError Reading :=
  match switch.takesValue, value with
  | true, some value => .ok ⟨[(switch, value)], none⟩
  | true, none => .ok ⟨[], some (switch, switch.long)⟩
  | false, none => .ok ⟨[(switch, "")], none⟩
  | false, some _ => .error (.valueNotTaken switch.long)

/-- Short options written together. -/
def readShort : List Char → Except ArgumentError Reading
  | [] => .ok ⟨[], none⟩
  | char :: rest =>
    let written := String.ofList ['-', char]
    match Switch.ofShort? char with
    | none => .error (.noSuchOption written [])
    | some switch =>
      if switch.takesValue then
        if rest.isEmpty then .ok ⟨[], some (switch, written)⟩
        else .ok ⟨[(switch, String.ofList rest)], none⟩
      else (readShort rest).map fun reading =>
        { reading with settings := (switch, "") :: reading.settings }

/-- The name before the first equals sign, and the value after it if there is one. -/
def splitValue (argument : List Char) : String × Option String :=
  match argument.span (· ≠ '=') with
  | (name, []) => (String.ofList name, none)
  | (name, _ :: value) => (String.ofList name, some (String.ofList value))

/-- An argument that begins with a hyphen. -/
def readOption (argument : String) : Except ArgumentError Reading :=
  let (name, value) := splitValue argument.toList
  match Switch.ofLong? name, argument.toList with
  | some switch, _ => readLong switch value
  | none, '-' :: '-' :: _ =>
    .error (.noSuchOption name (similarNames (Switch.all.map Switch.long) name))
  | none, chars => readShort (chars.drop 1)

/-- Whether an argument sets options. -/
def isOption (argument : String) : Bool :=
  argument.toList.head? == some '-' && 1 < argument.length

def applySettings (options : Options) (settings : List (Switch × String)) : Options :=
  settings.foldl (fun options (switch, value) => options.set switch value) options

/-- The options and the positional arguments, which are collected in order. -/
def readArguments (options : Options) (positional : List String) :
    List String → Except ArgumentError (Options × List String)
  | [] => .ok (options, positional)
  | argument :: rest =>
    if argument = "--" then .ok (options, positional ++ rest)
    else if !isOption argument then readArguments options (positional ++ [argument]) rest
    else
      match readOption argument with
      | .error error => .error error
      | .ok reading =>
        let options := applySettings options reading.settings
        match reading.awaiting, rest with
        | none, rest => readArguments options positional rest
        | some (switch, _), value :: rest =>
          readArguments (options.set switch value) positional rest
        | some (_, written), [] => .error (.valueMissing written)

end JsonShape.CommandLine

import JsonShape.CommandLine.Options
import JsonShape.Documents
import JsonShape.Json.Printer
import JsonShape.Shape

/-!
# Running the command

A run sees files, a current directory and arguments.  It ends by showing the
help, by refusing its arguments, with a reported or an unreported failure, or
with a text, which is printed or written to a file.  Only the last of these
changes a file.
-/

set_option autoImplicit false

namespace JsonShape.CommandLine

def usageText : String := "Usage: json-to-struct [OPTIONS] CONFIG_PATH\n"

def helpText : String :=
  usageText ++ "
  Infer a Go struct from the JSON documents selected by CONFIG_PATH.

Options:
  -n, --name TEXT     Emit a named type declaration instead of a bare type
                      expression
  -p, --package TEXT  Emit a Go package clause
  -o, --output FILE   Write to a file instead of stdout
  --dump-ir           Print the inferred IR as JSON instead of Go code
  -v, --verbose       Log every loaded document
  --help              Show this message and exit.
"

def helpHint : String := "Try 'json-to-struct --help' for help.\n\n"

/-- What goes wrong in a run without being reported. -/
inductive Crash where
  /-- A NUL character in a path. -/
  | nulInPath
  /-- A configuration that is not UTF-8. -/
  | encoding (error : Text.Utf8Error)
  /-- Something nested too deeply: a text that is read, a search, or a description that is
  printed. -/
  | tooDeep
  /-- An integer with too many digits. -/
  | longInteger (digits : Nat)
  /-- A NUL character in a directory that has to be listed. -/
  | nulInDirectory
  | shape (error : ShapeError)
  /-- An output file in a directory that does not exist. -/
  | directoryMissing (path : Path)
  /-- An output file in what is no directory. -/
  | notDirectory (path : Path)
  deriving DecidableEq, Repr

namespace Crash

def message : Crash → String
  | nulInPath => "embedded null byte"
  | encoding error => error.message
  | tooDeep => Json.DecodeError.tooDeep.message
  | longInteger digits => (Json.DecodeError.longInteger digits).message
  | nulInDirectory => LoadError.nulInDirectory.message
  | shape error => error.message
  | directoryMissing path =>
    String.join ["No such file or directory: ", Text.quoteText path.toString]
  | notDirectory path => String.join ["Not a directory: ", Text.quoteText path.toString]

end Crash

/-- A failure that the command does not report. -/
inductive Fault where
  | crash (crash : Crash)
  /-- The system does not open the output. -/
  | refused (path : Path)
  deriving DecidableEq, Repr

namespace Fault

def message : Fault → String
  | crash cause => cause.message
  | refused path => String.join ["Cannot open: ", Text.quoteText path.toString]

end Fault

/-- A failure that the command reports. -/
inductive Failure where
  | malformedConfig (path : Path) (error : Json.DecodeError)
  | config (error : ConfigError)
  | load (error : LoadError)
  | shape (error : ShapeError)
  deriving DecidableEq, Repr

namespace Failure

def message : Failure → String
  | malformedConfig path error =>
    String.join ["Invalid configuration file ", path.toString, ": ", error.message]
  | config error => error.message
  | load error => error.message
  | shape error => error.message

end Failure

/-- What stops a run before it has a text. -/
inductive Stop where
  | help
  | arguments (error : ArgumentError)
  | failure (failure : Failure)
  | fault (fault : Fault)
  deriving DecidableEq, Repr

/-- What a run reports on the way when it is asked to. -/
inductive LogLine where
  | found (count : Nat) (pattern : String)
  | loaded (path : Path)
  | wrote (name : String)
  deriving DecidableEq, Repr

namespace LogLine

def text : LogLine → String
  | found count pattern =>
    String.join ["INFO json_to_struct.pipeline.generator: Found ", toString count,
      " document(s) matching '", pattern, "'\n"]
  | loaded path =>
    String.join ["DEBUG json_to_struct.pipeline.generator: Loaded document ", path.toString, "\n"]
  | wrote name => String.join ["INFO json_to_struct.json_to_struct: Wrote ", name, "\n"]

end LogLine

/-- The end of a run: what it logged, and why it stopped or what it put out. -/
structure Ending where
  logs : List LogLine
  result : Except Stop String
  files : Files

/-- What a run is seen to do.  `fault` is set when it fails without a report. -/
structure Outcome where
  exit : Nat
  stdout : String
  stderr : String
  fault : Option Fault
  files : Files

/-- What went wrong in a run, other than that the system refused something. -/
def Outcome.crash (outcome : Outcome) : Option Crash :=
  match outcome.fault with
  | some (.crash crash) => some crash
  | _ => none

/-! ## Paths in arguments -/

def outputParameter : String := "'--output' / '-o'"

def configParameter : String := "'CONFIG_PATH'"

/-- The place that a path argument names. -/
def placeOf (current : Place) (argument : String) : Place :=
  let path := Path.ofString argument
  Path.normalize (if path.isAbsolute then path.parts else current ++ path.parts)

/-- A place as an absolute path. -/
def absolutePath (place : Place) : Path := ⟨"/", place⟩

def checkNul (argument : String) : Except Stop Unit :=
  if Documents.hasNul argument then .error (.fault (.crash .nulInPath)) else .ok ()

/-- The place of the output, which must not be a directory. -/
def outputPlace (files : Files) (current : Place) (argument : String) : Except Stop Place := do
  checkNul argument
  let place := placeOf current argument
  if files.isDirectory place then
    throw (.arguments (.isDirectory outputParameter argument))
  pure place

/-- The place of the configuration, which must be a file. -/
def configPlace (files : Files) (current : Place) (argument : String) : Except Stop Place := do
  checkNul argument
  let place := placeOf current argument
  match files.entry? place with
  | none => throw (.arguments (.noSuchFile configParameter argument))
  | some .directory => throw (.arguments (.isDirectory configParameter argument))
  | some (.file _) => pure place

/-- What the arguments ask for. -/
structure Request where
  options : Options
  output : Option Place
  config : Place

/-- Reads the arguments and checks the paths among them. -/
def readRequest (files : Files) (current : Place) (arguments : List String) :
    Except Stop Request := do
  let (options, positional) ← (readArguments {} [] arguments).mapError .arguments
  if options.help then throw .help
  let output ← options.output.mapM (outputPlace files current)
  match positional with
  | [] => throw (.arguments .pathMissing)
  | path :: extra =>
    let config ← configPlace files current path
    if !extra.isEmpty then throw (.arguments (.extraArguments extra))
    pure ⟨options, output, config⟩

/-! ## The work -/

/-- How a failure to read the configuration ends the run. -/
def stopOfConfig (path : Path) : ReadError → Stop
  | .encoding error => .fault (.crash (.encoding error))
  | .json .tooDeep => .fault (.crash .tooDeep)
  | .json (.longInteger digits) => .fault (.crash (.longInteger digits))
  | .json error => .failure (.malformedConfig path error)

/-- How a failure to load the documents ends the run. -/
def stopOfLoad : LoadError → Stop
  | .nulInDirectory => .fault (.crash .nulInDirectory)
  | .unreadable _ (.json .tooDeep) => .fault (.crash .tooDeep)
  | .unreadable _ (.json (.longInteger digits)) => .fault (.crash (.longInteger digits))
  | error => .failure (.load error)

/-- How a failure of the inference ends the run. -/
def stopOfShape : ShapeError → Stop
  | .unify .noDocuments => .fault (.crash (.shape (.unify .noDocuments)))
  | .unify (.notRaw found expected) => .fault (.crash (.shape (.unify (.notRaw found expected))))
  | .render error => .fault (.crash (.shape (.render error)))
  | error => .failure (.shape error)

/-- The configuration in a file, changed by the options. -/
def readConfig [Room] (files : Files) (request : Request) : Except Stop Config := do
  let json ← (readJson ((files.content? request.config).getD [])).mapError
    (stopOfConfig (absolutePath request.config))
  let config ← (Config.ofJson json).mapError (.failure ∘ .config)
  pure { config with
    typeName := request.options.name.getD config.typeName
    packageName := request.options.package.getD config.packageName }

/-- The text for the documents. -/
def outputText [Room] (config : Config) (options : Options) (documents : List Json) :
    Except Stop String :=
  if options.dumpIr then
    match describe config documents with
    | .ok description =>
      if Room.printing < description.depth then .error (.fault (.crash .tooDeep))
      else .ok (description.text .indented ++ "\n")
    | .error error => .error (stopOfShape error)
  else (generate config .go documents).mapError stopOfShape

/-- How far the search for the documents goes at once. -/
def searchExtent [FileSystem] (files : Files) (current : Place) (pattern : String) : Nat :=
  (Glob.ofString pattern).extent files current (absolutePath current)

/-- Finds the documents, as far as a search may go. -/
def search [Room] [FileSystem] (files : Files) (current : Place) (pattern : String) :
    Except Stop (List Path) :=
  if Room.search < searchExtent files current pattern then .error (.fault (.crash .tooDeep))
  else (Documents.find files current (absolutePath current) pattern).mapError stopOfLoad

/-- Finds and loads the documents and makes the text for them. -/
def work [Room] [FileSystem] (files : Files) (current : Place) (config : Config)
    (options : Options) : List LogLine × Except Stop String :=
  match search files current config.glob with
  | .error stop => ([], .error stop)
  | .ok paths =>
    let loading := Documents.readAll files current paths
    let logs := .found paths.length config.glob :: loading.loaded.map (.loaded ·.1)
    match loading.documents with
    | .error error => (logs, .error (stopOfLoad error))
    | .ok documents => (logs, outputText config options documents)

/-- Whether a file stands where a directory on the way to a place would be. -/
def isObstructed (files : Files) (place : Place) : Bool :=
  (List.range place.length).any fun count => files.isFile (place.take count)

/-- Puts a text at a place whose directory exists, if the system opens the file. -/
def writeOutput [FileSystem] (files : Files) (place : Place) (text : String) :
    Except Stop Files :=
  let path := absolutePath place
  if !FileSystem.opens place then .error (.fault (.refused path))
  else if isObstructed files place then .error (.fault (.crash (.notDirectory path)))
  else if files.isDirectory place.dropLast then
    .ok (files.set place (.file (Text.encodeUtf8 text)))
  else .error (.fault (.crash (.directoryMissing path)))

/-- A run up to its end. -/
def runRequest [Room] [FileSystem] (files : Files) (current : Place) (request : Request) :
    Ending :=
  match readConfig files request with
  | .error stop => ⟨[], .error stop, files⟩
  | .ok config =>
    match work files current config request.options, request.output with
    | (logs, .error stop), _ => ⟨logs, .error stop, files⟩
    | (logs, .ok text), none => ⟨logs, .ok text, files⟩
    | (logs, .ok text), some place =>
      match writeOutput files place text with
      | .error stop => ⟨logs, .error stop, files⟩
      | .ok written => ⟨logs ++ [.wrote (absolutePath place).name], .ok "", written⟩

/-- A message as it is reported. -/
def errorText (message : String) : String := String.join ["Error: ", message, "\n"]

def usageError (error : ArgumentError) : String :=
  (if error.showsUsage then usageText ++ helpHint else "") ++ errorText error.message

/-- What is seen when a run stops. -/
def stopOutcome (files : Files) (logs : String) : Stop → Outcome
  | .help => ⟨0, helpText, logs, none, files⟩
  | .arguments error => ⟨2, "", logs ++ usageError error, none, files⟩
  | .failure failure => ⟨1, "", logs ++ errorText failure.message, none, files⟩
  | .fault fault => ⟨1, "", logs, some fault, files⟩

/-- What is seen of a run. -/
def outcome (verbose : Bool) (ending : Ending) : Outcome :=
  let logs := if verbose then String.join (ending.logs.map LogLine.text) else ""
  match ending.result with
  | .ok text => ⟨0, text, logs, none, ending.files⟩
  | .error stop => stopOutcome ending.files logs stop

/-- A run of the command. -/
def run [Room] [FileSystem] (files : Files) (current : Place) (arguments : List String) :
    Outcome :=
  match readRequest files current arguments with
  | .error stop => stopOutcome files "" stop
  | .ok request => outcome request.options.verbose (runRequest files current request)

/-! ## What a run looks at -/

/-- The places of the files that the arguments name. -/
def namedPlaces (current : Place) (arguments : List String) : List Place :=
  match readArguments {} [] arguments with
  | .error _ => []
  | .ok (options, positional) =>
    ((options.output.toList ++ positional.take 1).filter (!Documents.hasNul ·)).map
      (placeOf current)

/-- The places that names lead through, from a directory on. -/
def placesAlong (place : Place) : List String → List Place
  | [] => [place]
  | name :: rest => place :: placesAlong (Path.normalize (place ++ [name])) rest

/-- The places that a run passes on the way to its documents.  Everything that can
be a document lies below the last one. -/
def searchedPlaces [Room] (files : Files) (current : Place) (arguments : List String) :
    List Place :=
  match readRequest files current arguments >>= readConfig files with
  | .error _ => []
  | .ok config =>
    let glob := Glob.ofString config.glob
    let names := glob.start.filter fun name => Path.isNamed name && !Documents.hasNul name
    placesAlong (if glob.root = "" then current else []) names

end JsonShape.CommandLine

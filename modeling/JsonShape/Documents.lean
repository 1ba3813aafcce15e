import JsonShape.Config
import JsonShape.Files.Glob
import JsonShape.Json.Parser
import JsonShape.Text.Utf8

/-!
# Documents

The documents of a run are the files that match the configured pattern, in the
order of their paths; a file that matches in several ways counts as often.  They
are read one after the other, up to the first that cannot be read.
-/

set_option autoImplicit false

namespace JsonShape

/-- Why a file is no document. -/
inductive ReadError where
  | encoding (error : Text.Utf8Error)
  | json (error : Json.DecodeError)
  deriving DecidableEq, Repr

namespace ReadError

def message : ReadError → String
  | encoding error => error.message
  | json error => error.message

end ReadError

/-- Reads a file's content as a JSON text. -/
def readJson [Room] (content : List UInt8) : Except ReadError Json :=
  match Text.decodeUtf8 content with
  | .error error => .error (.encoding error)
  | .ok text =>
    (Json.decode Json.textRoom (Text.normalizeNewlines text)).mapError .json

inductive LoadError where
  | noPattern
  | noMatch (pattern : String) (base : Path)
  /-- A directory that has to be listed cannot have its name. -/
  | nulInDirectory
  | unreadable (path : Path) (error : ReadError)
  deriving DecidableEq, Repr

namespace LoadError

def message : LoadError → String
  | noPattern => "Configuration key 'glob' is required to load documents"
  | noMatch pattern base =>
    String.join ["No documents match glob '", pattern, "' in ", base.toString]
  | nulInDirectory => "scandir: embedded null character in path"
  | unreadable path error =>
    match error with
    | .json (.longInteger digits) => (Json.DecodeError.longInteger digits).message
    | error => String.join ["Failed to load document ", path.toString, ": ", error.message]

end LoadError

namespace Documents

def hasNul (text : String) : Bool := text.toList.contains '\x00'

/-- Whether matching has to list a directory whose path has a NUL character. -/
def listsNul (base : Path) (glob : Glob) : Bool :=
  !glob.parts.isEmpty
    && (glob.start.any hasNul || (glob.root == "" && base.parts.any hasNul))

/-- The content of the file that a path leads to. -/
def contentAt? (files : Files) (current : Place) (path : Path) : Option (List UInt8) :=
  (files.locate current path).bind files.content?

/-- The files among matched paths, in the order in which they are read. -/
def select (files : Files) (current : Place) (matched : List Path) : List Path :=
  (Path.sort matched).filter fun path => (contentAt? files current path).isSome

/-- The paths of the documents in the base directory, in order, however far the search has
to go for them. -/
def find [FileSystem] (files : Files) (current : Place) (base : Path) (pattern : String) :
    Except LoadError (List Path) :=
  let glob := Glob.ofString pattern
  if pattern.isEmpty then .error .noPattern
  else if listsNul base glob then .error .nulInDirectory
  else
    match select files current (glob.matchPaths files current base) with
    | [] => .error (.noMatch pattern base)
    | paths => .ok paths

/-- The documents that were read, and what stopped the reading. -/
structure Loading where
  loaded : List (Path × Json)
  failure : Option LoadError

/-- Reads the documents one after the other. -/
def readAll [Room] (files : Files) (current : Place) : List Path → Loading
  | [] => ⟨[], none⟩
  | path :: rest =>
    match readJson ((contentAt? files current path).getD []) with
    | .error error => ⟨[], some (.unreadable path error)⟩
    | .ok document =>
      let others := readAll files current rest
      ⟨(path, document) :: others.loaded, others.failure⟩

/-- The documents, or what stopped the reading. -/
def Loading.documents (loading : Loading) : Except LoadError (List Json) :=
  match loading.failure with
  | some error => .error error
  | none => .ok (loading.loaded.map Prod.snd)

/-- Finds the documents and reads them. -/
def load [Room] [FileSystem] (files : Files) (current : Place) (base : Path)
    (pattern : String) : Except LoadError (List Json) := do
  (readAll files current (← find files current base pattern)).documents

end Documents

end JsonShape

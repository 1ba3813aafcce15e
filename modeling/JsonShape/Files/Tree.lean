import JsonShape.Files.Path

/-!
# Files

The files a run can see, each at its place: the names on the way from the root.
The directory above every entry is an entry itself.
-/

set_option autoImplicit false

namespace JsonShape

inductive Entry where
  | directory
  | file (content : List UInt8)
  deriving DecidableEq, Repr

/-- The names on the way from the root to an entry. -/
abbrev Place := List String

structure Files where
  entries : List (Place × Entry)
  deriving DecidableEq, Repr, Inhabited

namespace Files

def empty : Files := ⟨[]⟩

/-- The entry at a place; the root is always there. -/
def entry? (files : Files) (place : Place) : Option Entry :=
  if place = [] then some .directory else files.entries.lookup place

def isDirectory (files : Files) (place : Place) : Bool :=
  files.entry? place == some .directory

def content? (files : Files) (place : Place) : Option (List UInt8) :=
  match files.entry? place with
  | some (.file content) => some content
  | _ => none

def isFile (files : Files) (place : Place) : Bool := (files.content? place).isSome

/-- Puts an entry at a place, instead of what is there. -/
def set (files : Files) (place : Place) (entry : Entry) : Files :=
  if files.entries.any (·.1 == place) then
    ⟨files.entries.map fun old => if old.1 = place then (place, entry) else old⟩
  else ⟨files.entries ++ [(place, entry)]⟩

/-- Adds the directories on the way to a place that are missing. -/
def makeWay (files : Files) (place : Place) : Files :=
  (List.range place.length).foldl
    (fun files count =>
      let above := place.take count
      if (files.entry? above).isSome then files else files.set above .directory)
    files

/-- Puts an entry at a place and makes the way to it. -/
def add (files : Files) (place : Place) (entry : Entry) : Files :=
  (files.makeWay place).set place entry

/-- Adds entries, whose places differ, at those of the places that have none. -/
def extend (files : Files) (entries : List (Place × Entry)) : Files :=
  ⟨files.entries ++ entries.filter fun entry => (files.entries.lookup entry.1).isNone⟩

/-- The files with the given entries, the first one for each place. -/
def ofEntries (entries : List (Place × Entry)) : Files :=
  entries.foldl (fun files entry => files.extend [entry]) empty

/-- Where one part of a path leads from a directory. -/
def step (files : Files) (place : Place) (part : String) : Option Place :=
  if !files.isDirectory place then none
  else if part = "" ∨ part = "." then some place
  else if part = ".." then some place.dropLast
  else
    let below := place ++ [part]
    if (files.entry? below).isSome then some below else none

/-- The entry that a path leads to from a directory. -/
def locate (files : Files) (current : Place) (path : Path) : Option Place :=
  path.parts.foldlM files.step (if path.isAbsolute then [] else current)

/-- The names of the entries in a directory. -/
def namesIn (files : Files) (place : Place) : List String :=
  files.entries.filterMap fun (other, _) =>
    match place.isPrefixOf? other with
    | some [name] => some name
    | _ => none

/-- The ways from a directory to all the entries below it. -/
def waysBelow (files : Files) (place : Place) : List (List String) :=
  files.entries.filterMap fun (other, _) =>
    match place.isPrefixOf? other with
    | some [] => none
    | way => way

end Files

/-- What a system does beyond what is seen of its files. -/
class FileSystem where
  /-- Whether a file may be opened for writing at a place: its name may be too long, the
  right may be missing. -/
  opens : Place → Bool
  /-- Whether a search for everything below a file finds the file itself. -/
  looksBelowFiles : Bool

/-- The system that opens every file and looks below files too. -/
instance (priority := low) FileSystem.permissive : FileSystem where
  opens _ := true
  looksBelowFiles := true

end JsonShape

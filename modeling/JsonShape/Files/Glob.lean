import JsonShape.Files.Tree
import JsonShape.Files.Wildcard

/-!
# Path patterns

A pattern is matched part by part.  A part without wildcards names an entry, a
part with wildcards matches the names in a directory, and `**` stands for any
number of directories, or for everything below a directory when it comes last.
Wildcards pass over names that begin with a full stop unless the part begins
with one too, and before other parts they match directories only.  An entry is
found once for every way in which the pattern leads to it.

Nothing is looked up for the names in front of the first wildcard.  As `**` may
stand for no directory at all, a file's path followed by `**` leads to the file where
a system looks below files.
-/

set_option autoImplicit false

namespace JsonShape

inductive GlobPart where
  | literal (name : String)
  | wild (hidden : Bool) (wildcards : List Wildcard)
  | everywhere
  deriving DecidableEq, Repr

/-- A pattern: its root, empty if it is relative, the names in front of the first
part with wildcards, and the parts from there on.  A pattern that ends with a
slash has an empty name as its last part, which only a directory has. -/
structure Glob where
  root : String
  start : List String
  parts : List GlobPart
  deriving DecidableEq, Repr

namespace GlobPart

def isHidden (name : String) : Bool := name.toList.head? == some '.'

def ofString (text : String) : GlobPart :=
  if text = "**" then everywhere
  else if Wildcard.isMagic text.toList then wild (isHidden text) (Wildcard.parse text.toList)
  else literal text

/-- Whether a part with wildcards matches a name. -/
def admits (hidden : Bool) (wildcards : List Wildcard) (name : String) : Bool :=
  (hidden || !isHidden name) && Wildcard.matchesAll wildcards name.toList

end GlobPart

/-- The names that were followed, and where they lead. -/
structure GlobMatch where
  names : List String
  place : Option Place
  deriving DecidableEq, Repr

namespace GlobMatch

def extend (found : GlobMatch) (names : List String) : GlobMatch where
  names := found.names ++ names
  place := found.place.map (· ++ names)

/-- The matches that more parts can follow, or all of them at the end. -/
def passing (files : Files) (last : Bool) (matched : List GlobMatch) : List GlobMatch :=
  matched.filter fun found => last || found.place.any files.isDirectory

end GlobMatch

namespace Glob

def ofString (text : String) : Glob :=
  let names := (Path.split text).filter (· ≠ "")
  let closing := if text.toList.getLast? = some '/' then [""] else []
  let (start, rest) := (names ++ closing).span fun name => !Wildcard.isMagic name.toList
  { root := Path.rootOf text
    start := start
    parts := rest.map GlobPart.ofString }

/-- The ways below an entry on which no name is hidden. -/
def openWays (files : Files) (found : GlobMatch) : List (List String) :=
  ((found.place.map files.waysBelow).getD []).filter (!·.any GlobPart.isHidden)

/-- What one part leads to.  In front of other parts, wildcards lead to directories
only. -/
def stepMatches [FileSystem] (files : Files) (last : Bool) (found : GlobMatch) :
    GlobPart → List GlobMatch
  | .literal name =>
    match found.place.bind (files.step · name) with
    | some place => [⟨found.names ++ [name], some place⟩]
    | none => []
  | .wild hidden wildcards =>
    let names := (found.place.map files.namesIn).getD []
    GlobMatch.passing files last
      ((names.filter (GlobPart.admits hidden wildcards)).map fun name => found.extend [name])
  | .everywhere =>
    let start := if FileSystem.looksBelowFiles || found.place.any files.isDirectory then [found]
      else []
    start ++ GlobMatch.passing files last ((openWays files found).map found.extend)

/-- What the remaining parts lead to. -/
def matchesFrom [FileSystem] (files : Files) (found : GlobMatch) : List GlobPart → List GlobMatch
  | [] => [found]
  | part :: rest =>
    (stepMatches files rest.isEmpty found part).flatMap fun next => matchesFrom files next rest

/-- How far a search for the remaining parts goes at once.  Each part waits for the one
in front of it, and `**` follows directories from the upper ones to the lower ones. -/
def extentFrom [FileSystem] (files : Files) (found : GlobMatch) : List GlobPart → Nat
  | [] => 0
  | part :: rest =>
    let below := match part with
      | .everywhere => (openWays files found).foldl (fun longest way => max longest way.length) 0
      | _ => 0
    (stepMatches files rest.isEmpty found part).foldl
      (fun extent next => max extent (extentFrom files next rest)) (rest.length + 1 + below)

/-- The names in front of the first wildcard, and where they lead in the base directory,
which is itself seen from the current one. -/
def startMatch (files : Files) (current : Place) (base : Path) (glob : Glob) : GlobMatch :=
  ⟨glob.start, files.locate current (base.join ⟨glob.root, glob.start⟩)⟩

/-- How far the search for a pattern goes at once. -/
def extent [FileSystem] (files : Files) (current : Place) (base : Path) (glob : Glob) : Nat :=
  extentFrom files (startMatch files current base glob) glob.parts

/-- What a pattern leads to from the base directory. -/
def found [FileSystem] (files : Files) (current : Place) (base : Path) (glob : Glob) :
    List GlobMatch :=
  let start := startMatch files current base glob
  if glob.parts.isEmpty && start.place.isNone then [] else matchesFrom files start glob.parts

/-- The paths that a pattern leads to in the base directory, which is itself seen
from the current one.  No names at all are no match. -/
def matchPaths [FileSystem] (files : Files) (current : Place) (base : Path) (glob : Glob) :
    List Path :=
  ((glob.found files current base).filter (!·.names.isEmpty)).map fun found =>
    base.join ⟨glob.root, found.names.filter Path.isNamed⟩

end Glob

end JsonShape

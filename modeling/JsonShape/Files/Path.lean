/-!
# Paths

A path is relative or starts at a root, and lists the names of its parts.  Empty
parts and `.` are dropped when a path is read, `..` is kept.  Paths are ordered
part by part, so everything in a directory comes before a longer name that
begins like the directory's.
-/

set_option autoImplicit false

namespace JsonShape

structure Path where
  /-- `/`, `//`, or empty for a relative path. -/
  root : String
  parts : List String
  deriving DecidableEq, Repr, Inhabited

namespace Path

/-- The parts of a text between slashes. -/
def split (text : String) : List String :=
  (text.toList.splitOn '/').map String.ofList

/-- Two slashes in front, and no third one, are a root of their own. -/
def rootOf (text : String) : String :=
  match text.toList with
  | '/' :: '/' :: '/' :: _ => "/"
  | '/' :: '/' :: _ => "//"
  | '/' :: _ => "/"
  | _ => ""

def isNamed (part : String) : Bool := part != "" && part != "."

def ofString (text : String) : Path where
  root := rootOf text
  parts := (split text).filter isNamed

def isAbsolute (path : Path) : Bool := path.root != ""

def toString (path : Path) : String :=
  let text := path.root ++ String.intercalate "/" path.parts
  if text.isEmpty then "." else text

/-- A path below another one; an absolute path stands for itself. -/
def join (base path : Path) : Path :=
  if path.isAbsolute then path else { base with parts := base.parts ++ path.parts }

/-- The last part. -/
def name (path : Path) : String := path.parts.getLast?.getD ""

/-- What paths are ordered by. -/
def key (path : Path) : List String :=
  if path.isAbsolute then path.root :: path.parts else path.parts

/-- Whether a path does not come after another one. -/
def notAfter (left right : Path) : Bool := !decide (right.key < left.key)

def sort (paths : List Path) : List Path := paths.mergeSort notAfter

/-- The names on the way from the root when `..` cancels the part before it. -/
def normalize (parts : List String) : List String :=
  parts.foldl (fun names part => if part = ".." then names.dropLast else names ++ [part]) []

end Path

end JsonShape

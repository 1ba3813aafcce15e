import JsonShape.CommandLine.Run

/-!
# The command

Reads the files that a run can see, runs it and does what it decided.
-/

set_option autoImplicit false

namespace JsonShape.Main

def pathText (place : Place) : String := (CommandLine.absolutePath place).toString

/-- The entry at a place, if there is one that can be read. -/
def entryAt (place : Place) : IO (List (Place × Entry)) := do
  try
    let path ← IO.FS.realPath (pathText place)
    if ← path.isDir then pure [(place, .directory)]
    else pure [(place, .file (← IO.FS.readBinFile path).data.toList)]
  catch _ => pure []

/-- The entry at a place and those of all directories above it. -/
def entriesTo (place : Place) : IO (List (Place × Entry)) := do
  let entries ← (List.range (place.length + 1)).mapM fun count => entryAt (place.take count)
  pure entries.flatten

/-- The entry at a place and everything below it. -/
partial def entriesFrom (place : Place) : IO (List (Place × Entry)) := do
  match ← entryAt place with
  | [(_, .directory)] =>
    let path ← IO.FS.realPath (pathText place)
    let below ← (← path.readDir).toList.mapM fun entry => entriesFrom (place ++ [entry.fileName])
    pure ((place, .directory) :: below.flatten)
  | entries => pure entries

/-- The files at the given places and the directories above them. -/
def filesAt (places : List Place) : IO Files := do
  let entries ← places.mapM entriesTo
  pure (Files.ofEntries entries.flatten)

/-- The files that a run passes and finds on the way to its documents. -/
def filesAlong (places : List Place) : IO (List (Place × Entry)) := do
  let passed ← filesAt places
  let below ← (places.getLast?.toList).mapM entriesFrom
  pure (passed.extend below.flatten).entries

/-- Writes the files that are new or different. -/
def writeChanges (before after : Files) : IO Unit :=
  after.entries.forM fun (place, entry) => do
    match entry with
    | .directory => pure ()
    | .file content =>
      if before.entries.lookup place != some entry then
        IO.FS.writeBinFile (pathText place) ⟨content.toArray⟩

/-- Runs the command and tells the exit status. -/
def perform [Room] [FileSystem] (arguments : List String) : IO UInt32 := do
  let current := (Path.ofString (← IO.currentDir).toString).parts
  let named := CommandLine.namedPlaces current arguments
  let seen ← filesAt (current :: named)
  let searched := CommandLine.searchedPlaces seen current arguments
  let files := seen.extend (← filesAlong searched)
  let outcome := CommandLine.run files current arguments
  IO.eprint outcome.stderr
  match outcome.fault with
  | some fault => IO.eprintln fault.message
  | none => pure ()
  writeChanges files outcome.files
  IO.print outcome.stdout
  pure outcome.exit.toUInt32

end JsonShape.Main

def main (arguments : List String) : IO UInt32 := JsonShape.Main.perform arguments

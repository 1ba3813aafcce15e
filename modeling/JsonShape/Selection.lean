import JsonShape.Description

/-!
# Selections

A selection reduces a finished tree to some of its fields.  It follows the shape
of the tree: under `of` stands an object that says for each field whether it is
kept (`true`), dropped (a false value or no entry) or kept and changed (an
object, which may force another type, make the field optional, and select
further within it).  For a slice the selection applies to its elements.

Fields keep the order of the struct.  Unknown fields are looked for in the order
of the selection before any field is selected.
-/

set_option autoImplicit false

namespace JsonShape

inductive Container where
  | struct
  | slice
  deriving DecidableEq, Repr

namespace Container

def name : Container → String
  | struct => "struct"
  | slice => "slice"

end Container

inductive SelectionError where
  | noSelection
  | unknownContainer (text : String)
  | badEntry (name : String)
  | description (error : DescriptionError)
  | unknownField (name : String)
  | mismatch (found : Kind) (expected : Container)
  | tooDeep
  deriving DecidableEq, Repr

namespace SelectionError

def message : SelectionError → String
  | noSelection => "Prune spec requires an 'of' mapping of field selections"
  | unknownContainer text =>
    String.join ["Prune spec type must be 'struct' or 'slice', got ", text]
  | badEntry name =>
    String.join ["Selection for field '", name, "' must be a boolean or a mapping"]
  | description error => error.message
  | unknownField name => String.join ["Field '", name, "' is not found"]
  | mismatch found expected =>
    String.join ["Unexpected type ", found.name, " encountered, ", expected.name, " expected"]
  | tooDeep => "Prune spec is nested too deeply"

end SelectionError

namespace Selection

/-- The container that a selection expects; a false value stands for a struct. -/
def containerOf : Option Spec → Except SelectionError Container
  | none => .ok .struct
  | some type =>
    if type.isFalsy then .ok .struct
    else
      match type with
      | .str "struct" => .ok .struct
      | .str "slice" => .ok .slice
      | type => .error (.unknownContainer type.text)

/-- The entries of a selection and the container they apply to. -/
def entriesOf (spec : Spec) : Except SelectionError (List (String × Spec) × Container) :=
  match spec with
  | .obj members =>
    match members.lookup "of" with
    | some (.obj entries) => do pure (entries, ← containerOf (members.lookup "type"))
    | _ => .error .noSelection
  | _ => .error .noSelection

/-- The first entry that selects a field the struct does not have. -/
def unknownField? (entries : List (String × Spec)) (fields : List (String × Field Node)) :
    Option String :=
  (entries.find? fun (name, entry) => entry.isTruthy && (fields.lookup name).isNone).map Prod.fst

/-- A member that is present and not null. -/
def given? (name : String) (members : List (String × Spec)) : Option Spec :=
  match members.lookup name with
  | none | some .null => none
  | some value => some value

/-- The type that takes the place of a field's own: a finished tree, or a
description of one. -/
def forcedType (room : Nat) (type : Spec) : Except SelectionError Node :=
  match type with
  | .node tree =>
    if tree.isFinishedForm then .ok tree
    else .error (.description (.notObject tree.typeName))
  | description => (Description.read room description).mapError .description

/-- A description that nests too deeply makes the whole selection too deep. -/
def absorbDepth : SelectionError → SelectionError
  | .description .tooDeep => .tooDeep
  | error => error

/-- A field after the changes of an entry; `select` reduces its type further. -/
def overrideField (room : Nat) (select : Node → Spec → Except SelectionError Node)
    (field : Field Node) (members : List (String × Spec)) :
    Except SelectionError (Field Node) := do
  let type ← match given? "forceType" members with
    | none => pure field.type
    | some type => (forcedType room type).mapError absorbDepth
  let optional := field.optional || ((members.lookup "forceOptional").map Spec.isTruthy).getD false
  match given? "of" members with
  | none => pure ⟨type, optional⟩
  | some entries =>
    let inner := Spec.obj [("of", entries), ("type", (members.lookup "type").getD .null)]
    pure ⟨← select type inner, optional⟩

/-- What becomes of a field under the entry for it. -/
def selectField (room : Nat) (select : Node → Spec → Except SelectionError Node)
    (entries : List (String × Spec)) (field : String × Field Node) :
    Except SelectionError (Option (String × Field Node)) :=
  match entries.lookup field.1 with
  | none => .ok none
  | some (.bool true) => .ok (some field)
  | some entry =>
    if entry.isFalsy then .ok none
    else
      match entry with
      | .obj members => do pure (some (field.1, ← overrideField room select field.2 members))
      | _ => .error (.badEntry field.1)

/-- What a selection applies to. -/
inductive Target where
  | slice (element : Node)
  | struct (fields : List (String × Field Node))

/-- The container at the root of a tree, which must be the expected one. -/
def targetOf (node : Node) (expected : Container) : Except SelectionError Target :=
  match expected, node with
  | .slice, .slice element => .ok (.slice element)
  | .struct, .struct fields => .ok (.struct fields)
  | expected, node => .error (.mismatch node.kind expected)

/-- The fields that a selection keeps; no entry may select an unknown one. -/
def selectFields (room : Nat) (select : Node → Spec → Except SelectionError Node)
    (entries : List (String × Spec)) (fields : List (String × Field Node)) :
    Except SelectionError (List (String × Field Node)) :=
  match unknownField? entries fields with
  | some name => .error (.unknownField name)
  | none => (fields.mapM (selectField room select entries)).map (List.filterMap id)

/-- The entries of a selection, and what they apply to in a tree. -/
def resolve (node : Node) (spec : Spec) :
    Except SelectionError (List (String × Spec) × Target) := do
  let (entries, expected) ← entriesOf spec
  let target ← targetOf node expected
  pure (entries, target)

/-- Applies a selection nested at most `room` deep. -/
def apply (room : Nat) (node : Node) (spec : Spec) : Except SelectionError Node :=
  match room, resolve node spec with
  | _, .error error => .error error
  | room + 1, .ok (entries, .slice element) =>
    (apply room element (.obj [("of", .obj entries)])).map .slice
  | room + 3, .ok (entries, .struct fields) =>
    (selectFields room (apply room) entries fields).map .struct
  | _, .ok _ => .error .tooDeep

end Selection

/-- Reduces a finished tree to the fields that a selection keeps. -/
def Node.prune [Room] (node : Node) (spec : Spec) : Except SelectionError Node :=
  Selection.apply Room.selection node spec

end JsonShape

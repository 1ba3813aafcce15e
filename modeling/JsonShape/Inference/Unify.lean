import JsonShape.Node.Basic
import JsonShape.Room

/-!
# Unification

The alternatives observed for one place are merged into one finished tree.
Nulls do not count when the kind is chosen.  Without any other alternative the
result is `any`; alternatives of one primitive kind give that kind; integers and
fractions together give `float`; slices are merged by merging all their items,
structs field by field; everything else is `any`.  A null item makes the items
`any`, while a null in a field makes the field optional, as does a struct that
lacks it.
-/

set_option autoImplicit false

namespace JsonShape

inductive UnifyError where
  | noDocuments
  | notContainer (index : Nat) (kind : Kind)
  /-- A finished node stands where only a raw one of the same kind can be merged. -/
  | notRaw (found expected : String)
  | tooDeep
  deriving DecidableEq, Repr

namespace UnifyError

def message : UnifyError → String
  | noDocuments => "At least one document is required for unification"
  | notContainer index kind =>
    String.join ["Document #", toString index, " is a ", kind.name,
      ", top-level documents must be objects or arrays"]
  | notRaw found expected =>
    String.join ["Cannot unify ", found, " as ", expected,
      "; only classified (raw) nodes can be unified"]
  | tooDeep => "Documents are nested too deeply to unify"

end UnifyError

namespace Unify

/-- What a set of alternatives with the given kinds is merged to. -/
inductive Outcome where
  | leaf (node : Node)
  | slices
  | structs
  deriving Repr

/-- Whether values of a kind are numbers. -/
def isNumeric : Kind → Bool
  | .primitive .int | .primitive .float => true
  | _ => false

/-- What alternatives of one and the same kind are merged to. -/
def uniform : Kind → Outcome
  | .primitive type => .leaf (.primitive type)
  | .slice => .slices
  | .struct => .structs
  | _ => .leaf .any

/-- Decides by the kinds that occur; nulls are left out beforehand. -/
def outcome : List Kind → Outcome
  | [] => .leaf .any
  | first :: rest =>
    if rest.all (· == first) then uniform first
    else if (first :: rest).all isNumeric then .leaf .float
    else .leaf .any

/-- The kinds of the alternatives other than nulls. -/
def kindsOf (nodes : List Node) : List Kind :=
  (nodes.map Node.kind).filter (· != .ignore)

/-- The element of a raw slice; nulls are passed over. -/
def elementOf? : Node → Except UnifyError (Option Node)
  | .rawSlice element => .ok (some element)
  | .ignore => .ok none
  | node => .error (.notRaw node.typeName "RawSlice")

/-- The fields of a raw struct; nulls are passed over. -/
def fieldsOf? : Node → Except UnifyError (Option (List (String × Node)))
  | .rawStruct fields => .ok (some fields)
  | .ignore => .ok none
  | node => .error (.notRaw node.typeName "RawStruct")

/-- All field names in the order in which they are first seen. -/
def fieldNames (structs : List (List (String × Node))) : List String :=
  (structs.flatMap fun fields => fields.map Prod.fst).eraseDups

/-- The values that the structs supply for a field. -/
def valuesOf (name : String) (structs : List (List (String × Node))) : List Node :=
  structs.filterMap (List.lookup name)

/-- The alternatives for a field other than nulls. -/
def presentIn (name : String) (structs : List (List (String × Node))) : List Node :=
  (Node.flatten (valuesOf name structs)).filter (!·.isIgnore)

/-- A field is optional when a struct lacks it or supplies a null. -/
def isOptional (name : String) (structs : List (List (String × Node))) : Bool :=
  (valuesOf name structs).length < structs.length
    || (Node.flatten (valuesOf name structs)).any Node.isIgnore

/-- Merges the alternatives of one place; at most `room` containers may nest. -/
def merge (room : Nat) (nodes : List Node) : Except UnifyError Node :=
  match room, outcome (kindsOf nodes) with
  | _, .leaf node => .ok node
  | 0, .slices | 0, .structs => .error .tooDeep
  | room + 1, .slices => do
    let elements ← nodes.mapM elementOf?
    let items := Node.flatten (elements.filterMap id)
    if items.any Node.isIgnore then pure (.slice .any)
    else pure (.slice (← merge room items))
  | room + 1, .structs => do
    let structs := (← nodes.mapM fieldsOf?).filterMap id
    let fields ← (fieldNames structs).mapM fun name => do
      pure (name, ⟨← merge room (presentIn name structs), isOptional name structs⟩)
    pure (.struct fields)

end Unify

/-- The finished tree of a raw one.  Opening unions up takes no room, as the trees of documents
have no unions directly inside unions. -/
def unifyNode [Room] (node : Node) : Except UnifyError Node :=
  Unify.merge Room.unification node.alternatives

/-- Whether a document of this shape may stand at the top. -/
def Node.isRawContainer : Node → Bool
  | .rawStruct _ | .rawSlice _ => true
  | _ => false

/-- The first document that is neither an object nor an array. -/
def firstScalar? (nodes : List Node) : Option (Node × Nat) :=
  nodes.zipIdx.find? fun (node, _) => !node.isRawContainer

/-- The finished tree that describes all the classified documents. -/
def unify [Room] (nodes : List Node) : Except UnifyError Node :=
  if nodes.isEmpty then .error .noDocuments
  else
    match firstScalar? nodes with
    | some (node, index) => .error (.notContainer index node.kind)
    | none => unifyNode (.union nodes)

end JsonShape

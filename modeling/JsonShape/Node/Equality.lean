import JsonShape.Node.Basic

/-!
# Equality of type trees

Two trees are the same when they differ at most in the order of struct fields,
at any depth.  The order of a union's alternatives counts, and a raw node is
never the same as a finished one.  A set of trees tells them apart by their hashes
first, which need not differ for trees that do.
-/

set_option autoImplicit false

namespace JsonShape.Node

mutual

/-- Whether two trees are equal up to the order of struct fields. -/
def same : Node → Node → Bool
  | primitive left, primitive right => left == right
  | any, any => true
  | ignore, ignore => true
  | slice left, slice right => left.same right
  | struct left, struct right => left.length == right.length && fieldsIn left right
  | rawSlice left, rawSlice right => left.same right
  | rawStruct left, rawStruct right => left.length == right.length && entriesIn left right
  | union left, union right => allSame left right
  | _, _ => false

/-- Whether the second struct has every field of the first one. -/
def fieldsIn : List (String × Field Node) → List (String × Field Node) → Bool
  | [], _ => true
  | (name, ⟨type, optional⟩) :: rest, others =>
    (match others.lookup name with
      | some other => type.same other.type && optional == other.optional
      | none => false) && fieldsIn rest others

/-- Whether the second raw struct has every entry of the first one. -/
def entriesIn : List (String × Node) → List (String × Node) → Bool
  | [], _ => true
  | (name, node) :: rest, others =>
    (match others.lookup name with
      | some other => node.same other
      | none => false) && entriesIn rest others

/-- Whether two lists of alternatives agree place by place. -/
def allSame : List Node → List Node → Bool
  | [], [] => true
  | left :: lefts, right :: rights => left.same right && allSame lefts rights
  | _, _ => false

end

/-! ## Hashes -/

/-- A way to hash: texts and marks, items in their order, and items in any order. -/
structure Hashing where
  text : String → UInt64
  mark : Bool → UInt64
  row : List UInt64 → UInt64
  set : List UInt64 → UInt64
  set_perm : ∀ {left right : List UInt64}, left.Perm right → set left = set right

/-- A hashing that adds hashes up where the order does not count. -/
def Hashing.standard : Hashing where
  text text := text.hash
  mark mark := if mark then 1 else 0
  row := List.foldl mixHash 7
  set := List.foldr (· + ·) 0
  set_perm h := h.foldr_eq' (fun left _ right _ sum => by
    rw [← UInt64.add_assoc, UInt64.add_comm right left, UInt64.add_assoc]) 0

mutual

/-- The hash of a tree, for which the order of struct fields does not count. -/
def hash (hashing : Hashing) : Node → UInt64
  | primitive type => hashing.row [hashing.text (Kind.primitive type).constant]
  | any | ignore => hashing.row []
  | slice element | rawSlice element => hashing.row [element.hash hashing]
  | struct fields => hashing.set (fieldHashes hashing fields)
  | rawStruct fields => hashing.set (entryHashes hashing fields)
  | union nodes => hashing.row [hashing.row (nodeHashes hashing nodes)]

def fieldHashes (hashing : Hashing) : List (String × Field Node) → List UInt64
  | [] => []
  | (name, ⟨type, optional⟩) :: rest =>
    hashing.row [hashing.text name, hashing.row [type.hash hashing, hashing.mark optional]]
      :: fieldHashes hashing rest

def entryHashes (hashing : Hashing) : List (String × Node) → List UInt64
  | [] => []
  | (name, node) :: rest =>
    hashing.row [hashing.text name, node.hash hashing] :: entryHashes hashing rest

def nodeHashes (hashing : Hashing) : List Node → List UInt64
  | [] => []
  | node :: rest => node.hash hashing :: nodeHashes hashing rest

end

/-- The size of a set into which two trees are put.  The second one is already there if
it hashes like the first one and is equal to it. -/
def setSize (hashing : Hashing) (left right : Node) : Nat :=
  if left.hash hashing == right.hash hashing && left.same right then 1 else 2

/-- The number of different trees among two. -/
def countDistinct (left right : Node) : Nat := setSize .standard left right

end JsonShape.Node

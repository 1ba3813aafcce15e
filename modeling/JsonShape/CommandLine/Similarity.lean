/-!
# Similar names

Two names are compared by the characters in their common blocks: the longest
common block is taken out, and what lies before and after it is compared in the
same way.  A name is close to another one when at least three fifths of both
together lie in common blocks.
-/

set_option autoImplicit false

namespace JsonShape.CommandLine

/-- A block that two texts have in common: where it begins in each, and its length. -/
structure Block where
  left : Nat
  right : Nat
  length : Nat
  deriving DecidableEq, Repr

def commonLength : List Char → List Char → Nat
  | left :: lefts, right :: rights => if left = right then commonLength lefts rights + 1 else 0
  | _, _ => 0

/-- All common blocks, in the order of their places. -/
def commonBlocks (left right : List Char) : List Block :=
  (List.range left.length).flatMap fun i =>
    (List.range right.length).map fun j =>
      ⟨i, j, commonLength (left.drop i) (right.drop j)⟩

/-- The first of the longest common blocks. -/
def longestBlock (left right : List Char) : Block :=
  (commonBlocks left right).foldl
    (fun best block => if best.length < block.length then block else best) ⟨0, 0, 0⟩

/-- The number of characters in common blocks; `steps` need not exceed the length
of either text. -/
def commonChars (steps : Nat) (left right : List Char) : Nat :=
  match steps with
  | 0 => 0
  | steps + 1 =>
    let block := longestBlock left right
    if block.length = 0 then 0
    else
      block.length
        + commonChars steps (left.take block.left) (right.take block.right)
        + commonChars steps (left.drop (block.left + block.length))
            (right.drop (block.right + block.length))

/-- How close a name is: characters in common blocks of all characters. -/
structure Closeness where
  name : String
  common : Nat
  total : Nat
  deriving DecidableEq, Repr

def closeness (name text : String) : Closeness where
  name := name
  common := 2 * commonChars name.length name.toList text.toList
  total := name.length + text.length

namespace Closeness

def isClose (closeness : Closeness) : Bool := 3 * closeness.total ≤ 5 * closeness.common

/-- Closer names come first, of equally close ones the greater. -/
def notAfter (left right : Closeness) : Bool :=
  let leftShare := left.common * right.total
  let rightShare := right.common * left.total
  rightShare < leftShare || (leftShare == rightShare && !decide (left.name < right.name))

end Closeness

/-- At most three of the names that are close to a text, in alphabetical order. -/
def similarNames (names : List String) (text : String) : List String :=
  let close := (names.map (closeness · text)).filter Closeness.isClose
  ((close.mergeSort Closeness.notAfter).take 3).map Closeness.name |>.mergeSort
    fun left right => !decide (right < left)

end JsonShape.CommandLine

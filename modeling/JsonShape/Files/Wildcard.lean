/-!
# Wildcards

A pattern for one name: `*` matches any characters, `?` matches one character,
and a bracket expression one of a set of characters.  A bracket that is not
closed stands for itself.
-/

set_option autoImplicit false

namespace JsonShape

/-- What stands for a part of a name. -/
inductive Wildcard where
  /-- Any number of characters. -/
  | many
  | one
  | literal (char : Char)
  /-- One character of a set, or one outside it. -/
  | set (negated : Bool) (members : List Char) (ranges : List (Char × Char))
  deriving DecidableEq, Repr

namespace Wildcard

def isMagicChar (char : Char) : Bool := char == '*' || char == '?' || char == '['

/-- Whether a text has a character that may be special. -/
def isMagic (text : List Char) : Bool := text.any isMagicChar

/-! ## Bracket expressions -/

/-- The text of a bracket expression and what follows it.  A closing bracket that
comes first, also after `!`, belongs to the set. -/
def bracketBody? (text : List Char) : Option (List Char × List Char) :=
  let (mark, afterMark) := match text with
    | '!' :: rest => (['!'], rest)
    | rest => ([], rest)
  let (first, afterFirst) := match afterMark with
    | ']' :: rest => ([']'], rest)
    | rest => ([], rest)
  match afterFirst.span (· ≠ ']') with
  | (_, []) => none
  | (body, _ :: rest) => some (mark ++ first ++ body, rest)

/-- The text before a hyphen at the given place or later, and the text after it. -/
def cutAtHyphen? (skip : Nat) (text : List Char) : Option (List Char × List Char) :=
  match (text.drop skip).span (· ≠ '-') with
  | (_, []) => none
  | (before, _ :: rest) => some (text.take skip ++ before, rest)

/-- Cuts a set at the hyphens that make ranges.  Between two of them stand at
least two characters, the end of one range and the start of the next. -/
def chunks (steps skip : Nat) (text : List Char) : List (List Char) :=
  match steps with
  | 0 => [text]
  | steps + 1 =>
    match cutAtHyphen? skip text with
    | none => [text]
    | some (before, []) => [before ++ ['-']]
    | some (before, rest) => before :: chunks steps 2 rest

/-- Whether the range between two neighbouring chunks is empty. -/
def isEmptyRange (left right : List Char) : Bool :=
  match left.getLast?, right.head? with
  | some low, some high => high < low
  | _, _ => false

/-- Takes out the empty ranges, the last one first. -/
def dropEmptyRanges : List (List Char) → List (List Char)
  | [] => []
  | chunk :: rest =>
    match dropEmptyRanges rest with
    | [] => [chunk]
    | next :: others =>
      if isEmptyRange chunk next then (chunk.dropLast ++ next.drop 1) :: others
      else chunk :: next :: others

/-- The ranges between neighbouring chunks. -/
def rangesOf : List (List Char) → List (Char × Char)
  | left :: right :: rest =>
    (match left.getLast?, right.head? with
      | some low, some high => [(low, high)]
      | _, _ => []) ++ rangesOf (right :: rest)
  | _ => []

/-- The number of characters at the front of a set after which a hyphen can make a
range.  A mark of negation is not the start of one. -/
def rangeStart : List Char → Nat
  | '!' :: _ => 2
  | _ => 1

/-- The set that chunks write.  A hyphen directly after the mark of negation is a
member of the set. -/
def ofChunks : List (List Char) → Wildcard
  | ['!'] :: next :: rest => .set true ('-' :: (next :: rest).flatten) (rangesOf (next :: rest))
  | ('!' :: first) :: rest => .set true (first ++ rest.flatten) (rangesOf (first :: rest))
  | pieces => .set false pieces.flatten (rangesOf pieces)

/-- The set that the text of a bracket expression writes.  It is negated when it
begins with `!` once the empty ranges are gone. -/
def ofBracket (body : List Char) : Wildcard :=
  ofChunks (dropEmptyRanges (chunks body.length (rangeStart body) body))

/-! ## Patterns -/

/-- The parts of a pattern.  Each takes at least one character, so `steps` need
not exceed the pattern's length. -/
def parseSteps (steps : Nat) (text : List Char) : List Wildcard :=
  match steps, text with
  | _, [] | 0, _ => []
  | steps + 1, '*' :: rest => .many :: parseSteps steps rest
  | steps + 1, '?' :: rest => .one :: parseSteps steps rest
  | steps + 1, '[' :: rest =>
    match bracketBody? rest with
    | some (body, rest) => ofBracket body :: parseSteps steps rest
    | none => .literal '[' :: parseSteps steps rest
  | steps + 1, char :: rest => .literal char :: parseSteps steps rest

def parse (text : List Char) : List Wildcard := parseSteps text.length text

/-- Whether one character matches. -/
def admits (char : Char) : Wildcard → Bool
  | many => false
  | one => true
  | literal expected => char == expected
  | set negated members ranges =>
    (members.contains char || ranges.any fun (low, high) => low ≤ char && char ≤ high) != negated

/-- A text and what is left of it when characters are taken off its front. -/
def suffixes : List Char → List (List Char)
  | [] => [[]]
  | char :: rest => (char :: rest) :: suffixes rest

/-- Whether a whole text matches a pattern. -/
def matchesAll : List Wildcard → List Char → Bool
  | [], text => text.isEmpty
  | many :: rest, text => (suffixes text).any (matchesAll rest)
  | _ :: _, [] => false
  | wildcard :: rest, char :: text => wildcard.admits char && matchesAll rest text

end Wildcard

end JsonShape

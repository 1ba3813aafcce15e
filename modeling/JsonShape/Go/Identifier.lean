import JsonShape.Text.Case
import JsonShape.Text.Letters

/-!
# Field names

A key is cut into words, and the words are joined again with their first letters
in title case.  Words that are acronyms are written in upper case.  Only names
that begin with an upper-case letter are exported, so any other name gets an `X`
in front.
-/

set_option autoImplicit false

namespace JsonShape.Go

/-- Whether a character continues the word that its predecessor belongs to: both
are letters or numbers, it is not upper case, and both or neither are digits. -/
def sameWord (previous char : Char) : Bool :=
  Text.isAlphanumeric previous && Text.isAlphanumeric char && !Text.isUpper char
    && Text.isDigit char == Text.isDigit previous

/-- Whether a piece of a text is made of letters and numbers. -/
def isWord (piece : List Char) : Bool := piece.all Text.isAlphanumeric

/-- The words of a text, in order. -/
def words (text : List Char) : List (List Char) := (text.splitBy sameWord).filter isWord

/-- A word in the spelling it has within a name. -/
def spell (acronyms : List (List Char)) (word : List Char) : List Char :=
  if (acronyms.map Text.lower).contains (Text.lower word) then Text.upper word
  else Text.capitalize word

/-- A text in Pascal case. -/
def pascalCase (acronyms : List (List Char)) (text : List Char) : List Char :=
  (words text).flatMap (spell acronyms)

/-- Words that are acronyms everywhere. -/
def builtinAcronyms : List (List Char) :=
  [['i', 'd'], ['a', 'p', 'i'], ['h', 't', 't', 'p'], ['u', 'r', 'l'], ['u', 'r', 'i']]

def isExported (name : List Char) : Bool :=
  match name with
  | [] => false
  | first :: _ => Text.isUpper first

/-- The field name for a key, with further acronyms. -/
def fieldName (acronyms : List (List Char)) (key : List Char) : List Char :=
  let name := pascalCase (builtinAcronyms ++ acronyms) key
  if isExported name then name else 'X' :: name

end JsonShape.Go

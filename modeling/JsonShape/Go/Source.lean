import JsonShape.Config
import JsonShape.Go.Identifier
import JsonShape.Node.Basic

/-!
# Go source text

A finished tree is written as a Go type.  A struct has one field a line, with
the field's name, its type and its tag; a struct inside it is written on its own
first and then indented as a block.
-/

set_option autoImplicit false

namespace JsonShape.Go

inductive RenderError where
  | unrenderable (kind : Kind)
  deriving DecidableEq, Repr

namespace RenderError

def message : RenderError → String
  | unrenderable kind => String.join ["Cannot render IR node of kind ", kind.name]

end RenderError

/-- The name of a leaf's type. -/
def leafName : Primitive → List Char
  | .bool => ['b', 'o', 'o', 'l']
  | .string => ['s', 't', 'r', 'i', 'n', 'g']
  | .int => ['i', 'n', 't']
  | .float => ['f', 'l', 'o', 'a', 't', '6', '4']

/-- The type of a value about which nothing is known: `json.RawMessage`. -/
def anyName : List Char :=
  ['j', 's', 'o', 'n', '.', 'R', 'a', 'w', 'M', 'e', 's', 's', 'a', 'g', 'e']

/-- The import of the package that has it: `import "encoding/json"`. -/
def anyImport : List Char :=
  ['i', 'm', 'p', 'o', 'r', 't', ' ', '"', 'e', 'n', 'c', 'o', 'd', 'i', 'n', 'g', '/', 'j', 's',
   'o', 'n', '"', '\n', '\n']

/-- Moves every line but the first one level to the right. -/
def indentBlock (text : List Char) : List Char :=
  text.flatMap fun char => if char = '\n' then ['\n', '\t'] else [char]

/-- A tag template with the key in place of each placeholder. -/
def fillTag (key : List Char) : List Char → List Char
  | [] => []
  | '%' :: 'n' :: 'a' :: 'm' :: 'e' :: '%' :: rest => key ++ fillTag key rest
  | char :: rest => char :: fillTag key rest

/-- The tag of a field. -/
def tag (config : Config) (key : String) (optional : Bool) : List Char :=
  fillTag key.toList (if optional then config.optionalTag else config.requiredTag).toList

def usesPointer (config : Config) (optional : Bool) : Bool :=
  if optional then config.pointerIfOptional else config.pointerIfRequired

def exportedName (config : Config) (key : String) : List Char :=
  fieldName (config.acronyms.map String.toList) key.toList

/-- The line of a field whose type has the given text. -/
def fieldLine (config : Config) (key : String) (optional : Bool) (type : List Char) : List Char :=
  '\t' :: exportedName config key
    ++ '\t' :: indentBlock (if usesPointer config optional then '*' :: type else type)
    ++ '\t' :: '\x60' :: tag config key optional
    ++ ['\x60', '\n']

/-- The line that opens a struct: `struct`, a blank and an opening brace. -/
def structOpening : List Char := ['s', 't', 'r', 'u', 'c', 't', ' ', '\x7b', '\n']

def structClosing : List Char := ['\x7d']

mutual

/-- The Go type of a finished tree. -/
def typeText (config : Config) : Node → Except RenderError (List Char)
  | .primitive type => .ok (leafName type)
  | .any => .ok anyName
  | .slice element => do pure ('[' :: ']' :: (← typeText config element))
  | .struct fields => do pure (structOpening ++ (← fieldLines config fields) ++ structClosing)
  | .ignore => .error (.unrenderable .ignore)
  | .rawSlice _ => .error (.unrenderable .slice)
  | .rawStruct _ => .error (.unrenderable .struct)
  | .union _ => .error (.unrenderable .union)

def fieldLines (config : Config) : List (String × Field Node) → Except RenderError (List Char)
  | [] => .ok []
  | (key, ⟨type, optional⟩) :: rest => do
    let line := fieldLine config key optional (← typeText config type)
    pure (line ++ (← fieldLines config rest))

end

mutual

/-- The nesting of a type's text, in which a struct counts for four levels. -/
def textDepth : Node → Nat
  | .slice element => textDepth element + 1
  | .struct fields => fieldsTextDepth fields + 4
  | _ => 0

def fieldsTextDepth : List (String × Field Node) → Nat
  | [] => 0
  | (_, ⟨type, _⟩) :: rest => max (textDepth type) (fieldsTextDepth rest)

end

def packageWord : List Char := ['p', 'a', 'c', 'k', 'a', 'g', 'e', ' ']

def typeWord : List Char := ['t', 'y', 'p', 'e', ' ']

/-- The package clause, and the import if the type needs it. -/
def header (config : Config) (node : Node) : List Char :=
  if config.packageName.isEmpty then []
  else
    packageWord ++ config.packageName.toList ++ ['\n', '\n'] ++
      if node.contains .any then anyImport else []

/-- What names the declared type. -/
def declaration (config : Config) : List Char :=
  if config.typeName.isEmpty then [] else typeWord ++ config.typeName.toList ++ [' ']

/-- The source text that declares the type of a finished tree. -/
def sourceText (config : Config) (node : Node) : Except RenderError (List Char) := do
  let type ← typeText config node
  pure (header config node ++ declaration config ++ type ++ ['\n'])

end JsonShape.Go

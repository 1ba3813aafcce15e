import JsonShape.Go.Source
import JsonShape.Proofs.Finished
import JsonShape.Proofs.Go.FieldName
import JsonShape.Proofs.Traversal

/-!
# The parts of a type's text

The text of a type is a row of parts, and each part has a role: a type is named,
a field is named, a tag stands behind a field, and the rest is layout.  The source
text is made by indenting the text of each inner struct as a block, once for every
struct around it; `typeText_eq_spelled` says which row of parts comes out.  The
block is indented without regard to roles, so a tag that breaks its line is moved
with the rest of the block.
-/

set_option autoImplicit false

namespace JsonShape.Go

open Text

def tabs (depth : Nat) : List Char := List.replicate depth '\t'

/-- The mark of a pointer where the configuration asks for one. -/
def pointerMark (config : Config) (optional : Bool) : List Char :=
  if usesPointer config optional then ['*'] else []

/-- Moves every line but the first to the right by a number of levels. -/
def indented (depth : Nat) (text : List Char) : List Char :=
  text.flatMap fun char => if char = '\n' then '\n' :: tabs depth else [char]

/-- What a part of a type's text stands for. -/
inductive Role where
  /-- Keywords, braces, blanks, and the marks of slices and pointers. -/
  | layout
  /-- The name of the field under a key, whose struct stands inside so many others. -/
  | fieldName (depth : Nat) (key : String)
  /-- The quoted tag of such a field. -/
  | tag (depth : Nat) (key : String) (optional : Bool)
  /-- The name of a type at a place where a type is wanted. -/
  | typeName
  deriving DecidableEq, Repr

structure Part where
  role : Role
  text : List Char
  deriving DecidableEq, Repr

/-- The text of a row of parts. -/
def spelled (parts : List Part) : List Char := parts.flatMap Part.text

/-- A text between backquotes. -/
def quoted (text : List Char) : List Char := '\x60' :: (text ++ ['\x60'])

mutual

/-- The parts of a finished tree's type at a depth. -/
def parts (config : Config) (depth : Nat) : Node → List Part
  | .primitive type => [⟨.typeName, leafName type⟩]
  | .any => [⟨.typeName, anyName⟩]
  | .slice element => ⟨.layout, ['[', ']']⟩ :: parts config depth element
  | .struct fields =>
    ⟨.layout, structOpening⟩ :: fieldParts config depth fields
      ++ [⟨.layout, tabs depth ++ structClosing⟩]
  | .ignore | .rawSlice _ | .rawStruct _ | .union _ => []

/-- The parts of the lines of a struct's fields, the struct being at a depth. -/
def fieldParts (config : Config) (depth : Nat) : List (String × Field Node) → List Part
  | [] => []
  | (key, ⟨type, optional⟩) :: rest =>
    ⟨.layout, tabs (depth + 1)⟩ :: ⟨.fieldName depth key, exportedName config key⟩
      :: ⟨.layout, '\t' :: pointerMark config optional⟩ :: parts config (depth + 1) type
      ++ ⟨.layout, ['\t']⟩
        :: ⟨.tag depth key optional, quoted (indented depth (tag config key optional))⟩
        :: ⟨.layout, ['\n']⟩ :: fieldParts config depth rest

end

/-- The parts of a field's line that do not belong to the field's type. -/
def ownParts (config : Config) (depth : Nat) (key : String) (optional : Bool) : List Part :=
  [⟨.layout, tabs (depth + 1)⟩, ⟨.fieldName depth key, exportedName config key⟩,
    ⟨.layout, '\t' :: pointerMark config optional⟩, ⟨.layout, ['\t']⟩,
    ⟨.tag depth key optional, quoted (indented depth (tag config key optional))⟩,
    ⟨.layout, ['\n']⟩]

theorem mem_fieldParts_iff {config : Config} {depth : Nat} {fields : List (String × Field Node)}
    {part : Part} :
    part ∈ fieldParts config depth fields ↔
      ∃ entry ∈ fields, part ∈ ownParts config depth entry.1 entry.2.optional ∨
        part ∈ parts config (depth + 1) entry.2.type := by
  induction fields with
  | nil => simp [fieldParts]
  | cons entry rest ih =>
      obtain ⟨key, type, optional⟩ := entry
      rw [List.exists_mem_cons_iff, ← ih]
      simp only [fieldParts, ownParts, List.cons_append, List.mem_cons, List.mem_append,
        List.not_mem_nil, or_false]
      tauto

theorem mem_parts_struct_iff {config : Config} {depth : Nat}
    {fields : List (String × Field Node)} {part : Part} :
    part ∈ parts config depth (.struct fields) ↔
      (part = ⟨.layout, structOpening⟩ ∨ part = ⟨.layout, tabs depth ++ structClosing⟩) ∨
        ∃ entry ∈ fields, part ∈ ownParts config depth entry.1 entry.2.optional ∨
          part ∈ parts config (depth + 1) entry.2.type := by
  rw [← mem_fieldParts_iff]
  simp only [parts, List.cons_append, List.mem_cons, List.mem_append, List.not_mem_nil, or_false]
  tauto

/-! ## Indenting -/

theorem indentBlock_append (left right : List Char) :
    indentBlock (left ++ right) = indentBlock left ++ indentBlock right := by
  rw [indentBlock, indentBlock, indentBlock, List.flatMap_append]

theorem indentBlock_cons_of_ne {char : Char} (h : char ≠ '\n') (rest : List Char) :
    indentBlock (char :: rest) = char :: indentBlock rest := by
  rw [indentBlock, List.flatMap_cons, if_neg h, List.singleton_append, ← indentBlock]

theorem indentBlock_newline (rest : List Char) :
    indentBlock ('\n' :: rest) = '\n' :: '\t' :: indentBlock rest := by
  rfl

theorem tabs_succ (depth : Nat) : tabs (depth + 1) = '\t' :: tabs depth := rfl

theorem newline_not_mem_tabs (depth : Nat) : '\n' ∉ tabs depth :=
  fun h => absurd (List.eq_of_mem_replicate h) (by decide)

/-- A text of one line stays as it is. -/
theorem indented_line {text : List Char} (h : '\n' ∉ text) (depth : Nat) :
    indented depth text = text := by
  induction text with
  | nil => rfl
  | cons char rest ih =>
      rw [List.mem_cons, not_or] at h
      rw [indented, List.flatMap_cons, if_neg (Ne.symm h.1), ← indented, ih h.2,
        List.singleton_append]

@[simp]
theorem indented_zero (text : List Char) : indented 0 text = text := by
  have hchar (char : Char) : (if char = '\n' then '\n' :: tabs 0 else [char]) = [char] := by
    split
    · next h => rw [h]; rfl
    · rfl
  simp [indented, hchar]

theorem indentBlock_line {text : List Char} (h : '\n' ∉ text) : indentBlock text = text :=
  indented_line h 1

theorem indentBlock_tabs (depth : Nat) : indentBlock (tabs depth) = tabs depth :=
  indentBlock_line (newline_not_mem_tabs depth)

/-- A block that is indented once more stands one level further to the right. -/
theorem indentBlock_indented (depth : Nat) (text : List Char) :
    indentBlock (indented depth text) = indented (depth + 1) text := by
  induction text with
  | nil => rfl
  | cons char rest ih =>
      have hhead : indentBlock (if char = '\n' then '\n' :: tabs depth else [char]) =
          if char = '\n' then '\n' :: tabs (depth + 1) else [char] := by
        split
        · rw [indentBlock_newline, indentBlock_tabs, tabs_succ]
        · next h => rw [indentBlock_cons_of_ne h]; rfl
      rw [indented, List.flatMap_cons, indentBlock_append, hhead, ← indented, ih]
      rfl

theorem length_indented (depth : Nat) (text : List Char) :
    (indented depth text).length = text.length + depth * text.count '\n' := by
  induction text with
  | nil => rfl
  | cons char rest ih =>
      rw [indented, List.flatMap_cons, List.length_append, ← indented, ih]
      by_cases h : char = '\n'
      · simp [h, tabs, Nat.mul_add]
        omega
      · simp [h]
        omega

/-- A text of several lines does not stay as it is. -/
theorem indented_eq_self_iff {depth : Nat} {text : List Char} :
    indented depth text = text ↔ depth = 0 ∨ '\n' ∉ text := by
  constructor
  · intro h
    have hlength := length_indented depth text
    rw [h, Nat.left_eq_add, Nat.mul_eq_zero, List.count_eq_zero] at hlength
    exact hlength
  · rintro (rfl | h)
    · exact indented_zero text
    · exact indented_line h depth

/-- Indenting brings in no characters but blanks. -/
theorem mem_of_mem_indented {char : Char} {depth : Nat} {text : List Char}
    (h : char ∈ indented depth text) (htab : char ≠ '\t') : char ∈ text := by
  obtain ⟨other, hother, hchar⟩ := List.mem_flatMap.mp h
  split at hchar
  · rename_i hnewline
    rcases List.mem_cons.mp hchar with rfl | hblank
    · rwa [hnewline] at hother
    · exact absurd (List.eq_of_mem_replicate hblank) htab
  · rwa [List.mem_singleton.mp hchar]

theorem newline_not_mem_of_plain {text : List Char} (h : Plain text) : '\n' ∉ text :=
  fun hmem => absurd (h _ hmem) (by decide)

theorem newline_not_mem_leafName (type : Primitive) : '\n' ∉ leafName type := by
  cases type <;> decide

theorem indentBlock_pointerMark (config : Config) (optional : Bool) :
    indentBlock (pointerMark config optional) = pointerMark config optional := by
  rw [pointerMark]
  split <;> rfl

theorem indentBlock_exportedName (config : Config) (key : String) :
    indentBlock (exportedName config key) = exportedName config key :=
  indentBlock_line (newline_not_mem_of_plain (plain_fieldName _ _))

/-! ## The spelling of a row of parts -/

@[simp]
theorem spelled_nil : spelled [] = [] := rfl

@[simp]
theorem spelled_cons (part : Part) (rest : List Part) :
    spelled (part :: rest) = part.text ++ spelled rest := rfl

@[simp]
theorem spelled_append (left right : List Part) :
    spelled (left ++ right) = spelled left ++ spelled right := by
  rw [spelled, spelled, spelled, List.flatMap_append]

theorem spelled_struct (config : Config) (depth : Nat) (fields : List (String × Field Node)) :
    spelled (parts config depth (.struct fields)) =
      structOpening ++ spelled (fieldParts config depth fields) ++ tabs depth ++ structClosing := by
  simp [parts]

theorem spelled_fieldParts_cons (config : Config) (depth : Nat) (entry : String × Field Node)
    (rest : List (String × Field Node)) :
    spelled (fieldParts config depth (entry :: rest)) =
      tabs (depth + 1) ++ exportedName config entry.1
        ++ '\t' :: (pointerMark config entry.2.optional
          ++ spelled (parts config (depth + 1) entry.2.type))
        ++ '\t' :: quoted (indented depth (tag config entry.1 entry.2.optional))
        ++ '\n' :: spelled (fieldParts config depth rest) := by
  obtain ⟨key, type, optional⟩ := entry
  simp [fieldParts]

theorem indentBlock_quoted (text : List Char) :
    indentBlock (quoted text) = quoted (indentBlock text) := by
  rw [quoted, indentBlock_cons_of_ne (by decide), indentBlock_append]
  rfl

/-- Indenting the lines of fields moves each of them, and the start of the line that
follows, by one tab. -/
theorem indentBlock_spelled_fieldParts {config : Config} {depth : Nat}
    {fields : List (String × Field Node)}
    (htypes : ∀ entry ∈ fields, indentBlock (spelled (parts config (depth + 1) entry.2.type)) =
      spelled (parts config (depth + 2) entry.2.type)) :
    '\t' :: indentBlock (spelled (fieldParts config depth fields)) =
      spelled (fieldParts config (depth + 1) fields) ++ ['\t'] := by
  induction fields with
  | nil => rfl
  | cons entry rest ih =>
      rw [List.forall_mem_cons] at htypes
      simp only [spelled_fieldParts_cons, indentBlock_append, indentBlock_tabs,
        indentBlock_exportedName, indentBlock_pointerMark, indentBlock_newline, htypes.1,
        indentBlock_cons_of_ne (show '\t' ≠ '\n' by decide), indentBlock_quoted,
        indentBlock_indented, ih htypes.2, tabs_succ, List.append_assoc, List.cons_append]

/-- Indenting what is spelled at one depth gives what is spelled at the next. -/
theorem indentBlock_spelled_parts (config : Config) (depth : Nat) (node : Node) :
    indentBlock (spelled (parts config depth node)) = spelled (parts config (depth + 1) node) := by
  induction node using Node.induction_on_children generalizing depth with
  | step node ih =>
      cases node with
      | primitive type =>
          simp [parts, indentBlock_line (newline_not_mem_leafName type)]
      | slice element =>
          have helement := ih element (List.mem_singleton_self _) depth
          simp [parts, indentBlock_cons_of_ne, helement]
      | struct fields =>
          have hfields : '\t' :: indentBlock (spelled (fieldParts config depth fields)) =
              spelled (fieldParts config (depth + 1) fields) ++ ['\t'] :=
            indentBlock_spelled_fieldParts fun entry hentry =>
              ih entry.2.type (List.mem_map_of_mem hentry) (depth + 1)
          have hopening : indentBlock structOpening = structOpening ++ ['\t'] := rfl
          have hclosing : indentBlock structClosing = structClosing := rfl
          -- the tab after the opening line belongs to the first line of the fields, and
          -- the tab after the last of these to the closing brace
          calc indentBlock (spelled (parts config depth (.struct fields)))
              = structOpening ++ '\t' :: indentBlock (spelled (fieldParts config depth fields)) ++
                  tabs depth ++ structClosing := by
                simp [spelled_struct, indentBlock_append, hopening, hclosing, indentBlock_tabs]
            _ = structOpening ++ (spelled (fieldParts config (depth + 1) fields) ++ ['\t']) ++
                  tabs depth ++ structClosing := by rw [hfields]
            _ = spelled (parts config (depth + 1) (.struct fields)) := by
                simp [spelled_struct, tabs_succ]
      | _ => rfl

/-! ## The text of a type -/

theorem typeText_slice (config : Config) (element : Node) :
    typeText config (.slice element) =
      (typeText config element).map fun text => '[' :: ']' :: text := by
  rw [typeText]
  rfl

theorem typeText_struct (config : Config) (fields : List (String × Field Node)) :
    typeText config (.struct fields) =
      (fieldLines config fields).map fun lines => structOpening ++ lines ++ structClosing := by
  rw [typeText]
  rfl

/-- The line of a field, if its type can be written. -/
def fieldLine? (config : Config) (entry : String × Field Node) : Except RenderError (List Char) :=
  (typeText config entry.2.type).map (fieldLine config entry.1 entry.2.optional)

theorem fieldLines_eq_mapM (config : Config) (fields : List (String × Field Node)) :
    fieldLines config fields = (fields.mapM (fieldLine? config)).map List.flatten := by
  induction fields with
  | nil => rfl
  | cons entry rest ih =>
      obtain ⟨key, type, optional⟩ := entry
      rw [fieldLines, ih, List.mapM_cons, fieldLine?]
      cases typeText config type with
      | error error => rfl
      | ok text => cases rest.mapM (fieldLine? config) <;> rfl

theorem indentBlock_pointed (config : Config) (optional : Bool) (text : List Char) :
    indentBlock (if usesPointer config optional then '*' :: text else text) =
      pointerMark config optional ++ indentBlock text := by
  rw [pointerMark]
  split
  · rw [indentBlock_cons_of_ne (by decide), List.singleton_append]
  · rw [List.nil_append]

theorem spelled_fieldParts_zero (config : Config) (fields : List (String × Field Node)) :
    (fields.map fun entry => fieldLine config entry.1 entry.2.optional
      (spelled (parts config 0 entry.2.type))).flatten = spelled (fieldParts config 0 fields) := by
  induction fields with
  | nil => rfl
  | cons entry rest ih =>
      rw [List.map_cons, List.flatten_cons, ih, fieldLine, indentBlock_pointed,
        indentBlock_spelled_parts, spelled_fieldParts_cons, indented_zero]
      simp [quoted, tabs]

/-- The text of a finished tree's type is the spelling of its parts. -/
theorem typeText_eq_spelled (config : Config) {node : Node} (hfinished : node.IsFinished) :
    typeText config node = .ok (spelled (parts config 0 node)) := by
  induction node using Node.induction_on_children with
  | step node ih =>
      obtain ⟨hform, hchildren⟩ := Node.isFinished_iff.mp hfinished
      have hchild {child : Node} (hchild : child ∈ node.children) :
          typeText config child = .ok (spelled (parts config 0 child)) :=
        ih child hchild (hchildren child hchild)
      cases node with
      | primitive type => simp [typeText, parts]
      | any => simp [typeText, parts]
      | slice element =>
          rw [typeText_slice, hchild (List.mem_singleton_self _), parts]
          rfl
      | struct fields =>
          have hlines : fields.mapM (fieldLine? config) = .ok (fields.map fun entry =>
              fieldLine config entry.1 entry.2.optional
                (spelled (parts config 0 entry.2.type))) := by
            refine mapM_eq_ok_map fun entry hentry => ?_
            rw [fieldLine?, hchild (List.mem_map_of_mem hentry)]
            rfl
          rw [typeText_struct, fieldLines_eq_mapM, hlines, spelled_struct,
            ← spelled_fieldParts_zero, show tabs 0 = [] from rfl, List.append_nil]
          rfl
      | _ => simp [Node.isFinishedForm] at hform

end JsonShape.Go

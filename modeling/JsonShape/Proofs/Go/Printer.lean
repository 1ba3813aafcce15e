import JsonShape.Proofs.Go.Layout

/-!
# One pass over a tree

The source text indents the text of an inner struct as a block, once for every
struct around it.  A printer that is told the depth writes the same text in one
pass: `typeText_eq_printed`.  It writes the parts of the text one after the other,
and where no tag breaks its line the depth does not show inside the parts.
-/

set_option autoImplicit false

namespace JsonShape.Go

mutual

/-- A finished tree printed at a depth. -/
def printed (config : Config) (depth : Nat) : Node → List Char
  | .primitive type => leafName type
  | .any => anyName
  | .slice element => '[' :: ']' :: printed config depth element
  | .struct fields =>
    structOpening ++ printedFields config (depth + 1) fields ++ tabs depth ++ structClosing
  | .ignore | .rawSlice _ | .rawStruct _ | .union _ => []

/-- The lines of a struct's fields at a depth. -/
def printedFields (config : Config) (depth : Nat) : List (String × Field Node) → List Char
  | [] => []
  | (key, ⟨type, optional⟩) :: rest =>
    tabs depth ++ exportedName config key
      ++ '\t' :: (pointerMark config optional ++ printed config depth type)
      ++ '\t' :: '\x60' :: tag config key optional
      ++ '\x60' :: '\n' :: printedFields config depth rest

end

/-- Whether no tag of a tree, at any depth, breaks its line. -/
def OneLineTags (config : Config) (node : Node) : Prop :=
  ∀ key field, node.HasField key field → '\n' ∉ tag config key field.optional

theorem OneLineTags.child {config : Config} {node child : Node} (h : OneLineTags config node)
    (hchild : child ∈ node.children) : OneLineTags config child :=
  fun key field hfield => h key field (hfield.of_child hchild)

theorem printedFields_eq_spelled {config : Config} {depth : Nat}
    {fields : List (String × Field Node)}
    (htags : ∀ entry ∈ fields, '\n' ∉ tag config entry.1 entry.2.optional)
    (htypes : ∀ entry ∈ fields, printed config (depth + 1) entry.2.type =
      spelled (parts config (depth + 1) entry.2.type)) :
    printedFields config (depth + 1) fields = spelled (fieldParts config depth fields) := by
  induction fields with
  | nil => rfl
  | cons entry rest ih =>
      rw [List.forall_mem_cons] at htags htypes
      simp [printedFields, spelled_fieldParts_cons, ih htags.2 htypes.2, htypes.1,
        indented_line htags.1, quoted]

/-- What is printed are the parts of the text, if no tag breaks its line. -/
theorem printed_eq_spelled {config : Config} {node : Node} (htags : OneLineTags config node)
    (depth : Nat) : printed config depth node = spelled (parts config depth node) := by
  induction node using Node.induction_on_children generalizing depth with
  | step node ih =>
      have hchild {child : Node} (hchild : child ∈ node.children) (depth : Nat) :
          printed config depth child = spelled (parts config depth child) :=
        ih child hchild (htags.child hchild) depth
      cases node with
      | slice element => simp [printed, parts, hchild (List.mem_singleton_self _)]
      | struct fields =>
          rw [printed, spelled_struct, printedFields_eq_spelled
            (fun entry hentry => htags _ _ (.of_mem hentry))
            fun entry hentry => hchild (List.mem_map_of_mem hentry) (depth + 1)]
      | _ => simp [printed, parts]

/-! ## The source text -/

/-- The type of a finished tree is what is printed in one pass. -/
theorem typeText_eq_printed {config : Config} {node : Node} (hfinished : node.IsFinished)
    (htags : OneLineTags config node) : typeText config node = .ok (printed config 0 node) := by
  rw [typeText_eq_spelled config hfinished, printed_eq_spelled htags]

mutual

/-- Where the documents are found is not written. -/
theorem typeText_glob (config : Config) (pattern : String) (node : Node) :
    typeText { config with glob := pattern } node = typeText config node := by
  match node with
  | .slice element => rw [typeText_slice, typeText_slice, typeText_glob config pattern element]
  | .struct fields => rw [typeText_struct, typeText_struct, fieldLines_glob config pattern fields]
  | .primitive _ | .any | .ignore | .rawSlice _ | .rawStruct _ | .union _ =>
    rw [typeText, typeText]

theorem fieldLines_glob (config : Config) (pattern : String) (fields : List (String × Field Node)) :
    fieldLines { config with glob := pattern } fields = fieldLines config fields := by
  match fields with
  | [] => rw [fieldLines, fieldLines]
  | (_, ⟨type, _⟩) :: rest =>
    rw [fieldLines, fieldLines, typeText_glob config pattern type,
      fieldLines_glob config pattern rest]
    rfl

end

/-- Only a finished tree has a type. -/
theorem isFinished_of_typeText {config : Config} {node : Node} {text : List Char}
    (h : typeText config node = .ok text) : node.IsFinished := by
  induction node using Node.induction_on_children generalizing text with
  | step node ih =>
      cases node with
      | primitive type => exact Node.isFinished_primitive type
      | any => exact Node.isFinished_any
      | slice element =>
          rw [typeText_slice, map_eq_ok_iff] at h
          obtain ⟨inner, hinner, -⟩ := h
          exact Node.isFinished_slice_iff.mpr (ih element (List.mem_singleton_self _) hinner)
      | struct fields =>
          rw [typeText_struct, fieldLines_eq_mapM] at h
          simp only [map_eq_ok_iff] at h
          obtain ⟨_, ⟨lines, hlines, -⟩, -⟩ := h
          refine Node.isFinished_struct_iff.mpr fun entry hentry => ?_
          obtain ⟨line, -, hline⟩ := exists_eq_ok_of_mapM hlines hentry
          obtain ⟨inner, hinner, -⟩ := map_eq_ok_iff.mp hline
          exact ih entry.2.type (List.mem_map_of_mem hentry) hinner
      | _ => simp [typeText] at h

/-- What cannot be written names the kind of an unfinished node in the tree. -/
theorem exists_of_typeText_eq_error {config : Config} {node : Node} {error : RenderError}
    (h : typeText config node = .error error) :
    ∃ part : Node, part.Within node ∧ part.isFinishedForm = false ∧
      error = .unrenderable part.kind := by
  induction node using Node.induction_on_children with
  | step node ih =>
      have hbelow {child : Node} (hchild : child ∈ node.children)
          (herror : typeText config child = .error error) :
          ∃ part : Node, part.Within node ∧ part.isFinishedForm = false ∧
            error = .unrenderable part.kind := by
        obtain ⟨part, hpart, hform⟩ := ih child hchild herror
        exact ⟨part, .child hchild hpart, hform⟩
      cases node with
      | primitive type => simp [typeText] at h
      | any => simp [typeText] at h
      | slice element =>
          rw [typeText_slice, map_eq_error_iff] at h
          exact hbelow (List.mem_singleton_self _) h
      | struct fields =>
          rw [typeText_struct, fieldLines_eq_mapM, map_eq_error_iff, map_eq_error_iff] at h
          obtain ⟨entry, hentry, hline⟩ := exists_of_mapM_eq_error h
          exact hbelow (List.mem_map_of_mem hentry) (map_eq_error_iff.mp hline)
      | ignore | rawSlice element | rawStruct fields | union alternatives =>
          rw [typeText, Except.error.injEq] at h
          exact ⟨_, .root, rfl, h.symm⟩

/-- What precedes the type: the package clause with the import that the type needs, and
what names the type. -/
def preamble (config : Config) (node : Node) : String :=
  String.join
    [if config.packageName = "" then "" else String.join ["package ", config.packageName, "\n\n"],
      if config.packageName ≠ "" ∧ Node.any.Within node then "import \"encoding/json\"\n\n" else "",
      if config.typeName = "" then "" else String.join ["type ", config.typeName, " "]]

theorem header_append_declaration (config : Config) (node : Node) :
    header config node ++ declaration config = (preamble config node).toList := by
  have hany : node.contains .any = true ↔ Node.any.Within node := Node.contains_any_iff
  rw [header, declaration, preamble]
  simp only [String.isEmpty_iff, hany]
  by_cases hpackage : config.packageName = "" <;> by_cases htype : config.typeName = "" <;>
    by_cases hwithin : Node.any.Within node <;>
    simp [hpackage, htype, hwithin, packageWord, typeWord, anyImport]

/-- A finished tree is written in one pass over it, provided that no tag breaks its
line, and a tree that is not finished is not written at all. -/
theorem source_in_one_pass (config : Config) :
    (∀ node : Node, node.IsFinished → OneLineTags config node →
      typeText config node = .ok (printed config 0 node) ∧
        sourceText config node =
          .ok ((preamble config node).toList ++ printed config 0 node ++ ['\n'])) ∧
    ∀ node : Node,
      ((∃ error, typeText config node = .error error) ↔
        ∃ part : Node, part.Within node ∧ part.isFinishedForm = false) ∧
      ∀ error, typeText config node = .error error →
        ∃ part : Node, part.Within node ∧ part.isFinishedForm = false ∧
          error = .unrenderable part.kind := by
  refine ⟨fun node hfinished htags => ?_, fun node => ⟨⟨?_, ?_⟩, ?_⟩⟩
  · have htype := typeText_eq_printed hfinished htags
    refine ⟨htype, ?_⟩
    rw [sourceText, htype, ← header_append_declaration]
    rfl
  · rintro ⟨error, herror⟩
    obtain ⟨part, hpart, hform, -⟩ := exists_of_typeText_eq_error herror
    exact ⟨part, hpart, hform⟩
  · rintro ⟨part, hpart, hform⟩
    cases htype : typeText config node with
    | error error => exact ⟨error, rfl⟩
    | ok text => simp [isFinished_of_typeText htype part hpart] at hform
  · exact fun error => exists_of_typeText_eq_error

/-- Pointers and tags that differ for optional fields. -/
def eventConfig : Config :=
  { typeName := "Event", packageName := "models", optionalTag := "json:\"%name%,omitempty\"" }

/-- A struct in a slice in a struct; one of its keys looks like a placeholder. -/
def eventType : Node :=
  .struct [("id", ⟨.int, false⟩),
    ("user_tags", ⟨.slice (.struct [("%name%", ⟨.any, true⟩)]), true⟩)]

theorem isFinished_eventType : eventType.IsFinished := by
  simp [eventType, Node.int]

theorem oneLineTags_eventType : OneLineTags eventConfig eventType := by
  intro key field hfield
  simp [eventType, Node.int] at hfield
  rcases hfield with (⟨rfl, rfl⟩ | ⟨rfl, rfl⟩) | ⟨rfl, rfl⟩ <;>
    simp [tag, eventConfig, fillTag, defaultTagTemplate, namePlaceholder]

example : (sourceText eventConfig eventType).map String.ofList = .ok (String.join
    ["package models\n\nimport \"encoding/json\"\n\ntype Event struct \x7b\n",
      "\tID\t*int\t`json:\"id\"`\n",
      "\tUserTags\t[]struct \x7b\n",
      "\t\tName\tjson.RawMessage\t`json:\"%name%,omitempty\"`\n",
      "\t\x7d\t`json:\"user_tags,omitempty\"`\n",
      "\x7d\n"]) := by decide +kernel

theorem source_in_one_pass_event :
    (eventType.IsFinished ∧ OneLineTags eventConfig eventType ∧
      typeText eventConfig eventType = .ok (printed eventConfig 0 eventType) ∧
        sourceText eventConfig eventType = .ok ((preamble eventConfig eventType).toList ++
          printed eventConfig 0 eventType ++ ['\n'])) ∧
      ((Node.rawSlice .int).Within (.slice (.rawSlice .int)) ∧
        ∃ error, typeText eventConfig (.slice (.rawSlice .int)) = .error error) := by
  have hraw : (Node.rawSlice .int).Within (.slice (.rawSlice .int)) :=
    .child (List.mem_singleton_self _) .root
  exact ⟨⟨isFinished_eventType, oneLineTags_eventType,
      (source_in_one_pass eventConfig).1 eventType isFinished_eventType oneLineTags_eventType⟩,
    hraw, ((source_in_one_pass eventConfig).2 _).1.mpr ⟨_, hraw, rfl⟩⟩

end JsonShape.Go

import JsonShape.Proofs.Go.Tag

/-!
# The import that a file needs

The package clause is followed by an import if the search for unknown types finds
one in the tree.  The text of the type is written by another traversal, which is
where the imported name is used.  `import_iff_used` says that the two agree: on the
names that stand as types in the text and, as far as tags can be told from the text
around them, on the text itself.
-/

set_option autoImplicit false

namespace JsonShape.Go

open Text

/-! ## The text outside of tags -/

/-- A text without its raw string literals; `inside` says whether it begins in one. -/
def codeText (inside : Bool) : List Char → List Char
  | [] => []
  | char :: rest =>
    if char = '\x60' then codeText (!inside) rest
    else if inside then codeText inside rest
    else char :: codeText inside rest

theorem codeText_append {left : List Char} (h : '\x60' ∉ left) (right : List Char) :
    codeText false (left ++ right) = left ++ codeText false right := by
  induction left with
  | nil => rfl
  | cons char left ih =>
      rw [List.mem_cons, not_or] at h
      rw [List.cons_append, codeText, if_neg (Ne.symm h.1), if_neg Bool.false_ne_true, ih h.2,
        List.cons_append]

theorem codeText_quoted {text : List Char} (h : '\x60' ∉ text) (rest : List Char) :
    codeText false (quoted text ++ rest) = codeText false rest := by
  have hinside : codeText true (text ++ '\x60' :: rest) = codeText false rest := by
    induction text with
    | nil => rfl
    | cons char text ih =>
        rw [List.mem_cons, not_or] at h
        rw [List.cons_append, codeText, if_neg (Ne.symm h.1), if_pos rfl, ih h.2]
  rw [quoted, List.cons_append, codeText, if_pos rfl, List.append_assoc, List.singleton_append]
  exact hinside

namespace Part

def isTag (part : Part) : Bool :=
  match part.role with
  | .tag .. => true
  | _ => false

/-- Whether a part can be told from the text around it: a tag is all of its literal, and
no literal begins in another part. -/
def Separate (part : Part) : Prop :=
  if part.isTag then ∃ text, part.text = quoted text ∧ '\x60' ∉ text else '\x60' ∉ part.text

/-- The text of a part that is no tag. -/
def code (part : Part) : List Char := if part.isTag then [] else part.text

end Part

theorem codeText_spelled {row : List Part} (h : ∀ part ∈ row, part.Separate) :
    codeText false (spelled row) = row.flatMap Part.code := by
  induction row with
  | nil => rfl
  | cons part rest ih =>
      rw [List.forall_mem_cons] at h
      rw [spelled_cons, List.flatMap_cons, ← ih h.2]
      have hpart := h.1
      cases htag : part.isTag with
      | true =>
          rw [Part.Separate, if_pos htag] at hpart
          obtain ⟨text, htext, hquote⟩ := hpart
          rw [htext, codeText_quoted hquote, Part.code, if_pos htag, List.nil_append]
      | false =>
          rw [Part.Separate, htag, if_neg Bool.false_ne_true] at hpart
          rw [codeText_append hpart, Part.code, htag, if_neg Bool.false_ne_true]

/-! ## The parts of a type -/

variable {config : Config} {depth : Nat} {node : Node} {part : Part}

/-- The part of the text that names the type of values about which nothing is known. -/
def anyPart : Part := ⟨.typeName, anyName⟩

theorem anyPart_ne_layout (text : List Char) : anyPart ≠ ⟨.layout, text⟩ := by
  simp [anyPart]

theorem anyPart_not_mem_ownParts {key : String} {optional : Bool} :
    anyPart ∉ ownParts config depth key optional := by
  simp [ownParts, anyPart]

/-- The type of unknown values is named in the text exactly if such a value is met in
the tree. -/
theorem anyPart_mem_parts_iff : anyPart ∈ parts config depth node ↔ Node.any.Within node := by
  induction node using Node.induction_on_children generalizing depth with
  | step node ih =>
      rw [Node.within_iff]
      cases node with
      | any => simp [parts, anyPart]
      | primitive type =>
          have hname : leafName type ≠ anyName := by cases type <;> decide
          simp [parts, anyPart, Node.children, hname.symm]
      | slice element =>
          simp [parts, anyPart_ne_layout, Node.children, ih element (List.mem_singleton_self _)]
      | struct fields =>
          simp only [mem_parts_struct_iff, anyPart_ne_layout, anyPart_not_mem_ownParts, false_or,
            reduceCtorEq, Node.children, List.mem_map, exists_exists_and_eq_and]
          exact exists_congr fun entry => and_congr_right fun hentry =>
            ih _ (List.mem_map_of_mem hentry)
      | _ => simp [parts, Node.children]

theorem not_mem_of_plain {char : Char} (hchar : isPlain char = false) {text : List Char}
    (h : Plain text) : char ∉ text :=
  fun hmem => Bool.false_ne_true (hchar.symm.trans (h char hmem))

/-- Neither a backquote nor a point stands in the other parts but tags. -/
def Unmarked (part : Part) : Prop := '\x60' ∉ part.text ∧ '.' ∉ part.text

instance (part : Part) : Decidable (Unmarked part) := inferInstanceAs (Decidable (_ ∧ _))

theorem mem_ownParts_cases {key : String} {optional : Bool}
    (h : part ∈ ownParts config depth key optional) : part.isTag = true ∨ Unmarked part := by
  have hname : Plain (exportedName config key) := plain_fieldName _ _
  simp only [ownParts, List.mem_cons, List.not_mem_nil, or_false] at h
  rcases h with rfl | rfl | rfl | rfl | rfl | rfl
  · exact .inr ⟨by simp [tabs], by simp [tabs]⟩
  · exact .inr ⟨not_mem_of_plain (by decide) hname, not_mem_of_plain (by decide) hname⟩
  · exact .inr (by rw [Unmarked, pointerMark]; split <;> decide)
  · exact .inr (by decide)
  · exact .inl rfl
  · exact .inr (by decide)

theorem mem_parts_cases (h : part ∈ parts config depth node) :
    part = anyPart ∨ part.isTag = true ∨ Unmarked part := by
  induction node using Node.induction_on_children generalizing depth with
  | step node ih =>
      cases node with
      | any => exact .inl (List.mem_singleton.mp h)
      | primitive type =>
          rw [List.mem_singleton.mp h]
          exact .inr (.inr (by cases type <;> decide))
      | slice element =>
          rcases List.mem_cons.mp h with rfl | helement
          · exact .inr (.inr (by decide))
          · exact ih element (List.mem_singleton_self _) helement
      | struct fields =>
          rw [mem_parts_struct_iff] at h
          rcases h with (rfl | rfl) | ⟨entry, hentry, hown | htype⟩
          · exact .inr (.inr (by decide))
          · exact .inr (.inr (by simp [Unmarked, tabs, structClosing]))
          · exact .inr (mem_ownParts_cases hown)
          · exact ih entry.2.type (List.mem_map_of_mem hentry) htype
      | _ => simp [parts] at h

/-- Whether every tag of a tree ends where its literal ends. -/
def TagsEnd (config : Config) (node : Node) : Prop :=
  ∀ key field, node.HasField key field → '\x60' ∉ tag config key field.optional

theorem separate_of_mem_parts (htags : TagsEnd config node) (h : part ∈ parts config depth node) :
    part.Separate := by
  rw [Part.Separate]
  split
  · next htag =>
      obtain ⟨role, text⟩ := part
      cases role with
      | tag level key optional =>
          obtain ⟨⟨inner, type, -, hfield⟩, htext⟩ := mem_parts_tag_iff.mp h
          refine ⟨_, htext, fun hmem => ?_⟩
          exact htags key _ (Node.hasField_iff_exists_fieldAt.mpr ⟨inner, hfield⟩)
            (mem_of_mem_indented hmem (by decide))
      | _ => simp [Part.isTag] at htag
  · next htag =>
      rcases mem_parts_cases h with rfl | htag' | hunmarked
      · decide
      · exact absurd htag' htag
      · exact hunmarked.1

/-- Outside of the tags, the name of the type of unknown values is found in the text
exactly if the type is named there. -/
theorem anyName_infix_codeText_iff (htags : TagsEnd config node) :
    anyName <:+: codeText false (spelled (parts config depth node)) ↔
      anyPart ∈ parts config depth node := by
  rw [codeText_spelled fun part => separate_of_mem_parts htags]
  constructor
  · intro h
    have hpoint : '.' ∈ (parts config depth node).flatMap Part.code := h.subset (by decide)
    obtain ⟨part, hpart, hpoint⟩ := List.mem_flatMap.mp hpoint
    rw [Part.code] at hpoint
    rcases mem_parts_cases hpart with rfl | htag | hunmarked
    · exact hpart
    · simp [htag] at hpoint
    · split at hpoint
      · exact absurd hpoint List.not_mem_nil
      · exact absurd hpoint hunmarked.2
  · intro h
    rw [List.flatMap]
    exact List.infix_of_mem_flatten (List.mem_map_of_mem (f := Part.code) h)

/-! ## The file -/

/-- The package clause. -/
def packageClause (config : Config) : List Char :=
  packageWord ++ config.packageName.toList ++ ['\n', '\n']

/-- With a package clause, the file has the import exactly if the text of the type names
the imported type where a type is wanted; if no tag ends early, exactly if the name is
found in the text outside of the tags. -/
theorem import_iff_used {config : Config} (hpackage : config.packageName ≠ "") {node : Node}
    (hfinished : node.IsFinished) :
    ∃ imports type,
      typeText config node = .ok type ∧
      sourceText config node =
        .ok (packageClause config ++ imports ++ declaration config ++ type ++ ['\n']) ∧
      (imports = anyImport ∨ imports = []) ∧
      type = spelled (parts config 0 node) ∧
      (imports = anyImport ↔ anyPart ∈ parts config 0 node) ∧
      (TagsEnd config node → (imports = anyImport ↔ anyName <:+: codeText false type)) := by
  have htype := typeText_eq_spelled config hfinished
  have hused : anyPart ∈ parts config 0 node ↔ node.contains .any = true :=
    anyPart_mem_parts_iff.trans Node.contains_any_iff.symm
  have himport : (if node.contains .any then anyImport else []) = anyImport ↔
      anyPart ∈ parts config 0 node := by
    rw [hused]
    split
    · next h => simp [h]
    · next h => simp [h, anyImport]
  refine ⟨if node.contains .any then anyImport else [], _, htype, ?_, ?_, rfl, himport,
    fun htags => himport.trans (anyName_infix_codeText_iff htags).symm⟩
  · rw [sourceText, htype, header, if_neg (by simpa using hpackage), packageClause]
    rfl
  · split
    · exact .inl rfl
    · exact .inr rfl

/-- A name in a tag does not call for the import. -/
example : (sourceText { packageName := "models" }
      (.struct [("json.RawMessage", ⟨.slice .int, false⟩)])).map String.ofList =
    .ok (String.join ["package models\n\nstruct \x7b\n",
      "\tJsonRawMessage\t*[]int\t`json:\"json.RawMessage\"`\n\x7d\n"]) := by decide +kernel

theorem tagsEnd_eventType : TagsEnd eventConfig eventType := fun key field hfield =>
  tellsFields_eventConfig.quote_not_mem_tag (readable_eventType.keys key field hfield).1 _

theorem import_iff_used_event :
    eventConfig.packageName ≠ "" ∧ eventType.IsFinished ∧ TagsEnd eventConfig eventType ∧
      ∃ type, typeText eventConfig eventType = .ok type ∧
        sourceText eventConfig eventType = .ok (packageClause eventConfig ++ anyImport ++
          declaration eventConfig ++ type ++ ['\n']) ∧
        anyName <:+: codeText false type := by
  have hpackage : eventConfig.packageName ≠ "" := by decide
  obtain ⟨imports, type, htype, hsource, -, rfl, hused, hfound⟩ :=
    import_iff_used hpackage isFinished_eventType
  obtain rfl : imports = anyImport := hused.mpr (by decide +kernel)
  exact ⟨hpackage, isFinished_eventType, tagsEnd_eventType, _, htype, hsource,
    (hfound tagsEnd_eventType).mp rfl⟩

end JsonShape.Go

import JsonShape.Proofs.Go.Injectivity
import Mathlib.Data.List.TakeWhile

/-!
# Tags as string literals

A tag stands between backquotes, so it is read as a raw string literal, which ends
at the next backquote and holds every character up to there as it is.  Nothing is
escaped in it: a backquote of the key ends the literal early, and a line break of
the key is followed by the tabs of the blocks in which the field's struct stands.
`tag_literals` says that nothing else changes a tag.
-/

set_option autoImplicit false

namespace JsonShape

/-! ## Fields by depth -/

/-- Whether a struct that stands inside so many others has a field under a name. -/
inductive Node.FieldAt (name : String) (field : Field Node) : Nat → Node → Prop
  | here {fields : List (String × Field Node)} (h : (name, field) ∈ fields) :
      FieldAt name field 0 (.struct fields)
  | element {depth : Nat} {element : Node} (h : FieldAt name field depth element) :
      FieldAt name field depth (.slice element)
  | inner {depth : Nat} {fields : List (String × Field Node)} {entry : String × Field Node}
      (hentry : entry ∈ fields) (h : FieldAt name field depth entry.2.type) :
      FieldAt name field (depth + 1) (.struct fields)

namespace Node

variable {name : String} {field : Field Node}

/-- Every field of a tree stands at some depth. -/
theorem hasField_iff_exists_fieldAt {node : Node} :
    node.HasField name field ↔ ∃ depth, node.FieldAt name field depth := by
  constructor
  · rintro ⟨fields, hwithin, hfield⟩
    induction hwithin with
    | root => exact ⟨0, .here hfield⟩
    | @child node child hchild _ ih =>
        obtain ⟨depth, hdepth⟩ := ih
        cases node with
        | slice element =>
            rw [children, List.mem_singleton] at hchild
            exact ⟨depth, .element (hchild ▸ hdepth)⟩
        | struct fields =>
            obtain ⟨entry, hentry, rfl⟩ := List.mem_map.mp hchild
            exact ⟨depth + 1, .inner hentry hdepth⟩
        | _ => simp [children] at hchild
  · rintro ⟨depth, hdepth⟩
    induction hdepth with
    | here h => exact .of_mem h
    | element _ ih => exact ih.of_child (List.mem_singleton_self _)
    | inner hentry _ ih => exact ih.of_child (List.mem_map_of_mem hentry)

theorem fieldAt_slice_iff {depth : Nat} {element : Node} :
    (slice element).FieldAt name field depth ↔ element.FieldAt name field depth :=
  ⟨fun h => by cases h; assumption, .element⟩

end Node

namespace Go

/-! ## Literals -/

/-- The content of the raw string literal with which a text begins: what stands between
its backquote and the next one. -/
def rawContent? : List Char → Option (List Char)
  | '\x60' :: rest => if '\x60' ∈ rest then some (rest.takeWhile (· ≠ '\x60')) else none
  | _ => none

theorem takeWhile_quoted (text rest : List Char) :
    (text ++ '\x60' :: rest).takeWhile (· ≠ '\x60') = text.takeWhile (· ≠ '\x60') := by
  induction text with
  | nil => simp
  | cons char text ih =>
      rw [List.cons_append, List.takeWhile_cons, List.takeWhile_cons, ih]

/-- The literal of a quoted text ends at the first backquote of the text. -/
theorem rawContent?_quoted (text rest : List Char) :
    rawContent? (quoted text ++ rest) = some (text.takeWhile (· ≠ '\x60')) := by
  rw [quoted, List.cons_append, rawContent?, if_pos (by simp), List.append_assoc,
    List.singleton_append, takeWhile_quoted]

theorem takeWhile_eq_self_iff_quote_not_mem {text : List Char} :
    text.takeWhile (· ≠ '\x60') = text ↔ '\x60' ∉ text := by
  rw [List.takeWhile_eq_self_iff]
  simp only [ne_eq, decide_not, Bool.not_eq_eq_eq_not, Bool.not_true, decide_eq_false_iff_not]
  exact ⟨fun h hmem => h _ hmem rfl, fun h char hchar heq => h (heq ▸ hchar)⟩

/-- The literal of a tag that was indented with its block holds the tag exactly if the
tag has no backquote and was not torn apart. -/
theorem literal_eq_iff {depth : Nat} {text : List Char} :
    (indented depth text).takeWhile (· ≠ '\x60') = text ↔
      '\x60' ∉ text ∧ (depth = 0 ∨ '\n' ∉ text) := by
  constructor
  · intro h
    have hquote : '\x60' ∉ text := by
      rw [← h]
      intro hmem
      simpa using List.mem_takeWhile_imp hmem
    have hindented : '\x60' ∉ indented depth text :=
      fun hmem => hquote (mem_of_mem_indented hmem (by decide))
    rw [takeWhile_eq_self_iff_quote_not_mem.mpr hindented, indented_eq_self_iff] at h
    exact ⟨hquote, h⟩
  · rintro ⟨hquote, hline⟩
    rw [indented_eq_self_iff.mpr hline, takeWhile_eq_self_iff_quote_not_mem.mpr hquote]

/-! ## Templates -/

/-- Whether a tag template can stand in a raw string literal on one line. -/
structure Quotable (template : String) : Prop where
  quote : '\x60' ∉ template.toList
  newline : '\n' ∉ template.toList

/-- Whether both tag templates of a configuration can. -/
structure QuotableTags (config : Config) : Prop where
  optionalTag : Quotable config.optionalTag
  requiredTag : Quotable config.requiredTag

/-- The tag template for a field. -/
def tagTemplate (config : Config) (optional : Bool) : String :=
  if optional then config.optionalTag else config.requiredTag

theorem QuotableTags.template {config : Config} (h : QuotableTags config) (optional : Bool) :
    Quotable (tagTemplate config optional) := by
  cases optional with
  | true => exact h.optionalTag
  | false => exact h.requiredTag

/-- A character that the template lacks gets into the tag with the key. -/
theorem mem_fillTag_iff {char : Char} {key template : List Char} (h : char ∉ template) :
    char ∈ fillTag key template ↔ holes template ≠ 0 ∧ char ∈ key := by
  fun_induction fillTag key template with
  | case1 => simp [holes]
  | case2 rest ih =>
      have hrest : char ∉ rest := fun hmem => h (by simp [hmem])
      rw [List.mem_append, ih hrest, holes]
      simp only [ne_eq, Nat.add_one_ne_zero, not_false_eq_true, true_and]
      exact ⟨fun hmem => hmem.elim id And.right, .inl⟩
  | case3 first rest hfirst ih =>
      rw [List.mem_cons, not_or] at h
      rw [List.mem_cons, ih h.2, holes.eq_3 _ _ hfirst]
      simp [h.1]

/-- Where the literal of a tag holds the tag, in terms of the template and the key. -/
theorem tag_fits_iff {config : Config} (htemplates : QuotableTags config) {depth : Nat}
    {key : String} {optional : Bool} :
    ('\x60' ∉ tag config key optional ∧ (depth = 0 ∨ '\n' ∉ tag config key optional)) ↔
      (holes (tagTemplate config optional).toList = 0 ∨
        '\x60' ∉ key.toList ∧ (depth = 0 ∨ '\n' ∉ key.toList)) := by
  have htemplate := htemplates.template optional
  have hquote : '\x60' ∈ tag config key optional ↔
      holes (tagTemplate config optional).toList ≠ 0 ∧ '\x60' ∈ key.toList :=
    mem_fillTag_iff htemplate.quote
  have hnewline : '\n' ∈ tag config key optional ↔
      holes (tagTemplate config optional).toList ≠ 0 ∧ '\n' ∈ key.toList :=
    mem_fillTag_iff htemplate.newline
  rw [hquote, hnewline]
  tauto

/-! ## The tags of a type -/

variable {config : Config} {key : String} {optional : Bool} {literal : List Char}

theorem mem_ownParts_tag_iff {start level : Nat} {name : String} {mark : Bool} :
    (⟨.tag level key optional, literal⟩ : Part) ∈ ownParts config start name mark ↔
      start = level ∧ name = key ∧ mark = optional ∧
        literal = quoted (indented level (tag config key optional)) := by
  simp only [ownParts, List.mem_cons, List.not_mem_nil, Part.mk.injEq, Role.tag.injEq,
    reduceCtorEq, false_and, false_or, or_false]
  constructor
  · rintro ⟨⟨rfl, rfl, rfl⟩, h⟩
    exact ⟨rfl, rfl, rfl, h⟩
  · rintro ⟨rfl, rfl, rfl, h⟩
    exact ⟨⟨rfl, rfl, rfl⟩, h⟩

/-- The tags in the text of a type are those of its fields. -/
theorem mem_parts_tag_iff {start level : Nat} {node : Node} :
    (⟨.tag level key optional, literal⟩ : Part) ∈ parts config start node ↔
      (∃ depth type, start + depth = level ∧ node.FieldAt key ⟨type, optional⟩ depth) ∧
        literal = quoted (indented level (tag config key optional)) := by
  induction node using Node.induction_on_children generalizing start with
  | step node ih =>
      cases node with
      | slice element =>
          simp only [parts, List.mem_cons, Part.mk.injEq, reduceCtorEq, false_and, false_or,
            ih element (List.mem_singleton_self _), Node.fieldAt_slice_iff]
      | struct fields =>
          simp only [mem_parts_struct_iff, Part.mk.injEq, reduceCtorEq, false_and, false_or,
            mem_ownParts_tag_iff]
          constructor
          · rintro ⟨entry, hentry, ⟨rfl, rfl, rfl, hliteral⟩ | hinner⟩
            · exact ⟨⟨0, entry.2.type, rfl, .here hentry⟩, hliteral⟩
            · obtain ⟨⟨depth, type, rfl, hfield⟩, hliteral⟩ :=
                (ih _ (List.mem_map_of_mem hentry)).mp hinner
              exact ⟨⟨depth + 1, type, by omega, .inner hentry hfield⟩, hliteral⟩
          · rintro ⟨⟨depth, type, rfl, hfield⟩, hliteral⟩
            cases hfield with
            | here hentry => exact ⟨_, hentry, .inl ⟨rfl, rfl, rfl, hliteral⟩⟩
            | @inner depth _ entry hentry hfield =>
                refine ⟨entry, hentry, .inr ((ih _ (List.mem_map_of_mem hentry)).mpr ?_)⟩
                exact ⟨⟨depth, type, by omega, hfield⟩, hliteral⟩
      | primitive type | any | ignore | rawSlice element | rawStruct fields | union nodes =>
          simp only [parts, List.mem_singleton, List.not_mem_nil, Part.mk.injEq, reduceCtorEq,
            false_and, false_iff, not_and]
          rintro ⟨depth, type, -, hfield⟩
          cases hfield

/-- Whether the tag of a field, at a depth, stands in the text of a type behind some of
the type's parts. -/
def TagStands (config : Config) (node : Node) (depth : Nat) (key : String) (optional : Bool)
    (before : List Part) : Prop :=
  ∃ literal after, parts config 0 node = before ++ ⟨.tag depth key optional, literal⟩ :: after

/-- The tag of every field stands in the text of the type, and the literal that begins
there holds the tag, moved with the blocks around it, up to its first backquote.  That
is the tag itself exactly if the template does not show the key, or the key has no
backquote and does not break the line of a field in an inner struct. -/
theorem tag_literals {config : Config} (htemplates : QuotableTags config) {node : Node}
    (hfinished : node.IsFinished) :
    ∃ text, typeText config node = .ok text ∧
      (∀ key field depth, node.FieldAt key field depth →
        ∃ before, TagStands config node depth key field.optional before) ∧
      ∀ key optional depth before, TagStands config node depth key optional before →
        ∃ content, rawContent? (text.drop (spelled before).length) = some content ∧
          content =
            (indented depth (tag config key optional)).takeWhile (· ≠ '\x60') ∧
          (content = tag config key optional ↔
            holes (tagTemplate config optional).toList = 0 ∨
              '\x60' ∉ key.toList ∧ (depth = 0 ∨ '\n' ∉ key.toList)) := by
  refine ⟨_, typeText_eq_spelled config hfinished, ?_, ?_⟩
  · intro key field depth hfield
    have hmem : (⟨.tag depth key field.optional, _⟩ : Part) ∈ parts config 0 node :=
      mem_parts_tag_iff.mpr ⟨⟨depth, field.type, Nat.zero_add _, hfield⟩, rfl⟩
    obtain ⟨before, after, hparts⟩ := List.append_of_mem hmem
    exact ⟨before, _, after, hparts⟩
  · rintro key optional depth before ⟨literal, after, hparts⟩
    have hmem : (⟨.tag depth key optional, literal⟩ : Part) ∈ parts config 0 node := by
      rw [hparts]
      simp
    obtain ⟨-, hliteral⟩ := mem_parts_tag_iff.mp hmem
    refine ⟨_, ?_, rfl, literal_eq_iff.trans (tag_fits_iff htemplates)⟩
    rw [hparts, spelled_append, List.drop_left, spelled_cons, hliteral, rawContent?_quoted]

theorem ShowsKey.quotable {template : String} (h : ShowsKey template) : Quotable template :=
  ⟨h.quote, h.newline⟩

theorem quotableTags_eventConfig : QuotableTags eventConfig where
  optionalTag := tellsFields_eventConfig.optionalTag.quotable
  requiredTag := tellsFields_eventConfig.requiredTag.quotable

/-- The key that looks like a placeholder is read back from the tag of its field. -/
theorem tag_literals_event :
    QuotableTags eventConfig ∧ eventType.IsFinished ∧
      eventType.FieldAt "%name%" ⟨.any, true⟩ 1 ∧
      ∃ text before, typeText eventConfig eventType = .ok text ∧
        TagStands eventConfig eventType 1 "%name%" true before ∧
        rawContent? (text.drop (spelled before).length) =
          some (tag eventConfig "%name%" true) := by
  have hfield : eventType.FieldAt "%name%" ⟨.any, true⟩ 1 :=
    .inner (List.mem_cons_of_mem _ List.mem_cons_self) (.element (.here List.mem_cons_self))
  obtain ⟨text, htext, hstands, hliteral⟩ :=
    tag_literals quotableTags_eventConfig isFinished_eventType
  obtain ⟨before, hbefore⟩ := hstands _ _ _ hfield
  obtain ⟨content, hcontent, -, hiff⟩ := hliteral _ _ _ _ hbefore
  have hkept : content = tag eventConfig "%name%" true := hiff.mpr (.inr (by decide +kernel))
  exact ⟨quotableTags_eventConfig, isFinished_eventType, hfield, text, before, htext, hbefore,
    hkept ▸ hcontent⟩

/-- A struct in a struct; one key has a backquote, and the one below breaks its line. -/
def tornType : Node :=
  .struct [("a`b", ⟨.struct [("x\ny", ⟨.int, false⟩)], false⟩)]

theorem quotableTags_default : QuotableTags {} where
  optionalTag := tellsFields_eventConfig.requiredTag.quotable
  requiredTag := tellsFields_eventConfig.requiredTag.quotable

/-- The literal of the inner field holds a tab that the key has not, and the literal of
the outer field ends inside the key. -/
theorem literals_of_tornType :
    QuotableTags {} ∧ tornType.IsFinished ∧
      ∃ text, typeText {} tornType = .ok text ∧
        (TagStands {} tornType 1 "x\ny" false ((parts {} 0 tornType).take 10) ∧
          rawContent? (text.drop (spelled ((parts {} 0 tornType).take 10)).length) =
            some "json:\"x\n\ty\"".toList ∧
          "json:\"x\n\ty\"".toList ≠ tag {} "x\ny" false) ∧
        TagStands {} tornType 0 "a`b" false ((parts {} 0 tornType).take 14) ∧
          rawContent? (text.drop (spelled ((parts {} 0 tornType).take 14)).length) =
            some "json:\"a".toList ∧
          "json:\"a".toList ≠ tag {} "a`b" false := by
  refine ⟨quotableTags_default, by simp [tornType, Node.int], _, rfl,
    ⟨⟨quoted "json:\"x\n\ty\"".toList, (parts {} 0 tornType).drop 11, ?_⟩, ?_, ?_⟩,
    ⟨quoted "json:\"a`b\"".toList, (parts {} 0 tornType).drop 15, ?_⟩, ?_, ?_⟩
  all_goals decide +kernel

end Go

end JsonShape

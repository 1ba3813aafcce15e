import JsonShape.Proofs.Go.Printer
import JsonShape.Shape

/-!
# The text determines the tree

Two trees of which the same text is written are the same tree, if the marks of
pointers tell optional fields from required ones and every tag shows its key.
The name of a field is lossy, but the tag beside it is not.  Each part of the text
ends where its own characters say so, whatever follows it: a type where its
keyword or its closing brace ends, a name before a tab, a tag before its quote.
-/

set_option autoImplicit false

namespace JsonShape.Go

open Text

/-- What precedes the first of a delimiter can be told from what follows it. -/
theorem append_cons_inj {delimiter : Char} {left right rest others : List Char}
    (hleft : delimiter ∉ left) (hright : delimiter ∉ right)
    (h : left ++ delimiter :: rest = right ++ delimiter :: others) :
    left = right ∧ rest = others := by
  -- the library's `List.append_cons_inj_of_notMem` wants the delimiter only once
  induction left generalizing right with
  | nil =>
      cases right with
      | nil => exact ⟨rfl, (List.cons.inj h).2⟩
      | cons char right => exact absurd (List.cons.inj h).1 (List.ne_of_not_mem_cons hright)
  | cons char left ih =>
      cases right with
      | nil => exact absurd (List.cons.inj h).1.symm (List.ne_of_not_mem_cons hleft)
      | cons other right =>
          rw [List.cons_append, List.cons_append, List.cons.injEq] at h
          obtain ⟨hlefts, hrest⟩ := ih (List.not_mem_of_not_mem_cons hleft)
            (List.not_mem_of_not_mem_cons hright) h.2
          exact ⟨by rw [h.1, hlefts], hrest⟩

/-! ## Tags -/

/-- The number of places that a template has for the key. -/
def holes : List Char → Nat
  | [] => 0
  | '%' :: 'n' :: 'a' :: 'm' :: 'e' :: '%' :: rest => holes rest + 1
  | _ :: rest => holes rest

theorem mem_fillTag {key template : List Char} {char : Char} (h : char ∈ fillTag key template) :
    char ∈ key ∨ char ∈ template := by
  fun_induction fillTag key template with
  | case1 => simp at h
  | case2 rest ih =>
      rcases List.mem_append.mp h with hkey | hrest
      · exact .inl hkey
      · exact (ih hrest).imp_right fun hmem => by simp [hmem]
  | case3 first rest hfirst ih =>
      rcases List.mem_cons.mp h with rfl | hrest
      · exact .inr List.mem_cons_self
      · exact (ih hrest).imp_right (List.mem_cons_of_mem _)

/-- Each place, which takes six characters of the template, makes room for the key. -/
theorem length_fillTag (key template : List Char) :
    (fillTag key template).length + 6 * holes template =
      template.length + holes template * key.length := by
  fun_induction fillTag key template with
  | case1 => simp [holes]
  | case2 rest ih =>
      simp only [holes, List.length_append, List.length_cons]
      rw [Nat.add_mul]
      omega
  | case3 first rest hfirst ih =>
      rw [holes.eq_3 _ _ hfirst]
      simp only [List.length_cons]
      omega

/-- A place that does not begin with the first character is one of the rest. -/
theorem placeholder_infix_rest {first : Char} {rest : List Char}
    (hfirst : ∀ tail, first = '%' → rest = 'n' :: 'a' :: 'm' :: 'e' :: '%' :: tail → False)
    (h : namePlaceholder.toList <:+: first :: rest) : namePlaceholder.toList <:+: rest := by
  refine (List.infix_cons_iff.mp h).resolve_left fun hprefix => ?_
  obtain ⟨tail, htail⟩ := hprefix
  obtain ⟨rfl, rfl⟩ := List.cons.inj htail
  exact hfirst tail rfl rfl

theorem holes_pos {template : List Char} (h : namePlaceholder.toList <:+: template) :
    0 < holes template := by
  fun_induction holes template with
  | case1 => simp [namePlaceholder] at h
  | case2 rest ih => exact Nat.succ_pos _
  | case3 first rest hfirst ih => exact ih (placeholder_infix_rest hfirst h)

/-- A filled template shows the key. -/
theorem fillTag_injective {template : List Char} (h : namePlaceholder.toList <:+: template)
    {left right : List Char} (heq : fillTag left template = fillTag right template) :
    left = right := by
  have hlength : left.length = right.length := by
    have hleft := length_fillTag left template
    have hright := length_fillTag right template
    rw [heq] at hleft
    exact Nat.eq_of_mul_eq_mul_left (holes_pos h) (by omega)
  fun_induction fillTag left template with
  | case1 => simp [namePlaceholder] at h
  | case2 rest ih => exact (List.append_inj heq hlength).1
  | case3 first rest hfirst ih =>
      rw [fillTag.eq_3 _ _ _ hfirst] at heq
      exact ih (placeholder_infix_rest hfirst h) (List.cons.inj heq).2

/-- Whether a template shows the key and can stand in a quoted tag on one line. -/
structure ShowsKey (template : String) : Prop where
  placeholder : namePlaceholder.toList <:+: template.toList
  quote : '\x60' ∉ template.toList
  newline : '\n' ∉ template.toList

/-- What is required of a configuration so that the text can be read back. -/
structure TellsFields (config : Config) : Prop where
  pointers : config.pointerIfOptional ≠ config.pointerIfRequired
  optionalTag : ShowsKey config.optionalTag
  requiredTag : ShowsKey config.requiredTag

namespace TellsFields

variable {config : Config}

theorem usesPointer_injective (h : TellsFields config) {left right : Bool}
    (heq : usesPointer config left = usesPointer config right) : left = right := by
  have hpointers := h.pointers
  cases left <;> cases right <;> simp_all [usesPointer]

/-- The template of either kind of fields. -/
theorem showsKey (h : TellsFields config) (optional : Bool) :
    ShowsKey (if optional then config.optionalTag else config.requiredTag) := by
  cases optional with
  | true => exact h.optionalTag
  | false => exact h.requiredTag

theorem tag_injective (h : TellsFields config) {optional : Bool} {left right : String}
    (heq : tag config left optional = tag config right optional) : left = right :=
  String.toList_injective (fillTag_injective (h.showsKey optional).placeholder heq)

theorem quote_not_mem_tag (h : TellsFields config) {key : String} (hkey : '\x60' ∉ key.toList)
    (optional : Bool) : '\x60' ∉ tag config key optional :=
  fun hmem => (mem_fillTag hmem).elim hkey (h.showsKey optional).quote

theorem newline_not_mem_tag (h : TellsFields config) {key : String} (hkey : '\n' ∉ key.toList)
    (optional : Bool) : '\n' ∉ tag config key optional :=
  fun hmem => (mem_fillTag hmem).elim hkey (h.showsKey optional).newline

end TellsFields

/-! ## Types -/

/-- The kinds of finished nodes. -/
def writtenKinds : List Kind :=
  [.primitive .bool, .primitive .string, .primitive .int, .primitive .float, .any, .struct, .slice]

/-- The characters with which the type of a node of some kind begins. -/
def keyword : Kind → List Char
  | .primitive type => leafName type
  | .any => anyName
  | .struct => structOpening
  | .slice => ['[', ']']
  | .union | .ignore => []

theorem mem_writtenKinds {node : Node} (h : node.isFinishedForm = true) :
    node.kind ∈ writtenKinds := by
  cases node with
  | primitive type => cases type <;> decide
  | any | slice element | struct fields => simp [Node.kind, writtenKinds]
  | _ => simp [Node.isFinishedForm] at h

theorem keyword_prefix_printed {node : Node} (h : node.isFinishedForm = true) (config : Config)
    (depth : Nat) : keyword node.kind <+: printed config depth node := by
  cases node with
  | primitive type => exact List.prefix_rfl
  | any => exact List.prefix_rfl
  | slice element => exact ⟨_, rfl⟩
  | struct fields =>
      rw [printed, List.append_assoc, List.append_assoc]
      exact List.prefix_append _ _
  | _ => simp [Node.isFinishedForm] at h

theorem eq_of_prefix_keyword : ∀ kind ∈ writtenKinds, ∀ other ∈ writtenKinds,
    keyword kind <+: keyword other → kind = other := by
  decide

theorem not_star_prefix_keyword : ∀ kind ∈ writtenKinds,
    ¬['*'] <+: keyword kind ∧ ¬keyword kind <+: ['*'] := by
  decide

variable {config : Config} {depth : Nat} {node other : Node} {rest others : List Char}

/-- A type shows its kind, whatever follows it. -/
theorem kind_eq_of_printed_append (hnode : node.isFinishedForm = true)
    (hother : other.isFinishedForm = true)
    (h : printed config depth node ++ rest = printed config depth other ++ others) :
    node.kind = other.kind := by
  have hleft : keyword node.kind <+: printed config depth other ++ others :=
    h ▸ (keyword_prefix_printed hnode config depth).trans (List.prefix_append _ _)
  have hright : keyword other.kind <+: printed config depth other ++ others :=
    (keyword_prefix_printed hother config depth).trans (List.prefix_append _ _)
  have hnode := mem_writtenKinds hnode
  have hother := mem_writtenKinds hother
  rcases List.prefix_or_prefix_of_prefix hleft hright with hprefix | hprefix
  · exact eq_of_prefix_keyword _ hnode _ hother hprefix
  · exact (eq_of_prefix_keyword _ hother _ hnode hprefix).symm

/-- No type begins like a pointer. -/
theorem printed_append_ne_star (hnode : node.isFinishedForm = true) :
    printed config depth node ++ rest ≠ '*' :: others := by
  intro h
  have hleft : keyword node.kind <+: '*' :: others :=
    h ▸ (keyword_prefix_printed hnode config depth).trans (List.prefix_append _ _)
  have hright : ['*'] <+: '*' :: others := List.prefix_append ['*'] others
  have hstar := not_star_prefix_keyword _ (mem_writtenKinds hnode)
  rcases List.prefix_or_prefix_of_prefix hleft hright with hprefix | hprefix
  · exact hstar.2 hprefix
  · exact hstar.1 hprefix

/-- The mark of a pointer can be told from the type behind it. -/
theorem pointerMark_append_inj (hnode : node.isFinishedForm = true)
    (hother : other.isFinishedForm = true) {left right : Bool}
    (h : pointerMark config left ++ (printed config depth node ++ rest) =
      pointerMark config right ++ (printed config depth other ++ others)) :
    usesPointer config left = usesPointer config right ∧
      printed config depth node ++ rest = printed config depth other ++ others := by
  rw [pointerMark, pointerMark] at h
  cases hleft : usesPointer config left <;> cases hright : usesPointer config right <;>
    rw [hleft, hright] at h
  · exact ⟨rfl, h⟩
  · exact absurd h (printed_append_ne_star hnode)
  · exact absurd h.symm (printed_append_ne_star hother)
  · exact ⟨rfl, (List.cons.inj h).2⟩

/-! ## Trees -/

/-- A finished tree whose keys, at any depth, can stand in a quoted tag on one line. -/
structure Readable (node : Node) : Prop where
  finished : node.IsFinished
  keys : ∀ key field, node.HasField key field → '\x60' ∉ key.toList ∧ '\n' ∉ key.toList

namespace Readable

theorem form (h : Readable node) : node.isFinishedForm = true :=
  h.finished node .root

theorem child (h : Readable node) (hchild : other ∈ node.children) : Readable other where
  finished := (Node.isFinished_iff.mp h.finished).2 other hchild
  keys key field hfield := h.keys key field (hfield.of_child hchild)

theorem entry {fields : List (String × Field Node)} (h : Readable (.struct fields))
    {entry : String × Field Node} (hentry : entry ∈ fields) :
    '\x60' ∉ entry.1.toList ∧ Readable entry.2.type :=
  ⟨(h.keys _ _ (.of_mem hentry)).1, h.child (List.mem_map_of_mem hentry)⟩

end Readable

/-- What the texts of two trees show of them, whatever follows. -/
def ReadsBack (config : Config) (node : Node) : Prop :=
  ∀ (depth : Nat) (other : Node), Readable other → ∀ rest others : List Char,
    printed config depth node ++ rest = printed config depth other ++ others →
      node = other ∧ rest = others

/-- The line of a field shows the field. -/
theorem field_inj (hconfig : TellsFields config) {key otherKey : String} {type otherType : Node}
    {optional otherOptional : Bool} (hfield : '\x60' ∉ key.toList ∧ Readable type)
    (hother : '\x60' ∉ otherKey.toList ∧ Readable otherType) (htype : ReadsBack config type)
    (h : exportedName config key ++ '\t' :: (pointerMark config optional ++
          (printed config depth type ++
            '\t' :: '\x60' :: (tag config key optional ++ '\x60' :: '\n' :: rest))) =
        exportedName config otherKey ++ '\t' :: (pointerMark config otherOptional ++
          (printed config depth otherType ++
            '\t' :: '\x60' :: (tag config otherKey otherOptional ++ '\x60' :: '\n' :: others)))) :
    key = otherKey ∧ type = otherType ∧ optional = otherOptional ∧ rest = others := by
  have hname (key : String) : '\t' ∉ exportedName config key := fun hmem =>
    absurd (plain_fieldName _ _ _ hmem) (by decide)
  obtain ⟨-, hafterName⟩ := append_cons_inj (hname key) (hname otherKey) h
  obtain ⟨hpointer, hafterMark⟩ := pointerMark_append_inj hfield.2.form hother.2.form hafterName
  obtain rfl := hconfig.usesPointer_injective hpointer
  obtain ⟨rfl, hafterType⟩ := htype depth otherType hother.2 _ _ hafterMark
  rw [List.cons.injEq, List.cons.injEq] at hafterType
  obtain ⟨htag, hafterTag⟩ := append_cons_inj (hconfig.quote_not_mem_tag hfield.1 _)
    (hconfig.quote_not_mem_tag hother.1 _) hafterType.2.2
  exact ⟨hconfig.tag_injective htag, rfl, rfl, (List.cons.inj hafterTag).2⟩

/-- The lines of fields show the fields: where they end, the line of the closing brace
is indented less. -/
theorem printedFields_append_inj (hconfig : TellsFields config)
    {fields otherFields : List (String × Field Node)}
    (hfields : ∀ entry ∈ fields, '\x60' ∉ entry.1.toList ∧ Readable entry.2.type)
    (hotherFields : ∀ entry ∈ otherFields, '\x60' ∉ entry.1.toList ∧ Readable entry.2.type)
    (htypes : ∀ entry ∈ fields, ReadsBack config entry.2.type)
    (h : printedFields config (depth + 1) fields ++ (tabs depth ++ '\x7d' :: rest) =
      printedFields config (depth + 1) otherFields ++ (tabs depth ++ '\x7d' :: others)) :
    fields = otherFields ∧ rest = others := by
  have htabs : tabs (depth + 1) = tabs depth ++ ['\t'] := List.replicate_succ' ..
  induction fields generalizing otherFields with
  | nil =>
      cases otherFields with
      | nil =>
          rw [printedFields, List.nil_append, List.nil_append, List.append_cancel_left_eq] at h
          exact ⟨rfl, (List.cons.inj h).2⟩
      | cons other otherRest =>
          simp [printedFields, htabs] at h
  | cons entry restFields ih =>
      cases otherFields with
      | nil => simp [printedFields, htabs] at h
      | cons other otherRest =>
          obtain ⟨key, type, optional⟩ := entry
          obtain ⟨otherKey, otherType, otherOptional⟩ := other
          rw [List.forall_mem_cons] at hfields hotherFields htypes
          dsimp only at hfields hotherFields htypes
          simp only [printedFields, List.append_assoc, List.cons_append,
            List.append_cancel_left_eq] at h
          obtain ⟨rfl, rfl, rfl, hlines⟩ := field_inj hconfig hfields.1 hotherFields.1 htypes.1 h
          obtain ⟨rfl, hrest⟩ := ih hfields.2 hotherFields.2 htypes.2 hlines
          exact ⟨rfl, hrest⟩

/-- A printed tree shows the tree, at every depth and whatever follows it. -/
theorem readsBack (hconfig : TellsFields config) (hnode : Readable node) :
    ReadsBack config node := by
  induction node using Node.induction_on_children with
  | step node ih =>
      intro depth other hother rest others h
      have hkind := kind_eq_of_printed_append hnode.form hother.form h
      have hform := hnode.form
      have hotherForm := hother.form
      cases node with
      | primitive type =>
          cases other with
          | primitive otherType =>
              cases hkind
              exact ⟨rfl, List.append_cancel_left h⟩
          | _ => cases hkind
      | any =>
          cases other with
          | any => exact ⟨rfl, List.append_cancel_left h⟩
          | _ => cases hkind
      | slice element =>
          cases other with
          | slice otherElement =>
              have hchild := List.mem_singleton_self element
              obtain ⟨rfl, hrest⟩ := ih element hchild (hnode.child hchild) depth otherElement
                (hother.child (List.mem_singleton_self _)) rest others
                (List.cons.inj (List.cons.inj h).2).2
              exact ⟨rfl, hrest⟩
          | _ => simp [Node.kind, Node.isFinishedForm] at hkind hotherForm
      | struct fields =>
          cases other with
          | struct otherFields =>
              simp only [printed, structClosing, List.append_assoc, List.append_cancel_left_eq,
                List.singleton_append] at h
              have htypes : ∀ entry ∈ fields, ReadsBack config entry.2.type := fun entry hentry =>
                ih _ (List.mem_map_of_mem hentry) (hnode.entry hentry).2
              obtain ⟨rfl, hrest⟩ := printedFields_append_inj hconfig (fun _ => hnode.entry)
                (fun _ => hother.entry) htypes h
              exact ⟨rfl, hrest⟩
          | _ => simp [Node.kind, Node.isFinishedForm] at hkind hotherForm
      | _ => simp [Node.isFinishedForm] at hform

theorem Readable.oneLineTags (hconfig : TellsFields config) (hnode : Readable node) :
    OneLineTags config node :=
  fun key field hfield => hconfig.newline_not_mem_tag (hnode.keys key field hfield).2 _

/-- Trees of which the same text is written are the same. -/
theorem eq_of_typeText_eq (hconfig : TellsFields config) (hnode : Readable node)
    (hother : Readable other) (h : typeText config node = typeText config other) :
    node = other := by
  rw [typeText_eq_printed hnode.finished (hnode.oneLineTags hconfig),
    typeText_eq_printed hother.finished (hother.oneLineTags hconfig), Except.ok.injEq] at h
  have happend : printed config 0 node ++ [] = printed config 0 other ++ [] := by rw [h]
  exact (readsBack hconfig hnode 0 other hother [] [] happend).1

theorem tellsFields_eventConfig : TellsFields eventConfig where
  pointers := by decide
  optionalTag := ⟨by decide +kernel, by simp [eventConfig], by simp [eventConfig]⟩
  requiredTag :=
    ⟨by decide +kernel, by simp [eventConfig, defaultTagTemplate, namePlaceholder],
      by simp [eventConfig, defaultTagTemplate, namePlaceholder]⟩

theorem readable_eventType : Readable eventType where
  finished := isFinished_eventType
  keys key field hfield := by
    simp [eventType, Node.int] at hfield
    rcases hfield with (⟨rfl, -⟩ | ⟨rfl, -⟩) | ⟨rfl, -⟩ <;> simp

/-- Documents of which the event type is inferred. -/
def eventDocuments : List Json :=
  [.obj [("id", .int 1), ("user_tags", .arr [.obj [("%name%", .null)]])], .obj [("id", .int 2)]]

theorem eq_of_typeText_eq_event :
    TellsFields eventConfig ∧ Readable eventType ∧
      ∃ inferred, inferAll eventDocuments = .ok inferred ∧ Readable inferred ∧
        typeText eventConfig inferred = typeText eventConfig eventType ∧ inferred = eventType :=
  ⟨tellsFields_eventConfig, readable_eventType, eventType, rfl, readable_eventType, rfl,
    eq_of_typeText_eq tellsFields_eventConfig readable_eventType readable_eventType rfl⟩

end JsonShape.Go

import JsonShape.Proofs.Description.Canonical
import JsonShape.Proofs.Selection.Forcing
import JsonShape.Proofs.Shape

/-!
# Descriptions stand for trees

A tree that is described is read back as it was, and what is read from any description
has a canonical description of its own.  Hence the description of an inferred type can be
forced on a field in place of the type.  A description that nests more deeply than there
is room for is neither written nor read.
-/

set_option autoImplicit false

namespace JsonShape

namespace Node

/-- Each slice and each struct adds to the nesting of the description. -/
theorem depth_le_describedDepth {node : Node} (hfinished : node.IsFinished) :
    node.depth ≤ node.describedDepth := by
  induction node using induction_on_children with
  | step node ih =>
      obtain ⟨hform, hchildren⟩ := isFinished_iff.mp hfinished
      cases node with
      | primitive type => exact Nat.zero_le _
      | any => exact Nat.zero_le _
      | slice element =>
          have helement : element ∈ (slice element).children := List.mem_singleton_self element
          exact Nat.succ_le_succ (ih element helement (hchildren element helement))
      | struct fields =>
          have hfields : fieldsDepth fields ≤ describedFieldsDepth fields := by
            rw [fieldsDepth_le_iff]
            intro entry hentry
            have hchild : entry.2.type ∈ (struct fields).children := List.mem_map_of_mem hentry
            calc
              entry.2.type.depth ≤ entry.2.type.describedDepth :=
                ih _ hchild (hchildren _ hchild)
              _ ≤ describedFieldsDepth fields :=
                describedFieldsDepth_le_iff.mp (Nat.le_refl _) entry hentry
          rw [depth, describedDepth]
          omega
      | _ => simp [isFinishedForm] at hform

theorem describe?_eq_some_iff [Room] {node : Node} {description : Json} :
    node.describe? = some description ↔
      node.describedDepth ≤ Room.description ∧ node.describe = description := by
  by_cases hdepth : node.describedDepth ≤ Room.description <;> simp [describe?, hdepth]

theorem ofDescription_describe [Room] {node : Node} (hfinished : node.IsFinished)
    (hdepth : node.depth ≤ Room.description) :
    ofDescription (Spec.ofJson node.describe) = .ok node := by
  rw [ofDescription]
  apply (Description.read_describe hfinished Room.description).resolve_right
  intro hdeep
  exact Nat.not_lt.mpr hdepth hdeep.1

/-- What is written as a description is read back as it was. -/
theorem ofDescription_of_describe? [Room] {node : Node} {description : Json}
    (hfinished : node.IsFinished)
    (h : node.describe? = some description) :
    ofDescription (Spec.ofJson description) = .ok node := by
  obtain ⟨hdepth, rfl⟩ := describe?_eq_some_iff.mp h
  exact ofDescription_describe hfinished
    (Nat.le_trans (depth_le_describedDepth hfinished) hdepth)

/-- A description can be forced in place of the tree, if there is room for it below the
three levels of the struct. -/
theorem prune_forcing_describe [Room] {tree : Node} (htree : tree.IsFinished)
    (fields : List (String × Field Node)) (members entries changes : List (String × Spec))
    (name : String) :
    (struct fields).prune
          (Selection.forcing members entries changes name (Spec.ofJson tree.describe)) =
        (struct fields).prune (Selection.forcing members entries changes name (.node tree)) ∨
      Room.selection < tree.depth + 3 ∧
        (struct fields).prune
            (Selection.forcing members entries changes name (Spec.ofJson tree.describe)) =
          .error .tooDeep := by
  obtain ⟨room, hroom⟩ := Nat.exists_eq_add_of_le' Room.three_le_selection
  rw [prune, prune, hroom, Nat.add_lt_add_iff_right]
  exact Selection.apply_forcing_describe htree members entries changes name fields

end Node

theorem infer_of_describe [Room] {config : Config} {documents : List Json} {description : Json}
    (h : describe config documents = .ok description) :
    ∃ node, infer config documents = .ok node ∧ node.describe? = some description := by
  rw [describe, bind_eq_ok_iff] at h
  obtain ⟨node, hnode, h⟩ := h
  refine ⟨node, hnode, ?_⟩
  cases hdescription : node.describe? with
  | none => simp [hdescription, throw, throwThe, MonadExceptOf.throw] at h
  | some other =>
      rw [hdescription, pure_eq_ok_iff] at h
      rw [h]

/-- Without a filter what is inferred nests no deeper than merging allows. -/
theorem depth_of_infer [Room] {config : Config} {documents : List Json} {node : Node}
    (hfilter : config.filter = none) (h : infer config documents = .ok node) :
    node.depth ≤ Room.unification := by
  rw [infer, bind_eq_ok_iff] at h
  obtain ⟨merged, hmerged, h⟩ := h
  rw [applyFilter, hfilter, Except.ok.injEq] at h
  exact h ▸ (isFinished_of_inferAll hmerged).2

/-- Descriptions are a faithful form of finished trees within the nesting limits: what is
written is read back, what is read has one canonical description, and forcing a tree or
its description is the same.  This holds of the description of an inferred type. -/
theorem descriptions_stand_for_trees [Room] :
    (∀ node : Node, node.IsFinished → ∀ description, node.describe? = some description →
      Node.ofDescription (Spec.ofJson description) = .ok node) ∧
    (∀ json node, Node.ofDescription (Spec.ofJson json) = .ok node →
      node.IsFinished ∧ Description.Canonical node.describe ∧
      Node.ofDescription (Spec.ofJson node.describe) = .ok node ∧
      ∀ other, Description.Canonical other →
        Node.ofDescription (Spec.ofJson other) = .ok node → other = node.describe) ∧
    (∀ tree : Node, tree.IsFinished → ∀ fields members entries changes name,
      (Node.struct fields).prune
            (Selection.forcing members entries changes name (Spec.ofJson tree.describe)) =
          (Node.struct fields).prune
            (Selection.forcing members entries changes name (.node tree)) ∨
        Room.selection < tree.depth + 3 ∧
          (Node.struct fields).prune
              (Selection.forcing members entries changes name (Spec.ofJson tree.describe)) =
            .error .tooDeep) ∧
    ∀ config documents description, describe config documents = .ok description →
      ∃ node, infer config documents = .ok node ∧
        Node.ofDescription (Spec.ofJson description) = .ok node ∧
        (config.filter = none → ∀ fields members entries changes name,
          (Node.struct fields).prune
              (Selection.forcing members entries changes name (Spec.ofJson description)) =
            (Node.struct fields).prune
              (Selection.forcing members entries changes name (.node node))) := by
  refine ⟨fun node hfinished description => Node.ofDescription_of_describe? hfinished, ?_,
    fun tree htree => Node.prune_forcing_describe htree, ?_⟩
  · intro json node h
    have hfinished : node.IsFinished := Description.isFinished_of_read h
    exact ⟨hfinished, Description.canonical_describe hfinished,
      Description.read_describe_of_read h, fun other hother => hother.eq_describe⟩
  · intro config documents description h
    obtain ⟨node, hnode, hdescription⟩ := infer_of_describe h
    have hfinished : node.IsFinished := isFinished_of_infer hnode
    refine ⟨node, hnode, Node.ofDescription_of_describe? hfinished hdescription, ?_⟩
    intro hfilter fields members entries changes name
    rw [← (Node.describe?_eq_some_iff.mp hdescription).2]
    apply (Node.prune_forcing_describe hfinished fields members entries changes name).resolve_right
    rintro ⟨hdeep, -⟩
    have hdepth : node.depth ≤ Room.unification := depth_of_infer hfilter hnode
    exact absurd hdeep (Nat.not_lt.mpr
      (Nat.le_trans (Nat.add_le_add_right hdepth 3) Room.unification_add_le_selection))

/-- A description in short form: the kinds of the structs are left out, and a number
stands for true. -/
def shortDescription : Json :=
  .obj [("fields", .obj [("at", .obj [("of", .obj []), ("optional", .int 1)]),
    ("id", .obj [("of", .obj [("type", .str "int"), ("note", .null)])])])]

def describedType : Node := .struct [("at", ⟨.struct [], true⟩), ("id", ⟨.int, false⟩)]

theorem ofDescription_shortDescription :
    Node.ofDescription (Spec.ofJson shortDescription) = .ok describedType := rfl

theorem descriptions_stand_for_trees_short :
    (describedType.IsFinished ∧ describedType.describe? = some describedType.describe ∧
      Node.ofDescription (Spec.ofJson describedType.describe) = .ok describedType) ∧
    (Node.ofDescription (Spec.ofJson shortDescription) = .ok describedType ∧
      Description.Canonical describedType.describe ∧
      (Description.Canonical shortDescription → shortDescription = describedType.describe)) ∧
    ((Node.struct [("a", ⟨.any, false⟩)]).prune
          (Selection.forcing [] [] [] "a" (Spec.ofJson describedType.describe)) =
        (Node.struct [("a", ⟨.any, false⟩)]).prune
          (Selection.forcing [] [] [] "a" (.node describedType))) ∧
    (describe {} sampleDocuments = .ok sampleType.describe ∧
      Node.ofDescription (Spec.ofJson sampleType.describe) = .ok sampleType) := by
  have hread := descriptions_stand_for_trees.2.1 shortDescription describedType
    ofDescription_shortDescription
  have hdescribed : describedType.describe? = some describedType.describe := rfl
  have hsample : describe {} sampleDocuments = .ok sampleType.describe := rfl
  refine ⟨⟨hread.1, hdescribed, ?_⟩, ⟨ofDescription_shortDescription, hread.2.1, ?_⟩, ?_, ?_⟩
  · exact descriptions_stand_for_trees.1 describedType hread.1 _ hdescribed
  · exact fun hcanonical => hread.2.2.2 _ hcanonical ofDescription_shortDescription
  · exact (descriptions_stand_for_trees.2.2.1 describedType hread.1 _ [] [] [] "a").resolve_right
      fun hdeep => absurd hdeep.1 (by decide)
  · obtain ⟨node, hnode, hdescription, -⟩ :=
      descriptions_stand_for_trees.2.2.2 {} sampleDocuments _ hsample
    cases hnode
    exact ⟨hsample, hdescription⟩

/-- Nested objects around an integer, each with one member. -/
def objectChain : Nat → Json
  | 0 => .int 1
  | depth + 1 => .obj [("c", objectChain depth)]

/-- The type of nested objects. -/
def structChain : Nat → Node
  | 0 => .int
  | depth + 1 => .struct [("c", ⟨structChain depth, false⟩)]

theorem isFinished_structChain (depth : Nat) : (structChain depth).IsFinished := by
  induction depth with
  | zero => exact Node.isFinished_primitive .int
  | succ depth ih => exact Node.isFinished_struct_iff.mpr (by simpa using ih)

theorem describedDepth_structChain (depth : Nat) :
    (structChain depth).describedDepth = 3 * depth := by
  induction depth with
  | zero => rfl
  | succ depth ih =>
      rw [structChain, Node.describedDepth, Node.describedFieldsDepth, ih]
      simp [Node.describedFieldsDepth, Nat.mul_succ]

theorem infers_objectChain (depth : Nat) : Infers [objectChain depth] (structChain depth) := by
  induction depth with
  | zero =>
      apply Infers.primitive .int (by simp)
      simp [objectChain, Json.kind, Json.raw, Node.kind, Node.int]
  | succ depth ih =>
      have hnull : (objectChain depth).isNull = false := by cases depth <;> rfl
      have hpresent : Json.present? "c" (objectChain (depth + 1)) = some (objectChain depth) :=
        Json.present?_eq_some_iff.mpr ⟨rfl, hnull⟩
      apply Infers.struct (by simp) (by simp [objectChain, Json.kind, Json.raw, Node.kind])
      · rfl
      · intro name field hfield
        cases List.mem_singleton.mp hfield
        rw [Inference.presentUnder, List.filterMap_cons_some hpresent]
        exact ih
      · intro name field hfield
        cases List.mem_singleton.mp hfield
        simp [Json.lacks, hpresent]

theorem isDocument_objectChain [Room] {depth : Nat} (hpos : 0 < depth)
    (hroom : depth ≤ Room.classification) :
    IsDocument (objectChain depth) where
  container := by
    cases depth with
    | zero => exact absurd hpos (Nat.lt_irrefl 0)
    | succ depth => exact .inr rfl
  depth_le := by
    apply Nat.le_trans _ hroom
    clear hpos hroom
    induction depth with
    | zero => exact Nat.le_refl 0
    | succ depth ih => exact Json.obj_depth_le_succ_iff.mpr (by simpa using ih)
  finite := by
    clear hpos hroom
    induction depth with
    | zero => rfl
    | succ depth ih => exact Json.nonFinite_obj_eq_nil_iff.mpr (by simpa using ih)

/-- Not every finished tree is described: the type of deeply nested objects is not. -/
theorem describe?_structChain :
    (structChain 400).IsFinished ∧ (structChain 400).describe? = none ∧
      infer {} [objectChain 400] = .ok (structChain 400) ∧
      describe {} [objectChain 400] = .error .describeTooDeep := by
  have hdeep : ¬(structChain 400).describedDepth ≤ Room.description := by
    rw [describedDepth_structChain]
    decide
  have hinfer : infer {} [objectChain 400] = .ok (structChain 400) := by
    rw [infer, bind_eq_ok_iff]
    refine ⟨structChain 400, ?_, rfl⟩
    refine inferAll_eq_ok_iff_infers.mpr ⟨by simp, ?_, infers_objectChain 400⟩
    exact List.forall_mem_singleton.mpr (isDocument_objectChain (by decide) (by decide))
  refine ⟨isFinished_structChain 400, ?_, hinfer, ?_⟩
  · rw [Node.describe?, if_neg hdeep]
  · rw [describe_of_infer hinfer, if_neg hdeep]

end JsonShape

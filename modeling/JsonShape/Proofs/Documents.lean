import JsonShape.Documents
import JsonShape.Proofs.Files.Path
import JsonShape.Proofs.Go.Printer
import JsonShape.Proofs.Inference.Rules

/-!
# Documents by the set of their paths

A search may find its paths in any order and some of them several times.  Sorting
leaves only repeats of this; they repeat documents, and a document that came before
adds nothing to what is inferred: no key that was not seen, no item, no null.  So the
text that is generated, and the file that stops the reading, depend only on which
paths were found.
-/

set_option autoImplicit false

namespace JsonShape

open Inference

/-! ## Inference of repeated documents -/

namespace Inference

variable {values others : List Json}

theorem itemsOf_sameFirsts (h : SameFirsts values others) :
    SameFirsts (itemsOf values) (itemsOf others) :=
  h.flatMap Json.items

theorem presentUnder_sameFirsts (name : String) (h : SameFirsts values others) :
    SameFirsts (presentUnder name values) (presentUnder name others) :=
  h.filterMap (Json.present? name)

theorem keysOf_sameFirsts (h : SameFirsts values others) : keysOf values = keysOf others :=
  (h.flatMap fun value => value.members.map Prod.fst).eraseDups_eq

end Inference

/-- Values that came before change nothing about the type of the values. -/
theorem Infers.of_sameFirsts {values others : List Json} {type : Node} (h : Infers values type)
    (hsame : SameFirsts values others) : Infers others type := by
  induction h generalizing others with
  | none =>
      rw [hsame.eq_nil_iff.mp rfl]
      exact .none
  | primitive type hne hkinds =>
      exact .primitive type (mt hsame.eq_nil_iff.mpr hne) (hsame.forall_iff.mp hkinds)
  | numbers left right hleft hright hne hkinds =>
      exact .numbers left right ((hsame.mem_iff left).mp hleft) ((hsame.mem_iff right).mp hright)
        hne (hsame.forall_iff.mp hkinds)
  | mixed left right hleft hright hne hnumbers =>
      exact .mixed left right ((hsame.mem_iff left).mp hleft) ((hsame.mem_iff right).mp hright)
        hne hnumbers
  | nullItem hne hkinds hnull =>
      exact .nullItem (mt hsame.eq_nil_iff.mpr hne) (hsame.forall_iff.mp hkinds)
        (((itemsOf_sameFirsts hsame).mem_iff .null).mp hnull)
  | slice hne hkinds hnull _ ih =>
      have hitems := itemsOf_sameFirsts hsame
      exact .slice (mt hsame.eq_nil_iff.mpr hne) (hsame.forall_iff.mp hkinds)
        (mt (hitems.mem_iff .null).mpr hnull) (ih hitems)
  | struct hne hkinds hnames _ hoptional ih =>
      refine .struct (mt hsame.eq_nil_iff.mpr hne) (hsame.forall_iff.mp hkinds) ?_ ?_ ?_
      · rw [hnames, keysOf_sameFirsts hsame]
      · intro name field hfield
        exact ih name field hfield (presentUnder_sameFirsts name hsame)
      · intro name field hfield
        rw [hoptional name field hfield, hsame.any_eq]

theorem inferAll_of_sameFirsts [Room] {documents others : List Json} {type : Node}
    (hsame : SameFirsts documents others) (h : inferAll documents = .ok type) :
    inferAll others = .ok type := by
  obtain ⟨hne, hdocuments, hinfers⟩ := inferAll_eq_ok_iff_infers.mp h
  exact inferAll_eq_ok_iff_infers.mpr ⟨mt hsame.eq_nil_iff.mpr hne,
    hsame.forall_iff.mp hdocuments, hinfers.of_sameFirsts hsame⟩

/-- A document that came before leaves the generated text as it is. -/
theorem generate_of_sameFirsts [Room] {config : Config} {language : Language}
    {documents others : List Json}
    {text : String} (hsame : SameFirsts documents others)
    (h : generate config language documents = .ok text) :
    generate config language others = .ok text := by
  simp only [generate, infer, bind_eq_ok_iff] at h ⊢
  obtain ⟨filtered, ⟨type, htype, hfilter⟩, htext⟩ := h
  exact ⟨filtered, ⟨type, inferAll_of_sameFirsts hsame htype, hfilter⟩, htext⟩

/-- The pattern is not looked at once the documents are there. -/
theorem generate_glob [Room] (config : Config) (pattern : String) (language : Language)
    (documents : List Json) :
    generate { config with glob := pattern } language documents =
      generate config language documents := by
  cases language with
  | go => simp only [generate, infer, applyFilter, render, Go.sourceText, Go.typeText_glob]; rfl

/-! ## Loading -/

namespace Documents

variable {files : Files} {current : Place}

/-- Reads the document at a path. -/
def readAt [Room] (files : Files) (current : Place) (path : Path) : Except LoadError Json :=
  (readJson ((contentAt? files current path).getD [])).mapError (.unreadable path)

theorem documents_readAll [Room] (paths : List Path) :
    (readAll files current paths).documents = paths.mapM (readAt files current) := by
  induction paths with
  | nil => rfl
  | cons path rest ih =>
      rw [List.mapM_cons, ← ih, readAll, readAt]
      cases readJson ((contentAt? files current path).getD []) with
      | error error => rfl
      | ok document =>
          rw [Loading.documents, Loading.documents]
          cases (readAll files current rest).failure <;> rfl

theorem select_sameFirsts {matched others : List Path} (hproper : ∀ path ∈ matched, path.IsProper)
    (hsame : ∀ path, path ∈ matched ↔ path ∈ others) :
    SameFirsts (select files current matched) (select files current others) :=
  (Path.sameFirsts_sort hproper hsame).filter _

/-- The documents when a search has found some paths, or what stopped the reading. -/
def loadMatched [Room] (files : Files) (current : Place) (base : Path) (pattern : String)
    (matched : List Path) : Except LoadError (List Json) :=
  match select files current matched with
  | [] => .error (.noMatch pattern base)
  | paths => (readAll files current paths).documents

/-- Loading is to search and to load what was found. -/
theorem load_eq_loadMatched [Room] [FileSystem] {base : Path} {pattern : String}
    (hpattern : pattern.isEmpty = false)
    (hnul : listsNul base (Glob.ofString pattern) = false) :
    load files current base pattern =
      loadMatched files current base pattern
        ((Glob.ofString pattern).matchPaths files current base) := by
  rw [load, find, hpattern, loadMatched]
  simp only [hnul]
  cases select files current ((Glob.ofString pattern).matchPaths files current base) <;> rfl

/-- Which documents are loaded depends on the paths that were found only through their set,
but for repeats; nothing is loaded in both cases, the reading stops at the same document,
or the documents have the same first occurrences. -/
theorem loadMatched_cases [Room] {base : Path} (pattern other : String) {matched others : List Path}
    (hproper : ∀ path ∈ matched, path.IsProper)
    (hsame : ∀ path, path ∈ matched ↔ path ∈ others) :
    (loadMatched files current base pattern matched = .error (.noMatch pattern base) ∧
      loadMatched files current base other others = .error (.noMatch other base)) ∨
    SameFirsts.Outcomes (loadMatched files current base pattern matched)
      (loadMatched files current base other others) := by
  have hselect : SameFirsts (select files current matched) (select files current others) :=
    select_sameFirsts hproper hsame
  rw [loadMatched, loadMatched]
  cases hleft : select files current matched with
  | nil =>
      rw [hselect.eq_nil_iff.mp hleft]
      exact .inl ⟨rfl, rfl⟩
  | cons first rest =>
      cases hright : select files current others with
      | nil => simp [hselect.eq_nil_iff.mpr hright] at hleft
      | cons second remaining =>
          rw [hleft, hright] at hselect
          dsimp only
          rw [documents_readAll, documents_readAll]
          exact .inr (hselect.mapM (readAt files current))

/-- Two runs that differ in the pattern stop at the same document, if one of them stops at
a document, and generate the same text, if one of them generates one. -/
structure SameRuns [Room] (config : Config) (pattern other : String)
    (left right : Except LoadError (List Json)) : Prop where
  unreadable_iff : ∀ path error,
    left = .error (.unreadable path error) ↔ right = .error (.unreadable path error)
  generate_iff : ∀ language text,
    (∃ documents, left = .ok documents ∧
        generate { config with glob := pattern } language documents = .ok text) ↔
      ∃ documents, right = .ok documents ∧
        generate { config with glob := other } language documents = .ok text

theorem sameRuns_of_outcomes [Room] {config : Config} {pattern other : String}
    {left right : Except LoadError (List Json)} (h : SameFirsts.Outcomes left right) :
    SameRuns config pattern other left right := by
  cases h with
  | error error => exact ⟨fun _ _ => Iff.rfl, by simp⟩
  | ok h =>
      refine ⟨by simp, fun language text => ?_⟩
      simp only [Except.ok.injEq, exists_eq_left', generate_glob]
      exact ⟨generate_of_sameFirsts h, generate_of_sameFirsts h.symm⟩

theorem sameRuns_of_same_paths [Room] {config : Config} {base : Path} (pattern other : String)
    {matched others : List Path} (hproper : ∀ path ∈ matched, path.IsProper)
    (hsame : ∀ path, path ∈ matched ↔ path ∈ others) :
    SameRuns config pattern other (loadMatched files current base pattern matched)
      (loadMatched files current base other others) := by
  rcases loadMatched_cases pattern other hproper hsame with ⟨hleft, hright⟩ | h
  · rw [hleft, hright]
    exact ⟨by simp, by simp⟩
  · exact sameRuns_of_outcomes h

/-- The paths of what was matched in a base directory. -/
def joined (base : Path) (matched : List String) : List Path :=
  matched.map fun text => base.join (.ofString text)

theorem isProper_of_mem_joined {base : String} {matched : List String} :
    ∀ path ∈ joined (.ofString base) matched, path.IsProper := by
  intro path hpath
  obtain ⟨text, -, rfl⟩ := List.mem_map.mp hpath
  exact (Path.isProper_ofString base).join (Path.isProper_ofString text)

/-- Whatever a search gives, in any order and with any repeats, only the set of the paths
counts: two runs with the same paths are the same in what they stop at and what they
generate, and a run that searches for itself is one of them. -/
theorem same_runs_of_same_paths [Room] [FileSystem] (files : Files) (current : Place)
    (config : Config) (base pattern other : String) (matched : List String) :
    (∀ others : List String,
      (∀ path, path ∈ joined (.ofString base) matched ↔ path ∈ joined (.ofString base) others) →
        SameRuns config pattern other
          (loadMatched files current (.ofString base) pattern (joined (.ofString base) matched))
          (loadMatched files current (.ofString base) other (joined (.ofString base) others))) ∧
    (other.isEmpty = false → listsNul (.ofString base) (Glob.ofString other) = false →
      (∀ path, path ∈ joined (.ofString base) matched ↔
        path ∈ (Glob.ofString other).matchPaths files current (.ofString base)) →
        SameRuns config pattern other
          (loadMatched files current (.ofString base) pattern (joined (.ofString base) matched))
          (load files current (.ofString base) other)) := by
  constructor
  · intro others hsame
    exact sameRuns_of_same_paths pattern other isProper_of_mem_joined hsame
  · intro hother hnul hsame
    rw [load_eq_loadMatched hother hnul]
    exact sameRuns_of_same_paths pattern other isProper_of_mem_joined hsame

/-- Two documents that match `[ab]*`, and a file that does not. -/
def noteFiles : Files :=
  .ofEntries [(["a.json"], .file (Text.encodeUtf8 "\x7b\"id\": 1\x7d")),
    (["b.json"], .file (Text.encodeUtf8 "\x7b\"note\": null, \"id\": 2.5\x7d")),
    (["c.txt"], .file (Text.encodeUtf8 "\x7b"))]

def noteText : String :=
  "struct \x7b\n\tID\t*float64\t\x60json:\"id\"\x60\n\tNote\tjson.RawMessage\t\x60json:\"note\"\x60\n\x7d\n"

/-- The names of the documents, as they are sorted. -/
def notePaths : List Path := joined (.ofString "") ["a.json", "b.json"]

theorem select_notes : select noteFiles [] notePaths = notePaths := by
  have hsort : Path.sort notePaths = notePaths := List.mergeSort_of_pairwise (by decide +kernel)
  rw [select, hsort]
  decide +kernel

theorem generate_notes :
    ∃ documents, loadMatched noteFiles [] (.ofString "") "[ab]*" notePaths = .ok documents ∧
      generate { glob := "[ab]*" } .go documents = .ok noteText := by
  have hfailure : (readAll noteFiles [] notePaths).failure = none := by decide +kernel
  refine ⟨(readAll noteFiles [] notePaths).loaded.map Prod.snd, ?_, by decide +kernel⟩
  rw [loadMatched, select_notes]
  change Loading.documents _ = _
  rw [Loading.documents, hfailure]

theorem same_runs_of_same_paths_notes :
    (∃ documents,
      loadMatched noteFiles [] (.ofString "") "*.json"
          (joined (.ofString "") ["b.json", "./a.json", "b.json"]) = .ok documents ∧
        generate { glob := "*.json" } .go documents = .ok noteText) ∧
    ∃ documents, load noteFiles [] (.ofString "") "[ab]*" = .ok documents ∧
      generate { glob := "[ab]*" } .go documents = .ok noteText := by
  have hrepeated : ∀ path, path ∈ joined (.ofString "") ["a.json", "b.json"] ↔
      path ∈ joined (.ofString "") ["b.json", "./a.json", "b.json"] := by
    have hother : joined (.ofString "") ["b.json", "./a.json", "b.json"] =
        [⟨"", ["b.json"]⟩, ⟨"", ["a.json"]⟩, ⟨"", ["b.json"]⟩] := by decide +kernel
    have hpaths : notePaths = [⟨"", ["a.json"]⟩, ⟨"", ["b.json"]⟩] := by decide +kernel
    rw [hother, ← notePaths, hpaths]
    simp [or_comm, or_left_comm]
  have hsearched : joined (.ofString "") ["a.json", "b.json"] =
      (Glob.ofString "[ab]*").matchPaths noteFiles [] (.ofString "") := by decide +kernel
  have hsame := same_runs_of_same_paths noteFiles [] {} "" "[ab]*"
  constructor
  · exact (((hsame "*.json" _).1 _ hrepeated).generate_iff .go noteText).mp generate_notes
  · exact (((hsame "[ab]*" _).2 (by decide +kernel) (by decide +kernel)
      (by simp [hsearched])).generate_iff .go noteText).mp generate_notes

end Documents

end JsonShape

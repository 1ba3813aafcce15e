import JsonShape.Proofs.CommandLine.Arguments
import JsonShape.Proofs.CommandLine.Reporting
import JsonShape.Proofs.Files.Tree

/-!
# What a run changes

A run that fails leaves all files alone, at whatever stage it stops, and so does one that
prints its text.  Only a run that succeeds and was given an output changes a file, and
only that one, even if the output is the configuration or one of the documents.  The
file then holds what the run would have printed without an output.
-/

set_option autoImplicit false

namespace JsonShape.CommandLine

variable {files : Files} {current : Place} {arguments : List String} {options : Options}
  {positional : List String} {request : Request}

/-- The files that are left when a text is put at a place. -/
structure PutAt (files : Files) (place : Place) (text : String) (left : Files) : Prop where
  content : left.content? place = some (Text.encodeUtf8 text)
  others : ∀ other, other ≠ place → left.entry? other = files.entry? other

/-- The text is read back from the file. -/
theorem PutAt.decodeUtf8 {place : Place} {text : String} {left : Files}
    (h : PutAt files place text left) :
    ∃ content, left.content? place = some content ∧ Text.decodeUtf8 content = .ok text.toList :=
  ⟨_, h.content, Text.decodeUtf8_encodeUtf8 text⟩

/-- What is seen of a run that prints a text. -/
structure Prints (files : Files) (text : String) (seen : Outcome) : Prop where
  exit : seen.exit = 0
  fault : seen.fault = none
  stdout : seen.stdout = text
  files : seen.files = files

theorem outputPlace_eq_ok {path : String} {place : Place}
    (h : outputPlace files current path = .ok place) :
    place = placeOf current path ∧ files.isDirectory place = false := by
  rw [outputPlace, checkNul_bind] at h
  split at h
  · cases h
  · dsimp only at h
    split at h
    · cases h
    · rename_i hdirectory
      rw [pure_eq_ok_iff] at h
      rw [← h]
      exact ⟨rfl, by simpa using hdirectory⟩

/-- The place of the output that was asked for. -/
theorem outputPlace_of_requestOf {path : String}
    (h : requestOf files current options positional = .ok request)
    (houtput : options.output = some path) :
    ∃ place, outputPlace files current path = .ok place ∧ request.output = some place := by
  obtain ⟨-, _, -, -, hplace, -⟩ := requestOf_eq_ok_iff.mp h
  rw [houtput, Option.mapM_some] at hplace
  obtain ⟨place, hfound, hsome⟩ := fmap_eq_ok_iff.mp hplace
  exact ⟨place, hfound, hsome.symm⟩

theorem putAt_of_writeOutput [FileSystem] {place : Place} {text : String} {left : Files}
    (hplace : files.isDirectory place = false) (h : writeOutput files place text = .ok left) :
    PutAt files place text left := by
  have hroot := Files.ne_nil_of_not_isDirectory hplace
  rw [writeOutput] at h
  split at h
  · cases h
  · split at h
    · cases h
    · split at h
      · rw [← Except.ok.inj h]
        exact ⟨Files.content?_set_file files hroot _,
          fun other hother => by rw [Files.entry?_set files hroot, if_neg hother]⟩
      · cases h

/-! ## Runs that change nothing -/

theorem stopOutcome_files (logs : String) (stop : Stop) :
    (stopOutcome files logs stop).files = files := by
  cases stop <;> rfl

/-- Every failure comes before the output is opened. -/
theorem Course.files_eq_or_writes [Room] [FileSystem] {seen : Outcome}
    (h : Course files current arguments seen) :
    seen.files = files ∨
      seen.exit = 0 ∧ seen.fault = none ∧
        ∃ request place, readRequest files current arguments = .ok request ∧
          request.output = some place := by
  cases h with
  | refused _ => exact .inl (stopOutcome_files _ _)
  | unconfigured _ _ => exact .inl (stopOutcome_files _ _)
  | failed _ _ _ => exact .inl (stopOutcome_files _ _)
  | printed _ _ _ _ => exact .inl rfl
  | unwritten _ _ _ _ _ => exact .inl (stopOutcome_files _ _)
  | written hrequest _ _ hplace _ => exact .inr ⟨rfl, rfl, _, _, hrequest, hplace⟩

theorem Course.files_of_failure [Room] [FileSystem] {seen : Outcome}
    (h : Course files current arguments seen)
    (hfailure : seen.exit ≠ 0 ∨ seen.fault ≠ none) : seen.files = files := by
  rcases h.files_eq_or_writes with hfiles | ⟨hexit, hfault, -⟩
  · exact hfiles
  · simp [hexit, hfault] at hfailure

theorem Course.files_of_no_output [Room] [FileSystem] {seen : Outcome}
    (h : Course files current arguments seen)
    (harguments : readArguments {} [] arguments = .ok (options, positional))
    (houtput : options.output = none) : seen.files = files := by
  rcases h.files_eq_or_writes with hfiles | ⟨-, -, request, place, hrequest, hplace⟩
  · exact hfiles
  · rw [readRequest_of_arguments files current harguments] at hrequest
    obtain ⟨-, _, -, -, hnone, -⟩ := requestOf_eq_ok_iff.mp hrequest
    rw [houtput, Option.mapM_none, pure_eq_ok_iff, hplace] at hnone
    cases hnone

theorem run_of_help [Room] [FileSystem] (files : Files) (current : Place)
    (harguments : readArguments {} [] arguments = .ok (options, positional))
    (hhelp : options.help = true) :
    run files current arguments = stopOutcome files "" .help := by
  rw [run, readRequest_of_arguments files current harguments, requestOf, if_pos hhelp]

theorem exists_readArguments_of_exit [Room] [FileSystem]
    (h : (run files current arguments).exit = 0) :
    ∃ options positional, readArguments {} [] arguments = .ok (options, positional) := by
  cases harguments : readArguments {} [] arguments with
  | error error =>
      rw [run, readRequest_of_error files current harguments] at h
      cases h
  | ok understood => exact ⟨understood.1, understood.2, rfl⟩

/-! ## Runs that write -/

/-- The options with the output left out. -/
def Options.withoutOutput (options : Options) : Options := { options with output := none }

def Request.withoutOutput (request : Request) : Request :=
  { request with options := request.options.withoutOutput, output := none }

theorem requestOf_withoutOutput (h : requestOf files current options positional = .ok request) :
    requestOf files current options.withoutOutput positional = .ok request.withoutOutput := by
  obtain ⟨hhelp, path, hpositional, hoptions, -, hconfig⟩ := requestOf_eq_ok_iff.mp h
  exact requestOf_eq_ok_iff.mpr ⟨hhelp, path, hpositional,
    congrArg Options.withoutOutput hoptions, rfl, hconfig⟩

theorem readConfig_withoutOutput [Room] (files : Files) (request : Request) :
    readConfig files request.withoutOutput = readConfig files request := rfl

theorem work_withoutOutput [Room] [FileSystem] (files : Files) (current : Place) (config : Config)
    (options : Options) :
    work files current config options.withoutOutput = work files current config options := rfl

theorem exit_of_stoppedBy {faults : Fault → Prop} {stop : Stop} (logs : String)
    (h : StoppedBy faults stop) : (stopOutcome files logs stop).exit = 1 := by
  cases h <;> rfl

/-- The stages of a run that ends well and was given an output. -/
theorem Course.written_of_output [Room] [FileSystem] {seen : Outcome} {path : String}
    (h : Course files current arguments seen)
    (harguments : readArguments {} [] arguments = .ok (options, positional))
    (hhelp : options.help = false) (houtput : options.output = some path)
    (hexit : seen.exit = 0) :
    ∃ request config logs text,
      requestOf files current options positional = .ok request ∧
        readConfig files request = .ok config ∧
        work files current config request.options = (logs, .ok text) ∧
        PutAt files (placeOf current path) text seen.files := by
  have hread := readRequest_of_arguments files current harguments
  cases h with
  | refused hrequest =>
      rw [hread] at hrequest
      rcases requestOf_error_cases hrequest with ⟨hasked, _⟩ | ⟨error, rfl⟩ | ⟨-, -, rfl⟩
      · rw [hhelp] at hasked
        cases hasked
      · cases hexit
      · cases hexit
  | unconfigured _ h =>
      rw [exit_of_stoppedBy _ (stoppedBy_readConfig h)] at hexit
      cases hexit
  | failed _ _ h =>
      rw [exit_of_stoppedBy _ (stoppedBy_work h)] at hexit
      cases hexit
  | unwritten _ _ _ _ h =>
      rw [exit_of_stoppedBy _ (stoppedBy_writeOutput h)] at hexit
      cases hexit
  | printed hrequest _ _ hnone =>
      rw [hread] at hrequest
      obtain ⟨place, -, hsome⟩ := outputPlace_of_requestOf hrequest houtput
      rw [hnone] at hsome
      cases hsome
  | @written request config logs text place left hrequest hconfig hwork hplace hwrite =>
      rw [hread] at hrequest
      obtain ⟨found, hfound, hsome⟩ := outputPlace_of_requestOf hrequest houtput
      rw [hplace, Option.some.injEq] at hsome
      subst hsome
      obtain ⟨rfl, hdirectory⟩ := outputPlace_eq_ok hfound
      exact ⟨request, config, logs, text, hrequest, hconfig, hwork,
        putAt_of_writeOutput hdirectory hwrite⟩

/-- The stages of a run without an output are those of the run with it. -/
theorem prints_of_stages [Room] [FileSystem] {config : Config} {logs : List LogLine} {text : String}
    {others : List String}
    (hothers : readArguments {} [] others = .ok (options.withoutOutput, positional))
    (hrequest : requestOf files current options positional = .ok request)
    (hconfig : readConfig files request = .ok config)
    (hwork : work files current config request.options = (logs, .ok text)) :
    Prints files text (run files current others) := by
  have hasked : readRequest files current others = .ok request.withoutOutput := by
    rw [readRequest_of_arguments files current hothers, requestOf_withoutOutput hrequest]
  have hcourse := Course.printed hasked ((readConfig_withoutOutput files request).trans hconfig)
    ((work_withoutOutput files current config request.options).trans hwork) rfl
  rw [← hcourse.eq_run]
  exact ⟨rfl, rfl, rfl, rfl⟩

/-- A run touches only its output, and only when it succeeds: then the output holds what
every run that is asked the same, but for the output, prints. -/
theorem run_touches_only_output [Room] [FileSystem] (files : Files) (current : Place)
    (arguments : List String) :
    ((run files current arguments).exit ≠ 0 ∨ (run files current arguments).fault ≠ none →
        (run files current arguments).files = files) ∧
      ((run files current arguments).exit = 0 →
        ∃ options positional, readArguments {} [] arguments = .ok (options, positional) ∧
          (options.help = true →
            "--help" ∈ arguments ∧ (run files current arguments).files = files) ∧
          (options.output = none → (run files current arguments).files = files) ∧
          (options.help = false → ∀ path, options.output = some path → ∃ text,
            PutAt files (placeOf current path) text (run files current arguments).files ∧
              (∃ others, readArguments {} [] others = .ok (options.withoutOutput, positional)) ∧
              ∀ others, readArguments {} [] others = .ok (options.withoutOutput, positional) →
                Prints files text (run files current others))) := by
  have hcourse := course_run files current arguments
  refine ⟨hcourse.files_of_failure, fun hexit => ?_⟩
  obtain ⟨options, positional, harguments⟩ := exists_readArguments_of_exit hexit
  refine ⟨options, positional, harguments, fun hhelp => ?_,
    hcourse.files_of_no_output harguments, fun hhelp path houtput => ?_⟩
  · refine ⟨(help_mem_of_readArguments harguments hhelp).resolve_left Bool.false_ne_true, ?_⟩
    rw [run_of_help files current harguments hhelp, stopOutcome_files]
  · obtain ⟨request, config, logs, text, hrequest, hconfig, hwork, hput⟩ :=
      hcourse.written_of_output harguments hhelp houtput hexit
    exact ⟨text, hput, ⟨_, readArguments_writeArguments options.withoutOutput positional⟩,
      fun others hothers => prints_of_stages hothers hrequest hconfig hwork⟩

/-- A configuration that is to be replaced by the type of one document. -/
def replacedFiles : Files :=
  .ofEntries [(["c.json"], .file (Text.encodeUtf8 "\x7b\"glob\": \"d.json\"\x7d")),
    (["d.json"], .file (Text.encodeUtf8 "[1, null]"))]

theorem run_touches_only_output_replacing :
    ((run replacedFiles [] ["-o", "c.json", "x.json"]).exit ≠ 0 ∧
      (run replacedFiles [] ["-o", "c.json", "x.json"]).files = replacedFiles) ∧
    (run replacedFiles [] ["-oc.json", "c.json"]).exit = 0 ∧
      ∃ text,
        PutAt replacedFiles ["c.json"] text (run replacedFiles [] ["-oc.json", "c.json"]).files ∧
          Prints replacedFiles text (run replacedFiles [] ["c.json"]) := by
  have hfails : (run replacedFiles [] ["-o", "c.json", "x.json"]).exit ≠ 0 := by decide +kernel
  have hexit : (run replacedFiles [] ["-oc.json", "c.json"]).exit = 0 := by decide +kernel
  refine ⟨⟨hfails, (run_touches_only_output _ _ _).1 (.inl hfails)⟩, hexit, ?_⟩
  obtain ⟨options, positional, harguments, -, -, hwritten⟩ :=
    (run_touches_only_output _ _ _).2 hexit
  have hread : readArguments {} [] ["-oc.json", "c.json"] =
      .ok ({ output := some "c.json" }, ["c.json"]) := by decide +kernel
  rw [hread] at harguments
  obtain ⟨rfl, rfl⟩ := Prod.mk.inj (Except.ok.inj harguments)
  obtain ⟨text, hput, -, hprints⟩ := hwritten rfl "c.json" rfl
  exact ⟨text, hput, hprints ["c.json"] (by decide +kernel)⟩

end JsonShape.CommandLine

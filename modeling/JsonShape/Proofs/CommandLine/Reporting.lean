import JsonShape.Proofs.CommandLine.Request
import JsonShape.Proofs.Documents
import JsonShape.Proofs.Json.Contents
import JsonShape.Proofs.Shape

/-!
# What a run reports

Every failure of the inference, the selection and the writing of source text is reported.
What is not reported are failures around them: paths with NUL characters, contents that
are no text, nest beyond the room of the decoder or hold a long integer, searches and
descriptions for which there is no room, and outputs that cannot be put where they are
asked for.

The files that are seen are taken to stay readable during a run, and what is written to
an opened file or a stream to arrive there.
-/

set_option autoImplicit false

namespace JsonShape.CommandLine

variable {files : Files} {current : Place} {arguments : List String} {options : Options}
  {positional : List String} {request : Request} {config : Config} {fault : Fault}

/-! ## Stages that stop -/

/-- What stops a stage after the arguments: a failure that is reported, or a fault. -/
inductive StoppedBy (faults : Fault → Prop) : Stop → Prop
  | failure (failure : Failure) : StoppedBy faults (.failure failure)
  | fault {fault : Fault} (h : faults fault) : StoppedBy faults (.fault fault)

theorem faults_of_stoppedBy {faults : Fault → Prop} (h : StoppedBy faults (.fault fault)) :
    faults fault := by
  cases h with
  | fault h => exact h

/-- The contents that the decoder gives up on, whatever their form. -/
inductive GivenUp [Room] (content : List UInt8) : Crash → Prop
  | tooDeep {text : List Char} (htext : IsTextOf content text)
      (h : Json.NestsBeyond Room.text text) : GivenUp content .tooDeep
  | longInteger {text : List Char} {digits : Nat} (htext : IsTextOf content text)
      (h : Json.HasLongInteger Room.text text digits) : GivenUp content (.longInteger digits)

theorem givenUp_tooDeep [Room] {content : List UInt8}
    (h : readJson content = .error (.json .tooDeep)) : GivenUp content .tooDeep := by
  obtain ⟨text, htext, hnests⟩ := readJson_eq_tooDeep_iff.mp h
  exact .tooDeep htext hnests

theorem givenUp_longInteger [Room] {content : List UInt8} {digits : Nat}
    (h : readJson content = .error (.json (.longInteger digits))) :
    GivenUp content (.longInteger digits) := by
  obtain ⟨text, htext, hlong⟩ := readJson_eq_longInteger_iff.mp h
  exact .longInteger htext hlong

/-- A content that is given up ends the run, whichever file it is of. -/
theorem GivenUp.stops [Room] {content : List UInt8} {crash : Crash} (h : GivenUp content crash)
    (path : Path) :
    ∃ cause, readJson content = .error cause ∧
      stopOfConfig path cause = .fault (.crash crash) ∧
        stopOfLoad (.unreadable path cause) = .fault (.crash crash) := by
  cases h with
  | tooDeep htext h => exact ⟨_, readJson_eq_tooDeep_iff.mpr ⟨_, htext, h⟩, rfl, rfl⟩
  | longInteger htext h => exact ⟨_, readJson_eq_longInteger_iff.mpr ⟨_, htext, h⟩, rfl, rfl⟩

/-! ## The configuration -/

/-- The configurations that are not read, and not reported either. -/
inductive UnreadableConfig [Room] (content : List UInt8) : Fault → Prop
  | encoding {error : Text.Utf8Error} (hcontent : ∀ text, ¬IsTextOf content text)
      (h : Text.decodeUtf8 content = .error error) :
      UnreadableConfig content (.crash (.encoding error))
  | givenUp {crash : Crash} (h : GivenUp content crash) : UnreadableConfig content (.crash crash)

theorem stoppedBy_stopOfConfig [Room] {content : List UInt8} {error : ReadError} (path : Path)
    (h : readJson content = .error error) :
    StoppedBy (UnreadableConfig content) (stopOfConfig path error) := by
  cases error with
  | encoding error =>
      obtain ⟨hcontent, herror⟩ := readJson_eq_encoding_iff.mp h
      exact .fault (.encoding hcontent herror)
  | json error =>
      cases error with
      | malformed problem place => exact .failure _
      | tooDeep => exact .fault (.givenUp (givenUp_tooDeep h))
      | longInteger digits => exact .fault (.givenUp (givenUp_longInteger h))

theorem stoppedBy_readConfig [Room] {stop : Stop} (h : readConfig files request = .error stop) :
    StoppedBy (UnreadableConfig ((files.content? request.config).getD [])) stop := by
  rw [readConfig, bind_eq_error_iff] at h
  cases h with
  | inl hread =>
      obtain ⟨cause, hcause, rfl⟩ := mapError_eq_error_iff.mp hread
      exact stoppedBy_stopOfConfig _ hcause
  | inr h =>
      obtain ⟨json, -, h⟩ := h
      rw [bind_eq_error_iff] at h
      rcases h with hconfig | ⟨_, -, hpure⟩
      · obtain ⟨cause, -, rfl⟩ := mapError_eq_error_iff.mp hconfig
        exact .failure _
      · cases hpure

theorem readConfig_of_unreadable [Room]
    (h : UnreadableConfig ((files.content? request.config).getD []) fault) :
    readConfig files request = .error (.fault fault) := by
  rw [readConfig]
  cases h with
  | encoding hcontent h =>
      rw [readJson_eq_encoding_iff.mpr ⟨hcontent, h⟩]
      rfl
  | givenUp h =>
      obtain ⟨cause, hcause, hstop, -⟩ := h.stops (absolutePath request.config)
      simp only [hcause, Except.mapError, hstop, bind, Except.bind]

/-! ## The documents -/

/-- The octets of the file that a path leads to. -/
def contentAt (files : Files) (current : Place) (path : Path) : List UInt8 :=
  (Documents.contentAt? files current path).getD []

/-- The work on documents that is not finished, and not reported either. -/
inductive Unfinished [Room] [FileSystem] (files : Files) (current : Place) (config : Config)
    (options : Options) : Fault → Prop
  | farSearch (h : Room.search < searchExtent files current config.glob) :
      Unfinished files current config options (.crash .tooDeep)
  | nulInDirectory (hroom : searchExtent files current config.glob ≤ Room.search)
      (hpattern : config.glob.isEmpty = false)
      (h : Documents.listsNul (absolutePath current) (Glob.ofString config.glob) = true) :
      Unfinished files current config options (.crash .nulInDirectory)
  | document {before after : List Path} {path : Path} {crash : Crash}
      (hpaths : search files current config.glob = .ok (before ++ path :: after))
      (hbefore : ∀ earlier ∈ before, ∃ document,
        readJson (contentAt files current earlier) = .ok document)
      (h : GivenUp (contentAt files current path) crash) :
      Unfinished files current config options (.crash crash)
  | printing {paths : List Path} {documents : List Json} {description : Json}
      (hpaths : search files current config.glob = .ok paths)
      (hdocuments : List.Forall₂ (fun path document =>
        readJson (contentAt files current path) = .ok document) paths documents)
      (hdump : options.dumpIr = true) (hdescription : describe config documents = .ok description)
      (h : Room.printing < description.depth) :
      Unfinished files current config options (.crash .tooDeep)

theorem find_eq_ok [FileSystem] {base : Path} {pattern : String} {paths : List Path}
    (h : Documents.find files current base pattern = .ok paths) : paths ≠ [] := by
  rw [Documents.find] at h
  split at h
  · cases h
  · split at h
    · cases h
    · split at h
      · cases h
      · rename_i hpaths
        rw [← Except.ok.inj h]
        exact hpaths

theorem find_error [FileSystem] {base : Path} {pattern : String} {error : LoadError}
    (h : Documents.find files current base pattern = .error error) :
    (pattern.isEmpty = false ∧ Documents.listsNul base (Glob.ofString pattern) = true ∧
      error = .nulInDirectory) ∨ ∃ failure, stopOfLoad error = .failure failure := by
  rw [Documents.find] at h
  split at h
  · rw [← Except.error.inj h]
    exact .inr ⟨_, rfl⟩
  · rename_i hpattern
    split at h
    · rename_i hnul
      exact .inl ⟨by simpa using hpattern, hnul, (Except.error.inj h).symm⟩
    · split at h
      · rw [← Except.error.inj h]
        exact .inr ⟨_, rfl⟩
      · cases h

theorem search_eq_ok [Room] [FileSystem] {pattern : String} {paths : List Path}
    (h : search files current pattern = .ok paths) : paths ≠ [] := by
  rw [search] at h
  split at h
  · cases h
  · exact find_eq_ok (mapError_eq_ok_iff.mp h)

theorem stoppedBy_search [Room] [FileSystem] {stop : Stop}
    (h : search files current config.glob = .error stop) :
    StoppedBy (Unfinished files current config options) stop := by
  rw [search] at h
  split at h
  · rename_i hextent
    cases h
    exact .fault (.farSearch hextent)
  · rename_i hextent
    obtain ⟨error, hfind, rfl⟩ := mapError_eq_error_iff.mp h
    rcases find_error hfind with ⟨hpattern, hnul, rfl⟩ | ⟨failure, hfailure⟩
    · exact .fault (.nulInDirectory (Nat.le_of_not_lt hextent) hpattern hnul)
    · rw [hfailure]
      exact .failure failure

/-- Reading the documents is a traversal of their paths. -/
theorem documents_eq_ok_iff [Room] {paths : List Path} {documents : List Json} :
    (Documents.readAll files current paths).documents = .ok documents ↔
      List.Forall₂ (fun path document =>
        readJson (contentAt files current path) = .ok document) paths documents := by
  simp only [Documents.documents_readAll, mapM_eq_ok_iff, Documents.readAt, mapError_eq_ok_iff,
    contentAt]

theorem documents_eq_error_iff [Room] {paths : List Path} {error : LoadError} :
    (Documents.readAll files current paths).documents = .error error ↔
      ∃ before path after cause, paths = before ++ path :: after ∧
        (∀ earlier ∈ before, ∃ document,
          readJson (contentAt files current earlier) = .ok document) ∧
        readJson (contentAt files current path) = .error cause ∧
        .unreadable path cause = error := by
  simp only [Documents.documents_readAll, mapM_eq_error_iff, Documents.readAt,
    mapError_eq_ok_iff, mapError_eq_error_iff, contentAt]
  grind

theorem stoppedBy_documents [Room] [FileSystem] {paths : List Path} {error : LoadError}
    (hpaths : search files current config.glob = .ok paths)
    (h : (Documents.readAll files current paths).documents = .error error) :
    StoppedBy (Unfinished files current config options) (stopOfLoad error) := by
  obtain ⟨before, path, after, cause, rfl, hbefore, hcause, rfl⟩ := documents_eq_error_iff.mp h
  cases cause with
  | encoding error => exact .failure _
  | json error =>
      cases error with
      | malformed problem place => exact .failure _
      | tooDeep => exact .fault (.document hpaths hbefore (givenUp_tooDeep hcause))
      | longInteger digits => exact .fault (.document hpaths hbefore (givenUp_longInteger hcause))

/-! ## The text for the documents -/

theorem stopOfShape_of_inferenceFailure [Room] {documents : List Json} {error : ShapeError}
    (hdocuments : documents ≠ []) (h : InferenceFailure config documents error) :
    stopOfShape error = .failure (.shape error) := by
  cases h with
  | documents h =>
      cases h with
      | noDocuments hnil => exact absurd hnil hdocuments
      | nonFinite _ _ => rfl
      | tooDeep _ _ => rfl
      | notContainer _ _ => rfl
  | filter _ _ => rfl

theorem stopOfShape_of_describe [Room] {documents : List Json} {error : ShapeError}
    (hdocuments : documents ≠ []) (h : describe config documents = .error error) :
    stopOfShape error = .failure (.shape error) := by
  cases hinfer : infer config documents with
  | error cause =>
      rw [describe, hinfer] at h
      cases h
      exact stopOfShape_of_inferenceFailure hdocuments (failure_of_infer hinfer)
  | ok node =>
      rw [describe_of_infer hinfer] at h
      split at h
      · cases h
      · cases h
        rfl

theorem stopOfShape_of_generate [Room] {documents : List Json} {error : ShapeError}
    (hdocuments : documents ≠ []) (h : generate config .go documents = .error error) :
    stopOfShape error = .failure (.shape error) := by
  cases hinfer : infer config documents with
  | error cause =>
      rw [generate, hinfer] at h
      cases h
      exact stopOfShape_of_inferenceFailure hdocuments (failure_of_infer hinfer)
  | ok node =>
      obtain ⟨text, -, htext⟩ := generate_of_infer hinfer
      rw [htext] at h
      split at h
      · cases h
        rfl
      · cases h

theorem stoppedBy_outputText [Room] [FileSystem] {paths : List Path} {documents : List Json}
    {stop : Stop}
    (hpaths : search files current config.glob = .ok paths)
    (hread : (Documents.readAll files current paths).documents = .ok documents)
    (h : outputText config options documents = .error stop) :
    StoppedBy (Unfinished files current config options) stop := by
  rw [documents_eq_ok_iff] at hread
  have hdocuments : documents ≠ [] := by
    rintro rfl
    cases hread
    exact search_eq_ok hpaths rfl
  rw [outputText] at h
  split at h
  · rename_i hdump
    cases hdescription : describe config documents with
    | ok description =>
        simp only [hdescription] at h
        split at h
        · cases h
          exact .fault (.printing hpaths hread hdump hdescription ‹_›)
        · cases h
    | error error =>
        simp only [hdescription] at h
        cases h
        rw [stopOfShape_of_describe hdocuments hdescription]
        exact .failure _
  · obtain ⟨error, hgenerate, rfl⟩ := mapError_eq_error_iff.mp h
    rw [stopOfShape_of_generate hdocuments hgenerate]
    exact .failure _

theorem stoppedBy_work [Room] [FileSystem] {logs : List LogLine} {stop : Stop}
    (h : work files current config options = (logs, .error stop)) :
    StoppedBy (Unfinished files current config options) stop := by
  rw [work.eq_def] at h
  cases hpaths : search files current config.glob with
  | error cause =>
      simp only [hpaths, Prod.mk.injEq, Except.error.injEq] at h
      rw [← h.2]
      exact stoppedBy_search hpaths
  | ok paths =>
      simp only [hpaths] at h
      cases hdocuments : (Documents.readAll files current paths).documents with
      | error error =>
          simp only [hdocuments, Prod.mk.injEq, Except.error.injEq] at h
          rw [← h.2]
          exact stoppedBy_documents hpaths hdocuments
      | ok documents =>
          simp only [hdocuments, Prod.mk.injEq] at h
          exact stoppedBy_outputText hpaths hdocuments h.2

theorem search_of_farSearch [Room] [FileSystem] {pattern : String}
    (h : Room.search < searchExtent files current pattern) :
    search files current pattern = .error (.fault (.crash .tooDeep)) := by
  rw [search, if_pos h]

theorem search_of_nulInDirectory [Room] [FileSystem] {pattern : String}
    (hroom : searchExtent files current pattern ≤ Room.search)
    (hpattern : pattern.isEmpty = false)
    (h : Documents.listsNul (absolutePath current) (Glob.ofString pattern) = true) :
    search files current pattern = .error (.fault (.crash .nulInDirectory)) := by
  rw [search, if_neg (Nat.not_lt_of_le hroom)]
  simp [Documents.find, hpattern, h, Except.mapError, stopOfLoad]

theorem work_of_unfinished [Room] [FileSystem] (h : Unfinished files current config options fault) :
    ∃ logs, work files current config options = (logs, .error (.fault fault)) := by
  rw [work.eq_def]
  cases h with
  | farSearch h =>
      rw [search_of_farSearch h]
      exact ⟨_, rfl⟩
  | nulInDirectory hroom hpattern h =>
      rw [search_of_nulInDirectory hroom hpattern h]
      exact ⟨_, rfl⟩
  | @document before after path _ hpaths hbefore h =>
      obtain ⟨cause, hcause, -, hstop⟩ := h.stops path
      have hdocuments := documents_eq_error_iff.mpr
        ⟨before, path, after, cause, rfl, hbefore, hcause, rfl⟩
      simp only [hpaths, hdocuments, hstop]
      exact ⟨_, rfl⟩
  | printing hpaths hdocuments hdump hdescription h =>
      simp only [hpaths, documents_eq_ok_iff.mpr hdocuments, outputText, hdump, hdescription, h,
        if_true]
      exact ⟨_, rfl⟩

/-! ## The output -/

/-- The places where no file can be put. -/
inductive Unwritable [FileSystem] (files : Files) (place : Place) : Fault → Prop
  | refused (h : FileSystem.opens place = false) :
      Unwritable files place (.refused (absolutePath place))
  | notDirectory (hopens : FileSystem.opens place = true) (h : isObstructed files place = true) :
      Unwritable files place (.crash (.notDirectory (absolutePath place)))
  | directoryMissing (hopens : FileSystem.opens place = true)
      (hway : isObstructed files place = false)
      (h : files.isDirectory place.dropLast = false) :
      Unwritable files place (.crash (.directoryMissing (absolutePath place)))

theorem stoppedBy_writeOutput [FileSystem] {place : Place} {text : String} {stop : Stop}
    (h : writeOutput files place text = .error stop) :
    StoppedBy (Unwritable files place) stop := by
  rw [writeOutput] at h
  split at h
  · rename_i hopens
    cases h
    exact .fault (.refused (by simpa using hopens))
  · rename_i hopens
    rw [Bool.not_eq_true', Bool.not_eq_false] at hopens
    split at h
    · rename_i hway
      cases h
      exact .fault (.notDirectory hopens hway)
    · rename_i hway
      split at h
      · cases h
      · rename_i hdirectory
        cases h
        exact .fault (.directoryMissing hopens (by simpa using hway) (by simpa using hdirectory))

theorem writeOutput_of_unwritable [FileSystem] {place : Place} (text : String)
    (h : Unwritable files place fault) :
    writeOutput files place text = .error (.fault fault) := by
  rw [writeOutput]
  cases h with
  | refused h => simp [h]
  | notDirectory hopens h => simp [hopens, h]
  | directoryMissing hopens hway h => simp [hopens, hway, h]

/-! ## What is not reported -/

/-- The failures of a run that end it without a report, stage by stage. -/
inductive Unreported [Room] [FileSystem] (files : Files) (current : Place)
    (arguments : List String) : Fault → Prop
  | arguments {options : Options} {positional : List String}
      (harguments : readArguments {} [] arguments = .ok (options, positional))
      (hhelp : options.help = false) (h : NamesNul files current options positional) :
      Unreported files current arguments (.crash .nulInPath)
  | config {request : Request} {fault : Fault}
      (hrequest : readRequest files current arguments = .ok request)
      (h : UnreadableConfig ((files.content? request.config).getD []) fault) :
      Unreported files current arguments fault
  | work {request : Request} {config : Config} {fault : Fault}
      (hrequest : readRequest files current arguments = .ok request)
      (hconfig : readConfig files request = .ok config)
      (h : Unfinished files current config request.options fault) :
      Unreported files current arguments fault
  | output {request : Request} {config : Config} {logs : List LogLine} {text : String}
      {place : Place} {fault : Fault}
      (hrequest : readRequest files current arguments = .ok request)
      (hconfig : readConfig files request = .ok config)
      (hwork : work files current config request.options = (logs, .ok text))
      (hplace : request.output = some place) (h : Unwritable files place fault) :
      Unreported files current arguments fault

theorem readRequest_error_cases [Room] [FileSystem] {stop : Stop}
    (h : readRequest files current arguments = .error stop) :
    stop = .help ∨ (∃ error, stop = .arguments error) ∨
      ∃ fault, Unreported files current arguments fault ∧ stop = .fault fault := by
  cases harguments : readArguments {} [] arguments with
  | error error =>
      rw [readRequest_of_error files current harguments] at h
      exact .inr (.inl ⟨error, (Except.error.inj h).symm⟩)
  | ok understood =>
      rw [readRequest_of_arguments files current harguments] at h
      rcases requestOf_error_cases h with ⟨-, hhelp⟩ | hargument | ⟨hhelp, hnul, hstop⟩
      · exact .inl hhelp
      · exact .inr (.inl hargument)
      · exact .inr (.inr ⟨_, .arguments harguments hhelp hnul, hstop⟩)

theorem stop_of_fault {stop : Stop} {logs : String}
    (h : (stopOutcome files logs stop).fault = some fault) : stop = .fault fault := by
  cases stop with
  | fault other =>
      rw [stopOutcome, Option.some.injEq] at h
      rw [h]
  | _ => cases h

theorem Course.unreported [Room] [FileSystem] {seen : Outcome}
    (h : Course files current arguments seen) (hfault : seen.fault = some fault) :
    Unreported files current arguments fault := by
  cases h with
  | refused hrequest =>
      rw [stop_of_fault hfault] at hrequest
      rcases readRequest_error_cases hrequest with hhelp | ⟨error, hargument⟩ | ⟨other, h, hother⟩
      · cases hhelp
      · cases hargument
      · cases hother
        exact h
  | unconfigured hrequest h =>
      rw [stop_of_fault hfault] at h
      exact .config hrequest (faults_of_stoppedBy (stoppedBy_readConfig h))
  | failed hrequest hconfig h =>
      rw [stop_of_fault hfault] at h
      exact .work hrequest hconfig (faults_of_stoppedBy (stoppedBy_work h))
  | unwritten hrequest hconfig hwork hplace h =>
      rw [stop_of_fault hfault] at h
      exact .output hrequest hconfig hwork hplace (faults_of_stoppedBy (stoppedBy_writeOutput h))
  | printed _ _ _ _ => cases hfault
  | written _ _ _ _ _ => cases hfault

/-- A run has exactly the faults that are not reported. -/
theorem fault_run_iff [Room] [FileSystem] :
    (run files current arguments).fault = some fault ↔
      Unreported files current arguments fault := by
  constructor
  · exact (course_run files current arguments).unreported
  · intro h
    cases h with
    | arguments harguments hhelp h =>
        have hrequest : readRequest files current arguments =
            .error (.fault (.crash .nulInPath)) := by
          rw [readRequest_of_arguments files current harguments, requestOf_of_namesNul hhelp h]
        rw [← (Course.refused hrequest).eq_run]
        rfl
    | config hrequest h =>
        rw [← (Course.unconfigured hrequest (readConfig_of_unreadable h)).eq_run]
        rfl
    | work hrequest hconfig h =>
        obtain ⟨logs, hwork⟩ := work_of_unfinished h
        rw [← (Course.failed hrequest hconfig hwork).eq_run]
        rfl
    | output hrequest hconfig hwork hplace h =>
        rw [← (Course.unwritten hrequest hconfig hwork hplace
          (writeOutput_of_unwritable _ h)).eq_run]
        rfl

/-! ## What is reported -/

/-- The ways in which a run ends that says what became of it. -/
inductive Reported (seen : Outcome) : Prop
  | success (hexit : seen.exit = 0)
  | usage {error : ArgumentError} (hexit : seen.exit = 2) (hstdout : seen.stdout = "")
      (hstderr : seen.stderr = usageError error)
  | failure {logs : String} {failure : Failure} (hexit : seen.exit = 1)
      (hstdout : seen.stdout = "") (hstderr : seen.stderr = logs ++ errorText failure.message)

theorem reported_of_stoppedBy {faults : Fault → Prop} {stop : Stop} {logs : String}
    (hfault : (stopOutcome files logs stop).fault = none) (h : StoppedBy faults stop) :
    Reported (stopOutcome files logs stop) := by
  cases h with
  | failure failure => exact .failure rfl rfl rfl
  | fault h => cases hfault

theorem Course.reported [Room] [FileSystem] {seen : Outcome}
    (h : Course files current arguments seen) (hfault : seen.fault = none) : Reported seen := by
  cases h with
  | refused hrequest =>
      rcases readRequest_error_cases hrequest with rfl | ⟨error, rfl⟩ | ⟨fault, -, rfl⟩
      · exact .success rfl
      · exact .usage rfl rfl String.empty_append
      · cases hfault
  | unconfigured _ h => exact reported_of_stoppedBy hfault (stoppedBy_readConfig h)
  | failed _ _ h => exact reported_of_stoppedBy hfault (stoppedBy_work h)
  | unwritten _ _ _ _ h => exact reported_of_stoppedBy hfault (stoppedBy_writeOutput h)
  | printed _ _ _ _ => exact .success rfl
  | written _ _ _ _ _ => exact .success rfl

/-- A configuration for one document, which has a number that is not finite. -/
def infiniteFiles : WholeFiles where
  toFiles := .ofEntries [(["c.json"], .file (Text.encodeUtf8 "\x7b\"glob\": \"d.json\"\x7d")),
    (["d.json"], .file (Text.encodeUtf8 "[1e400]"))]
  whole := by decide +kernel

/-- A configuration that is not UTF-8. -/
def undecodableFiles : Files := .ofEntries [(["c.json"], .file [0xff, 0x7b, 0x7d])]

theorem errorText_ne_empty (message : String) : errorText message ≠ "" := by
  simp [errorText]

end JsonShape.CommandLine

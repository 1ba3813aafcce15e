import JsonShape.CommandLine.Run
import JsonShape.Proofs.Traversal

/-!
# The course of a run

A run goes through four stages: it reads its arguments, then the configuration, makes
the text and puts it out.  It ends at the first stage that stops it.  Each course names
what the earlier stages gave, and the run of given arguments has exactly one of them.
-/

set_option autoImplicit false

namespace JsonShape.CommandLine

/-- What was logged by the end of a run, if it was asked to. -/
def logText (request : Request) (logs : List LogLine) : String :=
  if request.options.verbose then String.join (logs.map LogLine.text) else ""

/-- How far a run gets, and what is seen of it. -/
inductive Course [Room] [FileSystem] (files : Files) (current : Place)
    (arguments : List String) : Outcome → Prop
  /-- The arguments ask for nothing. -/
  | refused {stop : Stop} (h : readRequest files current arguments = .error stop) :
      Course files current arguments (stopOutcome files "" stop)
  | unconfigured {request : Request} {stop : Stop}
      (hrequest : readRequest files current arguments = .ok request)
      (h : readConfig files request = .error stop) :
      Course files current arguments (stopOutcome files (logText request []) stop)
  | failed {request : Request} {config : Config} {logs : List LogLine} {stop : Stop}
      (hrequest : readRequest files current arguments = .ok request)
      (hconfig : readConfig files request = .ok config)
      (h : work files current config request.options = (logs, .error stop)) :
      Course files current arguments (stopOutcome files (logText request logs) stop)
  | printed {request : Request} {config : Config} {logs : List LogLine} {text : String}
      (hrequest : readRequest files current arguments = .ok request)
      (hconfig : readConfig files request = .ok config)
      (hwork : work files current config request.options = (logs, .ok text))
      (h : request.output = none) :
      Course files current arguments ⟨0, text, logText request logs, none, files⟩
  | unwritten {request : Request} {config : Config} {logs : List LogLine} {text : String}
      {place : Place} {stop : Stop} (hrequest : readRequest files current arguments = .ok request)
      (hconfig : readConfig files request = .ok config)
      (hwork : work files current config request.options = (logs, .ok text))
      (hplace : request.output = some place) (h : writeOutput files place text = .error stop) :
      Course files current arguments (stopOutcome files (logText request logs) stop)
  | written {request : Request} {config : Config} {logs : List LogLine} {text : String}
      {place : Place} {result : Files}
      (hrequest : readRequest files current arguments = .ok request)
      (hconfig : readConfig files request = .ok config)
      (hwork : work files current config request.options = (logs, .ok text))
      (hplace : request.output = some place) (h : writeOutput files place text = .ok result) :
      Course files current arguments
        ⟨0, "", logText request (logs ++ [.wrote (absolutePath place).name]), none, result⟩

variable {files : Files} {current : Place} {arguments : List String}

theorem outcome_error (request : Request) (logs : List LogLine) (stop : Stop) (files : Files) :
    outcome request.options.verbose ⟨logs, .error stop, files⟩ =
      stopOutcome files (logText request logs) stop := rfl

theorem outcome_ok (request : Request) (logs : List LogLine) (text : String) (files : Files) :
    outcome request.options.verbose ⟨logs, .ok text, files⟩ =
      ⟨0, text, logText request logs, none, files⟩ := rfl

theorem course_run [Room] [FileSystem] (files : Files) (current : Place)
    (arguments : List String) :
    Course files current arguments (run files current arguments) := by
  rw [run]
  cases hrequest : readRequest files current arguments with
  | error stop => exact .refused hrequest
  | ok request =>
      dsimp only
      rw [runRequest]
      cases hconfig : readConfig files request with
      | error stop => exact .unconfigured hrequest hconfig
      | ok config =>
          dsimp only
          rcases hwork : work files current config request.options with ⟨logs, stop | text⟩
          · exact .failed hrequest hconfig hwork
          · cases hplace : request.output with
            | none => exact .printed hrequest hconfig hwork hplace
            | some place =>
                dsimp only
                cases hwrite : writeOutput files place text with
                | error stop => exact .unwritten hrequest hconfig hwork hplace hwrite
                | ok result => exact .written hrequest hconfig hwork hplace hwrite

/-- A run has no other course than its own. -/
theorem Course.eq_run [Room] [FileSystem] {seen : Outcome}
    (h : Course files current arguments seen) : seen = run files current arguments := by
  cases h with
  | refused h => simp [run, h]
  | unconfigured hrequest h => simp [run, hrequest, runRequest, h, outcome_error]
  | failed hrequest hconfig h => simp [run, hrequest, runRequest, hconfig, h, outcome_error]
  | printed hrequest hconfig hwork h =>
      simp [run, hrequest, runRequest, hconfig, hwork, h, outcome_ok]
  | unwritten hrequest hconfig hwork hplace h =>
      simp [run, hrequest, runRequest, hconfig, hwork, hplace, h, outcome_error]
  | written hrequest hconfig hwork hplace h =>
      simp [run, hrequest, runRequest, hconfig, hwork, hplace, h, outcome_ok]

end JsonShape.CommandLine

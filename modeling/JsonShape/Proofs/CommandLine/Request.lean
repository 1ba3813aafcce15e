import JsonShape.Proofs.CommandLine.Course

/-!
# What the arguments ask for

Arguments that can be understood still have to name a configuration that is there and an
output that is no directory.  A path with a NUL character names nothing, which is not
reported.
-/

set_option autoImplicit false

namespace JsonShape.CommandLine

/-- The request of options and positional arguments that were understood. -/
def requestOf (files : Files) (current : Place) (options : Options) (positional : List String) :
    Except Stop Request :=
  if options.help then .error .help
  else
    options.output.mapM (outputPlace files current) >>= fun output =>
      match positional with
      | [] => .error (.arguments .pathMissing)
      | path :: extra =>
        configPlace files current path >>= fun config =>
          if extra.isEmpty then .ok ⟨options, output, config⟩
          else .error (.arguments (.extraArguments extra))

variable {files : Files} {current : Place} {arguments : List String} {options : Options}
  {positional : List String}

theorem readRequest_of_arguments (files : Files) (current : Place)
    (h : readArguments {} [] arguments = .ok (options, positional)) :
    readRequest files current arguments = requestOf files current options positional := by
  simp only [readRequest, h, requestOf, Except.mapError, bind, Except.bind]
  cases options.help with
  | true => rfl
  | false =>
      simp only [Bool.false_eq_true, if_false]
      cases options.output.mapM (outputPlace files current) with
      | error stop => rfl
      | ok output =>
          cases positional with
          | nil => rfl
          | cons path extra =>
              dsimp only
              cases configPlace files current path with
              | error stop => rfl
              | ok config => cases extra <;> rfl

theorem readRequest_of_error (files : Files) (current : Place) {error : ArgumentError}
    (h : readArguments {} [] arguments = .error error) :
    readRequest files current arguments = .error (.arguments error) := by
  simp [readRequest, h, Except.mapError, bind, Except.bind]

theorem requestOf_eq_ok_iff {request : Request} :
    requestOf files current options positional = .ok request ↔
      options.help = false ∧ ∃ path, positional = [path] ∧ request.options = options ∧
        options.output.mapM (outputPlace files current) = .ok request.output ∧
        configPlace files current path = .ok request.config := by
  obtain ⟨asked, output, config⟩ := request
  rw [requestOf]
  cases hhelp : options.help with
  | true => simp
  | false =>
      rw [if_neg Bool.false_ne_true, bind_eq_ok_iff]
      cases positional with
      | nil => simp
      | cons path extra =>
          cases extra with
          | nil =>
              simp only [bind_eq_ok_iff, List.isEmpty_nil, if_true, Except.ok.injEq,
                Request.mk.injEq, List.cons.injEq, and_true, true_and]
              grind
          | cons other rest => simp

/-! ## Paths that name nothing -/

theorem checkNul_bind {α : Type} (path : String) (next : Unit → Except Stop α) :
    checkNul path >>= next =
      if Documents.hasNul path then .error (.fault (.crash .nulInPath)) else next () := by
  rw [checkNul]
  cases Documents.hasNul path <;> rfl

theorem outputPlace_of_hasNul {path : String} (h : Documents.hasNul path = true) :
    outputPlace files current path = .error (.fault (.crash .nulInPath)) := by
  rw [outputPlace, checkNul_bind, if_pos h]

theorem configPlace_of_hasNul {path : String} (h : Documents.hasNul path = true) :
    configPlace files current path = .error (.fault (.crash .nulInPath)) := by
  rw [configPlace, checkNul_bind, if_pos h]

theorem outputPlace_error_cases {path : String} {stop : Stop}
    (h : outputPlace files current path = .error stop) :
    (Documents.hasNul path = true ∧ stop = .fault (.crash .nulInPath)) ∨
      ∃ error, stop = .arguments error := by
  cases hnul : Documents.hasNul path with
  | true =>
      rw [outputPlace_of_hasNul hnul] at h
      exact .inl ⟨rfl, (Except.error.inj h).symm⟩
  | false =>
      rw [outputPlace, checkNul_bind, if_neg (by simp [hnul])] at h
      dsimp only at h
      split at h
      · exact .inr ⟨_, (Except.error.inj h).symm⟩
      · cases h

theorem configPlace_error_cases {path : String} {stop : Stop}
    (h : configPlace files current path = .error stop) :
    (Documents.hasNul path = true ∧ stop = .fault (.crash .nulInPath)) ∨
      ∃ error, stop = .arguments error := by
  cases hnul : Documents.hasNul path with
  | true =>
      rw [configPlace_of_hasNul hnul] at h
      exact .inl ⟨rfl, (Except.error.inj h).symm⟩
  | false =>
      rw [configPlace, checkNul_bind, if_neg (by simp [hnul])] at h
      dsimp only at h
      split at h
      · exact .inr ⟨_, (Except.error.inj h).symm⟩
      · exact .inr ⟨_, (Except.error.inj h).symm⟩
      · cases h

/-- The options and the path of the configuration that hold a NUL character, in the order
in which they are looked at. -/
inductive NamesNul (files : Files) (current : Place) (options : Options)
    (positional : List String) : Prop
  | output {path : String} (hpath : options.output = some path)
      (hnul : Documents.hasNul path = true)
  | config {path : String} {extra : List String} {output : Option Place}
      (houtput : options.output.mapM (outputPlace files current) = .ok output)
      (hpositional : positional = path :: extra) (hnul : Documents.hasNul path = true)

theorem requestOf_of_namesNul (hhelp : options.help = false)
    (h : NamesNul files current options positional) :
    requestOf files current options positional = .error (.fault (.crash .nulInPath)) := by
  rw [requestOf, hhelp, if_neg Bool.false_ne_true]
  cases h with
  | output hpath hnul =>
      rw [hpath, Option.mapM_some, outputPlace_of_hasNul hnul]
      rfl
  | config houtput hpositional hnul =>
      rw [houtput, hpositional]
      simp only [configPlace_of_hasNul hnul, bind, Except.bind]

/-- Understood arguments are refused for the help, with a usage error, or for a path that
names nothing. -/
theorem requestOf_error_cases {stop : Stop}
    (h : requestOf files current options positional = .error stop) :
    (options.help = true ∧ stop = .help) ∨ (∃ error, stop = .arguments error) ∨
      options.help = false ∧ NamesNul files current options positional ∧
        stop = .fault (.crash .nulInPath) := by
  rw [requestOf] at h
  cases hhelp : options.help with
  | true =>
      rw [hhelp, if_pos rfl] at h
      exact .inl ⟨rfl, (Except.error.inj h).symm⟩
  | false =>
      rw [hhelp, if_neg Bool.false_ne_true, bind_eq_error_iff] at h
      rcases h with houtput | ⟨output, houtput, h⟩
      · cases hpath : options.output with
        | none => simp [hpath, pure, Except.pure] at houtput
        | some path =>
            rw [hpath, Option.mapM_some] at houtput
            rcases outputPlace_error_cases (map_eq_error_iff.mp houtput) with
              ⟨hnul, rfl⟩ | hargument
            · exact .inr (.inr ⟨rfl, .output hpath hnul, rfl⟩)
            · exact .inr (.inl hargument)
      · cases positional with
        | nil => exact .inr (.inl ⟨_, (Except.error.inj h).symm⟩)
        | cons path extra =>
            rw [bind_eq_error_iff] at h
            rcases h with hconfig | ⟨_, -, h⟩
            · rcases configPlace_error_cases hconfig with ⟨hnul, rfl⟩ | hargument
              · exact .inr (.inr ⟨rfl, .config houtput rfl hnul, rfl⟩)
              · exact .inr (.inl hargument)
            · split at h
              · cases h
              · exact .inr (.inl ⟨_, (Except.error.inj h).symm⟩)

end JsonShape.CommandLine

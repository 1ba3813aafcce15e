import Mathlib.Data.List.TakeDrop
import JsonShape.CommandLine.Options
import JsonShape.Proofs.Traversal

/-!
# Writing arguments

Every choice of options can be written as arguments, each option with its long name and
the positional arguments after `--`, and is read back from them.  Help is asked for in
one way only.
-/

set_option autoImplicit false

namespace JsonShape.CommandLine

/-! ## Options as arguments -/

/-- The options that are chosen, with their values. -/
def Options.settings (options : Options) : List (Switch × String) :=
  List.flatten [options.name.toList.map (Switch.name, ·),
    options.package.toList.map (Switch.package, ·), options.output.toList.map (Switch.output, ·),
    if options.dumpIr then [(Switch.dumpIr, "")] else [],
    if options.verbose then [(Switch.verbose, "")] else [],
    if options.help then [(Switch.help, "")] else []]

/-- A setting as one or two arguments. -/
def writeSetting (setting : Switch × String) : List String :=
  if setting.1.takesValue then [setting.1.long, setting.2] else [setting.1.long]

def writeArguments (options : Options) (positional : List String) : List String :=
  options.settings.flatMap writeSetting ++ "--" :: positional

theorem applySettings_append (options : Options) (settings others : List (Switch × String)) :
    applySettings options (settings ++ others) =
      applySettings (applySettings options settings) others :=
  List.foldl_append

theorem applySettings_settings (options : Options) :
    applySettings {} options.settings = options := by
  obtain ⟨name, package, output, dumpIr, verbose, help⟩ := options
  have hname : applySettings {} (name.toList.map (.name, ·)) = { name } := by
    cases name <;> rfl
  have hpackage : applySettings { name } (package.toList.map (.package, ·)) =
      { name, package } := by
    cases package <;> rfl
  have houtput : applySettings { name, package } (output.toList.map (.output, ·)) =
      { name, package, output } := by
    cases output <;> rfl
  have hdumpIr : applySettings { name, package, output }
      (if dumpIr then [(.dumpIr, "")] else []) = { name, package, output, dumpIr } := by
    cases dumpIr <;> rfl
  have hverbose : applySettings { name, package, output, dumpIr }
      (if verbose then [(.verbose, "")] else []) =
        { name, package, output, dumpIr, verbose } := by
    cases verbose <;> rfl
  have hhelp : applySettings { name, package, output, dumpIr, verbose }
      (if help then [(.help, "")] else []) =
        { name, package, output, dumpIr, verbose, help } := by
    cases help <;> rfl
  simp only [Options.settings, List.flatten_cons, List.flatten_nil, List.append_nil,
    applySettings_append, hname, hpackage, houtput, hdumpIr, hverbose, hhelp]

theorem long_ne_end (switch : Switch) : switch.long ≠ "--" := by
  cases switch <;> decide

theorem isOption_long (switch : Switch) : isOption switch.long = true := by
  cases switch <;> decide

theorem ofLong?_long (switch : Switch) : Switch.ofLong? switch.long = some switch := by
  cases switch <;> decide

theorem splitValue_long (switch : Switch) :
    splitValue switch.long.toList = (switch.long, none) := by
  cases switch <;> decide

theorem readOption_long (switch : Switch) : readOption switch.long = readLong switch none := by
  simp only [readOption, splitValue_long, ofLong?_long]

theorem set_of_not_takesValue {switch : Switch} (h : switch.takesValue = false)
    (options : Options) (value other : String) :
    options.set switch value = options.set switch other := by
  cases switch <;> first | rfl | cases h

theorem readArguments_writeSetting (options : Options) (positional rest : List String)
    (setting : Switch × String) :
    readArguments options positional (writeSetting setting ++ rest) =
      readArguments (options.set setting.1 setting.2) positional rest := by
  obtain ⟨switch, value⟩ := setting
  cases htakes : switch.takesValue with
  | true =>
      simp [writeSetting, htakes, readArguments, long_ne_end, isOption_long, readOption_long,
        readLong, applySettings]
  | false =>
      simp [writeSetting, htakes, readArguments, long_ne_end, isOption_long, readOption_long,
        readLong, applySettings, set_of_not_takesValue htakes options value ""]

theorem readArguments_writeSettings (options : Options) (positional rest : List String)
    (settings : List (Switch × String)) :
    readArguments options positional (settings.flatMap writeSetting ++ rest) =
      readArguments (applySettings options settings) positional rest := by
  induction settings generalizing options with
  | nil => rfl
  | cons setting others ih =>
      rw [List.flatMap_cons, List.append_assoc, readArguments_writeSetting, ih]
      rfl

/-- Every choice of options and positional arguments is what some arguments say. -/
theorem readArguments_writeArguments (options : Options) (positional : List String) :
    readArguments {} [] (writeArguments options positional) = .ok (options, positional) := by
  rw [writeArguments, readArguments_writeSettings, applySettings_settings, readArguments,
    if_pos rfl, List.nil_append]

example : writeArguments { name := some "T", verbose := true } ["-c.json"] =
    ["--name", "T", "--verbose", "--", "-c.json"] := by decide

/-! ## Asking for help -/

/-- The options that an argument sets, by itself or with the next one. -/
def Reading.switches (reading : Reading) : List Switch :=
  reading.settings.map Prod.fst ++ reading.awaiting.toList.map Prod.fst

theorem toList_of_splitValue_eq_none {argument : List Char} {name : String}
    (h : splitValue argument = (name, none)) : name.toList = argument := by
  rw [splitValue, List.span_eq_takeWhile_dropWhile] at h
  split at h
  · rename_i taken hspan
    obtain ⟨htaken, hdropped⟩ := Prod.mk.inj hspan
    have hwhole := List.takeWhile_append_dropWhile (p := (· ≠ '=')) (l := argument)
    rw [htaken, hdropped, List.append_nil] at hwhole
    rw [← (Prod.mk.inj h).1, String.toList_ofList, hwhole]
  · cases h

theorem long_of_ofLong? {text : String} {switch : Switch}
    (h : Switch.ofLong? text = some switch) : switch.long = text := by
  simpa using List.find?_some h

theorem ofShort?_ne_help (char : Char) : Switch.ofShort? char ≠ some .help := by
  intro h
  have hshort := List.find?_some h
  simp [Switch.short?] at hshort

theorem help_notMem_of_readShort {chars : List Char} {reading : Reading}
    (h : readShort chars = .ok reading) : .help ∉ reading.switches := by
  induction chars generalizing reading with
  | nil =>
      rw [readShort, Except.ok.injEq] at h
      simp [← h, Reading.switches]
  | cons char rest ih =>
      rw [readShort.eq_def] at h
      cases hswitch : Switch.ofShort? char with
      | none => simp [hswitch] at h
      | some switch =>
          have hne : switch ≠ .help := by
            rintro rfl
            exact ofShort?_ne_help char hswitch
          simp only [hswitch] at h
          split at h
          · split at h
            · rw [← Except.ok.inj h]
              simpa [Reading.switches] using hne.symm
            · rw [← Except.ok.inj h]
              simpa [Reading.switches] using hne.symm
          · obtain ⟨others, hothers, rfl⟩ := map_eq_ok_iff.mp h
            have hrest := ih hothers
            simp only [Reading.switches, List.map_cons, List.cons_append, List.mem_cons,
              not_or] at hrest ⊢
            exact ⟨hne.symm, hrest⟩

theorem switches_of_readLong {switch : Switch} {value : Option String} {reading : Reading}
    (h : readLong switch value = .ok reading) :
    reading.switches = [switch] ∧ (switch.takesValue = true ∨ value = none) := by
  rw [readLong.eq_def] at h
  split at h
  · rename_i htakes
    rw [← Except.ok.inj h]
    exact ⟨rfl, .inl htakes⟩
  · rename_i htakes
    rw [← Except.ok.inj h]
    exact ⟨rfl, .inl htakes⟩
  · rw [← Except.ok.inj h]
    exact ⟨rfl, .inr rfl⟩
  · cases h

/-- Only the long name asks for help. -/
theorem eq_help_of_readOption {argument : String} {reading : Reading}
    (h : readOption argument = .ok reading) (hhelp : .help ∈ reading.switches) :
    argument = "--help" := by
  rw [readOption.eq_def] at h
  cases hsplit : splitValue argument.toList with
  | mk name value =>
      simp only [hsplit] at h
      split at h
      · rename_i switch hswitch
        obtain ⟨hswitches, hvalue⟩ := switches_of_readLong h
        rw [hswitches, List.mem_singleton] at hhelp
        subst hhelp
        have hnone : value = none := hvalue.resolve_left Bool.false_ne_true
        rw [hnone] at hsplit
        rw [← String.toList_inj, ← toList_of_splitValue_eq_none hsplit, ← long_of_ofLong? hswitch]
        rfl
      · cases h
      · exact absurd hhelp (help_notMem_of_readShort h)

theorem help_set {options : Options} {switch : Switch} {value : String}
    (h : (options.set switch value).help = true) : options.help = true ∨ switch = .help := by
  cases switch <;> first | exact .inl h | exact .inr rfl

theorem help_applySettings {options : Options} {settings : List (Switch × String)}
    (h : (applySettings options settings).help = true) :
    options.help = true ∨ .help ∈ settings.map Prod.fst := by
  induction settings generalizing options with
  | nil => exact .inl h
  | cons setting rest ih =>
      rcases ih h with hset | hmem
      · refine (help_set hset).imp_right fun hswitch => ?_
        rw [List.map_cons, hswitch]
        exact List.mem_cons_self
      · exact .inr (List.mem_cons_of_mem _ hmem)

/-- Help that is asked for is asked for by the argument `--help`. -/
theorem help_mem_of_readArguments {arguments positional : List String} {options : Options}
    {result : Options × List String}
    (h : readArguments options positional arguments = .ok result) (hhelp : result.1.help = true) :
    options.help = true ∨ "--help" ∈ arguments := by
  fun_induction readArguments options positional arguments with
  | case1 options positional =>
      rw [← Except.ok.inj h] at hhelp
      exact .inl hhelp
  | case2 options positional rest =>
      rw [← Except.ok.inj h] at hhelp
      exact .inl hhelp
  | case3 options positional argument rest _ _ ih =>
      exact (ih h).imp_right (List.mem_cons_of_mem _)
  | case4 => cases h
  | case5 options positional argument _ _ reading hread set rest _ ih =>
      rcases ih h with hset | hmem
      · refine (help_applySettings hset).imp_right fun hswitch => ?_
        rw [eq_help_of_readOption hread (List.mem_append_left _ hswitch)]
        exact List.mem_cons_self
      · exact .inr (List.mem_cons_of_mem _ hmem)
  | case6 options positional argument _ _ reading hread set switch _ value rest hawaiting ih =>
      rcases ih h with hset | hmem
      · have hswitch : options.help = true ∨ .help ∈ reading.switches := by
          rcases help_set hset with hsettings | hswitch
          · exact (help_applySettings hsettings).imp_right (List.mem_append_left _)
          · refine .inr (List.mem_append_right _ ?_)
            simp [hawaiting, hswitch]
        refine hswitch.imp_right fun hswitch => ?_
        rw [eq_help_of_readOption hread hswitch]
        exact List.mem_cons_self
      · exact .inr (List.mem_cons_of_mem _ (List.mem_cons_of_mem _ hmem))
  | case7 => cases h

end JsonShape.CommandLine

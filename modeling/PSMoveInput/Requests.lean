import PSMoveInput.ConfigKeyMaps
import PSMoveInput.PidFilePaths

/-! Requests for the help text and for the version. `parse` reads the default configuration file for
them as well, and `processConfig` looks at `ok_` first. -/
namespace PSMoveInput

/-- There is nothing to accept if no file can be opened. Otherwise boost must accept the file, and
every option that takes a key must name one, up to the first NUL of its value. -/
def FileAccepted : Option (Except String ConfFile) → Prop
  | none => True
  | some (.error _) => False
  | some (.ok conf) => ∀ (o : KeyOption) (optval : String), conf.keys o.name = some optval →
      cStr optval ∈ linmap.map Prod.fst

namespace Config

theorem parse_ok_iff (B : PSMoveButtons) (env : Environment) (opts : CmdLine)
    (coeffs : MoveCoeffs) :
    (parse B env (.ok opts) (.new env coeffs)).ok = true ↔ FileAccepted (confFile env opts) := by
  have hok := handleCmdLine_ok env opts (.new env coeffs)
  refine parse_cases B env opts coeffs (fun content c => c.ok = true ↔ FileAccepted content)
    ?_ ?_ ?_
  · intro file
    exact iff_of_true hok trivial
  · intro file what
    exact iff_of_false Bool.false_ne_true not_false
  · intro file conf
    have hstored : (storeOptions env conf
        { handleCmdLine env opts (.new env coeffs) with configFile := file }).ok = true := by
      rw [storeOptions_eq]
      exact hok
    rw [storeKeyMaps_filter, configOptions_keys]
    exact (storeKeyMaps_ok B conf.keys keyOptions _ hstored).trans (keysNamed_keyOptions conf.keys)

/-- A request that the command line makes is still there after the file has been read. -/
theorem parse_requests (B : PSMoveButtons) (env : Environment) (opts : CmdLine)
    (coeffs : MoveCoeffs) (hrequest : opts.help = true ∨ opts.version = true) :
    (parse B env (.ok opts) (.new env coeffs)).help = true ∨
      (parse B env (.ok opts) (.new env coeffs)).version = true := by
  have hcmdLine : (handleCmdLine env opts (.new env coeffs)).help = true ∨
      (handleCmdLine env opts (.new env coeffs)).version = true := by
    simp only [handleCmdLine]
    by_cases hhelp : opts.help = true
    · rw [if_pos hhelp]
      exact Or.inl rfl
    · rw [if_neg hhelp, if_pos (hrequest.resolve_left hhelp)]
      exact Or.inr rfl
  refine parse_cases B env opts coeffs (fun _ c => c.help = true ∨ c.version = true) ?_ ?_ ?_
  · intro file
    exact hcmdLine
  · intro file what
    exact hcmdLine
  · intro file conf
    obtain ⟨ok, keymaps, hloop⟩ := storeKeyMaps_rest B conf.keys configOptions
      (storeOptions env conf { handleCmdLine env opts (.new env coeffs) with configFile := file })
    rw [hloop, storeOptions_eq]
    exact hcmdLine

end Config

/-- A configuration file of the command line is not read for a request. -/
theorem confFile_request (env : Environment) {opts : CmdLine}
    (hrequest : opts.help = true ∨ opts.version = true) :
    Config.confFile env opts = env.files defConfigfile := by
  rw [Config.confFile, Config.configName, if_pos hrequest]

namespace Program

/-- What `processConfig` throws when help or the version is requested. -/
theorem processConfig_request (env : Surroundings) (s : Program)
    (hrequest : (s.config.parse env.buttons env.conf env.cmdLine).help = true ∨
      (s.config.parse env.buttons env.conf env.cmdLine).version = true) :
    ∃ what, (s.processConfig env).thrown = some (.exception what) ∧
      (handleException what = retvalOk ↔
        (s.config.parse env.buttons env.conf env.cmdLine).ok = true) := by
  simp only [processConfig]
  by_cases hok : (s.config.parse env.buttons env.conf env.cmdLine).ok = false
  · refine ⟨.invalidConfig, congrArg Attempt.Outcome.thrown (if_pos hok), ?_⟩
    rw [hok]
    decide
  · have hok' := Bool.eq_true_of_not_eq_false hok
    rw [if_neg hok]
    by_cases hhelp : (s.config.parse env.buttons env.conf env.cmdLine).help = true
    · rw [if_pos hhelp]
      exact ⟨.helpRq, rfl, iff_of_true rfl hok'⟩
    · rw [if_neg hhelp, if_pos (hrequest.resolve_left hhelp)]
      exact ⟨.versionRq, rfl, iff_of_true rfl hok'⟩

theorem finish_retval {env : Surroundings} {r : StepOutcome} {what : ExType}
    (h : r.thrown = some (.exception what)) : (finish env r).retval = handleException what := by
  simp only [finish, h]

/-- Whatever `processConfig` throws ends the run. -/
theorem run_processConfig_thrown {env : Surroundings} {s : Program} {t : Thrown}
    (h : (attempt env s .processConfig).thrown = some t) :
    s.run env = finish env (attempt env s .processConfig) :=
  congrArg (finish env) (Attempt.run_cons_thrown h _)

end Program

/-- A request for the help text or for the version succeeds if and only if the default configuration
file is accepted, as long as `processConfig` is not stopped by a `std::exception`. -/
theorem request_succeeds_iff (env : Surroundings) (coeffs : MoveCoeffs) (cwd : FilePath)
    (files : FileSystem) (opts : CmdLine) (haccepted : env.cmdLine = .ok opts)
    (hrequest : opts.help = true ∨ opts.version = true) :
    ((Program.init env coeffs cwd files).run env).retval = retvalOk ↔
      (∀ what, env.fault .processConfig ≠ some (.early what)) ∧
        FileAccepted (env.conf.files defConfigfile) := by
  have hparse : (Program.init env coeffs cwd files).config.parse env.buttons env.conf env.cmdLine =
      Config.parse env.buttons env.conf (.ok opts) (.new env.conf coeffs) := by
    rw [haccepted]
    rfl
  have hrequested := Config.parse_requests env.buttons env.conf opts coeffs hrequest
  have hok := Config.parse_ok_iff env.buttons env.conf opts coeffs
  rw [confFile_request env.conf hrequest] at hok
  rw [← hparse] at hrequested hok
  obtain ⟨what, hthrown, hretval⟩ :=
    (Program.init env coeffs cwd files).processConfig_request env hrequested
  by_cases hearly : ∃ what, env.fault .processConfig = some (.early what)
  · obtain ⟨what', hearly⟩ := hearly
    have hraised : env.faultAt .processConfig = some (.early what') := hearly
    have hattempt := Program.attempt_early hraised (Program.init env coeffs cwd files)
    rw [Program.run_processConfig_thrown (congrArg Attempt.Outcome.thrown hattempt), hattempt]
    exact iff_of_false (show retvalFail ≠ retvalOk by decide) fun h => h.1 what' hearly
  · have hfault : ∀ what, env.fault .processConfig ≠ some (.early what) := not_exists.mp hearly
    have hattempt : Program.attempt env (Program.init env coeffs cwd files) .processConfig =
        (Program.init env coeffs cwd files).processConfig env :=
      Program.attempt_throws hfault hthrown
    have hends := hthrown
    rw [← hattempt] at hends
    rw [Program.run_processConfig_thrown hends, hattempt, Program.finish_retval hthrown, ← hok]
    exact hretval.trans (and_iff_right hfault).symm

/-- A command line that only asks for the help text. -/
def helpCmdLine : CmdLine := { plainCmdLine with help := true }

def helpSurroundings (files : String → Option (Except String ConfFile)) : Surroundings :=
  { pidSurroundings "" with
    cmdLine := .ok helpCmdLine
    conf := { files := files, pwDir := none } }

/-- No configuration file at all. -/
theorem request_succeeds_help :
    let env := helpSurroundings fun _ => none
    ((Program.init env ⟨1, 1⟩ [] fun _ => none).run env).retval = retvalOk := by
  intro env
  apply (request_succeeds_iff env ⟨1, 1⟩ [] (fun _ => none) helpCmdLine rfl (Or.inl rfl)).mpr
  refine ⟨?_, trivial⟩
  intro what h
  cases h

/-- The default file sets one key option, to a key that does not exist. -/
def misspeltFile (name : String) : Option (Except String ConfFile) :=
  if name = defConfigfile then
    some (.ok (.ofKeys fun longname => if longname = "PSBTN_CROSS" then some "KEY_ENTRE" else none))
  else none

/-- The help text is printed, and the exit code is the one for an invalid configuration. -/
theorem request_refused :
    let env := helpSurroundings misspeltFile
    env.cmdLine = .ok helpCmdLine ∧ helpCmdLine.help = true ∧ env.fault .processConfig = none ∧
      ((Program.init env ⟨1, 1⟩ [] fun _ => none).run env).retval = retvalConfig ∧
      retvalConfig ≠ retvalOk := by
  intro env
  exact ⟨rfl, rfl, rfl, by decide +kernel, by decide⟩

end PSMoveInput

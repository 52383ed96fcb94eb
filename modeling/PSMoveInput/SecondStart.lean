import PSMoveInput.PidFilePaths

/-! A process that finds the pid file of another one. It has opened its log file before, and opening
empties it. -/
namespace PSMoveInput

open Attempt

/-- The log file cannot be opened, or nothing else is in it already. Every file keeps what is
written to it: special ones such as `/dev/null` are no files of the model. -/
def LogUntouched (env : Surroundings) (config : Config) (cwd : FilePath) (files : FileSystem) :
    Prop :=
  ∀ file, resolvePath cwd config.logfile = some file → env.canCreate file = true →
    files file = some (logBeginning config.loglevel (env.timestamps 0))

namespace Program

/-- Only the log file can be another one afterwards. -/
theorem setupLog_files_iff (env : Surroundings) (s : Program) :
    (s.setupLog env).state.files = s.files ↔
      ∀ file, resolvePath s.cwd s.config.logfile = some file → env.canCreate file = true →
        s.files file = some (logBeginning s.config.loglevel (s.timestamps 0)) := by
  rw [setupLog_files]
  cases hopened : (resolvePath s.cwd s.config.logfile).filter env.canCreate with
  | none =>
    apply iff_of_true rfl
    intro file hfile hcreate
    rw [hfile, Option.filter_some, if_pos hcreate] at hopened
    cases hopened
  | some opened =>
    obtain ⟨hpath, hcreate⟩ := Option.filter_eq_some_iff.mp hopened
    rw [Function.update_eq_self_iff]
    constructor
    · intro h file hfile _
      rw [hpath] at hfile
      obtain rfl := Option.some.inj hfile
      exact h.symm
    · intro h
      exact (h opened hpath hcreate).symm

/-! ### Which step refuses -/

theorem finish_already {env : Surroundings} {r : StepOutcome}
    (h : (finish env r).retval = retvalAlready) : r.thrown = some (.exception .alreadyRunning) := by
  obtain ⟨s, calls, thrown⟩ := r
  cases thrown with
  | none => cases h
  | some t =>
    cases t with
    | std what => cases h
    | exception what =>
      cases what with
      | alreadyRunning => rfl
      | _ => cases h

/-- No other step finds an instance that is already running. -/
theorem attempt_already {env : Surroundings} {s : Program} {step : RunStep}
    (h : (attempt env s step).thrown = some (.exception .alreadyRunning)) :
    step = .checkPidFile := by
  rcases attempt_thrown h with ⟨what, hstd⟩ | ⟨what, hwhat, hthrown⟩
  · cases hstd
  · cases hthrown
    cases step with
    | checkPidFile => rfl
    | _ => exact absurd hwhat (by decide)

/-- A run that is refused has parsed its configuration and set up its log, and nothing else. -/
theorem run_already_files {env : Surroundings} {s : Program}
    (h : (s.run env).retval = retvalAlready) :
    let config := s.config.parse env.buttons env.conf env.cmdLine
    (s.run env).state.files = (setupLog env { s with config := config }).state.files := by
  intro config
  have hthrown : (Attempt.run (attempt env) s runSteps).thrown = _ := finish_already h
  have hfinish : (s.run env).state = (Attempt.run (attempt env) s runSteps).state := by
    simp only [run, finish, hthrown]
  have hother (steps : List RunStep) (hsteps : .checkPidFile ∉ steps) :
      ∀ s, ∀ step ∈ steps, (attempt env s step).thrown ≠ some (.exception .alreadyRunning) := by
    intro s step hstep h
    rw [attempt_already h] at hstep
    exact hsteps hstep
  obtain ⟨hreturned, hrefused, hstate⟩ := Attempt.thrown_by [.processConfig, .setupLog]
    (.daemonize :: serveSteps) (hother _ (by decide)) (hother _ (by decide)) hthrown
  have hchecked : (Attempt.run (attempt env) s runSteps).state =
      (Attempt.run (attempt env) s [.processConfig, .setupLog]).state := by
    rw [attempt_exception hrefused] at hstate
    exact hstate
  -- the two steps before have returned
  obtain ⟨hparse, hlog⟩ := Attempt.returned_of_cons hreturned
  have hlogged := (Attempt.returned_of_cons hlog).1
  rw [hfinish, hchecked, Attempt.run_cons_returned hparse, Attempt.run_cons_returned hlogged,
    attempt_returned hlogged, ((processConfig_spec env s).2 hparse).1]
  rfl

end Program

/-- A process that is refused because of the pid file leaves all files alone if and only if its log
file cannot be opened, or is already as it leaves it. -/
theorem refused_unchanged_iff (env : Surroundings) (coeffs : MoveCoeffs) (cwd : FilePath)
    (files : FileSystem)
    (hrefused : ((Program.init env coeffs cwd files).run env).retval = retvalAlready) :
    let config := (Config.new env.conf coeffs).parse env.buttons env.conf env.cmdLine
    ((Program.init env coeffs cwd files).run env).state.files = files ↔
      LogUntouched env config cwd files := by
  intro config
  rw [Program.run_already_files hrefused]
  exact Program.setupLog_files_iff env _

/-- The log cannot be written by the second process. -/
theorem refused_unchanged_locked :
    let env := { pidSurroundings "/run/psmoveinput.pid" with canCreate := fun _ => false }
    ((Program.init env ⟨1, 1⟩ [] runningFiles).run env).state.files = runningFiles := by
  intro env
  apply (refused_unchanged_iff env ⟨1, 1⟩ [] runningFiles (by decide +kernel)).mpr
  intro file _ hcreate
  cases hcreate

/-- The log of the first process is lost. -/
theorem refused_empties_log :
    let env := pidSurroundings "/run/psmoveinput.pid"
    let r := (Program.init env ⟨1, 1⟩ [] runningFiles).run env
    runningFiles ["psmoveinput.pid", "run"] = some ["1111"] ∧ r.retval = retvalAlready ∧
      r.state.files ["psmoveinput.log", "user", "home"] = some [] ∧
      r.state.files ≠ runningFiles := by
  intro env r
  have hempty : r.state.files ["psmoveinput.log", "user", "home"] = some [] := by decide +kernel
  refine ⟨rfl, by decide +kernel, hempty, ?_⟩
  intro h
  rw [h] at hempty
  exact absurd hempty (by decide)

end PSMoveInput

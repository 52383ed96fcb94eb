import PSMoveInput.Program

/-! What the steps of `PSMoveInput::run` do: to the working directory and the configuration, to the
pid file and to the files that exist. -/
namespace PSMoveInput

open Attempt

/-- The file of a call on the pid file. -/
def FileCall.pidFile? : FileCall → Option (Option FilePath)
  | .openRead file => some file
  | .creat file => some file
  | .unlink file => some file
  | .openWrite _ => none

/-- The working directory after `daemonize`. -/
def daemonCwd (foreground : Bool) (cwd : FilePath) : FilePath :=
  if foreground = true then cwd else []

/-- What `setupLog` leaves in a log file that it can open. -/
def logBeginning (loglevel : LogLevel) (timestamp : String) : List String :=
  if Program.levelNumber .info ≤ Program.levelNumber loglevel then
    [timestamp ++ "PSMoveInput logging started"]
  else []

/-- The exceptions of the program that a step throws. -/
def RunStep.throws : RunStep → List ExType
  | .processConfig => [.invalidConfig, .helpRq, .versionRq]
  | .checkPidFile => [.alreadyRunning]
  | .daemonize => [.forkFailed, .parentQuit, .pidfileCreatFailed]
  | _ => []

namespace Program

/-! ### Steps -/

/-- A step raises a `std::exception` before it does anything, or after it has returned, or it does
what it should. -/
theorem attempt_inv (env : Surroundings) (s : Program) (step : RunStep) :
    (∃ what, env.faultAt step = some (.early what) ∧
        attempt env s step = ⟨s, [], some (.std what)⟩) ∨
      (∃ what, env.faultAt step = some (.late what) ∧ (s.exec env step).thrown = none ∧
        attempt env s step =
          ⟨(s.exec env step).state, (s.exec env step).outputs, some (.std what)⟩) ∨
      ((∀ what, env.faultAt step ≠ some (.early what)) ∧
        ((s.exec env step).thrown = none → env.faultAt step = none) ∧
        attempt env s step = s.exec env step) := by
  cases hfault : env.faultAt step with
  | none =>
    right
    right
    simp only [attempt, hfault]
    exact ⟨nofun, fun _ => trivial, trivial⟩
  | some fault =>
    cases fault with
    | early what =>
      left
      simp only [attempt, hfault]
      exact ⟨what, rfl, rfl⟩
    | late what =>
      right
      cases hthrown : (s.exec env step).thrown with
      | none =>
        left
        simp only [attempt, hfault, hthrown, Option.none_or]
        exact ⟨what, rfl, trivial, rfl⟩
      | some t =>
        -- what the step throws by itself comes first
        right
        have hfirst : (s.exec env step).thrown.or (some (.std what)) =
            (s.exec env step).thrown := by
          rw [hthrown, Option.some_or]
        simp only [attempt, hfault, hfirst]
        exact ⟨nofun, nofun, trivial⟩

theorem attempt_cases (env : Surroundings) (s : Program) (step : RunStep) :
    (∃ what, attempt env s step = ⟨s, [], some (.std what)⟩) ∨
      ((attempt env s step).state = (s.exec env step).state ∧
        (attempt env s step).outputs = (s.exec env step).outputs ∧
        ((attempt env s step).thrown = none → (s.exec env step).thrown = none)) := by
  rcases attempt_inv env s step with ⟨what, -, hearly⟩ | ⟨what, -, hexec, hlate⟩ | ⟨-, -, hsame⟩
  · exact Or.inl ⟨what, hearly⟩
  · rw [hlate]
    exact Or.inr ⟨rfl, rfl, fun _ => hexec⟩
  · rw [hsame]
    exact Or.inr ⟨rfl, rfl, id⟩

theorem attempt_early {env : Surroundings} {step : RunStep} {what : String}
    (h : env.faultAt step = some (.early what)) (s : Program) :
    attempt env s step = ⟨s, [], some (.std what)⟩ := by
  simp only [attempt, h]

theorem attempt_outputs {env : Surroundings} {step : RunStep}
    (hfault : ∀ what, env.faultAt step ≠ some (.early what)) (s : Program) :
    (attempt env s step).outputs = (s.exec env step).outputs := by
  rcases attempt_inv env s step with ⟨what, hearly, -⟩ | ⟨what, -, -, hlate⟩ | ⟨-, -, hsame⟩
  · exact absurd hearly (hfault what)
  · rw [hlate]
  · rw [hsame]

/-- What a step throws by itself comes before a `std::exception` after it. -/
theorem attempt_throws {env : Surroundings} {s : Program} {step : RunStep} {t : Thrown}
    (hfault : ∀ what, env.faultAt step ≠ some (.early what))
    (h : (s.exec env step).thrown = some t) : attempt env s step = s.exec env step := by
  rcases attempt_inv env s step with ⟨what, hearly, -⟩ | ⟨what, -, hnone, -⟩ | ⟨-, -, hsame⟩
  · exact absurd hearly (hfault what)
  · cases h.symm.trans hnone
  · exact hsame

/-- A step that returns has done what it should. -/
theorem attempt_returned {env : Surroundings} {s : Program} {step : RunStep}
    (h : (attempt env s step).thrown = none) : attempt env s step = s.exec env step := by
  rcases attempt_inv env s step with ⟨what, -, hearly⟩ | ⟨what, -, -, hlate⟩ | ⟨-, -, hsame⟩
  · rw [hearly] at h
    cases h
  · rw [hlate] at h
    cases h
  · exact hsame

/-- An exception of the program comes from what the step does. -/
theorem attempt_exception {env : Surroundings} {s : Program} {step : RunStep} {what : ExType}
    (h : (attempt env s step).thrown = some (.exception what)) :
    attempt env s step = s.exec env step := by
  rcases attempt_inv env s step with ⟨what', -, hearly⟩ | ⟨what', -, -, hlate⟩ | ⟨-, -, hsame⟩
  · rw [hearly] at h
    cases h
  · rw [hlate] at h
    cases h
  · exact hsame

theorem attempt_faultless {env : Surroundings} {step : RunStep} (h : env.fault step = none)
    (s : Program) : attempt env s step = s.exec env step := by
  have hnone : env.faultAt step = none := by
    rw [Surroundings.faultAt, h, ite_self]
  simp only [attempt, hnone]

/-- What every line of the log preserves the messages about the keys preserve. -/
theorem initDevice_invariant (I : Program → Prop) (hstep : ∀ t msg, I t → I (t.writeLog msg .info))
    (s : Program) (h : I s) : I s.initDevice := by
  rw [initDevice]
  generalize ["Initializing input device", "Reported keys:"] ++
    keyMessages (s.config.keymaps .first) ++ keyMessages (s.config.keymaps .second) = msgs
  induction msgs generalizing s with
  | nil => exact h
  | cons msg msgs ih => exact ih _ (hstep s msg h)

/-- `daemonize` throws before it does anything, or it comes to `writePidFile` in the directory of
the daemon. -/
theorem daemonize_cases (env : Surroundings) (s : Program) :
    (∃ what ∈ RunStep.throws .daemonize, s.daemonize env = ⟨s, [], some (.exception what)⟩) ∨
      s.daemonize env = writePidFile env { s with cwd := daemonCwd s.config.foreground s.cwd } := by
  simp only [daemonize]
  cases s.config.foreground with
  | true => exact Or.inr rfl
  | false =>
    cases env.fork with
    | failed => exact Or.inl ⟨.forkFailed, by decide, rfl⟩
    | parent => exact Or.inl ⟨.parentQuit, by decide, rfl⟩
    | child setsid chdir =>
      cases setsid with
      | false => exact Or.inl ⟨.forkFailed, by decide, rfl⟩
      | true =>
        cases chdir with
        | false => exact Or.inl ⟨.forkFailed, by decide, rfl⟩
        | true => exact Or.inr rfl

theorem exec_thrown {env : Surroundings} {s : Program} {step : RunStep} {t : Thrown}
    (h : (s.exec env step).thrown = some t) : ∃ what ∈ step.throws, t = .exception what := by
  cases step with
  | processConfig =>
    simp only [exec, processConfig] at h
    split_ifs at h
    · exact ⟨.invalidConfig, by decide, (Option.some.inj h).symm⟩
    · exact ⟨.helpRq, by decide, (Option.some.inj h).symm⟩
    · exact ⟨.versionRq, by decide, (Option.some.inj h).symm⟩
  | checkPidFile =>
    simp only [exec, checkPidFile] at h
    split_ifs at h
    exact ⟨.alreadyRunning, by decide, (Option.some.inj h).symm⟩
  | daemonize =>
    rw [exec] at h
    rcases daemonize_cases env s with ⟨what, hwhat, hthrown⟩ | hwrites
    · rw [hthrown] at h
      exact ⟨what, hwhat, (Option.some.inj h).symm⟩
    · rw [hwrites, writePidFile] at h
      split at h
      · cases h
      · exact ⟨.pidfileCreatFailed, by decide, (Option.some.inj h).symm⟩
  | setupLog => cases h
  | setupSignals => cases h
  | initDevice => cases h
  | initHandler => cases h
  | startListener => cases h
  | removePidFile => cases h

/-- What a step throws is one of its own exceptions or a `std::exception`. -/
theorem attempt_thrown {env : Surroundings} {s : Program} {step : RunStep} {t : Thrown}
    (h : (attempt env s step).thrown = some t) :
    (∃ what, t = .std what) ∨ ∃ what ∈ step.throws, t = .exception what := by
  rcases attempt_inv env s step with ⟨what, -, hearly⟩ | ⟨what, -, -, hlate⟩ | ⟨-, -, hsame⟩
  · rw [hearly] at h
    exact Or.inl ⟨what, (Option.some.inj h).symm⟩
  · rw [hlate] at h
    exact Or.inl ⟨what, (Option.some.inj h).symm⟩
  · rw [hsame] at h
    exact Or.inr (exec_thrown h)

/-! ### The pid file -/

/-- The working directory and the configuration, which decide about the pid file. -/
def Keeps (s t : Program) : Prop := t.cwd = s.cwd ∧ t.config = s.config

theorem Keeps.pidfilePath {s t : Program} (h : s.Keeps t) : t.pidfilePath = s.pidfilePath := by
  rw [Program.pidfilePath, Program.pidfilePath, h.1, h.2]

theorem Keeps.trans {s t u : Program} (h : s.Keeps t) (h' : t.Keeps u) : s.Keeps u :=
  ⟨h'.1.trans h.1, h'.2.trans h.2⟩

theorem writeLog_keeps (s : Program) (msg : String) (level : LogLevel) :
    s.Keeps (s.writeLog msg level) := by
  simp only [writeLog]
  split
  · split_ifs
    · exact ⟨rfl, rfl⟩
    · exact ⟨rfl, rfl⟩
  · exact ⟨rfl, rfl⟩

theorem initDevice_keeps (s : Program) : s.Keeps s.initDevice :=
  initDevice_invariant s.Keeps (fun t msg h => h.trans (writeLog_keeps t msg .info)) s ⟨rfl, rfl⟩

theorem removePidFile_keeps (env : Surroundings) (s : Program) : s.Keeps (s.removePidFile env) := by
  simp only [removePidFile]
  split
  · exact ⟨rfl, rfl⟩
  · exact ⟨rfl, rfl⟩

theorem setupLog_keeps (env : Surroundings) (s : Program) : s.Keeps (s.setupLog env).state := by
  simp only [setupLog]
  exact Keeps.trans ⟨rfl, rfl⟩ (writeLog_keeps _ _ _)

/-- The steps that leave the working directory and the configuration alone. -/
def settled (step : RunStep) : Prop := step ≠ .processConfig ∧ step ≠ .daemonize

/-- What such a step does to the pid file it does to the one that the path leads to, and it does not
create it. -/
theorem attempt_settled (env : Surroundings) (s : Program) {step : RunStep} (h : settled step) :
    s.Keeps (attempt env s step).state ∧
      ∀ call ∈ (attempt env s step).outputs,
        (∀ file, call.pidFile? = some file → file = s.pidfilePath) ∧
          ∀ file, call ≠ .creat file := by
  rcases attempt_cases env s step with ⟨what, hattempt⟩ | ⟨hstate, houtputs, -⟩
  · rw [hattempt]
    exact ⟨⟨rfl, rfl⟩, fun call hcall => absurd hcall List.not_mem_nil⟩
  · rw [hstate, houtputs]
    cases step with
    | processConfig => exact absurd rfl h.1
    | daemonize => exact absurd rfl h.2
    | setupLog =>
      refine ⟨setupLog_keeps env s, ?_⟩
      intro call hcall
      rw [List.mem_singleton.mp hcall]
      exact ⟨fun _ hnone => (by cases hnone), fun _ heq => (by cases heq)⟩
    | checkPidFile =>
      refine ⟨⟨rfl, rfl⟩, ?_⟩
      intro call hcall
      rw [List.mem_singleton.mp hcall]
      exact ⟨fun _ heq => (Option.some.inj heq).symm, fun _ heq => (by cases heq)⟩
    | setupSignals => exact ⟨⟨rfl, rfl⟩, fun call hcall => absurd hcall List.not_mem_nil⟩
    | initDevice => exact ⟨initDevice_keeps s, fun call hcall => absurd hcall List.not_mem_nil⟩
    | initHandler => exact ⟨writeLog_keeps s _ _, fun call hcall => absurd hcall List.not_mem_nil⟩
    | startListener => exact ⟨⟨rfl, rfl⟩, fun call hcall => absurd hcall List.not_mem_nil⟩
    | removePidFile =>
      refine ⟨removePidFile_keeps env s, ?_⟩
      intro call hcall
      rw [List.mem_singleton.mp hcall]
      exact ⟨fun _ heq => (Option.some.inj heq).symm, fun _ heq => (by cases heq)⟩

theorem processConfig_spec (env : Surroundings) (s : Program) :
    (attempt env s .processConfig).outputs = [] ∧
      ((attempt env s .processConfig).thrown = none →
        (attempt env s .processConfig).state =
          { s with config := s.config.parse env.buttons env.conf env.cmdLine } ∧
        (s.config.parse env.buttons env.conf env.cmdLine).ok = true ∧
        (s.config.parse env.buttons env.conf env.cmdLine).help = false ∧
        (s.config.parse env.buttons env.conf env.cmdLine).version = false) := by
  rcases attempt_cases env s .processConfig with ⟨what, hattempt⟩ | ⟨hstate, houtputs, hthrown⟩
  · rw [hattempt]
    exact ⟨rfl, fun h => (by cases h)⟩
  · rw [hstate, houtputs]
    simp only [exec, processConfig] at hthrown ⊢
    split_ifs at hthrown ⊢ with hok hhelp hversion
    · exact ⟨rfl, fun h => (hthrown h).elim⟩
    · exact ⟨rfl, fun h => (hthrown h).elim⟩
    · exact ⟨rfl, fun h => (hthrown h).elim⟩
    · refine ⟨rfl, fun _ => ⟨rfl, ?_, ?_, ?_⟩⟩
      · exact Bool.eq_true_of_not_eq_false hok
      · exact Bool.eq_false_of_not_eq_true hhelp
      · exact Bool.eq_false_of_not_eq_true hversion

theorem writePidFile_spec (env : Surroundings) (s : Program) :
    (s.writePidFile env).outputs = [.creat s.pidfilePath] ∧ s.Keeps (s.writePidFile env).state := by
  simp only [writePidFile]
  split
  · exact ⟨rfl, rfl, rfl⟩
  · exact ⟨rfl, rfl, rfl⟩

/-- `daemonize` creates the file that the path leads to from the directory of the daemon. -/
theorem daemonize_spec (env : Surroundings) (s : Program) :
    (attempt env s .daemonize).outputs = [] ∨
      ((attempt env s .daemonize).outputs =
          [.creat (resolvePath (daemonCwd s.config.foreground s.cwd) s.config.pidfile)] ∧
        (attempt env s .daemonize).state.cwd = daemonCwd s.config.foreground s.cwd ∧
        (attempt env s .daemonize).state.config = s.config) := by
  rcases attempt_cases env s .daemonize with ⟨what, hattempt⟩ | ⟨hstate, houtputs, -⟩
  · left
    rw [hattempt]
  · rw [hstate, houtputs, exec]
    rcases daemonize_cases env s with ⟨what, -, hthrown⟩ | hwrites
    · left
      rw [hthrown]
    · right
      rw [hwrites]
      obtain ⟨hcreat, hkeeps⟩ :=
        writePidFile_spec env { s with cwd := daemonCwd s.config.foreground s.cwd }
      exact ⟨hcreat, hkeeps⟩

/-- A sequence of settled steps acts on one pid file, and does not create it. -/
theorem run_settled (env : Surroundings) (s : Program) {steps : List RunStep}
    (hsteps : ∀ step ∈ steps, settled step) :
    s.Keeps (Attempt.run (attempt env) s steps).state ∧
      ∀ call ∈ (Attempt.run (attempt env) s steps).outputs,
        (∀ file, call.pidFile? = some file → file = s.pidfilePath) ∧
          ∀ file, call ≠ .creat file := by
  refine Attempt.run_invariant s.Keeps _ steps ?_ ⟨rfl, rfl⟩
  intro t step hstep ht
  obtain ⟨hkeeps, hcalls⟩ := attempt_settled env t (hsteps step hstep)
  rw [ht.pidfilePath] at hcalls
  exact ⟨ht.trans hkeeps, hcalls⟩

theorem checkPidFile_tests {env : Surroundings} {s : Program}
    (h : (attempt env s .checkPidFile).thrown = none) :
    (attempt env s .checkPidFile).outputs = [.openRead s.pidfilePath] := by
  rw [attempt_returned h]
  rfl

/-- What follows the `try` block is at most another `unlink`. -/
theorem finish_calls (env : Surroundings) (r : StepOutcome) :
    (finish env r).calls = r.outputs ∨
      (finish env r).calls = r.outputs ++ [.unlink r.state.pidfilePath] := by
  obtain ⟨s, calls, thrown⟩ := r
  cases thrown with
  | none => exact Or.inl rfl
  | some t =>
    cases t with
    | exception what => exact Or.inl rfl
    | std what =>
      right
      simp only [finish]
      rw [(writeLog_keeps s what .fatal).pidfilePath]

/-! ### Files that stay -/

theorem update_isSome {files : FileSystem} {file other : FilePath} {content : Option (List String)}
    (h : (files file).isSome = true) (hcontent : file = other → content.isSome = true) :
    (Function.update files other content file).isSome = true := by
  by_cases hfile : file = other
  · rw [hfile, Function.update_self]
    exact hcontent hfile
  · rw [Function.update_of_ne hfile]
    exact h

theorem writeLog_isSome {s : Program} {file : FilePath} (h : (s.files file).isSome = true)
    (msg : String) (level : LogLevel) : ((s.writeLog msg level).files file).isSome = true := by
  simp only [writeLog]
  split
  · split_ifs
    · apply update_isSome h
      intro hfile
      rw [← hfile, Option.isSome_map]
      exact h
    · exact h
  · exact h

theorem initDevice_isSome {s : Program} {file : FilePath} (h : (s.files file).isSome = true) :
    (s.initDevice.files file).isSome = true :=
  initDevice_invariant (fun t => (t.files file).isSome = true)
    (fun _ msg ht => writeLog_isSome ht msg .info) s h

theorem setupLog_files (env : Surroundings) (s : Program) :
    (s.setupLog env).state.files =
      match (resolvePath s.cwd s.config.logfile).filter env.canCreate with
      | some file =>
        Function.update s.files file (some (logBeginning s.config.loglevel (s.timestamps 0)))
      | none => s.files := by
  simp only [setupLog]
  cases (resolvePath s.cwd s.config.logfile).filter env.canCreate with
  | none => rfl
  | some file =>
    simp only [writeLog, logBeginning]
    split_ifs
    · simp
    · rfl

/-- The log file is created or emptied, and no file is removed. -/
theorem setupLog_isSome_iff (env : Surroundings) (s : Program) (file : FilePath) :
    ((s.setupLog env).state.files file).isSome = true ↔ (s.files file).isSome = true ∨
      (resolvePath s.cwd s.config.logfile = some file ∧ env.canCreate file = true) := by
  rw [setupLog_files]
  cases hopened : (resolvePath s.cwd s.config.logfile).filter env.canCreate with
  | none =>
    have hclosed : ¬(resolvePath s.cwd s.config.logfile = some file ∧
        env.canCreate file = true) := by
      rintro ⟨hpath, hcreate⟩
      rw [hpath, Option.filter_some, if_pos hcreate] at hopened
      cases hopened
    exact (or_iff_left hclosed).symm
  | some opened =>
    obtain ⟨hpath, hcreate⟩ := Option.filter_eq_some_iff.mp hopened
    dsimp only
    by_cases hfile : file = opened
    · rw [hfile, Function.update_self]
      exact iff_of_true rfl (Or.inr ⟨hpath, hcreate⟩)
    · rw [Function.update_of_ne hfile]
      refine (or_iff_left ?_).symm
      rintro ⟨hpath', -⟩
      exact hfile (Option.some.inj (hpath'.symm.trans hpath))

theorem setupLog_isSome (env : Surroundings) {s : Program} {file : FilePath}
    (h : (s.files file).isSome = true) : ((s.setupLog env).state.files file).isSome = true :=
  (setupLog_isSome_iff env s file).mpr (Or.inl h)

/-- `writePidFile` leaves a file behind when it returns. -/
theorem writePidFile_isSome {env : Surroundings} {s : Program}
    (h : (s.writePidFile env).thrown = none) :
    ∃ file, s.pidfilePath = some file ∧ ((s.writePidFile env).state.files file).isSome = true := by
  simp only [writePidFile] at h ⊢
  cases hfile : s.pidfilePath.filter env.canCreate with
  | none =>
    rw [hfile] at h
    cases h
  | some file =>
    refine ⟨file, (Option.filter_eq_some_iff.mp hfile).1, ?_⟩
    dsimp only
    rw [Function.update_self]
    rfl

theorem daemonize_isSome {env : Surroundings} {s : Program}
    (h : (attempt env s .daemonize).thrown = none) :
    ∃ file, resolvePath (daemonCwd s.config.foreground s.cwd) s.config.pidfile = some file ∧
      ((attempt env s .daemonize).state.files file).isSome = true := by
  have hreturned := attempt_returned h
  rw [hreturned, exec] at h
  rw [hreturned, exec]
  rcases daemonize_cases env s with ⟨what, -, hthrown⟩ | hwrites
  · rw [hthrown] at h
    cases h
  · rw [hwrites] at h ⊢
    exact writePidFile_isSome h

theorem checkPidFile_found {s : Program} {file : FilePath} (hpath : s.pidfilePath = some file)
    (hfile : (s.files file).isSome = true) :
    s.checkPidFile.thrown = some (.exception .alreadyRunning) := by
  apply if_pos
  rw [hpath, Option.bind_some]
  exact hfile

end Program

end PSMoveInput

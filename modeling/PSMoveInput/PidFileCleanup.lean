import PSMoveInput.PidFilePaths

/-! Which runs remove the pid file. A `std::exception` removes it wherever it has been raised, and
the exceptions of the program leave it alone. -/
namespace PSMoveInput

open Attempt

/-- `writePidFile` has succeeded. -/
def CreatedPidFile (env : Surroundings) (calls : List FileCall) : Prop :=
  ∃ file, .creat (some file) ∈ calls ∧ env.canCreate file = true

/-- `removePidFile` has been called. -/
def RemovedPidFile (calls : List FileCall) : Prop := ∃ file, .unlink file ∈ calls

/-- `checkPidFile` finds a file, which `setupLog` may have created. -/
def PidFileFound (env : Surroundings) (config : Config) (cwd : FilePath) (files : FileSystem) :
    Prop :=
  ∃ file, resolvePath cwd config.pidfile = some file ∧
    ((files file).isSome = true ∨
      (resolvePath cwd config.logfile = some file ∧ env.canCreate file = true))

/-- The configuration is valid, and neither help nor the version is requested. -/
def Config.Starts (config : Config) : Prop :=
  config.ok = true ∧ config.help = false ∧ config.version = false

def Surroundings.RaisesEarly (env : Surroundings) (step : RunStep) : Prop :=
  ∃ what, env.fault step = some (.early what)

/-- No step raises a `std::exception` before `writePidFile`. A step that throws by itself ends the
run, and what could be raised after that is not. -/
structure QuietUntilCreated (env : Surroundings) (config : Config) (cwd : FilePath)
    (files : FileSystem) : Prop where
  processConfig : ¬env.RaisesEarly .processConfig
  starts : config.Starts →
    env.fault .processConfig = none ∧ env.fault .setupLog = none ∧
      ¬env.RaisesEarly .checkPidFile
  unfound : config.Starts → ¬PidFileFound env config cwd files →
    env.fault .checkPidFile = none ∧ ¬env.RaisesEarly .daemonize

namespace Program

/-- A `std::exception` has left the `try` block. -/
def RaisesStd (r : StepOutcome) : Prop := ∃ what, r.thrown = some (.std what)

/-! ### Single steps -/

theorem attempt_returned_iff (env : Surroundings) (s : Program) {step : RunStep}
    (hstep : step ≠ .removePidFile) :
    (attempt env s step).thrown = none ↔
      (s.exec env step).thrown = none ∧ env.fault step = none := by
  have hfault : env.faultAt step = env.fault step := if_neg hstep
  rw [← hfault]
  rcases attempt_inv env s step with
    ⟨what, hearly, hattempt⟩ | ⟨what, hlate, -, hattempt⟩ | ⟨-, hnone, hattempt⟩
  · rw [hattempt, hearly]
    exact iff_of_false nofun nofun
  · rw [hattempt, hlate]
    exact iff_of_false nofun nofun
  · rw [hattempt]
    exact (and_iff_left_of_imp hnone).symm

/-- A step raises a `std::exception` before anything else, or when it has done what it should. -/
theorem attempt_raises_iff (env : Surroundings) (s : Program) {step : RunStep}
    (hstep : step ≠ .removePidFile) :
    RaisesStd (attempt env s step) ↔
      env.RaisesEarly step ∨ ((s.exec env step).thrown = none ∧ env.fault step ≠ none) := by
  have hfault : env.faultAt step = env.fault step := if_neg hstep
  rw [Surroundings.RaisesEarly, ← hfault]
  rcases attempt_inv env s step with
    ⟨what, hearly, hattempt⟩ | ⟨what, hlate, hexec, hattempt⟩ | ⟨hquiet, hnone, hattempt⟩
  · rw [hattempt]
    exact iff_of_true ⟨what, rfl⟩ (Or.inl ⟨what, hearly⟩)
  · rw [hattempt, hlate]
    exact iff_of_true ⟨what, rfl⟩ (Or.inr ⟨hexec, Option.some_ne_none _⟩)
  · apply iff_of_false
    · rintro ⟨what, hstd⟩
      rw [hattempt] at hstd
      obtain ⟨what', -, heq⟩ := exec_thrown hstd
      cases heq
    · rintro (⟨what, hearly⟩ | ⟨hexec, hfault'⟩)
      · exact hquiet what hearly
      · exact hfault' (hnone hexec)

/-- The sequence raises a `std::exception`, or what follows it does before anything else. -/
def RaisesBefore (env : Surroundings) (next : RunStep) (r : StepOutcome) : Prop :=
  RaisesStd r ∨ (r.thrown = none ∧ env.RaisesEarly next)

theorem raisesBefore_cons (env : Surroundings) (s : Program) {step : RunStep}
    (hstep : step ≠ .removePidFile) (steps : List RunStep) (next : RunStep) :
    RaisesBefore env next (Attempt.run (attempt env) s (step :: steps)) ↔
      env.RaisesEarly step ∨ ((s.exec env step).thrown = none ∧ (env.fault step ≠ none ∨
        RaisesBefore env next (Attempt.run (attempt env) (s.exec env step).state steps))) := by
  have hraises := attempt_raises_iff env s hstep
  cases hthrown : (attempt env s step).thrown with
  | some t =>
    have hbefore : RaisesBefore env next (attempt env s step) ↔ RaisesStd (attempt env s step) := by
      apply or_iff_left
      rintro ⟨hnone, -⟩
      rw [hthrown] at hnone
      cases hnone
    rw [Attempt.run_cons_thrown hthrown, hbefore, hraises]
    apply or_congr_right
    apply and_congr_right
    intro hexec
    refine (or_iff_left_of_imp ?_).symm
    intro _ hfault
    rw [(attempt_returned_iff env s hstep).mpr ⟨hexec, hfault⟩] at hthrown
    cases hthrown
  | none =>
    obtain ⟨hexec, hfault⟩ := (attempt_returned_iff env s hstep).mp hthrown
    have hquiet : ¬env.RaisesEarly step := by
      rintro ⟨what, hearly⟩
      rw [hfault] at hearly
      cases hearly
    rw [Attempt.run_cons_returned hthrown, attempt_returned hthrown, or_iff_right hquiet,
      and_iff_right hexec, or_iff_right (not_not_intro hfault)]
    exact Iff.rfl

theorem processConfig_state (env : Surroundings) (s : Program) :
    (s.processConfig env).state =
      { s with config := s.config.parse env.buttons env.conf env.cmdLine } := by
  simp only [processConfig]
  split_ifs <;> rfl

theorem processConfig_returns_iff (env : Surroundings) (s : Program) :
    (s.processConfig env).thrown = none ↔
      (s.config.parse env.buttons env.conf env.cmdLine).Starts := by
  simp only [processConfig, Config.Starts]
  cases (s.config.parse env.buttons env.conf env.cmdLine).ok <;>
    cases (s.config.parse env.buttons env.conf env.cmdLine).help <;>
    cases (s.config.parse env.buttons env.conf env.cmdLine).version <;> simp

theorem checkPidFile_returns_iff (env : Surroundings) (s : Program) :
    (setupLog env s).state.checkPidFile.thrown = none ↔
      ¬PidFileFound env s.config s.cwd s.files := by
  have hpath : (setupLog env s).state.pidfilePath = resolvePath s.cwd s.config.pidfile :=
    (setupLog_keeps env s).pidfilePath
  have hfound : ((setupLog env s).state.pidfilePath.bind (setupLog env s).state.files).isSome =
      true ↔ PidFileFound env s.config s.cwd s.files := by
    simp only [PidFileFound, ← setupLog_isSome_iff, hpath]
    cases resolvePath s.cwd s.config.pidfile with
    | none => exact iff_of_false Bool.false_ne_true fun ⟨_, h, _⟩ => (by cases h)
    | some file =>
      rw [Option.bind_some]
      constructor
      · intro h
        exact ⟨file, rfl, h⟩
      · rintro ⟨file', hfile, h⟩
        rw [Option.some.inj hfile]
        exact h
  rw [← hfound, checkPidFile]
  split_ifs with h
  · exact iff_of_false not_false (not_not_intro h)
  · exact iff_of_true rfl h

/-- Before `writePidFile` a `std::exception` is raised unless the condition holds. -/
theorem checkSteps_raises_iff (env : Surroundings) (s : Program) :
    RaisesBefore env .daemonize (Attempt.run (attempt env) s checkSteps) ↔
      ¬QuietUntilCreated env (s.config.parse env.buttons env.conf env.cmdLine) s.cwd s.files := by
  rw [checkSteps, raisesBefore_cons env s (by decide), exec, processConfig_returns_iff,
    processConfig_state, raisesBefore_cons env _ (by decide), exec,
    raisesBefore_cons env _ (by decide), exec, checkPidFile_returns_iff]
  have hlog (t : Program) : (setupLog env t).thrown = none := rfl
  have hend (t : Program) : RaisesBefore env .daemonize (Attempt.run (attempt env) t []) ↔
      env.RaisesEarly .daemonize := by
    simp [RaisesBefore, RaisesStd, Attempt.run]
  rw [and_iff_right (hlog _), hend]
  constructor
  · rintro h ⟨hparse, hstarts, hunfound⟩
    rcases h with h | ⟨hconfig, h⟩
    · exact hparse h
    obtain ⟨hparse', hlog', hcheck⟩ := hstarts hconfig
    rcases h with h | ⟨what, h⟩ | h | h | ⟨hnone, h⟩
    · exact h hparse'
    · rw [hlog'] at h
      cases h
    · exact h hlog'
    · exact hcheck h
    · obtain ⟨hcheck', hdaemonize⟩ := hunfound hconfig hnone
      rcases h with h | h
      · exact h hcheck'
      · exact hdaemonize h
  · intro h
    by_contra hnone
    obtain ⟨hparse, hnone⟩ := not_or.mp hnone
    have hsteps (hconfig : (s.config.parse env.buttons env.conf env.cmdLine).Starts) :=
      not_or.mp fun h => hnone ⟨hconfig, h⟩
    have hlater (hconfig : (s.config.parse env.buttons env.conf env.cmdLine).Starts) :=
      not_or.mp (not_or.mp (not_or.mp (hsteps hconfig).2).2).2
    apply h
    constructor
    · exact hparse
    · intro hconfig
      have hlog' := (not_or.mp (not_or.mp (hsteps hconfig).2).2).1
      exact ⟨not_not.mp (hsteps hconfig).1, not_not.mp hlog', (hlater hconfig).1⟩
    · intro hconfig hunfound
      have hcheck := not_or.mp fun h => (hlater hconfig).2 ⟨hunfound, h⟩
      exact ⟨not_not.mp hcheck.1, hcheck.2⟩

/-! ### Calls on the pid file -/

theorem checkSteps_calls (env : Surroundings) (s : Program) :
    ∀ call ∈ (Attempt.run (attempt env) s checkSteps).outputs,
      (∀ file, call ≠ .creat file) ∧ ∀ file, call ≠ .unlink file := by
  refine (Attempt.run_invariant (fun _ => True) _ checkSteps ?_ trivial).2
  intro t step hstep _
  refine ⟨trivial, ?_⟩
  rcases attempt_cases env t step with ⟨what, hattempt⟩ | ⟨-, houtputs, -⟩
  · rw [hattempt]
    exact fun call hcall => absurd hcall List.not_mem_nil
  · rw [houtputs]
    simp only [checkSteps, List.mem_cons, List.not_mem_nil, or_false] at hstep
    intro call hcall
    rcases hstep with rfl | rfl | rfl
    · have hnone : (t.exec env .processConfig).outputs = [] := by
        simp only [exec, processConfig]
        split_ifs <;> rfl
      rw [hnone] at hcall
      exact absurd hcall List.not_mem_nil
    · rw [List.mem_singleton.mp hcall]
      exact ⟨fun _ h => (by cases h), fun _ h => (by cases h)⟩
    · rw [List.mem_singleton.mp hcall]
      exact ⟨fun _ h => (by cases h), fun _ h => (by cases h)⟩

/-- `daemonize` returns if and only if the pid file has been created, and it removes nothing. -/
theorem daemonize_calls (env : Surroundings) (s : Program) :
    ((s.daemonize env).thrown = none ↔ CreatedPidFile env (s.daemonize env).outputs) ∧
      ¬RemovedPidFile (s.daemonize env).outputs := by
  rcases daemonize_cases env s with ⟨what, -, hthrown⟩ | hwrites
  · rw [hthrown]
    constructor
    · exact iff_of_false (Option.some_ne_none _) fun ⟨_, h, _⟩ => absurd h List.not_mem_nil
    · exact fun ⟨_, h⟩ => absurd h List.not_mem_nil
  · rw [hwrites]
    generalize ({ s with cwd := daemonCwd s.config.foreground s.cwd } : Program) = t
    rw [CreatedPidFile, RemovedPidFile, (writePidFile_spec env t).1]
    refine ⟨?_, fun ⟨_, h⟩ => (by cases List.mem_singleton.mp h)⟩
    simp only [writePidFile]
    cases hcreat : t.pidfilePath.filter env.canCreate with
    | some file =>
      obtain ⟨hpath, hcreate⟩ := Option.filter_eq_some_iff.mp hcreat
      rw [hpath]
      exact iff_of_true rfl ⟨file, List.mem_singleton_self _, hcreate⟩
    | none =>
      apply iff_of_false (Option.some_ne_none _)
      rintro ⟨file, hfile, hcreate⟩
      have hpath : some file = t.pidfilePath := FileCall.creat.inj (List.mem_singleton.mp hfile)
      rw [← hpath, Option.filter_some, if_pos hcreate] at hcreat
      cases hcreat

/-- After `daemonize` only a `std::exception` keeps a run from `removePidFile`. -/
theorem serveSteps_removes (env : Surroundings) (s : Program) :
    let r := Attempt.run (attempt env) s serveSteps
    RaisesStd r ∨ (r.thrown = none ∧ RemovedPidFile r.outputs) := by
  intro r
  cases hthrown : r.thrown with
  | some t =>
    left
    have hstd : ∃ what, t = .std what := by
      refine Attempt.run_thrown (fun t => ∃ what, t = .std what) serveSteps ?_ hthrown
      intro s step hstep t ht
      rcases attempt_thrown ht with hstd | ⟨what, hwhat, -⟩
      · exact hstd
      · have hnone : step.throws = [] := by
          simp only [serveSteps, List.mem_cons, List.not_mem_nil, or_false] at hstep
          rcases hstep with rfl | rfl | rfl | rfl | rfl <;> rfl
        rw [hnone] at hwhat
        exact absurd hwhat List.not_mem_nil
    obtain ⟨what, rfl⟩ := hstd
    exact ⟨what, hthrown⟩
  | none =>
    right
    refine ⟨rfl, ?_⟩
    have hsplit : serveSteps =
        [.setupSignals, .initDevice, .initHandler, .startListener] ++ [.removePidFile] := rfl
    have hthrown' : (Attempt.run (attempt env) s serveSteps).thrown = none := hthrown
    rw [hsplit] at hthrown'
    obtain ⟨hserved, hlast⟩ := Attempt.returned_of_append hthrown'
    have hremoved := (Attempt.returned_of_cons hlast).1
    have hr : r = _ := Attempt.run_append_returned hserved [.removePidFile]
    rw [hr, Attempt.run_cons_returned hremoved, attempt_returned hremoved]
    exact ⟨_, List.mem_append_right _ (List.mem_append_left _ List.mem_cons_self)⟩

theorem created_append (env : Surroundings) (before after : List FileCall) :
    CreatedPidFile env (before ++ after) ↔
      CreatedPidFile env before ∨ CreatedPidFile env after := by
  simp only [CreatedPidFile, List.mem_append, or_and_right, exists_or]

theorem removed_append (before after : List FileCall) :
    RemovedPidFile (before ++ after) ↔ RemovedPidFile before ∨ RemovedPidFile after := by
  simp only [RemovedPidFile, List.mem_append, exists_or]

/-- The pid file has been cleaned up, or it will be in the handler of `std::exception`, exactly if
it has been created. -/
def CleansUp (env : Surroundings) (r : StepOutcome) : Prop :=
  RaisesStd r ∨ RemovedPidFile r.outputs ↔ CreatedPidFile env r.outputs

theorem finish_cleansUp (env : Surroundings) (r : StepOutcome) :
    (RemovedPidFile (finish env r).calls ↔ CreatedPidFile env (finish env r).calls) ↔
      CleansUp env r := by
  obtain ⟨s, calls, thrown⟩ := r
  have hcalm (hthrown : ∀ what, thrown ≠ some (.std what)) :
      ¬RaisesStd ⟨s, calls, thrown⟩ := fun ⟨what, h⟩ => hthrown what h
  rw [CleansUp]
  cases thrown with
  | none => rw [or_iff_right (hcalm fun what h => (by cases h))]; rfl
  | some t =>
    cases t with
    | exception what => rw [or_iff_right (hcalm fun what h => (by cases h))]; rfl
    | std what =>
      have hcreated (file : Option FilePath) : ¬CreatedPidFile env [.unlink file] :=
        fun ⟨_, h, _⟩ => (by cases List.mem_singleton.mp h)
      simp only [finish, created_append, removed_append]
      rw [or_iff_left (hcreated _)]
      apply iff_congr _ Iff.rfl
      apply iff_of_true
      · exact Or.inr ⟨_, List.mem_singleton_self _⟩
      · exact Or.inl ⟨what, rfl⟩

/-- From `daemonize` on a run cleans up, unless a `std::exception` comes before `writePidFile`. -/
theorem daemonize_cleansUp (env : Surroundings) (s : Program) :
    CleansUp env (Attempt.run (attempt env) s (.daemonize :: serveSteps)) ↔
      ¬env.RaisesEarly .daemonize := by
  obtain ⟨hcreated, hremoved⟩ := daemonize_calls env s
  by_cases hearly : env.RaisesEarly .daemonize
  · obtain ⟨what, hfault⟩ := hearly
    have hraised : env.faultAt .daemonize = some (.early what) := hfault
    have hattempt := attempt_early hraised s
    rw [Attempt.run_cons_thrown (congrArg Outcome.thrown hattempt), hattempt]
    apply iff_of_false
    · intro h
      obtain ⟨file, hfile, -⟩ := h.mp (Or.inl ⟨what, rfl⟩)
      exact absurd hfile List.not_mem_nil
    · exact not_not_intro ⟨what, hfault⟩
  · refine iff_of_true ?_ hearly
    have hfault : ∀ what, env.faultAt .daemonize ≠ some (.early what) := not_exists.mp hearly
    cases hthrown : (s.exec env .daemonize).thrown with
    | some t =>
      -- an exception of the program, and no file
      have hattempt : attempt env s .daemonize = s.daemonize env := attempt_throws hfault hthrown
      have hends : (attempt env s .daemonize).thrown = some t := by
        rw [hattempt]
        exact hthrown
      obtain ⟨what, -, rfl⟩ := exec_thrown hthrown
      rw [Attempt.run_cons_thrown hends, hattempt]
      apply iff_of_false
      · rintro (⟨what', hstd⟩ | h)
        · cases hthrown.symm.trans hstd
        · exact hremoved h
      · intro h
        cases hthrown.symm.trans (hcreated.mpr h)
    | none =>
      have hfile : CreatedPidFile env (attempt env s .daemonize).outputs := by
        rw [attempt_outputs hfault]
        exact hcreated.mp hthrown
      cases hends : (attempt env s .daemonize).thrown with
      | none =>
        rw [Attempt.run_cons_returned hends]
        apply iff_of_true
        · rcases serveSteps_removes env (attempt env s .daemonize).state with hstd | ⟨-, hremoves⟩
          · exact Or.inl hstd
          · exact Or.inr ((removed_append _ _).mpr (Or.inr hremoves))
        · exact (created_append env _ _).mpr (Or.inl hfile)
      | some t =>
        rw [Attempt.run_cons_thrown hends]
        refine iff_of_true (Or.inl ?_) hfile
        apply (attempt_raises_iff env s (by decide)).mpr
        refine Or.inr ⟨hthrown, ?_⟩
        intro hnone
        rw [(attempt_returned_iff env s (by decide)).mpr ⟨hthrown, hnone⟩] at hends
        cases hends

/-- The steps before `daemonize` neither create the file nor remove it. -/
theorem run_cleansUp (env : Surroundings) (s : Program) :
    CleansUp env (Attempt.run (attempt env) s runSteps) ↔
      ¬RaisesBefore env .daemonize (Attempt.run (attempt env) s checkSteps) := by
  have hcalls := checkSteps_calls env s
  have hcreated : ¬CreatedPidFile env (Attempt.run (attempt env) s checkSteps).outputs :=
    fun ⟨_, h, _⟩ => (hcalls _ h).1 _ rfl
  have hremoved : ¬RemovedPidFile (Attempt.run (attempt env) s checkSteps).outputs :=
    fun ⟨_, h⟩ => (hcalls _ h).2 _ rfl
  rw [runSteps_eq]
  cases hthrown : (Attempt.run (attempt env) s checkSteps).thrown with
  | some t =>
    rw [Attempt.run_append_thrown hthrown, CleansUp, or_iff_left hremoved, iff_false_right hcreated,
      RaisesBefore, hthrown]
    exact not_congr (or_iff_left fun h => (by cases h.1)).symm
  | none =>
    have hquiet : ¬RaisesStd (Attempt.run (attempt env) s checkSteps) := by
      rintro ⟨what, hstd⟩
      cases hthrown.symm.trans hstd
    rw [RaisesBefore, or_iff_right hquiet, and_iff_right hthrown, ← daemonize_cleansUp env
      (Attempt.run (attempt env) s checkSteps).state, Attempt.run_append_returned hthrown, CleansUp,
      CleansUp, removed_append, created_append, or_iff_right hremoved, or_iff_right hcreated]
    exact Iff.rfl

end Program

/-- A run removes the pid file exactly if it has created it, if and only if no step raises a
`std::exception` before `writePidFile`. -/
theorem removes_own_iff (env : Surroundings) (coeffs : MoveCoeffs) (cwd : FilePath)
    (files : FileSystem) :
    let calls := ((Program.init env coeffs cwd files).run env).calls
    (RemovedPidFile calls ↔ CreatedPidFile env calls) ↔
      QuietUntilCreated env ((Config.new env.conf coeffs).parse env.buttons env.conf env.cmdLine)
        cwd files := by
  intro calls
  have hraises := (Program.init env coeffs cwd files).checkSteps_raises_iff env
  have hcleans := (Program.init env coeffs cwd files).run_cleansUp env
  rw [hraises, not_not] at hcleans
  exact (Program.finish_cleansUp env _).trans hcleans

/-- A foreground process that runs out of memory in `setupLog`. -/
def exhaustedSurroundings : Surroundings :=
  { pidSurroundings "/run/psmoveinput.pid" with
    cmdLine := .ok { plainCmdLine with pidfile := some "/run/psmoveinput.pid", foreground := true }
    fault := fun step => if step = .setupLog then some (.early "std::bad_alloc") else none }

/-- It removes the pid file of the instance that runs. -/
theorem removes_foreign_pid_file :
    let r := (Program.init exhaustedSurroundings ⟨1, 1⟩ [] runningFiles).run exhaustedSurroundings
    r.state.config.foreground = true ∧ runningFiles ["psmoveinput.pid", "run"] = some ["1111"] ∧
      r.calls = [.unlink (some ["psmoveinput.pid", "run"])] ∧
      r.state.files ["psmoveinput.pid", "run"] = none ∧ r.retval = retvalFail ∧
      ¬(RemovedPidFile r.calls ↔ CreatedPidFile exhaustedSurroundings r.calls) := by
  intro r
  have hcalls : r.calls = [.unlink (some ["psmoveinput.pid", "run"])] := by decide +kernel
  refine ⟨by decide +kernel, rfl, hcalls, by decide +kernel, by decide +kernel, ?_⟩
  rw [hcalls]
  intro h
  obtain ⟨file, hfile, -⟩ := h.mp ⟨_, List.mem_singleton_self _⟩
  cases List.mem_singleton.mp hfile

end PSMoveInput

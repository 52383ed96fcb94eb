import PSMoveInput.ConfigSources
import PSMoveInput.ProgramSteps

/-! The pid file that the steps of one run test, create and remove. All of them resolve the path of
the configuration, and `daemonize` changes the working directory between them. -/
namespace PSMoveInput

open Paths Attempt

/-- All calls on the pid file act on one file. -/
def OneFile (calls : List FileCall) : Prop :=
  ∀ call ∈ calls, ∀ call' ∈ calls, ∀ file file', call.pidFile? = some file →
    call'.pidFile? = some file' → file = file'

/-- The path still leads to the same file when the working directory is the one of a daemon. -/
def KeepsPidPath (foreground : Bool) (cwd : FilePath) (path : String) : Prop :=
  foreground = true ∨ path = "" ∨ isAbsolute path = true ∨
    cwd.length ≤ climb 0 (pathComponents path)

theorem resolvePath_root_iff (cwd : FilePath) (path : String) :
    resolvePath cwd path = resolvePath [] path ↔
      path = "" ∨ isAbsolute path = true ∨ cwd.length ≤ climb 0 (pathComponents path) := by
  by_cases hempty : path = ""
  · subst hempty
    exact iff_of_true rfl (Or.inl rfl)
  · by_cases habsolute : isAbsolute path = true
    · apply iff_of_true
      · simp only [resolvePath, if_neg hempty, if_pos habsolute]
      · exact Or.inr (Or.inl habsolute)
    · simp only [resolvePath, if_neg hempty, if_neg habsolute, Option.some.injEq]
      rw [resolve_root_iff]
      constructor
      · intro h
        exact Or.inr (Or.inr h)
      · intro h
        rcases h with h | h | h
        · exact absurd h hempty
        · exact absurd h habsolute
        · exact h

theorem keepsPidPath_iff (foreground : Bool) (cwd : FilePath) (path : String) :
    resolvePath cwd path = resolvePath (daemonCwd foreground cwd) path ↔
      KeepsPidPath foreground cwd path := by
  cases foreground with
  | true => exact iff_of_true rfl (Or.inl rfl)
  | false =>
    rw [show daemonCwd false cwd = [] from rfl, resolvePath_root_iff]
    exact (or_iff_right Bool.false_ne_true).symm

namespace Program

/-! ### Runs -/

/-- The steps before `daemonize`, and the ones after it. -/
def checkSteps : List RunStep := [.processConfig, .setupLog, .checkPidFile]

def serveSteps : List RunStep :=
  [.setupSignals, .initDevice, .initHandler, .startListener, .removePidFile]

theorem runSteps_eq : runSteps = checkSteps ++ .daemonize :: serveSteps := rfl

theorem serveSteps_settled : ∀ step ∈ serveSteps, settled step := by
  intro step hstep
  simp only [serveSteps, List.mem_cons, List.not_mem_nil, or_false] at hstep
  rcases hstep with rfl | rfl | rfl | rfl | rfl <;> exact ⟨by decide, by decide⟩

/-- The steps before `daemonize` do not create the pid file. If none of them throws, it has been
tested. -/
theorem checkSteps_spec (env : Surroundings) (s : Program) :
    let r := Attempt.run (attempt env) s checkSteps
    let config := s.config.parse env.buttons env.conf env.cmdLine
    (∀ file, .creat file ∉ r.outputs) ∧
      (r.thrown = none → r.state.cwd = s.cwd ∧ r.state.config = config ∧
        (∀ call ∈ r.outputs, ∀ file, call.pidFile? = some file →
          file = resolvePath s.cwd config.pidfile) ∧
        .openRead (resolvePath s.cwd config.pidfile) ∈ r.outputs) := by
  intro r config
  obtain ⟨hcalls, hparsed⟩ := processConfig_spec env s
  cases hthrown : (attempt env s .processConfig).thrown with
  | some t =>
    have hr : r = attempt env s .processConfig := Attempt.run_cons_thrown hthrown _
    rw [hr, hcalls, hthrown]
    exact ⟨fun _ => List.not_mem_nil, fun h => (by cases h)⟩
  | none =>
    obtain ⟨hstate, -⟩ := hparsed hthrown
    have hr := Attempt.run_cons_returned hthrown [.setupLog, .checkPidFile]
    rw [hcalls, List.nil_append, hstate] at hr
    have hrest : ∀ step ∈ [RunStep.setupLog, .checkPidFile], settled step := by
      intro step hstep
      simp only [List.mem_cons, List.not_mem_nil, or_false] at hstep
      rcases hstep with rfl | rfl <;> exact ⟨by decide, by decide⟩
    obtain ⟨hkeeps, hpid⟩ := run_settled env { s with config := config } hrest
    have hr' : r =
        Attempt.run (attempt env) { s with config := config } [.setupLog, .checkPidFile] := hr
    rw [hr']
    refine ⟨fun file hfile => (hpid _ hfile).2 file rfl, fun hreturned => ⟨hkeeps.1, hkeeps.2,
      fun call hcall => (hpid call hcall).1, ?_⟩⟩
    -- the last step has returned as well
    obtain ⟨hlog, hcheck⟩ := Attempt.returned_of_cons hreturned
    obtain ⟨hcheck, -⟩ := Attempt.returned_of_cons hcheck
    rw [Attempt.run_cons_returned hlog, Attempt.run_cons_returned hcheck, checkPidFile_tests hcheck]
    have hlogKeeps := attempt_settled env { s with config := config } (hrest .setupLog (by decide))
    rw [hlogKeeps.1.pidfilePath]
    exact List.mem_append_right _ List.mem_cons_self

/-- After `daemonize` everything happens to the file that the path leads to from there. -/
theorem serveSteps_spec (env : Surroundings) (s : Program) :
    let r := Attempt.run (attempt env) s (.daemonize :: serveSteps)
    let t := (attempt env s .daemonize).state
    t.Keeps r.state ∧ ∃ calls, r.outputs = (attempt env s .daemonize).outputs ++ calls ∧
      ∀ call ∈ calls, (∀ file, call.pidFile? = some file → file = t.pidfilePath) ∧
        ∀ file, call ≠ .creat file := by
  intro r t
  cases hthrown : (attempt env s .daemonize).thrown with
  | some e =>
    have hr : r = attempt env s .daemonize := Attempt.run_cons_thrown hthrown _
    rw [hr]
    exact ⟨⟨rfl, rfl⟩, [], (List.append_nil _).symm, fun _ h => absurd h List.not_mem_nil⟩
  | none =>
    obtain ⟨hkeeps, hcalls⟩ := run_settled env t serveSteps_settled
    have hr : r = _ := Attempt.run_cons_returned hthrown serveSteps
    rw [hr]
    exact ⟨hkeeps, _, rfl, hcalls⟩

/-- A run that throws before `daemonize` does not create the pid file. -/
theorem run_unchecked (env : Surroundings) (s : Program)
    (h : (Attempt.run (attempt env) s checkSteps).thrown ≠ none) (file : Option FilePath) :
    .creat file ∉ (run env s).calls := by
  obtain ⟨t, ht⟩ := Option.ne_none_iff_exists'.mp h
  have hsteps := Attempt.run_append_thrown ht (.daemonize :: serveSteps)
  rw [← runSteps_eq] at hsteps
  have hnocreat := (checkSteps_spec env s).1 file
  have hcalls := finish_calls env (Attempt.run (attempt env) s runSteps)
  rw [hsteps] at hcalls
  rw [run, hsteps]
  rcases hcalls with hcalls | hcalls
  · rw [hcalls]
    exact hnocreat
  · rw [hcalls]
    intro hfile
    rcases List.mem_append.mp hfile with hfile | hfile
    · exact hnocreat hfile
    · cases List.mem_singleton.mp hfile

/-- The calls of any other run, in the order of its steps. -/
theorem run_checked (env : Surroundings) (s : Program)
    (h : (Attempt.run (attempt env) s checkSteps).thrown = none) :
    let r := Attempt.run (attempt env) s checkSteps
    let d := attempt env r.state .daemonize
    ∃ later, (run env s).calls = r.outputs ++ (d.outputs ++ later) ∧
      ∀ call ∈ later, (∀ file, call.pidFile? = some file → file = d.state.pidfilePath) ∧
        ∀ file, call ≠ .creat file := by
  intro r d
  have hsteps := Attempt.run_append_returned h (.daemonize :: serveSteps)
  rw [← runSteps_eq] at hsteps
  obtain ⟨hkeeps, served, hserved, hserve⟩ := serveSteps_spec env r.state
  have hcalls := finish_calls env (Attempt.run (attempt env) s runSteps)
  rw [hsteps, hserved, hkeeps.pidfilePath] at hcalls
  rw [run, hsteps, hserved]
  rcases hcalls with hcalls | hcalls
  · exact ⟨served, hcalls, hserve⟩
  · refine ⟨served ++ [.unlink d.state.pidfilePath], ?_, ?_⟩
    · rw [hcalls, List.append_assoc, List.append_assoc]
    · intro call hcall
      rcases List.mem_append.mp hcall with hcall | hcall
      · exact hserve call hcall
      · rw [List.mem_singleton.mp hcall]
        exact ⟨fun _ heq => (Option.some.inj heq).symm, fun _ heq => (by cases heq)⟩

/-- The calls of a run that comes to `writePidFile`: the file that is tested is the one of the
working directory, and the file that is created or removed later is the one of the daemon. -/
theorem run_pidFile (env : Surroundings) (s : Program)
    (hwrites : ∃ file, .creat file ∈ (run env s).calls) :
    let config := s.config.parse env.buttons env.conf env.cmdLine
    let tested := resolvePath s.cwd config.pidfile
    let created := resolvePath (daemonCwd config.foreground s.cwd) config.pidfile
    .openRead tested ∈ (run env s).calls ∧ .creat created ∈ (run env s).calls ∧
      ∀ call ∈ (run env s).calls, ∀ file, call.pidFile? = some file →
        file = tested ∨ file = created := by
  intro config tested created
  obtain ⟨file, hfile⟩ := hwrites
  have hthrown : (Attempt.run (attempt env) s checkSteps).thrown = none := by
    by_contra hthrown
    exact run_unchecked env s hthrown file hfile
  obtain ⟨hnocreat, hchecked⟩ := checkSteps_spec env s
  obtain ⟨hcwd, hconfig, htested, hopened⟩ := hchecked hthrown
  obtain ⟨later, hcalls, hlater⟩ := run_checked env s hthrown
  have hdaemonize := daemonize_spec env (Attempt.run (attempt env) s checkSteps).state
  rw [hcwd, hconfig] at hdaemonize
  rw [hcalls] at hfile ⊢
  rcases hdaemonize with hnone | ⟨hcreat, hcwd', hconfig'⟩
  · -- no other step creates the file
    exfalso
    rw [hnone, List.nil_append] at hfile
    rcases List.mem_append.mp hfile with hfile | hfile
    · exact hnocreat file hfile
    · exact (hlater _ hfile).2 file rfl
  · have hcreated : (attempt env (Attempt.run (attempt env) s checkSteps).state
        .daemonize).state.pidfilePath = created := by
      rw [Program.pidfilePath, hcwd', hconfig']
    rw [hcreated] at hlater
    rw [hcreat]
    refine ⟨List.mem_append_left _ hopened, List.mem_append_right _ List.mem_cons_self, ?_⟩
    intro call hcall file' hpid
    rcases List.mem_append.mp hcall with hcall | hcall
    · exact Or.inl (htested call hcall file' hpid)
    · right
      rcases List.mem_cons.mp hcall with rfl | hcall
      · exact (Option.some.inj hpid).symm
      · exact (hlater call hcall).1 file' hpid

/-! ### A second process -/

/-- When the listener starts the pid file is there. -/
theorem started_isSome {env : Surroundings} {s : Program}
    (h : (Attempt.run (attempt env) s startSteps).thrown = none) :
    let config := s.config.parse env.buttons env.conf env.cmdLine
    ∃ file, resolvePath (daemonCwd config.foreground s.cwd) config.pidfile = some file ∧
      ((Attempt.run (attempt env) s startSteps).state.files file).isSome = true := by
  intro config
  have hsteps : startSteps =
      checkSteps ++ .daemonize :: [.setupSignals, .initDevice, .initHandler] := rfl
  rw [hsteps] at h ⊢
  obtain ⟨hcheck, hserve⟩ := Attempt.returned_of_append h
  obtain ⟨hdaemonize, hinit⟩ := Attempt.returned_of_cons hserve
  obtain ⟨hcwd, hconfig, -, -⟩ := (checkSteps_spec env s).2 hcheck
  obtain ⟨file, hfile, hcreated⟩ := daemonize_isSome hdaemonize
  rw [hcwd, hconfig] at hfile
  refine ⟨file, hfile, ?_⟩
  rw [Attempt.run_append_returned hcheck, Attempt.run_cons_returned hdaemonize]
  refine (Attempt.run_invariant (fun t : Program => (t.files file).isSome = true) (fun _ => True)
    _ ?_ hcreated).1
  intro t step hstep ht
  refine ⟨?_, fun _ _ => trivial⟩
  simp only [List.mem_cons, List.not_mem_nil, or_false] at hstep
  rcases attempt_cases env t step with ⟨what, hattempt⟩ | ⟨hstate, -, -⟩
  · rw [hattempt]
    exact ht
  · rw [hstate]
    rcases hstep with rfl | rfl | rfl
    · exact ht
    · exact initDevice_isSome ht
    · exact writeLog_isSome ht _ _

/-- A process that finds the pid file reports it. -/
theorem run_already {env : Surroundings} {s : Program}
    (hfault : ∀ step ∈ checkSteps, env.fault step = none)
    (hconfig : (s.config.parse env.buttons env.conf env.cmdLine).ok = true ∧
      (s.config.parse env.buttons env.conf env.cmdLine).help = false ∧
      (s.config.parse env.buttons env.conf env.cmdLine).version = false)
    (hfile : ∃ file,
      resolvePath s.cwd (s.config.parse env.buttons env.conf env.cmdLine).pidfile = some file ∧
        (s.files file).isSome = true) : (s.run env).retval = retvalAlready := by
  obtain ⟨hok, hhelp, hversion⟩ := hconfig
  obtain ⟨file, hpath, hexists⟩ := hfile
  have hattempt (t : Program) {step : RunStep} (hstep : step ∈ checkSteps) :
      attempt env t step = t.exec env step := attempt_faultless (hfault step hstep) t
  have hparse : attempt env s .processConfig =
      ⟨{ s with config := s.config.parse env.buttons env.conf env.cmdLine }, [], none⟩ := by
    rw [hattempt s (by decide)]
    simp only [exec, processConfig, hok, hhelp, hversion, Bool.true_eq_false, Bool.false_eq_true,
      ↓reduceIte]
  have hlog (t : Program) : attempt env t .setupLog = t.setupLog env := hattempt t (by decide)
  have hkeeps := setupLog_keeps env
    { s with config := s.config.parse env.buttons env.conf env.cmdLine }
  have hfound := checkPidFile_found (hkeeps.pidfilePath.trans hpath) (setupLog_isSome env hexists)
  have hcheck (t : Program) : attempt env t .checkPidFile = t.checkPidFile := hattempt t (by decide)
  rw [← hcheck] at hfound
  rw [run, show runSteps = .processConfig :: .setupLog :: .checkPidFile :: _ from rfl,
    Attempt.run_cons_returned (by rw [hparse]), hparse,
    Attempt.run_cons_returned (by rw [hlog]; rfl), hlog, Attempt.run_cons_thrown hfound]
  simp only [finish, hfound]
  rfl

end Program

/-- A run that comes to `writePidFile` acts on one pid file if and only if its path leads to the
same file from the root. -/
theorem oneFile_iff (env : Surroundings) (s : Program)
    (hwrites : ∃ file, .creat file ∈ (s.run env).calls) :
    let config := s.config.parse env.buttons env.conf env.cmdLine
    OneFile (s.run env).calls ↔ KeepsPidPath config.foreground s.cwd config.pidfile := by
  intro config
  obtain ⟨htested, hcreated, hall⟩ := s.run_pidFile env hwrites
  rw [← keepsPidPath_iff]
  constructor
  · intro h
    exact h _ htested _ hcreated _ _ rfl rfl
  · intro h call hcall call' hcall' file file' hfile hfile'
    have heq : ∀ call ∈ (s.run env).calls, ∀ file, call.pidFile? = some file →
        file = resolvePath s.cwd config.pidfile := by
      intro call hcall file hfile
      rcases hall call hcall file hfile with h' | h'
      · exact h'
      · exact h'.trans h.symm
    exact (heq call hcall file hfile).trans (heq call' hcall' file' hfile').symm

/-- Another process with the same arguments, configuration files and build, whose steps before
`daemonize` raise no `std::exception`. -/
structure Surroundings.Repeats (env env' : Surroundings) : Prop where
  buttons : env'.buttons = env.buttons
  conf : env'.conf = env.conf
  cmdLine : env'.cmdLine = env.cmdLine
  fault : ∀ step ∈ Program.checkSteps, env'.fault step = none

/-- While the listener of the process runs and its pid file is left alone, another process with the
same arguments and the same working directory is refused. -/
def RefusesSecond (env : Surroundings) (s : Program) : Prop :=
  let r := Attempt.run (Program.attempt env) s Program.startSteps
  r.thrown = none → ∀ file, .creat (some file) ∈ (s.run env).calls →
    ∀ env' coeffs files, env.Repeats env' → files file = r.state.files file →
      ((Program.init env' coeffs s.cwd files).run env').retval = retvalAlready

/-- A path that leads to the same file is found by the other process. -/
theorem refusesSecond (env : Surroundings) (coeffs : MoveCoeffs) (cwd : FilePath)
    (files : FileSystem) :
    let s := Program.init env coeffs cwd files
    let config := s.config.parse env.buttons env.conf env.cmdLine
    KeepsPidPath config.foreground cwd config.pidfile → RefusesSecond env s := by
  intro s config hkeeps hstarted created hcreat env' coeffs' files' hrepeats hfiles
  obtain ⟨file, hfile, hexists⟩ := Program.started_isSome hstarted
  have hsame := (keepsPidPath_iff config.foreground cwd config.pidfile).mpr hkeeps
  obtain ⟨-, -, hall⟩ := s.run_pidFile env ⟨_, hcreat⟩
  -- the file that has been created is the one of the path
  have hcreated : created = file := by
    have hpath : some created = some file := by
      rcases hall _ hcreat _ rfl with h | h
      · exact h.trans (hsame.trans hfile)
      · exact h.trans hfile
    exact Option.some.inj hpath
  subst hcreated
  have hparsed : config.ok = true ∧ config.help = false ∧ config.version = false := by
    obtain ⟨hhead, -⟩ := Attempt.returned_of_cons hstarted
    exact ((Program.processConfig_spec env s).2 hhead).2
  -- the configuration is the same but for the coefficients
  obtain ⟨after, hafter⟩ := parse_withCoeffs env.buttons env.conf env.cmdLine coeffs coeffs'
  have hnew : (Program.init env' coeffs' s.cwd files').config = .new env.conf coeffs' :=
    congrArg (fun conf => Config.new conf coeffs') hrepeats.conf
  have hconfig : (Program.init env' coeffs' s.cwd files').config.parse env'.buttons env'.conf
      env'.cmdLine = config.withCoeffs after := by
    rw [hnew, hrepeats.buttons, hrepeats.conf, hrepeats.cmdLine]
    exact hafter
  apply Program.run_already hrepeats.fault
  · rw [hconfig]
    exact hparsed
  · rw [hconfig]
    refine ⟨created, hsame.trans hfile, ?_⟩
    change (files' created).isSome = true
    rw [hfiles]
    exact hexists

/-- A process that is started with the option `-p` in `/home/user`, where nothing fails. -/
def pidSurroundings (pidfile : String) : Surroundings where
  buttons := psmoveButtons
  conf := { files := fun _ => none, pwDir := some "/home/user" }
  cmdLine := .ok { plainCmdLine with pidfile := some pidfile }
  fork := .child true true
  pid := "4242"
  canCreate := fun _ => true
  canRemove := fun _ => true
  fault := fun _ => none
  listen := id
  timestamps := fun _ => "1700000000.0: "

def homeProgram (pidfile : String) : Program :=
  .init (pidSurroundings pidfile) ⟨1, 1⟩ ["user", "home"] fun _ => none

/-- The pid file of an instance that runs, and its log. -/
def runningFiles : FileSystem := fun file =>
  if file = ["psmoveinput.pid", "run"] then some ["1111"]
  else if file = ["psmoveinput.log", "user", "home"] then some ["1600000000.0: Failed to connect"]
  else none

end PSMoveInput

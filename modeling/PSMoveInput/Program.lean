import PSMoveInput.Attempt
import PSMoveInput.Config
import PSMoveInput.Paths

/-! `PSMoveInput::run` in one process, from the arguments to the exit code, with the files that it
opens, creates and removes. -/
namespace PSMoveInput

open Paths Attempt

/-! ### Files -/

/-- A file by its name and the names of its directories, from the innermost one outwards. -/
abbrev FilePath := List String

/-- The lines of the files that the user can read. A directory can be opened for reading as well. -/
abbrev FileSystem := FilePath → Option (List String)

def pathComponent (name : String) : Component String :=
  if name = "" ∨ name = "." then .current
  else if name = ".." then .parent
  else .name name

def pathComponents (path : String) : List (Component String) :=
  (path.toList.splitOn '/').map fun name => pathComponent (String.ofList name)

def isAbsolute (path : String) : Bool := path.toList.head? = some '/'

/-- The file that a system call finds under a path. There is none under the empty path. -/
def resolvePath (cwd : FilePath) (path : String) : Option FilePath :=
  if path = "" then none
  else if isAbsolute path = true then some (resolve [] (pathComponents path))
  else some (resolve cwd (pathComponents path))

/-- The system calls on files that have a name, with the file that they find. -/
inductive FileCall where
  | openRead (file : Option FilePath)
  /-- The log file. -/
  | openWrite (file : Option FilePath)
  | creat (file : Option FilePath)
  | unlink (file : Option FilePath)
  deriving DecidableEq

/-! ### Processes -/

inductive ExType where
  | invalidConfig
  | helpRq
  | versionRq
  | alreadyRunning
  | forkFailed
  | parentQuit
  | pidfileCreatFailed
  deriving DecidableEq

/-- What the steps of `run` throw: the exceptions of the program, and those of its libraries. -/
inductive Thrown where
  | exception (what : ExType)
  | std (what : String)
  deriving DecidableEq

/-- Exit codes. -/
def retvalOk : ℕ := 0
def retvalFail : ℕ := 1
def retvalConfig : ℕ := 2
def retvalAlready : ℕ := 3
def retvalFork : ℕ := 4
def retvalPid : ℕ := 5

/-- `log_` with its one backend. A file that could not be opened is not written. -/
structure Log where
  level : LogLevel
  file : Option FilePath

/-- The steps of `run`. -/
inductive RunStep where
  | processConfig
  | setupLog
  | checkPidFile
  | daemonize
  | setupSignals
  | initDevice
  | initHandler
  | startListener
  | removePidFile
  deriving DecidableEq

inductive ForkOutcome where
  | failed
  | parent
  /-- The child, with the outcomes of `setsid` and `chdir`. -/
  | child (setsid chdir : Bool)
  deriving DecidableEq

/-- A `std::exception` that a step raises, before or after what it does. -/
inductive Fault where
  | early (what : String)
  | late (what : String)
  deriving DecidableEq

/-- What a process meets: its arguments and configuration files, and the outcomes of what it asks
the system for. -/
structure Surroundings where
  buttons : PSMoveButtons
  conf : Environment
  cmdLine : Except String CmdLine
  fork : ForkOutcome
  pid : String
  /-- `creat` and the opening of the log file succeed. -/
  canCreate : FilePath → Bool
  /-- `unlink` succeeds on an existing file. -/
  canRemove : FilePath → Bool
  fault : RunStep → Option Fault
  /-- What becomes of the files while the listener runs. -/
  listen : FileSystem → FileSystem
  /-- What `getTimestamp` returns, call by call. -/
  timestamps : ℕ → String

/-- `unlink` raises nothing. -/
def Surroundings.faultAt (env : Surroundings) (step : RunStep) : Option Fault :=
  if step = .removePidFile then none else env.fault step

structure Program where
  config : Config
  cwd : FilePath
  log : Option Log
  files : FileSystem
  timestamps : ℕ → String

/-- The constructor, in a working directory. -/
def Program.init (env : Surroundings) (coeffs : MoveCoeffs) (cwd : FilePath) (files : FileSystem) :
    Program where
  config := .new env.conf coeffs
  cwd := cwd
  log := none
  files := files
  timestamps := env.timestamps

abbrev StepOutcome := Outcome Program FileCall Thrown

namespace Program

def pidfilePath (s : Program) : Option FilePath := resolvePath s.cwd s.config.pidfile

/-- The levels by their numbers. -/
def levelNumber : LogLevel → ℕ
  | .fatal => 0
  | .error => 1
  | .info => 2

def writeLog (s : Program) (msg : String) (level : LogLevel) : Program :=
  match s.log with
  | some ⟨loglevel, some file⟩ =>
    -- higher log levels have lower values
    if levelNumber level ≤ levelNumber loglevel then
      { s with
        files := Function.update s.files file
          ((s.files file).map fun lines => lines ++ [s.timestamps 0 ++ msg])
        timestamps := fun i => s.timestamps (i + 1) }
    else s
  | _ => s

/-! ### The steps -/

def processConfig (env : Surroundings) (s : Program) : StepOutcome :=
  let s := { s with config := s.config.parse env.buttons env.conf env.cmdLine }
  if s.config.ok = false then ⟨s, [], some (.exception .invalidConfig)⟩
  else if s.config.help = true then ⟨s, [], some (.exception .helpRq)⟩
  else if s.config.version = true then ⟨s, [], some (.exception .versionRq)⟩
  else ⟨s, [], none⟩

def setupLog (env : Surroundings) (s : Program) : StepOutcome :=
  let path := resolvePath s.cwd s.config.logfile
  let file := path.filter env.canCreate
  -- the mode `out | ate` truncates the file
  let files := match file with
    | some file => Function.update s.files file (some [])
    | none => s.files
  let s := { s with log := some ⟨s.config.loglevel, file⟩, files := files }
  ⟨s.writeLog "PSMoveInput logging started" .info, [.openWrite path], none⟩

def checkPidFile (s : Program) : StepOutcome :=
  ⟨s, [.openRead s.pidfilePath],
    if (s.pidfilePath.bind s.files).isSome = true then some (.exception .alreadyRunning) else none⟩

def writePidFile (env : Surroundings) (s : Program) : StepOutcome :=
  match s.pidfilePath.filter env.canCreate with
  | some file =>
    ⟨{ s with files := Function.update s.files file (some [env.pid]) }, [.creat s.pidfilePath],
      none⟩
  | none => ⟨s, [.creat s.pidfilePath], some (.exception .pidfileCreatFailed)⟩

def daemonize (env : Surroundings) (s : Program) : StepOutcome :=
  -- don't fork in foreground mode
  if s.config.foreground = false then
    match env.fork with
    | .failed => ⟨s, [], some (.exception .forkFailed)⟩
    | .parent => ⟨s, [], some (.exception .parentQuit)⟩
    | .child setsid chdir =>
      if setsid = false then ⟨s, [], some (.exception .forkFailed)⟩
      else if chdir = false then ⟨s, [], some (.exception .forkFailed)⟩
      else writePidFile env { s with cwd := [] }
  else writePidFile env s

/-- `unlink`, whatever comes of it. -/
def removePidFile (env : Surroundings) (s : Program) : Program :=
  match s.pidfilePath.filter env.canRemove with
  | some file => { s with files := Function.update s.files file none }
  | none => s

def keyMessages (keymap : KeyMap) : List String :=
  keymap.map fun entry =>
    "pscode=" ++ toString entry.pscode.toInt ++ ", lincode=" ++ toString entry.lincode

def initDevice (s : Program) : Program :=
  (["Initializing input device", "Reported keys:"] ++ keyMessages (s.config.keymaps .first) ++
    keyMessages (s.config.keymaps .second)).foldl (fun s msg => s.writeLog msg .info) s

def exec (env : Surroundings) (s : Program) : RunStep → StepOutcome
  | .processConfig => s.processConfig env
  | .setupLog => s.setupLog env
  | .checkPidFile => s.checkPidFile
  | .daemonize => s.daemonize env
  | .setupSignals => ⟨s, [], none⟩
  | .initDevice => ⟨s.initDevice, [], none⟩
  | .initHandler => ⟨s.writeLog "Initializing PSMoveHandler" .info, [], none⟩
  | .startListener => ⟨{ s with files := env.listen s.files }, [], none⟩
  | .removePidFile => ⟨s.removePidFile env, [.unlink s.pidfilePath], none⟩

/-- A step that may raise a `std::exception`. -/
def attempt (env : Surroundings) (s : Program) (step : RunStep) : StepOutcome :=
  match env.faultAt step with
  | none => s.exec env step
  | some (.early what) => ⟨s, [], some (.std what)⟩
  | some (.late what) =>
    ⟨(s.exec env step).state, (s.exec env step).outputs,
      (s.exec env step).thrown.or (some (.std what))⟩

/-- Up to the start of the listener. -/
def startSteps : List RunStep :=
  [.processConfig, .setupLog, .checkPidFile, .daemonize, .setupSignals, .initDevice, .initHandler]

def runSteps : List RunStep := startSteps ++ [.startListener, .removePidFile]

/-! ### The exit code -/

def handleException (what : ExType) : ℕ :=
  match what with
  | .invalidConfig => retvalConfig
  | .alreadyRunning => retvalAlready
  | .forkFailed => retvalFork
  | .parentQuit => retvalOk
  | .pidfileCreatFailed => retvalPid
  | .helpRq => retvalOk
  | .versionRq => retvalOk

structure Ended where
  state : Program
  calls : List FileCall
  retval : ℕ

/-- The `try` block has been left. -/
def finish (env : Surroundings) (r : StepOutcome) : Ended :=
  match r.thrown with
  | none => ⟨r.state, r.outputs, retvalOk⟩
  | some (.exception what) =>
    let s := match what with
      | .pidfileCreatFailed => r.state.writeLog "Failed to write pid to pid file" .fatal
      | _ => r.state
    ⟨s, r.outputs, handleException what⟩
  | some (.std what) =>
    let s := r.state.writeLog what .fatal
    ⟨s.removePidFile env, r.outputs ++ [.unlink s.pidfilePath], retvalFail⟩

def run (env : Surroundings) (s : Program) : Ended :=
  finish env (Attempt.run (attempt env) s runSteps)

end Program

end PSMoveInput

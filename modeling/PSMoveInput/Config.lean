import Mathlib.Algebra.Order.Ring.Rat
import PSMoveInput.KeyMapConfig

/-! `Config`: the command line and the configuration file in, settings out. Options come as
boost program_options delivers them, with the value types of their descriptions. -/
namespace PSMoveInput

/-- The range of a 32-bit `int`. -/
def InInt (n : ℤ) : Prop := -2 ^ 31 ≤ n ∧ n < 2 ^ 31

instance (n : ℤ) : Decidable (InInt n) := inferInstanceAs (Decidable (_ ∧ _))

theorem inInt_zero : InInt 0 := by decide

/-- A value of type `int`. -/
abbrev CInt := {n : ℤ // InInt n}

inductive LogLevel where
  | fatal
  | error
  | info
  deriving DecidableEq, Repr

inductive OpMode where
  | standalone
  | client
  deriving DecidableEq, Repr

structure MoveCoeffs where
  cx : ℚ
  cy : ℚ
  deriving DecidableEq

/-- `opts_`: the options of a command line that boost accepts. -/
structure CmdLine where
  help : Bool
  version : Bool
  pidfile : Option String
  loglevel : Option Char
  logfile : Option String
  config : Option String
  mode : Option String
  foreground : Bool

/-- `conf_opts_`: the options of a configuration file that boost accepts. The options that take a
key are read by name. -/
structure ConfFile where
  pidFile : Option String
  logLevel : Option Char
  logFile : Option String
  moveCoeffX : Option ℚ
  moveCoeffY : Option ℚ
  mode : Option String
  pollTimeout : Option CInt
  connTimeout : Option CInt
  disconnectTimeout : Option CInt
  ledUpdateTimeout : Option CInt
  moveThreshold : Option CInt
  gestureThreshold : Option CInt
  gestureTimeout : Option CInt
  keys : String → Option String

/-- The files by name, with the options they set or the text of the exception that boost throws on
them, and the home directory of the effective user. A file that cannot be opened is `none`. -/
structure Environment where
  files : String → Option (Except String ConfFile)
  pwDir : Option String

structure Config where
  error : String
  help : Bool
  version : Bool
  ok : Bool
  loglevelSet : Bool
  loglevel : LogLevel
  logfile : String
  logfileSet : Bool
  pidfileSet : Bool
  pidfile : String
  coeffs : MoveCoeffs
  configFile : String
  configFileSet : Bool
  keymaps : ControllerId → KeyMap
  opmode : OpMode
  opmodeSet : Bool
  foreground : Bool
  pollTimeout : CInt
  connTimeout : CInt
  disconnectTimeout : CInt
  ledTimeout : CInt
  moveThreshold : CInt
  gestureThreshold : CInt
  gestureTimeout : CInt

def defPidfile : String := "~/psmoveinput.pid"
def defLogfile : String := "~/psmoveinput.log"
def defConfigfile : String := "/etc/psmoveinput.conf"

def expandTilde (env : Environment) (str : String) : String :=
  match str.toList with
  | '~' :: rest =>
    match env.pwDir with
    | none => str
    | some dir => dir ++ String.ofList rest
  | _ => str

/-- The constructor leaves `coeffs_` as the memory has it. -/
def Config.new (env : Environment) (coeffs : MoveCoeffs) : Config where
  error := ""
  help := false
  version := false
  ok := false
  loglevelSet := false
  loglevel := .error
  logfile := expandTilde env defLogfile
  logfileSet := false
  pidfileSet := false
  pidfile := expandTilde env defPidfile
  coeffs := coeffs
  configFile := defConfigfile
  configFileSet := false
  keymaps := fun _ => []
  opmode := .standalone
  opmodeSet := false
  foreground := false
  pollTimeout := ⟨20, by decide⟩
  connTimeout := ⟨3000, by decide⟩
  disconnectTimeout := ⟨7, by decide⟩
  ledTimeout := ⟨4000, by decide⟩
  moveThreshold := ⟨0, inInt_zero⟩
  gestureThreshold := ⟨100, by decide⟩
  gestureTimeout := ⟨600, by decide⟩

/-! ### Single options -/

/-- Another character changes nothing. -/
def Config.getLogFromChar (c : Config) (l : Char) : Config :=
  if l = '0' then { c with loglevel := .fatal, loglevelSet := true }
  else if l = '1' then { c with loglevel := .error, loglevelSet := true }
  else if l = '2' then { c with loglevel := .info, loglevelSet := true }
  else c

/-- Another string changes nothing. -/
def Config.getModeFromString (c : Config) (mode : String) : Config :=
  if mode = "standalone" then { c with opmode := .standalone, opmodeSet := true }
  else if mode = "client" then { c with opmode := .client, opmodeSet := true }
  else c

/-! The settings of both sources: an option that is not given leaves the configuration alone. -/

def Config.setPidfile (env : Environment) (pidfile : Option String) (c : Config) : Config :=
  match pidfile with
  | some file => { c with pidfile := expandTilde env file, pidfileSet := true }
  | none => c

def Config.setLoglevel (loglevel : Option Char) (c : Config) : Config :=
  match loglevel with
  | some l => c.getLogFromChar l
  | none => c

def Config.setLogfile (env : Environment) (logfile : Option String) (c : Config) : Config :=
  match logfile with
  | some file => { c with logfile := expandTilde env file, logfileSet := true }
  | none => c

def Config.setMode (mode : Option String) (c : Config) : Config :=
  match mode with
  | some m => c.getModeFromString m
  | none => c

/-! ### The command line -/

def Config.handleCmdLine (env : Environment) (opts : CmdLine) (c : Config) : Config :=
  if opts.help = true then { c with help := true, ok := true }
  else if opts.version = true then { c with version := true, ok := true }
  else
    let c := c.setPidfile env opts.pidfile
    let c := c.setLoglevel opts.loglevel
    let c := c.setLogfile env opts.logfile
    let c := match opts.config with
      | some file => { c with configFile := file, configFileSet := true }
      | none => c
    let c := c.setMode opts.mode
    let c := if opts.foreground = true then { c with foreground := true } else c
    { c with ok := true }

/-! ### The configuration file -/

/-- The configuration with the name of the file to read, if there is one to read. -/
def Config.configFileOK (env : Environment) (c : Config) : Option Config :=
  if (env.files c.configFile).isSome then some c
  -- the default file replaces only a file named on the command line
  else if c.configFileSet = true ∧ (env.files defConfigfile).isSome then
    some { c with configFile := defConfigfile }
  else none

/-- The options that are not key options. -/
def Config.storeOptions (env : Environment) (conf : ConfFile) (c : Config) : Config :=
  -- don't override command line values
  let c := if c.pidfileSet = false then c.setPidfile env conf.pidFile else c
  let c := if c.loglevelSet = false then c.setLoglevel conf.logLevel else c
  let c := if c.logfileSet = false then c.setLogfile env conf.logFile else c
  let c := { c with coeffs := ⟨conf.moveCoeffX.getD c.coeffs.cx, conf.moveCoeffY.getD c.coeffs.cy⟩ }
  let c := if c.opmodeSet = false then c.setMode conf.mode else c
  { c with
    pollTimeout := conf.pollTimeout.getD c.pollTimeout
    connTimeout := conf.connTimeout.getD c.connTimeout
    disconnectTimeout := conf.disconnectTimeout.getD c.disconnectTimeout
    ledTimeout := conf.ledUpdateTimeout.getD c.ledTimeout
    gestureTimeout := conf.gestureTimeout.getD c.gestureTimeout
    moveThreshold := conf.moveThreshold.getD c.moveThreshold
    gestureThreshold := conf.gestureThreshold.getD c.gestureThreshold }

def Config.pushEntry (c : Config) (controller : ControllerId) (entry : KeyMapEntry) : Config :=
  { c with keymaps := Function.update c.keymaps controller (c.keymaps controller ++ [entry]) }

/-- The loop over `configdesc_.options()`. -/
def Config.storeKeyMaps (B : PSMoveButtons) (keys : String → Option String) :
    List String → Config → Config
  | [], c => c
  | longname :: opts, c =>
    if longname ∈ nonKeyOptions then storeKeyMaps B keys opts c
    else
      match keys longname with
      | none => storeKeyMaps B keys opts c
      | some optval =>
        let entry := createEntry B longname optval
        if entry.pscode ≠ 0 ∧ entry.lincode ≠ keyReserved then
          if longname ∈ firstControllerOptions then
            storeKeyMaps B keys opts (c.pushEntry .first entry)
          else storeKeyMaps B keys opts (c.pushEntry .second entry)
        -- the loop ends here, with the entries that came before
        else { c with ok := false }

def Config.parseConfig (B : PSMoveButtons) (env : Environment) (c : Config) : Config :=
  match c.configFileOK env with
  | none => c
  | some c =>
    match env.files c.configFile with
    | none => c
    | some (.error what) => { c with error := what, ok := false }
    | some (.ok conf) => storeKeyMaps B conf.keys configOptions (c.storeOptions env conf)

/-- The command line is what boost makes of it: its options, or the text of an exception. -/
def Config.parse (B : PSMoveButtons) (env : Environment) (opts : Except String CmdLine)
    (c : Config) : Config :=
  match opts with
  | .error what => { c with error := what }
  | .ok opts =>
    let c := c.handleCmdLine env opts
    -- parse configuration file only if command line is correct
    if c.ok = true then c.parseConfig B env else c

/-! ### What the functions do to the configuration -/

def LogLevel.ofChar (l : Char) : Option LogLevel :=
  if l = '0' then some .fatal
  else if l = '1' then some .error
  else if l = '2' then some .info
  else none

def OpMode.ofString (mode : String) : Option OpMode :=
  if mode = "standalone" then some .standalone
  else if mode = "client" then some .client
  else none

namespace Config

theorem setPidfile_eq (env : Environment) (pidfile : Option String) (c : Config) :
    c.setPidfile env pidfile =
      { c with
        pidfile := (pidfile.map (expandTilde env)).getD c.pidfile
        pidfileSet := pidfile.isSome || c.pidfileSet } := by
  cases pidfile <;> rfl

theorem setLogfile_eq (env : Environment) (logfile : Option String) (c : Config) :
    c.setLogfile env logfile =
      { c with
        logfile := (logfile.map (expandTilde env)).getD c.logfile
        logfileSet := logfile.isSome || c.logfileSet } := by
  cases logfile <;> rfl

/-- Only a valid level counts as set. -/
theorem setLoglevel_eq (loglevel : Option Char) (c : Config) :
    c.setLoglevel loglevel =
      { c with
        loglevel := (loglevel.bind LogLevel.ofChar).getD c.loglevel
        loglevelSet := (loglevel.bind LogLevel.ofChar).isSome || c.loglevelSet } := by
  cases loglevel with
  | none => rfl
  | some l =>
    simp only [setLoglevel, getLogFromChar, Option.bind_some, LogLevel.ofChar]
    split_ifs <;> rfl

/-- Only a valid mode counts as set. -/
theorem setMode_eq (mode : Option String) (c : Config) :
    c.setMode mode =
      { c with
        opmode := (mode.bind OpMode.ofString).getD c.opmode
        opmodeSet := (mode.bind OpMode.ofString).isSome || c.opmodeSet } := by
  cases mode with
  | none => rfl
  | some m =>
    simp only [setMode, getModeFromString, Option.bind_some, OpMode.ofString]
    split_ifs <;> rfl

theorem handleCmdLine_eq (env : Environment) (opts : CmdLine) (c : Config)
    (hhelp : opts.help = false) (hversion : opts.version = false) :
    c.handleCmdLine env opts =
      { c with
        pidfile := (opts.pidfile.map (expandTilde env)).getD c.pidfile
        pidfileSet := opts.pidfile.isSome || c.pidfileSet
        loglevel := (opts.loglevel.bind LogLevel.ofChar).getD c.loglevel
        loglevelSet := (opts.loglevel.bind LogLevel.ofChar).isSome || c.loglevelSet
        logfile := (opts.logfile.map (expandTilde env)).getD c.logfile
        logfileSet := opts.logfile.isSome || c.logfileSet
        configFile := opts.config.getD c.configFile
        configFileSet := opts.config.isSome || c.configFileSet
        opmode := (opts.mode.bind OpMode.ofString).getD c.opmode
        opmodeSet := (opts.mode.bind OpMode.ofString).isSome || c.opmodeSet
        foreground := opts.foreground || c.foreground
        ok := true } := by
  simp only [handleCmdLine, hhelp, hversion, Bool.false_eq_true, ↓reduceIte, setPidfile_eq,
    setLoglevel_eq, setLogfile_eq, setMode_eq]
  cases opts.config <;> cases opts.foreground <;> rfl

theorem storeOptions_eq (env : Environment) (conf : ConfFile) (c : Config) :
    c.storeOptions env conf =
      { c with
        pidfile := if c.pidfileSet then c.pidfile
          else (conf.pidFile.map (expandTilde env)).getD c.pidfile
        pidfileSet := conf.pidFile.isSome || c.pidfileSet
        loglevel := if c.loglevelSet then c.loglevel
          else (conf.logLevel.bind LogLevel.ofChar).getD c.loglevel
        loglevelSet := (conf.logLevel.bind LogLevel.ofChar).isSome || c.loglevelSet
        logfile := if c.logfileSet then c.logfile
          else (conf.logFile.map (expandTilde env)).getD c.logfile
        logfileSet := conf.logFile.isSome || c.logfileSet
        coeffs := ⟨conf.moveCoeffX.getD c.coeffs.cx, conf.moveCoeffY.getD c.coeffs.cy⟩
        opmode := if c.opmodeSet then c.opmode
          else (conf.mode.bind OpMode.ofString).getD c.opmode
        opmodeSet := (conf.mode.bind OpMode.ofString).isSome || c.opmodeSet
        pollTimeout := conf.pollTimeout.getD c.pollTimeout
        connTimeout := conf.connTimeout.getD c.connTimeout
        disconnectTimeout := conf.disconnectTimeout.getD c.disconnectTimeout
        ledTimeout := conf.ledUpdateTimeout.getD c.ledTimeout
        moveThreshold := conf.moveThreshold.getD c.moveThreshold
        gestureThreshold := conf.gestureThreshold.getD c.gestureThreshold
        gestureTimeout := conf.gestureTimeout.getD c.gestureTimeout } := by
  obtain ⟨_, _, _, _, logSet, _, _, logfileSet, pidSet, _, _, _, _, _, _, modeSet⟩ := c
  simp only [storeOptions, setPidfile_eq, setLoglevel_eq, setLogfile_eq, setMode_eq]
  cases logSet <;> cases logfileSet <;> cases pidSet <;> cases modeSet <;> simp

theorem handleCmdLine_ok (env : Environment) (opts : CmdLine) (c : Config) :
    (c.handleCmdLine env opts).ok = true := by
  simp only [handleCmdLine]
  split_ifs <;> rfl

/-- The loop changes nothing but the key maps and `ok_`. -/
theorem storeKeyMaps_rest (B : PSMoveButtons) (keys : String → Option String)
    (opts : List String) (c : Config) :
    ∃ ok keymaps, storeKeyMaps B keys opts c = { c with ok := ok, keymaps := keymaps } := by
  induction opts generalizing c with
  | nil => exact ⟨c.ok, c.keymaps, rfl⟩
  | cons longname opts ih =>
    have hpush (controller : ControllerId) (entry : KeyMapEntry) : ∃ ok keymaps,
        storeKeyMaps B keys opts (c.pushEntry controller entry) =
          { c with ok := ok, keymaps := keymaps } := by
      obtain ⟨ok, keymaps, h⟩ := ih (c.pushEntry controller entry)
      exact ⟨ok, keymaps, h⟩
    rw [storeKeyMaps]
    by_cases hskip : longname ∈ nonKeyOptions
    · rw [if_pos hskip]
      exact ih c
    · rw [if_neg hskip]
      cases keys longname with
      | none => exact ih c
      | some optval =>
        dsimp only
        split_ifs
        · exact hpush _ _
        · exact hpush _ _
        · exact ⟨false, c.keymaps, rfl⟩

/-! ### The settings that only the file has -/

/-- The members that neither the command line nor the loop over the key options assigns. -/
structure Numbers where
  coeffs : MoveCoeffs
  pollTimeout : CInt
  connTimeout : CInt
  disconnectTimeout : CInt
  ledTimeout : CInt
  moveThreshold : CInt
  gestureThreshold : CInt
  gestureTimeout : CInt

def numbers (c : Config) : Numbers where
  coeffs := c.coeffs
  pollTimeout := c.pollTimeout
  connTimeout := c.connTimeout
  disconnectTimeout := c.disconnectTimeout
  ledTimeout := c.ledTimeout
  moveThreshold := c.moveThreshold
  gestureThreshold := c.gestureThreshold
  gestureTimeout := c.gestureTimeout

/-- The values of a file, over the ones that are there without it. -/
def Numbers.over (conf : ConfFile) (n : Numbers) : Numbers where
  coeffs := ⟨conf.moveCoeffX.getD n.coeffs.cx, conf.moveCoeffY.getD n.coeffs.cy⟩
  pollTimeout := conf.pollTimeout.getD n.pollTimeout
  connTimeout := conf.connTimeout.getD n.connTimeout
  disconnectTimeout := conf.disconnectTimeout.getD n.disconnectTimeout
  ledTimeout := conf.ledUpdateTimeout.getD n.ledTimeout
  moveThreshold := conf.moveThreshold.getD n.moveThreshold
  gestureThreshold := conf.gestureThreshold.getD n.gestureThreshold
  gestureTimeout := conf.gestureTimeout.getD n.gestureTimeout

theorem handleCmdLine_numbers (env : Environment) (opts : CmdLine) (c : Config) :
    (c.handleCmdLine env opts).numbers = c.numbers ∧
      (c.handleCmdLine env opts).keymaps = c.keymaps := by
  cases hhelp : opts.help with
  | true => simp [handleCmdLine, hhelp, numbers]
  | false =>
    cases hversion : opts.version with
    | true => simp [handleCmdLine, hhelp, hversion, numbers]
    | false =>
      rw [handleCmdLine_eq env opts c hhelp hversion]
      exact ⟨rfl, rfl⟩

theorem storeOptions_numbers (env : Environment) (conf : ConfFile) (c : Config) :
    (c.storeOptions env conf).numbers = c.numbers.over conf := by
  rw [storeOptions_eq]
  rfl

theorem storeKeyMaps_numbers (B : PSMoveButtons) (keys : String → Option String)
    (opts : List String) (c : Config) :
    (storeKeyMaps B keys opts c).numbers = c.numbers := by
  obtain ⟨ok, keymaps, h⟩ := storeKeyMaps_rest B keys opts c
  rw [h]
  rfl

/-! ### The file that is read -/

/-- A configuration file of the command line counts unless help or the version is requested. -/
def configName (opts : CmdLine) : Option String :=
  if opts.help = true ∨ opts.version = true then none else opts.config

/-- What the file says that `parse` opens. -/
def confFile (env : Environment) (opts : CmdLine) : Option (Except String ConfFile) :=
  match configName opts with
  | none => env.files defConfigfile
  | some file => (env.files file).or (env.files defConfigfile)

theorem handleCmdLine_configFile (env : Environment) (opts : CmdLine) (coeffs : MoveCoeffs) :
    (handleCmdLine env opts (.new env coeffs)).configFile =
        (configName opts).getD defConfigfile ∧
      (handleCmdLine env opts (.new env coeffs)).configFileSet = (configName opts).isSome := by
  cases hhelp : opts.help with
  | true => simp [handleCmdLine, configName, hhelp, new]
  | false =>
    cases hversion : opts.version with
    | true => simp [handleCmdLine, configName, hhelp, hversion, new]
    | false =>
      rw [handleCmdLine_eq env opts _ hhelp hversion]
      simp [configName, hhelp, hversion, new]

/-- The default file stands in for a file of the command line that cannot be opened. -/
theorem configFileOK_confFile (env : Environment) (opts : CmdLine) (c : Config)
    (hname : c.configFile = (configName opts).getD defConfigfile)
    (hset : c.configFileSet = (configName opts).isSome) :
    (confFile env opts = none ∧ c.configFileOK env = none) ∨
      ∃ file content, confFile env opts = some content ∧ env.files file = some content ∧
        c.configFileOK env = some { c with configFile := file } := by
  cases hconfig : configName opts with
  | none =>
    rw [hconfig, Option.getD_none] at hname
    rw [hconfig, Option.isSome_none] at hset
    simp only [confFile, hconfig, configFileOK, hname]
    cases hfile : env.files defConfigfile with
    | none => simp [hset]
    | some content =>
      right
      refine ⟨defConfigfile, content, rfl, hfile, ?_⟩
      rw [if_pos Option.isSome_some, ← hname]
  | some named =>
    rw [hconfig, Option.getD_some] at hname
    rw [hconfig, Option.isSome_some] at hset
    simp only [confFile, hconfig, configFileOK, hname]
    cases hnamed : env.files named with
    | some content =>
      right
      refine ⟨named, content, rfl, hnamed, ?_⟩
      rw [if_pos Option.isSome_some, ← hname]
    | none =>
      -- only a file that the command line names has a stand-in
      cases hfile : env.files defConfigfile with
      | none => simp
      | some content =>
        right
        exact ⟨defConfigfile, content, rfl, hfile, by simp [hset]⟩

/-- What `parse` makes of the settings of the command line. The options of a file that boost accepts
are stored before its key maps. -/
theorem parse_stored (B : PSMoveButtons) (env : Environment) (opts : CmdLine)
    (coeffs : MoveCoeffs) :
    ∃ file,
      let c := { handleCmdLine env opts (.new env coeffs) with configFile := file }
      match confFile env opts with
      | none => parse B env (.ok opts) (.new env coeffs) = c
      | some (.error what) =>
        parse B env (.ok opts) (.new env coeffs) = { c with error := what, ok := false }
      | some (.ok conf) =>
        parse B env (.ok opts) (.new env coeffs) =
          storeKeyMaps B conf.keys configOptions (c.storeOptions env conf) := by
  have hparse : parse B env (.ok opts) (.new env coeffs) =
      parseConfig B env (handleCmdLine env opts (.new env coeffs)) :=
    if_pos (handleCmdLine_ok env opts _)
  obtain ⟨hname, hset⟩ := handleCmdLine_configFile env opts coeffs
  simp only [hparse, parseConfig]
  rcases configFileOK_confFile env opts _ hname hset with
    ⟨hnone, hread⟩ | ⟨file, content, hsome, hcontent, hread⟩
  · rw [hnone, hread]
    exact ⟨(handleCmdLine env opts (.new env coeffs)).configFile, rfl⟩
  · rw [hsome, hread]
    refine ⟨file, ?_⟩
    dsimp only
    rw [hcontent]
    cases content <;> rfl

/-- One case for each thing that reading the file can lead to. -/
theorem parse_cases (B : PSMoveButtons) (env : Environment) (opts : CmdLine) (coeffs : MoveCoeffs)
    (P : Option (Except String ConfFile) → Config → Prop)
    (hnone : ∀ file, P none { handleCmdLine env opts (.new env coeffs) with configFile := file })
    (herror : ∀ file what, P (some (.error what))
      { handleCmdLine env opts (.new env coeffs) with
        configFile := file, error := what, ok := false })
    (hread : ∀ file conf, P (some (.ok conf)) (storeKeyMaps B conf.keys configOptions
      (storeOptions env conf
        { handleCmdLine env opts (.new env coeffs) with configFile := file }))) :
    P (confFile env opts) (parse B env (.ok opts) (.new env coeffs)) := by
  obtain ⟨file, hparse⟩ := parse_stored B env opts coeffs
  cases hfile : confFile env opts with
  | none =>
    rw [hfile] at hparse
    rw [show parse B env (.ok opts) (.new env coeffs) = _ from hparse]
    exact hnone file
  | some content =>
    rw [hfile] at hparse
    cases content with
    | error what =>
      rw [show parse B env (.ok opts) (.new env coeffs) = _ from hparse]
      exact herror file what
    | ok conf =>
      rw [show parse B env (.ok opts) (.new env coeffs) = _ from hparse]
      exact hread file conf

end Config

/-- A file that sets nothing but key options. -/
def ConfFile.ofKeys (keys : String → Option String) : ConfFile where
  pidFile := none
  logLevel := none
  logFile := none
  moveCoeffX := none
  moveCoeffY := none
  mode := none
  pollTimeout := none
  connTimeout := none
  disconnectTimeout := none
  ledUpdateTimeout := none
  moveThreshold := none
  gestureThreshold := none
  gestureTimeout := none
  keys := keys

/-- The options that the file sets, none if there is no file to read. -/
def fileOptions (env : Environment) (opts : CmdLine) : ConfFile :=
  match Config.confFile env opts with
  | some (.ok conf) => conf
  | _ => .ofKeys fun _ => none

/-- The options of what has been read. -/
def readFile : Option (Except String ConfFile) → ConfFile
  | some (.ok conf) => conf
  | _ => .ofKeys fun _ => none

theorem fileOptions_eq (env : Environment) (opts : CmdLine) :
    fileOptions env opts = readFile (Config.confFile env opts) := rfl

/-- The numbers of an accepted configuration are those of the file, over the ones of the
constructor. -/
theorem parse_numbers (B : PSMoveButtons) (env : Environment) (opts : CmdLine)
    (coeffs : MoveCoeffs) (hok : (Config.parse B env (.ok opts) (.new env coeffs)).ok = true) :
    (Config.parse B env (.ok opts) (.new env coeffs)).numbers =
      (Config.new env coeffs).numbers.over (fileOptions env opts) := by
  have hnumbers := (Config.handleCmdLine_numbers env opts (.new env coeffs)).1
  refine Config.parse_cases B env opts coeffs (fun content c => c.ok = true →
    c.numbers = (Config.new env coeffs).numbers.over (readFile content)) ?_ ?_ ?_ hok
  · intro file _
    exact hnumbers
  · intro file what hfalse
    cases hfalse
  · intro file conf _
    rw [Config.storeKeyMaps_numbers, Config.storeOptions_numbers]
    exact congrArg (Config.Numbers.over conf) hnumbers

/-! Settings for examples. -/

def plainCmdLine : CmdLine := ⟨false, false, none, none, none, none, none, false⟩

/-- The default file is the only one. -/
def defaultFile (conf : ConfFile) : Environment where
  files name := if name = defConfigfile then some (.ok conf) else none
  pwDir := none

end PSMoveInput

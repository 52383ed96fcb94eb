import PSMoveInput.Config

/-! Where the settings of a configuration come from: the command line, the file, or the
constructor. -/
namespace PSMoveInput

/-! ### Command line over file over default -/

/-- The value of the first source that has one. -/
def overriding {α : Type*} (cmdLine file : Option α) (default : α) : α :=
  (cmdLine.or file).getD default

/-- What a leading tilde stands for: the home directory, and nothing but itself where there is
none. -/
inductive TildeExpanded (home : Option String) : String → String → Prop
  | home (dir rest : String) (hdir : home = some dir) :
      TildeExpanded home ("~" ++ rest) (dir ++ rest)
  | homeless (rest : String) (hdir : home = none) : TildeExpanded home ("~" ++ rest) ("~" ++ rest)
  | plain (str : String) (htilde : ∀ rest, str ≠ "~" ++ rest) : TildeExpanded home str str

theorem TildeExpanded.unique {home : Option String} {str path path' : String}
    (h : TildeExpanded home str path) (h' : TildeExpanded home str path') : path = path' := by
  generalize hstr : str = str' at h'
  cases h with
  | home dir rest hdir =>
    cases h' with
    | home dir' rest' hdir' =>
      obtain rfl := Option.some.inj (hdir.symm.trans hdir')
      rw [(String.append_right_inj "~").mp hstr]
    | homeless rest' hdir' =>
      rw [hdir] at hdir'
      cases hdir'
    | plain _ htilde => exact absurd hstr.symm (htilde rest)
  | homeless rest hdir =>
    cases h' with
    | home dir' rest' hdir' =>
      rw [hdir] at hdir'
      cases hdir'
    | homeless rest' hdir' => exact hstr
    | plain _ htilde => exact absurd hstr.symm (htilde rest)
  | plain _ htilde =>
    cases h' with
    | home dir' rest' hdir' => exact absurd hstr (htilde rest')
    | homeless rest' hdir' => exact hstr
    | plain _ htilde' => exact hstr

theorem expandTilde_expanded (env : Environment) (str : String) :
    TildeExpanded env.pwDir str (expandTilde env str) := by
  rw [expandTilde]
  split
  · rename_i rest hstr
    have htilde : str = "~" ++ String.ofList rest := by
      rw [← String.toList_inj, hstr]
      simp
    cases hdir : env.pwDir with
    | none =>
      rw [htilde]
      exact .homeless _ rfl
    | some dir =>
      rw [htilde]
      exact .home dir _ rfl
  · rename_i hplain
    apply TildeExpanded.plain
    intro rest hstr
    apply hplain rest.toList
    rw [hstr, String.toList_append]
    rfl

/-- What the configuration should be for an option line and the options of a file. -/
structure Precedence (env : Environment) (opts : CmdLine) (conf : ConfFile) (c : Config) :
    Prop where
  pidfile : TildeExpanded env.pwDir (overriding opts.pidfile conf.pidFile defPidfile) c.pidfile
  logfile : TildeExpanded env.pwDir (overriding opts.logfile conf.logFile defLogfile) c.logfile
  loglevel : c.loglevel = overriding (opts.loglevel.bind LogLevel.ofChar)
    (conf.logLevel.bind LogLevel.ofChar) .error
  opmode : c.opmode = overriding (opts.mode.bind OpMode.ofString)
    (conf.mode.bind OpMode.ofString) .standalone

/-- Each of the settings is the same if its own options are. -/
structure OwnOptions (opts opts' : CmdLine) (conf conf' : ConfFile) (c c' : Config) : Prop where
  pidfile : opts.pidfile = opts'.pidfile → conf.pidFile = conf'.pidFile → c.pidfile = c'.pidfile
  logfile : opts.logfile = opts'.logfile → conf.logFile = conf'.logFile → c.logfile = c'.logfile
  loglevel : opts.loglevel = opts'.loglevel → conf.logLevel = conf'.logLevel →
    c.loglevel = c'.loglevel
  opmode : opts.mode = opts'.mode → conf.mode = conf'.mode → c.opmode = c'.opmode

/-- A source that is looked at if nothing is set yet. -/
theorem overriding_eq {α : Type*} (cmdLine file : Option α) (default : α) :
    (if cmdLine.isSome || false then cmdLine.getD default
      else file.getD (cmdLine.getD default)) = overriding cmdLine file default := by
  cases cmdLine <;> rfl

/-- The same for a file name, which is expanded when it is read. -/
theorem overriding_expanded (env : Environment) (cmdLine file : Option String) (default : String) :
    TildeExpanded env.pwDir (overriding cmdLine file default)
      (if (cmdLine.map (expandTilde env)).isSome || false
        then (cmdLine.map (expandTilde env)).getD (expandTilde env default)
        else (file.map (expandTilde env)).getD
          ((cmdLine.map (expandTilde env)).getD (expandTilde env default))) := by
  rw [overriding_eq]
  cases cmdLine with
  | some str => exact expandTilde_expanded env str
  | none => cases file <;> exact expandTilde_expanded env _

/-- The settings of the command line are in place when the options of the file are stored. -/
theorem storeOptions_precedence (env : Environment) (opts : CmdLine) (coeffs : MoveCoeffs)
    (file : String) (conf : ConfFile) (hhelp : opts.help = false)
    (hversion : opts.version = false) :
    Precedence env opts conf
      (({ Config.handleCmdLine env opts (.new env coeffs) with configFile := file } :
        Config).storeOptions env conf) := by
  rw [Config.storeOptions_eq, Config.handleCmdLine_eq env opts _ hhelp hversion]
  constructor
  · have h := overriding_expanded env opts.pidfile conf.pidFile defPidfile
    rw [Option.isSome_map] at h
    exact h
  · have h := overriding_expanded env opts.logfile conf.logFile defLogfile
    rw [Option.isSome_map] at h
    exact h
  · exact overriding_eq (opts.loglevel.bind LogLevel.ofChar) (conf.logLevel.bind LogLevel.ofChar) _
  · exact overriding_eq (opts.mode.bind OpMode.ofString) (conf.mode.bind OpMode.ofString) _

/-- Without a file to read the settings are those of one that sets nothing. -/
theorem storeOptions_nothing (env : Environment) (keys : String → Option String) (c : Config) :
    c.storeOptions env (.ofKeys keys) = c := by
  rw [Config.storeOptions_eq]
  obtain ⟨_, _, _, _, logSet, _, _, logfileSet, pidSet, _, _, _, _, _, _, modeSet⟩ := c
  cases logSet <;> cases logfileSet <;> cases pidSet <;> cases modeSet <;> rfl

theorem parse_precedence (B : PSMoveButtons) (env : Environment) (opts : CmdLine)
    (coeffs : MoveCoeffs) (hhelp : opts.help = false) (hversion : opts.version = false)
    (hok : (Config.parse B env (.ok opts) (.new env coeffs)).ok = true) :
    Precedence env opts (fileOptions env opts)
      (Config.parse B env (.ok opts) (.new env coeffs)) := by
  have hstored (file : String) (conf : ConfFile) :=
    storeOptions_precedence env opts coeffs file conf hhelp hversion
  rw [fileOptions_eq]
  refine Config.parse_cases B env opts coeffs (fun content c => c.ok = true →
    Precedence env opts (readFile content) c) ?_ ?_ ?_ hok
  · intro file _
    have h := hstored file (.ofKeys fun _ => none)
    rw [storeOptions_nothing] at h
    exact h
  · intro file what hfalse
    cases hfalse
  · intro file conf _
    -- the loop over the key options leaves the settings alone
    obtain ⟨ok, keymaps, hkeys⟩ := Config.storeKeyMaps_rest B conf.keys configOptions
      (({ Config.handleCmdLine env opts (.new env coeffs) with configFile := file } :
        Config).storeOptions env conf)
    rw [hkeys]
    obtain ⟨hpidfile, hlogfile, hloglevel, hopmode⟩ := hstored file conf
    exact ⟨hpidfile, hlogfile, hloglevel, hopmode⟩

/-- The command line overrides the file, which overrides the default, and none of the settings
depends on an option of another one. -/
theorem settings_precedence (B : PSMoveButtons) (env : Environment) (opts : CmdLine)
    (coeffs : MoveCoeffs) (hhelp : opts.help = false) (hversion : opts.version = false)
    (hok : (Config.parse B env (.ok opts) (.new env coeffs)).ok = true) :
    Precedence env opts (fileOptions env opts) (Config.parse B env (.ok opts) (.new env coeffs)) ∧
      ∀ env' opts' coeffs', env.pwDir = env'.pwDir → opts'.help = false → opts'.version = false →
        (Config.parse B env' (.ok opts') (.new env' coeffs')).ok = true →
        OwnOptions opts opts' (fileOptions env opts) (fileOptions env' opts')
          (Config.parse B env (.ok opts) (.new env coeffs))
          (Config.parse B env' (.ok opts') (.new env' coeffs')) := by
  have h := parse_precedence B env opts coeffs hhelp hversion hok
  refine ⟨h, ?_⟩
  intro env' opts' coeffs' hdir hhelp' hversion' hok'
  have h' := parse_precedence B env' opts' coeffs' hhelp' hversion' hok'
  have hpidfile := h'.pidfile
  have hlogfile := h'.logfile
  rw [← hdir] at hpidfile hlogfile
  constructor
  · intro hopt hconf
    rw [← hopt, ← hconf] at hpidfile
    exact h.pidfile.unique hpidfile
  · intro hopt hconf
    rw [← hopt, ← hconf] at hlogfile
    exact h.logfile.unique hlogfile
  · intro hopt hconf
    rw [h.loglevel, h'.loglevel, hopt, hconf]
  · intro hopt hconf
    rw [h.opmode, h'.opmode, hopt, hconf]

/-- A level of the command line that is not valid, and a log file below the home directory. -/
def homeCmdLine : CmdLine :=
  { plainCmdLine with loglevel := some '7', logfile := some "~/psmove/input.log" }

/-- A valid level, and a log file that comes too late. -/
def homeConf : ConfFile :=
  { ConfFile.ofKeys fun _ => none with logLevel := some '2', logFile := some "/tmp/input.log" }

/-- The level of the file, the log file of the command line and the default pid file. -/
theorem settings_precedence_home :
    let env := { defaultFile homeConf with pwDir := some "/home/user" }
    let c := Config.parse psmoveButtons env (.ok homeCmdLine) (.new env ⟨0, 0⟩)
    c.loglevel = .info ∧ c.logfile = "/home/user/psmove/input.log" ∧
      c.pidfile = "/home/user/psmoveinput.pid" := by
  intro env c
  have h := (settings_precedence psmoveButtons env homeCmdLine ⟨0, 0⟩ rfl rfl
    (by decide +kernel)).1
  refine ⟨h.loglevel, ?_, ?_⟩
  · exact h.logfile.unique (.home "/home/user" "/psmove/input.log" rfl)
  · exact h.pidfile.unique (.home "/home/user" "/psmoveinput.pid" rfl)

/-! ### What `coeffs_` holds before -/

/-- `DEF_MOVEC_X` and `DEF_MOVEC_Y`, which no function uses. -/
def defMovec : MoveCoeffs := ⟨1, 1⟩

/-- What the getters return. -/
structure Getters where
  configFileName : String
  pidFileName : String
  moveCoeffs : MoveCoeffs
  keyMap : ControllerId → KeyMap
  logLevel : LogLevel
  logFileName : String
  opMode : OpMode
  foreground : Bool
  pollTimeout : CInt
  connTimeout : CInt
  disconnectTimeout : CInt
  ledTimeout : CInt
  gestureTimeout : CInt
  moveThreshold : CInt
  gestureThreshold : CInt
  isOK : Bool
  helpRequested : Bool
  versionRequested : Bool
  error : String

def Config.getters (c : Config) : Getters where
  configFileName := c.configFile
  pidFileName := c.pidfile
  moveCoeffs := c.coeffs
  keyMap := c.keymaps
  logLevel := c.loglevel
  logFileName := c.logfile
  opMode := c.opmode
  foreground := c.foreground
  pollTimeout := c.pollTimeout
  connTimeout := c.connTimeout
  disconnectTimeout := c.disconnectTimeout
  ledTimeout := c.ledTimeout
  gestureTimeout := c.gestureTimeout
  moveThreshold := c.moveThreshold
  gestureThreshold := c.gestureThreshold
  isOK := c.ok
  helpRequested := c.help
  versionRequested := c.version
  error := c.error

def Config.withCoeffs (c : Config) (coeffs : MoveCoeffs) : Config := { c with coeffs := coeffs }

/-- The coefficients of a file, over the ones that are there without it. -/
def ConfFile.moveCoeffs (conf : ConfFile) (coeffs : MoveCoeffs) : MoveCoeffs :=
  ⟨conf.moveCoeffX.getD coeffs.cx, conf.moveCoeffY.getD coeffs.cy⟩

namespace Config

theorem handleCmdLine_withCoeffs (env : Environment) (opts : CmdLine) (c : Config)
    (coeffs : MoveCoeffs) :
    handleCmdLine env opts (c.withCoeffs coeffs) =
      (handleCmdLine env opts c).withCoeffs coeffs := by
  cases hhelp : opts.help with
  | true => simp only [handleCmdLine, hhelp, ↓reduceIte, withCoeffs]
  | false =>
    cases hversion : opts.version with
    | true => simp only [handleCmdLine, hhelp, hversion, Bool.false_eq_true, ↓reduceIte, withCoeffs]
    | false =>
      rw [handleCmdLine_eq env opts _ hhelp hversion, handleCmdLine_eq env opts _ hhelp hversion]
      rfl

theorem configFileOK_withCoeffs (env : Environment) (c : Config) (coeffs : MoveCoeffs) :
    configFileOK env (c.withCoeffs coeffs) =
      (configFileOK env c).map fun c => c.withCoeffs coeffs := by
  by_cases hfile : (env.files c.configFile).isSome = true
  · have h : configFileOK env c = some c := if_pos hfile
    rw [h]
    exact if_pos hfile
  · by_cases hdefault : c.configFileSet = true ∧ (env.files defConfigfile).isSome = true
    · have h : configFileOK env c = some _ := (if_neg hfile).trans (if_pos hdefault)
      rw [h]
      exact (if_neg hfile).trans (if_pos hdefault)
    · have h : configFileOK env c = none := (if_neg hfile).trans (if_neg hdefault)
      rw [h]
      exact (if_neg hfile).trans (if_neg hdefault)

theorem storeOptions_withCoeffs (env : Environment) (conf : ConfFile) (c : Config)
    (coeffs : MoveCoeffs) :
    storeOptions env conf (c.withCoeffs coeffs) =
      (storeOptions env conf c).withCoeffs (conf.moveCoeffs coeffs) := by
  rw [storeOptions_eq, storeOptions_eq]
  rfl

theorem storeKeyMaps_withCoeffs (B : PSMoveButtons) (keys : String → Option String)
    (opts : List String) (c : Config) (coeffs : MoveCoeffs) :
    storeKeyMaps B keys opts (c.withCoeffs coeffs) =
      (storeKeyMaps B keys opts c).withCoeffs coeffs := by
  induction opts generalizing c with
  | nil => rfl
  | cons longname opts ih =>
    rw [storeKeyMaps, storeKeyMaps]
    by_cases hskip : longname ∈ nonKeyOptions
    · rw [if_pos hskip, if_pos hskip]
      exact ih c
    · rw [if_neg hskip, if_neg hskip]
      cases keys longname with
      | none => exact ih c
      | some optval =>
        dsimp only
        split_ifs
        · exact ih (c.pushEntry .first _)
        · exact ih (c.pushEntry .second _)
        · rfl

end Config

/-- What the coefficients are before goes nowhere else. -/
theorem parse_withCoeffs (B : PSMoveButtons) (env : Environment)
    (cmdLine : Except String CmdLine) (coeffs coeffs' : MoveCoeffs) :
    ∃ after, Config.parse B env cmdLine (.new env coeffs') =
      (Config.parse B env cmdLine (.new env coeffs)).withCoeffs after := by
  obtain ⟨what, rfl⟩ | ⟨opts, rfl⟩ :
      (∃ what, cmdLine = .error what) ∨ ∃ opts, cmdLine = .ok opts := by
    cases cmdLine with
    | error what => exact Or.inl ⟨what, rfl⟩
    | ok opts => exact Or.inr ⟨opts, rfl⟩
  · exact ⟨coeffs', rfl⟩
  have hnew : Config.new env coeffs' = (Config.new env coeffs).withCoeffs coeffs' := rfl
  have hparse (c : Config) : Config.parse B env (.ok opts) c =
      (c.handleCmdLine env opts).parseConfig B env :=
    if_pos (Config.handleCmdLine_ok env opts c)
  rw [hparse, hparse, hnew, Config.handleCmdLine_withCoeffs, Config.parseConfig,
    Config.configFileOK_withCoeffs]
  rw [Config.parseConfig]
  cases Config.configFileOK env ((Config.new env coeffs).handleCmdLine env opts) with
  | none => exact ⟨coeffs', rfl⟩
  | some c =>
    dsimp only [Option.map_some]
    have hfile : (c.withCoeffs coeffs').configFile = c.configFile := rfl
    rw [hfile]
    cases env.files c.configFile with
    | none => exact ⟨coeffs', rfl⟩
    | some content =>
      cases content with
      | error what => exact ⟨coeffs', rfl⟩
      | ok conf =>
        refine ⟨conf.moveCoeffs coeffs', ?_⟩
        dsimp only
        rw [Config.storeOptions_withCoeffs, Config.storeKeyMaps_withCoeffs]

/-- The options that a file sets for a command line, none if boost does not accept it. -/
def readOptions (env : Environment) (cmdLine : Except String CmdLine) : ConfFile :=
  match cmdLine with
  | .ok opts => fileOptions env opts
  | .error _ => .ofKeys fun _ => none

/-- The configuration that `parse` leaves is accepted for one content of the memory. Then the
getters return the same values for any two, with the coefficients of the file or the documented
defaults, if and only if the file sets both coefficients. -/
theorem parse_determined_iff (B : PSMoveButtons) (env : Environment)
    (cmdLine : Except String CmdLine) (coeffs : MoveCoeffs)
    (hok : (Config.parse B env cmdLine (.new env coeffs)).ok = true) :
    (∀ coeffs' coeffs'',
      (Config.parse B env cmdLine (.new env coeffs')).getters =
          (Config.parse B env cmdLine (.new env coeffs'')).getters ∧
        (Config.parse B env cmdLine (.new env coeffs')).getters.moveCoeffs =
          (readOptions env cmdLine).moveCoeffs defMovec) ↔
      (readOptions env cmdLine).moveCoeffX.isSome ∧
        (readOptions env cmdLine).moveCoeffY.isSome := by
  obtain ⟨opts, rfl⟩ : ∃ opts, cmdLine = .ok opts := by
    cases cmdLine with
    | ok opts => exact ⟨opts, rfl⟩
    | error what => cases hok
  have hread : readOptions env (.ok opts) = fileOptions env opts := rfl
  rw [hread]
  have hcoeffs (coeffs' : MoveCoeffs) : (Config.parse B env (.ok opts) (.new env coeffs')).coeffs =
      (fileOptions env opts).moveCoeffs coeffs' := by
    obtain ⟨after, hafter⟩ := parse_withCoeffs B env (.ok opts) coeffs coeffs'
    have hok' : (Config.parse B env (.ok opts) (.new env coeffs')).ok = true := by
      rw [hafter]
      exact hok
    exact congrArg Config.Numbers.coeffs (parse_numbers B env opts coeffs' hok')
  constructor
  · intro h
    have hzero := (hcoeffs ⟨0, 0⟩).symm.trans (h ⟨0, 0⟩ ⟨0, 0⟩).2
    rw [ConfFile.moveCoeffs, ConfFile.moveCoeffs, MoveCoeffs.mk.injEq] at hzero
    -- a missing coefficient would be zero, and not one
    constructor
    · cases hx : (fileOptions env opts).moveCoeffX with
      | some x => rfl
      | none =>
        rw [hx] at hzero
        exact absurd hzero.1 (by decide)
    · cases hy : (fileOptions env opts).moveCoeffY with
      | some y => rfl
      | none =>
        rw [hy] at hzero
        exact absurd hzero.2 (by decide)
  · rintro ⟨hx, hy⟩ coeffs' coeffs''
    have hsame (before before' : MoveCoeffs) : (fileOptions env opts).moveCoeffs before =
        (fileOptions env opts).moveCoeffs before' := by
      obtain ⟨x, hx⟩ := Option.isSome_iff_exists.mp hx
      obtain ⟨y, hy⟩ := Option.isSome_iff_exists.mp hy
      simp only [ConfFile.moveCoeffs, hx, hy, Option.getD_some]
    refine ⟨?_, (hcoeffs coeffs').trans (hsame _ _)⟩
    obtain ⟨after, hafter⟩ := parse_withCoeffs B env (.ok opts) coeffs' coeffs''
    have heq : after = (Config.parse B env (.ok opts) (.new env coeffs')).coeffs := by
      calc
        after = (Config.parse B env (.ok opts) (.new env coeffs'')).coeffs := by rw [hafter]; rfl
        _ = (Config.parse B env (.ok opts) (.new env coeffs')).coeffs := by
          rw [hcoeffs, hcoeffs, hsame]
    rw [hafter, heq]
    rfl

/-- A file that sets the horizontal coefficient only, and one that sets both. -/
def halfConf : ConfFile := { ConfFile.ofKeys fun _ => none with moveCoeffX := some (1 / 10) }

def bothConf : ConfFile := { halfConf with moveCoeffY := some (1 / 10) }

theorem parse_determined_both :
    let parsed (coeffs : MoveCoeffs) :=
      Config.parse psmoveButtons (defaultFile bothConf) (.ok plainCmdLine)
        (.new (defaultFile bothConf) coeffs)
    (parsed ⟨0, 0⟩).getters = (parsed ⟨0, 5⟩).getters := by
  have h := parse_determined_iff psmoveButtons (defaultFile bothConf) (.ok plainCmdLine) ⟨0, 0⟩
    (by decide +kernel)
  exact (h.mpr (by decide +kernel) ⟨0, 0⟩ ⟨0, 5⟩).1

/-- The vertical coefficient is what the memory holds, in an accepted configuration. -/
theorem parse_undetermined_half :
    let parsed (coeffs : MoveCoeffs) :=
      Config.parse psmoveButtons (defaultFile halfConf) (.ok plainCmdLine)
        (.new (defaultFile halfConf) coeffs)
    (parsed ⟨0, 0⟩).ok = true ∧ (parsed ⟨0, 5⟩).ok = true ∧
      (parsed ⟨0, 0⟩).getters.moveCoeffs = ⟨1 / 10, 0⟩ ∧
      (parsed ⟨0, 5⟩).getters.moveCoeffs = ⟨1 / 10, 5⟩ ∧
      (parsed ⟨0, 0⟩).getters ≠ (parsed ⟨0, 5⟩).getters := by
  intro parsed
  have hzero : (parsed ⟨0, 0⟩).getters.moveCoeffs = ⟨1 / 10, 0⟩ := by decide +kernel
  have hfive : (parsed ⟨0, 5⟩).getters.moveCoeffs = ⟨1 / 10, 5⟩ := by decide +kernel
  refine ⟨by decide +kernel, by decide +kernel, hzero, hfive, ?_⟩
  intro h
  rw [h, hfive] at hzero
  exact absurd hzero (by decide +kernel)

end PSMoveInput

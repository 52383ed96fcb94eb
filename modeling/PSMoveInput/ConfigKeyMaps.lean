import PSMoveInput.Config

/-! The key maps of a parsed configuration against the key options of its file. The names, the
controllers and the button codes of these options are written in one place here; the tables of the
source agree with it. -/
namespace PSMoveInput

inductive Direction where
  | up
  | down
  | left
  | right
  deriving DecidableEq, Repr

def Direction.code : Direction → Word
  | .up => btnGestureUp
  | .down => btnGestureDown
  | .left => btnGestureLeft
  | .right => btnGestureRight

/-- The options `PSBTN_X`, `PSBTN_1_X` and `GESTURE_X`. -/
inductive KeyOption where
  | button (controller : ControllerId) (b : PSBtn)
  | gesture (d : Direction)
  deriving DecidableEq, Repr

namespace KeyOption

def name : KeyOption → String
  | .button .first .triangle => "PSBTN_TRIANGLE"
  | .button .first .circle => "PSBTN_CIRCLE"
  | .button .first .cross => "PSBTN_CROSS"
  | .button .first .square => "PSBTN_SQUARE"
  | .button .first .select => "PSBTN_SELECT"
  | .button .first .start => "PSBTN_START"
  | .button .first .ps => "PSBTN_PS"
  | .button .first .move => "PSBTN_MOVE"
  | .button .first .t => "PSBTN_T"
  | .button .second .triangle => "PSBTN_1_TRIANGLE"
  | .button .second .circle => "PSBTN_1_CIRCLE"
  | .button .second .cross => "PSBTN_1_CROSS"
  | .button .second .square => "PSBTN_1_SQUARE"
  | .button .second .select => "PSBTN_1_SELECT"
  | .button .second .start => "PSBTN_1_START"
  | .button .second .ps => "PSBTN_1_PS"
  | .button .second .move => "PSBTN_1_MOVE"
  | .button .second .t => "PSBTN_1_T"
  | .gesture .up => "GESTURE_UP"
  | .gesture .down => "GESTURE_DOWN"
  | .gesture .left => "GESTURE_LEFT"
  | .gesture .right => "GESTURE_RIGHT"

/-- The controller whose key map takes the option. -/
def controller : KeyOption → ControllerId
  | .button controller _ => controller
  | .gesture _ => .second

def pscode (B : PSMoveButtons) : KeyOption → Word
  | .button _ b => B.code b
  | .gesture d => d.code

/-- The entry of a file that sets the option to a key of `linmap`. -/
def entry (B : PSMoveButtons) (keys : String → Option String) (o : KeyOption) :
    Option KeyMapEntry :=
  ((keys o.name).bind fun optval => linmap.lookup (cStr optval)).map
    fun lincode => ⟨o.pscode B, lincode⟩

end KeyOption

def psbtns : List PSBtn := [.triangle, .circle, .cross, .square, .select, .start, .ps, .move, .t]

/-- All key options, in the order of `configdesc_`. -/
def keyOptions : List KeyOption :=
  psbtns.map (.button .first) ++ psbtns.map (.button .second) ++
    [Direction.up, .down, .left, .right].map .gesture

/-- One entry for each option of the controller that the file sets. -/
def fileKeyMap (B : PSMoveButtons) (keys : String → Option String) (controller : ControllerId) :
    KeyMap :=
  (keyOptions.filter fun o => o.controller = controller).filterMap (KeyOption.entry B keys)

theorem mem_keyOptions (o : KeyOption) : o ∈ keyOptions := by
  rcases o with ⟨c, b⟩ | d
  · cases c <;> cases b <;> decide
  · cases d <;> decide

theorem keyOptions_nodup : keyOptions.Nodup := by decide

/-! ### The tables of the source -/

theorem configOptions_keys :
    configOptions.filter (fun longname => longname ∉ nonKeyOptions) =
      keyOptions.map KeyOption.name := by
  decide +kernel

theorem name_firstController (o : KeyOption) :
    o.name ∈ firstControllerOptions ↔ o.controller = .first := by
  have hall : ∀ o ∈ keyOptions, (o.name ∈ firstControllerOptions ↔ o.controller = .first) := by
    decide +kernel
  exact hall o (mem_keyOptions o)

theorem psmap_name (B : PSMoveButtons) (o : KeyOption) :
    (psmap B).lookup o.name = some (o.pscode B) := by
  rcases o with ⟨c, b⟩ | d
  · cases c <;> cases b <;> rfl
  · cases d <;> rfl

theorem pscode_scanned (B : PSMoveButtons) (o : KeyOption) : o.pscode B ∈ scanBits := by
  have hmem := mem_of_lookup (psmap_name B o)
  exact psmap_codes B _ hmem

theorem pscode_ne_zero (B : PSMoveButtons) (o : KeyOption) : o.pscode B ≠ 0 := by
  exact scanBits_ne_zero (pscode_scanned B o)

theorem linmap_ne_reserved {name : String} {lincode : ℤ} (h : linmap.lookup name = some lincode) :
    lincode ≠ keyReserved := by
  have hall : ∀ p ∈ linmap, p.2 ≠ keyReserved := by decide +kernel
  exact hall _ (mem_of_lookup h)

theorem Direction.code_injective : Function.Injective Direction.code := by
  intro d d' h
  cases d <;> cases d' <;> first | rfl | exact absurd h (by decide)

/-- The buttons of psmoveapi stay below the bits of the gestures. -/
theorem code_ne_gesture (B : PSMoveButtons) (b : PSBtn) (d : Direction) :
    B.code b ≠ d.code := by
  obtain ⟨j, hj, hcode⟩ := B.single b
  have hgesture : d.code ∈ gestureBits := by
    cases d <;> decide
  intro heq
  rw [← heq, hcode] at hgesture
  exact physical_bit hj hgesture

theorem pscode_injective (B : PSMoveButtons) {o o' : KeyOption}
    (hcontroller : o.controller = o'.controller) (hcode : o.pscode B = o'.pscode B) : o = o' := by
  rcases o with ⟨c, b⟩ | d
  · rcases o' with ⟨c', b'⟩ | d'
    · have hc : c = c' := hcontroller
      have hb : b = b' := B.injective hcode
      rw [hc, hb]
    · exact absurd hcode (code_ne_gesture B b d')
  · rcases o' with ⟨c', b'⟩ | d'
    · exact absurd hcode.symm (code_ne_gesture B b' d)
    · have hd : d = d' := Direction.code_injective hcode
      rw [hd]

theorem createEntry_name (B : PSMoveButtons) (o : KeyOption) (optval : String) :
    createEntry B o.name optval =
      ⟨o.pscode B, (linmap.lookup (cStr optval)).getD keyReserved⟩ := by
  simp only [createEntry, psmap_name]
  cases linmap.lookup (cStr optval) <;> rfl

/-! ### The loop -/

/-- One iteration, for a key option. -/
theorem storeKeyMaps_cons (B : PSMoveButtons) (keys : String → Option String) (o : KeyOption)
    (names : List String) (c : Config) :
    Config.storeKeyMaps B keys (o.name :: names) c =
      match keys o.name with
      | none => Config.storeKeyMaps B keys names c
      | some optval =>
        match linmap.lookup (cStr optval) with
        | none => { c with ok := false }
        | some lincode =>
          Config.storeKeyMaps B keys names (c.pushEntry o.controller ⟨o.pscode B, lincode⟩) := by
  have hkey : o.name ∉ nonKeyOptions := by
    have hmem : o.name ∈ keyOptions.map KeyOption.name :=
      List.mem_map_of_mem (mem_keyOptions o)
    rw [← configOptions_keys] at hmem
    exact of_decide_eq_true (List.mem_filter.mp hmem).2
  rw [Config.storeKeyMaps, if_neg hkey]
  cases hvalue : keys o.name with
  | none => rfl
  | some optval =>
    simp only [createEntry_name]
    cases hlin : linmap.lookup (cStr optval) with
    | none =>
      rw [if_neg]
      exact fun h => h.2 rfl
    | some lincode =>
      have hvalid : o.pscode B ≠ 0 ∧ lincode ≠ keyReserved :=
        ⟨pscode_ne_zero B o, linmap_ne_reserved hlin⟩
      simp only [Option.getD_some]
      rw [if_pos hvalid]
      -- the list of the first controller's options decides the key map
      by_cases hfirst : o.controller = .first
      · rw [if_pos ((name_firstController o).mpr hfirst), hfirst]
      · have hsecond : o.controller = .second := by
          cases hc : o.controller with
          | first => exact absurd hc hfirst
          | second => rfl
        rw [if_neg (fun h => hfirst ((name_firstController o).mp h)), hsecond]

/-- The other options are skipped. -/
theorem storeKeyMaps_filter (B : PSMoveButtons) (keys : String → Option String)
    (opts : List String) (c : Config) :
    Config.storeKeyMaps B keys opts c =
      Config.storeKeyMaps B keys (opts.filter fun longname => longname ∉ nonKeyOptions) c := by
  induction opts generalizing c with
  | nil => rfl
  | cons longname opts ih =>
    by_cases hskip : longname ∈ nonKeyOptions
    · rw [Config.storeKeyMaps, if_pos hskip, ih, List.filter_cons_of_neg (by simpa using hskip)]
    · rw [List.filter_cons_of_pos (by simpa using hskip), Config.storeKeyMaps, if_neg hskip,
        Config.storeKeyMaps, if_neg hskip]
      simp only [ih]

/-- Every option of the list that the file sets names a key. -/
def KeysNamed (keys : String → Option String) (os : List KeyOption) : Prop :=
  ∀ o ∈ os, ∀ optval, keys o.name = some optval →
    (linmap.lookup (cStr optval)).isSome = true

theorem keysNamed_cons (keys : String → Option String) (o : KeyOption) (os : List KeyOption) :
    KeysNamed keys (o :: os) ↔
      (∀ optval, keys o.name = some optval →
        (linmap.lookup (cStr optval)).isSome = true) ∧
        KeysNamed keys os := List.forall_mem_cons

/-- The keys that the lookup finds are those that the table lists. -/
theorem keysNamed_keyOptions (keys : String → Option String) :
    KeysNamed keys keyOptions ↔ ∀ (o : KeyOption) (optval : String), keys o.name = some optval →
      cStr optval ∈ linmap.map Prod.fst := by
  constructor
  · intro hnamed o optval hvalue
    have hfound := hnamed o (mem_keyOptions o) optval hvalue
    obtain ⟨lincode, hlin⟩ := Option.isSome_iff_exists.mp hfound
    exact List.mem_map_of_mem (mem_of_lookup hlin)
  · intro hnamed o _ optval hvalue
    obtain ⟨p, hp, hname⟩ := List.mem_map.mp (hnamed o optval hvalue)
    exact List.lookup_isSome_iff.mpr ⟨p, hp, by rw [hname]; exact beq_self_eq_true _⟩

/-- If all values are keys, the loop appends the entries of each controller. -/
theorem storeKeyMaps_named (B : PSMoveButtons) (keys : String → Option String)
    (os : List KeyOption) (c : Config) (h : KeysNamed keys os) :
    Config.storeKeyMaps B keys (os.map KeyOption.name) c =
      { c with
        keymaps := fun k => c.keymaps k ++
          (os.filter fun o => o.controller = k).filterMap (KeyOption.entry B keys) } := by
  induction os generalizing c with
  | nil => simp [Config.storeKeyMaps]
  | cons o os ih =>
    obtain ⟨hhead, htail⟩ := (keysNamed_cons keys o os).mp h
    rw [List.map_cons, storeKeyMaps_cons]
    cases hvalue : keys o.name with
    | none =>
      have hentry : o.entry B keys = none := by simp [KeyOption.entry, hvalue]
      dsimp only
      rw [ih c htail]
      congr 1
      funext k
      by_cases hk : o.controller = k
      · simp [hk, hentry]
      · simp [hk]
    | some optval =>
      obtain ⟨lincode, hlin⟩ := Option.isSome_iff_exists.mp (hhead optval hvalue)
      have hentry : o.entry B keys = some ⟨o.pscode B, lincode⟩ := by
        simp [KeyOption.entry, hvalue, hlin]
      dsimp only
      rw [hlin]
      dsimp only
      rw [ih _ htail]
      simp only [Config.pushEntry]
      congr 1
      funext k
      by_cases hk : o.controller = k
      · subst hk
        simp [hentry]
      · simp [hk, Function.update_of_ne (Ne.symm hk)]

/-- A value that is no key clears `ok_`, whatever the loop has stored before it. -/
theorem storeKeyMaps_unnamed (B : PSMoveButtons) (keys : String → Option String)
    (os : List KeyOption) (c : Config) (h : ¬KeysNamed keys os) :
    (Config.storeKeyMaps B keys (os.map KeyOption.name) c).ok = false := by
  induction os generalizing c with
  | nil => exact absurd (fun o ho => absurd ho List.not_mem_nil) h
  | cons o os ih =>
    rw [keysNamed_cons] at h
    rw [List.map_cons, storeKeyMaps_cons]
    cases hvalue : keys o.name with
    | none =>
      apply ih
      intro htail
      apply h
      refine ⟨?_, htail⟩
      intro optval hoptval
      rw [hvalue] at hoptval
      cases hoptval
    | some optval =>
      dsimp only
      cases hlin : linmap.lookup (cStr optval) with
      | none => rfl
      | some lincode =>
        -- this value is a key, so a later one is none
        apply ih
        intro htail
        apply h
        refine ⟨?_, htail⟩
        intro optval' hoptval
        rw [hvalue] at hoptval
        obtain rfl := Option.some.inj hoptval
        rw [hlin]
        rfl

theorem storeKeyMaps_ok (B : PSMoveButtons) (keys : String → Option String)
    (os : List KeyOption) (c : Config) (hc : c.ok = true) :
    (Config.storeKeyMaps B keys (os.map KeyOption.name) c).ok = true ↔ KeysNamed keys os := by
  constructor
  · intro hok
    by_contra hnamed
    rw [storeKeyMaps_unnamed B keys os c hnamed] at hok
    cases hok
  · intro hnamed
    rw [storeKeyMaps_named B keys os c hnamed]
    exact hc

/-! ### The key maps of a file -/

theorem entry_pscode {B : PSMoveButtons} {keys : String → Option String} {o : KeyOption}
    {e : KeyMapEntry} (h : o.entry B keys = some e) : e.pscode = o.pscode B := by
  obtain ⟨lincode, -, rfl⟩ := Option.map_eq_some_iff.mp h
  rfl

theorem mem_fileKeyMap {B : PSMoveButtons} {keys : String → Option String}
    {controller : ControllerId} {e : KeyMapEntry} (h : e ∈ fileKeyMap B keys controller) :
    ∃ o : KeyOption, o.controller = controller ∧ o.entry B keys = some e := by
  obtain ⟨o, ho, hentry⟩ := List.mem_filterMap.mp h
  exact ⟨o, of_decide_eq_true (List.mem_filter.mp ho).2, hentry⟩

theorem filterMap_entry_pscodes (B : PSMoveButtons) (keys : String → Option String)
    (os : List KeyOption) :
    ((os.filterMap (KeyOption.entry B keys)).map KeyMapEntry.pscode).Sublist
      (os.map (KeyOption.pscode B)) := by
  induction os with
  | nil => exact List.Sublist.slnil
  | cons o os ih =>
    cases hentry : o.entry B keys with
    | none =>
      rw [List.filterMap_cons_none hentry]
      exact ih.cons _
    | some e =>
      rw [List.filterMap_cons_some hentry, List.map_cons, List.map_cons, entry_pscode hentry]
      exact ih.cons_cons _

theorem fileKeyMap_nodup (B : PSMoveButtons) (keys : String → Option String)
    (controller : ControllerId) :
    ((fileKeyMap B keys controller).map KeyMapEntry.pscode).Nodup := by
  have hsub := filterMap_entry_pscodes B keys (keyOptions.filter fun o => o.controller = controller)
  apply List.Nodup.sublist hsub
  apply List.Nodup.map_on
  · intro o ho o' ho' hcode
    have hc : o.controller = controller := of_decide_eq_true (List.mem_filter.mp ho).2
    have hc' : o'.controller = controller := of_decide_eq_true (List.mem_filter.mp ho').2
    exact pscode_injective B (hc.trans hc'.symm) hcode
  · exact keyOptions_nodup.filter _

/-! ### Whole configurations -/

/-- `parseKeyMaps` is this loop without the rest of the configuration. -/
theorem storeKeyMaps_addEntries (B : PSMoveButtons) (keys : String → Option String)
    (opts : List String) (c : Config) (hc : c.ok = true) :
    addEntries B keys opts (c.keymaps .first, c.keymaps .second) =
      let r := Config.storeKeyMaps B keys opts c
      if r.ok = true then some (r.keymaps .first, r.keymaps .second) else none := by
  induction opts generalizing c with
  | nil => simp [addEntries, Config.storeKeyMaps, hc]
  | cons longname opts ih =>
    rw [addEntries, Config.storeKeyMaps]
    by_cases hskip : longname ∈ nonKeyOptions
    · rw [if_pos hskip, if_pos hskip]
      exact ih c hc
    · rw [if_neg hskip, if_neg hskip]
      cases keys longname with
      | none => exact ih c hc
      | some optval =>
        dsimp only
        by_cases hvalid : (createEntry B longname optval).pscode ≠ 0 ∧
            (createEntry B longname optval).lincode ≠ keyReserved
        · rw [if_pos hvalid, if_pos hvalid]
          by_cases hfirst : longname ∈ firstControllerOptions
          · rw [if_pos hfirst, if_pos hfirst]
            exact ih (c.pushEntry .first (createEntry B longname optval)) hc
          · rw [if_neg hfirst, if_neg hfirst]
            exact ih (c.pushEntry .second (createEntry B longname optval)) hc
        · rw [if_neg hvalid, if_neg hvalid]
          rfl

/-- What the command line and the other options of the file leave to the loop. -/
theorem parse_keyMaps (B : PSMoveButtons) (env : Environment) (opts : CmdLine)
    (coeffs : MoveCoeffs) (conf : ConfFile) (hfile : Config.confFile env opts = some (.ok conf)) :
    ∃ c : Config, c.ok = true ∧ c.keymaps = (fun _ => []) ∧
      Config.parse B env (.ok opts) (.new env coeffs) =
        Config.storeKeyMaps B conf.keys configOptions c := by
  have hkeymaps := (Config.handleCmdLine_numbers env opts (.new env coeffs)).2
  refine Config.parse_cases B env opts coeffs (fun content c => content = some (.ok conf) →
    ∃ before : Config, before.ok = true ∧ before.keymaps = (fun _ => []) ∧
      c = Config.storeKeyMaps B conf.keys configOptions before) ?_ ?_ ?_ hfile
  · intro file hnone
    cases hnone
  · intro file what herror
    cases herror
  · intro file conf' hread
    cases hread
    refine ⟨_, ?_, ?_, rfl⟩
    · rw [Config.storeOptions_eq]
      exact Config.handleCmdLine_ok env opts _
    · rw [Config.storeOptions_eq]
      exact hkeymaps

theorem parse_accepts (B : PSMoveButtons) (env : Environment) (opts : CmdLine)
    (coeffs : MoveCoeffs) (conf : ConfFile) (hfile : Config.confFile env opts = some (.ok conf)) :
    let c := Config.parse B env (.ok opts) (.new env coeffs)
    c.ok = true → ConfigAccepts B (c.keymaps .first) (c.keymaps .second) := by
  intro c hok
  obtain ⟨before, hbefore, hempty, hparse⟩ :=
    parse_keyMaps B env opts coeffs conf hfile
  refine ⟨conf.keys, ?_⟩
  have hloop := storeKeyMaps_addEntries B conf.keys configOptions before hbefore
  rw [hempty, ← hparse] at hloop
  exact hloop.trans (if_pos hok)

/-- The file is accepted if and only if the values of all its key options name keys up to their
first NUL, and the key maps are then exactly the entries of these options: no button has two
entries, and every button is one bit that the handler scans. -/
theorem keyMaps_match_file (B : PSMoveButtons) (env : Environment) (opts : CmdLine)
    (coeffs : MoveCoeffs) (conf : ConfFile) (hfile : Config.confFile env opts = some (.ok conf)) :
    let c := Config.parse B env (.ok opts) (.new env coeffs)
    (c.ok = true ↔ ∀ (o : KeyOption) (optval : String), conf.keys o.name = some optval →
      cStr optval ∈ linmap.map Prod.fst) ∧
    (c.ok = true → ∀ controller,
      c.keymaps controller = fileKeyMap B conf.keys controller ∧
      ((c.keymaps controller).map KeyMapEntry.pscode).Nodup ∧
      ∀ e ∈ c.keymaps controller, e.pscode ∈ scanBits ∧ ∃ j : ℕ, e.pscode = 1#32 <<< j) := by
  intro c
  obtain ⟨before, hbefore, hempty, hparse⟩ :=
    parse_keyMaps B env opts coeffs conf hfile
  have hloop : c = Config.storeKeyMaps B conf.keys (keyOptions.map KeyOption.name) before := by
    rw [← configOptions_keys, ← storeKeyMaps_filter]
    exact hparse
  have hok : c.ok = true ↔ KeysNamed conf.keys keyOptions := by
    rw [hloop]
    exact storeKeyMaps_ok B conf.keys keyOptions before hbefore
  constructor
  · rw [hok]
    exact keysNamed_keyOptions conf.keys
  · intro hc controller
    have hmaps : c.keymaps controller = fileKeyMap B conf.keys controller := by
      rw [hloop, storeKeyMaps_named B conf.keys keyOptions before (hok.mp hc), hempty]
      rfl
    rw [hmaps]
    refine ⟨rfl, fileKeyMap_nodup B conf.keys controller, ?_⟩
    intro e he
    obtain ⟨o, -, hentry⟩ := mem_fileKeyMap he
    have hscanned := pscode_scanned B o
    rw [← entry_pscode hentry] at hscanned
    obtain ⟨j, -, hj⟩ := mem_scanBits.mp hscanned
    exact ⟨hscanned, j, hj⟩

def exampleKeys (name : String) : Option String :=
  [("PSBTN_CROSS", "KEY_ENTER"), ("PSBTN_1_CROSS", "BTN_LEFT"), ("GESTURE_UP", "KEY_UP")].lookup
    name

theorem keyMaps_match_file_example :
    let env := defaultFile (ConfFile.ofKeys exampleKeys)
    let c := Config.parse psmoveButtons env (.ok plainCmdLine) (.new env ⟨0, 0⟩)
    c.ok = true ∧ c.keymaps .first = [⟨0x40#32, 28⟩] ∧
      c.keymaps .second = [⟨0x40#32, 272⟩, ⟨0x01000000#32, 103⟩] := by
  intro env c
  have h := keyMaps_match_file psmoveButtons env plainCmdLine ⟨0, 0⟩ (ConfFile.ofKeys exampleKeys)
    rfl
  have hok : c.ok = true := by decide +kernel
  refine ⟨hok, (h.2 hok .first).1.trans ?_, (h.2 hok .second).1.trans ?_⟩
  · decide +kernel
  · decide +kernel

/-- A value that goes on after the name of a key. -/
def nulKeys (name : String) : Option String :=
  [("PSBTN_CROSS", "KEY_ENTER\x00x")].lookup name

/-- Such a file is accepted, although no key of the table has its value for a name. -/
theorem keyMaps_match_file_nul :
    let env := defaultFile (ConfFile.ofKeys nulKeys)
    let c := Config.parse psmoveButtons env (.ok plainCmdLine) (.new env ⟨0, 0⟩)
    c.keymaps .first = [⟨0x40#32, 28⟩] ∧
      ¬(c.ok = true ↔ ∀ (o : KeyOption) (optval : String), nulKeys o.name = some optval →
        optval ∈ linmap.map Prod.fst) := by
  intro env c
  have hok : c.ok = true := by decide +kernel
  have hunnamed : "KEY_ENTER\x00x" ∉ linmap.map Prod.fst := by decide +kernel
  refine ⟨by decide +kernel, ?_⟩
  intro hiff
  exact hunnamed (hiff.mp hok (.button .first .cross) _ rfl)

end PSMoveInput

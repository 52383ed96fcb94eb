import PSMoveInput.KeyMapParser

/-! The part of `Config::parseConfig` that builds the key maps of the two controllers. -/
namespace PSMoveInput

/-- Names of `configdesc_`, in the order in which the options are added. -/
def configOptions : List String :=
  ["PID_FILE", "LOG_LEVEL", "LOG_FILE", "MOVE_COEFF_X", "MOVE_COEFF_Y",
   "PSBTN_TRIANGLE", "PSBTN_CIRCLE", "PSBTN_CROSS", "PSBTN_SQUARE", "PSBTN_SELECT",
   "PSBTN_START", "PSBTN_PS", "PSBTN_MOVE", "PSBTN_T",
   "PSBTN_1_TRIANGLE", "PSBTN_1_CIRCLE", "PSBTN_1_CROSS", "PSBTN_1_SQUARE", "PSBTN_1_SELECT",
   "PSBTN_1_START", "PSBTN_1_PS", "PSBTN_1_MOVE", "PSBTN_1_T",
   "MODE", "POLL_TIMEOUT", "CONN_TIMEOUT", "DISCONNECT_TIMEOUT", "LED_UPDATE_TIMEOUT",
   "MOVE_THRESHOLD", "GESTURE_UP", "GESTURE_DOWN", "GESTURE_LEFT", "GESTURE_RIGHT",
   "GESTURE_THRESHOLD", "GESTURE_TIMEOUT"]

/-- Options that are not key options. -/
def nonKeyOptions : List String :=
  ["PID_FILE", "LOG_LEVEL", "LOG_FILE", "MOVE_COEFF_X", "MOVE_COEFF_Y", "MODE", "POLL_TIMEOUT",
   "CONN_TIMEOUT", "DISCONNECT_TIMEOUT", "LED_UPDATE_TIMEOUT", "MOVE_THRESHOLD",
   "GESTURE_THRESHOLD", "GESTURE_TIMEOUT"]

/-- Key options of the first controller. -/
def firstControllerOptions : List String :=
  ["PSBTN_TRIANGLE", "PSBTN_CIRCLE", "PSBTN_CROSS", "PSBTN_SQUARE", "PSBTN_SELECT",
   "PSBTN_START", "PSBTN_PS", "PSBTN_MOVE", "PSBTN_T"]

/-- Add key map entries one by one; `none` is an invalid entry, which clears `ok_`. -/
def addEntries (B : PSMoveButtons) (confOpts : String → Option String) :
    List String → KeyMap × KeyMap → Option (KeyMap × KeyMap)
  | [], keymaps => some keymaps
  | longname :: opts, keymaps =>
    if longname ∈ nonKeyOptions then addEntries B confOpts opts keymaps
    else
      match confOpts longname with
      | none => addEntries B confOpts opts keymaps
      | some optval =>
        let entry := createEntry B longname optval
        -- one invalid entry spoils the whole configuration
        if entry.pscode ≠ 0 ∧ entry.lincode ≠ keyReserved then
          if longname ∈ firstControllerOptions then
            addEntries B confOpts opts (keymaps.1 ++ [entry], keymaps.2)
          else addEntries B confOpts opts (keymaps.1, keymaps.2 ++ [entry])
        else none

/-- The key maps of a configuration file that sets the key options `confOpts`. -/
def parseKeyMaps (B : PSMoveButtons) (confOpts : String → Option String) :
    Option (KeyMap × KeyMap) :=
  addEntries B confOpts configOptions ([], [])

/-- Some configuration file leaves these key maps in `Config`. -/
def ConfigAccepts (B : PSMoveButtons) (keymap1 keymap2 : KeyMap) : Prop :=
  ∃ confOpts, parseKeyMaps B confOpts = some (keymap1, keymap2)

/-- What every entry of an accepted key map satisfies. -/
def EntryValid (e : KeyMapEntry) : Prop :=
  e.pscode ∈ scanBits ∧ (e.lincode ≤ keyMax ∨ e.lincode ∈ specialKeys)

theorem addEntries_valid (B : PSMoveButtons) (confOpts : String → Option String)
    (opts : List String) (keymaps result : KeyMap × KeyMap)
    (h : addEntries B confOpts opts keymaps = some result)
    (h1 : ∀ e ∈ keymaps.1, EntryValid e) (h2 : ∀ e ∈ keymaps.2, EntryValid e) :
    (∀ e ∈ result.1, EntryValid e) ∧ ∀ e ∈ result.2, EntryValid e := by
  induction opts generalizing keymaps with
  | nil =>
    obtain rfl := Option.some.inj h
    exact ⟨h1, h2⟩
  | cons longname opts ih =>
    unfold addEntries at h
    split at h
    · exact ih keymaps h h1 h2
    · cases hc : confOpts longname with
      | none =>
        -- the file does not set this option
        rw [hc] at h
        exact ih keymaps h h1 h2
      | some optval =>
        rw [hc] at h
        dsimp only at h
        split at h
        · rename_i hok
          have hnew : EntryValid (createEntry B longname optval) :=
            createEntry_valid B longname optval hok.1 hok.2
          have happend (l : KeyMap) (hl : ∀ e ∈ l, EntryValid e) :
              ∀ e ∈ l ++ [createEntry B longname optval], EntryValid e := by
            intro e he
            rcases List.mem_append.mp he with he | he
            · exact hl e he
            · rw [List.mem_singleton.mp he]
              exact hnew
          -- the entry goes to the key map of one of the controllers
          split at h
          · exact ih _ h (happend _ h1) h2
          · exact ih _ h h1 (happend _ h2)
        · -- an invalid entry ends the parse
          exact absurd h (by simp)

theorem ConfigAccepts.valid {B : PSMoveButtons} {keymap1 keymap2 : KeyMap}
    (h : ConfigAccepts B keymap1 keymap2) :
    (∀ e ∈ keymap1, EntryValid e) ∧ ∀ e ∈ keymap2, EntryValid e := by
  obtain ⟨confOpts, hc⟩ := h
  exact addEntries_valid B confOpts configOptions ([], []) _ hc (by simp) (by simp)

end PSMoveInput

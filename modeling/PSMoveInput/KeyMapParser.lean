import PSMoveInput.Common

/-! The key map parser: option name and option value of the configuration file to key map
entry. Option names stand for the macros `OPT_...` that expand to them. -/
namespace PSMoveInput

/-- The buttons of psmoveapi that can be mapped. -/
inductive PSBtn where
  | triangle | circle | cross | square | select | start | ps | move | t
  deriving DecidableEq, Repr

/-- The codes `Btn_...` of psmoveapi. The program relies on distinct single bits that stay
clear of the gesture buttons. -/
structure PSMoveButtons where
  code : PSBtn → Word
  single : ∀ b, ∃ j < 24, code b = 1#32 <<< j
  injective : Function.Injective code

/-- The values of `psmove.h`. -/
def psmoveCode : PSBtn → Word
  | .triangle => 0x10#32
  | .circle => 0x20#32
  | .cross => 0x40#32
  | .square => 0x80#32
  | .select => 0x100#32
  | .start => 0x800#32
  | .ps => 0x10000#32
  | .move => 0x80000#32
  | .t => 0x100000#32

def psmoveButtons : PSMoveButtons where
  code := psmoveCode
  single b := by cases b <;> decide
  injective a b h := by cases a <;> cases b <;> first | rfl | exact absurd h (by decide)

/-- `psmap_`. -/
def psmap (B : PSMoveButtons) : List (String × Word) :=
  [("PSBTN_TRIANGLE", B.code .triangle), ("PSBTN_CIRCLE", B.code .circle),
   ("PSBTN_CROSS", B.code .cross), ("PSBTN_SQUARE", B.code .square),
   ("PSBTN_SELECT", B.code .select), ("PSBTN_START", B.code .start),
   ("PSBTN_PS", B.code .ps), ("PSBTN_MOVE", B.code .move), ("PSBTN_T", B.code .t),
   ("PSBTN_1_TRIANGLE", B.code .triangle), ("PSBTN_1_CIRCLE", B.code .circle),
   ("PSBTN_1_CROSS", B.code .cross), ("PSBTN_1_SQUARE", B.code .square),
   ("PSBTN_1_SELECT", B.code .select), ("PSBTN_1_START", B.code .start),
   ("PSBTN_1_PS", B.code .ps), ("PSBTN_1_MOVE", B.code .move), ("PSBTN_1_T", B.code .t),
   ("GESTURE_UP", btnGestureUp), ("GESTURE_DOWN", btnGestureDown),
   ("GESTURE_LEFT", btnGestureLeft), ("GESTURE_RIGHT", btnGestureRight)]

/-- `linmap_`, with the codes of `linux/input.h`. -/
def linmap : List (String × ℤ) :=
  [("KEY_ESC", 1), ("KEY_1", 2), ("KEY_2", 3), ("KEY_3", 4), ("KEY_4", 5), ("KEY_5", 6),
   ("KEY_6", 7), ("KEY_7", 8), ("KEY_8", 9), ("KEY_9", 10), ("KEY_0", 11), ("KEY_MINUS", 12),
   ("KEY_EQUAL", 13), ("KEY_BACKSPACE", 14), ("KEY_TAB", 15), ("KEY_Q", 16), ("KEY_W", 17),
   ("KEY_E", 18), ("KEY_R", 19), ("KEY_T", 20), ("KEY_Y", 21), ("KEY_U", 22), ("KEY_I", 23),
   ("KEY_O", 24), ("KEY_P", 25), ("KEY_LEFTBRACE", 26), ("KEY_RIGHTBRACE", 27),
   ("KEY_ENTER", 28), ("KEY_LEFTCTRL", 29), ("KEY_RIGHTCTRL", 97), ("KEY_A", 30), ("KEY_S", 31),
   ("KEY_D", 32), ("KEY_F", 33), ("KEY_G", 34), ("KEY_H", 35), ("KEY_J", 36), ("KEY_K", 37),
   ("KEY_L", 38), ("KEY_SEMICOLON", 39), ("KEY_APOSTROPHE", 40), ("KEY_GRAVE", 41),
   ("KEY_LEFTSHIFT", 42), ("KEY_RIGHTSHIFT", 54), ("KEY_BACKSLASH", 43), ("KEY_Z", 44),
   ("KEY_X", 45), ("KEY_C", 46), ("KEY_V", 47), ("KEY_B", 48), ("KEY_N", 49), ("KEY_M", 50),
   ("KEY_COMMA", 51), ("KEY_DOT", 52), ("KEY_SLASH", 53), ("KEY_KPASTERISK", 55),
   ("KEY_LEFTALT", 56), ("KEY_RIGHTALT", 100), ("KEY_SPACE", 57), ("KEY_CAPSLOCK", 58),
   ("KEY_F1", 59), ("KEY_F2", 60), ("KEY_F3", 61), ("KEY_F4", 62), ("KEY_F5", 63),
   ("KEY_F6", 64), ("KEY_F7", 65), ("KEY_F8", 66), ("KEY_F9", 67), ("KEY_F10", 68),
   ("KEY_NUMLOCK", 69), ("KEY_SCROLLLOCK", 70), ("KEY_F11", 87), ("KEY_F12", 88),
   ("KEY_SYSRQ", 99), ("KEY_LEFTMETA", 125), ("KEY_RIGHTMETA", 126), ("KEY_HOME", 102),
   ("KEY_UP", 103), ("KEY_PAGEUP", 104), ("KEY_LEFT", 105), ("KEY_RIGHT", 106), ("KEY_END", 107),
   ("KEY_DOWN", 108), ("KEY_PAGEDOWN", 109), ("KEY_INSERT", 110), ("KEY_DELETE", 111),
   ("KEY_MUTE", 113), ("KEY_VOLUMEDOWN", 114), ("KEY_VOLUMEUP", 115), ("KEY_PAUSE", 119),
   ("KEY_STOP", 128), ("KEY_BACK", 158), ("KEY_FORWARD", 159), ("KEY_PLAYPAUSE", 164),
   ("BTN_MOUSE", 272), ("BTN_LEFT", 272), ("BTN_RIGHT", 273), ("BTN_MIDDLE", 274),
   ("disconnect", keyPsmoveDisconnect), ("move_trigger", keyPsmoveMoveTrigger),
   ("gesture_trigger", keyPsmoveGestureTrigger), ("MWHEEL_UP", keyPsmoveMwheelUp),
   ("MWHEEL_DOWN", keyPsmoveMwheelDown)]

/-- `s.c_str()` as `std::map::find` takes it: the text before the first NUL. -/
def cStr (s : String) : String := String.ofList (s.toList.takeWhile fun ch => ch.toNat ≠ 0)

/-- Given the option string and option value, produce key map entry. -/
def createEntry (B : PSMoveButtons) (optname optval : String) : KeyMapEntry :=
  match (psmap B).lookup optname with
  | none => ⟨0, keyReserved⟩
  | some pscode =>
    match linmap.lookup (cStr optval) with
    | none => ⟨pscode, keyReserved⟩
    | some lincode => ⟨pscode, lincode⟩

theorem linmap_codes : ∀ p ∈ linmap, p.2 ≤ keyMax ∨ p.2 ∈ specialKeys := by decide +kernel

theorem psmap_codes (B : PSMoveButtons) : ∀ p ∈ psmap B, p.2 ∈ scanBits := by
  have hbtn (b : PSBtn) : B.code b ∈ scanBits := by
    obtain ⟨j, hj, h⟩ := B.single b
    exact mem_scanBits.mpr ⟨j, by omega, h⟩
  intro p hp
  simp only [psmap, List.mem_cons, List.not_mem_nil, or_false] at hp
  rcases hp with rfl | rfl | rfl | rfl | rfl | rfl | rfl | rfl | rfl | rfl | rfl | rfl | rfl |
    rfl | rfl | rfl | rfl | rfl | rfl | rfl | rfl | rfl <;>
    first | exact hbtn _ | exact gestureBits_scan _ (by decide)

theorem mem_of_lookup {α β : Type*} [BEq α] [LawfulBEq α] {l : List (α × β)} {a : α} {b : β}
    (h : l.lookup a = some b) : (a, b) ∈ l := by
  obtain ⟨before, after, rfl, -⟩ := List.lookup_eq_some_iff.mp h
  exact List.mem_append_right before List.mem_cons_self

/-- An entry that `parseConfig` does not reject names a button that the handler scans and a
key of the table. -/
theorem createEntry_valid (B : PSMoveButtons) (optname optval : String)
    (hps : (createEntry B optname optval).pscode ≠ 0)
    (hlin : (createEntry B optname optval).lincode ≠ keyReserved) :
    (createEntry B optname optval).pscode ∈ scanBits ∧
      ((createEntry B optname optval).lincode ≤ keyMax ∨
        (createEntry B optname optval).lincode ∈ specialKeys) := by
  simp only [createEntry] at hps hlin ⊢
  cases hp : (psmap B).lookup optname with
  | none =>
    -- the code zero marks an unknown button
    simp only [hp, ne_eq, not_true_eq_false] at hps
  | some pscode =>
    cases hl : linmap.lookup (cStr optval) with
    | none =>
      -- `KEY_RESERVED` marks an unknown key
      simp only [hp, hl, ne_eq, not_true_eq_false] at hlin
    | some lincode =>
      have hbutton := psmap_codes B _ (mem_of_lookup hp)
      have hkey := linmap_codes _ (mem_of_lookup hl)
      exact ⟨hbutton, hkey⟩

end PSMoveInput

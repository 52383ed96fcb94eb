import Mathlib.Data.Int.Basic
import Mathlib.Data.List.Iterate
import Mathlib.Data.List.Nodup
import Mathlib.Tactic.Common

/-! Definitions shared by the components: controllers, key maps, key and button codes. -/
namespace PSMoveInput

/-- A 32-bit `int` used as a set of buttons. -/
abbrev Word := BitVec 32

inductive ControllerId where
  | first
  | second
  deriving DecidableEq, Repr

/-- Mapping of one psmove button to one Linux key. -/
structure KeyMapEntry where
  pscode : Word
  lincode : ℤ
  deriving DecidableEq, Repr

abbrev KeyMap := List KeyMapEntry

/-! Key codes of `linux/input.h` and the codes handled by psmoveinput itself. -/

def keyReserved : ℤ := 0
def keyMax : ℤ := 0x2ff
def keyPsmoveDisconnect : ℤ := keyMax + 1
def keyPsmoveMoveTrigger : ℤ := keyMax + 2
def keyPsmoveGestureTrigger : ℤ := keyMax + 3
def keyPsmoveMwheelUp : ℤ := keyMax + 4
def keyPsmoveMwheelDown : ℤ := keyMax + 5

/-- The codes that `handleSpecialKeys` looks for. -/
def specialKeys : List ℤ :=
  [keyPsmoveDisconnect, keyPsmoveMoveTrigger, keyPsmoveGestureTrigger, keyPsmoveMwheelUp,
   keyPsmoveMwheelDown]

theorem special_gt_keyMax (code : ℤ) (h : code ∈ specialKeys) : keyMax < code := by
  have hall : ∀ code ∈ specialKeys, keyMax < code := by decide
  exact hall code h

/-- A key that Linux knows is none of the internal ones. -/
theorem ordinary_ne {code : ℤ} (h : code ≤ keyMax) :
    code ≠ keyPsmoveDisconnect ∧ code ≠ keyPsmoveMoveTrigger ∧ code ≠ keyPsmoveGestureTrigger ∧
      code ≠ keyPsmoveMwheelUp ∧ code ≠ keyPsmoveMwheelDown := by
  have hne (k : ℤ) (hk : k ∈ specialKeys) : code ≠ k := by
    have := special_gt_keyMax k hk
    omega
  exact ⟨hne _ (by decide), hne _ (by decide), hne _ (by decide), hne _ (by decide),
    hne _ (by decide)⟩

/-! Gesture button codes. -/

def btnGestureUp : Word := 0x01000000#32
def btnGestureDown : Word := 0x02000000#32
def btnGestureLeft : Word := 0x04000000#32
def btnGestureRight : Word := 0x08000000#32
/-- The mask keeps the physical buttons: it is the complement of the gesture bits. -/
def btnGestureMask : Word := 0x00FFFFFF#32

/-- The values of `i` in `for (int i = 1; i <= BTN_GESTURE_RIGHT; i <<= 1)`. -/
def scanBits : List Word :=
  (List.iterate (fun i : Word => i <<< 1) 1#32 32).takeWhile fun i => i.sle btnGestureRight

theorem scanBits_eq : scanBits = (List.range 28).map fun j => 1#32 <<< j := by decide

theorem mem_scanBits {i : Word} : i ∈ scanBits ↔ ∃ j < 28, i = 1#32 <<< j := by
  simp only [scanBits_eq, List.mem_map, List.mem_range, eq_comm]

theorem scanBits_ne_zero {i : Word} (hi : i ∈ scanBits) : i ≠ 0#32 := by
  have hall : ∀ j < 28, 1#32 <<< j ≠ 0#32 := by decide
  obtain ⟨j, hj, rfl⟩ := mem_scanBits.mp hi
  exact hall j hj

theorem scanBits_nodup : scanBits.Nodup := by decide

def gestureBits : List Word := [btnGestureUp, btnGestureDown, btnGestureLeft, btnGestureRight]

theorem gestureBits_eq : gestureBits = [24, 25, 26, 27].map fun j => 1#32 <<< j := by decide

theorem gestureBits_scan (g : Word) (hg : g ∈ gestureBits) : g ∈ scanBits := by
  rw [gestureBits_eq] at hg
  obtain ⟨j, hj, rfl⟩ := List.mem_map.mp hg
  refine mem_scanBits.mpr ⟨j, ?_, rfl⟩
  simp only [List.mem_cons, List.not_mem_nil, or_false] at hj
  omega

/-- The test `w & i` of the C code. -/
def holds (w i : Word) : Bool := w &&& i != 0

theorem and_shift (w : Word) {j : ℕ} (hj : j < 32) :
    w &&& 1#32 <<< j = if w.getLsbD j then 1#32 <<< j else 0#32 := by
  apply BitVec.eq_of_getLsbD_eq
  intro i hi
  by_cases hij : i = j
  · -- the bit itself
    subst hij
    cases h : w.getLsbD i <;>
      simp only [BitVec.getLsbD_and, h, Bool.false_and, Bool.true_and, Bool.false_eq_true,
        ↓reduceIte, BitVec.getLsbD_zero]
  · -- any other bit is clear on both sides
    have hne : (1#32 <<< j).getLsbD i = false := by
      simp only [BitVec.getLsbD_shiftLeft, BitVec.getLsbD_one]
      grind
    cases w.getLsbD j <;>
      simp only [BitVec.getLsbD_and, hne, Bool.and_false, Bool.false_eq_true,
        ↓reduceIte, BitVec.getLsbD_zero]

theorem holds_shift (w : Word) {j : ℕ} (hj : j < 32) : holds w (1#32 <<< j) = w.getLsbD j := by
  have hbit : (1#32 <<< j).getLsbD j = true := by simp [hj]
  simp only [holds]
  rw [and_shift w hj]
  cases h : w.getLsbD j
  · rfl
  · simp only [↓reduceIte, bne_iff_ne, ne_eq]
    intro h0
    rw [show 1#32 <<< j = 0#32 from h0, BitVec.getLsbD_zero] at hbit
    exact Bool.false_ne_true hbit

/-- On a scanned bit the C test is a test of one bit of the word. -/
theorem holds_scan {i : Word} (hi : i ∈ scanBits) :
    ∃ j < 28, i = 1#32 <<< j ∧ ∀ w, holds w i = w.getLsbD j := by
  obtain ⟨j, hj, rfl⟩ := mem_scanBits.mp hi
  exact ⟨j, hj, rfl, fun w => holds_shift w (by omega)⟩

/-- `pressed & i` for `pressed = after & ~before`; `released` is the same with the words
exchanged. -/
theorem holds_changed {i : Word} (hi : i ∈ scanBits) (after before : Word) :
    holds (after &&& ~~~before) i = (holds after i && !holds before i) := by
  obtain ⟨j, hj, -, hw⟩ := holds_scan hi
  have hwidth : j < 32 := by omega
  simp only [hw, BitVec.getLsbD_and, BitVec.getLsbD_not]
  simp only [hwidth, decide_true, Bool.true_and]

@[simp] theorem holds_zero (i : Word) : holds 0#32 i = false := by
  simp only [holds]
  rw [BitVec.zero_and]
  rfl

theorem holds_or {i : Word} (hi : i ∈ scanBits) (a b : Word) :
    holds (a ||| b) i = (holds a i || holds b i) := by
  obtain ⟨j, -, -, hw⟩ := holds_scan hi
  simp only [hw, BitVec.getLsbD_or]

theorem holds_and {i : Word} (hi : i ∈ scanBits) (a b : Word) :
    holds (a &&& b) i = (holds a i && holds b i) := by
  obtain ⟨j, -, -, hw⟩ := holds_scan hi
  simp only [hw, BitVec.getLsbD_and]

theorem mask_bit : ∀ j < 28, btnGestureMask.getLsbD j = !decide (1#32 <<< j ∈ gestureBits) := by
  decide

theorem physical_bit {j : ℕ} (hj : j < 24) : 1#32 <<< j ∉ gestureBits := by
  have hset : ∀ j < 24, btnGestureMask.getLsbD j = true := by decide
  intro hg
  have hmask := mask_bit j (by omega)
  rw [decide_eq_true hg, hset j hj] at hmask
  exact absurd hmask (by decide)

theorem holds_mask {i : Word} (hi : i ∈ scanBits) :
    holds btnGestureMask i = !decide (i ∈ gestureBits) := by
  obtain ⟨j, hj, rfl, hw⟩ := holds_scan hi
  rw [hw, mask_bit j hj]

/-- A word of the listener carries no gesture bits. -/
theorem holds_gesture_of_lt {w g : Word} (hw : w.toNat < 2 ^ 24) (hg : g ∈ gestureBits) :
    holds w g = false := by
  rw [gestureBits_eq] at hg
  obtain ⟨j, hj, rfl⟩ := List.mem_map.mp hg
  have hlow : 24 ≤ j ∧ j < 32 := by
    simp only [List.mem_cons, List.not_mem_nil, or_false] at hj
    omega
  rw [holds_shift w hlow.2, ← BitVec.testBit_toNat]
  apply Nat.testBit_lt_two_pow
  calc
    w.toNat < 2 ^ 24 := hw
    _ ≤ 2 ^ j := Nat.pow_le_pow_right (by decide) hlow.1

end PSMoveInput

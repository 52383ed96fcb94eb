import Mathlib.Algebra.Order.Ring.Rat
import Mathlib.Logic.Function.Basic
import PSMoveInput.Common
import PSMoveInput.Transducer

/-! `PSMoveHandler`: button reports, gyroscope and gesture readings in, signals out.
Every call takes the state before it and returns the state after it with its events. -/
namespace PSMoveInput

inductive Signal where
  | move (dx dy : ℤ)
  | key (lincode : ℤ) (pressed : Bool)
  | disconnect (controller : ControllerId)
  | mwheel (value : ℤ)
  deriving DecidableEq, Repr

/-- What a call does, in order. `report` marks the entry of `onButtons`, also of a nested one,
with the stored word and the reported one (the code writes this to its log). A signal raised
for a key map entry carries the controller and the index of the entry. -/
inductive Event where
  | report (controller : ControllerId) (before after : Word)
  | signal (cause : Option (ControllerId × ℕ)) (signal : Signal)
  deriving DecidableEq, Repr

structure Timespec where
  tvSec : ℤ
  tvNsec : ℤ
  deriving DecidableEq, Repr

/-- The readings of the monotonic clock, in the order in which one call takes them. -/
abbrev Clock := ℕ → Timespec

/-- The arguments of the constructor. -/
structure Params where
  keymap1 : KeyMap
  keymap2 : KeyMap
  cx : ℚ
  cy : ℚ
  moveThreshold : ℤ
  gestureThreshold : ℤ

def Params.keymap (P : Params) : ControllerId → KeyMap
  | .first => P.keymap1
  | .second => P.keymap2

/-! `checkTriggers` runs once, in the constructor. -/

def Params.useMoveTrigger (P : Params) : Bool :=
  P.keymap1.any fun entry => entry.lincode == keyPsmoveMoveTrigger

def Params.useGestureTrigger (P : Params) : Bool :=
  P.keymap2.any fun entry => entry.lincode == keyPsmoveGestureTrigger

/-- The fields that change after construction. -/
@[ext]
structure HandlerState where
  buttons : ControllerId → Word
  lastGyroTp : Timespec
  lastGestureTp : Timespec
  moveTrigger : Bool
  gestureTrigger : Bool
  releaseGestureKeys : Bool

def HandlerState.init : HandlerState where
  buttons := fun _ => 0#32
  lastGyroTp := ⟨0, 0⟩
  lastGestureTp := ⟨0, 0⟩
  moveTrigger := false
  gestureTrigger := false
  releaseGestureKeys := false

/-- `releaseGestureKeys_` is not among the fields that `reset` assigns. -/
def reset (s : HandlerState) : HandlerState :=
  { s with
    buttons := fun _ => 0#32
    lastGyroTp := ⟨0, 0⟩
    lastGestureTp := ⟨0, 0⟩
    moveTrigger := false
    gestureTrigger := false }

/-! ### Keys -/

/-- The first component is the return value: the key is handled internally. -/
def handleSpecialKeys (lincode : ℤ) (controller : ControllerId) (pressed : Bool)
    (s : HandlerState) : Bool × HandlerState × List Signal :=
  -- emitted for presses and for releases
  if lincode = keyPsmoveDisconnect then (true, s, [.disconnect controller])
  else if controller = .first ∧ lincode = keyPsmoveMoveTrigger then
    (true, { s with moveTrigger := pressed }, [])
  else if controller = .second ∧ lincode = keyPsmoveGestureTrigger then
    -- the mutex is held here, so the release of the gesture keys is deferred
    (true, { s with
      releaseGestureKeys :=
        if s.gestureTrigger = true ∧ pressed = false then true else s.releaseGestureKeys
      gestureTrigger := pressed }, [])
  else if lincode = keyPsmoveMwheelUp ∧ pressed = true then (true, s, [.mwheel 1])
  else if lincode = keyPsmoveMwheelDown ∧ pressed = true then (true, s, [.mwheel (-1)])
  -- the release of a wheel button and a trigger of the other controller end here
  else (false, s, [])

/-- The body of the loop of `reportKey`, for the entry with the given index. -/
def reportEntry (button : Word) (pressed : Bool) (controller : ControllerId) (s : HandlerState)
    (entry : KeyMapEntry × ℕ) : HandlerState × List Event :=
  if entry.1.pscode = button then
    let r := handleSpecialKeys entry.1.lincode controller pressed s
    let out := if r.1 = false then r.2.2 ++ [.key entry.1.lincode pressed] else r.2.2
    (r.2.1, out.map (.signal (some (controller, entry.2))))
  else (s, [])

def reportKey (P : Params) (button : Word) (pressed : Bool) (controller : ControllerId)
    (s : HandlerState) : HandlerState × List Event :=
  Transducer.run (reportEntry button pressed controller) s (P.keymap controller).zipIdx

/-- The body of the bit loop of `onButtons`, under the mutex. -/
def scanStep (P : Params) (controller : ControllerId) (pressed released : Word)
    (s : HandlerState) (i : Word) : HandlerState × List Event :=
  if holds pressed i then reportKey P i true controller s
  else if holds released i then reportKey P i false controller s
  else (s, [])

def HandlerState.setButtons (s : HandlerState) (controller : ControllerId) (buttons : Word) :
    HandlerState :=
  { s with buttons := Function.update s.buttons controller buttons }

/-- The part of `onButtons` before the test of `releaseGestureKeys_`. -/
def reportButtons (P : Params) (buttons : Word) (controller : ControllerId)
    (s : HandlerState) : HandlerState × List Event :=
  if s.buttons controller ≠ buttons then
    let pressed := buttons &&& ~~~s.buttons controller
    let released := s.buttons controller &&& ~~~buttons
    let r := Transducer.run (scanStep P controller pressed released) s scanBits
    -- the word is stored after the loop
    (r.1.setButtons controller buttons, r.2)
  else (s, [])

/-! ### Movement -/

/-- Milliseconds between two readings, from the `tv_nsec` fields. -/
def timeDelta (tp last : Timespec) : ℤ :=
  let d := (tp.tvNsec - last.tvNsec).tdiv 1000000
  -- a negative difference is taken for one change of the second
  if d < 0 then d + 1000 else d

/-- Conversion of an exact value to `int`. -/
def toInt (x : ℚ) : ℤ := x.num.tdiv x.den

/-- One component of the displacement, zero below the threshold. -/
def displacement (g delta : ℤ) (coeff : ℚ) (threshold : ℤ) : ℤ :=
  let d := toInt (g * delta * coeff)
  if (d > 0 ∧ d < threshold) ∨ (d < 0 ∧ d > -threshold) then 0 else d

def moveGate (P : Params) (s : HandlerState) : Bool :=
  (P.useMoveTrigger && s.moveTrigger) || !P.useMoveTrigger

def onGyroscope (P : Params) (clock : Clock) (gx gy : ℤ) (s : HandlerState) :
    HandlerState × List Event :=
  let gyroTp := clock 0
  let out :=
    -- the first reading has no previous timestamp
    if s.lastGyroTp.tvSec ≠ 0 ∧ s.lastGyroTp.tvNsec ≠ 0 then
      if moveGate P s then
        let delta := timeDelta gyroTp s.lastGyroTp
        let dx := displacement gx delta P.cx P.moveThreshold
        let dy := displacement gy delta P.cy P.moveThreshold
        if dx ≠ 0 ∨ dy ≠ 0 then [.signal none (.move dx dy)] else []
      else []
    else []
  ({ s with lastGyroTp := gyroTp }, out)

def gestureGate (P : Params) (s : HandlerState) : Bool :=
  (P.useGestureTrigger && s.gestureTrigger) || !P.useGestureTrigger

/-- The gesture bits of a displacement. -/
def gestureButtons (dx dy : ℤ) : Word :=
  (if dx > 0 then btnGestureRight else if dx < 0 then btnGestureLeft else 0#32) |||
    (if dy > 0 then btnGestureUp else if dy < 0 then btnGestureDown else 0#32)

/-- The word that `onGesture` passes to `onButtons`. -/
def gestureReport (P : Params) (gestureTp : Timespec) (gx gy : ℤ) (s : HandlerState) : Word :=
  let delta := timeDelta gestureTp s.lastGestureTp
  let dx := displacement gx delta P.cx P.gestureThreshold
  let dy := displacement gy delta P.cy P.gestureThreshold
  gestureButtons dx dy ||| (s.buttons .second &&& btnGestureMask)

/-- An earlier timestamp is recorded and the gesture gate is open. -/
def gestureReady (P : Params) (s : HandlerState) : Prop :=
  (s.lastGestureTp.tvSec ≠ 0 ∧ s.lastGestureTp.tvNsec ≠ 0) ∧ gestureGate P s = true

instance (P : Params) (s : HandlerState) : Decidable (gestureReady P s) :=
  inferInstanceAs (Decidable (_ ∧ _))

/-! `onButtons` and `onGesture` call each other, so both take the depth of calls that is left.
The result is `none` when it is used up; `callDepth` is enough for every state. -/

mutual

def onButtonsFuel (P : Params) :
    ℕ → Clock → Word → ControllerId → HandlerState → Option (HandlerState × List Event)
  | 0, _, _, _, _ => none
  | n + 1, clock, buttons, controller, s =>
    let r := reportButtons P buttons controller s
    let out := .report controller (s.buttons controller) buttons :: r.2
    -- a deferred release is executed by whichever call finds the flag
    if r.1.releaseGestureKeys = true then
      (onGestureFuel P n clock 0 0 { r.1 with releaseGestureKeys := false }).map
        fun t => (t.1, out ++ t.2)
    else some (r.1, out)

def onGestureFuel (P : Params) :
    ℕ → Clock → ℤ → ℤ → HandlerState → Option (HandlerState × List Event)
  | 0, _, _, _, _ => none
  | n + 1, clock, gx, gy, s =>
    let gestureTp := clock 0
    if gestureReady P s then
      (onButtonsFuel P n (fun k => clock (k + 1)) (gestureReport P gestureTp gx gy s) .second
        s).map fun t => ({ t.1 with lastGestureTp := gestureTp }, t.2)
    else some ({ s with lastGestureTp := gestureTp }, [])

end

def callDepth : ℕ := 5

def onButtons (P : Params) (clock : Clock) (buttons : Word) (controller : ControllerId)
    (s : HandlerState) : HandlerState × List Event :=
  (onButtonsFuel P callDepth clock buttons controller s).getD (s, [])

def onGesture (P : Params) (clock : Clock) (gx gy : ℤ) (s : HandlerState) :
    HandlerState × List Event :=
  (onGestureFuel P callDepth clock gx gy s).getD (s, [])

/-! ### Runs -/

inductive Call where
  | onButtons (clock : Clock) (buttons : Word) (controller : ControllerId)
  | onGyroscope (clock : Clock) (gx gy : ℤ)
  | onGesture (clock : Clock) (gx gy : ℤ)
  | reset

def step (P : Params) (s : HandlerState) : Call → HandlerState × List Event
  | .onButtons clock buttons controller => onButtons P clock buttons controller s
  | .onGyroscope clock gx gy => onGyroscope P clock gx gy s
  | .onGesture clock gx gy => onGesture P clock gx gy s
  | .reset => (reset s, [])

def runCalls (P : Params) (s : HandlerState) (calls : List Call) : HandlerState × List Event :=
  Transducer.run (step P) s calls

def Event.signal? : Event → Option Signal
  | .report _ _ _ => none
  | .signal _ sig => some sig

/-- The emitted signals, without the annotations of the model. -/
def signals (es : List Event) : List Signal := es.filterMap Event.signal?

end PSMoveInput

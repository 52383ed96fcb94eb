import PSMoveInput.Arithmetic
import PSMoveInput.ReaderMotion
import PSMoveInput.SampledKeys

/-! The triggers, as the reader of the device sees them: the pointer rests while the move trigger is
up, and no key of a gesture is down when the gesture trigger is up. -/
namespace PSMoveInput

open Transducer

/-! ### The move trigger -/

theorem movements_eq_nil {es : List Event} (h : ∀ dx dy, .move dx dy ∉ signals es) :
    movements es = [] := by
  rw [movements, List.filterMap_eq_nil_iff]
  intro sig hsig
  cases sig with
  | move dx dy => exact absurd hsig (h dx dy)
  | _ => rfl

/-- The word of a report of the first controller is stored, whatever a nested call does. -/
theorem onButtons_stores (P : Params) (clock : Clock) (buttons : Word) (s : HandlerState) :
    (onButtons P clock buttons .first s).1.buttons .first = buttons := by
  have hreport : (reportButtons P buttons .first s).1.buttons .first = buttons := by
    rw [reportButtons_buttons, Function.update_self]
  rw [onButtons_eq]
  split_ifs
  · have hframe := (frame_rule P).onGesture clock 0 0
      { (reportButtons P buttons .first s).1 with releaseGestureKeys := false }
    have hkept := congrArg (fun t => t.buttons .first) hframe
    exact hkept.trans hreport
  · exact hreport

/-- The handler has the word of the first controller's thread, and its move trigger is on only if
this word has it. -/
structure Followed (P : Params) (s : HandlerState) (t : ControllerThread) : Prop where
  first : t.id = .first
  buttons : s.buttons .first = t.buttons
  trigger : MoveTriggerHeld P s

/-- No call signals a movement while the trigger is off. -/
theorem Followed.rests {P : Params} {s : HandlerState} {t : ControllerThread}
    (h : Followed P s t) (hmap : ∃ e ∈ P.keymap1, e.lincode = keyPsmoveMoveTrigger)
    (hreleased : ¬HeldBy P.keymap1 keyPsmoveMoveTrigger t.buttons) (call : Call) :
    movements (step P s call).2 = [] := by
  apply movements_eq_nil
  intro dx dy hmove
  have hgate := step_move P call s hmove
  have huse := (useMoveTrigger_iff P).mpr hmap
  have hon : s.moveTrigger = true := by
    simpa only [moveGate, huse, Bool.true_and, Bool.not_true, Bool.or_false] using hgate
  have hheld := (h.trigger hon).held
  rw [h.buttons] at hheld
  exact hreleased hheld

theorem Followed.onGyroscope {P : Params} {s : HandlerState} {t : ControllerThread}
    (h : Followed P s t) (clock : Clock) (gx gy : ℤ) :
    Followed P (step P s (.onGyroscope clock gx gy)).1 t :=
  ⟨h.first, h.buttons, step_moveTrigger P _ s h.trigger⟩

/-- A sample moves nothing if the word before it has no trigger. -/
theorem Followed.poll {P : Params} {s : HandlerState} {t : ControllerThread} (h : Followed P s t)
    (x : Sample) :
    Followed P (runCalls P s (t.poll x).2).1 (t.poll x).1 ∧
      ((∃ e ∈ P.keymap1, e.lincode = keyPsmoveMoveTrigger) →
        ¬HeldBy P.keymap1 keyPsmoveMoveTrigger t.buttons →
          movements (runCalls P s (t.poll x).2).2 = []) := by
  have hgyro := h.onGyroscope x.gyroClock (-(t.gyro x).2) (-(t.gyro x).1)
  have hfirst : (t.poll x).1.id = .first := h.first
  by_cases hchanged : t.buttons ≠ x.buttons
  · have hcalls : (t.poll x).2 = [.onGyroscope x.gyroClock (-(t.gyro x).2) (-(t.gyro x).1),
        .onButtons x.buttonsClock x.buttons .first] := by
      simp only [ControllerThread.poll, ControllerThread.reportGyro, h.first, if_pos hchanged]
      rfl
    rw [hcalls]
    refine ⟨⟨hfirst, onButtons_stores P _ _ _, step_moveTrigger P _ _ hgyro.trigger⟩, ?_⟩
    intro hmap hreleased
    rw [runCalls, run_cons_snd, run_cons_snd, movements_append, movements_append,
      h.rests hmap hreleased, hgyro.rests hmap hreleased]
    rfl
  · have hsame : t.buttons = x.buttons := not_not.mp hchanged
    have hcalls : (t.poll x).2 = [.onGyroscope x.gyroClock (-(t.gyro x).2) (-(t.gyro x).1)] := by
      simp only [ControllerThread.poll, ControllerThread.reportGyro, h.first, if_neg hchanged]
      rfl
    rw [hcalls]
    refine ⟨⟨hfirst, hgyro.buttons.trans hsame, hgyro.trigger⟩, ?_⟩
    intro hmap hreleased
    rw [runCalls, run_cons_snd, movements_append, h.rests hmap hreleased]
    rfl

theorem Followed.polls {P : Params} (samples : List Sample) {s : HandlerState}
    {t : ControllerThread} (h : Followed P s t) :
    Followed P (runCalls P s (run ControllerThread.poll t samples).2).1
      (run ControllerThread.poll t samples).1 := by
  induction samples generalizing s t with
  | nil => exact h
  | cons x samples ih =>
    rw [run_cons_fst, run_cons_snd, runCalls, run_append]
    exact ih (h.poll x).1

/-- Samples without the trigger move nothing. -/
theorem Followed.still {P : Params} (hmap : ∃ e ∈ P.keymap1, e.lincode = keyPsmoveMoveTrigger)
    {samples : List Sample}
    (hsamples : ∀ x ∈ samples, ¬HeldBy P.keymap1 keyPsmoveMoveTrigger x.buttons)
    {s : HandlerState} {t : ControllerThread} (h : Followed P s t)
    (hreleased : ¬HeldBy P.keymap1 keyPsmoveMoveTrigger t.buttons) :
    movements (runCalls P s (run ControllerThread.poll t samples).2).2 = [] := by
  induction samples generalizing s t with
  | nil => rfl
  | cons x samples ih =>
    obtain ⟨hnext, hquiet⟩ := h.poll x
    have htail := ih (fun y hy => hsamples y (List.mem_cons_of_mem x hy)) hnext
      (hsamples x List.mem_cons_self)
    rw [run_cons_snd, runCalls, run_append, movements_append]
    have hhead := hquiet hmap hreleased
    rw [runCalls] at hhead
    rw [hhead, List.nil_append]
    exact htail

theorem polls_buttons (samples : List Sample) (t : ControllerThread) :
    (run ControllerThread.poll t samples).1.buttons =
      (samples.getLast?.map Sample.buttons).getD t.buttons := by
  induction samples generalizing t with
  | nil => rfl
  | cons x samples ih =>
    rw [run_cons_fst, ih, List.getLast?_cons]
    cases samples.getLast? <;> rfl

/-- A turn of the first controller, `ms` milliseconds after the first second. -/
def turnSample (w : Word) (ms : ℤ) : Sample where
  gyroscope := (-3, 0, -7)
  gyroscopeFrame := (0, 0, 0)
  buttons := w
  gyroClock := fun _ => ⟨1, ms * 1000000⟩
  buttonsClock := fun _ => ⟨1, ms * 1000000⟩
  tp := ⟨1, ms * 1000000⟩

/-- The trigger is pressed, turned and released, and the controller is turned on. -/
def triggerSamples : List Sample :=
  [turnSample 0x100000#32 500, turnSample 0x100000#32 510, turnSample 0#32 520]

def restSamples : ControllerId → List Sample
  | .first => triggerSamples ++ [turnSample 0#32 530, turnSample 0x20#32 540]
  | .second => [buttonSample 0x40#32]

def restSchedule : List ControllerId := alternation ++ List.replicate 200 .first

theorem polls_fromListener {samples : List Sample}
    (hsamples : ∀ x ∈ samples, x.buttons.toNat < 2 ^ 24) (t : ControllerThread) :
    ∀ call ∈ (run ControllerThread.poll t samples).2, call.fromListener = true := by
  induction samples generalizing t with
  | nil => exact fun call hcall => absurd hcall List.not_mem_nil
  | cons x samples ih =>
    intro call hcall
    rw [run_cons_snd] at hcall
    rcases List.mem_append.mp hcall with hhead | htail
    · rcases poll_calls t x call hhead with rfl | rfl | rfl
      · rfl
      · rfl
      · exact decide_eq_true (hsamples x List.mem_cons_self)
    · exact ih (fun y hy => hsamples y (List.mem_cons_of_mem x hy)) _ call htail

/-- With the trigger mapped, the gestures of the handler's word come with it. -/
theorem polls_gated {P : Params} (huse : P.useGestureTrigger = true) {samples : List Sample}
    (hsamples : ∀ x ∈ samples, x.buttons.toNat < 2 ^ 24) (t : ControllerThread) :
    GestureGated P (runCalls P .init (run ControllerThread.poll t samples).2).1 := by
  apply run_invariant (step P) (GestureGated P)
  · intro s call hcall h
    exact step_gestureGated P huse call (polls_fromListener hsamples t call hcall) s h
  · constructor
    · exact fun hon => absurd hon Bool.false_ne_true
    · intro g _ hset
      rw [HandlerState.init, holds_zero] at hset
      exact absurd hset Bool.false_ne_true

theorem lastButtons_lt {samples : List Sample}
    (hsamples : ∀ x ∈ samples, x.buttons.toNat < 2 ^ 24) : (lastButtons samples).toNat < 2 ^ 24 := by
  rw [lastButtons]
  cases hlast : samples.getLast? with
  | none => exact Nat.two_pow_pos 24
  | some x => exact hsamples x (List.mem_of_getLast? hlast)

/-- The word that the samples of a controller leave has no gestures if they end without the gesture
trigger. -/
theorem heldWord_gestures {P : Params}
    (hmap : ∃ e ∈ P.keymap2, e.lincode = keyPsmoveGestureTrigger) (T : Timeouts)
    (calibrated : ControllerId → Bool) (c : ControllerId) {samples : List Sample}
    (hsamples : ∀ x ∈ samples, x.buttons.toNat < 2 ^ 24)
    (hreleased : c = .second → ¬HeldBy P.keymap2 keyPsmoveGestureTrigger (lastButtons samples))
    {g : Word} (hg : g ∈ gestureBits) :
    holds (heldWord P c ((slotThread T calibrated c).deviceCalls samples)) g = false := by
  cases c with
  | first =>
    have hbegin : Followed P .init (slotThread T calibrated .first) :=
      ⟨rfl, rfl, fun hon => absurd hon Bool.false_ne_true⟩
    have hword := (hbegin.polls samples).buttons
    rw [polls_buttons] at hword
    rw [heldWord, deviceCalls_call, hword]
    exact holds_gesture_of_lt (lastButtons_lt hsamples) hg
  | second =>
    by_contra hset
    have hgated := polls_gated ((useGestureTrigger_iff P).mpr hmap) hsamples
      (slotThread T calibrated .second)
    rw [heldWord, deviceCalls_call] at hset
    obtain ⟨e, he, hcode, hscan, hphysical, hheld⟩ :=
      hgated.gesture g hg (eq_true_of_ne_false hset)
    apply hreleased rfl
    refine ⟨e, he, hcode, ?_⟩
    -- the trigger is a button of the last sample
    rw [← slotThread_physical P T calibrated .second hsamples, heldWord, deviceCalls_call,
      holds_and hscan, hheld, holds_mask hscan, decide_eq_false hphysical]
    rfl

/-- A button, the gesture trigger and a gesture of the second controller. -/
def gestureOpts (name : String) : Option String :=
  if name = "PSBTN_1_T" then some "gesture_trigger"
  else if name = "PSBTN_1_CROSS" then some "KEY_X"
  else if name = "GESTURE_RIGHT" then some "KEY_R" else none

def gestureKeyParams : Params where
  keymap1 := []
  keymap2 := [⟨0x40#32, 45⟩, ⟨0x100000#32, keyPsmoveGestureTrigger⟩, ⟨btnGestureRight, 19⟩]
  cx := 1
  cy := 1
  moveThreshold := 0
  gestureThreshold := 40

/-- A gesture with the trigger, and the release of the trigger during the gesture. -/
def gestureSamples : ControllerId → List Sample
  | .first => [turnSample 0#32 500]
  | .second =>
    [turnSample 0x100000#32 500, turnSample 0x100000#32 510, turnSample 0x40#32 520]

/-- Every sample counts as a gesture reading. -/
def promptTimeouts : Timeouts := ⟨20, 0⟩

def gestureSchedule : List ControllerId := alternation ++ List.replicate 200 .second

end PSMoveInput

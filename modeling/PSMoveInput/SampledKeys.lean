import PSMoveInput.ListenerAgreement
import PSMoveInput.ReaderKeys

/-! From the samples of the controllers to the keys that the reader of the device holds for
pressed. -/
namespace PSMoveInput

open Transducer

/-! ### The calls of the samples -/

/-- A call that a controller thread can make. -/
def Call.deviceCall? : Call → Option DeviceCall
  | .onButtons clock buttons controller => some (.request (.onButtons clock buttons controller))
  | .onGyroscope clock gx gy => some (.onGyroscope clock gx gy)
  | .onGesture clock gx gy => some (.request (.onGesture clock gx gy))
  | .reset => none

/-- The calls that a thread makes while it polls. -/
def ControllerThread.deviceCalls (t : ControllerThread) (samples : List Sample) :
    List DeviceCall :=
  (run ControllerThread.poll t samples).2.filterMap Call.deviceCall?

/-- The thread of a slot, started for the first time. -/
def slotThread (T : Timeouts) (calibrated : ControllerId → Bool) (c : ControllerId) :
    ControllerThread :=
  ControllerThread.new.start c (calibrated c) T.pollTimeout T.gestureTimeout

/-- The buttons of the last sample. -/
def lastButtons (samples : List Sample) : Word :=
  (samples.getLast?.map Sample.buttons).getD 0#32

/-- No entry maps a gesture to the code. -/
def PlainCode (P : Params) (code : ℤ) : Prop :=
  ∀ c, ∀ e ∈ P.keymap c, e.lincode = code → e.pscode ∉ gestureBits

theorem poll_call {t : ControllerThread} {x : Sample} {call : Call} (h : call ∈ (t.poll x).2) :
    ∃ made, call.deviceCall? = some made ∧ made.call = call ∧ made.Belongs t.id := by
  simp only [ControllerThread.poll, ControllerThread.reportGyro] at h
  rcases List.mem_append.mp h with h | h
  · cases hid : t.id with
    | first =>
      simp only [hid, List.mem_singleton] at h
      subst h
      exact ⟨_, rfl, rfl, rfl⟩
    | second =>
      simp only [hid] at h
      split_ifs at h
      · rw [List.mem_singleton.mp h]
        exact ⟨_, rfl, rfl, rfl⟩
      · exact absurd h List.not_mem_nil
  · split_ifs at h
    · rw [List.mem_singleton.mp h]
      exact ⟨_, rfl, rfl, rfl⟩
    · exact absurd h List.not_mem_nil

theorem polls_call {t : ControllerThread} {samples : List Sample} {call : Call}
    (h : call ∈ (run ControllerThread.poll t samples).2) :
    ∃ made, call.deviceCall? = some made ∧ made.call = call ∧ made.Belongs t.id := by
  induction samples generalizing t with
  | nil => exact absurd h List.not_mem_nil
  | cons x samples ih =>
    rw [run_cons_snd] at h
    rcases List.mem_append.mp h with h | h
    · exact poll_call h
    · exact ih (t := (t.poll x).1) h

/-- Nothing is lost: a thread does not reset the handler. -/
theorem deviceCalls_call (t : ControllerThread) (samples : List Sample) :
    (t.deviceCalls samples).map DeviceCall.call = (run ControllerThread.poll t samples).2 := by
  have hall : ∀ call ∈ (run ControllerThread.poll t samples).2,
      call.deviceCall?.map DeviceCall.call = some call := by
    intro call hcall
    obtain ⟨made, hmade, heq, -⟩ := polls_call hcall
    rw [hmade, Option.map_some, heq]
  rw [ControllerThread.deviceCalls, List.map_filterMap, List.filterMap_congr hall,
    List.filterMap_some]

theorem deviceCalls_belongs (t : ControllerThread) (samples : List Sample) :
    ∀ made ∈ t.deviceCalls samples, made.Belongs t.id := by
  intro made hmade
  obtain ⟨call, hcall, hsome⟩ := List.mem_filterMap.mp hmade
  obtain ⟨made', hmade', -, hbelongs⟩ := polls_call hcall
  obtain rfl : made' = made := Option.some.inj (hmade'.symm.trans hsome)
  exact hbelongs

/-! ### The handler's word -/

/-- After its samples, the handler's physical buttons are those of the last one. -/
theorem polls_physical (P : Params) (samples : List Sample)
    (hsamples : ∀ x ∈ samples, x.buttons.toNat < 2 ^ 24) (t : ControllerThread) (s : HandlerState)
    (hsame : s.physical t.id = t.buttons) :
    (runCalls P s (run ControllerThread.poll t samples).2).1.physical t.id =
      (samples.getLast?.map Sample.buttons).getD t.buttons := by
  induction samples generalizing t s with
  | nil => exact hsame
  | cons x samples ih =>
    have hx := hsamples x List.mem_cons_self
    have hpoll : (runCalls P s (t.poll x).2).1.physical t.id = x.buttons := by
      rw [poll_physical P t x hx]
      by_cases hchange : t.buttons ≠ x.buttons
      · rw [if_pos ⟨rfl, hchange⟩]
      · rw [if_neg fun h => hchange h.2, hsame]
        exact not_not.mp hchange
    have htail := ih (fun y hy => hsamples y (List.mem_cons_of_mem x hy)) (t.poll x).1 _ hpoll
    rw [run_cons_snd, runCalls, run_append, List.getLast?_cons]
    refine htail.trans ?_
    cases samples.getLast? <;> rfl

theorem slotThread_physical (P : Params) (T : Timeouts) (calibrated : ControllerId → Bool)
    (c : ControllerId) {samples : List Sample}
    (hsamples : ∀ x ∈ samples, x.buttons.toNat < 2 ^ 24) :
    heldWord P c ((slotThread T calibrated c).deviceCalls samples) &&& btnGestureMask =
      lastButtons samples := by
  have hstart : HandlerState.init.physical c = 0#32 := BitVec.zero_and
  have hphysical := polls_physical P samples hsamples (slotThread T calibrated c) .init hstart
  rw [heldWord, deviceCalls_call]
  exact hphysical

/-- A code without gestures is held by the handler's word and by the last sample alike. -/
theorem heldBy_physical {P : Params} (hscan : ∀ c, Scanned (P.keymap c)) {code : ℤ}
    (hplain : PlainCode P code) (c : ControllerId) (w : Word) :
    HeldBy (P.keymap c) code w ↔ HeldBy (P.keymap c) code (w &&& btnGestureMask) := by
  have hbit (e : KeyMapEntry) (he : e ∈ P.keymap c) (hcode : e.lincode = code) :
      holds (w &&& btnGestureMask) e.pscode = holds w e.pscode := by
    have hbits := hscan c e he
    rw [holds_and hbits, holds_mask hbits, decide_eq_false (hplain c e he hcode), Bool.not_false,
      Bool.and_true]
  constructor
  · rintro ⟨e, he, hcode, hset⟩
    exact ⟨e, he, hcode, (hbit e he hcode).trans hset⟩
  · rintro ⟨e, he, hcode, hset⟩
    exact ⟨e, he, hcode, (hbit e he hcode).symm.trans hset⟩

/-- The words of the handler are those of the last samples, up to the gestures. -/
theorem heldBy_sampled {P : Params} (hscan : ∀ c, Scanned (P.keymap c)) (T : Timeouts)
    (calibrated : ControllerId → Bool) (c : ControllerId) {samples : List Sample}
    (hsamples : ∀ x ∈ samples, x.buttons.toNat < 2 ^ 24) {code : ℤ} (hplain : PlainCode P code) :
    HeldBy (P.keymap c) code (heldWord P c ((slotThread T calibrated c).deviceCalls samples)) ↔
      HeldBy (P.keymap c) code (lastButtons samples) := by
  rw [heldBy_physical hscan hplain, slotThread_physical P T calibrated c hsamples]

/-! ### The reader -/

/-- Both controllers press their button, and the first one releases it again. -/
def pairSamples : ControllerId → List Sample
  | .first => [buttonSample 0x20#32, buttonSample 0#32]
  | .second => [buttonSample 0x40#32]

end PSMoveInput

import PSMoveInput.KeyTransitions

/-! Triggers as gates. Each trigger flag is on only while a button mapped to it is held, so
movements and gestures are reported only then. -/
namespace PSMoveInput

open Transducer EdgeTrace

/-! ### The move trigger -/

def MoveTriggerHeld (P : Params) (s : HandlerState) : Prop :=
  s.moveTrigger = true → HeldScan P.keymap1 keyPsmoveMoveTrigger (s.buttons .first)

theorem reportButtons_moveTrigger (P : Params) (buttons : Word) (controller : ControllerId)
    (s : HandlerState) (h : MoveTriggerHeld P s) :
    MoveTriggerHeld P (reportButtons P buttons controller s).1 := by
  cases controller with
  | first =>
    rw [reportButtons_first]
    intro hon
    dsimp only at hon ⊢
    rw [Function.update_self]
    exact level_codeEdges s.moveTrigger h hon
  | second =>
    rw [reportButtons_second]
    intro hon
    dsimp only at hon ⊢
    rw [Function.update_of_ne (by decide)]
    exact h hon

theorem moveTrigger_rule (P : Params) :
    CallRule P fun s _ t => MoveTriggerHeld P s → MoveTriggerHeld P t where
  trans h1 h2 hs := h2 (h1 hs)
  clear _ hs := hs
  time _ _ hs := hs
  gesture s _ _ _ _ := reportButtons_moveTrigger P _ .second s

theorem step_moveTrigger (P : Params) (call : Call) (s : HandlerState)
    (h : MoveTriggerHeld P s) : MoveTriggerHeld P (step P s call).1 := by
  cases call with
  | onButtons clock buttons controller =>
    have hreport := reportButtons_moveTrigger P buttons controller s
    exact (moveTrigger_rule P).onButtons clock hreport h
  | onGyroscope clock gx gy => exact h
  | onGesture clock gx gy => exact (moveTrigger_rule P).onGesture clock gx gy s h
  | reset =>
    intro hon
    cases hon

theorem reportOut_no_move (P : Params) (buttons : Word) (controller : ControllerId)
    (s : HandlerState) (cause : Option (ControllerId × ℕ)) {dx dy : ℤ} :
    .signal cause (.move dx dy) ∉ reportOut P buttons controller s := by
  intro hmem
  unfold reportOut at hmem
  rw [reportButtons_events] at hmem
  rcases List.mem_cons.mp hmem with hmark | hmem
  · cases hmark
  · obtain ⟨e, index, _, _, _, sig, hsig, heq⟩ := mem_transitionEvents.mp hmem
    obtain ⟨rfl, rfl⟩ := Event.signal.inj heq
    unfold entrySignals at hsig
    split_ifs at hsig <;> simp at hsig

theorem noMove_rule (P : Params) (dx dy : ℤ) :
    CallRule P fun _ es _ => ∀ cause, .signal cause (.move dx dy) ∉ es where
  trans h1 h2 cause hmem := (List.mem_append.mp hmem).elim (h1 cause) (h2 cause)
  clear _ _ := List.not_mem_nil
  time _ _ _ := List.not_mem_nil
  gesture s _ _ _ _ cause := reportOut_no_move P _ .second s cause

/-- A movement passes the gate of `onGyroscope`, the only place that reports one. -/
theorem step_move (P : Params) (call : Call) (s : HandlerState) {dx dy : ℤ}
    (h : .move dx dy ∈ signals (step P s call).2) : moveGate P s = true := by
  obtain ⟨ev, hev, hsig⟩ := List.mem_filterMap.mp h
  obtain ⟨cause, rfl⟩ : ∃ cause, ev = .signal cause (.move dx dy) := by
    cases ev with
    | report c before after => cases hsig
    | signal cause sig => exact ⟨cause, by rw [Option.some.inj hsig]⟩
  cases call with
  | onGyroscope clock gx gy =>
    by_contra hclosed
    simp only [step, onGyroscope, eq_false_of_ne_true hclosed, Bool.false_eq_true, ↓reduceIte,
      ite_self, List.not_mem_nil] at hev
  | onButtons clock buttons controller =>
    have hreport (cause : Option (ControllerId × ℕ)) :
        .signal cause (.move dx dy) ∉ reportOut P buttons controller s :=
      reportOut_no_move P buttons controller s cause
    have hnone := (noMove_rule P dx dy).onButtons clock hreport
    exact absurd hev (hnone cause)
  | onGesture clock gx gy =>
    have hnone := (noMove_rule P dx dy).onGesture clock gx gy s
    exact absurd hev (hnone cause)
  | reset => exact absurd hev List.not_mem_nil

/-! ### The gesture trigger -/

/-- A button of the gesture trigger that is not itself a gesture is set in the word. -/
def GestureTriggerHeld (P : Params) (w : Word) : Prop :=
  ∃ e ∈ P.keymap2, e.lincode = keyPsmoveGestureTrigger ∧ e.pscode ∈ scanBits ∧
    e.pscode ∉ gestureBits ∧ holds w e.pscode = true

/-- The flag is on, or a gesture is stored, only with the trigger held. -/
structure GestureGated (P : Params) (s : HandlerState) : Prop where
  trigger : s.gestureTrigger = true → GestureTriggerHeld P (s.buttons .second)
  gesture : ∀ g ∈ gestureBits, holds (s.buttons .second) g = true →
    GestureTriggerHeld P (s.buttons .second)

/-- The listener reports physical buttons only. -/
def Call.fromListener : Call → Bool
  | .onButtons _ buttons _ => buttons.toNat < 2 ^ 24
  | _ => true

theorem GestureGated.of_physical {P : Params} {s : HandlerState} (h : GestureGated P s)
    {w : Word} (hw : w.toNat < 2 ^ 24) :
    GestureGated P (reportButtons P w .second s).1 := by
  constructor
  · -- the flag is a level driven by the buttons of the trigger
    intro hon
    rw [reportButtons_second] at hon ⊢
    dsimp only at hon ⊢
    rw [Function.update_self]
    have hbefore : s.gestureTrigger = true →
        HeldScan P.keymap2 keyPsmoveGestureTrigger (s.buttons .second) := by
      intro ht
      obtain ⟨e, he, hcode, hscan, _, hset⟩ := h.trigger ht
      exact ⟨e, he, hcode, hscan, hset⟩
    obtain ⟨e, he, hcode, hscan, hset⟩ := level_codeEdges s.gestureTrigger hbefore hon
    refine ⟨e, he, hcode, hscan, ?_, hset⟩
    intro hgest
    rw [holds_gesture_of_lt hw hgest] at hset
    exact absurd hset (by decide)
  · -- a physical report clears the gestures
    intro g hg hset
    rw [reportButtons_second] at hset
    dsimp only at hset
    rw [Function.update_self, holds_gesture_of_lt hw hg] at hset
    exact absurd hset (by decide)

/-- A gesture report keeps the physical buttons, hence the trigger that let it pass. -/
theorem GestureTriggerHeld.gestureReport {P : Params} {s : HandlerState}
    (h : GestureTriggerHeld P (s.buttons .second)) (tp : Timespec) (gx gy : ℤ) :
    GestureTriggerHeld P (gestureReport P tp gx gy s) := by
  obtain ⟨e, he, hcode, hscan, hphys, hset⟩ := h
  refine ⟨e, he, hcode, hscan, hphys, ?_⟩
  have hmask : holds btnGestureMask e.pscode = true := by
    rw [holds_mask hscan, decide_eq_false hphys]
    rfl
  simp only [PSMoveInput.gestureReport]
  rw [holds_or hscan, holds_and hscan, hset, hmask, Bool.and_true, Bool.or_true]

theorem GestureGated.of_gesture {P : Params} {s : HandlerState} (h : GestureGated P s)
    (huse : P.useGestureTrigger = true) {tp : Timespec} {gx gy : ℤ} (hready : gestureReady P s) :
    GestureGated P (reportButtons P (PSMoveInput.gestureReport P tp gx gy s) .second s).1 := by
  have hon : s.gestureTrigger = true := by
    have hgate := hready.2
    simpa only [gestureGate, huse, Bool.true_and, Bool.not_true, Bool.or_false] using hgate
  have hheld := (h.trigger hon).gestureReport tp gx gy
  have hafter : GestureTriggerHeld P
      ((reportButtons P (PSMoveInput.gestureReport P tp gx gy s) .second s).1.buttons .second) := by
    rw [reportButtons_buttons, Function.update_self]
    exact hheld
  exact ⟨fun _ => hafter, fun _ _ _ => hafter⟩

theorem GestureGated.of_first {P : Params} {s : HandlerState} (h : GestureGated P s) (w : Word) :
    GestureGated P (reportButtons P w .first s).1 := by
  have hbuttons : (reportButtons P w .first s).1.buttons .second = s.buttons .second := by
    rw [reportButtons_buttons, Function.update_of_ne (by decide)]
  constructor
  · intro hon
    rw [hbuttons]
    rw [reportButtons_first] at hon
    exact h.trigger hon
  · intro g hg hset
    rw [hbuttons] at hset ⊢
    exact h.gesture g hg hset

theorem gestureGated_rule (P : Params) (huse : P.useGestureTrigger = true) :
    CallRule P fun s _ t => GestureGated P s → GestureGated P t where
  trans h1 h2 hs := h2 (h1 hs)
  clear _ hs := ⟨hs.trigger, hs.gesture⟩
  time _ _ hs := ⟨hs.trigger, hs.gesture⟩
  gesture _ _ _ _ hready hs := hs.of_gesture huse hready

theorem step_gestureGated (P : Params) (huse : P.useGestureTrigger = true) (call : Call)
    (hcall : call.fromListener = true) (s : HandlerState) (h : GestureGated P s) :
    GestureGated P (step P s call).1 := by
  cases call with
  | onButtons clock buttons controller =>
    have hreport : GestureGated P s → GestureGated P (reportButtons P buttons controller s).1 := by
      intro hs
      cases controller with
      | first => exact hs.of_first buttons
      | second =>
        have hphysical : buttons.toNat < 2 ^ 24 := of_decide_eq_true hcall
        exact hs.of_physical hphysical
    exact (gestureGated_rule P huse).onButtons clock hreport h
  | onGyroscope clock gx gy => exact ⟨h.1, h.2⟩
  | onGesture clock gx gy => exact (gestureGated_rule P huse).onGesture clock gx gy s h
  | reset =>
    constructor
    · intro hon
      cases hon
    · intro g _ hset
      simp [step, reset] at hset

theorem useGestureTrigger_iff (P : Params) :
    P.useGestureTrigger = true ↔ ∃ e ∈ P.keymap2, e.lincode = keyPsmoveGestureTrigger := by
  simp only [Params.useGestureTrigger]
  simp only [List.any_eq_true, beq_iff_eq]

theorem useMoveTrigger_iff (P : Params) :
    P.useMoveTrigger = true ↔ ∃ e ∈ P.keymap1, e.lincode = keyPsmoveMoveTrigger := by
  simp only [Params.useMoveTrigger]
  simp only [List.any_eq_true, beq_iff_eq]

/-- After any run `calls`, one more call: a movement is emitted only with the move trigger held,
gestures are stored only with the gesture trigger held, and a call after which the gesture
trigger is not held releases the keys of every gesture. -/
theorem triggers_gate (P : Params) (calls : List Call) (call : Call)
    (hcalls : ∀ c ∈ calls ++ [call], c.fromListener = true) :
    let s := (runCalls P .init calls).1
    let t := step P s call
    ((∃ e ∈ P.keymap1, e.lincode = keyPsmoveMoveTrigger) → ∀ dx dy,
      .move dx dy ∈ signals t.2 → HeldScan P.keymap1 keyPsmoveMoveTrigger (s.buttons .first)) ∧
    ((∃ e ∈ P.keymap2, e.lincode = keyPsmoveGestureTrigger) →
      ((∃ g ∈ gestureBits, holds (t.1.buttons .second) g = true) →
        GestureTriggerHeld P (t.1.buttons .second)) ∧
      (call.isReset = false → ¬GestureTriggerHeld P (t.1.buttons .second) →
        ∀ (index : ℕ) (e : KeyMapEntry), P.keymap2[index]? = some e → e.pscode ∈ gestureBits →
          e.lincode ≤ keyMax → holds (s.buttons .second) e.pscode = true →
          (entryKeys .second index t.2).getLast? = some false)) := by
  intro s t
  have hlistener : ∀ c ∈ calls, c.fromListener = true :=
    fun c hc => hcalls c (List.mem_append_left _ hc)
  refine ⟨fun hmap dx dy hmove => ?_, fun hmap => ?_⟩
  · have hinit : MoveTriggerHeld P .init := by
      intro hon
      cases hon
    have hheld : MoveTriggerHeld P s := by
      apply run_invariant (step P) (MoveTriggerHeld P) calls
      · intro s c _ h
        exact step_moveTrigger P c s h
      · exact hinit
    have hgate := step_move P call s hmove
    have huse := (useMoveTrigger_iff P).mpr hmap
    apply hheld
    simpa only [moveGate, huse, Bool.true_and, Bool.not_true, Bool.or_false] using hgate
  · have huse := (useGestureTrigger_iff P).mpr hmap
    have hinit : GestureGated P .init := by
      constructor
      · intro hon
        cases hon
      · intro g _ hset
        simp [HandlerState.init] at hset
    have hbefore : GestureGated P s := by
      apply run_invariant (step P) (GestureGated P) calls
      · intro s c hc h
        exact step_gestureGated P huse c (hlistener c hc) s h
      · exact hinit
    have hlast : call.fromListener = true :=
      hcalls call (List.mem_append_right calls List.mem_cons_self)
    have hafter : GestureGated P t.1 := step_gestureGated P huse call hlast s hbefore
    refine ⟨fun ⟨g, hg, hset⟩ => hafter.gesture g hg hset, ?_⟩
    intro hcall hup index e he hgest hkey hset
    -- the gesture bit is clear after the call, so its entry has a falling edge
    have hclear : holds (t.1.buttons .second) e.pscode = false := by
      by_contra hstill
      exact hup (hafter.gesture e.pscode hgest (eq_true_of_ne_false hstill))
    have hedges := (step_trace P call hcall s).entry_edges .second index e he
      (gestureBits_scan e.pscode hgest) hkey
    rw [hset, hclear] at hedges
    exact hedges.getLast? (by decide)

/-- The move trigger pressed between two gyroscope readings, and the release of the gesture
trigger that ends a gesture. -/
theorem triggers_gate_example :
    HeldScan exampleParams.keymap1 keyPsmoveMoveTrigger
        ((runCalls exampleParams .init [.onGyroscope (fun _ => ⟨1, 500000000⟩) 0 0,
          .onButtons (fun _ => ⟨1, 505000000⟩) 0x100000#32 .first]).1.buttons .first) ∧
      GestureTriggerHeld exampleParams
        ((step exampleParams (runCalls exampleParams .init (exampleCalls.take 2)).1
          (.onGesture (fun _ => ⟨1, 510000000⟩) 7 0)).1.buttons .second) ∧
      (entryKeys .second 2
        (step exampleParams (runCalls exampleParams .init (exampleCalls.take 3)).1
          (.onButtons (fun _ => ⟨1, 515000000⟩) 0#32 .second)).2).getLast? = some false := by
  have hmove := (triggers_gate exampleParams [.onGyroscope (fun _ => ⟨1, 500000000⟩) 0 0,
    .onButtons (fun _ => ⟨1, 505000000⟩) 0x100000#32 .first]
    (.onGyroscope (fun _ => ⟨1, 510000000⟩) 7 0) (by decide)).1
  have hgesture := (triggers_gate exampleParams (exampleCalls.take 2)
    (.onGesture (fun _ => ⟨1, 510000000⟩) 7 0) (by decide)).2
  have hrelease := (triggers_gate exampleParams (exampleCalls.take 3)
    (.onButtons (fun _ => ⟨1, 515000000⟩) 0#32 .second) (by decide)).2
  have htrigger : ∃ e ∈ exampleParams.keymap2, e.lincode = keyPsmoveGestureTrigger :=
    ⟨_, List.mem_cons_self, rfl⟩
  refine ⟨hmove (by decide) 70 0 (by decide +kernel), ?_, ?_⟩
  · exact (hgesture htrigger).1 ⟨btnGestureRight, by decide, by decide +kernel⟩
  · refine (hrelease htrigger).2 rfl ?_ 2 ⟨btnGestureRight, 19⟩ rfl (by decide) (by decide)
      (by decide +kernel)
    intro hheld
    obtain ⟨e, -, -, -, -, hset⟩ := hheld
    have hword : (step exampleParams (runCalls exampleParams .init (exampleCalls.take 3)).1
        (.onButtons (fun _ => ⟨1, 515000000⟩) 0#32 .second)).1.buttons .second = 0#32 := by
      decide +kernel
    rw [hword, holds_zero] at hset
    exact absurd hset (by decide)

end PSMoveInput

import PSMoveInput.ChangeFilter
import PSMoveInput.HandlerCalls
import PSMoveInput.Listener
import PSMoveInput.ReportTrace

/-! Each slot keeps the last word it polled and the handler keeps the last word it was told.
The two copies are a change filter whose sink is cleared by `reset`. -/
namespace PSMoveInput

open Transducer ChangeFilter

/-! ### Physical buttons of the handler -/

/-- The stored word of a controller without the gesture bits. -/
def HandlerState.physical (s : HandlerState) (controller : ControllerId) : Word :=
  s.buttons controller &&& btnGestureMask

theorem gestureButtons_mask (dx dy : ℤ) : gestureButtons dx dy &&& btnGestureMask = 0#32 := by
  simp only [gestureButtons]
  split_ifs <;> decide

theorem word_mask {w : Word} (h : w.toNat < 2 ^ 24) : w &&& btnGestureMask = w := by
  have hmask : btnGestureMask.toNat = 2 ^ 24 - 1 := by decide
  apply BitVec.eq_of_toNat_eq
  calc
    (w &&& btnGestureMask).toNat = w.toNat &&& (2 ^ 24 - 1) := by rw [BitVec.toNat_and, hmask]
    _ = w.toNat % 2 ^ 24 := Nat.and_two_pow_sub_one_eq_mod _ _
    _ = w.toNat := Nat.mod_eq_of_lt h

theorem gestureReport_mask (P : Params) (tp : Timespec) (gx gy : ℤ) (s : HandlerState) :
    gestureReport P tp gx gy s &&& btnGestureMask = s.physical .second := by
  have hsplit (a b : Word) : (a ||| b) &&& btnGestureMask =
      (a &&& btnGestureMask) ||| (b &&& btnGestureMask) := BitVec.and_or_distrib_right
  have hidem (a : Word) : a &&& btnGestureMask &&& btnGestureMask = a &&& btnGestureMask := by
    rw [BitVec.and_assoc, BitVec.and_self]
  -- the gesture bits fall out of the mask, the stored ones stay
  simp only [gestureReport, HandlerState.physical]
  rw [hsplit, gestureButtons_mask, hidem, BitVec.zero_or]

theorem gestureReport_physical (P : Params) (tp : Timespec) (gx gy : ℤ) (s : HandlerState)
    (c : ControllerId) :
    (reportButtons P (gestureReport P tp gx gy s) .second s).1.physical c = s.physical c := by
  simp only [HandlerState.physical]
  rw [reportButtons_buttons]
  cases c with
  | first => simp only [ne_eq, reduceCtorEq, not_false_eq_true, Function.update_of_ne]
  | second =>
    rw [Function.update_self]
    exact gestureReport_mask P tp gx gy s

theorem physical_rule (P : Params) (c : ControllerId) :
    CallRule P fun s _ t => t.physical c = s.physical c where
  trans h1 h2 := h2.trans h1
  clear _ := rfl
  time _ _ := rfl
  gesture s tp gx gy _ := gestureReport_physical P tp gx gy s c

theorem onGesture_physical (P : Params) (clock : Clock) (gx gy : ℤ) (s : HandlerState)
    (c : ControllerId) : (onGesture P clock gx gy s).1.physical c = s.physical c :=
  (physical_rule P c).onGesture clock gx gy s

/-- A report of physical buttons, with its nested calls, stores these buttons. -/
theorem onButtons_physical (P : Params) (clock : Clock) {w : Word} (hw : w.toNat < 2 ^ 24)
    (controller : ControllerId) (s : HandlerState) (c : ControllerId) :
    (onButtons P clock w controller s).1.physical c =
      if c = controller then w else s.physical c := by
  have hreport : (reportButtons P w controller s).1.physical c =
      if c = controller then w else s.physical c := by
    simp only [HandlerState.physical]
    rw [reportButtons_buttons]
    split_ifs with hc
    · rw [hc, Function.update_self, word_mask hw]
    · rw [Function.update_of_ne hc]
  rw [onButtons_eq]
  by_cases hrel : (reportButtons P w controller s).1.releaseGestureKeys = true
  · -- the nested gesture call keeps the physical buttons
    rw [if_pos hrel]
    exact (onGesture_physical P clock 0 0 _ c).trans hreport
  · rw [if_neg hrel]
    exact hreport

theorem reportGyro_physical (P : Params) (t : ControllerThread) (x : Sample) (s : HandlerState)
    (c : ControllerId) : (runCalls P s (t.reportGyro x).2).1.physical c = s.physical c := by
  simp only [ControllerThread.reportGyro]
  cases t.id with
  | first => rfl
  | second =>
    dsimp only
    split_ifs
    · exact onGesture_physical P x.gyroClock _ _ s c
    · rfl

/-- One sample: the handler is told the word if it differs from the thread's copy. -/
theorem poll_physical (P : Params) (t : ControllerThread) (x : Sample)
    (hx : x.buttons.toNat < 2 ^ 24) (s : HandlerState) (c : ControllerId) :
    (runCalls P s (t.poll x).2).1.physical c =
      if c = t.id ∧ t.buttons ≠ x.buttons then x.buttons else s.physical c := by
  have hgyro := reportGyro_physical P t x s c
  rw [ControllerThread.poll]
  dsimp only
  simp only [runCalls] at hgyro ⊢
  rw [run_append]
  by_cases hchange : t.buttons ≠ x.buttons
  · rw [if_pos hchange]
    simp only [run_cons_fst, run_nil, step, hchange, ne_eq, not_false_eq_true, and_true]
    rw [onButtons_physical P x.buttonsClock hx t.id, hgyro]
  · rw [if_neg hchange, if_neg (fun h => hchange h.2)]
    exact hgyro

/-! ### The two copies -/

/-- The copies that concern a slot: the thread's and the handler's. -/
def System.copies (s : System) (c : ControllerId) : Copies Word :=
  ⟨(s.threads c).buttons, s.handler.physical c⟩

/-- What an event is to the copies of a slot. -/
def slotInput (c : ControllerId) : ListenerEvent → Option (Input Word)
  | .poll slot x => if slot = c then some (.sample x.buttons) else none
  | .disconnectComplete => some .clear
  | _ => none

/-- The words polled in a slot and the resets between them. -/
def slotInputs (c : ControllerId) (evs : List ListenerEvent) : List (Input Word) :=
  evs.filterMap (slotInput c)

theorem slotInputs_append (c : ControllerId) (evs evs' : List ListenerEvent) :
    slotInputs c (evs ++ evs') = slotInputs c evs ++ slotInputs c evs' :=
  List.filterMap_append

theorem slotInputs_poll (c : ControllerId) (x : Sample) (evs : List ListenerEvent) :
    slotInputs c (.poll c x :: evs) = .sample x.buttons :: slotInputs c evs := by
  have hpoll : slotInput c (.poll c x) = some (.sample x.buttons) := by
    simp only [slotInput, ↓reduceIte]
  simp only [slotInputs, List.filterMap_cons, hpoll]

/-- A sample among the inputs of a slot comes from a poll of the run. -/
theorem exists_poll {c : ControllerId} {evs : List ListenerEvent} {ipre ipost : List (Input Word)}
    {v : Word} (h : slotInputs c evs = ipre ++ .sample v :: ipost) :
    ∃ pre x post, evs = pre ++ .poll c x :: post ∧ slotInputs c pre = ipre ∧ x.buttons = v := by
  obtain ⟨pre, rest, rfl, hpre, hrest⟩ := List.filterMap_eq_append_iff.mp h
  obtain ⟨skip, ev, post, rfl, hskip, hev, -⟩ := List.filterMap_eq_cons_iff.mp hrest
  have hsilent : slotInputs c skip = [] := List.filterMap_eq_nil_iff.mpr hskip
  cases ev with
  | poll slot x =>
    simp only [slotInput] at hev
    split_ifs at hev with hslot
    subst hslot
    refine ⟨pre ++ skip, x, post, by rw [List.append_assoc], ?_, ?_⟩
    · rw [slotInputs_append, hsilent, List.append_nil]
      exact hpre
    · exact Input.sample.inj (Option.some.inj hev)
  | disconnectComplete => cases hev
  | _ => cases hev

/-- `psmove_get_buttons` returns physical buttons. -/
def ListenerEvent.physical : ListenerEvent → Bool
  | .poll _ x => x.buttons.toNat < 2 ^ 24
  | _ => true

/-- A running thread works for the controller of its slot. -/
def System.SlotIds (s : System) : Prop :=
  ∀ c, (s.threads c).running = true → (s.threads c).id = c

theorem startThread_slotIds (T : Timeouts) (s : System) (slot : ControllerId) (calibrated : Bool)
    (hfree : (s.threads slot).running = false) (h : s.SlotIds) :
    (s.startThread T slot calibrated).SlotIds := by
  intro c hrun
  rw [System.startThread] at hrun ⊢
  dsimp only at hrun ⊢
  by_cases hc : c = slot
  · subst hc
    rw [Function.update_self]
    simp only [ControllerThread.start, hfree, ↓reduceIte]
  · rw [Function.update_of_ne hc] at hrun ⊢
    exact h c hrun

theorem startThread_copies (T : Timeouts) (s : System) (slot : ControllerId) (calibrated : Bool)
    (c : ControllerId) : (s.startThread T slot calibrated).copies c = s.copies c := by
  unfold System.startThread System.copies
  dsimp only
  by_cases hc : c = slot
  · subst hc
    rw [Function.update_self]
    simp only [ControllerThread.start]
    split_ifs <;> rfl
  · rw [Function.update_of_ne hc]

/-- A new device changes no copy: in particular the copy of its slot is not cleared. -/
theorem handleNewDevice_cases {T : Timeouts} {s t : System} {calibrated : Bool}
    (h : s.handleNewDevice T calibrated = some t) :
    ∃ slot, (s.threads slot).running = false ∧ t = s.startThread T slot calibrated := by
  unfold System.handleNewDevice at h
  split_ifs at h with hfirst hsecond
  · exact ⟨.first, hfirst, (Option.some.inj h).symm⟩
  · exact ⟨.second, hsecond, (Option.some.inj h).symm⟩

theorem step_slotIds {P : Params} {T : Timeouts} {s t : System} {ev : ListenerEvent}
    (hstep : s.step P T ev = some t) (h : s.SlotIds) : t.SlotIds := by
  cases ev with
  | connect calibrated =>
    obtain ⟨slot, hfree, rfl⟩ := handleNewDevice_cases hstep
    exact startThread_slotIds T s slot calibrated hfree h
  | poll slot x =>
    simp only [System.step] at hstep
    split_ifs at hstep with hrun
    obtain rfl := Option.some.inj hstep
    intro c hc
    dsimp only at hc ⊢
    by_cases hslot : c = slot
    · subst hslot
      rw [Function.update_self]
      exact h c hrun
    · rw [Function.update_of_ne hslot] at hc ⊢
      exact h c hc
  | exit slot =>
    simp only [System.step] at hstep
    split_ifs at hstep with hrun
    obtain rfl := Option.some.inj hstep
    intro c hc
    dsimp only at hc ⊢
    by_cases hslot : c = slot
    · subst hslot
      rw [Function.update_self] at hc
      cases hc
    · rw [Function.update_of_ne hslot] at hc ⊢
      exact h c hc
  | disconnectComplete =>
    simp only [System.step] at hstep
    split_ifs at hstep
    obtain rfl := Option.some.inj hstep
    exact h

/-- A step of the system is a step of the change filter of every slot. -/
theorem step_copies {P : Params} {T : Timeouts} {s t : System} {ev : ListenerEvent}
    (hstep : s.step P T ev = some t) (hev : ev.physical = true) (hids : s.SlotIds)
    (c : ControllerId) :
    t.copies c = ((slotInput c ev).toList).foldl (ChangeFilter.step 0#32) (s.copies c) := by
  cases ev with
  | connect calibrated =>
    obtain ⟨slot, -, rfl⟩ := handleNewDevice_cases hstep
    exact startThread_copies T s slot calibrated c
  | poll slot x =>
    simp only [System.step] at hstep
    split_ifs at hstep with hrun
    obtain rfl := Option.some.inj hstep
    have hword : x.buttons.toNat < 2 ^ 24 := of_decide_eq_true hev
    have hphys := poll_physical P (s.threads slot) x hword s.handler c
    have hslotId := hids slot hrun
    unfold System.copies
    dsimp only
    rw [hphys, hslotId]
    by_cases hc : c = slot
    · subst hc
      rw [Function.update_self]
      simp only [slotInput, ↓reduceIte, Option.toList_some, List.foldl_cons, List.foldl_nil,
        ChangeFilter.step, true_and]
      rfl
    · rw [Function.update_of_ne hc, if_neg (fun h => hc h.1)]
      simp only [slotInput, Ne.symm hc, ↓reduceIte, Option.toList_none, List.foldl_nil]
  | exit slot =>
    -- the thread leaves its copy behind
    simp only [System.step] at hstep
    split_ifs at hstep with hrun
    obtain rfl := Option.some.inj hstep
    rw [System.copies]
    dsimp only
    by_cases hc : c = slot
    · subst hc
      rw [Function.update_self]
      rfl
    · rw [Function.update_of_ne hc]
      rfl
  | disconnectComplete =>
    simp only [System.step] at hstep
    split_ifs at hstep
    obtain rfl := Option.some.inj hstep
    -- the handler's copy is cleared, the thread's is not
    have hzero : (reset s.handler).physical c = 0#32 := BitVec.zero_and
    rw [System.copies]
    dsimp only
    rw [hzero]
    rfl

theorem run_append_event (P : Params) (T : Timeouts) (s : System) (evs : List ListenerEvent)
    (ev : ListenerEvent) :
    s.run P T (evs ++ [ev]) = (s.run P T evs).bind fun t => t.step P T ev := by
  simp only [System.run]
  rw [List.foldlM_append]
  cases evs.foldlM (System.step P T) s <;> simp

/-- The whole run refines the change filters. -/
theorem run_copies (P : Params) (T : Timeouts) (evs : List ListenerEvent)
    (hevs : ∀ ev ∈ evs, ev.physical = true) (s : System)
    (hrun : System.run P T .init evs = some s) :
    s.SlotIds ∧ ∀ c, s.copies c = exec 0#32 (slotInputs c evs) := by
  -- a run grows at its end
  induction evs using List.reverseRecOn generalizing s with
  | nil =>
    obtain rfl := Option.some.inj hrun
    constructor
    · intro c hc
      cases hc
    · intro c
      have hzero : HandlerState.init.physical c = 0#32 := BitVec.zero_and
      rw [System.copies, System.init]
      dsimp only
      rw [hzero]
      rfl
  | append_singleton evs ev ih =>
    rw [run_append_event] at hrun
    obtain ⟨t, ht, hstep⟩ := Option.bind_eq_some_iff.mp hrun
    obtain ⟨hids, hcopies⟩ := ih (fun e he => hevs e (List.mem_append_left _ he)) t ht
    have hev : ev.physical = true := hevs ev (List.mem_append_right evs List.mem_cons_self)
    refine ⟨step_slotIds hstep hids, fun c => ?_⟩
    have hsplit : slotInputs c (evs ++ [ev]) = slotInputs c evs ++ (slotInput c ev).toList := by
      rw [slotInputs_append]
      cases h : slotInput c ev <;> simp [slotInputs, h]
    calc
      s.copies c = ((slotInput c ev).toList).foldl (ChangeFilter.step 0#32) (t.copies c) :=
        step_copies hstep hev hids c
      _ = ((slotInput c ev).toList).foldl (ChangeFilter.step 0#32)
          (exec 0#32 (slotInputs c evs)) := by rw [hcopies c]
      _ = exec 0#32 (slotInputs c (evs ++ [ev])) := by rw [hsplit, exec_append]

/-- A prefix of a possible run is a possible run. -/
theorem run_prefix {P : Params} {T : Timeouts} {s t : System} {evs evs' : List ListenerEvent}
    (h : s.run P T (evs ++ evs') = some t) : ∃ u, s.run P T evs = some u := by
  unfold System.run at h
  rw [List.foldlM_append] at h
  obtain ⟨u, hu, _⟩ := Option.bind_eq_some_iff.mp h
  exact ⟨u, hu⟩

/-- After every poll the handler holds the word just polled, in all slots, exactly when in no
slot the first word after a reset repeats the last one before it and is not zero. -/
theorem listener_handler_agree_iff (P : Params) (T : Timeouts) (evs : List ListenerEvent)
    (hevs : ∀ ev ∈ evs, ev.physical = true) (s : System)
    (hrun : System.run P T .init evs = some s) :
    (∀ c pre x post, evs = pre ++ .poll c x :: post → ∀ t,
      System.run P T .init (pre ++ [.poll c x]) = some t → t.handler.physical c = x.buttons) ↔
    ∀ c, ¬Stale 0#32 (slotInputs c evs) := by
  -- what the handler holds after a poll is what the change filter of the slot shows
  have hpoll (c : ControllerId) (pre : List ListenerEvent) (x : Sample)
      (post : List ListenerEvent) (hsplit : evs = pre ++ .poll c x :: post) (t : System)
      (ht : System.run P T .init (pre ++ [.poll c x]) = some t) :
      t.handler.physical c = (exec 0#32 (slotInputs c pre ++ [.sample x.buttons])).shown := by
    have hphysical : ∀ ev ∈ pre ++ [.poll c x], ev.physical = true := by
      intro e he
      rw [← List.singleton_append, ← List.append_assoc] at hsplit
      exact hevs e (hsplit ▸ List.mem_append_left post he)
    have hcopies := (run_copies P T _ hphysical t ht).2 c
    rw [slotInputs_append, slotInputs_poll] at hcopies
    exact congrArg Copies.shown hcopies
  constructor
  · intro h c
    apply (shows_samples_iff _).mp
    intro ipre v ipost hinputs
    obtain ⟨pre, x, post, hsplit, rfl, rfl⟩ := exists_poll hinputs
    have hcons : evs = pre ++ [.poll c x] ++ post := by
      rw [hsplit, List.append_assoc, List.singleton_append]
    obtain ⟨t, ht⟩ := run_prefix (hcons ▸ hrun)
    rw [← hpoll c pre x post hsplit t ht]
    exact h c pre x post hsplit t ht
  · intro h c pre x post hsplit t ht
    have hinputs : slotInputs c evs = slotInputs c pre ++ .sample x.buttons :: slotInputs c post := by
      rw [hsplit, slotInputs_append, slotInputs_poll]
    rw [hpoll c pre x post hsplit t ht]
    exact (shows_samples_iff _).mpr (h c) _ _ _ hinputs

def buttonSample (w : Word) : Sample where
  gyroscope := (0, 0, 0)
  gyroscopeFrame := (0, 0, 0)
  buttons := w
  gyroClock := fun _ => ⟨1, 1⟩
  buttonsClock := fun _ => ⟨1, 1⟩
  tp := ⟨1, 1⟩

/-- A controller is lost with the word `w` and comes back with the word `w'`. -/
def reconnect (w w' : Word) : List ListenerEvent :=
  [.connect true, .poll .first (buttonSample w), .exit .first, .disconnectComplete,
   .connect true, .poll .first (buttonSample w')]

def defaultTimeouts : Timeouts where
  pollTimeout := 20
  gestureTimeout := 600

def plainParams : Params where
  keymap1 := [⟨0x40#32, 45⟩]
  keymap2 := []
  cx := 1
  cy := 1
  moveThreshold := 0
  gestureThreshold := 100

theorem listener_handler_agree_reconnect :
    (∀ c pre x post, reconnect 0x40#32 0#32 = pre ++ .poll c x :: post → ∀ t,
      System.run plainParams defaultTimeouts .init (pre ++ [.poll c x]) = some t →
        t.handler.physical c = x.buttons) ↔
    ∀ c, ¬Stale 0#32 (slotInputs c (reconnect 0x40#32 0#32)) :=
  listener_handler_agree_iff plainParams defaultTimeouts (reconnect 0x40#32 0#32) (by decide)
    ((System.run plainParams defaultTimeouts .init (reconnect 0x40#32 0#32)).get
      (by decide +kernel))
    (Option.some_get _).symm

/-- The button is still held when the controller comes back: the handler is not told. -/
theorem reconnect_held_unreported :
    ¬∀ c pre x post, reconnect 0x40#32 0x40#32 = pre ++ .poll c x :: post → ∀ t,
      System.run plainParams defaultTimeouts .init (pre ++ [.poll c x]) = some t →
        t.handler.physical c = x.buttons := by
  intro h
  have hlast := h .first ((reconnect 0x40#32 0x40#32).take 5) (buttonSample 0x40#32) [] rfl
    ((System.run plainParams defaultTimeouts .init (reconnect 0x40#32 0x40#32)).get
      (by decide +kernel))
    (Option.some_get _).symm
  exact absurd hlast (by decide +kernel)

end PSMoveInput

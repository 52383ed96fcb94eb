import PSMoveInput.DeviceRefinement

/-! Which keys the reader of the device holds for pressed. The two threads may mix their events;
the events of each of them keep their order. -/
namespace PSMoveInput

open Transducer EdgeTrace

/-! ### The events of a thread -/

/-- The writes of a run, with their threads. -/
def writesOf (es : List DeviceAction) : List Write :=
  es.filterMap fun
    | .raised _ _ => none
    | .wrote w => some w

/-- The events that a thread has written. -/
def threadEvents (c : ControllerId) (es : List DeviceAction) : List InputEvent :=
  ((writesOf es).filter fun w => w.thread = c).map Write.event

/-- What `EV_KEY` reports of a key: pressed or released. -/
def InputEvent.keyValue (code : ℤ) (e : InputEvent) : Option Bool :=
  if e.type = .evKey ∧ e.code = code then some (e.value = 1) else none

def eventKeys (code : ℤ) (events : List InputEvent) : List Bool :=
  events.filterMap (InputEvent.keyValue code)

/-- The reader has seen the key go down and not up again. -/
def readDown (code : ℤ) (events : List InputEvent) : Bool := level false (eventKeys code events)

theorem writesOf_append (es fs : List DeviceAction) :
    writesOf (es ++ fs) = writesOf es ++ writesOf fs := List.filterMap_append

theorem writtenEvents_writesOf (es : List DeviceAction) :
    writtenEvents es = (writesOf es).map Write.event := by
  rw [writesOf, List.map_filterMap, writtenEvents]
  apply List.filterMap_congr
  intro e _
  cases e <;> rfl

theorem threadEvents_append (c : ControllerId) (es fs : List DeviceAction) :
    threadEvents c (es ++ fs) = threadEvents c es ++ threadEvents c fs := by
  simp only [threadEvents, writesOf_append, List.filter_append, List.map_append]

/-- The signals of a step are no writes. -/
theorem writesOf_observe (P : Params) (s : DeviceState) (c : ControllerId) :
    writesOf (s.observe P c).2 = (s.step P c).2 := by
  simp [DeviceState.observe, writesOf, List.filterMap_map]

/-- What a thread has raised is written, left of the current report, or waits. -/
structure Flowing (s : DeviceState) (es : List DeviceAction) : Prop where
  orderly : s.Orderly
  events : ∀ c, (raisedReports c es).flatMap DeviceReport.events =
    threadEvents c es ++ ((s.threads c).left.map Write.event ++
      (s.threads c).queue.flatMap DeviceReport.events)

theorem flowing_start (programs : ControllerId → List DeviceCall) :
    Flowing (.start programs) [] where
  orderly := orderly_start programs
  events _ := rfl

/-- The writes of a step are those of its thread. -/
theorem step_writes (P : Params) (s : DeviceState) (h : s.Orderly) (c i : ControllerId) :
    (s.step P c).2.filter (fun w => w.thread = i) = if i = c then (s.step P c).2 else [] := by
  have hall : ∀ w ∈ (s.step P c).2, w.thread = c := by
    cases hleft : (s.threads c).left with
    | nil =>
      intro w hw
      rw [(step_silent P s c hleft).1] at hw
      exact absurd hw List.not_mem_nil
    | cons v left =>
      intro w hw
      simp only [DeviceState.step, hleft, List.mem_singleton] at hw
      subst hw
      exact h.left_thread hleft
  by_cases hi : i = c
  · rw [if_pos hi, List.filter_eq_self]
    intro w hw
    rw [hi]
    exact decide_eq_true (hall w hw)
  · rw [if_neg hi, List.filter_eq_nil_iff]
    intro w hw hthread
    exact hi ((of_decide_eq_true hthread).symm.trans (hall w hw))

/-- A step of a thread moves its events on. -/
theorem step_moves (P : Params) (s : DeviceState) (c : ControllerId) :
    ((s.threads c).left.map Write.event ++ (s.threads c).queue.flatMap DeviceReport.events) ++
        (s.raised P c).flatMap DeviceReport.events =
      (s.step P c).2.map Write.event ++ (((s.step P c).1.threads c).left.map Write.event ++
        ((s.step P c).1.threads c).queue.flatMap DeviceReport.events) := by
  cases hleft : (s.threads c).left with
  | cons w left =>
    have hraised : s.raised P c = [] := by
      apply if_neg
      rw [hleft]
      exact fun hnil => List.cons_ne_nil _ _ hnil.1
    rw [hraised]
    simp only [DeviceState.step, hleft, DeviceState.write, DeviceState.setThread,
      Function.update_self]
    simp
  | nil =>
    cases hqueue : (s.threads c).queue with
    | cons report queue =>
      -- the report moves from the queue to the events that are left
      have hraised : s.raised P c = [] := by
        apply if_neg
        rw [hqueue]
        exact fun hnil => List.cons_ne_nil _ _ hnil.2
      rw [hraised]
      simp only [DeviceState.step, hleft, hqueue, DeviceState.callSlot, DeviceState.setThread,
        Function.update_self, reportWrites_events]
      simp
    | nil =>
      have hnext := step_idle P s hleft hqueue
      rw [(step_silent P s c hleft).1, hnext, DeviceState.raised, if_pos ⟨hleft, hqueue⟩]
      rfl

theorem step_flowing (P : Params) (s : DeviceState) (es : List DeviceAction) (c : ControllerId)
    (h : Flowing s es) : Flowing (s.observe P c).1 (es ++ (s.observe P c).2) := by
  constructor
  · exact step_orderly P s h.orderly c
  · intro i
    have hwrites : threadEvents i (s.observe P c).2 =
        (if i = c then (s.step P c).2 else []).map Write.event := by
      rw [threadEvents, writesOf_observe, step_writes P s h.orderly]
    rw [raisedReports_append, raisedReports_observe, threadEvents_append, hwrites,
      List.flatMap_append, h.events i]
    by_cases hi : i = c
    · subst hi
      have hmoves := step_moves P s i
      rw [if_pos rfl, if_pos rfl, List.append_assoc, hmoves, List.append_assoc]
      rfl
    · rw [if_neg hi, if_neg hi]
      simp only [DeviceState.observe, step_threads_other P s hi]
      simp

/-! ### Keys -/

theorem eventKeys_events (code : ℤ) (report : DeviceReport) :
    eventKeys code report.events =
      match report with
      | .key lincode pressed => if lincode = code then [pressed] else []
      | _ => [] := by
  cases report with
  | move dx dy =>
    simp only [DeviceReport.events, InputDevice.reportMove, InputDevice.reportSyn]
    split_ifs <;> simp [eventKeys, InputEvent.keyValue]
  | key lincode pressed =>
    by_cases hcode : lincode = code
    · cases pressed <;>
        simp [DeviceReport.events, InputDevice.reportKey, InputDevice.reportSyn, eventKeys,
          InputEvent.keyValue, hcode]
    · simp [DeviceReport.events, InputDevice.reportKey, InputDevice.reportSyn, eventKeys,
        InputEvent.keyValue, hcode]
  | mwheel value =>
    simp [DeviceReport.events, InputDevice.reportMWheel, InputDevice.reportSyn, eventKeys,
      InputEvent.keyValue]

/-- The key events of the reports are the key signals of the handler. -/
theorem eventKeys_reports (code : ℤ) (es : List Event) :
    eventKeys code ((deviceReports es).flatMap DeviceReport.events) = codeKeys code es := by
  induction es with
  | nil => rfl
  | cons e es ih =>
    have hsplit : deviceReports (e :: es) = deviceReports [e] ++ deviceReports es :=
      deviceReports_append [e] es
    have hkeys : codeKeys code (e :: es) = codeKeys code [e] ++ codeKeys code es :=
      codeKeys_append code [e] es
    have hhead : eventKeys code ((deviceReports [e]).flatMap DeviceReport.events) =
        codeKeys code [e] := by
      cases e with
      | report c before after => rfl
      | signal cause sig =>
        cases sig with
        | key lincode pressed =>
          have hone : (deviceReports [Event.signal cause (.key lincode pressed)]).flatMap
              DeviceReport.events = (DeviceReport.key lincode pressed).events :=
            List.append_nil _
          rw [hone, eventKeys_events]
          by_cases hcode : lincode = code <;> simp [codeKeys, codeKey, hcode]
        | move dx dy =>
          have hone : (deviceReports [Event.signal cause (.move dx dy)]).flatMap
              DeviceReport.events = (DeviceReport.move dx dy).events := List.append_nil _
          rw [hone, eventKeys_events]
          rfl
        | mwheel value => rfl
        | disconnect c => rfl
    rw [hsplit, hkeys, List.flatMap_append, eventKeys, List.filterMap_append]
    exact congrArg₂ (· ++ ·) hhead ih

/-- The calls of one controller leave the word of the other one as it was. -/
theorem runCalls_other (P : Params) {c : ControllerId} {calls : List DeviceCall}
    (hcalls : ∀ call ∈ calls, call.Belongs c) :
    (runCalls P .init (calls.map DeviceCall.call)).1.buttons c.other = 0#32 := by
  have hinv : (runCalls P .init (calls.map DeviceCall.call)).1.releaseGestureKeys = false ∧
      (runCalls P .init (calls.map DeviceCall.call)).1.forget c = .init := by
    apply run_invariant (step P)
      (fun s => s.releaseGestureKeys = false ∧ s.forget c = .init)
    · rintro s call hcall ⟨hidle, hforget⟩
      obtain ⟨made, hmem, rfl⟩ := List.mem_map.mp hcall
      have hbelongs := hcalls made hmem
      refine ⟨step_release P made.call s hidle, ?_⟩
      rw [← hforget]
      cases c with
      | first =>
        apply step_drop_second P made.call _ s hidle
        cases made with
        | onGyroscope clock gx gy => rfl
        | request r =>
          cases r with
          | onButtons clock buttons controller =>
            obtain rfl : controller = .first := hbelongs
            rfl
          | onGesture clock gx gy => cases hbelongs
      | second =>
        apply step_drop_first P made.call
        cases made with
        | onGyroscope clock gx gy => cases hbelongs
        | request r =>
          cases r with
          | onButtons clock buttons controller =>
            obtain rfl : controller = .second := hbelongs
            rfl
          | onGesture clock gx gy => rfl
    · exact ⟨rfl, forget_init c⟩
  have hword := forget_buttons (runCalls P .init (calls.map DeviceCall.call)).1 c.other
  rw [ControllerId.other_other, hinv.2] at hword
  exact hword.symm

/-- The word that a controller's calls leave, made alone. -/
def heldWord (P : Params) (c : ControllerId) (calls : List DeviceCall) : Word :=
  (runCalls P .init (calls.map DeviceCall.call)).1.buttons c

theorem calls_trace (P : Params) (calls : List DeviceCall) :
    ReportTrace P (fun _ => 0#32) (runCalls P .init (calls.map DeviceCall.call)).2
      (runCalls P .init (calls.map DeviceCall.call)).1.buttons := by
  apply runCalls_trace P _ _ .init
  intro call hcall
  obtain ⟨made, -, rfl⟩ := List.mem_map.mp hcall
  cases made with
  | onGyroscope clock gx gy => rfl
  | request r => cases r <;> rfl

/-- A key that the calls of one controller leave down is held by it. -/
theorem sequential_down (P : Params) (hscan : ∀ c, Scanned (P.keymap c)) {c : ControllerId}
    {calls : List DeviceCall} (hcalls : ∀ call ∈ calls, call.Belongs c) {code : ℤ}
    (hkey : code ≤ keyMax)
    (hdown : keyDown code (runCalls P .init (calls.map DeviceCall.call)).2 = true) :
    HeldBy (P.keymap c) code (heldWord P c calls) := by
  have hnone (h : false = true) : CodeHeld P code fun _ => 0#32 := Bool.noConfusion h
  obtain ⟨i, hheld⟩ := (calls_trace P calls).down_held hscan hkey false hnone hdown
  by_cases hi : i = c
  · subst hi
    exact hheld
  · -- the other controller holds nothing
    obtain rfl : i = c.other := ControllerId.eq_other hi
    rw [runCalls_other P hcalls] at hheld
    obtain ⟨e, -, -, hset⟩ := hheld
    rw [holds_zero] at hset
    cases hset

/-! ### Keys of one controller -/

theorem KeysFrom.append {keymap : KeyMap} {es fs : List Event} (hes : KeysFrom keymap es)
    (hfs : KeysFrom keymap fs) : KeysFrom keymap (es ++ fs) := by
  intro key hkey
  rw [keySignals, List.filterMap_append] at hkey
  rcases List.mem_append.mp hkey with hkey | hkey
  · exact hes key hkey
  · exact hfs key hkey

theorem keysFrom_nil (keymap : KeyMap) : KeysFrom keymap [] :=
  fun _ hkey => absurd hkey List.not_mem_nil

theorem reportOut_keysFrom (P : Params) (buttons : Word) (c : ControllerId) (s : HandlerState) :
    KeysFrom (P.keymap c) (reportOut P buttons c s) := by
  rw [reportOut, reportButtons_events]
  intro key hkey
  obtain ⟨ev, hev, hsig⟩ := List.mem_filterMap.mp hkey
  rcases List.mem_cons.mp hev with rfl | hev
  · cases hsig
  obtain ⟨e, index, he, -, -, sig, hmem, rfl⟩ := mem_transitionEvents.mp hev
  have hentry := List.mem_of_getElem? he
  unfold entrySignals at hmem
  -- every branch but the last has no key signal
  split_ifs at hmem with hdisconnect
  all_goals simp only [List.mem_singleton, List.not_mem_nil] at hmem
  all_goals subst hmem
  all_goals cases hsig
  exact ⟨hdisconnect, e, hentry, rfl⟩

theorem keysFrom_rule (P : Params) : CallRule P fun _ es _ => KeysFrom P.keymap2 es where
  trans h1 h2 := h1.append h2
  clear _ := keysFrom_nil _
  time _ _ := keysFrom_nil _
  gesture s tp gx gy _ := reportOut_keysFrom P (gestureReport P tp gx gy s) .second s

/-- The calls of a controller signal keys of its own key map. -/
theorem calls_keysFrom (P : Params) {c : ControllerId} {calls : List DeviceCall}
    (hcalls : ∀ call ∈ calls, call.Belongs c) :
    KeysFrom (P.keymap c) (runCalls P .init (calls.map DeviceCall.call)).2 := by
  refine run_trace (step P) (fun s => s.releaseGestureKeys = false)
    (fun _ es _ => KeysFrom (P.keymap c) es) (fun _ => keysFrom_nil _)
    (fun _ _ _ _ _ => KeysFrom.append) _ ?_ ?_ .init rfl
  · intro s call _ hidle
    exact step_release P call s hidle
  · intro s call hcall hidle
    obtain ⟨made, hmem, rfl⟩ := List.mem_map.mp hcall
    have hbelongs := hcalls made hmem
    cases made with
    | onGyroscope clock gx gy =>
      simp only [DeviceCall.call, step, onGyroscope]
      -- movements are no keys
      split_ifs
      all_goals exact keysFrom_nil _
    | request r =>
      cases r with
      | onButtons clock buttons controller =>
        obtain rfl : controller = c := hbelongs
        simp only [DeviceCall.call, Request.call, step]
        cases controller with
        | first =>
          rw [onButtons_first P clock buttons s hidle]
          exact reportOut_keysFrom P buttons .first s
        | second =>
          have hreport := reportOut_keysFrom P buttons .second s
          exact (keysFrom_rule P).onButtons clock hreport
      | onGesture clock gx gy =>
        obtain rfl : c = .second := hbelongs
        exact (keysFrom_rule P).onGesture clock gx gy s

/-- A code of the other key map is not signalled. -/
theorem sequential_silent (P : Params) {code : ℤ} (huniq : UniqueCode P code)
    {c i : ControllerId} (hi : i ≠ c) {e : KeyMapEntry} (he : e ∈ P.keymap c)
    (hcode : e.lincode = code) {calls : List DeviceCall}
    (hcalls : ∀ call ∈ calls, call.Belongs i) :
    codeKeys code (runCalls P .init (calls.map DeviceCall.call)).2 = [] := by
  rw [codeKeys, List.filterMap_eq_nil_iff]
  intro ev hev
  by_contra hsome
  obtain ⟨value, hvalue⟩ := Option.ne_none_iff_exists'.mp hsome
  cases ev with
  | report controller before after => cases hvalue
  | signal cause sig =>
    cases sig with
    | key lincode pressed =>
      have hkey : (lincode, pressed) ∈
          keySignals (runCalls P .init (calls.map DeviceCall.call)).2 :=
        List.mem_filterMap.mpr ⟨_, hev, rfl⟩
      obtain ⟨-, e', he', hcode'⟩ := calls_keysFrom P hcalls _ hkey
      simp only [codeKey] at hvalue
      split_ifs at hvalue with hlincode
      obtain ⟨j, hj⟩ := List.mem_iff_getElem?.mp he
      obtain ⟨j', hj'⟩ := List.mem_iff_getElem?.mp he'
      have hsame := huniq c i j j' e e' hj hj' hcode (hcode'.trans hlincode)
      exact hi (congrArg Prod.fst hsame).symm
    | _ => cases hvalue

/-! ### The reader -/

/-- What a finished thread has written are its sequential reports. -/
theorem Flowing.finished {P : Params} {programs : ControllerId → List DeviceCall}
    {s : DeviceState} {es : List DeviceAction} (h : Flowing s es)
    (hseq : Sequential P programs s es) {c : ControllerId}
    (hfinished : (s.threads c).finished = true) :
    threadEvents c es = (sequentialReports P (programs c)).flatMap DeviceReport.events := by
  obtain ⟨-, hrest⟩ := rest_finished P (s.handler.forget c.other) (hseq.belongs c) hfinished
  have hreports := hseq.reports c
  have hevents := h.events c
  simp only [DeviceThread.finished, Bool.and_eq_true, List.isEmpty_iff] at hfinished
  obtain ⟨⟨-, hqueue⟩, hleft⟩ := hfinished
  rw [hrest] at hreports
  rw [hqueue, hleft] at hevents
  have hall : sequentialReports P (programs c) = raisedReports c es :=
    hreports.trans (List.append_nil _)
  rw [hall, hevents]
  simp

theorem threadEvents_keys (c : ControllerId) (code : ℤ) (es : List DeviceAction) :
    ((writesOf es).filter fun w => w.thread = c).filterMap (fun w => w.event.keyValue code) =
      eventKeys code (threadEvents c es) := by
  rw [threadEvents, eventKeys, List.filterMap_map]
  rfl

/-- A run without a taken release, as the reader and the sequential model see it. -/
theorem run_flowing (P : Params) (programs : ControllerId → List DeviceCall)
    (hprograms : ∀ c, ∀ call ∈ programs c, call.Belongs c) (schedule : List ControllerId)
    (hclean : Along (DeviceState.observe P) DeviceState.Clean (.start programs) schedule) :
    let r := run (DeviceState.observe P) (.start programs) schedule
    Flowing r.1 r.2 ∧ Sequential P programs r.1 r.2 := by
  intro r
  obtain ⟨hflow, hseq⟩ : Flowing r.1 ([] ++ r.2) ∧ Sequential P programs r.1 ([] ++ r.2) :=
    run_history (DeviceState.observe P) DeviceState.Clean
      (fun s es => Flowing s es ∧ Sequential P programs s es)
      (fun s es c hok h => ⟨step_flowing P s es c h.1, step_sequential P programs s es c hok h.2⟩)
      schedule (.start programs) [] ⟨flowing_start programs, sequential_start P programs hprograms⟩
      hclean
  rw [List.nil_append] at hflow hseq
  exact ⟨hflow, hseq⟩

section

variable {P : Params} {programs : ControllerId → List DeviceCall} {s : DeviceState}
variable {es : List DeviceAction}

/-- The key events of a finished thread are the key signals of its calls. -/
theorem Flowing.keys (h : Flowing s es) (hseq : Sequential P programs s es) {c : ControllerId}
    (hfinished : (s.threads c).finished = true) (code : ℤ) :
    ((writesOf es).filter fun w => w.thread = c).filterMap (fun w => w.event.keyValue code) =
      codeKeys code (runCalls P .init ((programs c).map DeviceCall.call)).2 := by
  rw [threadEvents_keys, h.finished hseq hfinished, sequentialReports, eventKeys_reports]

theorem readDown_writes (code : ℤ) (es : List DeviceAction) :
    readDown code (writtenEvents es) =
      level false ((writesOf es).filterMap fun w => w.event.keyValue code) := by
  rw [readDown, eventKeys, writtenEvents_writesOf, List.filterMap_map]
  rfl

/-- A key that the reader holds for pressed is held by the thread that has pressed it last. -/
theorem Flowing.down_held (h : Flowing s es) (hseq : Sequential P programs s es)
    (hprograms : ∀ c, ∀ call ∈ programs c, call.Belongs c)
    (hfinished : ∀ c, (s.threads c).finished = true) (hscan : ∀ c, Scanned (P.keymap c)) {code : ℤ}
    (hkey : code ≤ keyMax) (hdown : readDown code (writtenEvents es) = true) :
    ∃ c, HeldBy (P.keymap c) code (heldWord P c (programs c)) := by
  rw [readDown_writes] at hdown
  obtain ⟨c, hc⟩ := level_part _ Write.thread _ hdown
  rw [h.keys hseq (hfinished c)] at hc
  exact ⟨c, sequential_down P hscan (hprograms c) hkey hc⟩

/-- The reader holds a key of a single entry for pressed while its button is held. -/
theorem Flowing.held_down (h : Flowing s es) (hseq : Sequential P programs s es)
    (hprograms : ∀ c, ∀ call ∈ programs c, call.Belongs c)
    (hfinished : ∀ c, (s.threads c).finished = true) (hscan : ∀ c, Scanned (P.keymap c)) {code : ℤ}
    (hkey : code ≤ keyMax) (huniq : UniqueCode P code)
    (hheld : ∃ c, HeldBy (P.keymap c) code (heldWord P c (programs c))) :
    readDown code (writtenEvents es) = true := by
  obtain ⟨c, e, he, hcode, hset⟩ := hheld
  -- only this thread writes events of the key
  have hmine : ((writesOf es).filter fun w => w.thread = c).filterMap
      (fun w => w.event.keyValue code) =
        (writesOf es).filterMap fun w => w.event.keyValue code := by
    apply filterMap_part
    intro w hw hthread
    have hsilent := sequential_silent P huniq hthread he hcode (hprograms w.thread)
    rw [← h.keys hseq (hfinished w.thread), List.filterMap_eq_nil_iff] at hsilent
    apply hsilent
    simpa using hw
  rw [readDown_writes, ← hmine, h.keys hseq (hfinished c)]
  exact (calls_trace P (programs c)).unique_down hscan hkey huniq (fun _ => rfl)
    ⟨c, e, he, hcode, hset⟩

end

/-- When both threads have finished, every key that the reader has seen go down and not up again
is one that a controller still holds, whatever the order of the events. A key of a single entry
is down exactly while its button is held. -/
theorem reader_key_held (B : PSMoveButtons) (P : Params)
    (haccept : ConfigAccepts B P.keymap1 P.keymap2) (programs : ControllerId → List DeviceCall)
    (hprograms : ∀ c, ∀ call ∈ programs c, call.Belongs c) (schedule : List ControllerId)
    (hclean : Along (DeviceState.observe P) DeviceState.Clean (.start programs) schedule)
    (hfinished : ∀ c, ((run (DeviceState.observe P) (.start programs) schedule).1.threads
      c).finished = true) (code : ℤ) (hkey : code ≤ keyMax) :
    let down := readDown code
      (writtenEvents (run (DeviceState.observe P) (.start programs) schedule).2)
    (down = true → ∃ c, HeldBy (P.keymap c) code (heldWord P c (programs c))) ∧
      (UniqueCode P code →
        (down = true ↔ ∃ c, HeldBy (P.keymap c) code (heldWord P c (programs c)))) := by
  intro down
  obtain ⟨hflow, hseq⟩ := run_flowing P programs hprograms schedule hclean
  have hsound := hflow.down_held hseq hprograms hfinished haccept.scanned hkey
  refine ⟨hsound, fun huniq => ⟨hsound, ?_⟩⟩
  exact hflow.held_down hseq hprograms hfinished haccept.scanned hkey huniq

/-- One button of each controller mapped to the same key. -/
def pairOpts (name : String) : Option String :=
  if name = "PSBTN_CIRCLE" ∨ name = "PSBTN_1_CROSS" then some "KEY_X" else none

def pairParams : Params :=
  { sharedParams with keymap1 := [⟨0x20#32, 45⟩], keymap2 := [⟨0x40#32, 45⟩] }

theorem pairParams_accepted : ConfigAccepts psmoveButtons pairParams.keymap1 pairParams.keymap2 :=
  ⟨pairOpts, by decide +kernel⟩

/-- Both press their button, and the first one releases it. -/
def pairPrograms : ControllerId → List DeviceCall
  | .first => [
      .request (.onButtons (fun _ => ⟨1, 1⟩) 0x20#32 .first),
      .request (.onButtons (fun _ => ⟨1, 2⟩) 0#32 .first)]
  | .second => [.request (.onButtons (fun _ => ⟨1, 1⟩) 0x40#32 .second)]

/-- The threads take turns. -/
def alternation : List ControllerId :=
  List.replicate 70 .first ++ (List.replicate 100 [ControllerId.second, .first]).flatten

theorem reader_key_held_pair :
    let down := readDown 45
      (writtenEvents (run (DeviceState.observe pairParams) (.start pairPrograms) alternation).2)
    down = true ∧
      ∃ c, HeldBy (pairParams.keymap c) 45 (heldWord pairParams c (pairPrograms c)) := by
  have hprograms : ∀ c, ∀ call ∈ pairPrograms c, call.Belongs c := by
    intro c
    cases c <;> simp [pairPrograms, DeviceCall.Belongs, Request.Belongs]
  have hfinished : ∀ c, ((run (DeviceState.observe pairParams) (.start pairPrograms)
      alternation).1.threads c).finished = true := by
    intro c
    cases c <;> decide +kernel
  have hheld := (reader_key_held psmoveButtons pairParams pairParams_accepted pairPrograms
    hprograms alternation (by decide +kernel) hfinished 45 (by decide)).1
  have hdown : readDown 45 (writtenEvents (run (DeviceState.observe pairParams)
      (.start pairPrograms) alternation).2) = true := by decide +kernel
  exact ⟨hdown, hheld hdown⟩

end PSMoveInput

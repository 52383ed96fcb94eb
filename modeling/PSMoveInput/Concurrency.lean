import PSMoveInput.HandlerThreads
import PSMoveInput.Independence
import PSMoveInput.KeyLevels

/-! The two controller threads on one handler, interleaved statement by statement. Their key
signals do not interfere as long as the first thread does not take over a release that the
second one has deferred. -/
namespace PSMoveInput

open Transducer

/-! ### The threads of the controllers -/

/-- The requests that the thread of a controller makes. -/
def Request.Belongs (c : ControllerId) : Request → Prop
  | .onButtons _ _ controller => controller = c
  | .onGesture _ _ _ => c = .second

/-- The statements that the thread of a controller reaches: the second thread makes the gesture
calls, and a deferred release is its own. -/
def Pc.Belongs (c : ControllerId) : Pc → Prop
  | .ret => True
  | .compare _ controller => controller = c
  | .readPressed _ controller => controller = c
  | .readReleased _ controller _ => controller = c
  | .scan _ controller _ _ _ => controller = c
  | .store _ controller => controller = c
  | .testRelease => True
  | _ => c = .second

structure ThreadState.Belongs (c : ControllerId) (t : ThreadState) : Prop where
  pc : t.pc.Belongs c
  pending : c = .first → t.pending = []
  program : ∀ r ∈ t.program, r.Belongs c

/-- The first thread is about to find a release that the second one has deferred. -/
def TakesRelease (s : HandlerState) (c : ControllerId) (t : ThreadState) : Prop :=
  c = .first ∧ t.pc = .testRelease ∧ s.releaseGestureKeys = true

instance (s : HandlerState) (c : ControllerId) (t : ThreadState) :
    Decidable (TakesRelease s c t) :=
  inferInstanceAs (Decidable (_ ∧ _))

theorem ThreadState.Belongs.goto {c : ControllerId} {t : ThreadState} (h : t.Belongs c) {pc : Pc}
    (hpc : pc.Belongs c) : (t.goto pc).Belongs c :=
  ⟨hpc, h.pending, h.program⟩

theorem ThreadState.Belongs.resume {c : ControllerId} {t : ThreadState} (h : t.Belongs c) :
    t.resume.Belongs c := by
  obtain ⟨pc, clock, pending, program⟩ := t
  cases pending with
  | cons gestureTp pending =>
    -- only the second thread has enclosing gesture calls
    have hc : c = .second := by
      cases c
      · exact absurd (h.pending rfl) (List.cons_ne_nil _ _)
      · rfl
    subst hc
    exact ⟨rfl, fun hc => (by cases hc), h.program⟩
  | nil =>
    cases program with
    | nil => exact h
    | cons request program =>
      have hrequest := h.program request List.mem_cons_self
      have hrest : ∀ r ∈ program, r.Belongs c :=
        fun r hr => h.program r (List.mem_cons_of_mem request hr)
      cases request with
      | onButtons clock buttons controller => exact ⟨hrequest, fun _ => rfl, hrest⟩
      | onGesture clock gx gy => exact ⟨hrequest, fun _ => rfl, hrest⟩

theorem threadStep_belongs (P : Params) (c : ControllerId) (s : HandlerState) (t : ThreadState)
    (h : t.Belongs c) (hclean : ¬TakesRelease s c t) : (threadStep P s t).2.1.Belongs c := by
  obtain ⟨pc, clock, pending, program⟩ := t
  have hpc := h.pc
  cases pc with
  | ret => exact h.resume
  | compare buttons controller =>
    apply h.goto
    split_ifs
    · exact hpc
    · trivial
  | readPressed buttons controller => exact h.goto hpc
  | readReleased buttons controller pressed => exact h.goto hpc
  | scan buttons controller pressed released bits =>
    cases bits with
    | nil => exact h.goto hpc
    | cons i bits => exact h.goto hpc
  | store buttons controller => exact h.goto trivial
  | testRelease =>
    apply h.goto
    split_ifs with hrel
    · -- only the second thread goes on to clear the flag
      cases c
      · exact absurd ⟨rfl, rfl, hrel⟩ hclean
      · rfl
    · trivial
  | clearRelease => exact ⟨hpc, h.pending, h.program⟩
  | testSec gestureTp gx gy =>
    apply h.goto
    split_ifs <;> exact hpc
  | testNsec gestureTp gx gy =>
    apply h.goto
    split_ifs <;> exact hpc
  | testTrigger gestureTp gx gy =>
    apply h.goto
    split_ifs <;> exact hpc
  | readNsec gestureTp gx gy => exact h.goto hpc
  | readButtons gestureTp gestureButtons =>
    obtain rfl : c = .second := hpc
    exact ⟨rfl, fun hc => (by cases hc), h.program⟩
  | writeSec gestureTp => exact h.goto hpc
  | writeNsec gestureTp => exact h.goto trivial

/-! ### Steps next to the other thread -/

/-- A thread does not see the fields of the other controller. -/
theorem threadStep_forget (P : Params) (c : ControllerId) (s : HandlerState) (t : ThreadState)
    (h : t.Belongs c) (hclean : ¬TakesRelease s c t) :
    threadStep P (s.forget c.other) t =
      ((threadStep P s t).1.forget c.other, (threadStep P s t).2) := by
  obtain ⟨pc, clock, pending, program⟩ := t
  have hpc := h.pc
  cases pc with
  | ret => rfl
  | compare buttons controller =>
    obtain rfl : controller = c := hpc
    simp only [threadStep, forget_buttons]
  | readPressed buttons controller =>
    obtain rfl : controller = c := hpc
    simp only [threadStep, forget_buttons]
  | readReleased buttons controller pressed =>
    obtain rfl : controller = c := hpc
    simp only [threadStep, forget_buttons]
  | scan buttons controller pressed released bits =>
    obtain rfl : controller = c := hpc
    cases bits with
    | nil => rfl
    | cons i bits => simp only [threadStep, scanStep_forget]
  | store buttons controller =>
    obtain rfl : controller = c := hpc
    simp only [threadStep, setButtons_forget]
  | testRelease =>
    -- the flag belongs to the second thread, and the first one finds it off
    cases c with
    | first =>
      have hoff : s.releaseGestureKeys = false :=
        eq_false_of_ne_true fun hrel => hclean ⟨rfl, rfl, hrel⟩
      simp only [threadStep, hoff]
      rfl
    | second => rfl
  | clearRelease =>
    obtain rfl : c = .second := hpc
    rfl
  | testSec gestureTp gx gy =>
    obtain rfl : c = .second := hpc
    rfl
  | testNsec gestureTp gx gy =>
    obtain rfl : c = .second := hpc
    rfl
  | testTrigger gestureTp gx gy =>
    obtain rfl : c = .second := hpc
    rfl
  | readNsec gestureTp gx gy =>
    obtain rfl : c = .second := hpc
    rfl
  | readButtons gestureTp gestureButtons =>
    obtain rfl : c = .second := hpc
    simp only [threadStep, forget_buttons]
  | writeSec gestureTp =>
    obtain rfl : c = .second := hpc
    rfl
  | writeNsec gestureTp =>
    obtain rfl : c = .second := hpc
    rfl

/-- A thread leaves the fields of the other controller alone. -/
theorem threadStep_frame (P : Params) (c : ControllerId) (s : HandlerState) (t : ThreadState)
    (h : t.Belongs c) : (threadStep P s t).1.forget c = s.forget c := by
  obtain ⟨pc, clock, pending, program⟩ := t
  have hpc := h.pc
  cases pc with
  | scan buttons controller pressed released bits =>
    obtain rfl : controller = c := hpc
    cases bits with
    | nil => rfl
    | cons i bits => exact scanStep_frame P controller pressed released s i
  | store buttons controller =>
    obtain rfl : controller = c := hpc
    exact setButtons_frame controller buttons s
  | clearRelease =>
    obtain rfl : c = .second := hpc
    rfl
  | writeSec gestureTp =>
    obtain rfl : c = .second := hpc
    rfl
  | writeNsec gestureTp =>
    obtain rfl : c = .second := hpc
    rfl
  | _ => rfl

/-! ### Interleavings -/

structure Threads where
  handler : HandlerState
  thread : ControllerId → ThreadState

def Threads.start (programs : ControllerId → List Request) : Threads where
  handler := .init
  thread := fun c => .start (programs c)

/-- The scheduled thread makes a step. -/
def Threads.step (P : Params) (m : Threads) (c : ControllerId) : Threads × List Event :=
  let r := threadStep P m.handler (m.thread c)
  ({ handler := r.1, thread := Function.update m.thread c r.2.1 }, r.2.2)

/-- No step takes over a deferred release of the other thread. -/
def Threads.Clean (m : Threads) (c : ControllerId) : Prop :=
  ¬TakesRelease m.handler c (m.thread c)

instance (m : Threads) (c : ControllerId) : Decidable (m.Clean c) :=
  inferInstanceAs (Decidable (¬_))

/-- The run `a` of one thread alone follows its part of the run `m`. -/
structure Follows (c : ControllerId) (m a : Threads) : Prop where
  belongs : ∀ c, (m.thread c).Belongs c
  handler : a.handler = m.handler.forget c.other
  thread : a.thread c = m.thread c

theorem step_belongs (P : Params) (m : Threads) (i : ControllerId) (hclean : m.Clean i)
    (h : ∀ c, (m.thread c).Belongs c) (c : ControllerId) :
    ((m.step P i).1.thread c).Belongs c := by
  rw [Threads.step]
  dsimp only
  by_cases hc : c = i
  · subst hc
    rw [Function.update_self]
    exact threadStep_belongs P c m.handler (m.thread c) (h c) hclean
  · rw [Function.update_of_ne hc]
    exact h c

theorem Follows.own {P : Params} {c : ControllerId} {m a : Threads} (h : Follows c m a)
    (hclean : m.Clean c) :
    (m.step P c).2 = (a.step P c).2 ∧ Follows c (m.step P c).1 (a.step P c).1 := by
  have hstep := threadStep_forget P c m.handler (m.thread c) (h.belongs c) hclean
  have halone : threadStep P a.handler (a.thread c) =
      ((threadStep P m.handler (m.thread c)).1.forget c.other,
        (threadStep P m.handler (m.thread c)).2) := by
    rw [h.handler, h.thread, hstep]
  constructor
  · simp only [Threads.step, halone]
  · refine ⟨step_belongs P m c hclean h.belongs, ?_, ?_⟩
    · simp only [Threads.step, halone]
    · simp only [Threads.step, halone, Function.update_self]

theorem Follows.other {P : Params} {c i : ControllerId} {m a : Threads} (h : Follows c m a)
    (hi : i ≠ c) (hclean : m.Clean i) : Follows c (m.step P i).1 a := by
  obtain rfl : i = c.other := ControllerId.eq_other hi
  refine ⟨step_belongs P m c.other hclean h.belongs, ?_, ?_⟩
  · rw [h.handler]
    exact (threadStep_frame P c.other m.handler (m.thread c.other) (h.belongs c.other)).symm
  · rw [h.thread]
    exact (Function.update_of_ne (Ne.symm hi) _ _).symm

/-- A thread that is alone emits what its calls emit one after another. -/
theorem alone_finish (P : Params) (c : ControllerId) (schedule : List ControllerId)
    (h : ∀ i ∈ schedule, i = c) (a : Threads) :
    finish P a.handler (a.thread c) =
      ((finish P (run (Threads.step P) a schedule).1.handler
          ((run (Threads.step P) a schedule).1.thread c)).1,
        (run (Threads.step P) a schedule).2 ++
          (finish P (run (Threads.step P) a schedule).1.handler
            ((run (Threads.step P) a schedule).1.thread c)).2) := by
  refine run_trace (Threads.step P) (fun _ => True)
    (fun m es m' => finish P m.handler (m.thread c) =
      ((finish P m'.handler (m'.thread c)).1, es ++ (finish P m'.handler (m'.thread c)).2))
    (fun _ => rfl) ?_ schedule (fun _ _ _ _ => trivial) ?_ a trivial
  · intro m m' m'' es fs h1 h2
    rw [h1, h2]
    simp only [List.append_assoc]
  · intro m i hi _
    obtain rfl := h i hi
    simp only [Threads.step, Function.update_self]
    exact finish_step P m.handler (m.thread i)

/-- What a thread emits in a clean interleaving that completes it. -/
theorem thread_events (P : Params) (programs : ControllerId → List Request)
    (hprograms : ∀ c, ∀ r ∈ programs c, r.Belongs c) (schedule : List ControllerId)
    (hclean : Along (Threads.step P) Threads.Clean (.start programs) schedule)
    (c : ControllerId)
    (hdone : ((run (Threads.step P) (.start programs) schedule).1.thread c).done = true) :
    ((answers (Threads.step P) (.start programs) schedule).filter
        (fun a => a.1 = c)).flatMap Prod.snd =
      (runCalls P .init ((programs c).map Request.call)).2 := by
  have hstart : Follows c (.start programs) (.start programs) := by
    refine ⟨fun c => ⟨trivial, fun _ => rfl, hprograms c⟩, ?_, rfl⟩
    exact (forget_init c.other).symm
  -- deleting the steps of the other thread leaves a run of this thread alone
  obtain ⟨hanswers, hend⟩ := answers_filter_along (Threads.step P) (fun i => decide (i = c))
    Threads.Clean (Follows c)
    (fun m a i hi hok h => by
      obtain rfl := of_decide_eq_true hi
      exact h.own hok)
    (fun m a i hi hok h => h.other (of_decide_eq_false hi) hok) schedule _ _ hstart hclean
  have halone := alone_finish P c (schedule.filter fun i => decide (i = c))
    (fun i hi => of_decide_eq_true (List.mem_filter.mp hi).2) (.start programs)
  have hfinal := finish_done P
    (run (Threads.step P) (.start programs) (schedule.filter fun i => decide (i = c))).1.handler
    _ (hend.thread ▸ hdone)
  rw [hfinal, List.append_nil] at halone
  have hwhole : finish P .init (.start (programs c)) =
      runCalls P .init ((programs c).map Request.call) := finish_start P .init (programs c)
  calc
    ((answers (Threads.step P) (.start programs) schedule).filter
          (fun a => a.1 = c)).flatMap Prod.snd =
        (answers (Threads.step P) (.start programs)
          (schedule.filter fun i => decide (i = c))).flatMap Prod.snd := by rw [hanswers]
    _ = (run (Threads.step P) (.start programs)
          (schedule.filter fun i => decide (i = c))).2 := (run_eq_answers _ _ _).symm
    _ = (finish P .init (.start (programs c))).2 := (congrArg Prod.snd halone).symm
    _ = (runCalls P .init ((programs c).map Request.call)).2 := by rw [hwhole]

/-! ### Key signals -/

def keySignal? : Event → Option (ℤ × Bool)
  | .signal _ (.key lincode pressed) => some (lincode, pressed)
  | _ => none

def keySignals (es : List Event) : List (ℤ × Bool) := es.filterMap keySignal?

/-- The key signals whose code is in the key map. -/
def keysOf (keymap : KeyMap) (es : List Event) : List (ℤ × Bool) :=
  (keySignals es).filter fun key => keymap.any fun entry => entry.lincode = key.1

/-- No code of one key map that can be sent as a key is in the other one. -/
def DisjointKeys (P : Params) : Prop :=
  ∀ e ∈ P.keymap1, ∀ e' ∈ P.keymap2, e.lincode = e'.lincode → e.lincode = keyPsmoveDisconnect

/-- Every key signal is for a code of the key map, and not for `disconnect`. -/
def KeysFrom (keymap : KeyMap) (es : List Event) : Prop :=
  ∀ key ∈ keySignals es, key.1 ≠ keyPsmoveDisconnect ∧ ∃ e ∈ keymap, e.lincode = key.1

theorem reportKey_keysFrom (P : Params) (i : Word) (pressed : Bool) (c : ControllerId)
    (s : HandlerState) : KeysFrom (P.keymap c) (reportKey P i pressed c s).2 := by
  have hout : (reportKey P i pressed c s).2 =
      (P.keymap c).zipIdx.flatMap (entryEvents c i pressed) :=
    run_outputs _ _ _ (fun s e _ => reportEntry_events i pressed c s e) s
  rw [hout]
  intro key hkey
  obtain ⟨ev, hev, hsig⟩ := List.mem_filterMap.mp hkey
  obtain ⟨entry, hentry, hev⟩ := List.mem_flatMap.mp hev
  unfold entryEvents at hev
  split_ifs at hev
  · obtain ⟨sig, hmem, rfl⟩ := List.mem_map.mp hev
    have he := List.fst_mem_of_mem_zipIdx hentry
    unfold entrySignals at hmem
    -- every branch but the last has no key signal
    split_ifs at hmem with hdisconnect
    all_goals simp only [List.mem_singleton, List.not_mem_nil] at hmem
    all_goals subst hmem
    all_goals cases hsig
    exact ⟨hdisconnect, entry.1, he, rfl⟩
  · exact absurd hev List.not_mem_nil

theorem threadStep_keysFrom (P : Params) (c : ControllerId) (s : HandlerState) (t : ThreadState)
    (h : t.Belongs c) : KeysFrom (P.keymap c) (threadStep P s t).2.2 := by
  have hnone (es : List Event) (hes : keySignals es = []) : KeysFrom (P.keymap c) es := by
    intro key hkey
    rw [hes] at hkey
    exact absurd hkey List.not_mem_nil
  obtain ⟨pc, clock, pending, program⟩ := t
  have hpc := h.pc
  cases pc with
  | scan buttons controller pressed released bits =>
    obtain rfl : controller = c := hpc
    cases bits with
    | nil => exact hnone _ rfl
    | cons i bits =>
      simp only [threadStep, scanStep]
      split_ifs
      · exact reportKey_keysFrom P i true controller s
      · exact reportKey_keysFrom P i false controller s
      · exact hnone _ rfl
  | _ => exact hnone _ rfl

theorem keysOf_own {keymap : KeyMap} {es : List Event} (h : KeysFrom keymap es) :
    keysOf keymap es = keySignals es := by
  apply List.filter_eq_self.mpr
  intro key hkey
  obtain ⟨-, e, he, hcode⟩ := h key hkey
  exact List.any_eq_true.mpr ⟨e, he, decide_eq_true hcode⟩

theorem keysOf_other {P : Params} (hdisjoint : DisjointKeys P) {c i : ControllerId} (hi : i ≠ c)
    {es : List Event} (h : KeysFrom (P.keymap i) es) : keysOf (P.keymap c) es = [] := by
  apply List.filter_eq_nil_iff.mpr
  intro key hkey hany
  obtain ⟨hne, e, he, hcode⟩ := h key hkey
  obtain ⟨e', he', hcode'⟩ := List.any_eq_true.mp hany
  have hsame : e'.lincode = e.lincode := (of_decide_eq_true hcode').trans hcode.symm
  cases i with
  | first =>
    cases c with
    | first => exact hi rfl
    | second => exact hne (hcode ▸ hdisjoint e he e' he' hsame.symm)
  | second =>
    cases c with
    | first => exact hne (hcode ▸ hsame ▸ hdisjoint e' he' e he hsame)
    | second => exact hi rfl

theorem keysOf_answers {P : Params} (hdisjoint : DisjointKeys P) (c : ControllerId)
    (l : List (ControllerId × List Event)) (h : ∀ a ∈ l, KeysFrom (P.keymap a.1) a.2) :
    keysOf (P.keymap c) (l.flatMap Prod.snd) =
      keySignals ((l.filter fun a => a.1 = c).flatMap Prod.snd) := by
  induction l with
  | nil => rfl
  | cons a l ih =>
    have htail := ih fun b hb => h b (List.mem_cons_of_mem a hb)
    have hhead := h a List.mem_cons_self
    have hsplit : keysOf (P.keymap c) (a.2 ++ l.flatMap Prod.snd) =
        keysOf (P.keymap c) a.2 ++ keysOf (P.keymap c) (l.flatMap Prod.snd) := by
      simp only [keysOf, keySignals]
      rw [List.filterMap_append, List.filter_append]
    rw [List.flatMap_cons, hsplit, htail]
    by_cases ha : a.1 = c
    · rw [List.filter_cons_of_pos (by simpa using ha), List.flatMap_cons]
      rw [ha] at hhead
      rw [keysOf_own hhead]
      exact List.filterMap_append.symm
    · rw [List.filter_cons_of_neg (by simpa using ha), keysOf_other hdisjoint ha hhead]
      rfl

/-- In an interleaving that completes both threads and in which the first thread takes over no
deferred release, each key map's signals are those of its own thread's calls. -/
theorem concurrent_keys (P : Params) (hdisjoint : DisjointKeys P)
    (programs : ControllerId → List Request) (hprograms : ∀ c, ∀ r ∈ programs c, r.Belongs c)
    (schedule : List ControllerId)
    (hdone : ∀ c,
      ((run (Threads.step P) (.start programs) schedule).1.thread c).done = true)
    (hclean : Along (Threads.step P) Threads.Clean (.start programs) schedule)
    (c : ControllerId) :
    keysOf (P.keymap c) (run (Threads.step P) (.start programs) schedule).2 =
      keySignals (runCalls P .init ((programs c).map Request.call)).2 := by
  have hkeys : ∀ a ∈ answers (Threads.step P) (.start programs) schedule,
      KeysFrom (P.keymap a.1) a.2 := by
    refine answers_along (Threads.step P) Threads.Clean (fun m => ∀ c, (m.thread c).Belongs c)
      (fun i es => KeysFrom (P.keymap i) es) ?_ schedule (.start programs)
      (fun c => ⟨trivial, fun _ => rfl, hprograms c⟩) hclean
    intro m i hok hm
    exact ⟨threadStep_keysFrom P i m.handler (m.thread i) (hm i), step_belongs P m i hok hm⟩
  calc
    keysOf (P.keymap c) (run (Threads.step P) (.start programs) schedule).2 =
        keysOf (P.keymap c)
          ((answers (Threads.step P) (.start programs) schedule).flatMap Prod.snd) := by
      rw [run_eq_answers]
    _ = keySignals (((answers (Threads.step P) (.start programs) schedule).filter
          fun a => a.1 = c).flatMap Prod.snd) := keysOf_answers hdisjoint c _ hkeys
    _ = keySignals (runCalls P .init ((programs c).map Request.call)).2 := by
      rw [thread_events P programs hprograms schedule hclean c (hdone c)]

/-- A key on the first controller, the gesture trigger and one gesture on the second. -/
def racingParams : Params where
  keymap1 := [⟨0x40#32, 45⟩]
  keymap2 := [⟨0x100000#32, keyPsmoveGestureTrigger⟩, ⟨btnGestureRight, 106⟩]
  cx := 1
  cy := 1
  moveThreshold := 0
  gestureThreshold := 40

/-- The gesture trigger is released and pressed again before a gesture to the right. -/
def racingPrograms (w : Word) : ControllerId → List Request
  | .first => [.onButtons (fun _ => ⟨1, 520000000⟩) w .first]
  | .second => [
      .onGesture (fun _ => ⟨1, 500000000⟩) 0 0,
      .onButtons (fun _ => ⟨1, 505000000⟩) 0x100000#32 .second,
      .onButtons (fun _ => ⟨1, 510000000⟩) 0#32 .second,
      .onButtons (fun _ => ⟨1, 530000000⟩) 0x100000#32 .second,
      .onGesture (fun _ => ⟨1, 540000000⟩) 7 0]

theorem racingPrograms_belongs (w : Word) (c : ControllerId) :
    ∀ r ∈ racingPrograms w c, r.Belongs c := by
  cases c <;> simp [racingPrograms, Request.Belongs]

theorem racingParams_disjoint : DisjointKeys racingParams := by
  simp only [DisjointKeys]
  decide

/-- The threads take turns. -/
theorem concurrent_keys_turns :
    keysOf racingParams.keymap2 (run (Threads.step racingParams)
        (.start (racingPrograms 0x40#32))
        ((List.replicate 160 [ControllerId.first, .second]).flatten)).2 =
      keySignals (runCalls racingParams .init
        ((racingPrograms 0x40#32 .second).map Request.call)).2 :=
  concurrent_keys racingParams racingParams_disjoint (racingPrograms 0x40#32)
    (racingPrograms_belongs _) _ (fun c => by cases c <;> decide +kernel) (by decide +kernel)
    .second

/-- The first thread stops in front of the test of `releaseGestureKeys_` of its own call, finds
the release that the second thread has deferred, and stops again in front of the test of
`gestureTrigger_` until the second thread has pressed the trigger and reported its gesture. -/
def racingSchedule : List ControllerId :=
  List.replicate 73 .second ++ List.replicate 6 .first ++ List.replicate 79 .second ++
    List.replicate 40 .first

/-- The gesture key is released although its own thread's calls leave it pressed. -/
theorem deferred_release_invents_key :
    DisjointKeys racingParams ∧ (∀ c, ∀ r ∈ racingPrograms 0#32 c, r.Belongs c) ∧
      (∀ c, ((run (Threads.step racingParams) (.start (racingPrograms 0#32))
        racingSchedule).1.thread c).done = true) ∧
      ¬∀ c, keysOf (racingParams.keymap c) (run (Threads.step racingParams)
          (.start (racingPrograms 0#32)) racingSchedule).2 =
        keySignals (runCalls racingParams .init
          ((racingPrograms 0#32 c).map Request.call)).2 := by
  refine ⟨racingParams_disjoint, racingPrograms_belongs _, fun c => ?_, fun h => ?_⟩
  · cases c <;> decide +kernel
  · exact absurd (h .second) (by decide +kernel)

end PSMoveInput

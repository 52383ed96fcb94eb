import PSMoveInput.DeviceStream

/-! The whole way from the calls of the two threads to the reader of the device. The threads run
statement by statement, with the entries of a locked iteration one by one; each of them reports
what its calls report in the sequential model. -/
namespace PSMoveInput

open Transducer

/-! ### What a thread still has to do -/

def DeviceCall.call : DeviceCall → Call
  | .onGyroscope clock gx gy => .onGyroscope clock gx gy
  | .request r => r.call

/-- The rest of the current call, executed alone, from within a locked iteration or outside. -/
def DeviceThread.currentRest (P : Params) (s : HandlerState) (t : DeviceThread) :
    HandlerState × List Event :=
  match t.entries, t.thread.pc with
  | some entries, .scan buttons controller pressed released (i :: bits) =>
    let l := run (reportEntry i (holds pressed i) controller) s entries
    let r := finish P l.1 (t.thread.goto (.scan buttons controller pressed released bits))
    (r.1, l.2 ++ r.2)
  | _, _ => finish P s t.thread

/-- The rest of the current call, and the calls that are left. -/
def DeviceThread.rest (P : Params) (s : HandlerState) (t : DeviceThread) :
    HandlerState × List Event :=
  let r := t.currentRest P s
  let u := runCalls P r.1 (t.calls.map DeviceCall.call)
  (u.1, r.2 ++ u.2)

/-- Nothing is left to call, to report or to write. -/
def DeviceThread.finished (t : DeviceThread) : Bool :=
  t.thread.done && t.calls.isEmpty && t.queue.isEmpty && t.left.isEmpty

/-- The statements and the calls are those of the thread of the controller. -/
structure DeviceThread.Belongs (c : ControllerId) (t : DeviceThread) : Prop where
  thread : t.thread.Belongs c
  calls : ∀ call ∈ t.calls, call.Belongs c
  locked : ∀ entries, t.entries = some entries →
    ∃ buttons controller pressed released i bits,
      t.thread.pc = .scan buttons controller pressed released (i :: bits)

/-- No step takes over a deferred release of the other thread. -/
def DeviceState.Clean (s : DeviceState) (c : ControllerId) : Prop :=
  (s.threads c).left = [] → (s.threads c).queue = [] →
    ¬TakesRelease s.handler c (s.threads c).thread

instance (s : DeviceState) (c : ControllerId) : Decidable (s.Clean c) :=
  inferInstanceAs (Decidable (_ → _ → ¬_))

theorem currentRest_unlocked (P : Params) (s : HandlerState) {t : DeviceThread}
    (hentries : t.entries = none) : t.currentRest P s = finish P s t.thread := by
  rw [DeviceThread.currentRest, hentries]

theorem currentRest_locked (P : Params) (s : HandlerState) {t : DeviceThread}
    {entries : List (KeyMapEntry × ℕ)} {buttons : Word} {controller : ControllerId}
    {pressed released i : Word} {bits : List Word} (hentries : t.entries = some entries)
    (hpc : t.thread.pc = .scan buttons controller pressed released (i :: bits)) :
    t.currentRest P s =
      let l := run (reportEntry i (holds pressed i) controller) s entries
      let r := finish P l.1 (t.thread.goto (.scan buttons controller pressed released bits))
      (r.1, l.2 ++ r.2) := by
  rw [DeviceThread.currentRest, hentries, hpc]

theorem deviceReports_append (es fs : List Event) :
    deviceReports (es ++ fs) = deviceReports es ++ deviceReports fs := by
  rw [deviceReports, signals, List.filterMap_append, List.filterMap_append]
  rfl

/-! ### Single entries -/

theorem reportEntry_forget (button : Word) (pressed : Bool) (c : ControllerId) (s : HandlerState)
    (entry : KeyMapEntry × ℕ) :
    reportEntry button pressed c (s.forget c.other) entry =
      ((reportEntry button pressed c s entry).1.forget c.other,
        (reportEntry button pressed c s entry).2) := by
  unfold reportEntry
  split_ifs
  · simp only [handleSpecialKeys_forget]
  · rfl

theorem reportEntry_frame (button : Word) (pressed : Bool) (c : ControllerId) (s : HandlerState)
    (entry : KeyMapEntry × ℕ) : (reportEntry button pressed c s entry).1.forget c = s.forget c := by
  rw [reportEntry]
  split_ifs
  · exact handleSpecialKeys_frame entry.1.lincode c pressed s
  · rfl

/-- A statement outside the bit loop raises no signal. -/
theorem threadStep_silent (P : Params) (s : HandlerState) (t : ThreadState)
    (hpc : ∀ buttons controller pressed released i bits,
      t.pc ≠ .scan buttons controller pressed released (i :: bits)) :
    deviceReports (threadStep P s t).2.2 = [] := by
  obtain ⟨pc, clock, pending, program⟩ := t
  cases pc with
  | scan buttons controller pressed released bits =>
    cases bits with
    | nil => rfl
    | cons i bits => exact absurd rfl (hpc _ _ _ _ _ _)
  | _ => rfl

/-! ### Steps -/

/-- A step of one thread, as it sees the handler: what it raises, and what is then left. -/
structure Continues (P : Params) (c : ControllerId) (s : HandlerState) (t : DeviceThread)
    (s' : HandlerState) (t' : DeviceThread) (raised : List DeviceReport) : Prop where
  belongs : t'.Belongs c
  frame : s'.forget c = s.forget c
  rest : deviceReports (t.rest P (s.forget c.other)).2 =
    raised ++ deviceReports (t'.rest P (s'.forget c.other)).2

section

variable {P : Params} {c : ControllerId} {s s' : HandlerState} {t t' : DeviceThread}

/-- Only what waits to be reported or written has changed. -/
theorem continues_same (h : t.Belongs c) (hthread : t'.thread = t.thread)
    (hcalls : t'.calls = t.calls) (hentries : t'.entries = t.entries) :
    Continues P c s t s t' [] := by
  constructor
  · constructor
    · rw [hthread]
      exact h.thread
    · rw [hcalls]
      exact h.calls
    · rw [hentries, hthread]
      exact h.locked
  · rfl
  · simp only [DeviceThread.rest, DeviceThread.currentRest, hthread, hcalls, hentries]
    rfl

/-- A step inside the current call. -/
theorem continues_current {raised : List DeviceReport} {es : List Event} (hbelongs : t'.Belongs c)
    (hframe : s'.forget c = s.forget c) (hcalls : t'.calls = t.calls)
    (hrest : t.currentRest P (s.forget c.other) =
      ((t'.currentRest P (s'.forget c.other)).1,
        es ++ (t'.currentRest P (s'.forget c.other)).2))
    (hraised : deviceReports es = raised) : Continues P c s t s' t' raised := by
  refine ⟨hbelongs, hframe, ?_⟩
  simp only [DeviceThread.rest, hrest, hcalls, deviceReports_append, List.append_assoc, hraised]

/-- The same without a signal. -/
theorem continues_silent (hbelongs : t'.Belongs c) (hframe : s'.forget c = s.forget c)
    (hcalls : t'.calls = t.calls)
    (hrest : t.currentRest P (s.forget c.other) = t'.currentRest P (s'.forget c.other)) :
    Continues P c s t s' t' [] := by
  have hnone : deviceReports [] = [] := rfl
  refine continues_current hbelongs hframe hcalls ?_ hnone
  rw [hrest]
  rfl

/-- In the bit loop: the guard, an entry, or the end of an iteration. -/
theorem continues_iterate {d : DeviceState} (h : (d.threads c).Belongs c)
    (hqueue : (d.threads c).queue = []) {buttons : Word} {controller : ControllerId}
    {pressed released i : Word} {bits : List Word}
    (hpc : (d.threads c).thread.pc = .scan buttons controller pressed released (i :: bits)) :
    let d' := d.iterate P c buttons controller pressed released i bits
    Continues P c d.handler (d.threads c) d'.handler (d'.threads c) (d'.threads c).queue := by
  obtain rfl : controller = c := by
    have hbelongs := h.thread.pc
    rw [hpc] at hbelongs
    exact hbelongs
  have hset (d' : DeviceState) (t' : DeviceThread)
      (hc : Continues P controller d.handler (d.threads controller) d'.handler t' t'.queue) :
      Continues P controller d.handler (d.threads controller) (d'.setThread controller t').handler
        ((d'.setThread controller t').threads controller)
        ((d'.setThread controller t').threads controller).queue := by
    simp only [DeviceState.setThread, Function.update_self]
    exact hc
  simp only [DeviceState.iterate]
  cases hentries : (d.threads controller).entries with
  | none =>
    dsimp only
    by_cases hfree : d.mutex = none
    · rw [if_pos hfree]
      apply hset { d with mutex := some controller }
      dsimp only
      rw [hqueue]
      refine continues_silent ⟨h.thread, h.calls, fun _ _ => ⟨_, _, _, _, _, _, hpc⟩⟩ rfl rfl ?_
      -- the entries of the iteration do together what the iteration does
      rw [currentRest_unlocked P _ hentries, finish_step]
      simp only [DeviceThread.currentRest, threadStep, hpc, iteration_scanStep]
    · rw [if_neg hfree, hqueue]
      exact continues_same h rfl rfl rfl
  | some entries =>
    cases entries with
    | nil =>
      apply hset { d with mutex := none }
      dsimp only
      rw [hqueue]
      refine continues_silent ⟨h.thread.goto rfl, h.calls, fun _ hnone => by cases hnone⟩ rfl rfl
        ?_
      rw [currentRest_locked P _ hentries hpc, currentRest_unlocked P _ rfl]
      rfl
    | cons entry entries =>
      apply hset { d with handler :=
        (reportEntry i (holds pressed i) controller d.handler entry).1 }
      refine continues_current ⟨h.thread, h.calls, fun _ _ => ⟨_, _, _, _, _, _, hpc⟩⟩
        (reportEntry_frame ..) rfl ?_ rfl
      rw [currentRest_locked P _ hentries hpc]
      simp only [run_cons_fst, run_cons_snd, reportEntry_forget, List.append_assoc]
      simp only [DeviceThread.currentRest, hpc]

theorem done_iff {t : ThreadState} :
    t.done = true ↔ t.pc = .ret ∧ t.pending = [] ∧ t.program = [] := by
  simp only [ThreadState.done, Bool.and_eq_true, decide_eq_true_eq, List.isEmpty_iff, and_assoc]

/-- A call that the thread takes from its list. -/
theorem continues_next {call : DeviceCall} {calls : List DeviceCall} (es : List Event)
    (hbelongs : t'.Belongs c) (hframe : s'.forget c = s.forget c) (hdone : t.thread.done = true)
    (hentries : t.entries = none) (hcalls : t.calls = call :: calls) (hcalls' : t'.calls = calls)
    (hrest : step P (s.forget c.other) call.call =
      ((t'.currentRest P (s'.forget c.other)).1,
        es ++ (t'.currentRest P (s'.forget c.other)).2)) :
    Continues P c s t s' t' (deviceReports es) := by
  refine ⟨hbelongs, hframe, ?_⟩
  rw [← deviceReports_append]
  simp only [DeviceThread.rest]
  rw [currentRest_unlocked P _ hentries, finish_done P _ t.thread hdone, hcalls, hcalls']
  simp only [List.map_cons, runCalls, run_cons_snd, hrest, List.nil_append, List.append_assoc]

/-- Outside the bit loop. -/
theorem continues_advance {d : DeviceState} (h : (d.threads c).Belongs c)
    (hqueue : (d.threads c).queue = []) (hclean : ¬TakesRelease d.handler c (d.threads c).thread)
    (hpc : ∀ buttons controller pressed released i bits,
      (d.threads c).thread.pc ≠ .scan buttons controller pressed released (i :: bits)) :
    let d' := d.advance P c
    Continues P c d.handler (d.threads c) d'.handler (d'.threads c) (d'.threads c).queue := by
  have hentries : (d.threads c).entries = none := by
    by_contra hsome
    obtain ⟨entries, hentries⟩ := Option.ne_none_iff_exists'.mp hsome
    obtain ⟨_, _, _, _, _, _, hscan⟩ := h.locked entries hentries
    exact hpc _ _ _ _ _ _ hscan
  have hlocked {t' : DeviceThread} (hnone : t'.entries = none) (entries : List (KeyMapEntry × ℕ))
      (hsome : t'.entries = some entries) : ∃ buttons controller pressed released i bits,
        t'.thread.pc = .scan buttons controller pressed released (i :: bits) := by
    rw [hnone] at hsome
    cases hsome
  have hset (d' : DeviceState) (t' : DeviceThread)
      (hc : Continues P c d.handler (d.threads c) d'.handler t' t'.queue) :
      Continues P c d.handler (d.threads c) (d'.setThread c t').handler
        ((d'.setThread c t').threads c) ((d'.setThread c t').threads c).queue := by
    simp only [DeviceState.setThread, Function.update_self]
    exact hc
  simp only [DeviceState.advance]
  by_cases hdone : (d.threads c).thread.done = true
  · rw [if_pos hdone]
    obtain ⟨hret, hpending, -⟩ := done_iff.mp hdone
    cases hcalls : (d.threads c).calls with
    | nil =>
      rw [hqueue]
      exact continues_same h rfl rfl rfl
    | cons call calls =>
      have hmine := h.calls
      rw [hcalls] at hmine
      have hcall := hmine call List.mem_cons_self
      have hrest : ∀ call' ∈ calls, call'.Belongs c :=
        fun call' hmem => hmine call' (List.mem_cons_of_mem call hmem)
      cases call with
      | request r =>
        apply hset d
        dsimp only
        rw [hqueue]
        refine continues_next [] ⟨⟨?_, fun _ => hpending, ?_⟩, hrest, hlocked hentries⟩ rfl hdone
          hentries hcalls rfl ?_
        · dsimp only
          rw [hret]
          trivial
        · intro r' hr'
          rw [List.mem_singleton.mp hr']
          exact hcall
        · simp only [DeviceThread.currentRest, hentries, finish, hret, hpending]
          simp [pcRest, recordPending, runCalls, DeviceCall.call]
      | onGyroscope clock gx gy =>
        obtain rfl : c = .first := hcall
        apply hset { d with handler := (onGyroscope P clock gx gy d.handler).1 }
        refine continues_next (onGyroscope P clock gx gy d.handler).2
          ⟨h.thread, hrest, hlocked hentries⟩ rfl hdone hentries hcalls rfl ?_
        simp only [DeviceThread.currentRest, hentries]
        rw [finish_done P _ _ hdone, List.append_nil]
        rfl
  · rw [if_neg hdone]
    have hforget := threadStep_forget P c d.handler (d.threads c).thread h.thread hclean
    apply hset { d with handler := (threadStep P d.handler (d.threads c).thread).1 }
    dsimp only
    rw [hqueue]
    have hsilent := threadStep_silent P d.handler (d.threads c).thread hpc
    refine continues_current ⟨?_, h.calls, hlocked hentries⟩ ?_ rfl ?_ hsilent
    · exact threadStep_belongs P c d.handler _ h.thread hclean
    · exact threadStep_frame P c d.handler _ h.thread
    · rw [currentRest_unlocked P _ hentries, finish_step, hforget]
      simp only [DeviceThread.currentRest, hentries]

end

/-- What one step of a thread raises is taken from what it still has to report. -/
theorem step_continues (P : Params) (s : DeviceState) (c : ControllerId)
    (h : (s.threads c).Belongs c) (hclean : s.Clean c) :
    Continues P c s.handler (s.threads c) (s.step P c).1.handler ((s.step P c).1.threads c)
      (s.raised P c) := by
  have hsame (t' : DeviceThread) (hthread : t'.thread = (s.threads c).thread)
      (hcalls : t'.calls = (s.threads c).calls) (hentries : t'.entries = (s.threads c).entries) :
      Continues P c s.handler (s.threads c) (s.setThread c t').handler
        ((s.setThread c t').threads c) [] := by
    simp only [DeviceState.setThread, Function.update_self]
    exact continues_same h hthread hcalls hentries
  simp only [DeviceState.raised]
  cases hleft : (s.threads c).left with
  | cons w left =>
    rw [if_neg fun hidle => List.cons_ne_nil w left hidle.1]
    simp only [DeviceState.step, hleft]
    apply hsame
    all_goals rfl
  | nil =>
    cases hqueue : (s.threads c).queue with
    | cons report queue =>
      rw [if_neg fun hidle => List.cons_ne_nil report queue hidle.2]
      simp only [DeviceState.step, hleft, hqueue]
      apply hsame
      all_goals rfl
    | nil =>
      rw [if_pos ⟨rfl, rfl⟩]
      simp only [DeviceState.step, hleft, hqueue]
      split
      · rename_i buttons controller pressed released i bits hpc
        exact continues_iterate h hqueue hpc
      · rename_i hpc
        exact continues_advance h hqueue (hclean hleft hqueue) hpc

/-! ### Runs -/

/-- The reports of the sequential model for the calls of a thread. -/
def sequentialReports (P : Params) (calls : List DeviceCall) : List DeviceReport :=
  deviceReports (runCalls P .init (calls.map DeviceCall.call)).2

/-- What a thread has raised and what is left make its sequential reports. -/
structure Sequential (P : Params) (programs : ControllerId → List DeviceCall) (s : DeviceState)
    (es : List DeviceAction) : Prop where
  belongs : ∀ c, (s.threads c).Belongs c
  reports : ∀ c, sequentialReports P (programs c) =
    raisedReports c es ++ deviceReports ((s.threads c).rest P (s.handler.forget c.other)).2

theorem sequential_start (P : Params) (programs : ControllerId → List DeviceCall)
    (hprograms : ∀ c, ∀ call ∈ programs c, call.Belongs c) :
    Sequential P programs (.start programs) [] where
  belongs c := ⟨⟨trivial, fun _ => rfl, fun _ h => absurd h List.not_mem_nil⟩, hprograms c,
    fun _ h => by cases h⟩
  reports c := by
    have hinit : (DeviceState.start programs).handler.forget c.other = .init := forget_init c.other
    rw [hinit]
    rfl

theorem step_sequential (P : Params) (programs : ControllerId → List DeviceCall) (s : DeviceState)
    (es : List DeviceAction) (c : ControllerId) (hclean : s.Clean c)
    (h : Sequential P programs s es) :
    Sequential P programs (s.observe P c).1 (es ++ (s.observe P c).2) := by
  have hmine := step_continues P s c (h.belongs c) hclean
  constructor
  · intro i
    by_cases hi : i = c
    · subst hi
      exact hmine.belongs
    · simp only [DeviceState.observe, step_threads_other P s hi]
      exact h.belongs i
  · intro i
    rw [h.reports i, raisedReports_append, raisedReports_observe, List.append_assoc]
    apply congrArg
    by_cases hi : i = c
    · subst hi
      rw [if_pos rfl]
      exact hmine.rest
    · -- the other thread has not touched what this one sees
      obtain rfl : c = i.other := ControllerId.eq_other (Ne.symm hi)
      rw [if_neg hi]
      simp only [DeviceState.observe, step_threads_other P s hi, hmine.frame]
      rfl

/-- A thread that is finished has nothing left. -/
theorem rest_finished (P : Params) (s : HandlerState) {c : ControllerId} {t : DeviceThread}
    (h : t.Belongs c) (hfinished : t.finished = true) : t.pending = [] ∧ (t.rest P s).2 = [] := by
  simp only [DeviceThread.finished, Bool.and_eq_true, List.isEmpty_iff] at hfinished
  obtain ⟨⟨⟨hdone, hcalls⟩, hqueue⟩, hleft⟩ := hfinished
  have hentries : t.entries = none := by
    by_contra hsome
    obtain ⟨entries, hentries⟩ := Option.ne_none_iff_exists'.mp hsome
    obtain ⟨_, _, _, _, _, _, hscan⟩ := h.locked entries hentries
    rw [(done_iff.mp hdone).1] at hscan
    exact Pc.noConfusion hscan
  constructor
  · simp only [DeviceThread.pending, hleft, hqueue, List.head?_nil, Option.map_none,
      Option.toList_none, List.append_nil]
  · simp only [DeviceThread.rest]
    rw [currentRest_unlocked P s hentries, finish_done P s t.thread hdone, hcalls]
    rfl

/-- If movements stay apart and no thread takes over a deferred release of the other one, the
reader of the device decodes for each controller the reports of the sequential model, and all of
them once the thread has finished. -/
theorem device_reads_sequential (P : Params) (programs : ControllerId → List DeviceCall)
    (hprograms : ∀ c, ∀ call ∈ programs c, call.Belongs c) (schedule : List ControllerId)
    (hapart : Along (DeviceState.observe P) (fun s c => movesApart s c = true ∧ s.Clean c)
      (.start programs) schedule) :
    let r := run (DeviceState.observe P) (.start programs) schedule
    ∃ reports : List (ControllerId × DeviceReport),
      decodeStream (writtenEvents r.2) = (reports.map Prod.snd).map some ∧
        ∀ c, reportsOf c reports <+: sequentialReports P (programs c) ∧
          ((r.1.threads c).finished = true →
            reportsOf c reports = sequentialReports P (programs c)) := by
  intro r
  obtain ⟨⟨reports, hstream⟩, hseq⟩ : (∃ reports, Streamed r.1 ([] ++ r.2) reports) ∧
      Sequential P programs r.1 ([] ++ r.2) :=
    run_history (DeviceState.observe P) (fun s c => movesApart s c = true ∧ s.Clean c)
      (fun s es => (∃ reports, Streamed s es reports) ∧ Sequential P programs s es)
      (fun s es c hok h =>
        ⟨step_streamed P s es c hok.1 h.1, step_sequential P programs s es c hok.2 h.2⟩)
      schedule (.start programs) []
      ⟨⟨[], streamed_start programs⟩, sequential_start P programs hprograms⟩ hapart
  rw [List.nil_append] at hstream hseq
  refine ⟨reports, hstream.decodes, ?_⟩
  intro c
  rw [hseq.reports c, hstream.raised c, List.append_assoc]
  refine ⟨List.prefix_append _ _, ?_⟩
  intro hfinished
  obtain ⟨hpending, hrest⟩ := rest_finished P (r.1.handler.forget c.other) (hseq.belongs c) hfinished
  rw [hpending, hrest]
  exact (List.append_nil _).symm

/-- The first thread makes its two calls, and then the second one makes its call. -/
def finishSchedule : List ControllerId := List.replicate 8 .first ++ List.replicate 100 .second

theorem device_reads_sequential_turns :
    let r := run (DeviceState.observe keyParams) (.start movePrograms) finishSchedule
    ∃ reports : List (ControllerId × DeviceReport),
      decodeStream (writtenEvents r.2) = (reports.map Prod.snd).map some ∧
        reportsOf .first reports = [.move 70 0] ∧ reportsOf .second reports = [.key 45 true] := by
  have hprograms : ∀ c, ∀ call ∈ movePrograms c, call.Belongs c := by
    intro c
    cases c <;> simp [movePrograms, DeviceCall.Belongs, Request.Belongs]
  obtain ⟨reports, hdecoded, hreports⟩ :=
    device_reads_sequential keyParams movePrograms hprograms finishSchedule (by decide +kernel)
  refine ⟨reports, hdecoded, ?_, ?_⟩
  · exact ((hreports .first).2 (by decide +kernel)).trans (by decide +kernel)
  · exact ((hreports .second).2 (by decide +kernel)).trans (by decide +kernel)

end PSMoveInput

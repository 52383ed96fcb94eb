import Mathlib.Data.Prod.Lex
import Mathlib.Order.WellFounded
import PSMoveInput.CallChain
import PSMoveInput.Liveness
import PSMoveInput.ReaderKeys

/-! The two controller threads do not block each other for good: under a fair schedule both of them
come to the end of their calls, and all reports are written. -/
namespace PSMoveInput

open Transducer Orbit Liveness

/-! ### What a step can do -/

/-- A step of the thread `c` stores a state of the handler, an owner of the mutex and a thread. -/
inductive DeviceMoves (P : Params) (s : DeviceState) (c : ControllerId) :
    HandlerState → Option ControllerId → DeviceThread → Prop
  | write (w : Write) (left : List Write) (hleft : (s.threads c).left = w :: left) :
      DeviceMoves P s c s.handler s.mutex { s.threads c with
        written := if left = [] then [] else (s.threads c).written ++ [w], left := left }
  | callSlot (report : DeviceReport) (queue : List DeviceReport) (hleft : (s.threads c).left = [])
      (hqueue : (s.threads c).queue = report :: queue) :
      DeviceMoves P s c s.handler s.mutex { s.threads c with
        queue := queue, reports := (s.threads c).reports + 1,
        left := reportWrites c (s.threads c).reports report }
  /-- At a lock guard that waits. -/
  | waits (hleft : (s.threads c).left = []) (hqueue : (s.threads c).queue = [])
      (hentries : (s.threads c).entries = none) (hmutex : s.mutex ≠ none) :
      DeviceMoves P s c s.handler s.mutex (s.threads c)
  | locks (buttons : Word) (controller : ControllerId) (pressed released i : Word)
      (bits : List Word) (hleft : (s.threads c).left = []) (hqueue : (s.threads c).queue = [])
      (hentries : (s.threads c).entries = none) (hmutex : s.mutex = none)
      (hpc : (s.threads c).thread.pc = .scan buttons controller pressed released (i :: bits)) :
      DeviceMoves P s c s.handler (some c) { s.threads c with
        entries := some (iterationEntries P controller pressed released i) }
  | entry (buttons : Word) (controller : ControllerId) (pressed released i : Word)
      (bits : List Word) (entry : KeyMapEntry × ℕ) (entries : List (KeyMapEntry × ℕ))
      (hleft : (s.threads c).left = []) (hqueue : (s.threads c).queue = [])
      (hentries : (s.threads c).entries = some (entry :: entries))
      (hpc : (s.threads c).thread.pc = .scan buttons controller pressed released (i :: bits)) :
      DeviceMoves P s c (reportEntry i (holds pressed i) controller s.handler entry).1 s.mutex
        { s.threads c with
          entries := some entries
          queue := deviceReports (reportEntry i (holds pressed i) controller s.handler entry).2 }
  | unlocks (buttons : Word) (controller : ControllerId) (pressed released i : Word)
      (bits : List Word) (hleft : (s.threads c).left = []) (hqueue : (s.threads c).queue = [])
      (hentries : (s.threads c).entries = some [])
      (hpc : (s.threads c).thread.pc = .scan buttons controller pressed released (i :: bits)) :
      DeviceMoves P s c s.handler none { s.threads c with
        entries := none
        thread := (s.threads c).thread.goto (.scan buttons controller pressed released bits) }
  /-- All calls are made. -/
  | stays (hleft : (s.threads c).left = []) (hqueue : (s.threads c).queue = [])
      (hdone : (s.threads c).thread.done = true) (hcalls : (s.threads c).calls = []) :
      DeviceMoves P s c s.handler s.mutex (s.threads c)
  | request (r : Request) (calls : List DeviceCall) (hleft : (s.threads c).left = [])
      (hqueue : (s.threads c).queue = []) (hdone : (s.threads c).thread.done = true)
      (hcalls : (s.threads c).calls = .request r :: calls) :
      DeviceMoves P s c s.handler s.mutex { s.threads c with
        thread := { (s.threads c).thread with program := [r] }, calls := calls }
  | gyroscope (clock : Clock) (gx gy : ℤ) (calls : List DeviceCall)
      (hleft : (s.threads c).left = []) (hqueue : (s.threads c).queue = [])
      (hdone : (s.threads c).thread.done = true)
      (hcalls : (s.threads c).calls = .onGyroscope clock gx gy :: calls) :
      DeviceMoves P s c (onGyroscope P clock gx gy s.handler).1 s.mutex { s.threads c with
        calls := calls, queue := deviceReports (onGyroscope P clock gx gy s.handler).2 }
  /-- A statement outside the locked iterations. -/
  | statement (hleft : (s.threads c).left = []) (hqueue : (s.threads c).queue = [])
      (hpc : ∀ buttons controller pressed released i bits,
        (s.threads c).thread.pc ≠ .scan buttons controller pressed released (i :: bits))
      (hdone : (s.threads c).thread.done = false) :
      DeviceMoves P s c (threadStep P s.handler (s.threads c).thread).1 s.mutex
        { s.threads c with thread := (threadStep P s.handler (s.threads c).thread).2.1 }

/-- The state after such a step. -/
def DeviceState.stored (s : DeviceState) (c : ControllerId) (handler : HandlerState)
    (mutex : Option ControllerId) (t : DeviceThread) : DeviceState :=
  { s with handler := handler, mutex := mutex }.setThread c t

theorem stored_threads (s : DeviceState) (c : ControllerId) (handler : HandlerState)
    (mutex : Option ControllerId) (t : DeviceThread) :
    (s.stored c handler mutex t).threads c = t := Function.update_self ..

theorem stored_other (s : DeviceState) {c i : ControllerId} (hi : i ≠ c) (handler : HandlerState)
    (mutex : Option ControllerId) (t : DeviceThread) :
    (s.stored c handler mutex t).threads i = s.threads i := Function.update_of_ne hi ..

/-- Nothing changes. -/
theorem stored_same (s : DeviceState) (c : ControllerId) :
    s.stored c s.handler s.mutex (s.threads c) = s := by
  rw [DeviceState.stored, DeviceState.setThread, Function.update_eq_self]

theorem device_moves (P : Params) (s : DeviceState) (c : ControllerId) :
    ∃ handler mutex t, DeviceMoves P s c handler mutex t ∧
      (s.step P c).1 = s.stored c handler mutex t := by
  cases hleft : (s.threads c).left with
  | cons w left =>
    refine ⟨_, _, _, .write w left hleft, ?_⟩
    simp only [DeviceState.step, hleft]
    rfl
  | nil =>
    cases hqueue : (s.threads c).queue with
    | cons report queue =>
      refine ⟨_, _, _, .callSlot report queue hleft hqueue, ?_⟩
      simp only [DeviceState.step, hleft, hqueue]
      rfl
    | nil =>
      simp only [DeviceState.step, hleft, hqueue]
      split
      · rename_i buttons controller pressed released i bits hpc
        simp only [DeviceState.iterate]
        cases hentries : (s.threads c).entries with
        | none =>
          dsimp only
          by_cases hmutex : s.mutex = none
          · rw [if_pos hmutex]
            exact ⟨_, _, _, .locks buttons controller pressed released i bits hleft hqueue hentries
              hmutex hpc, rfl⟩
          · rw [if_neg hmutex]
            exact ⟨_, _, _, .waits hleft hqueue hentries hmutex, (stored_same s c).symm⟩
        | some entries =>
          cases entries with
          | nil =>
            exact ⟨_, _, _, .unlocks buttons controller pressed released i bits hleft hqueue
              hentries hpc, rfl⟩
          | cons entry entries =>
            exact ⟨_, _, _, .entry buttons controller pressed released i bits entry entries hleft
              hqueue hentries hpc, rfl⟩
      · rename_i hpc
        simp only [DeviceState.advance]
        cases hdone : (s.threads c).thread.done with
        | false => exact ⟨_, _, _, .statement hleft hqueue hpc hdone, rfl⟩
        | true =>
          rw [if_pos rfl]
          cases hcalls : (s.threads c).calls with
          | nil => exact ⟨_, _, _, .stays hleft hqueue hdone hcalls, (stored_same s c).symm⟩
          | cons call calls =>
            cases call with
            | request r => exact ⟨_, _, _, .request r calls hleft hqueue hdone hcalls, rfl⟩
            | onGyroscope clock gx gy =>
              exact ⟨_, _, _, .gyroscope clock gx gy calls hleft hqueue hdone hcalls, rfl⟩

/-! ### What is left to do -/

/-- The call chain of a thread, as far as it sees the handler. -/
def DeviceThread.chain (s : HandlerState) (t : DeviceThread) : ChainState :=
  ⟨s, t.thread, t.entries.isSome, t.entries⟩

def ChainState.Done (k : ChainState) : Prop := k.thread.done = true

/-- The calls, the statements of the current one, and the reports and events that wait. A report
has less than four events. -/
noncomputable def DeviceThread.rank (P : Params) (s : HandlerState) (t : DeviceThread) :
    ℕ ×ₗ ℕ ×ₗ ℕ :=
  toLex (t.calls.length,
    toLex (stepsTo (ChainState.step P) ChainState.Done (t.chain s),
      4 * t.queue.length + t.left.length))

theorem events_length (report : DeviceReport) : report.events.length < 4 := by
  cases report with
  | move dx dy =>
    simp only [DeviceReport.events, InputDevice.reportMove, InputDevice.reportSyn,
      List.length_append]
    split_ifs <;> simp
  | key code pressed => exact Nat.lt_of_sub_eq_succ rfl
  | mwheel value => exact Nat.lt_of_sub_eq_succ rfl

/-- Outside the locked iterations the chain makes the statements of the thread. -/
theorem chain_statement (P : Params) {k : ChainState}
    (hpc : ∀ buttons controller pressed released i bits,
      k.thread.pc ≠ .scan buttons controller pressed released (i :: bits)) :
    k.step P = { k with
      handler := (threadStep P k.handler k.thread).1
      thread := (threadStep P k.handler k.thread).2.1 } := by
  rw [ChainState.step]
  split
  · rename_i hscan
    exact absurd hscan (hpc _ _ _ _ _ _)
  · rfl

/-- A call that the thread takes from its list returns. -/
theorem request_comes (P : Params) (s : HandlerState) (clock : Clock) (r : Request) :
    Comes (ChainState.step P) ChainState.Done (.unlocked s ⟨.ret, clock, [], [r]⟩) := by
  have hreturned {k result : ChainState} {d : ℕ}
      (h : Reaches (ChainState.step P) (ChainState.Bounded d) k result) (hdone : result.Done) :
      Comes (ChainState.step P) ChainState.Done k := by
    obtain ⟨n, hn, -⟩ := h.iterate
    exact ⟨n, hn.symm ▸ hdone⟩
  apply comes_step
  cases r with
  | onButtons clock buttons controller =>
    have hfuel := onButtonsFuel_four P clock buttons controller s
    obtain ⟨clock', hreaches⟩ :=
      (reaches_fuel (d := 2) 4).1 clock buttons controller s _ [] le_rfl hfuel
    exact hreturned hreaches rfl
  | onGesture clock gx gy =>
    have hfuel := onGestureFuel_eq P le_rfl clock gx gy s
    obtain ⟨clock', hreaches⟩ := (reaches_fuel (d := 3) 5).2 clock gx gy s _ [] le_rfl hfuel
    exact hreturned hreaches rfl

section

variable {P : Params} {s : HandlerState} {t t' : DeviceThread}

/-- Fewer events or reports wait. -/
theorem rank_written (hcalls : t'.calls = t.calls) (hchain : t'.chain s = t.chain s)
    (hless : 4 * t'.queue.length + t'.left.length < 4 * t.queue.length + t.left.length) :
    t'.rank P s < t.rank P s := by
  rw [DeviceThread.rank, DeviceThread.rank, Prod.Lex.toLex_lt_toLex]
  right
  refine ⟨congrArg List.length hcalls, ?_⟩
  rw [Prod.Lex.toLex_lt_toLex]
  right
  exact ⟨by rw [hchain], hless⟩

/-- The current call comes nearer to its end. -/
theorem rank_nearer {s' : HandlerState} (hcalls : t'.calls = t.calls)
    (hchain : t'.chain s' = (t.chain s).step P) (hdone : ¬(t.chain s).Done)
    (hcomes : Comes (ChainState.step P) ChainState.Done (t.chain s)) :
    Comes (ChainState.step P) ChainState.Done (t'.chain s') ∧ t'.rank P s' < t.rank P s := by
  obtain ⟨hnext, hless⟩ := hcomes.nearer hdone
  rw [← hchain] at hnext hless
  refine ⟨hnext, ?_⟩
  rw [DeviceThread.rank, DeviceThread.rank, Prod.Lex.toLex_lt_toLex]
  right
  refine ⟨congrArg List.length hcalls, ?_⟩
  rw [Prod.Lex.toLex_lt_toLex]
  exact Or.inl hless

/-- A call less is left. -/
theorem rank_next {s' : HandlerState} (hcalls : t'.calls.length < t.calls.length) :
    t'.rank P s' < t.rank P s := by
  rw [DeviceThread.rank, DeviceThread.rank, Prod.Lex.toLex_lt_toLex]
  exact Or.inl hcalls

end

/-- At a lock guard that waits for the other thread. -/
def DeviceState.waitsFor (s : DeviceState) (c : ControllerId) : Prop :=
  (s.threads c).entries = none ∧ s.mutex ≠ none

/-- A step brings the thread nearer to its end, unless there is nothing left or it waits. -/
theorem DeviceMoves.lowers {P : Params} {s : DeviceState} {c : ControllerId}
    {handler : HandlerState} {mutex : Option ControllerId} {t : DeviceThread}
    (h : DeviceMoves P s c handler mutex t) (hbelongs : (s.threads c).Belongs c)
    (hclean : s.Clean c)
    (hcomes : Comes (ChainState.step P) ChainState.Done
      ((s.threads c).chain (s.handler.forget c.other))) :
    (s.stored c handler mutex t = s ∧ ((s.threads c).finished = true ∨ s.waitsFor c)) ∨
      (Comes (ChainState.step P) ChainState.Done (t.chain (handler.forget c.other)) ∧
        t.rank P (handler.forget c.other) < (s.threads c).rank P (s.handler.forget c.other)) := by
  have hundone {buttons : Word} {controller : ControllerId} {pressed released i : Word}
      {bits : List Word}
      (hpc : (s.threads c).thread.pc = .scan buttons controller pressed released (i :: bits)) :
      ¬((s.threads c).chain (s.handler.forget c.other)).Done := by
    intro hdone
    have hret := (done_iff.mp hdone).1
    simp only [DeviceThread.chain, hpc] at hret
    exact Pc.noConfusion hret
  have hmine {buttons : Word} {controller : ControllerId} {pressed released i : Word}
      {bits : List Word}
      (hpc : (s.threads c).thread.pc = .scan buttons controller pressed released (i :: bits)) :
      controller = c := by
    have hpart := hbelongs.thread.pc
    rw [hpc] at hpart
    exact hpart
  have hopen (hdone : (s.threads c).thread.done = true) : (s.threads c).entries = none := by
    by_contra hsome
    obtain ⟨entries, hentries⟩ := Option.ne_none_iff_exists'.mp hsome
    obtain ⟨_, _, _, _, _, _, hscan⟩ := hbelongs.locked entries hentries
    rw [(done_iff.mp hdone).1] at hscan
    exact Pc.noConfusion hscan
  cases h with
  | write w left hleft =>
    right
    refine ⟨hcomes, rank_written rfl rfl ?_⟩
    rw [hleft]
    simp
  | callSlot report queue hleft hqueue =>
    right
    refine ⟨hcomes, rank_written rfl rfl ?_⟩
    have hevents := events_length report
    rw [hleft, hqueue, reportWrites]
    simp only [List.length_map, List.length_cons, List.length_nil]
    omega
  | waits hleft hqueue hentries hmutex => exact Or.inl ⟨stored_same s c, Or.inr ⟨hentries, hmutex⟩⟩
  | locks buttons controller pressed released i bits hleft hqueue hentries hmutex hpc =>
    right
    refine rank_nearer ?_ ?_ (hundone hpc) hcomes
    · rfl
    simp only [DeviceThread.chain, ChainState.step, hpc, hentries, Option.isSome_none]
    rfl
  | entry buttons controller pressed released i bits entry entries hleft hqueue hentries hpc =>
    right
    obtain rfl := hmine hpc
    refine rank_nearer ?_ ?_ (hundone hpc) hcomes
    · rfl
    simp only [DeviceThread.chain, ChainState.step, hpc, hentries, reportEntry_forget]
    rfl
  | unlocks buttons controller pressed released i bits hleft hqueue hentries hpc =>
    right
    refine rank_nearer ?_ ?_ (hundone hpc) hcomes
    · rfl
    simp only [DeviceThread.chain, ChainState.step, hpc, hentries]
    rfl
  | stays hleft hqueue hdone hcalls =>
    left
    refine ⟨stored_same s c, Or.inl ?_⟩
    simp only [DeviceThread.finished, hdone, hcalls, hqueue, hleft]
    rfl
  | request r calls hleft hqueue hdone hcalls =>
    right
    obtain ⟨hret, hpending, -⟩ := done_iff.mp hdone
    constructor
    · have hchain := request_comes P (s.handler.forget c.other) (s.threads c).thread.clock r
      simp only [DeviceThread.chain, hopen hdone, hret, hpending, Option.isSome_none]
      exact hchain
    · apply rank_next
      rw [hcalls]
      exact Nat.lt_succ_self _
  | gyroscope clock gx gy calls hleft hqueue hdone hcalls =>
    right
    refine ⟨comes_here hdone, rank_next ?_⟩
    rw [hcalls]
    exact Nat.lt_succ_self _
  | statement hleft hqueue hpc hdone =>
    right
    refine rank_nearer ?_ ?_ ?_ hcomes
    · rfl
    · have hforget := threadStep_forget P c s.handler (s.threads c).thread hbelongs.thread
        (hclean hleft hqueue)
      rw [chain_statement P hpc]
      simp only [DeviceThread.chain, hforget]
    · exact ne_true_of_eq_false hdone

/-! ### The mutex -/

/-- The thread takes and returns the mutex with its locked iterations. -/
theorem DeviceMoves.held {P : Params} {s : DeviceState} {c : ControllerId}
    {handler : HandlerState} {mutex : Option ControllerId} {t : DeviceThread}
    (h : DeviceMoves P s c handler mutex t)
    (hheld : s.mutex = some c → (s.threads c).entries ≠ none) :
    (mutex = some c → t.entries ≠ none) ∧ ∀ i, i ≠ c → mutex = some i → s.mutex = some i := by
  cases h with
  | locks buttons controller pressed released i bits hleft hqueue hentries hmutex hpc =>
    refine ⟨fun _ => Option.some_ne_none _, ?_⟩
    intro i hi hsome
    exact absurd (Option.some.inj hsome).symm hi
  | entry buttons controller pressed released i bits entry entries hleft hqueue hentries hpc =>
    exact ⟨fun _ => Option.some_ne_none _, fun _ _ h => h⟩
  | unlocks buttons controller pressed released i bits hleft hqueue hentries hpc =>
    constructor
    · intro hsome
      cases hsome
    · intro i _ hsome
      cases hsome
  | _ => exact ⟨hheld, fun _ _ h => h⟩

/-- Every thread has a part of the handler on which its calls return, and a thread that holds the
mutex is in a locked iteration. -/
structure DeviceState.Live (P : Params) (s : DeviceState) : Prop where
  belongs : ∀ c, (s.threads c).Belongs c
  held : ∀ c, s.mutex = some c → (s.threads c).entries ≠ none
  comes : ∀ c, Comes (ChainState.step P) ChainState.Done
    ((s.threads c).chain (s.handler.forget c.other))

/-- What is left for the two threads. -/
noncomputable def DeviceState.rank (P : Params) (s : DeviceState) :
    (ℕ ×ₗ ℕ ×ₗ ℕ) × (ℕ ×ₗ ℕ ×ₗ ℕ) :=
  ((s.threads .first).rank P (s.handler.forget .second),
    (s.threads .second).rank P (s.handler.forget .first))

/-- Both threads have made their calls and written their reports. -/
def DeviceState.Finished (s : DeviceState) : Prop := ∀ c, (s.threads c).finished = true

/-- A thread whose next step is not in vain: the one that holds the mutex, or one that is not
finished. -/
def DeviceState.helper (s : DeviceState) : ControllerId :=
  match s.mutex with
  | some c => c
  | none => if (s.threads .first).finished = true then .second else .first

theorem live_start (P : Params) (programs : ControllerId → List DeviceCall)
    (hprograms : ∀ c, ∀ call ∈ programs c, call.Belongs c) :
    (DeviceState.start programs).Live P where
  belongs := (sequential_start P programs hprograms).belongs
  held c h := by cases h
  comes c := comes_here rfl

/-- A thread that is finished is outside the locked iterations. -/
theorem finished_unlocked {c : ControllerId} {t : DeviceThread} (h : t.Belongs c)
    (hfinished : t.finished = true) : t.entries = none := by
  by_contra hsome
  obtain ⟨entries, hentries⟩ := Option.ne_none_iff_exists'.mp hsome
  obtain ⟨_, _, _, _, _, _, hscan⟩ := h.locked entries hentries
  simp only [DeviceThread.finished, Bool.and_eq_true] at hfinished
  rw [(done_iff.mp hfinished.1.1.1).1] at hscan
  exact Pc.noConfusion hscan

/-- The helper has something to do. -/
theorem DeviceState.Live.helper_ne {P : Params} {s : DeviceState} (h : s.Live P) {c : ControllerId}
    (hidle : (s.threads c).finished = true ∨ s.waitsFor c) (hgoal : ¬s.Finished) :
    c ≠ s.helper := by
  intro hc
  rw [DeviceState.helper] at hc
  cases hmutex : s.mutex with
  | some i =>
    rw [hmutex] at hc
    dsimp only at hc
    subst hc
    have hentries := h.held c hmutex
    rcases hidle with hfinished | hwaits
    · exact hentries (finished_unlocked (h.belongs c) hfinished)
    · exact hentries hwaits.1
  | none =>
    rw [hmutex] at hc
    dsimp only at hc
    rcases hidle with hfinished | hwaits
    · apply hgoal
      split_ifs at hc with hfirst
      · subst hc
        intro i
        cases i
        · exact hfirst
        · exact hfinished
      · subst hc
        exact absurd hfinished hfirst
    · exact hwaits.2 hmutex

/-- A step keeps all that and lowers the rank, or it changes nothing. -/
theorem DeviceState.Live.step {P : Params} {s : DeviceState} (h : s.Live P) {c : ControllerId}
    (hclean : s.Clean c) :
    (s.step P c).1.Live P ∧ ((s.step P c).1.rank P < s.rank P ∨
      ((s.step P c).1 = s ∧ ((s.threads c).finished = true ∨ s.waitsFor c))) := by
  have hmine := step_continues P s c (h.belongs c) hclean
  have hother (i : ControllerId) (hi : i ≠ c) : (s.step P c).1.threads i = s.threads i :=
    step_threads_other P s hi
  have hframe (i : ControllerId) (hi : i ≠ c) :
      (s.step P c).1.handler.forget i.other = s.handler.forget i.other := by
    obtain rfl : c = i.other := ControllerId.eq_other (Ne.symm hi)
    exact hmine.frame
  obtain ⟨handler, mutex, t, hmoves, hstep⟩ := device_moves P s c
  have hlower := hmoves.lowers (h.belongs c) hclean (h.comes c)
  obtain ⟨howner, hkept⟩ := hmoves.held (h.held c)
  have hself : (s.step P c).1.threads c = t := by rw [hstep, stored_threads]
  have hhandler : (s.step P c).1.handler = handler := congrArg DeviceState.handler hstep
  have hmutex : (s.step P c).1.mutex = mutex := congrArg DeviceState.mutex hstep
  constructor
  · constructor
    · intro i
      by_cases hi : i = c
      · subst hi
        exact hmine.belongs
      · rw [hother i hi]
        exact h.belongs i
    · intro i hsome
      rw [hmutex] at hsome
      by_cases hi : i = c
      · subst hi
        rw [hself]
        exact howner hsome
      · rw [hother i hi]
        exact h.held i (hkept i hi hsome)
    · intro i
      by_cases hi : i = c
      · subst hi
        rcases hlower with ⟨hsame, -⟩ | ⟨hcomes, -⟩
        · rw [hstep, hsame]
          exact h.comes i
        · rw [hself, hhandler]
          exact hcomes
      · rw [hother i hi, hframe i hi]
        exact h.comes i
  · rcases hlower with ⟨hsame, hidle⟩ | ⟨-, hless⟩
    · exact Or.inr ⟨hstep.trans hsame, hidle⟩
    · left
      rw [← hself, ← hhandler] at hless
      rw [DeviceState.rank, DeviceState.rank]
      cases c with
      | first =>
        rw [hother .second ControllerId.noConfusion]
        have hsecond := hframe .second ControllerId.noConfusion
        dsimp only [ControllerId.other] at hsecond
        rw [hsecond]
        exact Prod.mk_lt_mk_of_lt_of_le hless le_rfl
      | second =>
        rw [hother .first ControllerId.noConfusion]
        have hfirst := hframe .first ControllerId.noConfusion
        dsimp only [ControllerId.other] at hfirst
        rw [hfirst]
        exact Prod.mk_lt_mk_of_le_of_lt le_rfl hless

/-! ### Fair schedules -/

/-- A thread that is finished stays so. -/
theorem step_finished (P : Params) (s : DeviceState) (c : ControllerId) (h : s.Finished) :
    (s.step P c).1 = s := by
  have hmine := h c
  simp only [DeviceThread.finished, Bool.and_eq_true, List.isEmpty_iff] at hmine
  obtain ⟨⟨⟨hdone, hcalls⟩, hqueue⟩, hleft⟩ := hmine
  simp only [DeviceState.step, hleft, hqueue, (done_iff.mp hdone).1, DeviceState.advance, hdone,
    hcalls]
  rfl

theorem finished_stays (P : Params) (s : DeviceState) (c : ControllerId) (h : s.Finished) :
    (s.step P c).1.Finished := by
  rw [step_finished P s c h]
  exact h

/-- The helper brings the threads on. -/
theorem device_advances (P : Params) :
    Advances (DeviceState.step P) (fun s c => s.Clean c) (DeviceState.Live P) DeviceState.Finished
      (DeviceState.rank P) DeviceState.helper (fun helper _ c => c = helper) := by
  intro s c hok hlive hgoal
  right
  obtain ⟨hnext, hlower | ⟨hsame, hidle⟩⟩ := hlive.step hok
  · exact ⟨hnext, Or.inl hlower⟩
  · refine ⟨hnext, Or.inr ?_⟩
    rw [hsame]
    exact ⟨rfl, rfl, hlive.helper_ne hidle hgoal⟩

/-- If both threads are scheduled again and again, both come to the end of their calls and all
reports are written: neither the mutex nor the nested calls hold them up. -/
theorem threads_finish (P : Params) (programs : ControllerId → List DeviceCall)
    (hprograms : ∀ c, ∀ call ∈ programs c, call.Belongs c) (schedule : ℕ → ControllerId)
    (hfair : ∀ n c, ∃ m, n ≤ m ∧ schedule m = c)
    (hclean : ∀ n, (stateAt (DeviceState.step P) schedule (.start programs) n).Clean
      (schedule n)) :
    ∃ m, ∀ k, m ≤ k →
      ∀ c, ((stateAt (DeviceState.step P) schedule (.start programs) k).threads c).finished =
        true := by
  obtain ⟨m, -, hgoal⟩ := (device_advances P).reaches hclean (fun n _ _ => hfair n _) 0
    (live_start P programs hprograms)
  exact ⟨m, fun k hk => stateAt_stable (finished_stays P) hk hgoal⟩

/-- The threads take turns forever. -/
def evenOdd (n : ℕ) : ControllerId := if n % 2 = 0 then .first else .second

theorem evenOdd_fair (n : ℕ) (c : ControllerId) : ∃ m, n ≤ m ∧ evenOdd m = c := by
  cases c with
  | first => exact ⟨2 * n, by omega, if_pos (by omega)⟩
  | second => exact ⟨2 * n + 1, by omega, if_neg (by omega)⟩

/-- A thread that is finished takes no release. -/
theorem DeviceState.Finished.clean {s : DeviceState} (h : s.Finished) (c : ControllerId) :
    s.Clean c := by
  rintro - - ⟨-, hpc, -⟩
  have hmine := h c
  simp only [DeviceThread.finished, Bool.and_eq_true] at hmine
  rw [(done_iff.mp hmine.1.1.1).1] at hpc
  exact Pc.noConfusion hpc

theorem threads_finish_pair :
    ∃ m, ∀ k, m ≤ k → ∀ c, ((stateAt (DeviceState.step pairParams) evenOdd
      (.start pairPrograms) k).threads c).finished = true := by
  have hprograms : ∀ c, ∀ call ∈ pairPrograms c, call.Belongs c := by
    intro c
    cases c <;> simp [pairPrograms, DeviceCall.Belongs, Request.Belongs]
  have hbegin := of_along_inputs (DeviceState.step pairParams) evenOdd (.start pairPrograms)
    (show Along (DeviceState.step pairParams) (fun s c => s.Clean c) (.start pairPrograms)
      (inputs evenOdd 340) by decide +kernel)
  have hend : (stateAt (DeviceState.step pairParams) evenOdd (.start pairPrograms)
      340).Finished := by
    rw [stateAt_eq_run]
    intro c
    cases c <;> decide +kernel
  apply threads_finish pairParams pairPrograms hprograms evenOdd evenOdd_fair
  intro n
  by_cases hn : n < 340
  · exact hbegin n hn
  · have hfinished : (stateAt (DeviceState.step pairParams) evenOdd (.start pairPrograms)
        n).Finished := stateAt_stable (finished_stays pairParams) (not_lt.mp hn) hend
    exact hfinished.clean _

end PSMoveInput

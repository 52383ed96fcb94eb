import Mathlib.Algebra.Order.BigOperators.Group.Finset
import Mathlib.Data.Nat.Pairing
import PSMoveInput.ListenerShutdown
import PSMoveInput.Liveness

/-! What a request to stop leads to. `stop` and `onDisconnect` only set flags; the threads leave
their loops when they find them, and the main loop waits for the threads. -/
namespace PSMoveInput

open Liveness Transducer

/-! ### What is left to do -/

/-- The number of statements that are left of a thread that has been told to stop, if `psmove_poll`
has no more data. -/
def ControllerPc.rank : ControllerPc → ℕ
  | .returned => 0
  | .onDisconnect => 1
  | .clearMove => 2
  | .disconnect => 3
  | .resetLastTp => 4
  | .clearThread => 5
  | .checkStop => 6
  | .checkTimeout => 7
  | .poll => 8
  | .entry => 9

/-- The same for the main loop, up to its end or, unless `stop_` is set, to the signal that all
controllers are disconnected. -/
def RunPc.rank (stop : Bool) : RunPc → ℕ
  | .halted => 0
  | .raise => if stop = true then 13 else 0
  | .clearStop => if stop = true then 14 else 1
  | .testStop => 2
  | .joinWait .second _ => 3
  | .join .second => 4
  | .joinWait .first _ => 5
  | .join .first => 6
  | .stopCheck => 7
  | .handleNewDevice _ _ => 8
  | .connect psmoveId => 9 + (maxControllers - psmoveId)
  | .isFullCapacity => 12

/-- The control flow of `run`. -/
inductive RunPc.Next : RunPc → RunPc → Prop
  | requested : Next .stopCheck (.join .first)
  | goOn : Next .stopCheck .isFullCapacity
  | waitFor (c : ControllerId) (t : ℕ) : Next (.join c) (.joinWait c t)
  | firstFree : Next (.join .first) (.join .second)
  | firstJoined (t : ℕ) : Next (.joinWait .first t) (.join .second)
  | secondFree : Next (.join .second) .testStop
  | secondJoined (t : ℕ) : Next (.joinWait .second t) .testStop
  | stopped : Next .testStop .halted
  | restart : Next .testStop .clearStop
  | cleared : Next .clearStop .raise
  | raised : Next .raise .isFullCapacity
  | room : Next .isFullCapacity (.connect 0)
  | full : Next .isFullCapacity .stopCheck
  | found (psmoveId : ℕ) (move : PSMove) :
      Next (.connect psmoveId) (.handleNewDevice psmoveId move)
  | tried (psmoveId : ℕ) : Next (.connect psmoveId) (.connect (psmoveId + 1))
  | exhausted (psmoveId : ℕ) : Next (.connect psmoveId) .stopCheck
  | handled (psmoveId : ℕ) (move : PSMove) : Next (.handleNewDevice psmoveId move) .stopCheck

theorem mainStep_next (s : RunState) (answer : Option ConnectionType) :
    s.mainStep answer = (s, []) ∨ s.pc.Next (s.mainStep answer).1.pc := by
  cases hpc : s.pc with
  | stopCheck =>
    right
    rw [RunState.mainStep, hpc]
    dsimp only
    split_ifs
    · exact .requested
    · exact .goOn
  | join c =>
    right
    rw [RunState.mainStep, hpc]
    dsimp only
    cases (s.slots c).thread with
    | none =>
      cases c with
      | first => exact .firstFree
      | second => exact .secondFree
    | some t => exact .waitFor c t
  | joinWait c t =>
    rw [RunState.mainStep, hpc]
    dsimp only
    split_ifs
    · right
      cases c with
      | first => exact .firstJoined t
      | second => exact .secondJoined t
    · exact Or.inl rfl
  | testStop =>
    right
    rw [RunState.mainStep, hpc]
    dsimp only
    split_ifs
    · exact .stopped
    · exact .restart
  | clearStop =>
    right
    rw [RunState.mainStep, hpc]
    exact .cleared
  | raise =>
    right
    rw [RunState.mainStep, hpc]
    exact .raised
  | isFullCapacity =>
    right
    rw [RunState.mainStep, hpc]
    dsimp only
    split_ifs
    · exact .room
    · exact .full
  | connect psmoveId =>
    right
    rw [RunState.mainStep, hpc]
    dsimp only
    by_cases hid : psmoveId < maxControllers
    · rw [if_pos hid]
      cases connectIteration s.running s.psmoveIds psmoveId
        (answer.map fun connection => ⟨s.opened, connection⟩) with
      | some move => exact .found psmoveId move
      | none => exact .tried psmoveId
    · rw [if_neg hid]
      exact .exhausted psmoveId
  | handleNewDevice psmoveId move =>
    right
    rw [RunState.mainStep, hpc]
    dsimp only
    cases handleNewDevice s.running <;> exact .handled psmoveId move
  | halted =>
    left
    rw [RunState.mainStep, hpc]

namespace RunState

/-- The main loop has ended, or waits for a thread. -/
def waits (s : RunState) : Bool :=
  match s.pc with
  | .halted => true
  | .joinWait _ t => !s.finished t
  | _ => false

/-- The thread is about to call `psmove_poll`. -/
def polls (s : RunState) (t : ℕ) : Bool := (s.workers t).any fun w => w.pc = .poll

def workerRank (s : RunState) (t : ℕ) : ℕ := ((s.workers t).map fun w => w.pc.rank).getD 0

/-- A new thread has fewer statements than ten. A request to stop that comes late starts the main
loop over once. -/
def rank (s : RunState) : ℕ :=
  (if s.stop = true then 0 else 1000) + 10 * s.pc.rank s.stop +
    ∑ t ∈ Finset.range s.started, s.workerRank t

theorem rank_lt_of_main {s s' : RunState} (hsame : SameThreads s s') (hstop : s'.stop = s.stop)
    (hlt : s'.pc.rank s.stop < s.pc.rank s.stop) : s'.rank < s.rank := by
  have hworker (t : ℕ) : s'.workerRank t = s.workerRank t := by
    rw [workerRank, hsame.workers]
    rfl
  simp only [rank, hsame.started, hstop, hworker]
  omega

theorem rank_lt_of_worker {s s' : RunState} {t : ℕ} {w : Worker} {pc : ControllerPc}
    (h : s.Attached) (hw : s.workers t = some w)
    (hworkers : s'.workers = Function.update s.workers t (some { w with pc := pc }))
    (hstarted : s'.started = s.started) (hmain : s'.pc = s.pc) (hstop : s'.stop = s.stop)
    (hlt : pc.rank < w.pc.rank) : s'.rank < s.rank := by
  have hself : s'.workerRank t < s.workerRank t := by
    simp only [workerRank, hworkers, hw, Function.update_self]
    exact hlt
  have hother (t' : ℕ) (ht' : t' ≠ t) : s'.workerRank t' = s.workerRank t' := by
    simp only [workerRank, hworkers, Function.update_of_ne ht']
  have hsum : ∑ t ∈ Finset.range s.started, s'.workerRank t <
      ∑ t ∈ Finset.range s.started, s.workerRank t := by
    apply Finset.sum_lt_sum
    · intro t' _
      by_cases ht' : t' = t
      · rw [ht']
        exact hself.le
      · exact (hother t' ht').le
    · exact ⟨t, Finset.mem_range.mpr (h.lt_started hw), hself⟩
  simp only [rank, hstarted, hmain, hstop]
  omega

/-- The main loop has fewer statements left, and one thread more. -/
theorem rank_startThread {s : RunState} {psmoveId : ℕ} {move : PSMove}
    (hpc : s.pc = .handleNewDevice psmoveId move) (c : ControllerId) :
    ({ s.startThread c psmoveId move with pc := .stopCheck } : RunState).rank < s.rank := by
  have hnew : (s.startThread c psmoveId move).workerRank s.started = 9 := by
    simp only [workerRank, startThread, Function.update_self]
    rfl
  have hold : ∀ t ∈ Finset.range s.started,
      (s.startThread c psmoveId move).workerRank t = s.workerRank t := by
    intro t ht
    have hne : t ≠ s.started := (Finset.mem_range.mp ht).ne
    simp only [workerRank, startThread, Function.update_of_ne hne]
  have hsum : ∑ t ∈ Finset.range (s.started + 1), (s.startThread c psmoveId move).workerRank t =
      ∑ t ∈ Finset.range s.started, s.workerRank t + 9 := by
    rw [Finset.sum_range_succ, Finset.sum_congr rfl hold, hnew]
  have hrank : ({ s.startThread c psmoveId move with pc := .stopCheck } : RunState).rank =
      (if s.stop = true then 0 else 1000) + 10 * 7 +
        ∑ t ∈ Finset.range (s.started + 1), (s.startThread c psmoveId move).workerRank t := rfl
  rw [hrank, hsum, rank, hpc]
  simp only [RunPc.rank]
  omega

/-! ### What a step leaves to do -/

/-- A statement of the main loop, unless it waits, brings it closer to its end. -/
theorem mainStep_rank (s : RunState) (answer : Option ConnectionType)
    (hneed : s.stop = true ∨ s.threadStop = true) (hraise : s.pc = .raise → s.stop = true) :
    (s.mainStep answer).1.rank < s.rank ∨ ((s.mainStep answer).1 = s ∧ s.waits = true) := by
  have hgoto (s' : RunState) (hsame : SameThreads s s') (hstop : s'.stop = s.stop)
      (hlt : s'.pc.rank s.stop < s.pc.rank s.stop) :
      s'.rank < s.rank ∨ (s' = s ∧ s.waits = true) :=
    Or.inl (rank_lt_of_main hsame hstop hlt)
  cases hpc : s.pc with
  | stopCheck =>
    simp only [mainStep, hpc]
    refine hgoto _ ⟨rfl, rfl, rfl⟩ rfl ?_
    rw [hpc]
    dsimp only
    rw [if_pos hneed]
    exact of_decide_eq_true rfl
  | join c =>
    have hafter : (RunPc.afterJoin c).rank s.stop < (RunPc.join c).rank s.stop := by
      cases c <;> exact of_decide_eq_true rfl
    have hwait (t : ℕ) : (RunPc.joinWait c t).rank s.stop < (RunPc.join c).rank s.stop := by
      cases c <;> exact of_decide_eq_true rfl
    simp only [mainStep, hpc]
    cases (s.slots c).thread with
    | none => exact hgoto _ ⟨rfl, rfl, rfl⟩ rfl (hpc ▸ hafter)
    | some t => exact hgoto _ ⟨rfl, rfl, rfl⟩ rfl (hpc ▸ hwait t)
  | joinWait c t =>
    have hafter : (RunPc.afterJoin c).rank s.stop < (RunPc.joinWait c t).rank s.stop := by
      cases c <;> exact of_decide_eq_true rfl
    simp only [mainStep, hpc]
    split_ifs with hfinished
    · exact hgoto _ ⟨rfl, rfl, rfl⟩ rfl (hpc ▸ hafter)
    · right
      refine ⟨rfl, ?_⟩
      simp only [waits, hpc, hfinished, Bool.not_false]
  | testStop =>
    simp only [mainStep, hpc]
    refine hgoto _ ⟨rfl, rfl, rfl⟩ rfl ?_
    rw [hpc]
    dsimp only
    cases s.stop <;> decide
  | clearStop =>
    simp only [mainStep, hpc]
    refine hgoto _ ⟨rfl, rfl, rfl⟩ rfl ?_
    rw [hpc]
    dsimp only
    cases s.stop <;> decide
  | raise =>
    simp only [mainStep, hpc]
    refine hgoto _ ⟨rfl, rfl, rfl⟩ rfl ?_
    rw [hpc, hraise hpc]
    exact of_decide_eq_true rfl
  | isFullCapacity =>
    simp only [mainStep, hpc]
    refine hgoto _ ⟨rfl, rfl, rfl⟩ rfl ?_
    rw [hpc]
    split_ifs <;> exact of_decide_eq_true rfl
  | connect psmoveId =>
    simp only [mainStep, hpc]
    by_cases hid : psmoveId < maxControllers
    · simp only [if_pos hid]
      cases connectIteration s.running s.psmoveIds psmoveId
        (answer.map fun connection => ⟨s.opened, connection⟩) with
      | some move =>
        refine hgoto _ ⟨rfl, rfl, rfl⟩ rfl ?_
        rw [hpc]
        simp only [RunPc.rank]
        omega
      | none =>
        refine hgoto _ ⟨rfl, rfl, rfl⟩ rfl ?_
        rw [hpc]
        simp only [RunPc.rank]
        omega
    · simp only [if_neg hid]
      refine hgoto _ ⟨rfl, rfl, rfl⟩ rfl ?_
      rw [hpc]
      simp only [RunPc.rank]
      omega
  | handleNewDevice psmoveId move =>
    simp only [mainStep, hpc]
    cases PSMoveInput.handleNewDevice s.running with
    | none =>
      refine hgoto _ ⟨rfl, rfl, rfl⟩ rfl ?_
      rw [hpc]
      exact of_decide_eq_true rfl
    | some c => exact Or.inl (rank_startThread hpc c)
  | halted =>
    right
    simp only [mainStep, waits, hpc, and_self]

/-- A statement of a thread that has been told to stop brings it closer to its end, unless
`psmove_poll` has data. -/
theorem workerStep_rank {s : RunState} (h : s.Attached)
    (hneed : s.stop = true ∨ s.threadStop = true) (t : ℕ) (answer : Bool) :
    (s.workerStep t answer).1.rank < s.rank ∨
      ((s.workerStep t answer).1 = s ∧
        (s.finished t = true ∨ (answer = true ∧ s.polls t = true))) := by
  cases hw : s.workers t with
  | none =>
    right
    simp only [workerStep, finished, hw, Option.all_none, true_or, and_self]
  | some w =>
    obtain ⟨slot, handle, session, pc⟩ := w
    simp only [workerStep, hw]
    have hlower (s' : RunState) (pc' : ControllerPc)
        (hworkers : s'.workers = Function.update s.workers t (some ⟨slot, handle, session, pc'⟩))
        (hstarted : s'.started = s.started) (hmain : s'.pc = s.pc) (hstop : s'.stop = s.stop)
        (hlt : pc'.rank < pc.rank) : s'.rank < s.rank :=
      rank_lt_of_worker h hw hworkers hstarted hmain hstop hlt
    cases pc with
    | entry =>
      left
      dsimp only
      refine hlower _ _ rfl rfl rfl rfl ?_
      split_ifs <;> decide
    | checkStop =>
      left
      dsimp only
      refine hlower _ _ rfl rfl rfl rfl ?_
      rw [if_pos hneed]
      decide
    | poll =>
      by_cases hdata : (s.slots slot).move ≠ none ∧ answer = true
      · right
        simp only [if_pos hdata]
        constructor
        · simp only [goto]
          rw [← hw, Function.update_eq_self]
        · right
          refine ⟨hdata.2, ?_⟩
          simp only [polls, hw, Option.any_some, decide_true]
      · left
        simp only [if_neg hdata]
        exact hlower _ _ rfl rfl rfl rfl (by decide)
    | checkTimeout =>
      left
      dsimp only
      refine hlower _ _ rfl rfl rfl rfl ?_
      split_ifs <;> decide
    | clearThread => exact Or.inl (hlower _ _ rfl rfl rfl rfl (by decide))
    | resetLastTp => exact Or.inl (hlower _ _ rfl rfl rfl rfl (by decide))
    | disconnect => exact Or.inl (hlower _ _ rfl rfl rfl rfl (by decide))
    | clearMove => exact Or.inl (hlower _ _ rfl rfl rfl rfl (by decide))
    | onDisconnect => exact Or.inl (hlower _ _ rfl rfl rfl rfl (by decide))
    | returned =>
      right
      refine ⟨rfl, Or.inl ?_⟩
      simp only [finished, hw, Option.all_some, decide_true]

/-- The number of statements does not grow by a request to stop. -/
theorem rank_stop (s : RunState) :
    ({ s with stop := true } : RunState).rank < s.rank ∨
      (({ s with stop := true } : RunState).rank = s.rank ∧ s.stop = true) := by
  cases hstop : s.stop with
  | true =>
    right
    simp only [rank, hstop]
    exact ⟨rfl, trivial⟩
  | false =>
    left
    have hpc : s.pc.rank true ≤ s.pc.rank false + 13 := by
      cases s.pc with
      | raise => exact of_decide_eq_true rfl
      | clearStop => exact of_decide_eq_true rfl
      | join c => cases c <;> exact Nat.le_add_right _ _
      | joinWait c t => cases c <;> exact Nat.le_add_right _ _
      | _ => exact Nat.le_add_right _ _
    have hsum : ∑ t ∈ Finset.range s.started, ({ s with stop := true } : RunState).workerRank t =
        ∑ t ∈ Finset.range s.started, s.workerRank t := rfl
    simp only [rank, hstop, hsum]
    simp only [↓reduceIte, Bool.false_eq_true]
    omega

/-! ### Who has to move -/

/-- The main loop and all threads have ended. -/
def Ended (s : RunState) : Prop :=
  s.pc = .halted ∧ ∀ t w, s.workers t = some w → w.pc = .returned

/-- The thread that the main loop waits for, or one that is left after the end of the main loop. -/
def helper (s : RunState) : Option ℕ :=
  match s.pc with
  | .joinWait _ t => if s.finished t = true then none else some t
  | .halted => (List.range s.started).find? fun t => !s.finished t
  | _ => none

/-- A statement of the helper, which is the main loop unless there is a thread. -/
def Moves : Option ℕ → RunState → RunEvent → Prop
  | none, _, ev => ∃ answer, ev = .main answer
  | some t, s, ev => ∃ answer, ev = .worker t answer ∧ (answer = true → s.polls t = false)

/-- What is no statement is nobody's move. -/
theorem not_moves {s : RunState} {helper : Option ℕ} {ev : RunEvent}
    (hmain : ∀ answer, ev ≠ .main answer) (hworker : ∀ t answer, ev ≠ .worker t answer) :
    ¬Moves helper s ev := by
  intro h
  cases helper with
  | none =>
    obtain ⟨answer, hev⟩ := h
    exact hmain answer hev
  | some t =>
    obtain ⟨answer, hev, -⟩ := h
    exact hworker t answer hev

theorem helper_unfinished {s : RunState} {t : ℕ} (h : s.helper = some t) :
    s.finished t = false := by
  rw [helper] at h
  split at h
  · split_ifs at h with hfinished
    rw [← Option.some.inj h]
    exact Bool.eq_false_of_not_eq_true hfinished
  · have hfound := List.find?_some h
    simpa using hfound
  · cases h

theorem finished_iff (s : RunState) (t : ℕ) :
    s.finished t = true ↔ ∀ w, s.workers t = some w → w.pc = .returned := by
  rw [finished]
  cases s.workers t with
  | none => simp
  | some w => simp

/-- Where the main loop waits, or has ended before the threads, a thread has to move. -/
theorem waits_helper {s : RunState} (h : s.Attached) (hwaits : s.waits = true) (hend : ¬s.Ended) :
    s.helper ≠ none := by
  rw [waits] at hwaits
  rw [helper]
  split at hwaits
  · rename_i hpc
    rw [hpc]
    intro hnone
    apply hend
    refine ⟨hpc, fun t w hw => ?_⟩
    have hfinished := List.find?_eq_none.mp hnone t (List.mem_range.mpr (h.lt_started hw))
    exact (s.finished_iff t).mp (by simpa using hfinished) w hw
  · rename_i hpc
    rw [hpc]
    dsimp only
    rw [if_neg (by simpa using hwaits)]
    exact Option.some_ne_none _
  · exact absurd hwaits Bool.false_ne_true

/-- A step brings the program that has to stop closer to its end, or leaves everything that counts
as it is and is not a statement of the helper. -/
theorem step_rank {s : RunState} (h : s.Attached) (hneed : s.stop = true ∨ s.threadStop = true)
    (hraise : s.pc = .raise → s.stop = true) (hend : ¬s.Ended) (ev : RunEvent) :
    (s.step ev).1.rank < s.rank ∨ ((s.step ev).1.rank = s.rank ∧ (s.step ev).1.helper = s.helper ∧
      ¬Moves s.helper s ev) := by
  cases ev with
  | main answer =>
    rcases s.mainStep_rank answer hneed hraise with hlt | ⟨hsame, hwaits⟩
    · exact Or.inl hlt
    · right
      refine ⟨congrArg rank hsame, congrArg helper hsame, ?_⟩
      obtain ⟨t, ht⟩ := Option.ne_none_iff_exists'.mp (waits_helper h hwaits hend)
      rw [ht]
      rintro ⟨answer', hev, -⟩
      cases hev
  | worker t answer =>
    rcases workerStep_rank h hneed t answer with hlt | ⟨hsame, hidle⟩
    · exact Or.inl hlt
    · right
      refine ⟨congrArg rank hsame, congrArg helper hsame, ?_⟩
      cases hhelper : s.helper with
      | none =>
        rintro ⟨answer', hev⟩
        cases hev
      | some t' =>
        rintro ⟨answer', hev, hpoll⟩
        obtain ⟨rfl, rfl⟩ := RunEvent.worker.inj hev
        rcases hidle with hfinished | ⟨hdata, hpolls⟩
        · rw [helper_unfinished hhelper] at hfinished
          cases hfinished
        · rw [hpoll hdata] at hpolls
          cases hpolls
  | disconnectKey t =>
    right
    have hmoves : ¬Moves s.helper s (.disconnectKey t) :=
      not_moves (fun _ => RunEvent.noConfusion) fun _ _ => RunEvent.noConfusion
    simp only [step]
    split_ifs
    · exact ⟨rfl, rfl, hmoves⟩
    · exact ⟨rfl, rfl, hmoves⟩
  | stop =>
    rcases s.rank_stop with hlt | ⟨hsame, hstop⟩
    · exact Or.inl hlt
    · right
      refine ⟨hsame, rfl, ?_⟩
      exact not_moves (fun _ => RunEvent.noConfusion) fun _ _ => RunEvent.noConfusion

/-! ### What the steps keep -/

theorem step_attached (s : RunState) (ev : RunEvent) (h : s.Attached) : (s.step ev).1.Attached := by
  cases ev with
  | main answer =>
    simp only [step]
    cases mainStep_moves s answer with
    | quiet same => exact h.keep same
    | connected psmoveId move same => exact h.keep same
    | refused same => exact h.keep same
    | starts psmoveId move c device slot state =>
      rw [state]
      exact h.start (handleNewDevice_free slot) psmoveId move .stopCheck
  | worker t answer =>
    simp only [step]
    rcases workerStep_spec s t answer with hstay | ⟨w, pc, hm, -⟩
    · rw [hstay]
      exact h
    · exact h.moves hm
  | disconnectKey t =>
    simp only [step]
    split_ifs
    · exact h.keep ⟨rfl, rfl, rfl⟩
    · exact h
  | stop => exact h.keep ⟨rfl, rfl, rfl⟩

/-- The main loop clears one flag, right before the signal that all controllers are
disconnected. -/
theorem mainStep_flags (s : RunState) (answer : Option ConnectionType) :
    (s.mainStep answer).1.stop = s.stop ∧
      ((s.mainStep answer).1.threadStop = s.threadStop ∨ (s.mainStep answer).1.pc = .raise) := by
  cases hpc : s.pc with
  | join c =>
    rw [mainStep, hpc]
    dsimp only
    cases (s.slots c).thread <;> exact ⟨rfl, Or.inl rfl⟩
  | joinWait c t =>
    rw [mainStep, hpc]
    dsimp only
    split_ifs <;> exact ⟨rfl, Or.inl rfl⟩
  | connect psmoveId =>
    rw [mainStep, hpc]
    dsimp only
    by_cases hid : psmoveId < maxControllers
    · rw [if_pos hid]
      cases connectIteration s.running s.psmoveIds psmoveId
        (answer.map fun connection => ⟨s.opened, connection⟩) <;> exact ⟨rfl, Or.inl rfl⟩
    · rw [if_neg hid]
      exact ⟨rfl, Or.inl rfl⟩
  | handleNewDevice psmoveId move =>
    rw [mainStep, hpc]
    dsimp only
    cases PSMoveInput.handleNewDevice s.running <;> exact ⟨rfl, Or.inl rfl⟩
  | clearStop =>
    rw [mainStep, hpc]
    exact ⟨rfl, Or.inr rfl⟩
  | _ =>
    rw [mainStep, hpc]
    exact ⟨rfl, Or.inl rfl⟩

/-- A thread sets a flag and clears none. -/
theorem workerStep_flags (s : RunState) (t : ℕ) (answer : Bool) :
    (s.workerStep t answer).1.stop = s.stop ∧
      (s.threadStop = true → (s.workerStep t answer).1.threadStop = true) := by
  cases hw : s.workers t with
  | none =>
    rw [workerStep, hw]
    exact ⟨rfl, id⟩
  | some w =>
    rw [workerStep, hw]
    dsimp only
    cases w.pc with
    | onDisconnect => exact ⟨rfl, fun _ => rfl⟩
    | _ => exact ⟨rfl, id⟩

theorem step_stop (s : RunState) (ev : RunEvent) (h : s.stop = true) :
    (s.step ev).1.stop = true := by
  cases ev with
  | main answer => exact (s.mainStep_flags answer).1.trans h
  | worker t answer => exact (s.workerStep_flags t answer).1.trans h
  | disconnectKey t =>
    simp only [step]
    split_ifs <;> exact h
  | stop => rfl

/-- Only the main loop moves itself. -/
theorem step_pc (s : RunState) {ev : RunEvent} (h : ∀ answer, ev ≠ .main answer) :
    (s.step ev).1.pc = s.pc := by
  cases ev with
  | main answer => exact absurd rfl (h answer)
  | worker t answer =>
    simp only [step]
    rcases workerStep_spec s t answer with hstay | ⟨w, pc, hm, -⟩
    · rw [hstay]
    · exact hm.main
  | disconnectKey t =>
    simp only [step]
    split_ifs <;> rfl
  | stop => rfl

/-- A request stays until the signal that it leads to. -/
theorem step_needToStop (s : RunState) (ev : RunEvent) (h : s.stop = true ∨ s.threadStop = true) :
    ((s.step ev).1.stop = true ∨ (s.step ev).1.threadStop = true) ∨ (s.step ev).1.pc = .raise := by
  rcases h with hstop | hthread
  · exact Or.inl (Or.inl (s.step_stop ev hstop))
  · cases ev with
    | main answer =>
      rcases (s.mainStep_flags answer).2 with hsame | hraise
      · exact Or.inl (Or.inr (hsame.trans hthread))
      · exact Or.inr hraise
    | worker t answer => exact Or.inl (Or.inr ((s.workerStep_flags t answer).2 hthread))
    | disconnectKey t =>
      simp only [step]
      split_ifs
      · exact Or.inl (Or.inr rfl)
      · exact Or.inl (Or.inr hthread)
    | stop => exact Or.inl (Or.inl rfl)

/-- There is nothing left to do at the end. -/
theorem step_ended (s : RunState) (ev : RunEvent) (h : s.Ended) : (s.step ev).1.Ended := by
  obtain ⟨hpc, hreturned⟩ := h
  cases ev with
  | main answer =>
    simp only [step, mainStep, hpc]
    exact ⟨hpc, hreturned⟩
  | worker t answer =>
    have hsame : s.workerStep t answer = (s, []) := by
      cases hw : s.workers t with
      | none => simp only [workerStep, hw]
      | some w => simp only [workerStep, hw, hreturned t w hw]
    simp only [step, hsame]
    exact ⟨hpc, hreturned⟩
  | disconnectKey t =>
    simp only [step]
    split_ifs <;> exact ⟨hpc, hreturned⟩
  | stop => exact ⟨hpc, hreturned⟩

end RunState

/-! ### Fair schedules -/

/-- The main loop and every thread make statements again and again, and `psmove_poll` runs out of
data again and again. -/
structure FairSchedule (schedule : ℕ → RunEvent) : Prop where
  main : ∀ n, ∃ m, n ≤ m ∧ ∃ answer, schedule m = .main answer
  worker : ∀ n t, (stateAt RunState.step schedule .init n).workers t ≠ none →
    ∃ m, n ≤ m ∧ ∃ answer, schedule m = .worker t answer ∧
      (answer = true → (stateAt RunState.step schedule .init m).polls t = false)

variable {schedule : ℕ → RunEvent}

/-- Whoever has to move moves. -/
theorem FairSchedule.moves (h : FairSchedule schedule) (n : ℕ) :
    ∃ m, n ≤ m ∧ RunState.Moves (stateAt RunState.step schedule .init n).helper
      (stateAt RunState.step schedule .init m) (schedule m) := by
  cases hhelper : (stateAt RunState.step schedule .init n).helper with
  | none => exact h.main n
  | some t =>
    have hunfinished := RunState.helper_unfinished hhelper
    apply h.worker n t
    intro hnone
    rw [RunState.finished, hnone] at hunfinished
    cases hunfinished

/-- After some first events, the main loop and the threads take turns. -/
def turns (first : List RunEvent) (n : ℕ) : RunEvent :=
  (first[n]?).getD (if n % 2 = 0 then .main none else .worker (n / 2).unpair.1 false)

theorem turns_fair (first : List RunEvent) : FairSchedule (turns first) := by
  have hlater (n : ℕ) (hn : first.length ≤ n) : first[n]? = none := List.getElem?_eq_none hn
  constructor
  · intro n
    refine ⟨2 * (n + first.length), by omega, none, ?_⟩
    rw [turns, hlater _ (by omega), Option.getD_none, if_pos (by omega)]
  · intro n t _
    have hle := Nat.right_le_pair t (n + first.length)
    refine ⟨2 * Nat.pair t (n + first.length) + 1, by omega, false, ?_, fun h => by cases h⟩
    have hhalf : (2 * Nat.pair t (n + first.length) + 1) / 2 = Nat.pair t (n + first.length) := by
      omega
    rw [turns, hlater _ (by omega), Option.getD_none, if_neg (by omega), hhalf, Nat.unpair_pair]

theorem attached_at (n : ℕ) : (stateAt RunState.step schedule .init n).Attached :=
  stateAt_invariant RunState.step_attached attached_init n

theorem reaches_ended (hfair : FairSchedule schedule) {n : ℕ}
    (hstop : (stateAt RunState.step schedule .init n).stop = true) :
    ∃ m, n ≤ m ∧ (stateAt RunState.step schedule .init m).Ended := by
  have hadvances : Advances RunState.step (fun _ _ => True)
      (fun s => s.Attached ∧ s.stop = true) RunState.Ended RunState.rank RunState.helper
      RunState.Moves := by
    rintro s ev - ⟨hattached, hflag⟩ hend
    right
    refine ⟨⟨s.step_attached ev hattached, s.step_stop ev hflag⟩, ?_⟩
    exact RunState.step_rank hattached (Or.inl hflag) (fun _ => hflag) hend ev
  exact hadvances.reaches (fun _ => trivial) (fun n _ _ => hfair.moves n) n
    ⟨attached_at n, hstop⟩

/-- Once `stop` has been called, `run` returns and all threads end. -/
theorem stop_ends (hfair : FairSchedule schedule) {n : ℕ}
    (hstop : (stateAt RunState.step schedule .init n).stop = true) :
    ∃ m, n ≤ m ∧ ∀ k, m ≤ k → (stateAt RunState.step schedule .init k).Ended := by
  obtain ⟨m, hnm, hend⟩ := reaches_ended hfair hstop
  exact ⟨m, hnm, fun k hk => stateAt_stable RunState.step_ended hk hend⟩

/-- A thread has been started when `stop` is called. -/
theorem stop_ends_started :
    ∃ m, 5 ≤ m ∧ ∀ k, m ≤ k →
      (stateAt RunState.step (turns (startEvents ++ [.stop])) .init k).Ended :=
  stop_ends (turns_fair _) (by decide +kernel)

/-- `run` returns behind the joins. -/
theorem mainStep_halts {s : RunState} {answer : Option ConnectionType} (hpc : s.pc ≠ .halted)
    (hhalted : (s.mainStep answer).1.pc = .halted) : s.pc = .testStop := by
  rcases mainStep_next s answer with hstay | hnext
  · rw [hstay] at hhalted
    exact absurd hhalted hpc
  · rw [hhalted] at hnext
    revert hnext
    generalize s.pc = pc
    intro hnext
    cases hnext with
    | stopped => rfl

/-- Nobody is left when `run` returns. -/
structure RunState.EndsAlone (s : RunState) : Prop where
  settled : s.Settled
  ended : s.pc = .halted → ∀ t w, s.workers t = some w → w.pc = .returned

theorem endsAlone_init : RunState.init.EndsAlone where
  settled := settled_init
  ended h := RunPc.noConfusion h

theorem step_endsAlone (s : RunState) (ev : RunEvent) (hok : joinsSettled s ev = true)
    (h : s.EndsAlone) : (s.step ev).1.EndsAlone := by
  refine ⟨step_settled s ev hok h.settled, ?_⟩
  intro hhalted
  cases ev with
  | main answer =>
    by_cases hpc : s.pc = .halted
    · have hsame : s.mainStep answer = (s, []) := by
        simp only [RunState.mainStep, hpc]
      simp only [RunState.step, hsame]
      exact h.ended hpc
    · have htest := mainStep_halts hpc hhalted
      intro t w hw
      have hworkers : ((s.step (.main answer)).1).workers = s.workers := by
        simp only [RunState.step, RunState.mainStep, htest]
      rw [hworkers] at hw
      apply h.settled.returned _ hw
      intro c
      rw [htest]
      trivial
  | worker t answer =>
    simp only [RunState.step] at hhalted ⊢
    rcases workerStep_spec s t answer with hstay | ⟨w, pc, hm, -⟩
    · rw [hstay] at hhalted ⊢
      exact h.ended hhalted
    · -- a thread that makes a statement has not returned
      rw [hm.main] at hhalted
      exact absurd (h.ended hhalted t w hm.worker) hm.next.not_returned
  | disconnectKey t =>
    simp only [RunState.step] at hhalted ⊢
    split_ifs at hhalted ⊢
    · exact h.ended hhalted
    · exact h.ended hhalted
  | stop => exact h.ended hhalted

/-- A main loop that is about to raise the signal does so. -/
theorem raise_executed (hfair : FairSchedule schedule) {n : ℕ}
    (hraise : (stateAt RunState.step schedule .init n).pc = .raise) :
    ∃ m, n ≤ m ∧ (stateAt RunState.step schedule .init m).pc = .raise ∧
      ∃ answer, schedule m = .main answer := by
  by_contra hnever
  have hstays (m : ℕ) (hnm : n ≤ m) : (stateAt RunState.step schedule .init m).pc = .raise := by
    induction m, hnm using Nat.le_induction with
    | base => exact hraise
    | succ m hnm ih =>
      refine Eq.trans (RunState.step_pc _ ?_) ih
      intro answer hmain
      exact hnever ⟨m, hnm, ih, answer, hmain⟩
  obtain ⟨m, hnm, hmain⟩ := hfair.main n
  exact hnever ⟨m, hnm, hstays m hnm, hmain⟩

/-- A disconnect request makes the listener raise `disconnectCompleteSignal_`, unless `run` returns.
If no join misses a thread, all threads have returned by then. -/
theorem disconnect_completes (hfair : FairSchedule schedule) {n : ℕ}
    (hrequest : (stateAt RunState.step schedule .init n).threadStop = true) :
    ∃ m, n ≤ m ∧ ((stateAt RunState.step schedule .init m).pc = .halted ∨
      (stateAt RunState.step schedule .init (m + 1)).sessions =
        (stateAt RunState.step schedule .init m).sessions + 1) ∧
      ((∀ k < m, joinsSettled (stateAt RunState.step schedule .init k) (schedule k) = true) →
        ∀ t w, (stateAt RunState.step schedule .init m).workers t = some w → w.pc = .returned) := by
  have hadvances : Advances RunState.step (fun _ _ => True)
      (fun s => s.Attached ∧ (s.stop = true ∨ s.threadStop = true))
      (fun s => s.pc = .halted ∨ s.pc = .raise) RunState.rank RunState.helper RunState.Moves := by
    rintro s ev - ⟨hattached, hneed⟩ hgoal
    rw [not_or] at hgoal
    rcases s.step_needToStop ev hneed with hstill | hraise
    · right
      refine ⟨⟨s.step_attached ev hattached, hstill⟩, ?_⟩
      exact RunState.step_rank hattached hneed (fun h => absurd h hgoal.2)
        (fun h => hgoal.1 h.1) ev
    · exact Or.inl (Or.inr hraise)
  -- at the end of `run` and at the signal alike
  have halone (m : ℕ) (hjoins : ∀ k < m,
      joinsSettled (stateAt RunState.step schedule .init k) (schedule k) = true) :
      (stateAt RunState.step schedule .init m).EndsAlone := by
    rw [stateAt_eq_run]
    exact run_invariant_along RunState.step (fun s ev => joinsSettled s ev = true)
      RunState.EndsAlone step_endsAlone _ _ endsAlone_init (along_inputs _ _ _ hjoins)
  obtain ⟨m, hnm, hgoal⟩ :=
    hadvances.reaches (fun _ => trivial) (fun n _ _ => hfair.moves n) n
      ⟨attached_at n, Or.inr hrequest⟩
  rcases hgoal with hhalted | hraise
  · refine ⟨m, hnm, Or.inl hhalted, ?_⟩
    intro hjoins
    exact (halone m hjoins).ended hhalted
  obtain ⟨k, hmk, hpc, answer, hmain⟩ := raise_executed hfair hraise
  refine ⟨k, hnm.trans hmk, Or.inr ?_, ?_⟩
  · rw [stateAt, hmain, RunState.step, RunState.mainStep, hpc]
  · intro hjoins t w hw
    refine (halone k hjoins).settled.returned ?_ hw
    intro c
    rw [hpc]
    trivial

/-- The first controller's disconnect key is pressed. -/
theorem disconnect_completes_key :
    ∃ m, 7 ≤ m ∧
      let s (k : ℕ) := stateAt RunState.step
        (turns (startEvents ++ [.worker 0 false, .worker 0 false, .disconnectKey 0])) .init k
      ((s m).pc = .halted ∨ (s (m + 1)).sessions = (s m).sessions + 1) ∧
        ((∀ k < m, joinsSettled (s k) (turns
            (startEvents ++ [.worker 0 false, .worker 0 false, .disconnectKey 0]) k) = true) →
          ∀ t w, (s m).workers t = some w → w.pc = .returned) :=
  disconnect_completes (turns_fair _) (by decide +kernel)

end PSMoveInput

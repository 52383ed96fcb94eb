import PSMoveInput.GestureSpacing

/-! The LEDs of a controller. `setLeds` sends their colour when a thread starts, and `updateLeds`
sends it again after so many passes of the outer loop. -/
namespace PSMoveInput

open Transducer Pacing

/-! ### What is sent -/

structure Colour where
  red : ℕ
  green : ℕ
  blue : ℕ
  deriving DecidableEq, Repr

/-- A controller thread and its LEDs. -/
inductive LedAction where
  /-- `psmove_set_leds` and the `psmove_update_leds` after it. -/
  | setLeds (colour : Colour)
  /-- The message of `updateLeds`, once in every pass. -/
  | counted (pollCount : ℤ)
  /-- The `psmove_update_leds` of `updateLeds`. -/
  | updateLeds
  | sleep
  deriving DecidableEq, Repr

def LedAction.isPass : LedAction → Bool
  | .counted _ => true
  | _ => false

def LedAction.isRefresh : LedAction → Bool
  | .updateLeds => true
  | _ => false

/-- The controller gets its colour. -/
def LedAction.sends : LedAction → Bool
  | .setLeds _ => true
  | .updateLeds => true
  | _ => false

def LedAction.isSleep : LedAction → Bool
  | .sleep => true
  | _ => false

def ControllerThread.setLeds (t : ControllerThread) : List LedAction :=
  match t.id with
  | .first => [.setLeds ⟨33, 119, 47⟩]
  | .second => [.setLeds ⟨123, 59, 160⟩]

/-- What `updateLeds` does besides counting. -/
def LoopState.ledActions (s : LoopState) : List LedAction :=
  .counted s.pollCount ::
    if s.pollCount + 1 > s.ledTimeout.tdiv s.thread.pollTimeout then [.updateLeds] else []

/-- The steps of a slot, with what its thread does about the LEDs. -/
def Session.ledStep (T : LoopTimeouts) (s : Session) (ev : PassEvent) :
    Session × List LedAction :=
  let r := s.step T ev
  let actions :=
    match ev with
    | .start _ _ _ => if s.loop.thread.running = false then r.1.loop.thread.setLeds else []
    | .pass samples _ =>
      if s.loop.thread.running = true then
        { s.loop with thread := (run ControllerThread.poll s.loop.thread samples).1 }.ledActions ++
          (r.2.filter LoopAction.isSleep).map fun _ => .sleep
      else []
    | .stop => []
    | .resetLastTp => []
  (r.1, actions)

/-- The passes in which the LEDs are updated, the first pass after the `n`-th being `n + 1`. -/
def refreshPasses (n : ℕ) (actions : List LedAction) : List ℕ :=
  ticksBefore LedAction.isPass LedAction.isRefresh n actions

/-- How often the thread has slept since the LEDs were last sent their colour. -/
def sleepsSince (n : ℕ) (actions : List LedAction) : ℕ :=
  since LedAction.isSleep LedAction.sends n actions

/-! ### The counter -/

/-- `pollCount_` counts on from one thread of the slot to the next. After `n` passes, with `m`
sleeps since the last update. -/
structure Session.Counts (T : LoopTimeouts) (k : ℕ) (s : Session) (n m : ℕ) : Prop where
  pollCount : s.loop.pollCount = ((n % (k + 1) : ℕ) : ℤ)
  pollTimeout : s.loop.thread.running = true → s.loop.thread.pollTimeout = T.pollTimeout
  ledTimeout : s.loop.thread.running = true → s.loop.ledTimeout = T.ledTimeout
  sleeps : s.loop.thread.running = true → m ≤ n % (k + 1) + 1
  bound : m ≤ k + 1

theorem counts_init (T : LoopTimeouts) (k : ℕ) : Session.init.Counts T k 0 0 where
  pollCount := by
    rw [Nat.zero_mod]
    rfl
  pollTimeout h := absurd h Bool.false_ne_true
  ledTimeout h := absurd h Bool.false_ne_true
  sleeps _ := Nat.zero_le _
  bound := Nat.zero_le _

theorem polls_pollTimeout (samples : List Sample) (t : ControllerThread) :
    (run ControllerThread.poll t samples).1.pollTimeout = t.pollTimeout :=
  run_invariant ControllerThread.poll (fun t' => t'.pollTimeout = t.pollTimeout) samples
    (fun _ _ _ h => h) t rfl

/-- What a pass shows of its last statement. -/
theorem pass_slept (D : ℤ) (s : LoopState) (samples : List Sample) (tp : Timespec) :
    ((s.pass D samples tp).1.thread.running = s.thread.running ∧
      ((s.pass D samples tp).2.filter LoopAction.isSleep).map (fun _ => LedAction.sleep) =
        [.sleep]) ∨
    ((s.pass D samples tp).1.thread.running = false ∧
      ((s.pass D samples tp).2.filter LoopAction.isSleep).map (fun _ => LedAction.sleep) = []) := by
  have hcalls : ((run ControllerThread.poll s.thread samples).2.map LoopAction.call).filter
      LoopAction.isSleep = [] := by
    rw [List.filter_eq_nil_iff, ← List.countP_eq_zero]
    exact countP_isSleep_calls _
  by_cases hcheck : (run ControllerThread.poll s.thread samples).1.lastTp.tvSec ≠ 0 ∧
      tp.tvSec - (run ControllerThread.poll s.thread samples).1.lastTp.tvSec > D
  · have hpass : s.pass D samples tp = _ := if_pos hcheck
    right
    rw [hpass, List.filter_append, hcalls]
    exact ⟨rfl, rfl⟩
  · have hpass : s.pass D samples tp = _ := if_neg hcheck
    left
    rw [hpass, List.filter_append, hcalls]
    exact ⟨polls_running samples s.thread, rfl⟩

theorem pass_updates (D : ℤ) (s : LoopState) (samples : List Sample) (tp : Timespec) :
    (s.pass D samples tp).1.pollCount = s.updateLeds.pollCount ∧
      (s.pass D samples tp).1.ledTimeout = s.ledTimeout ∧
      (s.pass D samples tp).1.thread.pollTimeout = s.thread.pollTimeout := by
  have hpoll := polls_pollTimeout samples s.thread
  simp only [LoopState.pass, LoopState.updateLeds, LoopState.leave]
  split_ifs <;> simp_all

/-- The counter restarts with the `k + 1`-th pass. -/
theorem mod_counter (n k : ℕ) :
    (n % (k + 1) = k ∧ (n + 1) % (k + 1) = 0) ∨
      (n % (k + 1) < k ∧ (n + 1) % (k + 1) = n % (k + 1) + 1) := by
  by_cases hlast : n % (k + 1) = k
  · exact Or.inl ⟨hlast, Nat.succ_mod_succ_eq_zero_iff.mpr hlast⟩
  · right
    have hlt : n % (k + 1) < k := by
      have hle : n % (k + 1) < k + 1 := Nat.mod_lt n (Nat.succ_pos k)
      omega
    refine ⟨hlt, ?_⟩
    calc
      (n + 1) % (k + 1) = (n % (k + 1) + 1) % (k + 1) := (Nat.mod_add_mod n (k + 1) 1).symm
      _ = n % (k + 1) + 1 := Nat.mod_eq_of_lt (by omega)

/-- The numbers of the passes that refresh the LEDs, among `count` passes after the `n`-th. -/
def multiplesAfter (k n count : ℕ) : List ℕ :=
  (List.range' (n + 1) count).filter fun i => i % (k + 1) = 0

theorem multiplesAfter_add (k n a b : ℕ) :
    multiplesAfter k n (a + b) = multiplesAfter k n a ++ multiplesAfter k (n + a) b := by
  have hsplit : List.range' (n + 1) (a + b) =
      List.range' (n + 1) a ++ List.range' (n + a + 1) b := by
    rw [List.range'_eq_append_iff]
    exact ⟨a, by omega, rfl, by congr 1 <;> omega⟩
  rw [multiplesAfter, hsplit, List.filter_append]
  rfl

/-- What the actions of a step, or of a run, are after `n` passes and `m` sleeps. -/
structure LedTrace (k n m : ℕ) (actions : List LedAction) : Prop where
  refreshes : refreshPasses n actions = multiplesAfter k n (actions.countP LedAction.isPass)
  counted : ∀ pollCount : ℤ, .counted pollCount ∈ actions → 0 ≤ pollCount ∧ pollCount ≤ k
  within : Within LedAction.isSleep LedAction.sends (k + 1) m actions

theorem LedTrace.append {k n m : ℕ} {as bs : List LedAction} (ha : LedTrace k n m as)
    (hb : LedTrace k (n + as.countP LedAction.isPass) (sleepsSince m as) bs) :
    LedTrace k n m (as ++ bs) where
  refreshes := by
    have htail := hb.refreshes
    have hhead := ha.refreshes
    rw [refreshPasses] at hhead htail ⊢
    rw [ticksBefore_append, hhead, htail, List.countP_append, multiplesAfter_add]
  counted pollCount hmem := (List.mem_append.mp hmem).elim (ha.counted _) (hb.counted _)
  within := within_append.mpr ⟨ha.within, hb.within⟩

theorem ledTrace_nil {k m : ℕ} (h : m ≤ k + 1) (n : ℕ) : LedTrace k n m [] :=
  ⟨rfl, fun _ hmem => absurd hmem List.not_mem_nil, h⟩

/-- The message and the update of a pass, and its sleep unless the thread leaves its loop. -/
theorem pass_actions {T : LoopTimeouts} {k : ℕ} (hk : T.ledTimeout.tdiv T.pollTimeout = k)
    {s : Session} {n m : ℕ} (h : s.Counts T k n m) (hrunning : s.loop.thread.running = true)
    (samples : List Sample) (tp : Timespec) :
    ∃ slept : List LedAction,
      (s.ledStep T (.pass samples tp)).2 = [.counted s.loop.pollCount] ++
        (if (n + 1) % (k + 1) = 0 then [.updateLeds] else []) ++ slept ∧
      (slept = [.sleep] ∨
        slept = [] ∧ (s.ledStep T (.pass samples tp)).1.loop.thread.running = false) := by
  have hpoll : (run ControllerThread.poll s.loop.thread samples).1.pollTimeout = T.pollTimeout :=
    (polls_pollTimeout samples s.loop.thread).trans (h.pollTimeout hrunning)
  have hrefresh : (s.loop.pollCount + 1 > s.loop.ledTimeout.tdiv
      (run ControllerThread.poll s.loop.thread samples).1.pollTimeout) ↔
        (n + 1) % (k + 1) = 0 := by
    rw [hpoll, h.ledTimeout hrunning, hk, h.pollCount]
    rcases mod_counter n k with ⟨hlast, hzero⟩ | ⟨hlt, hnext⟩ <;> omega
  have hactions : (s.ledStep T (.pass samples tp)).2 = [.counted s.loop.pollCount] ++
      (if (n + 1) % (k + 1) = 0 then [.updateLeds] else []) ++
        ((s.loop.pass s.disconnectTimeout samples tp).2.filter LoopAction.isSleep).map
          fun _ => .sleep := by
    simp only [Session.ledStep, Session.step, if_pos hrunning, LoopState.ledActions, hrefresh]
    rfl
  have hloop : (s.ledStep T (.pass samples tp)).1.loop =
      (s.loop.pass s.disconnectTimeout samples tp).1 := by
    simp only [Session.ledStep, Session.step, if_pos hrunning]
  refine ⟨_, hactions, ?_⟩
  rw [hloop]
  rcases pass_slept s.disconnectTimeout s.loop samples tp with ⟨-, hslept⟩ | ⟨hleft, hslept⟩
  · exact Or.inl hslept
  · exact Or.inr ⟨hslept, hleft⟩

/-- The pass after the `n`-th. -/
theorem pass_counts {T : LoopTimeouts} {k : ℕ} (hk : T.ledTimeout.tdiv T.pollTimeout = k)
    {s : Session} {n m : ℕ} (h : s.Counts T k n m) (hrunning : s.loop.thread.running = true)
    (samples : List Sample) (tp : Timespec) :
    let r := s.ledStep T (.pass samples tp)
    LedTrace k n m r.2 ∧
      r.1.Counts T k (n + r.2.countP LedAction.isPass) (sleepsSince m r.2) := by
  intro r
  obtain ⟨slept, hactions, hslept⟩ := pass_actions hk h hrunning samples tp
  have hpoll := h.pollTimeout hrunning
  have hled := h.ledTimeout hrunning
  have hsleeps := h.sleeps hrunning
  have hbound := h.bound
  have hstate : r.1.loop = (s.loop.pass s.disconnectTimeout samples tp).1 := by
    simp only [r, Session.ledStep, Session.step, if_pos hrunning]
  obtain ⟨hcount, hled', hpoll'⟩ := pass_updates s.disconnectTimeout s.loop samples tp
  rw [← hstate] at hcount hled' hpoll'
  have hone : r.2.countP LedAction.isPass = 1 := by
    rw [hactions]
    rcases hslept with rfl | ⟨rfl, -⟩ <;> split_ifs <;> rfl
  have hnext : r.1.loop.pollCount = (((n + 1) % (k + 1) : ℕ) : ℤ) := by
    rw [hcount]
    simp only [LoopState.updateLeds, hpoll, hled, hk, h.pollCount]
    rcases mod_counter n k with ⟨hlast, hzero⟩ | ⟨hlt, hnext⟩ <;> split_ifs <;> omega
  have hwithin : Within LedAction.isSleep LedAction.sends (k + 1) m r.2 ∧
      sleepsSince m r.2 ≤ k + 1 ∧ (r.1.loop.thread.running = true →
        sleepsSince m r.2 ≤ (n + 1) % (k + 1) + 1) := by
    rw [hactions]
    rcases mod_counter n k with ⟨hlast, hzero⟩ | ⟨hlt, hsucc⟩
    · rw [if_pos hzero, hzero]
      rcases hslept with rfl | ⟨rfl, -⟩
      · simp [Within, sleepsSince, since, LedAction.sends, LedAction.isSleep, hbound]
      · simp [Within, sleepsSince, since, LedAction.sends, LedAction.isSleep, hbound]
    · rw [if_neg (by omega), hsucc]
      rcases hslept with rfl | ⟨rfl, hleft⟩
      · simp [Within, sleepsSince, since, LedAction.sends, LedAction.isSleep]
        omega
      · have hstopped : r.1.loop.thread.running = false := hleft
        simp [Within, sleepsSince, since, LedAction.sends, LedAction.isSleep, hbound, hstopped]
  obtain ⟨hwithin, hbound', hsleeps'⟩ := hwithin
  have hcounted : ∀ pollCount : ℤ, .counted pollCount ∈ r.2 → 0 ≤ pollCount ∧ pollCount ≤ k := by
    intro pollCount hmem
    have hpollCount : pollCount = s.loop.pollCount := by
      rw [hactions] at hmem
      rcases hslept with rfl | ⟨rfl, -⟩ <;> split_ifs at hmem <;> simpa using hmem
    have hlt : n % (k + 1) < k + 1 := Nat.mod_lt n (Nat.succ_pos k)
    rw [hpollCount, h.pollCount]
    omega
  rw [hone]
  refine ⟨⟨?_, hcounted, hwithin⟩, ⟨hnext, ?_, ?_, hsleeps', hbound'⟩⟩
  · rw [hone, hactions, multiplesAfter, List.range'_one, List.filter_singleton]
    rcases hslept with rfl | ⟨rfl, -⟩ <;> split_ifs <;> simp_all [refreshPasses, ticksBefore,
      LedAction.isPass, LedAction.isRefresh]
  · intro _
    rw [hpoll', hpoll]
  · intro _
    rw [hled', hled]

theorem step_counts {T : LoopTimeouts} {k : ℕ} (hk : T.ledTimeout.tdiv T.pollTimeout = k)
    {s : Session} {n m : ℕ} (h : s.Counts T k n m) (ev : PassEvent) :
    let r := s.ledStep T ev
    LedTrace k n m r.2 ∧
      r.1.Counts T k (n + r.2.countP LedAction.isPass) (sleepsSince m r.2) := by
  intro r
  cases ev with
  | start id calibrated tp =>
    by_cases hidle : s.loop.thread.running = false
    · have hstart : r = (s.start T id calibrated tp,
          (s.start T id calibrated tp).loop.thread.setLeds) := by
        simp only [r, Session.ledStep, Session.step, if_pos hidle]
      have hthread : s.loop.thread.start id calibrated T.pollTimeout T.gestureTimeout = _ :=
        if_pos hidle
      obtain ⟨colour, hcolour⟩ : ∃ colour, r.2 = [.setLeds colour] := by
        rw [hstart, ControllerThread.setLeds]
        cases (s.start T id calibrated tp).loop.thread.id with
        | first => exact ⟨_, rfl⟩
        | second => exact ⟨_, rfl⟩
      rw [hcolour]
      refine ⟨⟨rfl, fun _ hmem => ?_, h.bound, Nat.zero_le _⟩, ?_⟩
      · cases List.mem_singleton.mp hmem
      rw [hstart]
      -- the counter is left as it is, and the colour has just been sent
      refine ⟨h.pollCount, fun _ => ?_, fun _ => rfl, fun _ => Nat.zero_le _, Nat.zero_le _⟩
      simp only [Session.start, LoopState.startThread, hthread]
    · have hsame : r = (s, []) := by
        simp only [r, Session.ledStep, Session.step, if_neg hidle]
      rw [hsame]
      exact ⟨ledTrace_nil h.bound n, h⟩
  | pass samples tp =>
    by_cases hrunning : s.loop.thread.running = true
    · exact pass_counts hk h hrunning samples tp
    · have hsame : r = (s, []) := by
        simp only [r, Session.ledStep, Session.step, if_neg hrunning]
      rw [hsame]
      exact ⟨ledTrace_nil h.bound n, h⟩
  | stop =>
    refine ⟨ledTrace_nil h.bound n, ?_⟩
    by_cases hrunning : s.loop.thread.running = true
    · have hleave : r = ({ s with loop := s.loop.leave, leaving := s.leaving + 1 }, []) := by
        simp only [r, Session.ledStep, Session.step, if_pos hrunning]
      rw [hleave]
      refine ⟨h.pollCount, ?_, ?_, ?_, h.bound⟩
      all_goals exact fun hrun => absurd hrun Bool.false_ne_true
    · have hsame : r = (s, []) := by
        simp only [r, Session.ledStep, Session.step, if_neg hrunning]
      rw [hsame]
      exact h
  | resetLastTp =>
    refine ⟨ledTrace_nil h.bound n, ?_⟩
    by_cases hleaving : 0 < s.leaving
    · have hreset : r = ({ s with loop := s.loop.resetLastTp, leaving := s.leaving - 1 }, []) := by
        simp only [r, Session.ledStep, Session.step, if_pos hleaving]
      rw [hreset]
      exact ⟨h.pollCount, h.pollTimeout, h.ledTimeout, h.sleeps, h.bound⟩
    · have hsame : r = (s, []) := by
        simp only [r, Session.ledStep, Session.step, if_neg hleaving]
      rw [hsame]
      exact h

theorem run_counts {T : LoopTimeouts} {k : ℕ} (hk : T.ledTimeout.tdiv T.pollTimeout = k)
    (evs : List PassEvent) {s : Session} {n m : ℕ} (h : s.Counts T k n m) :
    LedTrace k n m (run (Session.ledStep T) s evs).2 := by
  induction evs generalizing s n m with
  | nil => exact ledTrace_nil h.bound n
  | cons ev evs ih =>
    obtain ⟨hhead, hnext⟩ := step_counts hk h ev
    rw [run_cons_snd]
    exact hhead.append (ih hnext)

/-! ### A slot -/

/-- Two polls and a third one for an update. -/
def ledTimeouts : LoopTimeouts := ⟨⟨20, 600⟩, 7, 50⟩

/-- The second thread of the slot takes over a counter of two. -/
def ledPasses : List PassEvent :=
  .start .first false ⟨1, 0⟩ :: List.replicate 5 (.pass [] ⟨1, 0⟩) ++
    [.stop, .start .second true ⟨2, 0⟩] ++ List.replicate 4 (.pass [] ⟨2, 0⟩)

example : refreshPasses 0 (run (Session.ledStep ledTimeouts) .init ledPasses).2 = [3, 6, 9] := by
  decide +kernel

end PSMoveInput

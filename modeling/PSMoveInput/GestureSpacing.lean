import PSMoveInput.Pacing
import PSMoveInput.ThreadLoop

/-! How far apart gesture signals are. Gestures are counted by samples, which are drained in the
inner loop, and the sleep is in the outer one. -/
namespace PSMoveInput

open Transducer Pacing

/-! ### Sleeps, samples and gestures -/

def LoopAction.isSleep : LoopAction → Bool
  | .sleep => true
  | _ => false

def Call.isGesture : Call → Bool
  | .onGesture _ _ _ => true
  | _ => false

/-- A gesture signal. -/
def LoopAction.isGesture : LoopAction → Bool
  | .call c => c.isGesture
  | _ => false

/-- How often the thread has slept before each of its gesture signals. -/
def gestureSleeps (n : ℕ) (actions : List LoopAction) : List ℕ :=
  ticksBefore LoopAction.isSleep LoopAction.isGesture n actions

/-- How many passes are over when each of the samples arrives. -/
def sampleSleeps : ℕ → List (List Sample × Timespec) → List ℕ
  | _, [] => []
  | n, p :: passes => List.replicate p.1.length n ++ sampleSleeps (n + 1) passes

/-- The passes of a thread, which is running at the beginning of each of them. -/
def passStep (disconnectTimeout : ℤ) (s : LoopState) (p : List Sample × Timespec) :
    LoopState × List LoopAction :=
  s.pass disconnectTimeout p.1 p.2

def Passes (disconnectTimeout : ℤ) (s : LoopState) (passes : List (List Sample × Timespec)) :
    Prop :=
  Along (passStep disconnectTimeout) (fun s _ => s.thread.running = true) s passes

instance (D : ℤ) (s : LoopState) (passes : List (List Sample × Timespec)) :
    Decidable (Passes D s passes) :=
  inferInstanceAs (Decidable (Along (passStep D) (fun s _ => s.thread.running = true) s passes))

/-! ### The counter -/

/-- The thread of the second controller skips `left` samples before the next gesture, and `k`
samples after it. -/
structure ControllerThread.Skips (t : ControllerThread) (k left : ℕ) : Prop where
  second : t.id = .second
  quotient : t.gestureTimeout.tdiv t.pollTimeout = k
  nonneg : 0 ≤ t.gestureCount
  left : t.gestureCount + left = k

theorem gestureSleeps_silent {calls : List Call} (h : ∀ call ∈ calls, call.isGesture = false)
    (n : ℕ) : gestureSleeps n (calls.map .call) = [] := by
  apply ticksBefore_unmarked
  intro action haction
  obtain ⟨call, hcall, rfl⟩ := List.mem_map.mp haction
  exact h call hcall

theorem countP_isSleep_calls (calls : List Call) :
    (calls.map LoopAction.call).countP LoopAction.isSleep = 0 := by
  apply List.countP_eq_zero.mpr
  intro action haction
  obtain ⟨call, -, rfl⟩ := List.mem_map.mp haction
  exact Bool.false_ne_true

/-- A sample is skipped, or it is the one that makes a gesture signal. -/
theorem poll_skips {t : ControllerThread} {k left : ℕ} (h : t.Skips k left) (x : Sample) :
    ∃ left', (t.poll x).1.Skips k left' ∧ ∀ n l,
      gestureSleeps n ((t.poll x).2.map .call) ++ everyNth k left' l =
        everyNth k left (n :: l) := by
  have hbuttons (n : ℕ) : gestureSleeps n ((if t.buttons ≠ x.buttons then
      [Call.onButtons x.buttonsClock x.buttons t.id] else []).map .call) = [] := by
    apply gestureSleeps_silent
    intro call hcall
    split_ifs at hcall with hchanged
    · rw [List.mem_singleton.mp hcall]
      rfl
    · exact absurd hcall List.not_mem_nil
  have hleft := h.left
  have hnonneg := h.nonneg
  by_cases hfire : t.gestureCount + 1 > t.gestureTimeout.tdiv t.pollTimeout
  · -- the counter is at its end
    have hreport : t.reportGyro x = (0, [.onGesture x.gyroClock (-(t.gyro x).2) (t.gyro x).1]) := by
      simp only [ControllerThread.reportGyro, h.second]
      exact if_pos hfire
    rw [h.quotient] at hfire
    have hzero : left = 0 := by omega
    subst hzero
    refine ⟨k, ⟨h.second, h.quotient, ?_, ?_⟩, ?_⟩
    · simp only [ControllerThread.poll, hreport]
      omega
    · simp only [ControllerThread.poll, hreport]
      omega
    · intro n l
      have hsignal : gestureSleeps n ((t.poll x).2.map .call) = [n] := by
        simp only [ControllerThread.poll, hreport]
        rw [List.map_append, gestureSleeps, ticksBefore_append]
        have hrest := hbuttons n
        rw [gestureSleeps] at hrest
        exact congrArg (fun m => [n] ++ m) hrest
      rw [hsignal]
      rfl
  · have hreport : t.reportGyro x = (t.gestureCount + 1, []) := by
      simp only [ControllerThread.reportGyro, h.second]
      exact if_neg hfire
    rw [h.quotient] at hfire
    obtain ⟨left', rfl⟩ : ∃ left', left = left' + 1 := ⟨left - 1, by omega⟩
    refine ⟨left', ⟨h.second, h.quotient, ?_, ?_⟩, ?_⟩
    · simp only [ControllerThread.poll, hreport]
      omega
    · simp only [ControllerThread.poll, hreport]
      omega
    · intro n l
      have hsilent : gestureSleeps n ((t.poll x).2.map .call) = [] := by
        simp only [ControllerThread.poll, hreport]
        exact hbuttons n
      rw [hsilent]
      rfl

/-- The samples of a pass all come after the same number of sleeps. -/
theorem polls_skips (samples : List Sample) {t : ControllerThread} {k left : ℕ}
    (h : t.Skips k left) :
    ∃ left', (run ControllerThread.poll t samples).1.Skips k left' ∧ ∀ n l,
      gestureSleeps n ((run ControllerThread.poll t samples).2.map .call) ++ everyNth k left' l =
        everyNth k left (List.replicate samples.length n ++ l) := by
  induction samples generalizing t left with
  | nil => exact ⟨left, h, fun _ _ => rfl⟩
  | cons x samples ih =>
    obtain ⟨left₁, hskips₁, hhead⟩ := poll_skips h x
    obtain ⟨left₂, hskips₂, htail⟩ := ih hskips₁
    refine ⟨left₂, hskips₂, ?_⟩
    intro n l
    have hsplit : gestureSleeps n ((run ControllerThread.poll t (x :: samples)).2.map .call) =
        gestureSleeps n ((t.poll x).2.map .call) ++
          gestureSleeps n ((run ControllerThread.poll (t.poll x).1 samples).2.map .call) := by
      rw [run_cons_snd, List.map_append, gestureSleeps, ticksBefore_append, countP_isSleep_calls]
      rfl
    calc
      _ = gestureSleeps n ((t.poll x).2.map .call) ++
          (gestureSleeps n ((run ControllerThread.poll (t.poll x).1 samples).2.map .call) ++
            everyNth k left₂ l) := by rw [hsplit, List.append_assoc]
      _ = gestureSleeps n ((t.poll x).2.map .call) ++
          everyNth k left₁ (List.replicate samples.length n ++ l) := by rw [htail]
      _ = everyNth k left (n :: (List.replicate samples.length n ++ l)) := hhead n _

/-! ### Passes -/

/-- The gesture signals of the passes are every `k + 1`-th sample. -/
theorem passes_gestureSleeps (D : ℤ) (passes : List (List Sample × Timespec)) {s : LoopState}
    {k left : ℕ} (h : s.thread.Skips k left) (hpasses : Passes D s passes) (n : ℕ) :
    gestureSleeps n (run (passStep D) s passes).2 = everyNth k left (sampleSleeps n passes) := by
  induction passes generalizing s left n with
  | nil =>
    cases left with
    | zero => rfl
    | succ left => rfl
  | cons p passes ih =>
    obtain ⟨hrunning, hrest⟩ := hpasses
    obtain ⟨left', hskips, hgestures⟩ := polls_skips p.1 h
    have hcalls := countP_isSleep_calls (run ControllerThread.poll s.thread p.1).2
    have hsplit (action : LoopAction) (haction : action.isGesture = false)
        (rest : List LoopAction) :
        gestureSleeps n ((run ControllerThread.poll s.thread p.1).2.map .call ++ [action] ++ rest) =
          gestureSleeps n ((run ControllerThread.poll s.thread p.1).2.map .call) ++
            gestureSleeps (if action.isSleep = true then n + 1 else n) rest := by
      rw [List.append_assoc, gestureSleeps, ticksBefore_append, hcalls]
      simp only [List.singleton_append, ticksBefore, haction, Bool.false_eq_true, ↓reduceIte]
      rfl
    rw [run_cons_snd]
    by_cases hcheck : (run ControllerThread.poll s.thread p.1).1.lastTp.tvSec ≠ 0 ∧
        p.2.tvSec - (run ControllerThread.poll s.thread p.1).1.lastTp.tvSec > D
    · -- the thread has left its loop, so that this is its last pass
      have hpass : passStep D s p = _ := if_pos hcheck
      have hnil : passes = [] := by
        cases passes with
        | nil => rfl
        | cons q passes =>
          rw [hpass] at hrest
          exact absurd hrest.1 Bool.false_ne_true
      subst hnil
      rw [hpass]
      have hleft := hgestures n []
      have hend : everyNth k left' ([] : List ℕ) = [] := by
        cases left' with
        | zero => rfl
        | succ left' => rfl
      rw [hend, List.append_nil] at hleft
      have hactions := hsplit .timedOut rfl []
      rw [sampleSleeps, sampleSleeps, ← hleft]
      exact hactions.trans (List.append_nil _)
    · have hpass : passStep D s p = _ := if_neg hcheck
      rw [hpass] at hrest ⊢
      have htail := ih hskips hrest (n + 1)
      have hactions := hsplit .sleep rfl (run (passStep D)
        { s with thread := (run ControllerThread.poll s.thread p.1).1 }.updateLeds passes).2
      rw [sampleSleeps, ← hgestures n, ← htail]
      exact hactions

/-- Gesture signals are the timeout apart, in every run, if and only if the samples that are counted
for them are: each `k + 1`-th sample arrives at least `k` passes after the one before. -/
theorem gestures_spaced_iff (T : LoopTimeouts) (s : LoopState) (calibrated : Bool)
    (passes : List (List Sample × Timespec)) (hidle : s.thread.running = false)
    (hpoll : 0 < T.pollTimeout) (hgesture : 0 ≤ T.gestureTimeout)
    (hpasses : Passes T.disconnectTimeout (s.startThread T .second calibrated) passes) :
    let k := (T.gestureTimeout.tdiv T.pollTimeout).toNat
    Spaced k (gestureSleeps 0
        (run (passStep T.disconnectTimeout) (s.startThread T .second calibrated) passes).2) ↔
      ∀ j a b, (sampleSleeps 0 passes)[k + j * (k + 1)]? = some a →
        (sampleSleeps 0 passes)[k + (j + 1) * (k + 1)]? = some b → a + k ≤ b := by
  intro k
  have hk : T.gestureTimeout.tdiv T.pollTimeout = k := by
    have hnonneg : 0 ≤ T.gestureTimeout.tdiv T.pollTimeout := Int.tdiv_nonneg hgesture hpoll.le
    exact (Int.toNat_of_nonneg hnonneg).symm
  have hskips : (s.startThread T .second calibrated).thread.Skips k k := by
    have hstart : s.thread.start .second calibrated T.pollTimeout T.gestureTimeout = _ :=
      if_pos hidle
    simp only [LoopState.startThread, hstart]
    exact ⟨rfl, hk, le_rfl, Int.zero_add _⟩
  rw [passes_gestureSleeps T.disconnectTimeout passes hskips hpasses 0]
  exact spaced_everyNth k k k (sampleSleeps 0 passes)

/-- Two samples make a gesture. -/
def gestureTimeouts : LoopTimeouts := ⟨⟨20, 20⟩, 7, 4000⟩

def slotLoop : LoopState := ⟨.new, 0, 0⟩

def gestureLoop : LoopState := slotLoop.startThread gestureTimeouts .second false

/-- A sample in each of four passes. -/
def steadyPasses : List (List Sample × Timespec) :=
  List.replicate 4 ([stillSample ⟨1, 0⟩], ⟨1, 0⟩)

theorem gestures_spaced_steady :
    gestureSleeps 0 (run (passStep 7) gestureLoop steadyPasses).2 = [1, 3] ∧
      Spaced 1 (gestureSleeps 0 (run (passStep 7) gestureLoop steadyPasses).2) := by
  refine ⟨by decide, ?_⟩
  apply (gestures_spaced_iff gestureTimeouts slotLoop false steadyPasses rfl (by decide) (by decide)
    (by decide)).mpr
  change ∀ j a b, [0, 1, 2, 3][1 + j * (1 + 1)]? = some a →
    [0, 1, 2, 3][1 + (j + 1) * (1 + 1)]? = some b → a + 1 ≤ b
  intro j a b ha hb
  obtain ⟨hindex, -⟩ := List.getElem?_eq_some_iff.mp hb
  have hj : j = 0 := by
    change 1 + (j + 1) * (1 + 1) < 4 at hindex
    omega
  subst hj
  cases ha
  cases hb
  decide

/-- Four samples in one pass. -/
def burstPasses : List (List Sample × Timespec) :=
  [(List.replicate 4 (stillSample ⟨1, 0⟩), ⟨1, 0⟩)]

/-- Two gesture signals without a sleep between them. -/
theorem gestures_burst :
    (20 : ℤ) / 20 = 1 ∧ Passes 7 gestureLoop burstPasses ∧
      gestureSleeps 0 (run (passStep 7) gestureLoop burstPasses).2 = [0, 0] ∧
      ¬Spaced 1 (gestureSleeps 0 (run (passStep 7) gestureLoop burstPasses).2) := by
  have hsleeps : gestureSleeps 0 (run (passStep 7) gestureLoop burstPasses).2 = [0, 0] := by
    decide
  refine ⟨by decide, by decide, hsleeps, ?_⟩
  rw [hsleeps, spaced_iff]
  intro h
  exact absurd (h 0 0 0 rfl rfl) (by decide)

end PSMoveInput

import PSMoveInput.InputDevice
import PSMoveInput.Orbit

/-! `onButtons` and `onGesture` as one chain of calls that holds `mutex_` in the iterations of the
bit loop. No other thread is there: a lock guard that finds the mutex locked waits for its own
chain. -/
namespace PSMoveInput

open Transducer Orbit

/-! ### The chain -/

/-- Statements of `onGesture` itself. -/
def Pc.inGesture : Pc → Bool
  | .testSec _ _ _ => true
  | .testNsec _ _ _ => true
  | .testTrigger _ _ _ => true
  | .readNsec _ _ _ => true
  | .readButtons _ _ => true
  | .writeSec _ => true
  | .writeNsec _ => true
  | _ => false

/-- The calls of `onGesture` that have not returned: those that wait for their `onButtons`, and the
one that is at a statement of its own. -/
def ThreadState.gestureDepth (t : ThreadState) : ℕ :=
  t.pending.length + if t.pc.inGesture = true then 1 else 0

/-- `entries` are the entries of the key map that are left in a locked iteration. -/
structure ChainState where
  handler : HandlerState
  thread : ThreadState
  mutex : Bool
  entries : Option (List (KeyMapEntry × ℕ))

/-- Outside the locked iterations. -/
def ChainState.unlocked (s : HandlerState) (t : ThreadState) : ChainState := ⟨s, t, false, none⟩

def ChainState.start (s : HandlerState) (request : Request) : ChainState :=
  .unlocked s (.start [request])

/-- A lock guard is next, and the chain holds the mutex. -/
def ChainState.locksItself (c : ChainState) : Bool :=
  match c.thread.pc with
  | .scan _ _ _ _ (_ :: _) => c.entries.isNone && c.mutex
  | _ => false

/-- One statement, or one entry of the key map in a locked iteration. -/
def ChainState.step (P : Params) (c : ChainState) : ChainState :=
  match c.thread.pc with
  | .scan buttons controller pressed released (i :: bits) =>
    match c.entries with
    | none =>
      if c.mutex = false then
        { c with mutex := true, entries := some (iterationEntries P controller pressed released i) }
      else c
    | some (entry :: entries) =>
      { c with
        handler := (reportEntry i (holds pressed i) controller c.handler entry).1
        entries := some entries }
    | some [] =>
      .unlocked c.handler (c.thread.goto (.scan buttons controller pressed released bits))
  | _ =>
    let r := threadStep P c.handler c.thread
    { c with handler := r.1, thread := r.2.1 }

/-- No more than `d` calls of `onGesture`, and no lock guard that waits for itself. -/
structure ChainState.Bounded (d : ℕ) (c : ChainState) : Prop where
  depth : c.thread.gestureDepth ≤ d
  lock : c.locksItself = false

theorem bounded_unlocked {d : ℕ} {s : HandlerState} {t : ThreadState} (h : t.gestureDepth ≤ d) :
    (ChainState.unlocked s t).Bounded d := by
  refine ⟨h, ?_⟩
  simp only [ChainState.locksItself, ChainState.unlocked, Option.isNone_none, Bool.and_false]
  split <;> rfl

/-! ### The bit loop -/

section

variable {P : Params} {d : ℕ}

theorem reaches_entries {buttons : Word} {controller : ControllerId} {pressed released i : Word}
    {bits : List Word} (t : ThreadState)
    (hpc : t.pc = .scan buttons controller pressed released (i :: bits)) (hd : t.gestureDepth ≤ d)
    (entries : List (KeyMapEntry × ℕ)) (s : HandlerState) :
    Reaches (ChainState.step P) (ChainState.Bounded d) ⟨s, t, true, some entries⟩
      (.unlocked (run (reportEntry i (holds pressed i) controller) s entries).1
        (t.goto (.scan buttons controller pressed released bits))) := by
  have hbounded (s : HandlerState) (entries : List (KeyMapEntry × ℕ)) :
      (⟨s, t, true, some entries⟩ : ChainState).Bounded d :=
    ⟨hd, by simp only [ChainState.locksItself, hpc, Option.isNone_some, Bool.false_and]⟩
  induction entries generalizing s with
  | nil =>
    apply Reaches.cons (hbounded s [])
    · simp only [ChainState.step, hpc]
      rfl
    · exact .refl _
  | cons entry entries ih =>
    apply Reaches.cons (hbounded s (entry :: entries))
    · simp only [ChainState.step, hpc]
      rfl
    · exact ih _

/-- The loop takes and releases the mutex once for each bit. -/
theorem reaches_scan (buttons : Word) (controller : ControllerId) (pressed released : Word)
    (bits : List Word) (s : HandlerState) (clock : Clock) {pending : List Timespec}
    (hd : pending.length ≤ d) (program : List Request) :
    Reaches (ChainState.step P) (ChainState.Bounded d)
      (.unlocked s ⟨.scan buttons controller pressed released bits, clock, pending, program⟩)
      (.unlocked (run (scanStep P controller pressed released) s bits).1
        ⟨.store buttons controller, clock, pending, program⟩) := by
  induction bits generalizing s with
  | nil => exact .cons (bounded_unlocked hd) rfl (.refl _)
  | cons i bits ih =>
    apply Reaches.cons (bounded_unlocked hd) rfl
    have hiteration := reaches_entries (P := P) ⟨.scan buttons controller pressed released (i :: bits),
      clock, pending, program⟩ rfl hd (iterationEntries P controller pressed released i) s
    rw [iteration_scanStep] at hiteration
    exact hiteration.trans (ih _)

/-- `onButtons` up to the test of `releaseGestureKeys_`. -/
theorem reaches_report (buttons : Word) (controller : ControllerId) (s : HandlerState)
    (clock : Clock) {pending : List Timespec} (hd : pending.length ≤ d) (program : List Request) :
    Reaches (ChainState.step P) (ChainState.Bounded d)
      (.unlocked s ⟨.compare buttons controller, clock, pending, program⟩)
      (.unlocked (reportButtons P buttons controller s).1
        ⟨.testRelease, clock, pending, program⟩) := by
  have hcompare : (ChainState.unlocked s
      ⟨.compare buttons controller, clock, pending, program⟩).step P =
      .unlocked s ⟨if s.buttons controller ≠ buttons then .readPressed buttons controller
        else .testRelease, clock, pending, program⟩ := rfl
  apply Reaches.cons (bounded_unlocked hd) hcompare
  simp only [reportButtons]
  by_cases hchange : s.buttons controller ≠ buttons
  · rw [if_pos hchange, if_pos hchange]
    apply Reaches.cons (bounded_unlocked hd) rfl
    apply Reaches.cons (bounded_unlocked hd) rfl
    apply (reaches_scan buttons controller _ _ scanBits s clock hd program).trans
    exact Reaches.cons (bounded_unlocked hd) rfl (.refl _)
  · rw [if_neg hchange, if_neg hchange]
    exact .refl _

/-! ### The calls -/

/-- The end of `onGesture`. -/
theorem reaches_write (gestureTp : Timespec) (s : HandlerState) (clock : Clock)
    {pending : List Timespec} (hd : pending.length + 1 ≤ d) (program : List Request) :
    Reaches (ChainState.step P) (ChainState.Bounded d)
      (.unlocked s ⟨.writeSec gestureTp, clock, pending, program⟩)
      (.unlocked { s with lastGestureTp := gestureTp } ⟨.ret, clock, pending, program⟩) := by
  apply Reaches.cons (bounded_unlocked hd) rfl
  apply Reaches.cons (bounded_unlocked hd) rfl
  exact .refl _

/-- The tests of `onGesture`, one after another. -/
theorem reaches_tests (gestureTp : Timespec) (gx gy : ℤ) (s : HandlerState) (clock : Clock)
    {pending : List Timespec} (hd : pending.length + 1 ≤ d) (program : List Request) :
    Reaches (ChainState.step P) (ChainState.Bounded d)
      (.unlocked s ⟨.testSec gestureTp gx gy, clock, pending, program⟩)
      (.unlocked s ⟨if gestureReady P s then .readNsec gestureTp gx gy else .writeSec gestureTp,
        clock, pending, program⟩) := by
  have hsec_step : (ChainState.unlocked s
      ⟨.testSec gestureTp gx gy, clock, pending, program⟩).step P =
      .unlocked s ⟨if s.lastGestureTp.tvSec ≠ 0 then .testNsec gestureTp gx gy
        else .writeSec gestureTp, clock, pending, program⟩ := rfl
  have hnsec_step : (ChainState.unlocked s
      ⟨.testNsec gestureTp gx gy, clock, pending, program⟩).step P =
      .unlocked s ⟨if s.lastGestureTp.tvNsec ≠ 0 then .testTrigger gestureTp gx gy
        else .writeSec gestureTp, clock, pending, program⟩ := rfl
  apply Reaches.cons (bounded_unlocked hd) hsec_step
  by_cases hsec : s.lastGestureTp.tvSec ≠ 0
  · rw [if_pos hsec]
    apply Reaches.cons (bounded_unlocked hd) hnsec_step
    by_cases hnsec : s.lastGestureTp.tvNsec ≠ 0
    · rw [if_pos hnsec]
      have hready : gestureReady P s ↔ gestureGate P s = true := and_iff_right ⟨hsec, hnsec⟩
      simp only [hready]
      exact Reaches.cons (bounded_unlocked hd) rfl (.refl _)
    · rw [if_neg hnsec, if_neg fun h : gestureReady P s => hnsec h.1.2]
      exact .refl _
  · rw [if_neg hsec, if_neg fun h : gestureReady P s => hsec h.1.1]
    exact .refl _

/-- A chain that the sequential model executes with `n` calls of both kinds at most has no more
calls of `onGesture` than every second one of these. -/
theorem reaches_fuel (n : ℕ) :
    (∀ clock buttons controller s t pending, pending.length + n / 2 ≤ d →
      onButtonsFuel P n clock buttons controller s = some t →
      ∃ clock', Reaches (ChainState.step P) (ChainState.Bounded d)
        (.unlocked s ⟨.compare buttons controller, clock, pending, []⟩)
        (.unlocked t.1 ⟨.ret, clock', pending, []⟩)) ∧
    (∀ clock gx gy s t pending, pending.length + (n + 1) / 2 ≤ d →
      onGestureFuel P n clock gx gy s = some t →
      ∃ clock', Reaches (ChainState.step P) (ChainState.Bounded d)
        (.unlocked s ⟨.testSec (clock 0) gx gy, fun k => clock (k + 1), pending, []⟩)
        (.unlocked t.1 ⟨.ret, clock', pending, []⟩)) := by
  induction n with
  | zero =>
    constructor
    · intro clock buttons controller s t pending hd h
      simp [onButtonsFuel] at h
    · intro clock gx gy s t pending hd h
      simp [onGestureFuel] at h
  | succ n ih =>
    constructor
    · intro clock buttons controller s t pending hd h
      have hd' : pending.length ≤ d := by omega
      have hreport := reaches_report (P := P) buttons controller s clock hd' []
      have htest : (ChainState.unlocked (reportButtons P buttons controller s).1
          ⟨.testRelease, clock, pending, []⟩).step P =
          .unlocked (reportButtons P buttons controller s).1
            ⟨if (reportButtons P buttons controller s).1.releaseGestureKeys = true then .clearRelease
              else .ret, clock, pending, []⟩ := rfl
      rcases onButtonsFuel_succ.mp h with ⟨hrel, u, hu, rfl⟩ | ⟨hrel, rfl⟩
      · -- the nested call begins after the loop
        obtain ⟨clock', hnested⟩ := ih.2 _ _ _ _ _ pending hd hu
        refine ⟨clock', hreport.trans ?_⟩
        rw [if_pos hrel] at htest
        apply Reaches.cons (bounded_unlocked hd') htest
        exact Reaches.cons (bounded_unlocked hd') rfl hnested
      · refine ⟨clock, hreport.trans ?_⟩
        rw [if_neg (Bool.eq_false_iff.mp hrel)] at htest
        exact Reaches.cons (bounded_unlocked hd') htest (.refl _)
    · intro clock gx gy s t pending hd h
      have hd' : pending.length + 1 ≤ d := by omega
      have htests := reaches_tests (P := P) (clock 0) gx gy s (fun k => clock (k + 1)) hd' []
      rcases onGestureFuel_succ.mp h with ⟨hready, u, hu, rfl⟩ | ⟨hready, rfl⟩
      · rw [if_pos hready] at htests
        have hd'' : (clock 0 :: pending).length + n / 2 ≤ d := by
          rw [List.length_cons]
          omega
        obtain ⟨clock', hnested⟩ := ih.1 _ _ _ _ _ (clock 0 :: pending) hd'' hu
        refine ⟨clock', htests.trans ?_⟩
        apply Reaches.cons (bounded_unlocked hd') rfl
        apply Reaches.cons (bounded_unlocked hd') rfl
        apply hnested.trans
        -- the enclosing call records its reading
        apply Reaches.cons (bounded_unlocked hd') rfl
        exact reaches_write (clock 0) u.1 clock' hd' []
      · rw [if_neg hready] at htests
        exact ⟨_, htests.trans (reaches_write (clock 0) s _ hd' [])⟩

end

/-- A chain that has returned to its caller. -/
theorem returned_stays (P : Params) (s : HandlerState) (clock : Clock) :
    (ChainState.unlocked s ⟨.ret, clock, [], []⟩).step P = .unlocked s ⟨.ret, clock, [], []⟩ := rfl

theorem onButtonsFuel_four (P : Params) (clock : Clock) (buttons : Word)
    (controller : ControllerId) (s : HandlerState) :
    onButtonsFuel P 4 clock buttons controller s =
      some (onButtons P clock buttons controller s) := by
  have hsome := onButtonsFuel_isSome P 0 clock buttons controller s
  obtain ⟨t, ht⟩ := Option.isSome_iff_exists.mp hsome
  rw [ht]
  have hmore := (fuel_mono P 4).1 _ _ _ _ _ ht
  exact hmore.symm.trans (onButtonsFuel_eq P (le_refl callDepth) clock buttons controller s)

/-- Bounds at every step, and a step at which the chain has returned with a given state. -/
structure ChainEnds (P : Params) (c : ChainState) (depth : ℕ) (result : HandlerState) : Prop where
  bounded : ∀ k, ((ChainState.step P)^[k] c).Bounded depth
  returns : ∃ n, ((ChainState.step P)^[n] c).thread.done = true ∧
    ((ChainState.step P)^[n] c).handler = result

theorem ChainEnds.of_reaches {P : Params} {c : ChainState} {d : ℕ} {result : HandlerState}
    {clock : Clock} (h : Reaches (ChainState.step P) (ChainState.Bounded d) c
      (.unlocked result ⟨.ret, clock, [], []⟩)) : ChainEnds P c d result := by
  have hlast : (ChainState.unlocked result ⟨.ret, clock, [], []⟩).Bounded d :=
    bounded_unlocked (Nat.zero_le d)
  constructor
  · exact h.forever (returned_stays P result clock) hlast
  · obtain ⟨n, hn, -⟩ := h.iterate
    refine ⟨n, ?_, ?_⟩
    · rw [hn]
      rfl
    · rw [hn]
      rfl

/-- Both calls return, whatever the state was, and no lock guard waits for its own chain. At most
two calls of `onGesture` are nested below an `onButtons` that returns with the deferred release
handled; a call of `onGesture` is one more above it. -/
theorem chains_end (P : Params) (s : HandlerState) :
    (∀ clock buttons controller,
      ChainEnds P (.start s (.onButtons clock buttons controller)) 2
        (onButtons P clock buttons controller s).1 ∧
      (onButtons P clock buttons controller s).1.releaseGestureKeys = false) ∧
    ∀ clock gx gy,
      ChainEnds P (.start s (.onGesture clock gx gy)) 3 (onGesture P clock gx gy s).1 ∧
      (gestureReady P s → (onGesture P clock gx gy s).1.releaseGestureKeys = false) := by
  constructor
  · intro clock buttons controller
    refine ⟨?_, onButtons_release P clock buttons controller s⟩
    have hfuel := onButtonsFuel_four P clock buttons controller s
    obtain ⟨clock', hreaches⟩ :=
      (reaches_fuel (d := 2) 4).1 clock buttons controller s _ [] le_rfl hfuel
    apply ChainEnds.of_reaches
    exact Reaches.cons (bounded_unlocked (Nat.zero_le 2)) rfl hreaches
  · intro clock gx gy
    constructor
    · have hfuel := onGestureFuel_eq P le_rfl clock gx gy s
      obtain ⟨clock', hreaches⟩ := (reaches_fuel (d := 3) 5).2 clock gx gy s _ [] le_rfl hfuel
      apply ChainEnds.of_reaches
      exact Reaches.cons (bounded_unlocked (Nat.zero_le 3)) rfl hreaches
    · intro hready
      rw [onGesture_eq, if_pos hready]
      exact onButtons_release P _ _ .second s

end PSMoveInput

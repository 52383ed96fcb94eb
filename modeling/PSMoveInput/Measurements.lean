import PSMoveInput.Elapsed

/-! Which readings `onGyroscope` and `onGesture` take for a first measurement. The handler keeps no
flag for it: it looks at the recorded timestamp. The readings that were really taken since the
construction or the last `reset` are kept here beside its state. -/
namespace PSMoveInput

open Transducer

/-! ### One measurement -/

inductive Measurement where
  /-- There is no previous timestamp. -/
  | first
  | gateClosed
  | displacement (dx dy : ℤ)
  deriving DecidableEq, Repr

/-- The tests of both functions in their order, for the recorded timestamp. -/
def measure (cx cy : ℚ) (threshold : ℤ) (last : Timespec) (gate : Bool) (tp : Timespec)
    (gx gy : ℤ) : Measurement :=
  if last.tvSec ≠ 0 ∧ last.tvNsec ≠ 0 then
    if gate = true then
      .displacement (displacement gx (timeDelta tp last) cx threshold)
        (displacement gy (timeDelta tp last) cy threshold)
    else .gateClosed
  else .first

def gyroMeasurement (P : Params) (clock : Clock) (gx gy : ℤ) (s : HandlerState) : Measurement :=
  measure P.cx P.cy P.moveThreshold s.lastGyroTp (moveGate P s) (clock 0) gx gy

def gestureMeasurement (P : Params) (clock : Clock) (gx gy : ℤ) (s : HandlerState) : Measurement :=
  measure P.cx P.cy P.gestureThreshold s.lastGestureTp (gestureGate P s) (clock 0) gx gy

/-- `onGyroscope` with the given measurement: it records the reading and moves. -/
def Measurement.gyroCall (measurement : Measurement) (clock : Clock) (s : HandlerState) :
    HandlerState × List Event :=
  ({ s with lastGyroTp := clock 0 },
    match measurement with
    | .displacement dx dy => if dx ≠ 0 ∨ dy ≠ 0 then [.signal none (.move dx dy)] else []
    | _ => [])

/-- `onGesture` with the given measurement: it reports the bits and records the reading. -/
def Measurement.gestureCall (measurement : Measurement) (P : Params) (clock : Clock)
    (s : HandlerState) : HandlerState × List Event :=
  match measurement with
  | .displacement dx dy =>
    let t := onButtons P (fun k => clock (k + 1))
      (gestureButtons dx dy ||| (s.buttons .second &&& btnGestureMask)) .second s
    ({ t.1 with lastGestureTp := clock 0 }, t.2)
  | _ => ({ s with lastGestureTp := clock 0 }, [])

theorem onGyroscope_measurement (P : Params) (clock : Clock) (gx gy : ℤ) (s : HandlerState) :
    onGyroscope P clock gx gy s = (gyroMeasurement P clock gx gy s).gyroCall clock s := by
  simp only [onGyroscope, gyroMeasurement, measure, Measurement.gyroCall]
  by_cases hlast : s.lastGyroTp.tvSec ≠ 0 ∧ s.lastGyroTp.tvNsec ≠ 0
  · rw [if_pos hlast, if_pos hlast]
    by_cases hgate : moveGate P s = true
    · rw [if_pos hgate, if_pos hgate]
    · rw [if_neg hgate, if_neg hgate]
  · rw [if_neg hlast, if_neg hlast]

theorem onGesture_measurement (P : Params) (clock : Clock) (gx gy : ℤ) (s : HandlerState) :
    onGesture P clock gx gy s = (gestureMeasurement P clock gx gy s).gestureCall P clock s := by
  rw [onGesture_eq]
  simp only [gestureMeasurement, measure, Measurement.gestureCall]
  by_cases hlast : s.lastGestureTp.tvSec ≠ 0 ∧ s.lastGestureTp.tvNsec ≠ 0
  · rw [if_pos hlast]
    by_cases hgate : gestureGate P s = true
    · rw [if_pos hgate, if_pos ⟨hlast, hgate⟩]
      rfl
    · rw [if_neg hgate, if_neg fun h => hgate h.2]
  · rw [if_neg hlast, if_neg fun h => hlast h.1]

/-! ### The calls of `onGesture` -/

/-- A call of `onGesture` with the state that it finds. -/
structure GestureCall where
  clock : Clock
  gx : ℤ
  gy : ℤ
  state : HandlerState

/-! The calls of `onGesture` inside a call, in the order in which they begin. -/

mutual

def buttonsGestureCalls (P : Params) : ℕ → Clock → Word → ControllerId → HandlerState →
    List GestureCall
  | 0, _, _, _, _ => []
  | n + 1, clock, buttons, controller, s =>
    let r := reportButtons P buttons controller s
    if r.1.releaseGestureKeys = true then
      gestureGestureCalls P n clock 0 0 { r.1 with releaseGestureKeys := false }
    else []

def gestureGestureCalls (P : Params) : ℕ → Clock → ℤ → ℤ → HandlerState → List GestureCall
  | 0, _, _, _, _ => []
  | n + 1, clock, gx, gy, s =>
    ⟨clock, gx, gy, s⟩ ::
      if gestureReady P s then
        buttonsGestureCalls P n (fun k => clock (k + 1)) (gestureReport P (clock 0) gx gy s)
          .second s
      else []

end

def Call.gestureCalls (P : Params) (s : HandlerState) : Call → List GestureCall
  | .onButtons clock buttons controller =>
    buttonsGestureCalls P callDepth clock buttons controller s
  | .onGesture clock gx gy => gestureGestureCalls P callDepth clock gx gy s
  | _ => []

theorem reportButtons_lastGestureTp (P : Params) (buttons : Word) (controller : ControllerId)
    (s : HandlerState) :
    (reportButtons P buttons controller s).1.lastGestureTp = s.lastGestureTp := by
  cases controller with
  | first => rw [reportButtons_first]
  | second => rw [reportButtons_second]

theorem reportButtons_lastGyroTp (P : Params) (buttons : Word) (controller : ControllerId)
    (s : HandlerState) : (reportButtons P buttons controller s).1.lastGyroTp = s.lastGyroTp := by
  cases controller with
  | first => rw [reportButtons_first]
  | second => rw [reportButtons_second]

/-- Nested calls find the timestamp that the outermost one has found. -/
theorem gestureCalls_lastGestureTp (P : Params) (n : ℕ) :
    (∀ clock buttons controller s, ∀ g ∈ buttonsGestureCalls P n clock buttons controller s,
      g.state.lastGestureTp = s.lastGestureTp) ∧
    (∀ clock gx gy s, ∀ g ∈ gestureGestureCalls P n clock gx gy s,
      g.state.lastGestureTp = s.lastGestureTp) := by
  induction n with
  | zero =>
    constructor
    · intro clock buttons controller s g hg
      exact absurd hg List.not_mem_nil
    · intro clock gx gy s g hg
      exact absurd hg List.not_mem_nil
  | succ n ih =>
    constructor
    · intro clock buttons controller s g hg
      simp only [buttonsGestureCalls] at hg
      split_ifs at hg
      · rw [ih.2 _ _ _ _ g hg]
        exact reportButtons_lastGestureTp P buttons controller s
      · exact absurd hg List.not_mem_nil
    · intro clock gx gy s g hg
      simp only [gestureGestureCalls] at hg
      rcases List.mem_cons.mp hg with rfl | hg
      · rfl
      · split_ifs at hg
        · exact ih.1 _ _ _ _ g hg
        · exact absurd hg List.not_mem_nil

/-- The reading of the call that has returned last. The outermost call is the last one to
return. -/
def lastReading (previous : Option Timespec) : List GestureCall → Option Timespec
  | [] => previous
  | g :: _ => some (g.clock 0)

/-! ### Runs with the readings taken -/

/-- The handler, with the readings of the previous `onGyroscope` and `onGesture` since the
construction or the last `reset`. -/
structure MeasuredState where
  handler : HandlerState
  gyro : Option Timespec
  gesture : Option Timespec

def MeasuredState.init : MeasuredState where
  handler := .init
  gyro := none
  gesture := none

def MeasuredState.step (P : Params) (m : MeasuredState) (call : Call) :
    MeasuredState × List Event :=
  let r := PSMoveInput.step P m.handler call
  let gyro :=
    match call with
    | .onGyroscope clock _ _ => some (clock 0)
    | .onButtons _ _ _ => m.gyro
    | .onGesture _ _ _ => m.gyro
    | .reset => none
  let gesture :=
    match call with
    | .reset => none
    | _ => lastReading m.gesture (call.gestureCalls P m.handler)
  (⟨r.1, gyro, gesture⟩, r.2)

/-- The readings are only kept beside the run. -/
theorem measured_run (P : Params) (calls : List Call) (m : MeasuredState) :
    ((run (MeasuredState.step P) m calls).1.handler, (run (MeasuredState.step P) m calls).2) =
      runCalls P m.handler calls := by
  induction calls generalizing m with
  | nil => rfl
  | cons call calls ih =>
    have htail := ih (m.step P call).1
    simp only [runCalls, run_cons_fst, run_cons_snd] at htail ⊢
    rw [Prod.mk.injEq] at htail
    exact Prod.ext htail.1 (congrArg (fun es => (m.step P call).2 ++ es) htail.2)

/-- Without a previous reading the measurement is the first one. With one, an open gate makes it a
displacement from that reading. -/
def FollowsReading (cx cy : ℚ) (threshold : ℤ) (previous : Option Timespec) (gate : Bool)
    (tp : Timespec) (gx gy : ℤ) (measurement : Measurement) : Prop :=
  match previous with
  | none => measurement = .first
  | some last => gate = true → measurement =
    .displacement (displacement gx (timeDelta tp last) cx threshold)
      (displacement gy (timeDelta tp last) cy threshold)

/-- The calls of a step act on their measurements, and skip the first measurement, which has no
effect, and no other. -/
structure OnlyFirstSkipped (P : Params) (m : MeasuredState) (call : Call) : Prop where
  gyro : ∀ clock gx gy, call = .onGyroscope clock gx gy →
    ∃ measurement, onGyroscope P clock gx gy m.handler = measurement.gyroCall clock m.handler ∧
      measurement = gyroMeasurement P clock gx gy m.handler ∧
      FollowsReading P.cx P.cy P.moveThreshold m.gyro (moveGate P m.handler) (clock 0) gx gy
        measurement ∧
      (m.gyro = none → (onGyroscope P clock gx gy m.handler).2 = [])
  gesture : ∀ g ∈ call.gestureCalls P m.handler,
    ∃ measurement, onGesture P g.clock g.gx g.gy g.state =
        measurement.gestureCall P g.clock g.state ∧
      measurement = gestureMeasurement P g.clock g.gx g.gy g.state ∧
      FollowsReading P.cx P.cy P.gestureThreshold m.gesture (gestureGate P g.state) (g.clock 0)
        g.gx g.gy measurement ∧
      (m.gesture = none → (onGesture P g.clock g.gx g.gy g.state).2 = [])

/-- No call that finds its gate open follows a reading at the full second. -/
structure ReadingsVisible (P : Params) (m : MeasuredState) (call : Call) : Prop where
  gyro : ∀ clock gx gy, call = .onGyroscope clock gx gy → ∀ last, m.gyro = some last →
    moveGate P m.handler = true → last.tvNsec ≠ 0
  gesture : ∀ g ∈ call.gestureCalls P m.handler, ∀ last, m.gesture = some last →
    gestureGate P g.state = true → last.tvNsec ≠ 0

/-- The readings of a clock that has run for a second. -/
def Call.Clocked : Call → Prop
  | .onButtons clock _ _ => ∀ k, 1 ≤ (clock k).tvSec ∧ (clock k).Normal
  | .onGyroscope clock _ _ => ∀ k, 1 ≤ (clock k).tvSec ∧ (clock k).Normal
  | .onGesture clock _ _ => ∀ k, 1 ≤ (clock k).tvSec ∧ (clock k).Normal
  | .reset => True

/-- A recorded timestamp is that of the previous reading, and zero without one. -/
def Records (last : Timespec) (previous : Option Timespec) : Prop :=
  last = previous.getD ⟨0, 0⟩ ∧ ∀ tp, previous = some tp → 1 ≤ tp.tvSec

structure MeasuredState.Linked (m : MeasuredState) : Prop where
  gyro : Records m.handler.lastGyroTp m.gyro
  gesture : Records m.handler.lastGestureTp m.gesture

theorem records_none : Records ⟨0, 0⟩ none := ⟨rfl, fun _ h => (by cases h)⟩

theorem records_some {tp : Timespec} (h : 1 ≤ tp.tvSec) : Records tp (some tp) := by
  refine ⟨rfl, ?_⟩
  intro tp' heq
  rw [← Option.some.inj heq]
  exact h

/-- The measurement follows the reading if the timestamp does not look like no timestamp. -/
theorem followsReading_iff (cx cy : ℚ) (threshold : ℤ) {last : Timespec}
    {previous : Option Timespec} (hrecords : Records last previous) (gate : Bool) (tp : Timespec)
    (gx gy : ℤ) :
    FollowsReading cx cy threshold previous gate tp gx gy
        (measure cx cy threshold last gate tp gx gy) ↔
      ∀ prev, previous = some prev → gate = true → prev.tvNsec ≠ 0 := by
  obtain ⟨rfl, hsec⟩ := hrecords
  cases previous with
  | none =>
    apply iff_of_true
    · rfl
    · intro prev h
      cases h
  | some prev =>
    have hsec' : prev.tvSec ≠ 0 := by
      have hpos := hsec prev rfl
      omega
    simp only [FollowsReading, measure, Option.getD_some]
    constructor
    · intro h prev' heq hgate hzero
      obtain rfl := Option.some.inj heq
      have hmeasured := h hgate
      rw [if_neg fun hboth => hboth.2 hzero] at hmeasured
      cases hmeasured
    · intro h hgate
      rw [if_pos ⟨hsec', h prev rfl hgate⟩, if_pos hgate]

/-! ### A step -/

theorem lastGyroTp_rule (P : Params) : CallRule P fun s _ t => t.lastGyroTp = s.lastGyroTp where
  trans h h' := h'.trans h
  clear _ := rfl
  time _ _ := rfl
  gesture s tp gx gy _ := reportButtons_lastGyroTp P (gestureReport P tp gx gy s) .second s

/-- A button call leaves the timestamp alone, or the nested call of `onGesture` records its
reading. -/
theorem onButtons_records (P : Params) (clock : Clock) (buttons : Word) (controller : ControllerId)
    (s : HandlerState) {previous : Option Timespec} (h : Records s.lastGestureTp previous)
    (hclock : 1 ≤ (clock 0).tvSec) :
    Records (onButtons P clock buttons controller s).1.lastGestureTp
      (lastReading previous (buttonsGestureCalls P callDepth clock buttons controller s)) := by
  rw [onButtons_eq]
  simp only [callDepth, buttonsGestureCalls]
  split_ifs
  · dsimp only
    rw [onGesture_lastGestureTp]
    exact records_some hclock
  · dsimp only
    rw [reportButtons_lastGestureTp]
    exact h

theorem linked_init : MeasuredState.init.Linked := ⟨records_none, records_none⟩

theorem step_linked (P : Params) (m : MeasuredState) (call : Call) (hclock : call.Clocked)
    (h : m.Linked) : (m.step P call).1.Linked := by
  cases call with
  | onButtons clock buttons controller =>
    constructor
    · have hgyro : (onButtons P clock buttons controller m.handler).1.lastGyroTp =
          m.handler.lastGyroTp := by
        apply (lastGyroTp_rule P).onButtons clock
        exact reportButtons_lastGyroTp P buttons controller m.handler
      simp only [MeasuredState.step, PSMoveInput.step]
      rw [hgyro]
      exact h.gyro
    · exact onButtons_records P clock buttons controller m.handler h.gesture (hclock 0).1
  | onGyroscope clock gx gy => exact ⟨records_some (hclock 0).1, h.gesture⟩
  | onGesture clock gx gy =>
    constructor
    · have hgyro : (onGesture P clock gx gy m.handler).1.lastGyroTp = m.handler.lastGyroTp :=
        (lastGyroTp_rule P).onGesture clock gx gy m.handler
      simp only [MeasuredState.step, PSMoveInput.step]
      rw [hgyro]
      exact h.gyro
    · simp only [MeasuredState.step, PSMoveInput.step]
      rw [onGesture_lastGestureTp]
      exact records_some (hclock 0).1
  | reset => exact ⟨records_none, records_none⟩

theorem onGyroscope_first {P : Params} {clock : Clock} {gx gy : ℤ} {s : HandlerState}
    (h : gyroMeasurement P clock gx gy s = .first) : (onGyroscope P clock gx gy s).2 = [] := by
  rw [onGyroscope_measurement, h]
  rfl

theorem onGesture_first {P : Params} {clock : Clock} {gx gy : ℤ} {s : HandlerState}
    (h : gestureMeasurement P clock gx gy s = .first) : (onGesture P clock gx gy s).2 = [] := by
  rw [onGesture_measurement, h]
  rfl

theorem gestureCalls_records {P : Params} {m : MeasuredState} (h : m.Linked) {call : Call}
    {g : GestureCall} (hg : g ∈ call.gestureCalls P m.handler) :
    Records g.state.lastGestureTp m.gesture := by
  have hsame : g.state.lastGestureTp = m.handler.lastGestureTp := by
    cases call with
    | onButtons clock buttons controller =>
      exact (gestureCalls_lastGestureTp P callDepth).1 _ _ _ _ g hg
    | onGesture clock gx gy => exact (gestureCalls_lastGestureTp P callDepth).2 _ _ _ _ g hg
    | onGyroscope clock gx gy => exact absurd hg List.not_mem_nil
    | reset => exact absurd hg List.not_mem_nil
  rw [hsame]
  exact h.gesture

theorem onlyFirstSkipped_iff (P : Params) (m : MeasuredState) (call : Call) (h : m.Linked) :
    OnlyFirstSkipped P m call ↔ ReadingsVisible P m call := by
  constructor
  · intro hskip
    constructor
    · intro clock gx gy hcall last hlast hgate
      obtain ⟨_, -, rfl, hfollows, -⟩ := hskip.gyro clock gx gy hcall
      exact (followsReading_iff _ _ _ h.gyro _ _ gx gy).mp hfollows last hlast hgate
    · intro g hg
      obtain ⟨_, -, rfl, hfollows, -⟩ := hskip.gesture g hg
      exact (followsReading_iff _ _ _ (gestureCalls_records h hg) _ _ g.gx g.gy).mp hfollows
  · intro hvisible
    constructor
    · intro clock gx gy hcall
      have hfollows := (followsReading_iff P.cx P.cy P.moveThreshold h.gyro _ (clock 0) gx gy).mpr
        (hvisible.gyro clock gx gy hcall)
      refine ⟨_, onGyroscope_measurement P clock gx gy m.handler, rfl, hfollows, ?_⟩
      intro hnone
      rw [hnone] at hfollows
      exact onGyroscope_first hfollows
    · intro g hg
      have hfollows := (followsReading_iff P.cx P.cy P.gestureThreshold (gestureCalls_records h hg)
        _ (g.clock 0) g.gx g.gy).mpr
        (hvisible.gesture g hg)
      refine ⟨_, onGesture_measurement P g.clock g.gx g.gy g.state, rfl, hfollows, ?_⟩
      intro hnone
      rw [hnone] at hfollows
      exact onGesture_first hfollows

/-- In a run of the handler, exactly the first measurements are skipped if and only if no call that
finds its gate open follows a reading whose `tv_nsec` is zero. -/
theorem only_first_skipped_iff (P : Params) (calls : List Call)
    (hclock : ∀ call ∈ calls, call.Clocked) :
    ((run (MeasuredState.step P) .init calls).1.handler,
        (run (MeasuredState.step P) .init calls).2) = runCalls P .init calls ∧
      (Along (MeasuredState.step P) (OnlyFirstSkipped P) .init calls ↔
        Along (MeasuredState.step P) (ReadingsVisible P) .init calls) := by
  refine ⟨measured_run P calls .init, ?_⟩
  apply along_congr (MeasuredState.step P) MeasuredState.Linked calls
  · intro m call hcall h
    exact step_linked P m call (hclock call hcall) h
  · intro m call hcall h
    exact onlyFirstSkipped_iff P m call h
  · exact linked_init

/-- One pixel a millisecond, and no triggers. -/
def unitParams : Params := ⟨[], [], 1, 1, 0, 0⟩

/-- Two readings, the first of them 20 ms after the full second. -/
def lateCalls : List Call :=
  [.onGyroscope (fun _ => ⟨1, 20000000⟩) 7 0, .onGyroscope (fun _ => ⟨1, 30000000⟩) 7 0]

theorem only_first_skipped_late :
    Along (MeasuredState.step unitParams) (OnlyFirstSkipped unitParams) .init lateCalls := by
  apply (only_first_skipped_iff unitParams lateCalls _).2.mpr
  · refine ⟨⟨?_, ?_⟩, ⟨?_, ?_⟩, trivial⟩
    · intro clock gx gy _ last hlast
      cases hlast
    · intro g hg
      exact absurd hg List.not_mem_nil
    · intro clock gx gy _ last hlast _
      obtain rfl := Option.some.inj hlast
      decide
    · intro g hg
      exact absurd hg List.not_mem_nil
  · intro call hcall
    simp only [lateCalls, List.mem_cons, List.not_mem_nil, or_false] at hcall
    have hclock (tp : Timespec) (h : 1 ≤ tp.tvSec ∧ tp.Normal) :
        (Call.onGyroscope (fun _ => tp) 7 0).Clocked := fun _ => h
    rcases hcall with rfl | rfl
    · exact hclock _ ⟨by decide, by decide, by decide⟩
    · exact hclock _ ⟨by decide, by decide, by decide⟩

/-- The same 20 ms earlier. -/
def fullSecondCalls : List Call :=
  [.onGyroscope (fun _ => ⟨1, 0⟩) 7 0, .onGyroscope (fun _ => ⟨1, 10000000⟩) 7 0]

/-- The second reading is taken for a first one again, and 70 pixels are lost. -/
theorem full_second_skipped :
    (runCalls unitParams .init fullSecondCalls).2 = [] ∧
      displacement 7 (timeDelta ⟨1, 10000000⟩ ⟨1, 0⟩) unitParams.cx unitParams.moveThreshold = 70 ∧
      ¬Along (MeasuredState.step unitParams) (OnlyFirstSkipped unitParams) .init
        fullSecondCalls := by
  refine ⟨by decide +kernel, by decide +kernel, ?_⟩
  intro h
  obtain ⟨-, hsecond, -⟩ := h
  obtain ⟨measurement, -, heq, hfollows, -⟩ := hsecond.gyro (fun _ => ⟨1, 10000000⟩) 7 0 rfl
  have hmeasured : gyroMeasurement unitParams (fun _ => ⟨1, 10000000⟩) 7 0
      (onGyroscope unitParams (fun _ => ⟨1, 0⟩) 7 0 .init).1 = .first := by decide +kernel
  cases (heq.trans hmeasured).symm.trans (hfollows rfl)

end PSMoveInput

import PSMoveInput.HandlerCalls

/-! Threads that execute the handler's calls statement by statement. One step is an iteration of
the locked bit loop, or one read or write of a field outside it. A thread that is left alone
computes what the calls of the sequential model compute. -/
namespace PSMoveInput

open Transducer

/-- The calls that the two controller threads make. -/
inductive Request where
  | onButtons (clock : Clock) (buttons : Word) (controller : ControllerId)
  | onGesture (clock : Clock) (gx gy : ℤ)

def Request.call : Request → Call
  | .onButtons clock buttons controller => .onButtons clock buttons controller
  | .onGesture clock gx gy => .onGesture clock gx gy

/-- The next statement of a thread, with the local variables it still needs. The fields that
only the constructor writes are read along with the statement that uses them. -/
inductive Pc where
  | ret
  | compare (buttons : Word) (controller : ControllerId)
  | readPressed (buttons : Word) (controller : ControllerId)
  | readReleased (buttons : Word) (controller : ControllerId) (pressed : Word)
  | scan (buttons : Word) (controller : ControllerId) (pressed released : Word) (bits : List Word)
  | store (buttons : Word) (controller : ControllerId)
  | testRelease
  | clearRelease
  | testSec (gestureTp : Timespec) (gx gy : ℤ)
  | testNsec (gestureTp : Timespec) (gx gy : ℤ)
  | testTrigger (gestureTp : Timespec) (gx gy : ℤ)
  | readNsec (gestureTp : Timespec) (gx gy : ℤ)
  | readButtons (gestureTp : Timespec) (gestureButtons : Word)
  | writeSec (gestureTp : Timespec)
  | writeNsec (gestureTp : Timespec)
  deriving DecidableEq

/-- `pending` holds the readings that the enclosing `onGesture` calls still have to record. -/
structure ThreadState where
  pc : Pc
  clock : Clock
  pending : List Timespec
  program : List Request

def ThreadState.start (program : List Request) : ThreadState where
  pc := .ret
  clock := fun _ => ⟨0, 0⟩
  pending := []
  program := program

/-- Every call of the program has returned. -/
def ThreadState.done (t : ThreadState) : Bool :=
  t.pc = .ret && t.pending.isEmpty && t.program.isEmpty

/-- Entry of `onGesture`, up to and including its clock reading. -/
def ThreadState.enterGesture (t : ThreadState) (gx gy : ℤ) : ThreadState :=
  { t with pc := .testSec (t.clock 0) gx gy, clock := fun k => t.clock (k + 1) }

def ThreadState.goto (t : ThreadState) (pc : Pc) : ThreadState := { t with pc := pc }

/-- A call returns to the enclosing `onGesture`, or the thread takes the next call. -/
def ThreadState.resume (t : ThreadState) : ThreadState :=
  match t.pending, t.program with
  | gestureTp :: pending, _ => { t with pc := .writeSec gestureTp, pending := pending }
  | [], [] => t
  | [], .onButtons clock buttons controller :: program =>
    { t with pc := .compare buttons controller, clock := clock, program := program }
  | [], .onGesture clock gx gy :: program =>
    ThreadState.enterGesture { t with clock := clock, program := program } gx gy

/-- The gesture bits that a reading amounts to. -/
def gestureBitsOf (P : Params) (gestureTp last : Timespec) (gx gy : ℤ) : Word :=
  let delta := timeDelta gestureTp last
  gestureButtons (displacement gx delta P.cx P.gestureThreshold)
    (displacement gy delta P.cy P.gestureThreshold)

def threadStep (P : Params) (s : HandlerState) (t : ThreadState) :
    HandlerState × ThreadState × List Event :=
  match t.pc with
  | .ret => (s, t.resume, [])
  | .compare buttons controller =>
    (s, t.goto (if s.buttons controller ≠ buttons then .readPressed buttons controller
      else .testRelease), [.report controller (s.buttons controller) buttons])
  | .readPressed buttons controller =>
    (s, t.goto (.readReleased buttons controller (buttons &&& ~~~s.buttons controller)), [])
  | .readReleased buttons controller pressed =>
    (s, t.goto (.scan buttons controller pressed (s.buttons controller &&& ~~~buttons) scanBits),
      [])
  | .scan buttons controller _ _ [] => (s, t.goto (.store buttons controller), [])
  | .scan buttons controller pressed released (i :: bits) =>
    -- under the mutex
    let r := scanStep P controller pressed released s i
    (r.1, t.goto (.scan buttons controller pressed released bits), r.2)
  | .store buttons controller => (s.setButtons controller buttons, t.goto .testRelease, [])
  | .testRelease => (s, t.goto (if s.releaseGestureKeys = true then .clearRelease else .ret), [])
  -- the nested call runs in the thread that found the flag
  | .clearRelease => ({ s with releaseGestureKeys := false }, t.enterGesture 0 0, [])
  | .testSec gestureTp gx gy =>
    (s, t.goto (if s.lastGestureTp.tvSec ≠ 0 then .testNsec gestureTp gx gy
      else .writeSec gestureTp), [])
  | .testNsec gestureTp gx gy =>
    (s, t.goto (if s.lastGestureTp.tvNsec ≠ 0 then .testTrigger gestureTp gx gy
      else .writeSec gestureTp), [])
  | .testTrigger gestureTp gx gy =>
    (s, t.goto (if gestureGate P s = true then .readNsec gestureTp gx gy
      else .writeSec gestureTp), [])
  | .readNsec gestureTp gx gy =>
    (s, t.goto (.readButtons gestureTp (gestureBitsOf P gestureTp s.lastGestureTp gx gy)), [])
  | .readButtons gestureTp gestureButtons =>
    (s, { t with
      pc := .compare (gestureButtons ||| (s.buttons .second &&& btnGestureMask)) .second
      pending := gestureTp :: t.pending }, [])
  | .writeSec gestureTp =>
    ({ s with lastGestureTp := ⟨gestureTp.tvSec, s.lastGestureTp.tvNsec⟩ },
      t.goto (.writeNsec gestureTp), [])
  | .writeNsec gestureTp =>
    ({ s with lastGestureTp := ⟨s.lastGestureTp.tvSec, gestureTp.tvNsec⟩ }, t.goto .ret, [])

/-! ### What a thread still has to do -/

/-- `onButtons` from the test of `releaseGestureKeys_` on. -/
def afterReport (P : Params) (clock : Clock) (s : HandlerState) : HandlerState × List Event :=
  if s.releaseGestureKeys = true then
    onGesture P clock 0 0 { s with releaseGestureKeys := false }
  else (s, [])

/-- `onButtons` from the bit loop on, with the bits that are left. -/
def afterScan (P : Params) (clock : Clock) (buttons : Word) (controller : ControllerId)
    (pressed released : Word) (bits : List Word) (s : HandlerState) :
    HandlerState × List Event :=
  let r := run (scanStep P controller pressed released) s bits
  let t := afterReport P clock (r.1.setButtons controller buttons)
  (t.1, r.2 ++ t.2)

/-- `onGesture` from the report of the gesture bits on. -/
def afterGate (P : Params) (clock : Clock) (gestureTp : Timespec) (buttons : Word)
    (s : HandlerState) : HandlerState × List Event :=
  let t := onButtons P clock buttons .second s
  ({ t.1 with lastGestureTp := gestureTp }, t.2)

/-- The rest of the current call, executed alone. -/
def pcRest (P : Params) (clock : Clock) (s : HandlerState) : Pc → HandlerState × List Event
  | .ret => (s, [])
  | .compare buttons controller => onButtons P clock buttons controller s
  | .readPressed buttons controller =>
    afterScan P clock buttons controller (buttons &&& ~~~s.buttons controller)
      (s.buttons controller &&& ~~~buttons) scanBits s
  | .readReleased buttons controller pressed =>
    afterScan P clock buttons controller pressed (s.buttons controller &&& ~~~buttons) scanBits s
  | .scan buttons controller pressed released bits =>
    afterScan P clock buttons controller pressed released bits s
  | .store buttons controller => afterReport P clock (s.setButtons controller buttons)
  | .testRelease => afterReport P clock s
  | .clearRelease => onGesture P clock 0 0 { s with releaseGestureKeys := false }
  | .testSec gestureTp gx gy =>
    if gestureReady P s then
      afterGate P clock gestureTp (gestureReport P gestureTp gx gy s) s
    else ({ s with lastGestureTp := gestureTp }, [])
  | .testNsec gestureTp gx gy =>
    if s.lastGestureTp.tvNsec ≠ 0 ∧ gestureGate P s = true then
      afterGate P clock gestureTp (gestureReport P gestureTp gx gy s) s
    else ({ s with lastGestureTp := gestureTp }, [])
  | .testTrigger gestureTp gx gy =>
    if gestureGate P s = true then
      afterGate P clock gestureTp (gestureReport P gestureTp gx gy s) s
    else ({ s with lastGestureTp := gestureTp }, [])
  | .readNsec gestureTp gx gy =>
    afterGate P clock gestureTp (gestureReport P gestureTp gx gy s) s
  | .readButtons gestureTp gestureButtons =>
    afterGate P clock gestureTp (gestureButtons ||| (s.buttons .second &&& btnGestureMask)) s
  | .writeSec gestureTp => ({ s with lastGestureTp := gestureTp }, [])
  | .writeNsec gestureTp =>
    ({ s with lastGestureTp := ⟨s.lastGestureTp.tvSec, gestureTp.tvNsec⟩ }, [])

def recordPending (s : HandlerState) (pending : List Timespec) : HandlerState :=
  pending.foldl (fun s gestureTp => { s with lastGestureTp := gestureTp }) s

/-- The rest of the current call, of the enclosing ones and of the program. -/
def finish (P : Params) (s : HandlerState) (t : ThreadState) : HandlerState × List Event :=
  let r := pcRest P t.clock s t.pc
  let u := runCalls P (recordPending r.1 t.pending) (t.program.map Request.call)
  (u.1, r.2 ++ u.2)

theorem finish_done (P : Params) (s : HandlerState) (t : ThreadState) (h : t.done = true) :
    finish P s t = (s, []) := by
  unfold ThreadState.done at h
  simp only [Bool.and_eq_true, decide_eq_true_eq, List.isEmpty_iff] at h
  obtain ⟨⟨hpc, hpending⟩, hprogram⟩ := h
  simp only [finish]
  rw [hpc, hpending, hprogram]
  rfl

theorem finish_start (P : Params) (s : HandlerState) (program : List Request) :
    finish P s (.start program) = runCalls P s (program.map Request.call) := by
  simp only [finish, ThreadState.start]
  rfl

/-- A step that stays inside the current call. -/
theorem finish_inside (P : Params) (s : HandlerState) (t : ThreadState)
    (hpending : (threadStep P s t).2.1.pending = t.pending)
    (hprogram : (threadStep P s t).2.1.program = t.program)
    (hrest : pcRest P t.clock s t.pc =
      ((pcRest P (threadStep P s t).2.1.clock (threadStep P s t).1 (threadStep P s t).2.1.pc).1,
        (threadStep P s t).2.2 ++
          (pcRest P (threadStep P s t).2.1.clock (threadStep P s t).1
            (threadStep P s t).2.1.pc).2)) :
    finish P s t = ((finish P (threadStep P s t).1 (threadStep P s t).2.1).1,
      (threadStep P s t).2.2 ++ (finish P (threadStep P s t).1 (threadStep P s t).2.1).2) := by
  unfold finish
  dsimp only
  rw [hrest, hpending, hprogram]
  dsimp only
  rw [List.append_assoc]

theorem onButtons_afterReport (P : Params) (clock : Clock) (buttons : Word)
    (controller : ControllerId) (s : HandlerState) :
    onButtons P clock buttons controller s =
      ((afterReport P clock (reportButtons P buttons controller s).1).1,
        reportOut P buttons controller s ++
          (afterReport P clock (reportButtons P buttons controller s).1).2) := by
  rw [onButtons_eq]
  simp only [afterReport]
  split_ifs
  · rfl
  · rw [List.append_nil]

theorem onGesture_testSec (P : Params) (clock : Clock) (gx gy : ℤ) (s : HandlerState) :
    onGesture P clock gx gy s =
      pcRest P (fun k => clock (k + 1)) s (.testSec (clock 0) gx gy) := by
  rw [onGesture_eq]
  rfl

/-- A step of a thread that is alone takes it one step further on the way to its result. -/
theorem finish_step (P : Params) (s : HandlerState) (t : ThreadState) :
    finish P s t = ((finish P (threadStep P s t).1 (threadStep P s t).2.1).1,
      (threadStep P s t).2.2 ++ (finish P (threadStep P s t).1 (threadStep P s t).2.1).2) := by
  obtain ⟨pc, clock, pending, program⟩ := t
  cases pc with
  | ret =>
    cases pending with
    | cons gestureTp pending => rfl
    | nil =>
      -- the thread takes the next call of its program
      cases program with
      | nil => rfl
      | cons request program =>
        cases request with
        | onButtons clock' buttons controller => rfl
        | onGesture clock' gx gy =>
          have hcall := onGesture_testSec P clock' gx gy s
          simp only [finish, threadStep]
          simp only [ThreadState.resume, ThreadState.enterGesture]
          rw [← hcall]
          rfl
  | compare buttons controller =>
    apply finish_inside P s _ rfl rfl
    simp only [pcRest, threadStep, ThreadState.goto]
    rw [onButtons_afterReport]
    simp only [reportOut, reportButtons]
    -- equal words skip the loop
    by_cases hchange : s.buttons controller ≠ buttons
    · simp only [if_pos hchange, afterScan, List.cons_append, List.nil_append]
    · simp only [if_neg hchange, List.cons_append, List.nil_append]
  | readPressed buttons controller => exact finish_inside P s _ rfl rfl rfl
  | readReleased buttons controller pressed => exact finish_inside P s _ rfl rfl rfl
  | scan buttons controller pressed released bits =>
    cases bits with
    | nil => exact finish_inside P s _ rfl rfl rfl
    | cons i bits =>
      -- one iteration of the loop
      apply finish_inside P s _ rfl rfl
      simp only [pcRest, threadStep, ThreadState.goto, afterScan, run_cons_fst, run_cons_snd,
        List.append_assoc]
  | store buttons controller => exact finish_inside P s _ rfl rfl rfl
  | testRelease =>
    apply finish_inside P s _ rfl rfl
    simp only [pcRest, threadStep, ThreadState.goto, afterReport]
    split_ifs <;> rfl
  | clearRelease =>
    apply finish_inside P s _ rfl rfl
    exact onGesture_testSec P clock 0 0 _
  | testSec gestureTp gx gy =>
    apply finish_inside P s _ rfl rfl
    -- the tests of `onGesture` come one by one, the model tests them at once
    by_cases hsec : s.lastGestureTp.tvSec ≠ 0
    · have hready : gestureReady P s ↔
          s.lastGestureTp.tvNsec ≠ 0 ∧ gestureGate P s = true := by
        simp only [gestureReady]
        rw [and_assoc, and_iff_right hsec]
      simp only [pcRest, threadStep, ThreadState.goto, if_pos hsec, hready, List.nil_append]
    · have hready : ¬gestureReady P s := fun h => hsec h.1.1
      simp only [pcRest, threadStep, ThreadState.goto, if_neg hsec, if_neg hready, List.nil_append]
  | testNsec gestureTp gx gy =>
    apply finish_inside P s _ rfl rfl
    by_cases hnsec : s.lastGestureTp.tvNsec ≠ 0
    · have hgate : (s.lastGestureTp.tvNsec ≠ 0 ∧ gestureGate P s = true) ↔
          gestureGate P s = true := and_iff_right hnsec
      simp only [pcRest, threadStep, ThreadState.goto, if_pos hnsec, hgate, List.nil_append]
    · have hgate : ¬(s.lastGestureTp.tvNsec ≠ 0 ∧ gestureGate P s = true) := fun h => hnsec h.1
      simp only [pcRest, threadStep, ThreadState.goto, if_neg hnsec, if_neg hgate, List.nil_append]
  | testTrigger gestureTp gx gy =>
    apply finish_inside P s _ rfl rfl
    simp only [pcRest, threadStep, ThreadState.goto]
    split_ifs <;> rfl
  | readNsec gestureTp gx gy => exact finish_inside P s _ rfl rfl rfl
  | readButtons gestureTp gestureButtons => rfl
  | writeSec gestureTp => exact finish_inside P s _ rfl rfl rfl
  | writeNsec gestureTp => exact finish_inside P s _ rfl rfl rfl

end PSMoveInput

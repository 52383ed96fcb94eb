import PSMoveInput.Movement
import PSMoveInput.ReaderKeys
import PSMoveInput.Triggers

/-! How far the reader of the device moves the pointer and turns the wheel. Frames may be split;
the sums of the motions do not depend on it. -/
namespace PSMoveInput

open Transducer Truncation

/-! ### Positions -/

/-- What an event adds to the position on an axis. -/
def InputEvent.motion (axis : ℤ) (e : InputEvent) : ℤ :=
  if e.type = .evRel ∧ e.code = axis then e.value else 0

/-- The position after the events, from zero. -/
def position (axis : ℤ) (events : List InputEvent) : ℤ := (events.map (InputEvent.motion axis)).sum

def DeviceReport.motion (axis : ℤ) : DeviceReport → ℤ
  | .move dx dy => (if axis = relX then dx else 0) + if axis = relY then dy else 0
  | .key _ _ => 0
  | .mwheel value => if axis = relWheel then value else 0

/-- The motions that the signals of a run of the handler ask for. -/
def signalMotion (axis : ℤ) (es : List Event) : ℤ :=
  ((deviceReports es).map (DeviceReport.motion axis)).sum

theorem position_append (axis : ℤ) (es fs : List InputEvent) :
    position axis (es ++ fs) = position axis es + position axis fs := by
  rw [position, List.map_append, List.sum_append]
  rfl

/-- Components that are zero are not written, and add nothing. -/
theorem position_report (axis : ℤ) (report : DeviceReport) :
    position axis report.events = report.motion axis := by
  have hsyn : position axis InputDevice.reportSyn = 0 := rfl
  have hrel (code value : ℤ) : position axis [⟨.evRel, code, value⟩] =
      if axis = code then value else 0 := by
    simp [position, InputEvent.motion, eq_comm]
  cases report with
  | move dx dy =>
    have haxis (code d : ℤ) : position axis (if d ≠ 0 then [⟨.evRel, code, d⟩] else []) =
        if axis = code then d else 0 := by
      split_ifs with hd haxis haxis
      · rw [hrel, if_pos haxis]
      · rw [hrel, if_neg haxis]
      · exact (not_not.mp hd).symm
      · rfl
    simp only [DeviceReport.events, InputDevice.reportMove, position_append, haxis, hsyn, add_zero,
      DeviceReport.motion]
  | key code pressed => rfl
  | mwheel value =>
    rw [DeviceReport.events, InputDevice.reportMWheel, position_append, hrel, hsyn, add_zero]
    rfl

theorem position_reports (axis : ℤ) (reports : List DeviceReport) :
    position axis (reports.flatMap DeviceReport.events) =
      (reports.map (DeviceReport.motion axis)).sum := by
  induction reports with
  | nil => rfl
  | cons report reports ih =>
    rw [List.flatMap_cons, position_append, position_report, ih, List.map_cons, List.sum_cons]

/-- The motions of the two threads add up, in any order of their events. -/
theorem position_threads (axis : ℤ) (es : List DeviceAction) :
    position axis (writtenEvents es) =
      position axis (threadEvents .first es) + position axis (threadEvents .second es) := by
  rw [writtenEvents_writesOf, threadEvents, threadEvents]
  induction writesOf es with
  | nil => rfl
  | cons w ws ih =>
    have hhead : position axis ((w :: ws).map Write.event) =
        w.event.motion axis + position axis (ws.map Write.event) := rfl
    have hpart (c : ControllerId) :
        position axis (((w :: ws).filter fun w => w.thread = c).map Write.event) =
          (if w.thread = c then w.event.motion axis else 0) +
            position axis ((ws.filter fun w => w.thread = c).map Write.event) := by
      by_cases hw : w.thread = c
      · have hcons : (w :: ws).filter (fun w => w.thread = c) =
            w :: ws.filter fun w => w.thread = c := List.filter_cons_of_pos (decide_eq_true hw)
        rw [if_pos hw, hcons]
        rfl
      · have hcons : (w :: ws).filter (fun w => w.thread = c) =
            ws.filter fun w => w.thread = c := List.filter_cons_of_neg (by simpa using hw)
        rw [if_neg hw, hcons, zero_add]
    rw [hhead, hpart, hpart, ih]
    cases w.thread
    · simp only [↓reduceIte, reduceCtorEq]
      omega
    · simp only [↓reduceIte, reduceCtorEq]
      omega

/-! ### Exact movements -/

/-- The movements that a run of the handler signals. -/
def movements (es : List Event) : List (ℤ × ℤ) :=
  (signals es).filterMap fun
    | .move dx dy => some (dx, dy)
    | _ => none

/-- The two products before their conversion to `int`, for a reading that is measured: there is a
previous timestamp and the gate is open. -/
def Call.exactDisplacements (P : Params) (s : HandlerState) : Call → List (ℚ × ℚ)
  | .onGyroscope clock gx gy =>
    let delta := timeDelta (clock 0) s.lastGyroTp
    if (s.lastGyroTp.tvSec ≠ 0 ∧ s.lastGyroTp.tvNsec ≠ 0) ∧ moveGate P s = true then
      [(gx * delta * P.cx, gy * delta * P.cy)]
    else []
  | _ => []

def exactStep (P : Params) (s : HandlerState) (call : Call) : HandlerState × List (ℚ × ℚ) :=
  ((step P s call).1, call.exactDisplacements P s)

/-- The exact displacements of all readings that a run of calls measures, whether they move the
pointer or not. -/
def exactDisplacements (P : Params) (calls : List Call) : List (ℚ × ℚ) :=
  (run (exactStep P) .init calls).2

/-- What conversion and threshold may take from a displacement. -/
def Params.drift (P : Params) : ℚ := max 1 (P.moveThreshold : ℚ)

theorem movements_append (es fs : List Event) :
    movements (es ++ fs) = movements es ++ movements fs := by
  rw [movements, signals_append, List.filterMap_append]
  rfl

/-- Only `onGyroscope` signals movements. -/
theorem movements_nil (P : Params) (s : HandlerState) (call : Call)
    (hcall : ∀ clock gx gy, call ≠ .onGyroscope clock gx gy) :
    movements (step P s call).2 = [] := by
  rw [movements, List.filterMap_eq_nil_iff]
  intro sig hsig
  cases sig with
  | move dx dy =>
    obtain ⟨ev, hev, hev'⟩ := List.mem_filterMap.mp hsig
    obtain ⟨cause, rfl⟩ : ∃ cause, ev = .signal cause (.move dx dy) := by
      cases ev with
      | report c before after => cases hev'
      | signal cause sig => exact ⟨cause, by rw [Option.some.inj hev']⟩
    cases call with
    | onGyroscope clock gx gy => exact absurd rfl (hcall clock gx gy)
    | onButtons clock buttons controller =>
      have hreport (cause : Option (ControllerId × ℕ)) :
          .signal cause (.move dx dy) ∉ reportOut P buttons controller s :=
        reportOut_no_move P buttons controller s cause
      exact absurd hev ((noMove_rule P dx dy).onButtons clock hreport cause)
    | onGesture clock gx gy =>
      exact absurd hev ((noMove_rule P dx dy).onGesture clock gx gy s cause)
    | reset => exact absurd hev List.not_mem_nil
  | _ => rfl

theorem displacement_near (g delta : ℤ) (coeff : ℚ) (threshold : ℤ) :
    |(displacement g delta coeff threshold : ℚ) - g * delta * coeff| < max 1 (threshold : ℚ) := by
  rw [displacement_eq]
  exact abs_deadZone_truncate_sub_lt threshold _

/-- The sums of the movements that are signalled, on each axis, against the exact displacements. -/
structure MovementsDrift (P : Params) (es : List Event) (exact : List (ℚ × ℚ)) : Prop where
  dx : Drifts P.drift ((movements es).map Prod.fst).sum (exact.map Prod.fst)
  dy : Drifts P.drift ((movements es).map Prod.snd).sum (exact.map Prod.snd)

theorem movementsDrift_nil (P : Params) {es : List Event} (h : movements es = []) :
    MovementsDrift P es [] := by
  constructor
  · rw [h]
    exact drifts_nil
  · rw [h]
    exact drifts_nil

theorem MovementsDrift.append {P : Params} {es fs : List Event} {exact exact' : List (ℚ × ℚ)}
    (h : MovementsDrift P es exact) (h' : MovementsDrift P fs exact') :
    MovementsDrift P (es ++ fs) (exact ++ exact') := by
  constructor
  · rw [movements_append, List.map_append, List.sum_append, List.map_append]
    exact h.dx.append h'.dx
  · rw [movements_append, List.map_append, List.sum_append, List.map_append]
    exact h.dy.append h'.dy

/-- A reading that is measured moves the pointer by its two displacements, or not at all if both are
zero. -/
theorem onGyroscope_movements {P : Params} {s : HandlerState} (clock : Clock) (gx gy : ℤ)
    (hlast : s.lastGyroTp.tvSec ≠ 0 ∧ s.lastGyroTp.tvNsec ≠ 0) (hgate : moveGate P s = true) :
    let delta := timeDelta (clock 0) s.lastGyroTp
    ((movements (onGyroscope P clock gx gy s).2).map Prod.fst).sum =
        displacement gx delta P.cx P.moveThreshold ∧
      ((movements (onGyroscope P clock gx gy s).2).map Prod.snd).sum =
        displacement gy delta P.cy P.moveThreshold := by
  intro delta
  rw [movements, onGyroscope_open P clock gx gy s hlast hgate]
  split_ifs with hmoves
  · exact ⟨add_zero _, add_zero _⟩
  · rw [not_or, not_not, not_not] at hmoves
    exact ⟨hmoves.1.symm, hmoves.2.symm⟩

theorem step_drifts (P : Params) (s : HandlerState) (call : Call) :
    MovementsDrift P (step P s call).2 (call.exactDisplacements P s) := by
  cases call with
  | onGyroscope clock gx gy =>
    simp only [step, Call.exactDisplacements]
    by_cases hmeasured : (s.lastGyroTp.tvSec ≠ 0 ∧ s.lastGyroTp.tvNsec ≠ 0) ∧ moveGate P s = true
    · obtain ⟨hx, hy⟩ := onGyroscope_movements clock gx gy hmeasured.1 hmeasured.2
      rw [if_pos hmeasured]
      constructor
      · rw [hx]
        exact drifts_singleton (displacement_near gx _ P.cx P.moveThreshold)
      · rw [hy]
        exact drifts_singleton (displacement_near gy _ P.cy P.moveThreshold)
    · rw [onGyroscope_unmeasured hmeasured, if_neg hmeasured]
      exact movementsDrift_nil P rfl
  | onButtons clock buttons controller =>
    exact movementsDrift_nil P (movements_nil P s _ fun _ _ _ h => by cases h)
  | onGesture clock gx gy =>
    exact movementsDrift_nil P (movements_nil P s _ fun _ _ _ h => by cases h)
  | reset => exact movementsDrift_nil P rfl

theorem run_drifts (P : Params) (calls : List Call) (s : HandlerState) :
    MovementsDrift P (runCalls P s calls).2 (run (exactStep P) s calls).2 := by
  induction calls generalizing s with
  | nil => exact movementsDrift_nil P rfl
  | cons call calls ih =>
    rw [runCalls, run_cons_snd, run_cons_snd]
    exact (step_drifts P s call).append (ih (step P s call).1)

theorem signalMotion_movements (es : List Event) :
    signalMotion relX es = ((movements es).map Prod.fst).sum ∧
      signalMotion relY es = ((movements es).map Prod.snd).sum := by
  rw [signalMotion, signalMotion, deviceReports, movements]
  induction signals es with
  | nil => exact ⟨rfl, rfl⟩
  | cons sig sigs ih =>
    cases sig with
    | move dx dy =>
      have hx : DeviceReport.motion relX (.move dx dy) = dx := by
        simp [DeviceReport.motion, relX, relY]
      have hy : DeviceReport.motion relY (.move dx dy) = dy := by
        simp [DeviceReport.motion, relX, relY]
      simp only [List.filterMap_cons, Signal.report?, List.map_cons, List.sum_cons, hx, hy, ih,
        and_self]
    | key lincode pressed =>
      simp only [List.filterMap_cons, Signal.report?, List.map_cons, List.sum_cons,
        DeviceReport.motion, zero_add]
      exact ih
    | mwheel value =>
      have hx : DeviceReport.motion relX (.mwheel value) = 0 := rfl
      have hy : DeviceReport.motion relY (.mwheel value) = 0 := rfl
      simp only [List.filterMap_cons, Signal.report?, List.map_cons, List.sum_cons, hx, hy,
        zero_add]
      exact ih
    | disconnect c => exact ih

/-- The thread of the second controller moves nothing. -/
theorem second_movements (P : Params) {calls : List DeviceCall}
    (hcalls : ∀ call ∈ calls, call.Belongs .second) (s : HandlerState) :
    movements (runCalls P s (calls.map DeviceCall.call)).2 = [] := by
  induction calls generalizing s with
  | nil => rfl
  | cons made calls ih =>
    have hrest := ih (fun call hcall => hcalls call (List.mem_cons_of_mem made hcall))
    have hmade := hcalls made List.mem_cons_self
    rw [List.map_cons, runCalls, run_cons_snd, movements_append, movements_nil P s]
    · exact hrest (step P s made.call).1
    · intro clock gx gy hcall
      cases made with
      | onGyroscope clock gx gy => cases hmade
      | request r => cases r <;> cases hcall

/-! ### The reader -/

/-- The position once both threads have finished, from the signals of each controller alone. -/
theorem run_position (P : Params) {programs : ControllerId → List DeviceCall}
    (hprograms : ∀ c, ∀ call ∈ programs c, call.Belongs c) {schedule : List ControllerId}
    (hclean : Along (DeviceState.observe P) DeviceState.Clean (.start programs) schedule)
    (hfinished : ∀ c, ((run (DeviceState.observe P) (.start programs) schedule).1.threads
      c).finished = true) (axis : ℤ) :
    position axis (writtenEvents (run (DeviceState.observe P) (.start programs) schedule).2) =
      signalMotion axis (runCalls P .init ((programs .first).map DeviceCall.call)).2 +
        signalMotion axis (runCalls P .init ((programs .second).map DeviceCall.call)).2 := by
  obtain ⟨hflow, hseq⟩ := run_flowing P programs hprograms schedule hclean
  have hthread (c : ControllerId) : position axis
      (threadEvents c (run (DeviceState.observe P) (.start programs) schedule).2) =
        signalMotion axis (runCalls P .init ((programs c).map DeviceCall.call)).2 := by
    rw [hflow.finished hseq (hfinished c), sequentialReports, position_reports]
    rfl
  rw [position_threads, hthread, hthread]

/-- Movements that are no whole numbers. -/
def fractionParams : Params where
  keymap1 := []
  keymap2 := [⟨0x40#32, 45⟩]
  cx := 9 / 100
  cy := 1
  moveThreshold := 0
  gestureThreshold := 0

/-- After the first reading one of 6.3 and one of 0.9, and a press on the second controller. -/
def fractionPrograms : ControllerId → List DeviceCall
  | .first => [
      .onGyroscope (fun _ => ⟨1, 500000000⟩) 0 0,
      .onGyroscope (fun _ => ⟨1, 510000000⟩) 7 0,
      .onGyroscope (fun _ => ⟨1, 520000000⟩) 1 0]
  | .second => [.request (.onButtons (fun _ => ⟨1, 500000000⟩) 0x40#32 .second)]

end PSMoveInput

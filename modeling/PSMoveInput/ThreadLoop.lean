import PSMoveInput.Measurements

/-! The outer loop of `operator()`: passes that drain what `psmove_poll` has, update the LEDs, check
the disconnect timeout and sleep. A thread that leaves its loop clears `thread_` and then `lastTp_`;
`start` looks at `thread_` alone. -/
namespace PSMoveInput

open Transducer

/-! ### Passes -/

/-- What a controller thread does in its loop. -/
inductive LoopAction where
  | call (call : Call)
  /-- For `pollTimeout_`. -/
  | sleep
  /-- It leaves the loop through the check of the disconnect timeout. -/
  | timedOut
  /-- It leaves the loop because `needToStop` is set. -/
  | stopped

/-- The timeouts that the listener hands to `start`. -/
structure LoopTimeouts extends Timeouts where
  disconnectTimeout : ℤ
  ledTimeout : ℤ

/-- `start`, as far as it concerns the loop. -/
def LoopState.startThread (T : LoopTimeouts) (s : LoopState) (id : ControllerId)
    (calibrated : Bool) : LoopState :=
  { s with
    thread := s.thread.start id calibrated T.pollTimeout T.gestureTimeout
    ledTimeout := T.ledTimeout }

/-- The loop is over, and `thread_` is cleared. -/
def LoopState.leave (s : LoopState) : LoopState :=
  { s with thread := { s.thread with running := false } }

/-- The statements on `lastTp_` after that. -/
def LoopState.resetLastTp (s : LoopState) : LoopState :=
  { s with thread := { s.thread with lastTp := ⟨0, 0⟩ } }

/-- A pass of the outer loop that finds `needToStop` unset: the samples that `psmove_poll` delivers
one after another, and the reading of the clock for the check. -/
def LoopState.pass (disconnectTimeout : ℤ) (s : LoopState) (samples : List Sample) (tp : Timespec) :
    LoopState × List LoopAction :=
  let r := run ControllerThread.poll s.thread samples
  let s' := { s with thread := r.1 }.updateLeds
  -- no data yet is a timestamp of zero seconds
  if r.1.lastTp.tvSec ≠ 0 ∧ tp.tvSec - r.1.lastTp.tvSec > disconnectTimeout then
    (s'.leave, r.2.map .call ++ [.timedOut])
  else (s', r.2.map .call ++ [.sleep])

inductive PassEvent where
  /-- `start`, at a moment that the code does not read from the clock. -/
  | start (id : ControllerId) (calibrated : Bool) (tp : Timespec)
  | pass (samples : List Sample) (tp : Timespec)
  /-- A pass that finds `needToStop` set. -/
  | stop
  /-- A thread that has cleared `thread_` clears `lastTp_`. -/
  | resetLastTp

/-- A slot, with the number of its threads that have cleared `thread_` but not `lastTp_`, the moment
at which its thread was started and the reading of the last successful poll since then. The code
has none of these. -/
structure Session where
  loop : LoopState
  disconnectTimeout : ℤ
  leaving : ℕ
  started : Timespec
  data : Option Timespec

/-- The reading of the last successful poll after a pass. -/
def lastPoll (data : Option Timespec) (samples : List Sample) : Option Timespec :=
  (samples.getLast?.map Sample.tp).or data

/-- The constructor. -/
def Session.init : Session where
  loop := ⟨.new, 0, 0⟩
  disconnectTimeout := 0
  leaving := 0
  started := ⟨0, 0⟩
  data := none

def Session.start (T : LoopTimeouts) (s : Session) (id : ControllerId) (calibrated : Bool)
    (tp : Timespec) : Session where
  loop := s.loop.startThread T id calibrated
  disconnectTimeout := T.disconnectTimeout
  leaving := s.leaving
  started := tp
  data := none

def Session.step (T : LoopTimeouts) (s : Session) : PassEvent → Session × List LoopAction
  | .start id calibrated tp =>
    if s.loop.thread.running = false then (s.start T id calibrated tp, []) else (s, [])
  | .pass samples tp =>
    if s.loop.thread.running = true then
      let r := s.loop.pass s.disconnectTimeout samples tp
      ({ s with
        loop := r.1
        leaving := if r.1.thread.running = true then s.leaving else s.leaving + 1
        data := lastPoll s.data samples }, r.2)
    else (s, [])
  | .stop =>
    if s.loop.thread.running = true then
      ({ s with loop := s.loop.leave, leaving := s.leaving + 1 }, [.stopped])
    else (s, [])
  | .resetLastTp =>
    if 0 < s.leaving then
      ({ s with loop := s.loop.resetLastTp, leaving := s.leaving - 1 }, [])
    else (s, [])

/-- No thread is started between the statements with which another one clears `thread_` and
`lastTp_`. -/
def Session.startsCleared (s : Session) : PassEvent → Prop
  | .start _ _ _ => s.leaving = 0
  | _ => True

instance (s : Session) (ev : PassEvent) : Decidable (s.startsCleared ev) :=
  match ev with
  | .start _ _ _ => inferInstanceAs (Decidable (_ = _))
  | .pass _ _ => isTrue trivial
  | .stop => isTrue trivial
  | .resetLastTp => isTrue trivial

/-! ### Silence -/

/-- The thread leaves its loop through the check of a pass only if more than the timeout has passed
since the last successful poll, and leaves it if one second more than the timeout has passed since
`begin`. -/
def SilenceDetected (T : LoopTimeouts) (s : Session) (samples : List Sample) (tp : Timespec)
    (begin : Option Timespec) : Prop :=
  let r := s.step T (.pass samples tp)
  (.timedOut ∈ r.2 → ∃ last, lastPoll s.data samples = some last ∧
    s.disconnectTimeout * 1000000000 < elapsed last tp) ∧
  ∀ last, begin = some last → (s.disconnectTimeout + 1) * 1000000000 ≤ elapsed last tp →
    .timedOut ∈ r.2 ∧ r.1.loop.thread.running = false

/-- At every check of a thread, with the silence that begins with the last successful poll. -/
def SilenceAfterData (T : LoopTimeouts) (s : Session) (ev : PassEvent) : Prop :=
  ∀ samples tp, ev = .pass samples tp → s.loop.thread.running = true →
    SilenceDetected T s samples tp (lastPoll s.data samples)

/-- The same with the silence that begins with the start of the thread if no poll has succeeded
since then. -/
def SilenceAfterStart (T : LoopTimeouts) (s : Session) (ev : PassEvent) : Prop :=
  ∀ samples tp, ev = .pass samples tp → s.loop.thread.running = true →
    SilenceDetected T s samples tp (some ((lastPoll s.data samples).getD s.started))

def PassEvent.readings : PassEvent → List Timespec
  | .start _ _ tp => [tp]
  | .pass samples tp => samples.map Sample.tp ++ [tp]
  | .stop => []
  | .resetLastTp => []

/-- The clock has run for a second. -/
def PassEvent.Clocked (ev : PassEvent) : Prop := ∀ tp ∈ ev.readings, 1 ≤ tp.tvSec ∧ tp.Normal

/-- `lastTp_` is the reading of the last successful poll of the session. -/
structure Session.Recorded (s : Session) : Prop where
  idle : s.loop.thread.running = false → s.leaving = 0 → s.loop.thread.lastTp = ⟨0, 0⟩
  alone : s.loop.thread.running = true → s.leaving = 0
  records : s.loop.thread.running = true → Records s.loop.thread.lastTp s.data
  normal : ∀ last, s.data = some last → last.Normal

theorem sessionInit_recorded : Session.init.Recorded where
  idle _ _ := rfl
  alone _ := rfl
  records h := absurd h (by decide)
  normal _ h := absurd h (Option.some_ne_none _).symm

/-! ### A pass -/

theorem polls_lastTp (samples : List Sample) (t : ControllerThread) :
    (run ControllerThread.poll t samples).1.lastTp =
      (samples.getLast?.map Sample.tp).getD t.lastTp := by
  induction samples generalizing t with
  | nil => rfl
  | cons x samples ih =>
    rw [run_cons_fst, ih, List.getLast?_cons]
    cases samples.getLast? with
    | none => rfl
    | some y => rfl

theorem polls_running (samples : List Sample) (t : ControllerThread) :
    (run ControllerThread.poll t samples).1.running = t.running :=
  run_invariant ControllerThread.poll (fun t' => t'.running = t.running) samples
    (fun _ _ _ h => h) t rfl

theorem lastPoll_clocked {data : Option Timespec} {samples : List Sample} {p : Timespec → Prop}
    (hdata : ∀ last, data = some last → p last) (hsamples : ∀ x ∈ samples, p x.tp) {last : Timespec}
    (h : lastPoll data samples = some last) : p last := by
  simp only [lastPoll, Option.or_eq_some_iff, Option.map_eq_some_iff] at h
  rcases h with ⟨x, hx, rfl⟩ | ⟨-, h⟩
  · exact hsamples x (List.mem_of_getLast? hx)
  · exact hdata last h

/-- After the samples of a pass `lastTp_` still is what it should be. -/
theorem polls_records {t : ControllerThread} {data : Option Timespec} (h : Records t.lastTp data)
    {samples : List Sample} (hsamples : ∀ x ∈ samples, 1 ≤ x.tp.tvSec) :
    Records (run ControllerThread.poll t samples).1.lastTp (lastPoll data samples) := by
  obtain ⟨hlast, hsec⟩ := h
  refine ⟨?_, fun last hlast => lastPoll_clocked hsec hsamples hlast⟩
  rw [polls_lastTp, hlast, lastPoll]
  cases samples.getLast? with
  | none => rfl
  | some x => rfl

theorem pass_records {s : Session} (h : s.Recorded) (hrunning : s.loop.thread.running = true)
    {samples : List Sample} {tp : Timespec} (hclock : (PassEvent.pass samples tp).Clocked) :
    Records (run ControllerThread.poll s.loop.thread samples).1.lastTp (lastPoll s.data samples) ∧
      ∀ last, lastPoll s.data samples = some last → last.Normal := by
  have hsamples : ∀ x ∈ samples, 1 ≤ x.tp.tvSec ∧ x.tp.Normal := by
    intro x hx
    apply hclock
    exact List.mem_append_left _ (List.mem_map_of_mem hx)
  constructor
  · exact polls_records (h.records hrunning) fun x hx => (hsamples x hx).1
  · intro last hlast
    exact lastPoll_clocked h.normal (fun x hx => (hsamples x hx).2) hlast

/-- What a pass does to the thread, whatever its samples report. -/
theorem pass_cases (D : ℤ) (s : LoopState) (samples : List Sample) (tp : Timespec) :
    let last := (run ControllerThread.poll s.thread samples).1.lastTp
    ((last.tvSec ≠ 0 ∧ D < tp.tvSec - last.tvSec) ∧ .timedOut ∈ (s.pass D samples tp).2 ∧
      (s.pass D samples tp).1.thread.running = false) ∨
    (¬(last.tvSec ≠ 0 ∧ D < tp.tvSec - last.tvSec) ∧ .timedOut ∉ (s.pass D samples tp).2 ∧
      (s.pass D samples tp).1.thread.running = s.thread.running ∧
      (s.pass D samples tp).1.thread.lastTp = last) := by
  intro last
  by_cases hcheck : last.tvSec ≠ 0 ∧ D < tp.tvSec - last.tvSec
  · left
    have hpass : s.pass D samples tp = _ := if_pos hcheck
    rw [hpass]
    refine ⟨hcheck, ?_, rfl⟩
    exact List.mem_append_right _ (List.mem_singleton.mpr rfl)
  · right
    have hpass : s.pass D samples tp = _ := if_neg hcheck
    rw [hpass]
    refine ⟨hcheck, ?_, polls_running samples s.thread, rfl⟩
    intro h
    rcases List.mem_append.mp h with h | h
    · obtain ⟨call, -, hcall⟩ := List.mem_map.mp h
      cases hcall
    · cases List.mem_singleton.mp h

/-- Whole seconds against the time between two readings. -/
theorem elapsed_of_seconds {last tp : Timespec} (hlast : last.Normal) (htp : tp.Normal) (D : ℤ) :
    (D < tp.tvSec - last.tvSec → D * 1000000000 < elapsed last tp) ∧
      ((D + 1) * 1000000000 ≤ elapsed last tp → D < tp.tvSec - last.tvSec) := by
  obtain ⟨hlast0, hlast1⟩ := hlast
  obtain ⟨htp0, htp1⟩ := htp
  simp only [elapsed]
  constructor <;> intro h <;> omega

theorem sessionStep_recorded (T : LoopTimeouts) (s : Session) (ev : PassEvent) (hclock : ev.Clocked)
    (hcleared : s.startsCleared ev) (h : s.Recorded) : (s.step T ev).1.Recorded := by
  cases ev with
  | start id calibrated tp =>
    simp only [Session.step]
    split_ifs with hidle
    · have hlast := h.idle hidle hcleared
      have hstart : (s.loop.thread.start id calibrated T.pollTimeout T.gestureTimeout).lastTp =
          ⟨0, 0⟩ := by
        rw [ControllerThread.start, if_pos hidle]
        exact hlast
      refine ⟨fun _ _ => hstart, fun _ => hcleared, fun _ => ?_, fun _ hnone => (by cases hnone)⟩
      have hrecords : Records (s.start T id calibrated tp).loop.thread.lastTp none := by
        rw [show (s.start T id calibrated tp).loop.thread.lastTp = ⟨0, 0⟩ from hstart]
        exact records_none
      exact hrecords
    · exact h
  | pass samples tp =>
    rw [Session.step]
    by_cases hrunning : s.loop.thread.running = true
    · rw [if_pos hrunning]
      obtain ⟨hrecords, hnormal⟩ := pass_records h hrunning hclock
      rcases pass_cases s.disconnectTimeout s.loop samples tp with
        ⟨-, -, hstopped⟩ | ⟨-, -, hsame, hlast⟩
      · refine ⟨fun _ hleaving => ?_, fun hrun => ?_, fun hrun => ?_, hnormal⟩
        · -- the thread has `lastTp_` still to clear
          have hmore : (if (s.loop.pass s.disconnectTimeout samples tp).1.thread.running = true then
              s.leaving else s.leaving + 1) = s.leaving + 1 := if_neg (by simp [hstopped])
          exact absurd (hmore.symm.trans hleaving) (Nat.succ_ne_zero _)
        · exact absurd (hstopped.symm.trans hrun) (by decide)
        · exact absurd (hstopped.symm.trans hrun) (by decide)
      · have hstays := hsame.trans hrunning
        refine ⟨fun hidle => ?_, fun _ => ?_, fun _ => ?_, hnormal⟩
        · exact absurd (hstays.symm.trans hidle) (by decide)
        · exact (if_pos hstays).trans (h.alone hrunning)
        · dsimp only
          rw [hlast]
          exact hrecords
    · rw [if_neg hrunning]
      exact h
  | stop =>
    simp only [Session.step]
    split_ifs with hrunning
    · refine ⟨fun _ hleaving => absurd hleaving (Nat.succ_ne_zero _), fun hrun => ?_,
        fun hrun => ?_, h.normal⟩
      · exact absurd hrun Bool.false_ne_true
      · exact absurd hrun Bool.false_ne_true
    · exact h
  | resetLastTp =>
    simp only [Session.step]
    split_ifs with hleaving
    · refine ⟨fun _ _ => rfl, fun hrun => ?_, fun hrun => ?_, h.normal⟩
      · exact absurd (h.alone hrun) hleaving.ne'
      · exact absurd (h.alone hrun) hleaving.ne'
    · exact h

/-- The check of a pass, against the time since the last successful poll. -/
theorem silence_detected (T : LoopTimeouts) (s : Session) (ev : PassEvent) (hclock : ev.Clocked)
    (h : s.Recorded) : SilenceAfterData T s ev := by
  intro samples tp hev hrunning
  subst hev
  have htp : tp.Normal :=
    (hclock tp (List.mem_append_right _ (List.mem_singleton.mpr rfl))).2
  obtain ⟨⟨hlastTp, hsec⟩, hnormal⟩ := pass_records h hrunning hclock
  have hstep : s.step T (.pass samples tp) =
      ({ s with
        loop := (s.loop.pass s.disconnectTimeout samples tp).1
        leaving := if (s.loop.pass s.disconnectTimeout samples tp).1.thread.running = true then
          s.leaving else s.leaving + 1
        data := lastPoll s.data samples }, (s.loop.pass s.disconnectTimeout samples tp).2) :=
    if_pos hrunning
  rw [SilenceDetected, hstep]
  have hcases := pass_cases s.disconnectTimeout s.loop samples tp
  rw [hlastTp] at hcases
  cases hdata : lastPoll s.data samples with
  | none =>
    -- a timestamp of zero never times out
    rw [hdata] at hcases
    rcases hcases with ⟨⟨hzero, -⟩, -⟩ | ⟨-, hstays, -⟩
    · exact absurd rfl hzero
    · exact ⟨fun hout => absurd hout hstays, fun _ hnone => (by cases hnone)⟩
  | some last =>
    rw [hdata] at hcases
    have hseconds := elapsed_of_seconds (hnormal last hdata) htp s.disconnectTimeout
    have hpos := hsec last hdata
    rcases hcases with ⟨⟨-, hcheck⟩, hout, hstopped⟩ | ⟨hcheck, hstays, -⟩
    · exact ⟨fun _ => ⟨last, rfl, hseconds.1 hcheck⟩, fun _ _ _ => ⟨hout, hstopped⟩⟩
    · refine ⟨fun hout => absurd hout hstays, ?_⟩
      intro last' heq hdue
      obtain rfl := Option.some.inj heq
      refine absurd ⟨?_, hseconds.2 hdue⟩ hcheck
      change last.tvSec ≠ 0
      omega

/-! ### Runs -/

/-- In every run in which no thread is started while another one has `lastTp_` still to clear, a
thread leaves its loop through the timeout only after more than the timeout without data, and at the
first check one second later; without any data it never does. -/
theorem silence_after_data (T : LoopTimeouts) (evs : List PassEvent)
    (hclock : ∀ ev ∈ evs, ev.Clocked)
    (hcleared : Along (Session.step T) Session.startsCleared .init evs) :
    Along (Session.step T) (SilenceAfterData T) .init evs := by
  have hboth := along_and (Session.step T) evs hclock .init hcleared
  apply along_imp (Session.step T) Session.Recorded _ _ evs .init sessionInit_recorded hboth
  · rintro s ev ⟨hclocked, hstart⟩ h
    exact sessionStep_recorded T s ev hclocked hstart h
  · rintro s ev ⟨hclocked, -⟩ h
    exact silence_detected T s ev hclocked h

/-- The controller lies still. -/
def stillSample (tp : Timespec) : Sample where
  gyroscope := (0, 0, 0)
  gyroscopeFrame := (0, 0, 0)
  buttons := 0#32
  gyroClock := fun _ => tp
  buttonsClock := fun _ => tp
  tp := tp

/-- The default timeouts. -/
def loopTimeouts : LoopTimeouts := ⟨⟨20, 600⟩, 7, 4000⟩

/-- Data in the first pass, and nothing for eight seconds; another thread afterwards. -/
def silentPasses : List PassEvent :=
  [.start .first false ⟨1, 0⟩, .pass [stillSample ⟨2, 0⟩] ⟨2, 0⟩, .pass [] ⟨10, 0⟩, .resetLastTp,
    .start .first false ⟨11, 0⟩, .pass [] ⟨30, 0⟩]

theorem silence_after_data_silent :
    Along (Session.step loopTimeouts) (SilenceAfterData loopTimeouts) .init silentPasses := by
  apply silence_after_data
  · simp only [PassEvent.Clocked, Timespec.Normal]
    decide
  · decide

/-- No data at all. -/
def dumbPasses : List PassEvent := [.start .first false ⟨1, 0⟩, .pass [] ⟨1, 0⟩, .pass [] ⟨9, 0⟩]

/-- Eight seconds after its start the thread still runs. -/
theorem silence_after_start_missed :
    (∀ ev ∈ dumbPasses, ev.Clocked) ∧ loopTimeouts.disconnectTimeout = 7 ∧
      elapsed ⟨1, 0⟩ ⟨9, 0⟩ = (7 + 1) * 1000000000 ∧
      ¬Along (Session.step loopTimeouts) (SilenceAfterStart loopTimeouts) .init
        dumbPasses := by
  refine ⟨?_, rfl, by decide, ?_⟩
  · simp only [PassEvent.Clocked, Timespec.Normal]
    decide
  · intro h
    obtain ⟨-, -, hpass, -⟩ := h
    have hdetected := hpass [] ⟨9, 0⟩ rfl (by decide)
    have hleft := hdetected.2 ⟨1, 0⟩ rfl (by decide)
    exact absurd hleft.2 (by decide)

/-- The second thread is started before the first one has cleared `lastTp_`. -/
def overlappingPasses : List PassEvent :=
  [.start .first false ⟨1, 0⟩, .pass [stillSample ⟨2, 0⟩] ⟨2, 0⟩, .pass [] ⟨10, 0⟩,
    .start .first false ⟨11, 0⟩, .pass [] ⟨12, 0⟩]

/-- It times out without a poll of its own. -/
theorem silence_overlapping :
    ¬Along (Session.step loopTimeouts) (SilenceAfterData loopTimeouts) .init
      overlappingPasses := by
  intro h
  obtain ⟨-, -, -, -, hpass, -⟩ := h
  have hdetected := (hpass [] ⟨12, 0⟩ rfl (by decide)).1
  obtain ⟨last, hlast, -⟩ := hdetected (List.mem_singleton.mpr rfl)
  cases hlast

end PSMoveInput

import PSMoveInput.DeviceFrames

/-! What the reader of the input device makes of the events: split at the `SYN_REPORT` events and
decoded, they are the reports that the handler's signals have asked for. -/
namespace PSMoveInput

open Transducer

/-! ### Decoding -/

def InputEvent.isSyn (e : InputEvent) : Bool := e.type = .evSyn && e.code = synReport

/-- The report that a frame stands for. -/
def DeviceReport.ofFrame : List InputEvent → Option DeviceReport
  | [_] => some (.move 0 0)
  | [e, _] =>
    if e.type = .evKey then some (.key e.code (e.value = 1))
    else if e.code = relWheel then some (.mwheel e.value)
    else if e.code = relX then some (.move e.value 0)
    else some (.move 0 e.value)
  | [x, y, _] => some (.move x.value y.value)
  | _ => none

/-- The complete frames of a stream, decoded. -/
def decodeStream (events : List InputEvent) : List (Option DeviceReport) :=
  (Frames.split InputEvent.isSyn events).1.map DeviceReport.ofFrame

/-- Every report can be read back. -/
theorem ofFrame_events (report : DeviceReport) :
    DeviceReport.ofFrame report.events = some report := by
  cases report with
  | move dx dy =>
    simp only [DeviceReport.events, InputDevice.reportMove]
    -- the components that are zero are missing
    by_cases hx : dx = 0
    · by_cases hy : dy = 0
      · simp [hx, hy, InputDevice.reportSyn, DeviceReport.ofFrame]
      · simp [hx, hy, InputDevice.reportSyn, DeviceReport.ofFrame, relY, relX, relWheel]
    · by_cases hy : dy = 0
      · simp [hx, hy, InputDevice.reportSyn, DeviceReport.ofFrame, relX, relWheel]
      · simp [hx, hy, InputDevice.reportSyn, DeviceReport.ofFrame]
  | key code pressed =>
    cases pressed <;>
      simp [DeviceReport.events, InputDevice.reportKey, InputDevice.reportSyn,
        DeviceReport.ofFrame]
  | mwheel value =>
    simp [DeviceReport.events, InputDevice.reportMWheel, InputDevice.reportSyn,
      DeviceReport.ofFrame]

theorem events_isFrame (report : DeviceReport) :
    Frames.IsFrame InputEvent.isSyn report.events := by
  obtain ⟨body, hevents, hbody⟩ := events_end report
  refine ⟨body, ⟨.evSyn, synReport, 0⟩, hevents, rfl, ?_⟩
  intro e he
  simp [InputEvent.isSyn, hbody e he]

/-- The round trip of a stream: a report that is not complete yet does not show. -/
theorem decodeStream_events (reports : List DeviceReport) {rest : List InputEvent}
    (hrest : ∀ e ∈ rest, e.isSyn = false) :
    decodeStream (reports.flatMap DeviceReport.events ++ rest) = reports.map some := by
  have hframes : ∀ f ∈ reports.map DeviceReport.events, Frames.IsFrame InputEvent.isSyn f := by
    intro f hf
    obtain ⟨report, -, rfl⟩ := List.mem_map.mp hf
    exact events_isFrame report
  have hsplit := Frames.split_flatten_append hframes rest
  rw [Frames.split_of_no_end hrest] at hsplit
  rw [decodeStream, List.flatMap_def, hsplit, List.append_nil, List.map_map]
  apply List.map_congr_left
  intro report _
  exact ofFrame_events report

/-! ### Signals and writes of a run -/

inductive DeviceAction where
  /-- A thread raises a signal that a report function is connected to. -/
  | raised (thread : ControllerId) (report : DeviceReport)
  | wrote (w : Write)
  deriving DecidableEq, Repr

/-- The reports that the next step of a thread asks for. -/
def DeviceState.raised (P : Params) (s : DeviceState) (c : ControllerId) : List DeviceReport :=
  if (s.threads c).left = [] ∧ (s.threads c).queue = [] then ((s.step P c).1.threads c).queue
  else []

/-- `step` with the signals that it raises. -/
def DeviceState.observe (P : Params) (s : DeviceState) (c : ControllerId) :
    DeviceState × List DeviceAction :=
  ((s.step P c).1, (s.raised P c).map (.raised c) ++ (s.step P c).2.map .wrote)

def raisedReports (c : ControllerId) (es : List DeviceAction) : List DeviceReport :=
  es.filterMap fun
    | .raised thread report => if thread = c then some report else none
    | .wrote _ => none

def writtenEvents (es : List DeviceAction) : List InputEvent :=
  es.filterMap fun
    | .raised _ _ => none
    | .wrote w => some w.event

/-- The report in progress, and those that wait for it. -/
def DeviceThread.pending (t : DeviceThread) : List DeviceReport :=
  (t.left.head?.map Write.report).toList ++ t.queue

theorem raisedReports_append (c : ControllerId) (es fs : List DeviceAction) :
    raisedReports c (es ++ fs) = raisedReports c es ++ raisedReports c fs :=
  List.filterMap_append

theorem writtenEvents_append (es fs : List DeviceAction) :
    writtenEvents (es ++ fs) = writtenEvents es ++ writtenEvents fs :=
  List.filterMap_append

/-- What a step adds to the signals of a thread. -/
theorem raisedReports_observe (P : Params) (s : DeviceState) (c i : ControllerId) :
    raisedReports i (s.observe P c).2 = if i = c then s.raised P c else [] := by
  have hwrites : raisedReports i ((s.step P c).2.map .wrote) = [] := by
    simp [raisedReports, List.filterMap_map]
  rw [DeviceState.observe, raisedReports_append, hwrites, List.append_nil, raisedReports,
    List.filterMap_map]
  by_cases hi : i = c
  · rw [if_pos hi, hi]
    simp
  · rw [if_neg hi]
    simp [Ne.symm hi]

theorem writtenEvents_observe (P : Params) (s : DeviceState) (c : ControllerId) :
    writtenEvents (s.observe P c).2 = (s.step P c).2.map Write.event := by
  simp [DeviceState.observe, writtenEvents, List.filterMap_map]

/-! ### Threads on their own -/

/-- A step of a thread leaves the other one as it is. -/
theorem step_threads_other (P : Params) (s : DeviceState) {c i : ControllerId} (hi : i ≠ c) :
    (s.step P c).1.threads i = s.threads i := by
  have hset (s' : DeviceState) (t : DeviceThread) :
      (s'.setThread c t).threads i = s'.threads i := Function.update_of_ne hi _ _
  simp only [DeviceState.step]
  split
  · exact hset s _
  · exact hset s _
  · split
    · simp only [DeviceState.iterate]
      split
      · split_ifs
        · exact hset { s with mutex := some c } _
        · rfl
      · exact hset _ _
      · exact hset { s with mutex := none } _
    · simp only [DeviceState.advance]
      split_ifs
      · split
        · rfl
        · exact hset s _
        · exact hset _ _
      · exact hset _ _

/-- A step that raises signals is no write. -/
theorem step_idle (P : Params) (s : DeviceState) {c : ControllerId}
    (hleft : (s.threads c).left = []) (hqueue : (s.threads c).queue = []) :
    ((s.step P c).1.threads c).left = [] := by
  have hset (s' : DeviceState) (t : DeviceThread) (ht : t.left = []) :
      ((s'.setThread c t).threads c).left = [] := by
    simp only [DeviceState.setThread, Function.update_self, ht]
  simp only [DeviceState.step, hleft, hqueue]
  split
  · simp only [DeviceState.iterate]
    split
    · split_ifs
      · exact hset _ _ hleft
      · exact hleft
    · exact hset _ _ hleft
    · exact hset _ _ hleft
  · simp only [DeviceState.advance]
    split_ifs
    · split
      · exact hleft
      · exact hset _ _ hleft
      · exact hset _ _ hleft
    · exact hset _ _ hleft

/-! ### The stream -/

/-- The reports of a thread, in a list of reports with their threads. -/
def reportsOf (c : ControllerId) (reports : List (ControllerId × DeviceReport)) :
    List DeviceReport :=
  (reports.filter fun x => x.1 = c).map Prod.snd

theorem reportsOf_concat (c i : ControllerId) (reports : List (ControllerId × DeviceReport))
    (report : DeviceReport) :
    reportsOf i (reports ++ [(c, report)]) =
      reportsOf i reports ++ if i = c then [report] else [] := by
  simp only [reportsOf, List.filter_append, List.map_append]
  by_cases hi : i = c
  · subst hi
    simp
  · simp [hi, Ne.symm hi]

/-- The events so far are the completed reports and the beginning of another one. Of the signals
of a thread, the completed reports come first, and the others are pending. -/
structure Streamed (s : DeviceState) (es : List DeviceAction)
    (reports : List (ControllerId × DeviceReport)) : Prop where
  orderly : s.Orderly
  events : ∃ c, (s.threads c.other).written = [] ∧
    writtenEvents es =
      (reports.map Prod.snd).flatMap DeviceReport.events ++
        (s.threads c).written.map Write.event
  raised : ∀ c, raisedReports c es = reportsOf c reports ++ (s.threads c).pending

theorem streamed_start (programs : ControllerId → List DeviceCall) :
    Streamed (.start programs) [] [] where
  orderly := orderly_start programs
  events := ⟨.first, rfl, rfl⟩
  raised _ := rfl

/-- The report in progress. -/
theorem DeviceState.Orderly.progress {s : DeviceState} (h : s.Orderly) {c : ControllerId}
    {w : Write} {left : List Write} (hleft : (s.threads c).left = w :: left) :
    ∃ call, (s.threads c).written ++ w :: left = reportWrites c call w.report := by
  rcases (h.thread c).current with ⟨-, hnil⟩ | ⟨-, call, report, hreport⟩
  · rw [hleft] at hnil
    cases hnil
  · rw [hleft] at hreport
    have hmem : w ∈ reportWrites c call report := by
      rw [← hreport]
      exact List.mem_append_right _ List.mem_cons_self
    rw [(mem_reportWrites hmem).2]
    exact ⟨call, hreport⟩

theorem reportWrites_events (c : ControllerId) (call : ℕ) (report : DeviceReport) :
    (reportWrites c call report).map Write.event = report.events := by
  rw [reportWrites, List.map_map]
  exact List.map_id _

/-- One more event of the report in progress. The last one completes it. -/
theorem Streamed.write {s : DeviceState} {es : List DeviceAction}
    {reports : List (ControllerId × DeviceReport)} (h : Streamed s es reports) (P : Params)
    {c : ControllerId} {w : Write} {left : List Write} (hleft : (s.threads c).left = w :: left)
    (hok : movesApart s c = true) :
    Streamed (s.observe P c).1 (es ++ (s.observe P c).2)
      (if left = [] then reports ++ [(c, w.report)] else reports) := by
  have hstep : s.step P c = (s.write c w left, [w]) := by simp only [DeviceState.step, hleft]
  have hraised : s.raised P c = [] := by
    apply if_neg
    rw [hleft]
    exact fun hnil => List.cons_ne_nil _ _ hnil.1
  have hother := h.orderly.alone hleft hok
  have hkept (i : ControllerId) (hi : i ≠ c) :
      (s.write c w left).threads i = s.threads i := Function.update_of_ne hi _ _
  have hself : (s.write c w left).threads c =
      { s.threads c with
        written := if left = [] then [] else (s.threads c).written ++ [w], left := left } :=
    Function.update_self ..
  obtain ⟨call, hreport⟩ := h.orderly.progress hleft
  have hstate : (s.observe P c).1 = s.write c w left := congrArg Prod.fst hstep
  constructor
  · exact step_orderly P s h.orderly c
  · refine ⟨c, ?_, ?_⟩
    · rw [hstate, hkept _ c.other_ne]
      exact hother
    · -- the stream ends with what this thread has written
      obtain ⟨c', hidle, hevents⟩ := h.events
      have hlast : (s.threads c').written = (s.threads c).written := by
        by_cases hc : c' = c
        · rw [hc]
        · obtain rfl : c' = c.other := ControllerId.eq_other hc
          rw [ControllerId.other_other] at hidle
          rw [hother, hidle]
      rw [writtenEvents_append, writtenEvents_observe, hevents, hlast, hstep, hstate, hself]
      by_cases hend : left = []
      · have hwhole := congrArg (List.map Write.event) hreport
        rw [hend, reportWrites_events, List.map_append] at hwhole
        simp only [if_pos hend, List.map_append, List.flatMap_append, List.append_assoc]
        simpa using hwhole
      · simp only [if_neg hend, List.map_append, List.append_assoc]
  · intro i
    rw [raisedReports_append, raisedReports_observe, hraised, ite_self, List.append_nil, h.raised i,
      hstate]
    by_cases hi : i = c
    · subst hi
      rw [hself]
      simp only [DeviceThread.pending, hleft]
      by_cases hend : left = []
      · rw [if_pos hend, reportsOf_concat, if_pos rfl, hend]
        simp
      · obtain ⟨v, left', rfl⟩ := List.exists_cons_of_ne_nil hend
        have hv : v ∈ reportWrites i call w.report := by
          rw [← hreport]
          exact List.mem_append_right _ (List.mem_cons_of_mem w List.mem_cons_self)
        rw [if_neg hend, List.head?_cons, List.head?_cons, Option.map_some, Option.map_some,
          (mem_reportWrites hv).2]
    · rw [hkept i hi]
      by_cases hend : left = []
      · rw [if_pos hend, reportsOf_concat, if_neg hi, List.append_nil]
      · rw [if_neg hend]

/-- A step that is no write. -/
theorem Streamed.silent {s : DeviceState} {es : List DeviceAction}
    {reports : List (ControllerId × DeviceReport)} (h : Streamed s es reports) (P : Params)
    {c : ControllerId} (hleft : (s.threads c).left = []) :
    Streamed (s.observe P c).1 (es ++ (s.observe P c).2) reports := by
  obtain ⟨hout, hwritten⟩ := step_silent P s c hleft
  constructor
  · exact step_orderly P s h.orderly c
  · obtain ⟨c', hidle, hevents⟩ := h.events
    refine ⟨c', ?_, ?_⟩
    · exact (hwritten c'.other).trans hidle
    · rw [writtenEvents_append, writtenEvents_observe, hout, hevents, List.map_nil,
        List.append_nil]
      exact congrArg _ (congrArg _ (hwritten c').symm)
  · intro i
    rw [raisedReports_append, raisedReports_observe, h.raised i, List.append_assoc]
    apply congrArg
    by_cases hi : i = c
    · subst hi
      rw [if_pos rfl]
      cases hqueue : (s.threads i).queue with
      | nil =>
        have hnext := step_idle P s hleft hqueue
        rw [DeviceState.raised, if_pos ⟨hleft, hqueue⟩]
        simp only [DeviceState.observe, DeviceThread.pending, hleft, hqueue, hnext]
        simp
      | cons report queue =>
        -- the report moves from the queue to the events that are left
        have hstep : s.step P i = (s.callSlot i report queue, []) := by
          simp only [DeviceState.step, hleft, hqueue]
        obtain ⟨body, hevents, -⟩ := events_end report
        have hfirst : (reportWrites i (s.threads i).reports report).head?.map Write.report =
            some report := by
          cases body <;> simp [reportWrites, hevents, InputDevice.reportSyn]
        rw [DeviceState.raised, if_neg (by simp [hqueue]), List.append_nil]
        simp only [DeviceState.observe, hstep, DeviceState.callSlot, DeviceState.setThread,
          Function.update_self, DeviceThread.pending, hleft, hqueue, hfirst]
        rfl
    · rw [if_neg hi, List.append_nil]
      simp only [DeviceState.observe, step_threads_other P s hi]

theorem step_streamed (P : Params) (s : DeviceState) (es : List DeviceAction) (c : ControllerId)
    (hok : movesApart s c = true) (h : ∃ reports, Streamed s es reports) :
    ∃ reports, Streamed (s.observe P c).1 (es ++ (s.observe P c).2) reports := by
  obtain ⟨reports, h⟩ := h
  cases hleft : (s.threads c).left with
  | nil => exact ⟨reports, h.silent P hleft⟩
  | cons w left => exact ⟨_, h.write P hleft hok⟩

/-- The report in progress does not show. -/
theorem Streamed.decodes {s : DeviceState} {es : List DeviceAction}
    {reports : List (ControllerId × DeviceReport)} (h : Streamed s es reports) :
    decodeStream (writtenEvents es) = (reports.map Prod.snd).map some := by
  obtain ⟨c, -, hevents⟩ := h.events
  rw [hevents]
  apply decodeStream_events
  intro e he
  obtain ⟨w, hw, rfl⟩ := List.mem_map.mp he
  exact h.orderly.written_open (List.ne_nil_of_mem hw) w hw

/-- If movements stay apart from the reports of the other thread, the reader decodes the stream to
a list of reports in which the signals of each thread stand once and in their order, up to those
that are still pending. -/
theorem stream_decodes (P : Params) (programs : ControllerId → List DeviceCall)
    (schedule : List ControllerId)
    (hapart : Along (DeviceState.observe P) (fun s c => movesApart s c = true) (.start programs)
      schedule) :
    let r := run (DeviceState.observe P) (.start programs) schedule
    ∃ reports : List (ControllerId × DeviceReport),
      decodeStream (writtenEvents r.2) = (reports.map Prod.snd).map some ∧
        ∀ c, raisedReports c r.2 = reportsOf c reports ++ (r.1.threads c).pending := by
  intro r
  obtain ⟨reports, h⟩ : ∃ reports, Streamed r.1 ([] ++ r.2) reports :=
    run_history (DeviceState.observe P) (fun s c => movesApart s c = true)
      (fun s es => ∃ reports, Streamed s es reports)
      (fun s es c hok h => step_streamed P s es c hok h) schedule (.start programs) []
      ⟨[], streamed_start programs⟩ hapart
  rw [List.nil_append] at h
  exact ⟨reports, h.decodes, h.raised⟩

/-- The first thread completes the movement before the second one reports the key. -/
def turnSchedule : List ControllerId := List.replicate 5 .first ++ List.replicate 22 .second

theorem stream_decodes_turns :
    let r := run (DeviceState.observe keyParams) (.start movePrograms) turnSchedule
    decodeStream (writtenEvents r.2) = [some (.move 70 0), some (.key 45 true)] ∧
      ∃ reports : List (ControllerId × DeviceReport),
        decodeStream (writtenEvents r.2) = (reports.map Prod.snd).map some ∧
          ∀ c, raisedReports c r.2 = reportsOf c reports ++ (r.1.threads c).pending :=
  ⟨by decide +kernel, stream_decodes keyParams movePrograms turnSchedule (by decide +kernel)⟩

end PSMoveInput

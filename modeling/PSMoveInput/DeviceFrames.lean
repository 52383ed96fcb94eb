import PSMoveInput.InputDevice

/-! The log of the input device is a sequence of whole reports exactly as long as movements, which
are reported without the handler's mutex, stay apart from the reports of the other thread. -/
namespace PSMoveInput

open Transducer

/-! ### Reports and frames -/

/-- Every report ends with its only `SYN_REPORT`. -/
theorem events_end (report : DeviceReport) :
    ∃ body, report.events = body ++ InputDevice.reportSyn ∧ ∀ e ∈ body, e.type ≠ .evSyn := by
  have hsingle (event : InputEvent) (hevent : event.type ≠ .evSyn) :
      ∀ e ∈ [event], e.type ≠ .evSyn := by
    intro e he
    rw [List.mem_singleton.mp he]
    exact hevent
  cases report with
  | move dx dy =>
    have haxis (d : ℤ) (event : InputEvent) (hevent : event.type ≠ .evSyn) :
        ∀ e ∈ if d ≠ 0 then [event] else [], e.type ≠ .evSyn := by
      split_ifs
      · exact hsingle event hevent
      · intro e he
        exact absurd he List.not_mem_nil
    refine ⟨_, rfl, ?_⟩
    intro e he
    rcases List.mem_append.mp he with he | he
    · exact haxis dx ⟨.evRel, relX, dx⟩ (by simp) e he
    · exact haxis dy ⟨.evRel, relY, dy⟩ (by simp) e he
  | key code pressed => exact ⟨_, rfl, hsingle _ (by simp)⟩
  | mwheel value => exact ⟨_, rfl, hsingle _ (by simp)⟩

theorem IsReport.isFrame (f : List Write) (h : IsReport f) : Frames.IsFrame Write.isSyn f := by
  obtain ⟨c, call, report, rfl⟩ := h
  obtain ⟨body, hevents, hbody⟩ := events_end report
  refine ⟨body.map fun event => ⟨c, call, report, event⟩, ⟨c, call, report, .evSyn, synReport, 0⟩,
    ?_, rfl, ?_⟩
  · rw [reportWrites, hevents, List.map_append]
    rfl
  · intro w hw
    obtain ⟨e, he, rfl⟩ := List.mem_map.mp hw
    simp [Write.isSyn, hbody e he]

theorem exists_isReport : ∃ f, IsReport f := ⟨_, .first, 0, .mwheel 1, rfl⟩

/-- All writes of a report are of one thread and of one call. -/
theorem mem_reportWrites {c : ControllerId} {call : ℕ} {report : DeviceReport} {w : Write}
    (h : w ∈ reportWrites c call report) : w.thread = c ∧ w.report = report := by
  obtain ⟨e, -, rfl⟩ := List.mem_map.mp h
  exact ⟨rfl, rfl⟩

/-- The signals of `onGyroscope` are movements. -/
theorem onGyroscope_reports (P : Params) (clock : Clock) (gx gy : ℤ) (s : HandlerState) :
    ∀ report ∈ deviceReports (onGyroscope P clock gx gy s).2, report.isMove = true := by
  simp only [onGyroscope]
  split_ifs
  · exact fun report h => (List.mem_singleton.mp h) ▸ rfl
  all_goals exact fun report h => absurd h List.not_mem_nil

/-! ### Threads -/

/-- Outside the locked part a thread reports movements only. What it has written and what is left
make one report. -/
structure DeviceThread.Orderly (c : ControllerId) (t : DeviceThread) : Prop where
  queue : t.entries = none → ∀ report ∈ t.queue, report.isMove = true
  left : t.entries = none → ∀ w ∈ t.left, w.report.isMove = true
  current : (t.written = [] ∧ t.left = []) ∨
    (t.left ≠ [] ∧ ∃ call report, t.written ++ t.left = reportWrites c call report)

/-- A thread in the locked part holds the mutex. -/
structure DeviceState.Orderly (s : DeviceState) : Prop where
  thread : ∀ c, (s.threads c).Orderly c
  holder : ∀ c, (s.threads c).entries ≠ none → s.mutex = some c

theorem orderly_start (programs : ControllerId → List DeviceCall) :
    (DeviceState.start programs).Orderly where
  thread _ :=
    { queue := fun _ _ h => absurd h List.not_mem_nil
      left := fun _ _ h => absurd h List.not_mem_nil
      current := Or.inl ⟨rfl, rfl⟩ }
  holder _ h := absurd rfl h

/-- A step of the thread `c`. -/
theorem DeviceState.Orderly.set {s : DeviceState} (h : s.Orderly) {c : ControllerId}
    {t : DeviceThread} {handler : HandlerState} {mutex : Option ControllerId} (ht : t.Orderly c)
    (hholder : t.entries ≠ none → mutex = some c)
    (hother : (s.threads c.other).entries ≠ none → mutex = some c.other) :
    ({ s with handler := handler, mutex := mutex }.setThread c t).Orderly := by
  constructor
  · intro i
    by_cases hi : i = c
    · subst hi
      simp only [setThread, Function.update_self]
      exact ht
    · simp only [setThread, Function.update_of_ne hi]
      exact h.thread i
  · intro i
    by_cases hi : i = c
    · subst hi
      simp only [setThread, Function.update_self]
      exact hholder
    · obtain rfl : i = c.other := ControllerId.eq_other hi
      simp only [setThread, Function.update_of_ne hi]
      exact hother

/-- A step outside the locked part, or inside it. -/
theorem DeviceState.Orderly.keep {s : DeviceState} (h : s.Orderly) {c : ControllerId}
    {t : DeviceThread} {handler : HandlerState} (ht : t.Orderly c)
    (hentries : t.entries = (s.threads c).entries) :
    ({ s with handler := handler }.setThread c t).Orderly := by
  apply h.set ht
  · rw [hentries]
    exact h.holder c
  · exact h.holder c.other

theorem DeviceState.Orderly.write {s : DeviceState} (h : s.Orderly) {c : ControllerId} {w : Write}
    {left : List Write} (hleft : (s.threads c).left = w :: left) : (s.write c w left).Orderly := by
  have ht := h.thread c
  apply h.keep
  · constructor
    · exact ht.queue
    · intro hnone v hv
      apply ht.left hnone
      rw [hleft]
      exact List.mem_cons_of_mem w hv
    · rcases ht.current with ⟨-, hnil⟩ | ⟨-, call, report, hreport⟩
      · rw [hleft] at hnil
        cases hnil
      · by_cases hend : left = []
        · left
          exact ⟨if_pos hend, hend⟩
        · right
          refine ⟨hend, call, report, ?_⟩
          dsimp only
          rw [if_neg hend, ← hreport, hleft, List.append_assoc]
          rfl
  · rfl

theorem DeviceState.Orderly.callSlot {s : DeviceState} (h : s.Orderly) {c : ControllerId}
    {report : DeviceReport} {queue : List DeviceReport} (hleft : (s.threads c).left = [])
    (hqueue : (s.threads c).queue = report :: queue) : (s.callSlot c report queue).Orderly := by
  have ht := h.thread c
  apply h.keep
  · constructor
    · intro hnone r hr
      apply ht.queue hnone
      rw [hqueue]
      exact List.mem_cons_of_mem report hr
    · intro hnone w hw
      rw [(mem_reportWrites hw).2]
      apply ht.queue hnone
      rw [hqueue]
      exact List.mem_cons_self
    · right
      refine ⟨?_, (s.threads c).reports, report, ?_⟩
      · obtain ⟨body, hevents, -⟩ := events_end report
        simp [reportWrites, hevents, InputDevice.reportSyn]
      · rcases ht.current with ⟨hwritten, -⟩ | ⟨hne, -⟩
        · dsimp only
          rw [hwritten, List.nil_append]
        · exact absurd hleft hne
  · rfl

theorem DeviceState.Orderly.iterate {s : DeviceState} (h : s.Orderly) {c : ControllerId}
    (hleft : (s.threads c).left = []) (hqueue : (s.threads c).queue = []) (P : Params)
    (buttons : Word) (controller : ControllerId) (pressed released i : Word) (bits : List Word) :
    (s.iterate P c buttons controller pressed released i bits).Orderly := by
  have ht := h.thread c
  simp only [DeviceState.iterate]
  cases hentries : (s.threads c).entries with
  | none =>
    dsimp only
    by_cases hfree : s.mutex = none
    · rw [if_pos hfree]
      apply h.set
      · exact ⟨nofun, nofun, ht.current⟩
      · intro _
        rfl
      · intro hother
        have hheld := h.holder c.other hother
        rw [hfree] at hheld
        cases hheld
    · rw [if_neg hfree]
      exact h
  | some entries =>
    have hmine : s.mutex = some c := by
      apply h.holder c
      rw [hentries]
      exact nofun
    cases entries with
    | nil =>
      apply h.set
      · refine ⟨?_, ?_, ht.current⟩
        · intro _ report hreport
          dsimp only at hreport
          rw [hqueue] at hreport
          cases hreport
        · intro _ w hw
          dsimp only at hw
          rw [hleft] at hw
          cases hw
      · intro hnone
        exact absurd rfl hnone
      · -- the other thread does not hold it as well
        intro hother
        have hheld := h.holder c.other hother
        rw [hmine] at hheld
        exact absurd (Option.some.inj hheld).symm c.other_ne
    | cons entry entries =>
      apply h.set
      · exact ⟨nofun, nofun, ht.current⟩
      · intro _
        exact hmine
      · exact h.holder c.other

theorem DeviceState.Orderly.advance {s : DeviceState} (h : s.Orderly) (P : Params)
    (c : ControllerId) : (s.advance P c).Orderly := by
  have ht := h.thread c
  simp only [DeviceState.advance]
  by_cases hdone : (s.threads c).thread.done = true
  · rw [if_pos hdone]
    cases (s.threads c).calls with
    | nil => exact h
    | cons call calls =>
      cases call with
      | request r =>
        apply h.keep
        · exact ⟨ht.queue, ht.left, ht.current⟩
        · rfl
      | onGyroscope clock gx gy =>
        have hmoves := onGyroscope_reports P clock gx gy s.handler
        apply h.keep
        · exact ⟨fun _ => hmoves, ht.left, ht.current⟩
        · rfl
  · rw [if_neg hdone]
    apply h.keep
    · exact ⟨ht.queue, ht.left, ht.current⟩
    · rfl

theorem step_orderly (P : Params) (s : DeviceState) (h : s.Orderly) (c : ControllerId) :
    (s.step P c).1.Orderly := by
  simp only [DeviceState.step]
  cases hleft : (s.threads c).left with
  | cons w left => exact h.write hleft
  | nil =>
    cases hqueue : (s.threads c).queue with
    | cons report queue => exact h.callSlot hleft hqueue
    | nil =>
      dsimp only
      split
      · exact h.iterate hleft hqueue P _ _ _ _ _ _
      · exact h.advance P c

/-! ### The log -/

/-- Whole reports, and what one thread has written of its current report. -/
def Framed (s : DeviceState) (log : List Write) : Prop :=
  ∃ (c : ControllerId) (fs : List (List Write)), (∀ f ∈ fs, IsReport f) ∧
    (s.threads c.other).written = [] ∧ log = fs.flatten ++ (s.threads c).written

/-- What a thread in the middle of a report has written, and what is left, are of one call. -/
theorem DeviceState.Orderly.middle {s : DeviceState} (h : s.Orderly) {c : ControllerId}
    (hwritten : (s.threads c).written ≠ []) :
    ∃ call report, (s.threads c).written ++ (s.threads c).left = reportWrites c call report ∧
      (s.threads c).left ≠ [] := by
  rcases (h.thread c).current with ⟨hnil, -⟩ | ⟨hleft, call, report, hreport⟩
  · exact absurd hnil hwritten
  · exact ⟨call, report, hreport, hleft⟩

/-- Reports other than movements are written under the mutex. -/
theorem DeviceState.Orderly.holds_mutex {s : DeviceState} (h : s.Orderly) {c : ControllerId}
    {w : Write} (hw : w ∈ (s.threads c).left) (hmove : w.report.isMove = false) :
    s.mutex = some c := by
  apply h.holder c
  intro hnone
  have hmoves := (h.thread c).left hnone w hw
  rw [hmove] at hmoves
  cases hmoves

/-- A write that keeps apart from movements meets no report of the other thread: two threads that
report anything else would both hold the mutex. -/
theorem DeviceState.Orderly.alone {s : DeviceState} (h : s.Orderly) {c : ControllerId} {w : Write}
    {left : List Write} (hleft : (s.threads c).left = w :: left) (hok : movesApart s c = true) :
    (s.threads c.other).written = [] := by
  by_contra hne
  obtain ⟨call, report, hreport, hleft'⟩ := h.middle hne
  obtain ⟨v, written, hwritten⟩ := List.exists_cons_of_ne_nil hne
  obtain ⟨u, rest, hu⟩ := List.exists_cons_of_ne_nil hleft'
  rw [hwritten, hu] at hreport
  have hv : v ∈ reportWrites c.other call report := by
    rw [← hreport]
    exact List.mem_cons_self
  have hu' : u ∈ reportWrites c.other call report := by
    rw [← hreport]
    exact List.mem_append_right _ List.mem_cons_self
  simp only [movesApart, hleft, hwritten, List.all_cons, Bool.and_eq_true, Bool.not_eq_true',
    Bool.or_eq_false_iff] at hok
  obtain ⟨⟨hw, hvmove⟩, -⟩ := hok
  rw [(mem_reportWrites hv).2] at hvmove
  have hmine : s.mutex = some c := by
    apply h.holds_mutex _ hw
    rw [hleft]
    exact List.mem_cons_self
  have htheirs : s.mutex = some c.other := by
    apply h.holds_mutex (hu ▸ List.mem_cons_self)
    rw [(mem_reportWrites hu').2]
    exact hvmove
  rw [hmine] at htheirs
  exact c.other_ne (Option.some.inj htheirs).symm

theorem setThread_written {s : DeviceState} {c : ControllerId} {t : DeviceThread}
    (ht : t.written = (s.threads c).written) (i : ControllerId) :
    ((s.setThread c t).threads i).written = (s.threads i).written := by
  by_cases hi : i = c
  · subst hi
    simp only [DeviceState.setThread, Function.update_self]
    exact ht
  · simp only [DeviceState.setThread, Function.update_of_ne hi]

theorem iterate_written (P : Params) (s : DeviceState) (c : ControllerId) (buttons : Word)
    (controller : ControllerId) (pressed released bit : Word) (bits : List Word)
    (i : ControllerId) :
    ((s.iterate P c buttons controller pressed released bit bits).threads i).written =
      (s.threads i).written := by
  simp only [DeviceState.iterate]
  cases (s.threads c).entries with
  | none =>
    dsimp only
    split_ifs
    · apply setThread_written
      rfl
    · rfl
  | some entries =>
    cases entries with
    | nil =>
      apply setThread_written
      rfl
    | cons entry entries =>
      apply setThread_written
      rfl

theorem advance_written (P : Params) (s : DeviceState) (c i : ControllerId) :
    ((s.advance P c).threads i).written = (s.threads i).written := by
  simp only [DeviceState.advance]
  split_ifs
  · cases (s.threads c).calls with
    | nil => rfl
    | cons call calls =>
      cases call with
      | request r =>
        apply setThread_written
        rfl
      | onGyroscope clock gx gy =>
        apply setThread_written
        rfl
  · apply setThread_written
    rfl

/-- A step that is no write. -/
theorem step_silent (P : Params) (s : DeviceState) (c : ControllerId)
    (hleft : (s.threads c).left = []) :
    (s.step P c).2 = [] ∧ ∀ i, ((s.step P c).1.threads i).written = (s.threads i).written := by
  simp only [DeviceState.step, hleft]
  cases (s.threads c).queue with
  | cons report queue =>
    refine ⟨rfl, ?_⟩
    intro i
    apply setThread_written
    rfl
  | nil =>
    dsimp only
    split
    · exact ⟨rfl, iterate_written P s c _ _ _ _ _ _⟩
    · exact ⟨rfl, advance_written P s c⟩

/-- One more event of the current report, which may complete it. -/
theorem write_framed {s : DeviceState} {log : List Write} (hs : s.Orderly) (h : Framed s log)
    {c : ControllerId} {w : Write} {left : List Write} (hleft : (s.threads c).left = w :: left)
    (hok : movesApart s c = true) : Framed (s.write c w left) (log ++ [w]) := by
  have hother := hs.alone hleft hok
  -- the log ends with what this thread has written
  obtain ⟨c', fs, hfs, hidle, rfl⟩ := h
  have hlog : fs.flatten ++ (s.threads c').written = fs.flatten ++ (s.threads c).written := by
    by_cases hc : c' = c
    · rw [hc]
    · obtain rfl : c' = c.other := ControllerId.eq_other hc
      rw [ControllerId.other_other] at hidle
      rw [hother, hidle]
  rw [hlog]
  have hkeep : ((s.write c w left).threads c.other).written = [] := by
    simp only [DeviceState.write, DeviceState.setThread, Function.update_of_ne c.other_ne]
    exact hother
  by_cases hend : left = []
  · -- the report is complete
    have hframe : IsReport ((s.threads c).written ++ [w]) := by
      rcases (hs.thread c).current with ⟨-, hnil⟩ | ⟨-, call, report, hreport⟩
      · rw [hleft] at hnil
        cases hnil
      · rw [hleft, hend] at hreport
        exact ⟨c, call, report, hreport⟩
    refine ⟨c, fs ++ [(s.threads c).written ++ [w]], ?_, hkeep, ?_⟩
    · intro f hf
      rcases List.mem_append.mp hf with hf | hf
      · exact hfs f hf
      · rw [List.mem_singleton.mp hf]
        exact hframe
    · simp only [DeviceState.write, DeviceState.setThread, Function.update_self, if_pos hend,
        List.append_nil, List.flatten_append, List.flatten_singleton, List.append_assoc]
  · refine ⟨c, fs, hfs, hkeep, ?_⟩
    simp only [DeviceState.write, DeviceState.setThread, Function.update_self, if_neg hend,
      List.append_assoc]

theorem step_framed (P : Params) (s : DeviceState) (log : List Write) (c : ControllerId)
    (hok : movesApart s c = true) (hs : s.Orderly) (h : Framed s log) :
    Framed (s.step P c).1 (log ++ (s.step P c).2) := by
  cases hleft : (s.threads c).left with
  | nil =>
    obtain ⟨hout, hwritten⟩ := step_silent P s c hleft
    obtain ⟨c', fs, hfs, hidle, hlog⟩ := h
    rw [hout, List.append_nil]
    refine ⟨c', fs, hfs, ?_, ?_⟩
    · rw [hwritten]
      exact hidle
    · rw [hwritten]
      exact hlog
  | cons w left =>
    have hstep : s.step P c = (s.write c w left, [w]) := by simp only [DeviceState.step, hleft]
    rw [hstep]
    exact write_framed hs h hleft hok

theorem Framed.wholeReports {s : DeviceState} {log : List Write} (hs : s.Orderly)
    (h : Framed s log) : WholeReports log := by
  obtain ⟨c, fs, hfs, -, rfl⟩ := h
  apply (Frames.whole_iff IsReport.isFrame exists_isReport _).mpr
  by_cases hwritten : (s.threads c).written = []
  · have hlog : fs.flatten ++ (s.threads c).written = fs.flatten := by
      rw [hwritten, List.append_nil]
    exact ⟨fs, hfs, hlog.symm ▸ List.prefix_refl fs.flatten⟩
  · obtain ⟨call, report, hreport, -⟩ := hs.middle hwritten
    refine ⟨fs ++ [reportWrites c call report], ?_, ?_⟩
    · intro f hf
      rcases List.mem_append.mp hf with hf | hf
      · exact hfs f hf
      · rw [List.mem_singleton.mp hf]
        exact ⟨c, call, report, rfl⟩
    · rw [List.flatten_append, List.flatten_singleton, ← hreport, ← List.append_assoc]
      exact List.prefix_append _ _

/-- What is left to write belongs to the thread itself. -/
theorem DeviceState.Orderly.left_thread {s : DeviceState} (h : s.Orderly) {c : ControllerId}
    {w : Write} {left : List Write} (hleft : (s.threads c).left = w :: left) : w.thread = c := by
  rcases (h.thread c).current with ⟨-, hnil⟩ | ⟨-, call, report, hreport⟩
  · rw [hleft] at hnil
    cases hnil
  · have hmem : w ∈ reportWrites c call report := by
      rw [← hreport, hleft]
      exact List.mem_append_right _ List.mem_cons_self
    exact (mem_reportWrites hmem).1

/-- What is written of a report in progress has no `SYN_REPORT` yet. -/
theorem DeviceState.Orderly.written_open {s : DeviceState} (h : s.Orderly) {c : ControllerId}
    (hmiddle : (s.threads c).written ≠ []) : ∀ y ∈ (s.threads c).written, y.isSyn = false := by
  obtain ⟨call, report, hreport, hne⟩ := h.middle hmiddle
  apply (IsReport.isFrame _ ⟨c, call, report, rfl⟩).proper_beginning
  · rw [← hreport]
    exact List.prefix_append _ _
  · rw [← hreport]
    intro heq
    exact hne (List.self_eq_append_right.mp heq)

/-- An event next to a movement of the other thread spoils the log. -/
theorem write_spoils {s : DeviceState} {log : List Write} (hs : s.Orderly) (h : Framed s log)
    (P : Params) {c : ControllerId} (hok : ¬movesApart s c = true) :
    ¬WholeReports (log ++ (s.step P c).2) := by
  cases hleft : (s.threads c).left with
  | nil =>
    exfalso
    apply hok
    simp only [movesApart, hleft]
  | cons w left =>
    have hstep : (s.step P c).2 = [w] := by simp only [DeviceState.step, hleft]
    have hmiddle : (s.threads c.other).written ≠ [] := by
      intro hnil
      apply hok
      simp only [movesApart, hleft, hnil, List.all_nil]
    obtain ⟨c', fs, hfs, hidle, rfl⟩ := h
    obtain rfl : c' = c.other := by
      apply ControllerId.eq_other
      intro hc
      rw [hc] at hidle
      exact hmiddle hidle
    intro hwhole
    rw [hstep, List.append_assoc] at hwhole
    have hlast := Frames.Whole.of_flatten_append IsReport.isFrame hfs hwhole
    obtain ⟨call, report, hreport, -⟩ := hs.middle hmiddle
    -- the first frame has events of both threads
    obtain ⟨f, ⟨c'', call', report', rfl⟩, hbegin⟩ := hlast.first_frame (hs.written_open hmiddle)
    obtain ⟨v, written, hwritten⟩ := List.exists_cons_of_ne_nil hmiddle
    have hv : v ∈ reportWrites c.other call report := by
      rw [← hreport, hwritten]
      exact List.mem_cons_self
    have hv' : v ∈ reportWrites c'' call' report' := by
      apply hbegin.subset
      rw [hwritten]
      exact List.mem_cons_self
    have hw' : w ∈ reportWrites c'' call' report' :=
      hbegin.subset (List.mem_append_right _ List.mem_cons_self)
    have hsame : c.other = c := by
      calc
        c.other = v.thread := (mem_reportWrites hv).1.symm
        _ = w.thread := (mem_reportWrites hv').1.trans (mem_reportWrites hw').1.symm
        _ = c := hs.left_thread hleft
    exact c.other_ne hsame

/-- The log consists of whole reports if and only if no write goes into a movement of the other
thread, and no write of a movement into another report of the other thread. -/
theorem reports_whole_iff (P : Params) (programs : ControllerId → List DeviceCall)
    (schedule : List ControllerId) :
    WholeReports (run (DeviceState.step P) (.start programs) schedule).2 ↔
      Along (DeviceState.step P) (fun s c => movesApart s c = true) (.start programs) schedule := by
  have hiff := run_history_iff (DeviceState.step P) (fun s c => movesApart s c = true)
    (fun s log => s.Orderly ∧ Framed s log) WholeReports
    (fun s log h => h.2.wholeReports h.1)
    (fun log log' h => h.of_append IsReport.isFrame exists_isReport)
    (fun s log c hok h => ⟨step_orderly P s h.1 c, step_framed P s log c hok h.1 h.2⟩)
    (fun s log c hok h => write_spoils h.1 h.2 P hok)
    schedule (.start programs) []
    ⟨orderly_start programs, .first, [], fun f hf => absurd hf List.not_mem_nil, rfl, rfl⟩
  rw [List.nil_append] at hiff
  exact hiff

/-- One key on the second controller. -/
def keyParams : Params where
  keymap1 := []
  keymap2 := [⟨0x40#32, 45⟩]
  cx := 1
  cy := 1
  moveThreshold := 0
  gestureThreshold := 0

/-- A movement of the first controller, and a press of the key. -/
def movePrograms : ControllerId → List DeviceCall
  | .first => [
      .onGyroscope (fun _ => ⟨1, 500000000⟩) 0 0,
      .onGyroscope (fun _ => ⟨1, 510000000⟩) 7 0]
  | .second => [.request (.onButtons (fun _ => ⟨1, 500000000⟩) 0x40#32 .second)]

/-- The first thread stops after `REL_X`, until the second one has reported the key. -/
def splitSchedule : List ControllerId :=
  List.replicate 4 .first ++ List.replicate 22 .second ++ [.first]

/-- The first frame has the motion and the key, and the `SYN_REPORT` of the motion follows it. -/
theorem key_splits_movement :
    (∀ c, ∀ call ∈ movePrograms c, call.Belongs c) ∧
      (run (DeviceState.step keyParams) (.start movePrograms) splitSchedule).2 =
        [⟨.first, 0, .move 70 0, .evRel, relX, 70⟩, ⟨.second, 0, .key 45 true, .evKey, 45, 1⟩,
          ⟨.second, 0, .key 45 true, .evSyn, synReport, 0⟩,
          ⟨.first, 0, .move 70 0, .evSyn, synReport, 0⟩] ∧
      ¬WholeReports (run (DeviceState.step keyParams) (.start movePrograms) splitSchedule).2 := by
  have hlog : (run (DeviceState.step keyParams) (.start movePrograms) splitSchedule).2 =
      [⟨.first, 0, .move 70 0, .evRel, relX, 70⟩, ⟨.second, 0, .key 45 true, .evKey, 45, 1⟩,
        ⟨.second, 0, .key 45 true, .evSyn, synReport, 0⟩,
        ⟨.first, 0, .move 70 0, .evSyn, synReport, 0⟩] := by
    decide +kernel
  refine ⟨?_, hlog, ?_⟩
  · intro c
    cases c <;> simp [movePrograms, DeviceCall.Belongs, Request.Belongs]
  · rw [hlog]
    intro hwhole
    obtain ⟨c, call, report, hframe⟩ := hwhole.1 _ List.mem_cons_self
    have hfirst := mem_reportWrites (hframe ▸ List.mem_cons_self)
    have hsecond := mem_reportWrites (hframe ▸ List.mem_cons_of_mem _ List.mem_cons_self)
    have hsame : ControllerId.first = .second := hfirst.1.trans hsecond.1.symm
    cases hsame

end PSMoveInput

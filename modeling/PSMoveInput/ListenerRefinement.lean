import PSMoveInput.HandleOwnership
import PSMoveInput.ListenerLiveness
import PSMoveInput.Simulation

/-! The main loop and the threads, statement by statement, do what the steps of `ListenerState`
say. There a thread terminates, notifies the listener and gives its slot back at once, which is
justified if the main loop does not look at a thread that is on its way out. -/
namespace PSMoveInput

open Simulation Transducer

/-! ### The abstraction -/

/-- Without a thread the handle of the slot does not count. -/
def Slot.view (slot : Slot ℕ) : Slot Unit where
  id := slot.id
  psmoveId := slot.psmoveId
  move := if slot.running = true then slot.move else none
  thread := slot.thread.map fun _ => ()

/-- The stop check is one step, up to the statement that clears `threadStop_`. -/
def RunPc.view : RunPc → MainPc
  | .stopCheck | .join _ | .joinWait _ _ | .testStop => .stopCheck
  | .clearStop | .raise | .isFullCapacity => .isFullCapacity
  | .connect psmoveId => .connect psmoveId
  | .handleNewDevice psmoveId move => .handleNewDevice psmoveId move
  | .halted => .halted

/-- Some thread has cleared `thread_` and not returned. -/
def RunState.leaving (s : RunState) : Bool :=
  slotIndices.any fun c => s.anyThread c ControllerPc.leaving

/-- A thread counts as notified with the statement that clears `thread_`. -/
def RunState.view (s : RunState) : ListenerState where
  slots c := (s.slots c).view
  stop := s.stop
  threadStop := decide (s.pc ≠ .clearStop) && (s.threadStop || s.leaving)
  pc := s.pc.view

/-- The steps of `ListenerState` that match a statement. -/
def RunState.slotEvents (s : RunState) : RunEvent → List SlotEvent
  | .main answer =>
    match s.pc with
    | .stopCheck => if s.stop = true ∨ s.threadStop = true then [] else [.main none]
    | .testStop | .isFullCapacity | .handleNewDevice _ _ => [.main none]
    | .connect _ => [.main (answer.map fun connection => ⟨s.opened, connection⟩)]
    | .join _ | .joinWait _ _ | .clearStop | .raise | .halted => []
  | .worker t _ =>
    match s.workers t with
    | none => []
    | some w => if w.pc = .clearThread then [.terminate w.slot] else []
  | .disconnectKey t =>
    match s.workers t with
    | none => []
    | some w => if w.pc = .poll then [.disconnectKey w.slot] else []
  | .stop => [.stop]

/-- The handle that a thread is started for. -/
def HandleAction.startedHandle : HandleAction → Option ℕ
  | .started _ handle => some handle
  | _ => none

def SlotOutput.installedHandle : SlotOutput → Option ℕ
  | .installed _ _ move => some move.handle
  | _ => none

/-- When the main loop goes on behind the stop check, no thread still has to notify it. -/
def checksSettled (s : RunState) : RunEvent → Bool
  | .main _ =>
    match s.pc with
    | .stopCheck => s.stop || s.threadStop || !s.leaving
    | _ => true
  | _ => true

/-- The main loop does not meet a thread that is on its way out. -/
def apart (s : RunState) (ev : RunEvent) : Bool :=
  joinsSettled s ev && startsSettled s ev && checksSettled s ev

/-! ### The invariant -/

/-- Between the test of the flags and the second test of `stop_`. -/
def RunPc.joining : RunPc → Bool
  | .join _ | .joinWait _ _ | .testStop => true
  | _ => false

/-- What the steps rely on, beyond the invariants of the joins and of the handles. -/
structure RunState.Regular (s : RunState) : Prop where
  settled : s.Settled
  manned : s.Manned
  requested : s.pc.joining = true → s.stop = true ∨ s.threadStop = true

theorem regular_init : RunState.init.Regular where
  settled := settled_init
  manned := manned_init
  requested h := absurd h Bool.false_ne_true

namespace RunState

variable {s : RunState}

theorem leaving_iff (h : s.Attached) :
    s.leaving = true ↔ ∃ t w, s.workers t = some w ∧ w.pc.leaving = true := by
  simp only [leaving, anyThread, List.any_eq_true, List.mem_range, Option.any_eq_true,
    Bool.and_eq_true, decide_eq_true_eq]
  constructor
  · rintro ⟨c, -, t, -, w, hw, -, hl⟩
    exact ⟨t, w, hw, hl⟩
  · rintro ⟨t, w, hw, hl⟩
    exact ⟨w.slot, mem_slotIndices w.slot, t, h.lt_started hw, w, hw, rfl, hl⟩

theorem leaving_false (h : s.Attached)
    (hnone : ∀ t w, s.workers t = some w → w.pc.leaving = false) : s.leaving = false := by
  by_contra hne
  obtain ⟨t, w, hw, hl⟩ := (leaving_iff h).mp (eq_true_of_ne_false hne)
  rw [hnone t w hw] at hl
  exact Bool.false_ne_true hl

/-- Past the joins no thread is left. -/
theorem Regular.alone (h : s.Regular) (hjoined : ∀ c, s.pc.joined c) :
    s.leaving = false ∧ ∀ c, (s.slots c).thread = none := by
  constructor
  · apply leaving_false h.settled.attached
    intro t w hw
    rw [h.settled.returned hjoined hw]
    rfl
  · intro c
    by_contra hsome
    obtain ⟨t, ht⟩ := Option.ne_none_iff_exists'.mp hsome
    obtain ⟨w, hw, -, ha⟩ := h.manned.occupied c t ht
    rw [h.settled.returned hjoined hw] at ha
    exact absurd ha Bool.false_ne_true

/-- A thread on its way through its function is not past the joins. -/
theorem Regular.not_joined (h : s.Regular) {t : ℕ} {w : Worker} (hw : s.workers t = some w)
    (hret : w.pc ≠ .returned) : s.pc ≠ .clearStop := by
  intro hpc
  apply hret
  apply h.settled.returned _ hw
  intro c
  rw [hpc]
  trivial

/-- A statement of the main loop reaches the joins from the test of the flags. -/
theorem mainStep_joining (answer : Option ConnectionType)
    (hjoining : (s.mainStep answer).1.pc.joining = true) :
    s.pc.joining = true ∨ (s.stop = true ∨ s.threadStop = true) := by
  cases hpc : s.pc with
  | stopCheck =>
    right
    by_contra hflags
    rw [mainStep, hpc] at hjoining
    dsimp only at hjoining
    rw [if_neg hflags] at hjoining
    exact Bool.false_ne_true hjoining
  | join c => exact Or.inl rfl
  | joinWait c t => exact Or.inl rfl
  | testStop => exact Or.inl rfl
  | connect psmoveId =>
    rw [mainStep, hpc] at hjoining
    dsimp only at hjoining
    by_cases hid : psmoveId < maxControllers
    · rw [if_pos hid] at hjoining
      cases hconnect : connectIteration s.running s.psmoveIds psmoveId
        (answer.map fun connection => ⟨s.opened, connection⟩)
      all_goals
        rw [hconnect] at hjoining
        exact absurd hjoining Bool.false_ne_true
    · rw [if_neg hid] at hjoining
      exact absurd hjoining Bool.false_ne_true
  | handleNewDevice psmoveId move =>
    rw [mainStep, hpc] at hjoining
    dsimp only at hjoining
    cases hc : PSMoveInput.handleNewDevice s.running
    all_goals
      rw [hc] at hjoining
      exact absurd hjoining Bool.false_ne_true
  | isFullCapacity =>
    rw [mainStep, hpc] at hjoining
    dsimp only at hjoining
    split_ifs at hjoining
    all_goals exact absurd hjoining Bool.false_ne_true
  | clearStop =>
    rw [mainStep, hpc] at hjoining
    exact absurd hjoining Bool.false_ne_true
  | raise =>
    rw [mainStep, hpc] at hjoining
    exact absurd hjoining Bool.false_ne_true
  | halted =>
    rw [mainStep, hpc] at hjoining
    dsimp only at hjoining
    rw [hpc] at hjoining
    exact absurd hjoining Bool.false_ne_true

/-- The flags stay set up to the end of the joins. -/
theorem step_requested (hrequested : s.pc.joining = true → s.stop = true ∨ s.threadStop = true)
    (ev : RunEvent) (hjoining : (s.step ev).1.pc.joining = true) :
    (s.step ev).1.stop = true ∨ (s.step ev).1.threadStop = true := by
  have hflags : s.stop = true ∨ s.threadStop = true := by
    cases ev with
    | main answer =>
      rcases mainStep_joining answer hjoining with hbefore | hflags
      · exact hrequested hbefore
      · exact hflags
    | worker t answer =>
      apply hrequested
      have hpc : (s.step (.worker t answer)).1.pc = s.pc := s.step_pc fun _ => RunEvent.noConfusion
      rwa [hpc] at hjoining
    | disconnectKey t =>
      apply hrequested
      have hpc : (s.step (.disconnectKey t)).1.pc = s.pc := s.step_pc fun _ => RunEvent.noConfusion
      rwa [hpc] at hjoining
    | stop => exact hrequested hjoining
  rcases s.step_needToStop ev hflags with hstill | hraise
  · exact hstill
  · rw [hraise] at hjoining
    exact absurd hjoining Bool.false_ne_true

theorem step_regular (ev : RunEvent) (hok : apart s ev = true) (h : s.Regular) :
    (s.step ev).1.Regular := by
  simp only [apart, Bool.and_eq_true] at hok
  obtain ⟨⟨hjoins, hstarts⟩, -⟩ := hok
  exact ⟨step_settled s ev hjoins h.settled, step_manned s ev hstarts h.manned,
    step_requested h.requested ev⟩

/-! ### The steps -/

@[simp] theorem view_running (s : RunState) : s.view.running = s.running := by
  ext c
  simp only [ListenerState.running, view, Slot.view, Slot.running, Option.isSome_map, running]

@[simp] theorem view_psmoveIds (s : RunState) : s.view.psmoveIds = s.psmoveIds := rfl

/-- Equal views, field by field. -/
theorem view_eq {a : ListenerState} (hslots : ∀ c, a.slots c = (s.slots c).view)
    (hstop : a.stop = s.stop)
    (hthread : a.threadStop = (decide (s.pc ≠ .clearStop) && (s.threadStop || s.leaving)))
    (hpc : a.pc = s.pc.view) : a = s.view := by
  obtain ⟨slots, stop, threadStop, pc⟩ := a
  obtain rfl : slots = fun c => (s.slots c).view := funext hslots
  obtain rfl : stop = s.stop := hstop
  obtain rfl : pc = s.pc.view := hpc
  subst hthread
  rfl

/-- The steps match, as the outputs show to the observer of started handles. -/
abbrev StepMatches (s : RunState) (ev : RunEvent) (js : List SlotEvent) : Prop :=
  Matches RunState.step ListenerState.step RunState.view HandleAction.startedHandle
    SlotOutput.installedHandle s ev js

/-- A move of the main loop that is none for `ListenerState`. -/
theorem matches_within {answer : Option ConnectionType} {pc : RunPc}
    (hstep : s.mainStep answer = ({ s with pc := pc }, [])) (hview : pc.view = s.pc.view)
    (hbefore : s.pc ≠ .clearStop) (hafter : pc ≠ .clearStop) :
    StepMatches s (.main answer) [] := by
  refine .stutter ?_ ?_
  · rw [step, hstep]
    refine (view_eq (fun _ => rfl) rfl ?_ hview.symm).symm
    rw [decide_eq_true hafter]
    exact congrArg (· && _) (decide_eq_true hbefore)
  · rw [step, hstep]
    rfl

/-- A move of both main loops. -/
theorem matches_goto {answer : Option ConnectionType} {answer' : Option PSMove} {pc : RunPc}
    {opened : ℕ} {es : List HandleAction} {fs : List SlotOutput}
    (hstep : s.mainStep answer = ({ s with pc := pc, opened := opened }, es))
    (hstep' : s.view.mainStep answer' = ({ s.view with pc := pc.view }, fs))
    (hbefore : s.pc ≠ .clearStop) (hafter : pc ≠ .clearStop)
    (houtputs : fs.filterMap SlotOutput.installedHandle =
      es.filterMap HandleAction.startedHandle) :
    StepMatches s (.main answer) [.main answer'] := by
  refine .single ?_ ?_
  · rw [step, hstep, ListenerState.step, hstep']
    refine view_eq (fun _ => rfl) rfl ?_ rfl
    rw [decide_eq_true hafter]
    exact congrArg (· && _) (decide_eq_true hbefore)
  · rw [step, hstep, ListenerState.step, hstep']
    exact houtputs

/-- The flags of the two levels, where no thread is on its way out. -/
theorem view_flags (hpc : s.pc ≠ .clearStop) (hleaving : s.leaving = false) :
    s.view.stop = s.stop ∧ s.view.threadStop = s.threadStop := by
  refine ⟨rfl, ?_⟩
  rw [view, hleaving, decide_eq_true hpc, Bool.or_false, Bool.true_and]

/-- The main loop goes on if no flag is set, and to the joins otherwise. -/
theorem matches_stopCheck (answer : Option ConnectionType) (hpc : s.pc = .stopCheck)
    (hok : checksSettled s (.main answer) = true) :
    StepMatches s (.main answer) (s.slotEvents (.main answer)) := by
  have hbefore : s.pc ≠ .clearStop := hpc.trans_ne RunPc.noConfusion
  by_cases hflags : s.stop = true ∨ s.threadStop = true
  · simp only [slotEvents, hpc, if_pos hflags]
    have hstep : s.mainStep answer = ({ s with pc := .join .first }, []) := by
      rw [mainStep, hpc]
      dsimp only
      rw [if_pos hflags]
    exact matches_within hstep (by rw [hpc]; rfl) hbefore RunPc.noConfusion
  · simp only [slotEvents, hpc, if_neg hflags]
    simp only [checksSettled, hpc, Bool.or_eq_true, Bool.not_eq_true'] at hok
    obtain ⟨hstop, hthread⟩ := view_flags hbefore (hok.resolve_left hflags)
    have hview : s.view.pc = .stopCheck := congrArg RunPc.view hpc
    have hstep : s.mainStep answer = ({ s with pc := .isFullCapacity }, []) := by
      rw [mainStep, hpc]
      dsimp only
      rw [if_neg hflags]
    have hstep' : s.view.mainStep none = ({ s.view with pc := .isFullCapacity }, []) := by
      rw [ListenerState.mainStep, hview]
      dsimp only
      rw [hstop, hthread, if_neg hflags]
    exact matches_goto hstep hstep' hbefore RunPc.noConfusion rfl

/-- Behind the joins no slot has a thread, so the stop check of `ListenerState` ends as well. -/
theorem Regular.matches_testStop (h : s.Regular) (answer : Option ConnectionType)
    (hpc : s.pc = .testStop) : StepMatches s (.main answer) (s.slotEvents (.main answer)) := by
  have hbefore : s.pc ≠ .clearStop := hpc.trans_ne RunPc.noConfusion
  obtain ⟨hleaving, hfree⟩ := h.alone fun c => by rw [hpc]; trivial
  obtain ⟨hstop, hthread⟩ := view_flags hbefore hleaving
  have hflags : s.stop = true ∨ s.threadStop = true := h.requested (by rw [hpc]; rfl)
  have hidle : slotIndices.any s.view.running = false := by
    apply List.any_eq_false.mpr
    intro c _
    rw [view_running, running, Slot.running, hfree c]
    exact Bool.false_ne_true
  have hview : s.view.pc = .stopCheck := congrArg RunPc.view hpc
  simp only [slotEvents, hpc]
  by_cases hend : s.stop = true
  · have hstep : s.mainStep answer = ({ s with pc := .halted }, []) := by
      rw [mainStep, hpc]
      dsimp only
      rw [if_pos hend]
    have hstep' : s.view.mainStep none = ({ s.view with pc := .halted }, []) := by
      rw [ListenerState.mainStep, hview]
      dsimp only
      rw [hstop, hthread, if_pos hflags, hidle, if_neg Bool.false_ne_true, if_pos hend]
    exact matches_goto hstep hstep' hbefore RunPc.noConfusion rfl
  · have hstep : s.mainStep answer = ({ s with pc := .clearStop }, []) := by
      rw [mainStep, hpc]
      dsimp only
      rw [if_neg hend]
    have hstep' : s.view.mainStep none =
        ({ s.view with threadStop := false, pc := .isFullCapacity }, []) := by
      rw [ListenerState.mainStep, hview]
      dsimp only
      rw [hstop, hthread, if_pos hflags, hidle, if_neg Bool.false_ne_true, if_neg hend]
    refine .single ?_ ?_
    · rw [step, hstep, ListenerState.step, hstep']
      exact view_eq (fun _ => rfl) rfl rfl rfl
    · rw [step, hstep, ListenerState.step, hstep']
      rfl

/-- The flag is cleared, and the signal raised, with no thread around. -/
theorem Regular.matches_reset (h : s.Regular) (answer : Option ConnectionType)
    (hpc : s.pc = .clearStop ∨ s.pc = .raise) :
    StepMatches s (.main answer) (s.slotEvents (.main answer)) := by
  have hleaving : s.leaving = false := by
    refine (h.alone fun c => ?_).1
    rcases hpc with hpc | hpc
    all_goals
      rw [hpc]
      trivial
  rcases hpc with hpc | hpc
  · have hstep : s.mainStep answer = ({ s with threadStop := false, pc := .raise }, []) := by
      rw [mainStep, hpc]
    have hview : MainPc.isFullCapacity = s.pc.view := (congrArg RunPc.view hpc).symm
    simp only [slotEvents, hpc]
    refine .stutter ?_ ?_
    · rw [step, hstep]
      refine (view_eq (fun _ => rfl) rfl ?_ hview.symm).symm
      -- no thread will notify the listener any more
      rw [view, hpc]
      exact hleaving.symm
    · rw [step, hstep]
      rfl
  · have hstep : s.mainStep answer =
        ({ s with sessions := s.sessions + 1, pc := .isFullCapacity }, []) := by
      rw [mainStep, hpc]
    have hview : MainPc.isFullCapacity = s.pc.view := (congrArg RunPc.view hpc).symm
    simp only [slotEvents, hpc]
    refine .stutter ?_ ?_
    · rw [step, hstep]
      refine (view_eq (fun _ => rfl) rfl ?_ hview.symm).symm
      rw [view, hpc]
      rfl
    · rw [step, hstep]
      rfl

/-- The joins. -/
theorem matches_join (answer : Option ConnectionType)
    (hpc : (∃ c, s.pc = .join c) ∨ (∃ c t, s.pc = .joinWait c t) ∨ s.pc = .halted) :
    StepMatches s (.main answer) (s.slotEvents (.main answer)) := by
  have hafterJoin (c : ControllerId) :
      (RunPc.afterJoin c).view = .stopCheck ∧ RunPc.afterJoin c ≠ .clearStop := by
    cases c <;> exact ⟨rfl, RunPc.noConfusion⟩
  rcases hpc with ⟨c, hpc⟩ | ⟨c, t, hpc⟩ | hpc
  · have hbefore : s.pc ≠ .clearStop := hpc.trans_ne RunPc.noConfusion
    have hview : s.pc.view = .stopCheck := congrArg RunPc.view hpc
    simp only [slotEvents, hpc]
    cases hslot : (s.slots c).thread with
    | none =>
      have hstep : s.mainStep answer = ({ s with pc := .afterJoin c }, []) := by
        rw [mainStep, hpc]
        dsimp only
        rw [hslot]
      exact matches_within hstep ((hafterJoin c).1.trans hview.symm) hbefore (hafterJoin c).2
    | some t =>
      have hstep : s.mainStep answer = ({ s with pc := .joinWait c t }, []) := by
        rw [mainStep, hpc]
        dsimp only
        rw [hslot]
      exact matches_within hstep hview.symm hbefore RunPc.noConfusion
  · have hbefore : s.pc ≠ .clearStop := hpc.trans_ne RunPc.noConfusion
    have hview : s.pc.view = .stopCheck := congrArg RunPc.view hpc
    simp only [slotEvents, hpc]
    by_cases hfinished : s.finished t = true
    · have hstep : s.mainStep answer = ({ s with pc := .afterJoin c }, []) := by
        rw [mainStep, hpc]
        dsimp only
        rw [if_pos hfinished]
      exact matches_within hstep ((hafterJoin c).1.trans hview.symm) hbefore (hafterJoin c).2
    · have hstep : s.mainStep answer = (s, []) := by
        rw [mainStep, hpc]
        dsimp only
        rw [if_neg hfinished]
      refine .stutter ?_ ?_
      · rw [step, hstep]
      · rw [step, hstep]
        rfl
  · have hstep : s.mainStep answer = (s, []) := by rw [mainStep, hpc]
    simp only [slotEvents, hpc]
    refine .stutter ?_ ?_
    · rw [step, hstep]
    · rw [step, hstep]
      rfl

/-- The search for a controller. Both levels see the same running slots and ids. -/
theorem matches_connect (answer : Option ConnectionType)
    (hpc : s.pc = .isFullCapacity ∨ ∃ psmoveId, s.pc = .connect psmoveId) :
    StepMatches s (.main answer) (s.slotEvents (.main answer)) := by
  rcases hpc with hpc | ⟨psmoveId, hpc⟩
  · have hbefore : s.pc ≠ .clearStop := hpc.trans_ne RunPc.noConfusion
    have hview : s.view.pc = .isFullCapacity := congrArg RunPc.view hpc
    simp only [slotEvents, hpc]
    by_cases hfull : PSMoveInput.isFullCapacity s.running = false
    · have hstep : s.mainStep answer = ({ s with pc := .connect 0 }, []) := by
        rw [mainStep, hpc]
        dsimp only
        rw [if_pos hfull]
      have hstep' : s.view.mainStep none = ({ s.view with pc := .connect 0 }, []) := by
        rw [ListenerState.mainStep, hview]
        dsimp only
        rw [view_running, if_pos hfull]
      exact matches_goto hstep hstep' hbefore RunPc.noConfusion rfl
    · have hstep : s.mainStep answer = ({ s with pc := .stopCheck }, []) := by
        rw [mainStep, hpc]
        dsimp only
        rw [if_neg hfull]
      have hstep' : s.view.mainStep none = ({ s.view with pc := .stopCheck }, []) := by
        rw [ListenerState.mainStep, hview]
        dsimp only
        rw [view_running, if_neg hfull]
      exact matches_goto hstep hstep' hbefore RunPc.noConfusion rfl
  · have hbefore : s.pc ≠ .clearStop := hpc.trans_ne RunPc.noConfusion
    have hview : s.view.pc = .connect psmoveId := congrArg RunPc.view hpc
    simp only [slotEvents, hpc]
    by_cases hid : psmoveId < maxControllers
    · cases hconnect : connectIteration s.running s.psmoveIds psmoveId
        (answer.map fun connection => ⟨s.opened, connection⟩) with
      | some move =>
        have hstep : s.mainStep answer =
            ({ s with opened := s.opened + 1, pc := .handleNewDevice psmoveId move }, []) := by
          rw [mainStep, hpc]
          dsimp only
          rw [if_pos hid, hconnect]
        have hstep' :
            s.view.mainStep (answer.map fun connection => ⟨s.opened, connection⟩) =
              ({ s.view with pc := .handleNewDevice psmoveId move },
                [.returned psmoveId move]) := by
          rw [ListenerState.mainStep, hview]
          dsimp only
          rw [if_pos hid, view_running, view_psmoveIds, hconnect]
        exact matches_goto hstep hstep' hbefore RunPc.noConfusion rfl
      | none =>
        have hstep : ∃ es, s.mainStep answer =
            ({ s with opened := s.opened + 1, pc := .connect (psmoveId + 1) }, es) ∧
              es.filterMap HandleAction.startedHandle = [] := by
          rw [mainStep, hpc]
          dsimp only
          rw [if_pos hid, hconnect]
          refine ⟨_, rfl, ?_⟩
          split_ifs <;> rfl
        have hstep' :
            s.view.mainStep (answer.map fun connection => ⟨s.opened, connection⟩) =
              ({ s.view with pc := .connect (psmoveId + 1) }, []) := by
          rw [ListenerState.mainStep, hview]
          dsimp only
          rw [if_pos hid, view_running, view_psmoveIds, hconnect]
        obtain ⟨es, hstep, hsilent⟩ := hstep
        exact matches_goto hstep hstep' hbefore RunPc.noConfusion hsilent.symm
    · have hstep : s.mainStep answer = ({ s with pc := .stopCheck }, []) := by
        rw [mainStep, hpc]
        dsimp only
        rw [if_neg hid]
      have hstep' :
          s.view.mainStep (answer.map fun connection => ⟨s.opened, connection⟩) =
            ({ s.view with pc := .stopCheck }, []) := by
        rw [ListenerState.mainStep, hview]
        dsimp only
        rw [if_neg hid]
      exact matches_goto hstep hstep' hbefore RunPc.noConfusion rfl

/-- The threads on their way out are the same ones. -/
theorem leaving_congr {s' : RunState} (h : s.Attached) (h' : s'.Attached)
    (hsame : (∃ t w, s'.workers t = some w ∧ w.pc.leaving = true) ↔
      ∃ t w, s.workers t = some w ∧ w.pc.leaving = true) : s'.leaving = s.leaving := by
  rw [Bool.eq_iff_iff, leaving_iff h, leaving_iff h', hsame]

/-- A start leaves the other slots alone, and the new thread has just begun. -/
theorem Regular.matches_start (h : s.Regular) (answer : Option ConnectionType) {psmoveId : ℕ}
    {move : PSMove} (hpc : s.pc = .handleNewDevice psmoveId move) :
    StepMatches s (.main answer) (s.slotEvents (.main answer)) := by
  have hbefore : s.pc ≠ .clearStop := hpc.trans_ne RunPc.noConfusion
  have hview : s.view.pc = .handleNewDevice psmoveId move := congrArg RunPc.view hpc
  simp only [slotEvents, hpc]
  cases hc : PSMoveInput.handleNewDevice s.running with
  | none =>
    have hstep : s.mainStep answer = ({ s with pc := .stopCheck }, []) := by
      rw [mainStep, hpc]
      dsimp only
      rw [hc]
    have hstep' : s.view.mainStep none = ({ s.view with pc := .stopCheck }, []) := by
      rw [ListenerState.mainStep, hview]
      dsimp only
      rw [view_running, hc]
    exact matches_goto hstep hstep' hbefore RunPc.noConfusion rfl
  | some c =>
    have hfree : s.running c = false := handleNewDevice_free hc
    have hslot := Slot.start_free hfree c psmoveId move s.started
    have hslot' := Slot.start_free (t := s.view.slots c) (by rw [← hfree, ← view_running]; rfl)
      c psmoveId move ()
    have hstep : s.mainStep answer = ({ s.startThread c psmoveId move with pc := .stopCheck },
        [.started s.started move.handle]) := by
      rw [mainStep, hpc]
      dsimp only
      rw [hc]
    have hstep' : s.view.mainStep none =
        ({ s.view with
            slots := Function.update s.view.slots c ⟨c, psmoveId, some move, some ()⟩
            pc := .stopCheck }, [.installed c psmoveId move]) := by
      rw [ListenerState.mainStep, hview]
      dsimp only
      rw [view_running, hc]
      dsimp only
      rw [hslot', if_pos hfree]
    have hattached := h.settled.attached
    have hleaving : ({ s.startThread c psmoveId move with pc := .stopCheck } : RunState).leaving =
        s.leaving := by
      apply leaving_congr hattached (hattached.start hfree psmoveId move .stopCheck)
      constructor
      · rintro ⟨t, w, hw, hl⟩
        rcases startThread_cases psmoveId hw with ⟨-, rfl⟩ | ⟨-, hw⟩
        · exact absurd hl Bool.false_ne_true
        · exact ⟨t, w, hw, hl⟩
      · rintro ⟨t, w, hw, hl⟩
        have hne : t ≠ s.started := ne_of_lt (hattached.lt_started hw)
        exact ⟨t, w, (Function.update_of_ne hne _ _).trans hw, hl⟩
    refine .single ?_ ?_
    · rw [step, hstep, ListenerState.step, hstep']
      refine view_eq ?_ rfl ?_ rfl
      · intro d
        simp only [startThread]
        by_cases hd : d = c
        · rw [hd, Function.update_self, Function.update_self, hslot]
          rfl
        · rw [Function.update_of_ne hd, Function.update_of_ne hd]
          rfl
      · rw [hleaving]
        exact congrArg (· && _) (decide_eq_true hbefore)
    · rw [step, hstep, ListenerState.step, hstep']
      rfl

/-- The main loop's statements match. -/
theorem Regular.matches_main (h : s.Regular) (answer : Option ConnectionType)
    (hok : apart s (.main answer) = true) :
    StepMatches s (.main answer) (s.slotEvents (.main answer)) := by
  simp only [apart, Bool.and_eq_true] at hok
  cases hpc : s.pc with
  | stopCheck => exact matches_stopCheck answer hpc hok.2
  | join c => exact matches_join answer (Or.inl ⟨c, hpc⟩)
  | joinWait c t => exact matches_join answer (Or.inr (Or.inl ⟨c, t, hpc⟩))
  | testStop => exact h.matches_testStop answer hpc
  | clearStop => exact h.matches_reset answer (Or.inl hpc)
  | raise => exact h.matches_reset answer (Or.inr hpc)
  | isFullCapacity => exact matches_connect answer (Or.inl hpc)
  | connect psmoveId => exact matches_connect answer (Or.inr ⟨psmoveId, hpc⟩)
  | handleNewDevice psmoveId move => exact h.matches_start answer hpc
  | halted => exact matches_join answer (Or.inr (Or.inr hpc))

/-- Only the notification sets the flag. -/
theorem workerStep_threadStop {t : ℕ} {w : Worker} (answer : Bool) (hw : s.workers t = some w) :
    (s.workerStep t answer).1.threadStop = (s.threadStop || decide (w.pc = .onDisconnect)) := by
  rw [workerStep, hw]
  dsimp only
  cases w.pc with
  | onDisconnect => exact (Bool.or_true _).symm
  | _ => exact (Bool.or_false _).symm

/-- Who is on its way out after a statement of a thread. -/
theorem leaving_moves {s' : RunState} {t : ℕ} {w : Worker} {pc : ControllerPc}
    (hm : WorkerMoves s t w pc s') :
    (∃ t w, s'.workers t = some w ∧ w.pc.leaving = true) ↔
      pc.leaving = true ∨ ∃ t' w', t' ≠ t ∧ s.workers t' = some w' ∧ w'.pc.leaving = true := by
  constructor
  · rintro ⟨t', w', hw', hl⟩
    rcases hm.cases hw' with ⟨rfl, rfl⟩ | ⟨ht, hw'⟩
    · exact Or.inl hl
    · exact Or.inr ⟨t', w', ht, hw', hl⟩
  · rw [hm.workers]
    rintro (hl | ⟨t', w', ht, hw', hl⟩)
    · exact ⟨t, _, Function.update_self .., hl⟩
    · exact ⟨t', w', (Function.update_of_ne ht _ _).trans hw', hl⟩

/-- The flag of the view after a statement of a thread. -/
theorem Regular.view_threadStop (h : s.Regular) {t : ℕ} {answer : Bool} {w : Worker}
    {pc : ControllerPc} (hm : WorkerMoves s t w pc (s.workerStep t answer).1) :
    ((s.workerStep t answer).1.threadStop || (s.workerStep t answer).1.leaving) =
      (s.threadStop || s.leaving || decide (w.pc = .clearThread)) := by
  have hbefore : s.leaving = true ↔ w.pc.leaving = true ∨
      ∃ t' w', t' ≠ t ∧ s.workers t' = some w' ∧ w'.pc.leaving = true := by
    rw [leaving_iff h.settled.attached]
    constructor
    · rintro ⟨t', w', hw', hl⟩
      by_cases ht : t' = t
      · subst ht
        obtain rfl := Option.some.inj (hm.worker.symm.trans hw')
        exact Or.inl hl
      · exact Or.inr ⟨t', w', ht, hw', hl⟩
    · rintro (hl | ⟨t', w', -, hw', hl⟩)
      · exact ⟨t, w, hm.worker, hl⟩
      · exact ⟨t', w', hw', hl⟩
  have hafter := (leaving_iff (h.settled.attached.moves hm)).trans (leaving_moves hm)
  -- a thread is on its way out from the clearing up to the notification
  have hmover : w.pc = .onDisconnect ∨ pc.leaving = true ↔
      w.pc.leaving = true ∨ w.pc = .clearThread := by
    have hnext := hm.next
    revert hnext
    generalize w.pc = pc₀
    intro hnext
    cases hnext <;> decide
  rw [workerStep_threadStop answer hm.worker, Bool.eq_iff_iff]
  simp only [Bool.or_eq_true, decide_eq_true_eq]
  rw [hafter, hbefore]
  calc
    _ ↔ s.threadStop = true ∨ (w.pc = .onDisconnect ∨ pc.leaving = true) ∨ _ := by
      rw [or_assoc, or_assoc]
    _ ↔ s.threadStop = true ∨ (w.pc.leaving = true ∨ w.pc = .clearThread) ∨ _ := by rw [hmover]
    _ ↔ _ := (or_congr_right or_right_comm).trans or_assoc.symm

/-- A statement of a thread keeps the ids of the slots. -/
theorem workerStep_ids (s : RunState) (t : ℕ) (answer : Bool) (c : ControllerId) :
    ((s.workerStep t answer).1.slots c).id = (s.slots c).id ∧
      ((s.workerStep t answer).1.slots c).psmoveId = (s.slots c).psmoveId := by
  cases hw : s.workers t with
  | none =>
    rw [workerStep, hw]
    exact ⟨rfl, rfl⟩
  | some w =>
    rw [workerStep, hw]
    dsimp only
    have hset (slot : Slot ℕ) (hid : slot.id = (s.slots w.slot).id)
        (hpsmoveId : slot.psmoveId = (s.slots w.slot).psmoveId) :
        (Function.update s.slots w.slot slot c).id = (s.slots c).id ∧
          (Function.update s.slots w.slot slot c).psmoveId = (s.slots c).psmoveId := by
      by_cases hc : c = w.slot
      · rw [hc, Function.update_self]
        exact ⟨hid, hpsmoveId⟩
      · rw [Function.update_of_ne hc]
        exact ⟨rfl, rfl⟩
    cases w.pc with
    | clearThread => exact hset _ rfl rfl
    | clearMove => exact hset _ rfl rfl
    | _ => exact ⟨rfl, rfl⟩

theorem slotView_congr {a b : Slot ℕ} (hid : a.id = b.id) (hpsmoveId : a.psmoveId = b.psmoveId)
    (hthread : a.thread = b.thread) (hmove : b.running = true → a.move = b.move) :
    a.view = b.view := by
  have hrunning : a.running = b.running := by rw [Slot.running, hthread, Slot.running]
  simp only [Slot.view, hid, hpsmoveId, hthread, hrunning]
  split_ifs with hrun
  · rw [hmove hrun]
  · rfl

/-- A thread that clears `move_` does so in a slot without a thread. -/
theorem Regular.not_running (h : s.Regular) {t : ℕ} {w : Worker} (hw : s.workers t = some w)
    (hpc : w.pc = .clearMove) : (s.slots w.slot).running = false := by
  by_contra hne
  obtain ⟨t', ht'⟩ := Option.isSome_iff_exists.mp (eq_true_of_ne_false hne)
  obtain ⟨w', hw', hslot, ha⟩ := h.manned.occupied w.slot t' ht'
  have hholds : w'.pc.holding = true := by rw [ControllerPc.holding, ha, Bool.true_or]
  -- two threads would rely on the slot
  obtain rfl : t' = t :=
    h.manned.owned.exclusive t' t w' w hw' hw hholds (by rw [hpc]; rfl) hslot
  obtain rfl : w' = w := Option.some.inj (hw'.symm.trans hw)
  rw [hpc] at ha
  exact Bool.false_ne_true ha

/-- In the view, a thread gives its slot back when it clears `thread_`. -/
theorem Regular.view_slots (h : s.Regular) {t : ℕ} {answer : Bool} {w : Worker}
    {pc : ControllerPc} (hm : WorkerMoves s t w pc (s.workerStep t answer).1) (c : ControllerId) :
    ((s.workerStep t answer).1.slots c).view =
      if c = w.slot ∧ w.pc = .clearThread then (s.slots c).view.terminate
      else (s.slots c).view := by
  obtain ⟨hid, hpsmoveId⟩ := s.workerStep_ids t answer c
  have hthread := hm.thread c
  by_cases hclear : c = w.slot ∧ w.pc = .clearThread
  · rw [if_pos hclear] at hthread ⊢
    simp only [Slot.view, Slot.terminate, Slot.running, hid, hpsmoveId, hthread]
    rfl
  · rw [if_neg hclear] at hthread ⊢
    apply slotView_congr hid hpsmoveId hthread
    intro hrun
    have hmove := hm.move c
    rwa [if_neg] at hmove
    rintro ⟨rfl, hpc⟩
    rw [h.not_running hm.worker hpc] at hrun
    exact Bool.false_ne_true hrun

/-- The statements of a thread match: with the one that clears `thread_` it terminates. -/
theorem Regular.matches_worker (h : s.Regular) (t : ℕ) (answer : Bool) :
    StepMatches s (.worker t answer) (s.slotEvents (.worker t answer)) := by
  have hsilent : (s.workerStep t answer).2.filterMap HandleAction.startedHandle = [] := by
    rcases workerStep_spec s t answer with hstay | ⟨w, pc, -, houtputs⟩
    · rw [hstay]
      rfl
    · rw [houtputs, handleActions]
      split_ifs <;> rfl
  rcases workerStep_spec s t answer with hstay | ⟨w, pc, hm, -⟩
  · have hnone : s.slotEvents (.worker t answer) = [] := by
      cases hw : s.workers t with
      | none => simp only [slotEvents, hw]
      | some w =>
        simp only [slotEvents, hw]
        apply if_neg
        intro hclear
        -- the statement would have moved the thread
        have hworkers := congrArg (fun r => r.1.workers t) hstay
        simp only [workerStep, hw, hclear, goto, Function.update_self] at hworkers
        have hpc := congrArg Worker.pc (Option.some.inj hworkers)
        rw [hclear] at hpc
        exact ControllerPc.noConfusion hpc
    rw [hnone]
    refine .stutter ?_ hsilent
    rw [step, hstay]
  · have hbefore : s.pc ≠ .clearStop := h.not_joined hm.worker hm.next.not_returned
    have hflag := h.view_threadStop hm
    have hstop := (s.workerStep_flags t answer).1
    simp only [slotEvents, hm.worker]
    by_cases hclear : w.pc = .clearThread
    · rw [if_pos hclear]
      have hrunning : s.view.running w.slot = true := by
        rw [view_running, running, Slot.running,
          h.settled.attached.thread t w hm.worker (by rw [hclear]; rfl)]
        rfl
      refine .single ?_ ?_
      · rw [ListenerState.step, if_pos hrunning]
        refine view_eq ?_ hstop.symm ?_ (congrArg RunPc.view hm.main.symm)
        · intro c
          have hview := h.view_slots hm c
          simp only [hclear, and_true] at hview
          by_cases hc : c = w.slot
          · subst hc
            rw [if_pos rfl] at hview
            exact (Function.update_self ..).trans hview.symm
          · rw [if_neg hc] at hview
            exact (Function.update_of_ne hc _ _).trans hview.symm
        · rw [RunState.step, hm.main, decide_eq_true hbefore, hflag, decide_eq_true hclear,
            Bool.or_true, Bool.true_and]
      · rw [ListenerState.step, if_pos hrunning]
        exact hsilent.symm
    · rw [if_neg hclear]
      refine .stutter ?_ hsilent
      refine (view_eq ?_ hstop.symm ?_ (congrArg RunPc.view hm.main.symm)).symm
      · intro c
        have hview := h.view_slots hm c
        rw [if_neg fun hc => hclear hc.2] at hview
        exact hview.symm
      · rw [RunState.step, hm.main, hflag, decide_eq_false hclear, Bool.or_false]
        rfl

/-- The two flags that are set from outside. -/
theorem Regular.matches_requests (h : s.Regular) (ev : RunEvent)
    (hev : (∃ t, ev = .disconnectKey t) ∨ ev = .stop) :
    StepMatches s ev (s.slotEvents ev) := by
  rcases hev with ⟨t, rfl⟩ | rfl
  · cases hw : s.workers t with
    | none =>
      have hstep : s.step (.disconnectKey t) = (s, []) := by
        rw [step, hw]
        rfl
      simp only [slotEvents, hw]
      exact .stutter (by rw [hstep]) (by rw [hstep]; rfl)
    | some w =>
      simp only [slotEvents, hw]
      by_cases hpoll : w.pc = .poll
      · have hstep : s.step (.disconnectKey t) = ({ s with threadStop := true }, []) := by
          rw [step, hw, if_pos (by simpa using hpoll)]
        have hbefore : s.pc ≠ .clearStop :=
          h.not_joined hw (hpoll.trans_ne ControllerPc.noConfusion)
        have hrunning : s.view.running w.slot = true := by
          rw [view_running, running, Slot.running,
            h.settled.attached.thread t w hw (by rw [hpoll]; rfl)]
          rfl
        have hstep' : s.view.step (.disconnectKey w.slot) =
            ({ s.view with threadStop := true }, []) := by
          rw [ListenerState.step, if_pos hrunning]
        rw [if_pos hpoll]
        refine .single ?_ ?_
        · rw [hstep, hstep']
          refine view_eq (fun _ => rfl) rfl ?_ rfl
          rw [decide_eq_true hbefore, Bool.true_or, Bool.true_and]
        · rw [hstep, hstep']
          rfl
      · have hstep : s.step (.disconnectKey t) = (s, []) := by
          rw [step, hw, if_neg (by simpa using hpoll)]
        rw [if_neg hpoll]
        exact .stutter (by rw [hstep]) (by rw [hstep]; rfl)
  · exact .single (view_eq (fun _ => rfl) rfl rfl rfl) rfl

theorem Regular.matches_step (h : s.Regular) (ev : RunEvent) (hok : apart s ev = true) :
    StepMatches s ev (s.slotEvents ev) := by
  cases ev with
  | main answer => exact h.matches_main answer hok
  | worker t answer => exact h.matches_worker t answer
  | disconnectKey t => exact h.matches_requests _ (Or.inl ⟨t, rfl⟩)
  | stop => exact h.matches_requests _ (Or.inr rfl)

end RunState

/-- If the main loop does not meet a thread on its way out, a run of statements leads to the state
of a run of `ListenerState`, with threads started for the same handles in the same order. -/
theorem listener_refines (evs : List RunEvent)
    (hapart : Along RunState.step (fun s ev => apart s ev = true) .init evs) :
    let r := run RunState.step .init evs
    let r' := run ListenerState.step .init (mapped RunState.step RunState.slotEvents .init evs)
    r'.1 = r.1.view ∧
      r'.2.filterMap SlotOutput.installedHandle = r.2.filterMap HandleAction.startedHandle :=
  run_matches (fun s ev => apart s ev = true) RunState.Regular
    (fun _ ev hok h => RunState.step_regular ev hok h)
    (fun _ ev hok h => h.matches_step ev hok) evs .init regular_init hapart

/-- The first thread is told to leave, and another one is started behind the joins. -/
def restartEvents : List RunEvent :=
  startEvents ++ leaveEvents ++ cleanUpEvents ++ joinEvents ++ List.replicate 3 (.main none) ++
    [.main (some .bluetooth), .main none]

theorem listener_refines_restarted :
    let r' := run ListenerState.step .init
      (mapped RunState.step RunState.slotEvents .init restartEvents)
    r'.1 = (run RunState.step .init restartEvents).1.view ∧
      r'.2.filterMap SlotOutput.installedHandle = [0, 1] := by
  obtain ⟨hstate, houtputs⟩ := listener_refines restartEvents (by decide +kernel)
  exact ⟨hstate, houtputs.trans (by decide +kernel)⟩

end PSMoveInput

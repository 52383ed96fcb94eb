import PSMoveInput.HandleOwnership
import PSMoveInput.ListenerLiveness

/-! No handle of psmoveapi is lost. A handle that `psmove_connect_by_id` has answered is closed by
the main loop, is on its way to a thread, or belongs to a thread, which closes it in the end. -/
namespace PSMoveInput

open Liveness Transducer

/-- The handle that `psmove_connect_by_id` answers in a step. -/
def openedHandle (s : RunState) : RunEvent → Option ℕ
  | .main (some _) =>
    match s.pc with
    | .connect psmoveId =>
      if psmoveId < maxControllers ∧ controllerExists s.running s.psmoveIds psmoveId = false then
        some s.opened
      else none
    | _ => none
  | _ => none

/-! ### Room for a new thread -/

/-- Between `isFullCapacity` and `start`. -/
def RunPc.connecting : RunPc → Bool
  | .connect _ => true
  | .handleNewDevice _ _ => true
  | _ => false

/-- A slot that was seen free stays free: only the main loop starts threads. -/
def RunState.Room (s : RunState) : Prop := s.pc.connecting = true → ∃ c, s.running c = false

theorem RunState.Room.keep {s s' : RunState} (h : s.Room) (hslots : s'.slots = s.slots)
    (hpc : s'.pc.connecting = true → s.pc.connecting = true) : s'.Room := by
  intro hconnecting
  obtain ⟨c, hc⟩ := h (hpc hconnecting)
  refine ⟨c, ?_⟩
  rw [RunState.running, hslots]
  exact hc

theorem RunState.Room.moves {s s' : RunState} {t : ℕ} {w : Worker} {pc : ControllerPc}
    (h : s.Room) (hm : WorkerMoves s t w pc s') : s'.Room := by
  intro hconnecting
  rw [hm.main] at hconnecting
  obtain ⟨c, hc⟩ := h hconnecting
  refine ⟨c, ?_⟩
  simp only [RunState.running, Slot.running, hm.thread] at hc ⊢
  split_ifs
  · rfl
  · exact hc

theorem mainStep_room (s : RunState) (answer : Option ConnectionType) (h : s.Room) :
    (s.mainStep answer).1.Room := by
  rcases mainStep_next s answer with hstay | hnext
  · rw [hstay]
    exact h
  by_cases hcapacity : s.pc = .isFullCapacity
  · rw [RunState.mainStep, hcapacity]
    dsimp only
    split_ifs with hfree
    · exact fun _ => isFullCapacity_false hfree
    · exact fun hconnecting => absurd hconnecting Bool.false_ne_true
  -- a main loop that is connecting afterwards was connecting before
  have hback : (s.mainStep answer).1.pc.connecting = true → s.pc.connecting = true := by
    revert hnext hcapacity
    generalize (s.mainStep answer).1.pc = pc
    generalize s.pc = pc₀
    intro hnext hcapacity
    cases hnext with
    | room => exact absurd rfl hcapacity
    | found => exact fun _ => rfl
    | tried => exact fun _ => rfl
    | _ => exact fun hconnecting => absurd hconnecting Bool.false_ne_true
  cases mainStep_moves s answer with
  | quiet same => exact h.keep same.slots hback
  | connected psmoveId move same => exact h.keep same.slots hback
  | refused same => exact h.keep same.slots hback
  | starts psmoveId move c device slot state =>
    rw [state]
    exact fun hconnecting => absurd hconnecting Bool.false_ne_true

theorem step_room (s : RunState) (ev : RunEvent) (h : s.Room) : (s.step ev).1.Room := by
  cases ev with
  | main answer => exact mainStep_room s answer h
  | worker t answer =>
    simp only [RunState.step]
    rcases workerStep_spec s t answer with hstay | ⟨w, pc, hm, -⟩
    · rw [hstay]
      exact h
    · exact h.moves hm
  | disconnectKey t =>
    simp only [RunState.step]
    split_ifs
    · exact h.keep rfl id
    · exact h
  | stop => exact h.keep rfl id

/-- `handleNewDevice` finds a slot. -/
theorem RunState.Room.starts {s : RunState} (h : s.Room) {psmoveId : ℕ} {move : PSMove}
    (hpc : s.pc = .handleNewDevice psmoveId move) (answer : Option ConnectionType) :
    ∃ c, s.mainStep answer =
      ({ s.startThread c psmoveId move with pc := .stopCheck },
        [.started s.started move.handle]) := by
  have hconnecting : s.pc.connecting = true := by
    rw [hpc]
    rfl
  obtain ⟨c, hc⟩ := handleNewDevice_isSome (h hconnecting)
  refine ⟨c, ?_⟩
  simp only [RunState.mainStep, hpc, hc]

/-! ### The ledger of a handle -/

/-- Where an answered handle is, with the calls of `psmove_disconnect` for it. -/
inductive Ledger (handle : ℕ) (s : RunState) (es : List HandleAction) : Prop
  /-- The main loop has closed it. -/
  | refused (closed : closers handle es = [none])
      (thread : ∀ t w, s.workers t = some w → w.handle ≠ handle)
      (device : ∀ psmoveId move, s.pc = .handleNewDevice psmoveId move → move.handle ≠ handle)
  /-- `connect` has returned it. -/
  | pending (psmoveId : ℕ) (move : PSMove) (device : s.pc = .handleNewDevice psmoveId move)
      (handle_eq : move.handle = handle)
  | owned (t : ℕ) (w : Worker) (thread : s.workers t = some w) (handle_eq : w.handle = handle)

/-- What the history says about handles and threads. -/
structure RunState.Booked (s : RunState) (es : List HandleAction) : Prop where
  owned : s.Owned
  recorded : Recorded s es
  room : s.Room

theorem booked_init : RunState.init.Booked [] where
  owned := owned_init
  recorded := recorded_init
  room h := absurd h Bool.false_ne_true

theorem step_booked (s : RunState) (es : List HandleAction) (ev : RunEvent)
    (hok : startsSettled s ev = true) (h : s.Booked es) :
    (s.step ev).1.Booked (es ++ (s.step ev).2) where
  owned := step_owned s ev hok h.owned
  recorded := step_recorded s es ev h.owned h.recorded
  room := step_room s ev h.room

/-- A step of the main loop that starts no thread, for another handle. -/
theorem Ledger.keep {handle : ℕ} {s s' : RunState} {es fs : List HandleAction}
    (h : Ledger handle s es) (hsame : SameThreads s s') (hclosers : closers handle fs = [])
    (hdevice : ∀ psmoveId move, s'.pc = .handleNewDevice psmoveId move → move.handle ≠ handle)
    (hnone : ∀ psmoveId move, s.pc ≠ .handleNewDevice psmoveId move) :
    Ledger handle s' (es ++ fs) := by
  cases h with
  | refused closed thread device =>
    apply Ledger.refused
    · rw [closers_append, closed, hclosers, List.append_nil]
    · rw [hsame.workers]
      exact thread
    · exact hdevice
  | pending psmoveId move device => exact absurd device (hnone psmoveId move)
  | owned t w thread handle_eq =>
    apply Ledger.owned t w _ handle_eq
    rw [hsame.workers]
    exact thread

theorem Ledger.moves {handle : ℕ} {s s' : RunState} {es : List HandleAction} {t : ℕ} {w : Worker}
    {pc : ControllerPc} (h : Ledger handle s es) (howned : s.Owned)
    (hm : WorkerMoves s t w pc s') : Ledger handle s' (es ++ handleActions s t w) := by
  cases h with
  | refused closed thread device =>
    have hne := thread t w hm.worker
    apply Ledger.refused
    · rw [closers_append, closed, howned.closers_actions hm.worker, if_neg fun hc => hne hc.2]
      rfl
    · intro t' w' hw'
      obtain ⟨w₀, hw₀, -, hhandle, -⟩ := hm.back hw'
      rw [← hhandle]
      exact thread t' w₀ hw₀
    · rw [hm.main]
      exact device
  | pending psmoveId move device handle_eq =>
    apply Ledger.pending psmoveId move _ handle_eq
    rw [hm.main]
    exact device
  | owned t' w' thread handle_eq =>
    obtain ⟨w'', hw'', hhandle⟩ := hm.forward thread
    exact Ledger.owned t' w'' hw'' (hhandle.trans handle_eq)

/-- The handle that `connect` has returned goes to the new thread. -/
theorem Ledger.start {handle : ℕ} {s : RunState} {es : List HandleAction} (h : Ledger handle s es)
    (howned : s.Owned) {psmoveId : ℕ} {move : PSMove} (hpc : s.pc = .handleNewDevice psmoveId move)
    (c : ControllerId) :
    Ledger handle { s.startThread c psmoveId move with pc := .stopCheck }
      (es ++ [.started s.started move.handle]) := by
  cases h with
  | refused closed thread device =>
    apply Ledger.refused
    · rw [closers_append, closed]
      rfl
    · intro t w hw
      rcases startThread_cases psmoveId hw with ⟨-, rfl⟩ | ⟨-, hw⟩
      · exact device psmoveId move hpc
      · exact thread t w hw
    · exact fun _ _ hnone => RunPc.noConfusion hnone
  | pending psmoveId' move' device handle_eq =>
    rw [hpc] at device
    obtain ⟨-, rfl⟩ := RunPc.handleNewDevice.inj device
    exact Ledger.owned s.started ⟨c, move.handle, s.sessions, .entry⟩ (Function.update_self ..)
      handle_eq
  | owned t w thread handle_eq =>
    apply Ledger.owned t w _ handle_eq
    have hne : t ≠ s.started := (howned.attached.lt_started thread).ne
    simp only [RunState.startThread]
    rw [Function.update_of_ne hne]
    exact thread

theorem mainStep_ledger {handle : ℕ} {s : RunState} {es : List HandleAction}
    (h : Ledger handle s es) (hbooked : s.Booked es) (hlt : handle < s.opened)
    (answer : Option ConnectionType) :
    Ledger handle (s.mainStep answer).1 (es ++ (s.mainStep answer).2) := by
  by_cases hdevice : ∃ psmoveId move, s.pc = .handleNewDevice psmoveId move
  · obtain ⟨psmoveId, move, hpc⟩ := hdevice
    obtain ⟨c, hc⟩ := hbooked.room.starts hpc answer
    rw [hc]
    exact h.start hbooked.owned hpc c
  · have hnone (psmoveId : ℕ) (move : PSMove) : s.pc ≠ .handleNewDevice psmoveId move :=
      fun hpc => hdevice ⟨psmoveId, move, hpc⟩
    cases mainStep_moves s answer with
    | quiet same opened device silent =>
      rw [silent]
      exact h.keep same rfl (fun _ _ hpc => absurd hpc (device _ _)) hnone
    | connected psmoveId move same opened device handle_eq silent =>
      rw [silent]
      refine h.keep same rfl ?_ hnone
      intro psmoveId' move' hpc
      rw [device] at hpc
      obtain ⟨-, rfl⟩ := RunPc.handleNewDevice.inj hpc
      omega
    | refused same opened device closed =>
      refine h.keep same ?_ (fun _ _ hpc => absurd hpc (device _ _)) hnone
      rcases closed with hes | hes | hes
      · rw [hes]
        rfl
      · rw [hes]
        rfl
      · -- the main loop closes the handle that it has just been answered
        rw [hes]
        simp only [closers, List.filterMap_cons, if_neg hlt.ne', List.filterMap_nil]
    | starts psmoveId move c device => exact absurd device (hnone psmoveId move)

theorem step_ledger {handle : ℕ} {s : RunState} {es : List HandleAction}
    (h : Ledger handle s es) (hbooked : s.Booked es) (hlt : handle < s.opened) (ev : RunEvent) :
    Ledger handle (s.step ev).1 (es ++ (s.step ev).2) := by
  have hflag (b b' : Bool) :
      Ledger handle ({ s with stop := b, threadStop := b' } : RunState) (es ++ []) := by
    rw [List.append_nil]
    cases h with
    | refused closed thread device => exact .refused closed thread device
    | pending psmoveId move device handle_eq => exact .pending psmoveId move device handle_eq
    | owned t w thread handle_eq => exact .owned t w thread handle_eq
  cases ev with
  | main answer => exact mainStep_ledger h hbooked hlt answer
  | worker t answer =>
    simp only [RunState.step]
    rcases workerStep_spec s t answer with hstay | ⟨w, pc, hm, hacts⟩
    · rw [hstay]
      exact hflag s.stop s.threadStop
    · rw [hacts]
      exact h.moves hbooked.owned hm
  | disconnectKey t =>
    simp only [RunState.step]
    split_ifs
    · exact hflag s.stop true
    · exact hflag s.stop s.threadStop
  | stop => exact hflag true s.threadStop

/-- An answer of `psmove_connect_by_id` is a new handle, and the main loop keeps it or closes it. -/
theorem step_opens {handle : ℕ} {s : RunState} {es : List HandleAction} {ev : RunEvent}
    (h : openedHandle s ev = some handle) (hbooked : s.Booked es) :
    handle < (s.step ev).1.opened ∧ Ledger handle (s.step ev).1 (es ++ (s.step ev).2) := by
  simp only [openedHandle] at h
  split at h
  · rename_i connection
    split at h
    · rename_i psmoveId hpc
      split_ifs at h with hasked
      obtain rfl := Option.some.inj h
      have hthread (t : ℕ) (w : Worker) (hw : s.workers t = some w) : w.handle ≠ s.opened :=
        (hbooked.owned.opened t w hw).ne
      have hiteration : connectIteration s.running s.psmoveIds psmoveId
          (some ⟨s.opened, connection⟩) =
          if connection = .bluetooth then some ⟨s.opened, connection⟩ else none := by
        rw [connectIteration, if_pos hasked.2]
        cases connection <;> rfl
      by_cases htype : connection = .bluetooth
      · rw [if_pos htype] at hiteration
        simp only [RunState.step, RunState.mainStep, hpc, if_pos hasked.1, Option.map_some,
          hiteration]
        exact ⟨Nat.lt_succ_self _, .pending psmoveId ⟨s.opened, connection⟩ rfl rfl⟩
      · rw [if_neg htype] at hiteration
        simp only [RunState.step, RunState.mainStep, hpc, if_pos hasked.1, Option.map_some,
          hiteration, if_pos hasked.2]
        refine ⟨Nat.lt_succ_self _, .refused ?_ hthread fun _ _ hnone => RunPc.noConfusion hnone⟩
        rw [closers_append, hbooked.recorded.unopened s.opened le_rfl]
        simp only [closers, List.filterMap_cons, ↓reduceIte, List.filterMap_nil, List.nil_append]
    · cases h
  · cases h

theorem workerStep_opened (s : RunState) (t : ℕ) (answer : Bool) :
    (s.workerStep t answer).1.opened = s.opened := by
  rcases workerStep_spec s t answer with hstay | ⟨w, pc, hm, -⟩
  · rw [hstay]
  · exact hm.opened

theorem step_opened_le (s : RunState) (ev : RunEvent) : s.opened ≤ (s.step ev).1.opened := by
  cases ev with
  | main answer =>
    simp only [RunState.step]
    cases mainStep_moves s answer with
    | quiet same opened => exact opened.ge
    | connected psmoveId move same opened => omega
    | refused same opened => omega
    | starts psmoveId move c device slot state =>
      rw [state]
      exact le_rfl
  | worker t answer => exact (workerStep_opened s t answer).ge
  | disconnectKey t =>
    simp only [RunState.step]
    split_ifs <;> exact le_rfl
  | stop => exact le_rfl

/-! ### Whole runs -/

/-- A handle that has been answered is closed by the main loop, or is about to be given to a thread,
or is closed by its thread alone. -/
def Traced (handle : ℕ) (s : RunState) (es : List HandleAction) : Prop :=
  closers handle es = [none] ∨
  (∃ psmoveId move, s.pc = .handleNewDevice psmoveId move ∧ move.handle = handle ∧
    closers handle es = []) ∨
  ∃ t w, s.workers t = some w ∧ w.handle = handle ∧
    closers handle es = if w.pc.hasClosed = true then [some t] else []

theorem Ledger.traced {handle : ℕ} {s : RunState} {es : List HandleAction}
    (h : Ledger handle s es) (hrecorded : Recorded s es) : Traced handle s es := by
  cases h with
  | refused closed => exact Or.inl closed
  | pending psmoveId move device handle_eq =>
    have hclosers := hrecorded.device psmoveId move device
    rw [handle_eq] at hclosers
    exact Or.inr (Or.inl ⟨psmoveId, move, device, handle_eq, hclosers⟩)
  | owned t w thread handle_eq =>
    have hclosers := hrecorded.closed t w thread
    rw [handle_eq] at hclosers
    exact Or.inr (Or.inr ⟨t, w, thread, handle_eq, hclosers⟩)

/-- If no start takes over the slot of a thread that has cleared `thread_` but not `move_`, every
handle that is ever answered is accounted for from then on. -/
theorem handles_traced {before after : List RunEvent} {ev : RunEvent} {handle : ℕ}
    (hstarts : Along RunState.step (fun s ev => startsSettled s ev = true) .init
      (before ++ ev :: after))
    (hopened : openedHandle (run RunState.step .init before).1 ev = some handle) :
    Traced handle (run RunState.step .init (before ++ ev :: after)).1
      (run RunState.step .init (before ++ ev :: after)).2 := by
  rw [along_append] at hstarts
  obtain ⟨hbefore, hev, hafter⟩ := hstarts
  have hbooked := run_history RunState.step (fun s ev => startsSettled s ev = true)
    RunState.Booked (fun s es ev => step_booked s es ev) before _ _ booked_init hbefore
  rw [List.nil_append] at hbooked
  obtain ⟨hlt, hledger⟩ := step_opens hopened hbooked
  have hnext := step_booked _ _ ev hev hbooked
  have hend := run_history RunState.step (fun s ev => startsSettled s ev = true)
    (fun s es => s.Booked es ∧ handle < s.opened ∧ Ledger handle s es)
    (fun s es ev hok h => ⟨step_booked s es ev hok h.1,
      lt_of_lt_of_le h.2.1 (step_opened_le s ev), step_ledger h.2.2 h.1 h.2.1 ev⟩)
    after _ _ ⟨hnext, hlt, hledger⟩ hafter
  have hrun : run RunState.step .init (before ++ ev :: after) =
      ((run RunState.step ((run RunState.step .init before).1.step ev).1 after).1,
        (run RunState.step .init before).2 ++ (((run RunState.step .init before).1.step ev).2 ++
          (run RunState.step ((run RunState.step .init before).1.step ev).1 after).2)) :=
    run_append RunState.step _ _ _
  rw [hrun, ← List.append_assoc]
  exact hend.2.2.traced hend.1.recorded

/-- After a call of `stop` every handle that has been answered is closed exactly once. -/
theorem stop_releases_handles {schedule : ℕ → RunEvent} (hfair : FairSchedule schedule)
    (hstarts : ∀ k, startsSettled (stateAt RunState.step schedule .init k) (schedule k) = true)
    {n : ℕ} (hstop : (stateAt RunState.step schedule .init n).stop = true) :
    ∃ m, n ≤ m ∧ ∀ k, m ≤ k → ∀ j < k, ∀ handle,
      openedHandle (stateAt RunState.step schedule .init j) (schedule j) = some handle →
      (closers handle (run RunState.step .init (inputs schedule k)).2).length = 1 := by
  obtain ⟨m, hnm, hended⟩ := reaches_ended hfair hstop
  refine ⟨m, hnm, fun k hmk j hjk handle hopened => ?_⟩
  obtain ⟨hpc, hreturned⟩ := stateAt_stable RunState.step_ended hmk hended
  -- the run up to the answer, and the run after it
  obtain ⟨after, hinputs⟩ :
      ∃ after, inputs schedule k = inputs schedule j ++ schedule j :: after := by
    obtain ⟨d, rfl⟩ := Nat.exists_eq_add_of_lt hjk
    exact ⟨(List.range d).map fun i => schedule (j + 1 + i), inputs_split schedule j d⟩
  rw [stateAt_eq_run] at hopened hpc
  have htraced : Traced handle (run RunState.step .init (inputs schedule k)).1
      (run RunState.step .init (inputs schedule k)).2 := by
    have halong : Along RunState.step (fun s ev => startsSettled s ev = true) .init
        (inputs schedule k) := along_inputs _ _ _ fun i _ => hstarts i
    rw [hinputs] at halong ⊢
    exact handles_traced halong hopened
  rcases htraced with hclosed | ⟨psmoveId, move, hdevice, -⟩ | ⟨t, w, hw, -, hclosed⟩
  · rw [hclosed]
    rfl
  · rw [hpc] at hdevice
    cases hdevice
  · have hret : w.pc = .returned := by
      apply hreturned t w
      rw [stateAt_eq_run]
      exact hw
    rw [hclosed, hret]
    rfl

/-- Without an answer there is nothing to start. -/
theorem mainStep_unanswered (s : RunState) (psmoveId : ℕ) (move : PSMove) :
    (s.mainStep none).1.pc = .handleNewDevice psmoveId move → False := by
  cases hpc : s.pc with
  | connect id =>
    have hiteration : connectIteration s.running s.psmoveIds id none = none := by
      by_contra hsome
      obtain ⟨move', hmove'⟩ := Option.ne_none_iff_exists'.mp hsome
      cases connectIteration_answer hmove'
    simp only [RunState.mainStep, hpc, Option.map_none, hiteration]
    split_ifs <;> exact False.elim
  | join c =>
    simp only [RunState.mainStep, hpc]
    cases (s.slots c).thread <;> cases c <;> exact RunPc.noConfusion
  | joinWait c t =>
    simp only [RunState.mainStep, hpc]
    split_ifs
    · cases c <;> exact RunPc.noConfusion
    · rw [hpc]
      exact RunPc.noConfusion
  | handleNewDevice id move' =>
    simp only [RunState.mainStep, hpc]
    cases handleNewDevice s.running <;> exact RunPc.noConfusion
  | halted =>
    simp only [RunState.mainStep, hpc]
    exact RunPc.noConfusion
  | clearStop =>
    simp only [RunState.mainStep, hpc]
    exact RunPc.noConfusion
  | raise =>
    simp only [RunState.mainStep, hpc]
    exact RunPc.noConfusion
  | _ =>
    simp only [RunState.mainStep, hpc]
    split_ifs <;> exact False.elim

/-- Taking turns starts no threads, so no slot is taken over. -/
theorem turns_startsSettled {first : List RunEvent}
    (hfirst : ∀ k < first.length,
      startsSettled (stateAt RunState.step (turns first) .init k) (turns first k) = true)
    (hdevice : ∀ psmoveId move,
      (stateAt RunState.step (turns first) .init first.length).pc ≠ .handleNewDevice psmoveId move)
    (k : ℕ) :
    startsSettled (stateAt RunState.step (turns first) .init k) (turns first k) = true := by
  by_cases hk : k < first.length
  · exact hfirst k hk
  have hturn (n : ℕ) (hn : first.length ≤ n) :
      turns first n = .main none ∨ ∃ t, turns first n = .worker t false := by
    rw [turns, List.getElem?_eq_none hn, Option.getD_none]
    split_ifs
    · exact Or.inl rfl
    · exact Or.inr ⟨_, rfl⟩
  have hnever (n : ℕ) (hn : first.length ≤ n) (psmoveId : ℕ) (move : PSMove) :
      (stateAt RunState.step (turns first) .init n).pc ≠ .handleNewDevice psmoveId move := by
    induction n, hn using Nat.le_induction with
    | base => exact hdevice psmoveId move
    | succ n hn ih =>
      rw [stateAt]
      rcases hturn n hn with hmain | ⟨t, hworker⟩
      · rw [hmain]
        exact mainStep_unanswered _ psmoveId move
      · rw [hworker, RunState.step_pc _ fun _ => RunEvent.noConfusion]
        exact ih
  rcases hturn k (not_lt.mp hk) with hmain | ⟨t, hworker⟩
  · rw [hmain, startsSettled]
    split
    · rename_i psmoveId move hpc
      exact absurd hpc (hnever k (not_lt.mp hk) psmoveId move)
    · rfl
  · rw [hworker]
    rfl

/-- The first thread has its handle when `stop` is called. -/
theorem stop_releases_handles_started :
    ∃ m, 5 ≤ m ∧ ∀ k, m ≤ k → ∀ j < k, ∀ handle,
      openedHandle (stateAt RunState.step (turns (startEvents ++ [.stop])) .init j)
        (turns (startEvents ++ [.stop]) j) = some handle →
      (closers handle
        (run RunState.step .init (inputs (turns (startEvents ++ [.stop])) k)).2).length = 1 := by
  refine stop_releases_handles (turns_fair _) (turns_startsSettled ?_ ?_) (by decide +kernel)
  · decide +kernel
  · have hpc :
        (stateAt RunState.step (turns (startEvents ++ [.stop])) .init 5).pc = .stopCheck := by
      decide +kernel
    exact fun psmoveId move h => RunPc.noConfusion (hpc.symm.trans h)

end PSMoveInput

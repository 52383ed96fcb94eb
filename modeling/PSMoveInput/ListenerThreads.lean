import PSMoveInput.ListenerSlots

/-! `PSMoveListener::run` and the controller threads as interleaved statements. A thread leaves
its slot in several steps. Only the threads themselves clear `thread_`, so a scan of the slots by
the main loop is one step here. `start()` is one step, and so are the test of `thread_` in `join()`
and the wait for the thread that it has found. -/
namespace PSMoveInput

open Transducer

/-! ### Statements of the threads -/

/-- The next statement of `operator()`. -/
inductive ControllerPc where
  | entry
  | checkStop
  | poll
  | checkTimeout
  | clearThread
  | resetLastTp
  | disconnect
  | clearMove
  | onDisconnect
  | returned
  deriving DecidableEq, Repr

/-- Up to the statement that clears `thread_`. -/
def ControllerPc.attached : ControllerPc → Bool
  | .entry | .checkStop | .poll | .checkTimeout | .clearThread => true
  | _ => false

/-- Between the statements that clear `thread_` and `move_`. -/
def ControllerPc.closing : ControllerPc → Bool
  | .resetLastTp | .disconnect | .clearMove => true
  | _ => false

/-- After the statement that clears `thread_`, and not returned. -/
def ControllerPc.leaving (pc : ControllerPc) : Bool := pc.closing || pc = .onDisconnect

/-- After the call of `psmove_disconnect`. -/
def ControllerPc.hasClosed : ControllerPc → Bool
  | .clearMove | .onDisconnect | .returned => true
  | _ => false

/-- A controller thread, with the slot and the handle that it was started for and the number of
resets of the handler before its start. -/
structure Worker where
  slot : ControllerId
  handle : ℕ
  session : ℕ
  pc : ControllerPc
  deriving DecidableEq, Repr

/-- The next statement of `run`, with its local variables. -/
inductive RunPc where
  | stopCheck
  | join (slot : ControllerId)
  | joinWait (slot : ControllerId) (thread : ℕ)
  | testStop
  | clearStop
  | raise
  | isFullCapacity
  | connect (psmoveId : ℕ)
  | handleNewDevice (psmoveId : ℕ) (move : PSMove)
  | halted
  deriving DecidableEq, Repr

/-- Threads and handles are numbered in the order of their creation. -/
structure RunState where
  slots : ControllerId → Slot ℕ
  workers : ℕ → Option Worker
  started : ℕ
  opened : ℕ
  /-- How often `disconnectCompleteSignal_` was raised. -/
  sessions : ℕ
  stop : Bool
  threadStop : Bool
  pc : RunPc

def RunState.init : RunState where
  slots := fun _ => .new
  workers := fun _ => none
  started := 0
  opened := 0
  sessions := 0
  stop := false
  threadStop := false
  pc := .stopCheck

/-- What is done with handles. A handle is closed by a controller thread or by the main loop. -/
inductive HandleAction where
  | started (thread handle : ℕ)
  | polled (thread : ℕ) (handle : Option ℕ)
  | closed (thread : Option ℕ) (handle : Option ℕ)
  deriving DecidableEq, Repr

def RunState.running (s : RunState) (c : ControllerId) : Bool := (s.slots c).running

def RunState.psmoveIds (s : RunState) (c : ControllerId) : ℕ := (s.slots c).psmoveId

def RunState.goto (s : RunState) (t : ℕ) (w : Worker) (pc : ControllerPc) : RunState :=
  { s with workers := Function.update s.workers t (some { w with pc := pc }) }

def RunState.setSlot (s : RunState) (c : ControllerId) (slot : Slot ℕ) : RunState :=
  { s with slots := Function.update s.slots c slot }

/-- A statement of a controller thread. `answer` stands for the result of `psmove_poll`, and for
the test of the disconnect timeout. -/
def RunState.workerStep (s : RunState) (t : ℕ) (answer : Bool) : RunState × List HandleAction :=
  match s.workers t with
  | none => (s, [])
  | some w =>
    let slot := s.slots w.slot
    match w.pc with
    | .entry => (s.goto t w (if slot.move = none then .returned else .checkStop), [])
    | .checkStop =>
      (s.goto t w (if s.stop = true ∨ s.threadStop = true then .clearThread else .poll), [])
    | .poll =>
      -- there is nothing to fetch from a null handle
      (s.goto t w (if slot.move ≠ none ∧ answer = true then .poll else .checkTimeout),
        [.polled t (slot.move.map PSMove.handle)])
    | .checkTimeout => (s.goto t w (if answer = true then .clearThread else .checkStop), [])
    | .clearThread =>
      ((s.setSlot w.slot { slot with thread := none }).goto t w .resetLastTp, [])
    | .resetLastTp => (s.goto t w .disconnect, [])
    | .disconnect => (s.goto t w .clearMove, [.closed (some t) (slot.move.map PSMove.handle)])
    | .clearMove => ((s.setSlot w.slot { slot with move := none }).goto t w .onDisconnect, [])
    | .onDisconnect => ({ s with threadStop := true }.goto t w .returned, [])
    | .returned => (s, [])

/-! ### Statements of the main loop -/

def RunPc.afterJoin : ControllerId → RunPc
  | .first => .join .second
  | .second => .testStop

/-- The function of the thread has returned. -/
def RunState.finished (s : RunState) (t : ℕ) : Bool := (s.workers t).all fun w => w.pc = .returned

/-- `start` for a slot that has no thread, in one step. -/
def RunState.startThread (s : RunState) (c : ControllerId) (psmoveId : ℕ) (move : PSMove) :
    RunState :=
  { s with
    slots := Function.update s.slots c ((s.slots c).start c psmoveId move s.started)
    workers := Function.update s.workers s.started (some ⟨c, move.handle, s.sessions, .entry⟩)
    started := s.started + 1 }

/-- A statement of `run`. A `join` reads `thread_` once; while it has to wait it leaves the state as
it is. -/
def RunState.mainStep (s : RunState) (answer : Option ConnectionType) :
    RunState × List HandleAction :=
  match s.pc with
  | .stopCheck =>
    ({ s with pc := if s.stop = true ∨ s.threadStop = true then .join .first else .isFullCapacity },
      [])
  | .join c =>
    match (s.slots c).thread with
    | none => ({ s with pc := .afterJoin c }, [])
    | some t => ({ s with pc := .joinWait c t }, [])
  | .joinWait c t => if s.finished t = true then ({ s with pc := .afterJoin c }, []) else (s, [])
  | .testStop => ({ s with pc := if s.stop = true then .halted else .clearStop }, [])
  | .clearStop => ({ s with threadStop := false, pc := .raise }, [])
  | .raise => ({ s with sessions := s.sessions + 1, pc := .isFullCapacity }, [])
  | .isFullCapacity =>
    ({ s with
        pc := if PSMoveInput.isFullCapacity s.running = false then .connect 0 else .stopCheck }, [])
  | .connect psmoveId =>
    if psmoveId < maxControllers then
      -- every answer of `psmove_connect_by_id` is a handle of its own
      let move := answer.map fun connection => ⟨s.opened, connection⟩
      match connectIteration s.running s.psmoveIds psmoveId move with
      | some move => ({ s with opened := s.opened + 1, pc := .handleNewDevice psmoveId move }, [])
      | none =>
        ({ s with opened := s.opened + 1, pc := .connect (psmoveId + 1) },
          if controllerExists s.running s.psmoveIds psmoveId = false then
            [.closed none (move.map PSMove.handle)]
          else [])
    else ({ s with pc := .stopCheck }, [])
  | .handleNewDevice psmoveId move =>
    match PSMoveInput.handleNewDevice s.running with
    | some c =>
      ({ s.startThread c psmoveId move with pc := .stopCheck },
        [.started s.started move.handle])
    | none => ({ s with pc := .stopCheck }, [])
  | .halted => (s, [])

inductive RunEvent where
  | main (answer : Option ConnectionType)
  | worker (thread : ℕ) (answer : Bool)
  /-- A sample that the thread has polled signals the disconnect key. -/
  | disconnectKey (thread : ℕ)
  /-- The process is told to stop. -/
  | stop

def RunState.step (s : RunState) : RunEvent → RunState × List HandleAction
  | .main answer => s.mainStep answer
  | .worker t answer => s.workerStep t answer
  | .disconnectKey t =>
    if (s.workers t).any (fun w => w.pc = .poll) = true then ({ s with threadStop := true }, [])
    else (s, [])
  | .stop => ({ s with stop := true }, [])

/-- The main loop finds a Bluetooth controller and starts a thread for it. -/
def startEvents : List RunEvent :=
  [.main none, .main none, .main (some .bluetooth), .main none]

/-! ### What a step can do -/

/-- The control flow of `operator()`. -/
inductive ControllerPc.Next : ControllerPc → ControllerPc → Prop
  | enter : Next .entry .checkStop
  | noHandle : Next .entry .returned
  | goOn : Next .checkStop .poll
  | stopped : Next .checkStop .clearThread
  | fetched : Next .poll .poll
  | drained : Next .poll .checkTimeout
  | alive : Next .checkTimeout .checkStop
  | timedOut : Next .checkTimeout .clearThread
  | cleared : Next .clearThread .resetLastTp
  | reset : Next .resetLastTp .disconnect
  | closed : Next .disconnect .clearMove
  | moved : Next .clearMove .onDisconnect
  | notified : Next .onDisconnect .returned

/-- A statement of the thread `t` takes it on to `pc`. -/
structure WorkerMoves (s : RunState) (t : ℕ) (w : Worker) (pc : ControllerPc) (s' : RunState) :
    Prop where
  worker : s.workers t = some w
  next : w.pc.Next pc
  noHandle : w.pc = .entry → pc = .returned → (s.slots w.slot).move = none
  workers : s'.workers = Function.update s.workers t (some { w with pc := pc })
  thread : ∀ c, (s'.slots c).thread =
    if c = w.slot ∧ w.pc = .clearThread then none else (s.slots c).thread
  move : ∀ c, (s'.slots c).move =
    if c = w.slot ∧ w.pc = .clearMove then none else (s.slots c).move
  started : s'.started = s.started
  opened : s'.opened = s.opened
  sessions : s'.sessions = s.sessions
  main : s'.pc = s.pc

/-- A statement that leaves the slots alone. -/
theorem workerMoves_goto {s : RunState} {t : ℕ} {w : Worker} {pc : ControllerPc} (b : Bool)
    (hw : s.workers t = some w) (hnext : w.pc.Next pc)
    (hmove : w.pc = .entry → pc = .returned → (s.slots w.slot).move = none)
    (hthread : w.pc ≠ .clearThread) (hclear : w.pc ≠ .clearMove) :
    WorkerMoves s t w pc ({ s with threadStop := b }.goto t w pc) where
  worker := hw
  next := hnext
  noHandle := hmove
  workers := rfl
  thread c := by rw [if_neg fun h => hthread h.2]; rfl
  move c := by rw [if_neg fun h => hclear h.2]; rfl
  started := rfl
  opened := rfl
  sessions := rfl
  main := rfl

/-- A statement that replaces the slot of the thread. -/
theorem workerMoves_setSlot {s : RunState} {t : ℕ} {w : Worker} {pc : ControllerPc}
    (slot : Slot ℕ) (hw : s.workers t = some w) (hnext : w.pc.Next pc) (hentry : w.pc ≠ .entry)
    (hthread : slot.thread = if w.pc = .clearThread then none else (s.slots w.slot).thread)
    (hmove : slot.move = if w.pc = .clearMove then none else (s.slots w.slot).move) :
    WorkerMoves s t w pc ((s.setSlot w.slot slot).goto t w pc) where
  worker := hw
  next := hnext
  noHandle h := absurd h hentry
  workers := rfl
  thread c := by
    simp only [RunState.goto, RunState.setSlot]
    by_cases hc : c = w.slot
    · subst hc
      rw [Function.update_self, hthread]
      simp only [true_and]
    · rw [Function.update_of_ne hc, if_neg fun h => hc h.1]
  move c := by
    simp only [RunState.goto, RunState.setSlot]
    by_cases hc : c = w.slot
    · subst hc
      rw [Function.update_self, hmove]
      simp only [true_and]
    · rw [Function.update_of_ne hc, if_neg fun h => hc h.1]
  started := rfl
  opened := rfl
  sessions := rfl
  main := rfl

theorem ControllerPc.Next.attached {pc pc' : ControllerPc} (h : pc.Next pc')
    (ha : pc'.attached = true) : pc.attached = true ∧ pc ≠ .clearThread := by
  cases h with
  | cleared => exact absurd ha Bool.false_ne_true
  | _ => first | exact ⟨rfl, ControllerPc.noConfusion⟩ | exact absurd ha Bool.false_ne_true

/-- What a thread does with its handle at a statement. -/
def handleActions (s : RunState) (t : ℕ) (w : Worker) : List HandleAction :=
  let handle := (s.slots w.slot).move.map PSMove.handle
  if w.pc = .poll then [.polled t handle]
  else if w.pc = .disconnect then [.closed (some t) handle]
  else []

/-- A thread that has not returned makes a step. -/
theorem workerStep_spec (s : RunState) (t : ℕ) (answer : Bool) :
    s.workerStep t answer = (s, []) ∨
      ∃ w pc, WorkerMoves s t w pc (s.workerStep t answer).1 ∧
        (s.workerStep t answer).2 = handleActions s t w := by
  cases hw : s.workers t with
  | none =>
    left
    simp only [RunState.workerStep, hw]
  | some w =>
    obtain ⟨slot, handle, session, pc⟩ := w
    simp only [RunState.workerStep, hw]
    cases pc with
    | entry =>
      right
      refine ⟨_, _, workerMoves_goto s.threadStop hw ?_ ?_ nofun nofun, rfl⟩
      · split_ifs
        · exact .noHandle
        · exact .enter
      · intro _ hret
        split_ifs at hret with hmove
        exact hmove
    | checkStop =>
      right
      refine ⟨_, _, workerMoves_goto s.threadStop hw ?_ nofun nofun nofun, rfl⟩
      split_ifs
      · exact .stopped
      · exact .goOn
    | poll =>
      right
      refine ⟨_, _, workerMoves_goto s.threadStop hw ?_ nofun nofun nofun, rfl⟩
      split_ifs
      · exact .fetched
      · exact .drained
    | checkTimeout =>
      right
      refine ⟨_, _, workerMoves_goto s.threadStop hw ?_ nofun nofun nofun, rfl⟩
      split_ifs
      · exact .timedOut
      · exact .alive
    | clearThread =>
      -- the two statements that change the slot
      right
      exact ⟨_, _, workerMoves_setSlot _ hw .cleared nofun rfl rfl, rfl⟩
    | resetLastTp =>
      right
      exact ⟨_, _, workerMoves_goto s.threadStop hw .reset nofun nofun nofun, rfl⟩
    | disconnect =>
      right
      exact ⟨_, _, workerMoves_goto s.threadStop hw .closed nofun nofun nofun, rfl⟩
    | clearMove =>
      right
      exact ⟨_, _, workerMoves_setSlot _ hw .moved nofun rfl rfl, rfl⟩
    | onDisconnect =>
      right
      exact ⟨_, _, workerMoves_goto true hw .notified nofun nofun nofun, rfl⟩
    | returned => exact Or.inl rfl

/-- A thread after the statement is the thread that made it, or another one as it was. -/
theorem WorkerMoves.cases {s s' : RunState} {t : ℕ} {w : Worker} {pc : ControllerPc}
    (hm : WorkerMoves s t w pc s') {t' : ℕ} {w' : Worker} (hw' : s'.workers t' = some w') :
    (t' = t ∧ w' = { w with pc := pc }) ∨ (t' ≠ t ∧ s.workers t' = some w') := by
  rw [hm.workers] at hw'
  by_cases ht : t' = t
  · left
    subst ht
    rw [Function.update_self] at hw'
    exact ⟨rfl, (Option.some.inj hw').symm⟩
  · right
    rw [Function.update_of_ne ht] at hw'
    exact ⟨ht, hw'⟩

/-- The same for a start. -/
theorem startThread_cases (psmoveId : ℕ) {s : RunState} {c : ControllerId} {move : PSMove} {t : ℕ}
    {w : Worker} (hw : (s.startThread c psmoveId move).workers t = some w) :
    (t = s.started ∧ w = ⟨c, move.handle, s.sessions, .entry⟩) ∨
      (t ≠ s.started ∧ s.workers t = some w) := by
  simp only [RunState.startThread] at hw
  by_cases ht : t = s.started
  · left
    subst ht
    rw [Function.update_self] at hw
    exact ⟨rfl, (Option.some.inj hw).symm⟩
  · right
    rw [Function.update_of_ne ht] at hw
    exact ⟨ht, hw⟩

/-- A step that starts no thread and changes no slot. -/
structure SameThreads (s s' : RunState) : Prop where
  slots : s'.slots = s.slots
  workers : s'.workers = s.workers
  started : s'.started = s.started

/-- A statement of `run` touches neither handles nor threads, has a handle answered, which it keeps
or closes, or starts a thread. -/
inductive MainMoves (s s' : RunState) (es : List HandleAction) : Prop
  | quiet (same : SameThreads s s') (opened : s'.opened = s.opened)
      (device : ∀ psmoveId move, s'.pc ≠ .handleNewDevice psmoveId move) (silent : es = [])
  | connected (psmoveId : ℕ) (move : PSMove) (same : SameThreads s s')
      (opened : s'.opened = s.opened + 1) (device : s'.pc = .handleNewDevice psmoveId move)
      (handle : move.handle = s.opened) (silent : es = [])
  | refused (same : SameThreads s s') (opened : s'.opened = s.opened + 1)
      (device : ∀ psmoveId move, s'.pc ≠ .handleNewDevice psmoveId move)
      (closed : es = [] ∨ es = [.closed none none] ∨ es = [.closed none (some s.opened)])
  | starts (psmoveId : ℕ) (move : PSMove) (c : ControllerId)
      (device : s.pc = .handleNewDevice psmoveId move) (slot : handleNewDevice s.running = some c)
      (state : s' = { s.startThread c psmoveId move with pc := .stopCheck })
      (started : es = [.started s.started move.handle])

theorem mainStep_moves (s : RunState) (answer : Option ConnectionType) :
    MainMoves s (s.mainStep answer).1 (s.mainStep answer).2 := by
  have hsame : SameThreads s s := ⟨rfl, rfl, rfl⟩
  cases hpc : s.pc with
  | stopCheck =>
    simp only [RunState.mainStep, hpc]
    split_ifs
    all_goals exact .quiet ⟨rfl, rfl, rfl⟩ rfl nofun rfl
  | join c =>
    simp only [RunState.mainStep, hpc]
    cases (s.slots c).thread with
    | none =>
      refine .quiet ⟨rfl, rfl, rfl⟩ rfl ?_ rfl
      cases c <;> exact nofun
    | some t => exact .quiet ⟨rfl, rfl, rfl⟩ rfl nofun rfl
  | joinWait c t =>
    simp only [RunState.mainStep, hpc]
    split_ifs
    · refine .quiet ⟨rfl, rfl, rfl⟩ rfl ?_ rfl
      cases c <;> exact nofun
    · refine .quiet hsame rfl ?_ rfl
      rw [hpc]
      exact nofun
  | testStop =>
    simp only [RunState.mainStep, hpc]
    split_ifs
    all_goals exact .quiet ⟨rfl, rfl, rfl⟩ rfl nofun rfl
  | clearStop =>
    simp only [RunState.mainStep, hpc]
    exact .quiet ⟨rfl, rfl, rfl⟩ rfl nofun rfl
  | raise =>
    simp only [RunState.mainStep, hpc]
    exact .quiet ⟨rfl, rfl, rfl⟩ rfl nofun rfl
  | isFullCapacity =>
    simp only [RunState.mainStep, hpc]
    split_ifs
    all_goals exact .quiet ⟨rfl, rfl, rfl⟩ rfl nofun rfl
  | connect psmoveId =>
    simp only [RunState.mainStep, hpc]
    by_cases hid : psmoveId < maxControllers
    · simp only [if_pos hid]
      cases hconnect : connectIteration s.running s.psmoveIds psmoveId
        (answer.map fun connection => ⟨s.opened, connection⟩) with
      | some move =>
        refine .connected psmoveId move ⟨rfl, rfl, rfl⟩ rfl rfl ?_ rfl
        obtain ⟨connection, -, rfl⟩ := Option.map_eq_some_iff.mp (connectIteration_answer hconnect)
        rfl
      | none =>
        refine .refused ⟨rfl, rfl, rfl⟩ rfl nofun ?_
        dsimp only
        split_ifs
        · -- the handle of another kind of controller, or no handle at all
          cases answer with
          | none => exact Or.inr (Or.inl rfl)
          | some connection => exact Or.inr (Or.inr rfl)
        · exact Or.inl rfl
    · simp only [if_neg hid]
      exact .quiet ⟨rfl, rfl, rfl⟩ rfl nofun rfl
  | handleNewDevice psmoveId move =>
    simp only [RunState.mainStep, hpc]
    cases hc : handleNewDevice s.running with
    | none => exact .quiet ⟨rfl, rfl, rfl⟩ rfl nofun rfl
    | some c => exact .starts psmoveId move c hpc hc rfl rfl
  | halted =>
    simp only [RunState.mainStep, hpc]
    refine .quiet hsame rfl ?_ rfl
    rw [hpc]
    exact nofun

/-! ### Threads and their slots -/

/-- A thread that has not cleared `thread_` is the one that its slot refers to. -/
structure RunState.Attached (s : RunState) : Prop where
  fresh : ∀ t, s.started ≤ t → s.workers t = none
  thread : ∀ t w, s.workers t = some w → w.pc.attached = true →
    (s.slots w.slot).thread = some t

theorem attached_init : RunState.init.Attached where
  fresh _ _ := rfl
  thread _ _ h := by cases h

theorem RunState.Attached.keep {s s' : RunState} (h : s.Attached) (hsame : SameThreads s s') :
    s'.Attached := by
  constructor
  · rw [hsame.started, hsame.workers]
    exact h.fresh
  · rw [hsame.slots, hsame.workers]
    exact h.thread

theorem RunState.Attached.lt_started {s : RunState} (h : s.Attached) {t : ℕ} {w : Worker}
    (hw : s.workers t = some w) : t < s.started := by
  by_contra hle
  have hnone := h.fresh t (not_lt.mp hle)
  rw [hw] at hnone
  cases hnone

theorem RunState.Attached.moves {s s' : RunState} {t : ℕ} {w : Worker} {pc : ControllerPc}
    (h : s.Attached) (hm : WorkerMoves s t w pc s') : s'.Attached := by
  constructor
  · intro t' ht'
    rw [hm.started] at ht'
    have hne : t' ≠ t := by
      have hlt := h.lt_started hm.worker
      omega
    rw [hm.workers, Function.update_of_ne hne]
    exact h.fresh t' ht'
  · intro t' w' hw' ha
    rcases hm.cases hw' with ⟨rfl, rfl⟩ | ⟨ht, hw'⟩
    · obtain ⟨hattached, hclear⟩ := hm.next.attached ha
      rw [hm.thread, if_neg fun hc => hclear hc.2]
      exact h.thread t' w hm.worker hattached
    · have hown := h.thread t' w' hw' ha
      rw [hm.thread]
      split_ifs with hclear
      · -- the slot would refer to both threads
        have hother : (s.slots w.slot).thread = some t := by
          apply h.thread t w hm.worker
          rw [hclear.2]
          rfl
        rw [hclear.1, hother] at hown
        exact absurd (Option.some.inj hown).symm ht
      · exact hown

/-- The slot of the new thread had none, so no other thread is attached to it. -/
theorem RunState.Attached.start {s : RunState} (h : s.Attached) {c : ControllerId}
    (hfree : s.running c = false) (psmoveId : ℕ) (move : PSMove) (pc : RunPc) :
    ({ s.startThread c psmoveId move with pc := pc } : RunState).Attached := by
  have hslot := Slot.start_free hfree c psmoveId move s.started
  constructor
  · intro t ht
    have hlt : s.started < t := ht
    simp only [startThread]
    rw [Function.update_of_ne (ne_of_gt hlt)]
    exact h.fresh t hlt.le
  · intro t w hw ha
    rcases startThread_cases psmoveId hw with ⟨rfl, rfl⟩ | ⟨_, hw⟩
    · simp only [startThread]
      rw [Function.update_self, hslot]
    · have hown := h.thread t w hw ha
      have hne : w.slot ≠ c := by
        intro hc
        rw [hc] at hown
        have hsome : s.running c = true := by
          rw [RunState.running, Slot.running, hown]
          rfl
        rw [hfree] at hsome
        exact absurd hsome (by decide)
      simp only [startThread]
      rw [Function.update_of_ne hne]
      exact hown

/-- Some thread of the slot is at a statement of the given kind. -/
def RunState.anyThread (s : RunState) (c : ControllerId) (kind : ControllerPc → Bool) : Bool :=
  (List.range s.started).any fun t => (s.workers t).any fun w => w.slot = c && kind w.pc

theorem RunState.Attached.anyThread_false {s : RunState} (h : s.Attached) {c : ControllerId}
    {kind : ControllerPc → Bool} (hnone : s.anyThread c kind = false) {t : ℕ} {w : Worker}
    (hw : s.workers t = some w) (hc : w.slot = c) : kind w.pc = false := by
  have hlt := h.lt_started hw
  have hthread := List.any_eq_false.mp hnone t (List.mem_range.mpr hlt)
  rw [hw] at hthread
  simpa [hc] using hthread

end PSMoveInput

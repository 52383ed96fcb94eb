import PSMoveInput.ListenerThreads

/-! The stop check of `PSMoveListener::run`. A join waits for the thread that its slot refers to,
and misses a thread that has cleared `thread_` already. -/
namespace PSMoveInput

open Transducer

/-- The slots that the stop check has joined. -/
def RunPc.joined : RunPc → ControllerId → Prop
  | .join .second, c => c = .first
  | .joinWait .second _, c => c = .first
  | .testStop, _ => True
  | .clearStop, _ => True
  | .raise, _ => True
  | _, _ => False

/-- When the main loop joins a slot, no thread of the slot is between the statement that clears
`thread_` and its return. -/
def joinsSettled (s : RunState) : RunEvent → Bool
  | .main _ =>
    match s.pc with
    | .join c => !s.anyThread c ControllerPc.leaving
    | _ => true
  | _ => true

/-- The threads of a joined slot have returned, and those that have not returned were started
after the last reset. -/
structure RunState.Settled (s : RunState) : Prop where
  attached : s.Attached
  joined : ∀ c, s.pc.joined c → ∀ t w, s.workers t = some w → w.slot = c → w.pc = .returned
  waiting : ∀ c t, s.pc = .joinWait c t → ∀ t' w, s.workers t' = some w → w.slot = c →
    w.pc ≠ .returned → t' = t
  session : ∀ t w, s.workers t = some w → w.pc ≠ .returned → w.session = s.sessions

theorem settled_init : RunState.init.Settled where
  attached := attached_init
  joined _ h := h.elim
  waiting _ _ h := by cases h
  session _ _ h := by cases h

theorem ControllerPc.Next.not_returned {pc pc' : ControllerPc} (h : pc.Next pc') :
    pc ≠ .returned := by
  cases h <;> decide

theorem RunState.Settled.moves {s s' : RunState} {t : ℕ} {w : Worker} {pc : ControllerPc}
    (h : s.Settled) (hm : WorkerMoves s t w pc s') : s'.Settled := by
  have hactive : w.pc ≠ .returned := hm.next.not_returned
  constructor
  · exact h.attached.moves hm
  · intro c hc t' w' hw' hslot
    rw [hm.main] at hc
    rcases hm.cases hw' with ⟨rfl, rfl⟩ | ⟨_, hw'⟩
    · -- a thread of a joined slot does not move
      exact absurd (h.joined c hc t' w hm.worker hslot) hactive
    · exact h.joined c hc t' w' hw' hslot
  · intro c t₀ hpc t' w' hw' hslot hret
    rw [hm.main] at hpc
    rcases hm.cases hw' with ⟨rfl, rfl⟩ | ⟨_, hw'⟩
    · exact h.waiting c t₀ hpc t' w hm.worker hslot hactive
    · exact h.waiting c t₀ hpc t' w' hw' hslot hret
  · intro t' w' hw' hret
    rw [hm.sessions]
    rcases hm.cases hw' with ⟨rfl, rfl⟩ | ⟨_, hw'⟩
    · exact h.session t' w hm.worker hactive
    · exact h.session t' w' hw' hret

/-- A change of the main loop's own state only. -/
theorem RunState.Settled.keep {s s' : RunState} (h : s.Settled) (hsame : SameThreads s s')
    (hsessions : s'.sessions = s.sessions)
    (hjoined : ∀ c, s'.pc.joined c → ∀ t w, s.workers t = some w → w.slot = c → w.pc = .returned)
    (hwaiting : ∀ c t, s'.pc = .joinWait c t → ∀ t' w, s.workers t' = some w → w.slot = c →
      w.pc ≠ .returned → t' = t) : s'.Settled := by
  constructor
  · exact h.attached.keep hsame
  · rw [hsame.workers]
    exact hjoined
  · rw [hsame.workers]
    exact hwaiting
  · rw [hsame.workers, hsessions]
    exact h.session

/-- Where no slot is joined and no join waits. -/
theorem RunState.Settled.outside {s s' : RunState} (h : s.Settled) (hsame : SameThreads s s')
    (hsessions : s'.sessions = s.sessions) (hjoined : ∀ c, ¬s'.pc.joined c)
    (hwaiting : ∀ c t, s'.pc ≠ .joinWait c t) : s'.Settled := by
  apply h.keep hsame hsessions
  · intro c hc
    exact absurd hc (hjoined c)
  · intro c t hwait
    exact absurd hwait (hwaiting c t)

/-- The main loop has joined one more slot. -/
theorem RunState.Settled.afterJoin {s : RunState} (h : s.Settled) {c : ControllerId}
    (hfirst : c = .second → ∀ t w, s.workers t = some w → w.slot = .first → w.pc = .returned)
    (hslot : ∀ t w, s.workers t = some w → w.slot = c → w.pc = .returned) :
    ({ s with pc := .afterJoin c } : RunState).Settled := by
  cases c with
  | first =>
    refine h.keep ⟨rfl, rfl, rfl⟩ rfl ?_ (by simp [RunPc.afterJoin])
    intro c hc
    obtain rfl : c = .first := hc
    exact hslot
  | second =>
    refine h.keep ⟨rfl, rfl, rfl⟩ rfl ?_ (by simp [RunPc.afterJoin])
    intro c _
    cases c with
    | first => exact hfirst rfl
    | second => exact hslot

/-- Past the joins every thread has returned. -/
theorem RunState.Settled.returned {s : RunState} (h : s.Settled) (hjoined : ∀ c, s.pc.joined c)
    {t : ℕ} {w : Worker} (hw : s.workers t = some w) : w.pc = .returned :=
  h.joined w.slot (hjoined w.slot) t w hw rfl

/-- A join that meets no thread on its way out: a thread of the slot that has not returned is the
one that the slot refers to. -/
theorem RunState.Settled.joins {s : RunState} (h : s.Settled) {c : ControllerId}
    {answer : Option ConnectionType} (hpc : s.pc = .join c)
    (hok : joinsSettled s (.main answer) = true) {t : ℕ} {w : Worker}
    (hw : s.workers t = some w) (hslot : w.slot = c) (hret : w.pc ≠ .returned) :
    (s.slots c).thread = some t := by
  simp only [joinsSettled, hpc, Bool.not_eq_true'] at hok
  have hstays := h.attached.anyThread_false hok hw hslot
  rw [← hslot]
  apply h.attached.thread t w hw
  -- a statement that is neither on the way out nor behind the return comes before the clearing
  revert hstays hret
  cases w.pc <;> decide

/-- The second join comes after the first. -/
theorem RunState.Settled.firstJoined {s : RunState} (h : s.Settled) {c : ControllerId}
    (hpc : s.pc = .join c ∨ ∃ t, s.pc = .joinWait c t) (hc : c = .second) :
    ∀ t w, s.workers t = some w → w.slot = .first → w.pc = .returned := by
  apply h.joined .first
  subst hc
  rcases hpc with hpc | ⟨t, hpc⟩
  · rw [hpc]
    rfl
  · rw [hpc]
    rfl

theorem join_settled {s : RunState} (h : s.Settled) {c : ControllerId} (hpc : s.pc = .join c)
    (answer : Option ConnectionType) (hok : joinsSettled s (.main answer) = true) :
    (s.mainStep answer).1.Settled := by
  have hfirst := h.firstJoined (Or.inl hpc)
  simp only [RunState.mainStep, hpc]
  cases hslot : (s.slots c).thread with
  | none =>
    apply h.afterJoin hfirst
    intro t w hw hc
    by_contra hret
    rw [h.joins hpc hok hw hc hret] at hslot
    cases hslot
  | some t =>
    refine h.keep ⟨rfl, rfl, rfl⟩ rfl ?_ ?_
    · intro c' hc'
      cases c with
      | first => exact hc'.elim
      | second =>
        obtain rfl : c' = .first := hc'
        exact hfirst rfl
    · intro c' t₀ hwait t' w hw hc hret
      obtain ⟨rfl, rfl⟩ := RunPc.joinWait.inj hwait
      rw [h.joins hpc hok hw hc hret] at hslot
      exact Option.some.inj hslot

theorem joinWait_settled {s : RunState} (h : s.Settled) {c : ControllerId} {t : ℕ}
    (hpc : s.pc = .joinWait c t) (answer : Option ConnectionType) :
    (s.mainStep answer).1.Settled := by
  simp only [RunState.mainStep, hpc]
  split_ifs with hfinished
  · apply h.afterJoin (h.firstJoined (Or.inr ⟨t, hpc⟩))
    intro t' w hw hc
    by_contra hret
    -- only the thread that is waited for can still run
    have ht := h.waiting c t hpc t' w hw hc hret
    rw [RunState.finished, ← ht, hw] at hfinished
    exact hret (of_decide_eq_true hfinished)
  · exact h

theorem mainStep_settled (s : RunState) (answer : Option ConnectionType)
    (hok : joinsSettled s (.main answer) = true) (h : s.Settled) :
    (s.mainStep answer).1.Settled := by
  cases hpc : s.pc with
  | stopCheck =>
    simp only [RunState.mainStep, hpc]
    split_ifs
    all_goals exact h.outside ⟨rfl, rfl, rfl⟩ rfl (by simp [RunPc.joined]) (by simp)
  | join c => exact join_settled h hpc answer hok
  | joinWait c t => exact joinWait_settled h hpc answer
  | testStop =>
    have hall : ∀ c, s.pc.joined c := fun c => by rw [hpc]; trivial
    simp only [RunState.mainStep, hpc]
    split_ifs
    · exact h.outside ⟨rfl, rfl, rfl⟩ rfl (by simp [RunPc.joined]) (by simp)
    · exact h.keep ⟨rfl, rfl, rfl⟩ rfl (fun c _ _ _ hw _ => h.returned hall hw) (by simp)
  | clearStop =>
    have hall : ∀ c, s.pc.joined c := fun c => by rw [hpc]; trivial
    simp only [RunState.mainStep, hpc]
    exact h.keep ⟨rfl, rfl, rfl⟩ rfl (fun c _ _ _ hw _ => h.returned hall hw) (by simp)
  | raise =>
    have hall : ∀ c, s.pc.joined c := fun c => by rw [hpc]; trivial
    simp only [RunState.mainStep, hpc]
    constructor
    · exact h.attached.keep ⟨rfl, rfl, rfl⟩
    · simp [RunPc.joined]
    · simp
    · -- no thread is left that could belong to the session before
      intro t w hw hret
      exact absurd (h.returned hall hw) hret
  | isFullCapacity =>
    simp only [RunState.mainStep, hpc]
    split_ifs
    all_goals exact h.outside ⟨rfl, rfl, rfl⟩ rfl (by simp [RunPc.joined]) (by simp)
  | connect psmoveId =>
    simp only [RunState.mainStep, hpc]
    by_cases hid : psmoveId < maxControllers
    · simp only [if_pos hid]
      cases connectIteration s.running s.psmoveIds psmoveId
        (answer.map fun connection => ⟨s.opened, connection⟩)
      all_goals exact h.outside ⟨rfl, rfl, rfl⟩ rfl (by simp [RunPc.joined]) (by simp)
    · simp only [if_neg hid]
      exact h.outside ⟨rfl, rfl, rfl⟩ rfl (by simp [RunPc.joined]) (by simp)
  | handleNewDevice psmoveId move =>
    simp only [RunState.mainStep, hpc]
    cases hc : handleNewDevice s.running with
    | none => exact h.outside ⟨rfl, rfl, rfl⟩ rfl (by simp [RunPc.joined]) (by simp)
    | some c =>
      constructor
      · exact h.attached.start (handleNewDevice_free hc) psmoveId move .stopCheck
      · simp [RunPc.joined]
      · simp
      · intro t w hw hret
        rcases startThread_cases psmoveId hw with ⟨-, rfl⟩ | ⟨-, hw⟩
        · rfl
        · exact h.session t w hw hret
  | halted =>
    simp only [RunState.mainStep, hpc]
    exact h

theorem step_settled (s : RunState) (ev : RunEvent) (hok : joinsSettled s ev = true)
    (h : s.Settled) : (s.step ev).1.Settled := by
  cases ev with
  | main answer => exact mainStep_settled s answer hok h
  | worker t answer =>
    simp only [RunState.step]
    rcases workerStep_spec s t answer with hstay | ⟨w, pc, hm, -⟩
    · rw [hstay]
      exact h
    · exact h.moves hm
  | disconnectKey t =>
    simp only [RunState.step]
    split_ifs
    · exact h.keep ⟨rfl, rfl, rfl⟩ rfl h.joined h.waiting
    · exact h
  | stop => exact h.keep ⟨rfl, rfl, rfl⟩ rfl h.joined h.waiting

/-- If no join meets a thread on its way out, the handler is reset with no thread left, and the
threads that still run were started after the last reset. -/
theorem handler_reset_alone (evs : List RunEvent)
    (hjoins : Along RunState.step (fun s ev => joinsSettled s ev = true) .init evs) :
    let s := (run RunState.step .init evs).1
    (s.pc = .clearStop ∨ s.pc = .raise → ∀ t w, s.workers t = some w → w.pc = .returned) ∧
      ∀ t w, s.workers t = some w → w.pc ≠ .returned → w.session = s.sessions := by
  intro s
  have hsettled : s.Settled := by
    apply run_invariant_along RunState.step (fun s ev => joinsSettled s ev = true) RunState.Settled
    · exact step_settled
    · exact settled_init
    · exact hjoins
  refine ⟨?_, hsettled.session⟩
  intro hpc t w hw
  apply hsettled.returned _ hw
  intro c
  rcases hpc with hpc | hpc
  · rw [hpc]
    trivial
  · rw [hpc]
    trivial

/-- The first thread signals its disconnect key and leaves its loop, up to the statement that
clears `thread_`. -/
def leaveEvents : List RunEvent :=
  [.worker 0 false, .worker 0 false, .disconnectKey 0, .worker 0 false, .worker 0 false,
   .worker 0 false, .worker 0 false]

/-- Its remaining statements. -/
def cleanUpEvents : List RunEvent := List.replicate 4 (.worker 0 false)

/-- The stop check, up to the statement that clears `threadStop_`. -/
def joinEvents : List RunEvent := List.replicate 4 (.main none)

/-- The thread returns before the joins. -/
theorem handler_reset_alone_returned :
    let s := (run RunState.step .init
      (startEvents ++ leaveEvents ++ cleanUpEvents ++ joinEvents)).1
    s.pc = .clearStop ∧ ∀ t w, s.workers t = some w → w.pc = .returned := by
  have hpc : (run RunState.step .init
      (startEvents ++ leaveEvents ++ cleanUpEvents ++ joinEvents)).1.pc = .clearStop := by
    decide +kernel
  have h := handler_reset_alone (startEvents ++ leaveEvents ++ cleanUpEvents ++ joinEvents)
    (by decide +kernel)
  exact ⟨hpc, h.1 (Or.inl hpc)⟩

/-- The joins come first: the handler is reset while the thread is on its way out. Its
notification then stops the thread that is started after the reset. -/
theorem join_misses_leaving_thread :
    let s := (run RunState.step .init (startEvents ++ leaveEvents ++ joinEvents)).1
    let s' := (run RunState.step s
      (List.replicate 3 (.main none) ++ [.main (some .bluetooth), .main none])).1
    let s'' := (run RunState.step s' cleanUpEvents).1
    s.pc = .clearStop ∧ s.workers 0 = some ⟨.first, 0, 0, .resetLastTp⟩ ∧
      s'.threadStop = false ∧ s'.workers 1 = some ⟨.first, 1, 1, .entry⟩ ∧
      s''.threadStop = true := by
  decide +kernel

end PSMoveInput

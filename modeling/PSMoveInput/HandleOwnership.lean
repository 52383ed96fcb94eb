import PSMoveInput.ListenerThreads

/-! Who closes the handles of psmoveapi. A thread finds its handle in the slot, where `start` may
have replaced it by the handle of the next thread. -/
namespace PSMoveInput

open Transducer

/-- A slot is given to a new thread only after the old one has cleared `move_`. -/
def startsSettled (s : RunState) : RunEvent → Bool
  | .main _ =>
    match s.pc with
    | .handleNewDevice _ _ =>
      match handleNewDevice s.running with
      | some c => !s.anyThread c ControllerPc.closing
      | none => true
    | _ => true
  | _ => true

/-- The statements up to the one that clears `move_`: the thread still relies on its slot. -/
def ControllerPc.holding (pc : ControllerPc) : Bool := pc.attached || pc.closing

theorem ControllerPc.Next.holding {pc pc' : ControllerPc} (h : pc.Next pc')
    (hh : pc'.holding = true) : pc.holding = true ∧ pc ≠ .clearMove := by
  revert hh
  cases h <;> decide

/-! ### Owners -/

/-- Every thread has a handle of its own, which stands in its slot until it clears `move_`. -/
structure RunState.Owned (s : RunState) : Prop where
  attached : s.Attached
  opened : ∀ t w, s.workers t = some w → w.handle < s.opened
  distinct : ∀ t t' w w', s.workers t = some w → s.workers t' = some w' →
    w.handle = w'.handle → t = t'
  device : ∀ psmoveId move, s.pc = .handleNewDevice psmoveId move →
    move.handle < s.opened ∧ ∀ t w, s.workers t = some w → w.handle ≠ move.handle
  slot : ∀ t w, s.workers t = some w → w.pc.holding = true →
    (s.slots w.slot).move.map PSMove.handle = some w.handle
  exclusive : ∀ t t' w w', s.workers t = some w → s.workers t' = some w' →
    w.pc.holding = true → w'.pc.holding = true → w.slot = w'.slot → t = t'

theorem owned_init : RunState.init.Owned where
  attached := attached_init
  opened _ _ h := by cases h
  distinct _ _ _ _ h := by cases h
  device _ _ h := by cases h
  slot _ _ h := by cases h
  exclusive _ _ _ _ h := by cases h

theorem RunState.Owned.keep {s s' : RunState} (h : s.Owned) (hsame : SameThreads s s')
    (hopened : s.opened ≤ s'.opened)
    (hdevice : ∀ psmoveId move, s'.pc = .handleNewDevice psmoveId move →
      move.handle < s'.opened ∧ ∀ t w, s.workers t = some w → w.handle ≠ move.handle) :
    s'.Owned := by
  constructor
  · exact h.attached.keep hsame
  · intro t w hw
    rw [hsame.workers] at hw
    exact lt_of_lt_of_le (h.opened t w hw) hopened
  · rw [hsame.workers]
    exact h.distinct
  · rw [hsame.workers]
    exact hdevice
  · rw [hsame.workers, hsame.slots]
    exact h.slot
  · rw [hsame.workers]
    exact h.exclusive

/-- A thread after a statement of a thread, traced back. -/
theorem WorkerMoves.back {s s' : RunState} {t : ℕ} {w : Worker} {pc : ControllerPc}
    (hm : WorkerMoves s t w pc s') {t' : ℕ} {w' : Worker} (hw' : s'.workers t' = some w') :
    ∃ w₀, s.workers t' = some w₀ ∧ w₀.slot = w'.slot ∧ w₀.handle = w'.handle ∧
      (w'.pc.holding = true → w₀.pc.holding = true) := by
  rcases hm.cases hw' with ⟨rfl, rfl⟩ | ⟨-, hw'⟩
  · exact ⟨w, hm.worker, rfl, rfl, fun hh => (hm.next.holding hh).1⟩
  · exact ⟨w', hw', rfl, rfl, id⟩

theorem RunState.Owned.moves {s s' : RunState} {t : ℕ} {w : Worker} {pc : ControllerPc}
    (h : s.Owned) (hm : WorkerMoves s t w pc s') : s'.Owned := by
  constructor
  · exact h.attached.moves hm
  · intro t' w' hw'
    obtain ⟨w₀, hw₀, -, hhandle, -⟩ := hm.back hw'
    rw [hm.opened, ← hhandle]
    exact h.opened t' w₀ hw₀
  · intro t₁ t₂ w₁ w₂ hw₁ hw₂ heq
    obtain ⟨v₁, hv₁, -, hhandle₁, -⟩ := hm.back hw₁
    obtain ⟨v₂, hv₂, -, hhandle₂, -⟩ := hm.back hw₂
    rw [← hhandle₁, ← hhandle₂] at heq
    exact h.distinct t₁ t₂ v₁ v₂ hv₁ hv₂ heq
  · intro psmoveId move hpc
    rw [hm.main] at hpc
    obtain ⟨hlt, hne⟩ := h.device psmoveId move hpc
    rw [hm.opened]
    refine ⟨hlt, ?_⟩
    intro t' w' hw'
    obtain ⟨w₀, hw₀, -, hhandle, -⟩ := hm.back hw'
    rw [← hhandle]
    exact hne t' w₀ hw₀
  · intro t' w' hw' hh
    rw [hm.move]
    rcases hm.cases hw' with ⟨rfl, rfl⟩ | ⟨ht, hw'⟩
    · obtain ⟨hbefore, hclear⟩ := hm.next.holding hh
      rw [if_neg fun hc => hclear hc.2]
      exact h.slot t' w hm.worker hbefore
    · split_ifs with hclear
      · -- two threads would rely on the same slot
        have hmover : w.pc.holding = true := by
          rw [hclear.2]
          rfl
        exact absurd (h.exclusive t' t w' w hw' hm.worker hh hmover hclear.1) ht
      · exact h.slot t' w' hw' hh
  · intro t₁ t₂ w₁ w₂ hw₁ hw₂ hh₁ hh₂ hslot
    obtain ⟨v₁, hv₁, hslot₁, -, hback₁⟩ := hm.back hw₁
    obtain ⟨v₂, hv₂, hslot₂, -, hback₂⟩ := hm.back hw₂
    rw [← hslot₁, ← hslot₂] at hslot
    exact h.exclusive t₁ t₂ v₁ v₂ hv₁ hv₂ (hback₁ hh₁) (hback₂ hh₂) hslot

/-- A start in a slot on which no thread relies. -/
theorem RunState.Owned.start {s : RunState} (h : s.Owned) {psmoveId : ℕ} {move : PSMove}
    (hpc : s.pc = .handleNewDevice psmoveId move) {c : ControllerId}
    (hfree : s.running c = false)
    (hsettled : s.anyThread c ControllerPc.closing = false) :
    ({ s.startThread c psmoveId move with pc := .stopCheck } : RunState).Owned := by
  obtain ⟨hlt, hne⟩ := h.device psmoveId move hpc
  have hslot := Slot.start_free hfree c psmoveId move s.started
  have hothers : ∀ t w, s.workers t = some w → w.pc.holding = true → w.slot ≠ c := by
    intro t w hw hh hc
    have hclosing := h.attached.anyThread_false hsettled hw hc
    rw [ControllerPc.holding, hclosing, Bool.or_false] at hh
    -- an attached thread makes its slot running
    have hthread := h.attached.thread t w hw hh
    rw [hc] at hthread
    rw [RunState.running, Slot.running, hthread] at hfree
    cases hfree
  constructor
  · exact h.attached.start hfree psmoveId move .stopCheck
  · intro t w hw
    rcases startThread_cases psmoveId hw with ⟨-, rfl⟩ | ⟨-, hw⟩
    · exact hlt
    · exact h.opened t w hw
  · intro t₁ t₂ w₁ w₂ hw₁ hw₂ heq
    rcases startThread_cases psmoveId hw₁ with ⟨rfl, rfl⟩ | ⟨-, hw₁⟩
    · rcases startThread_cases psmoveId hw₂ with ⟨rfl, -⟩ | ⟨-, hw₂⟩
      · rfl
      · exact absurd heq.symm (hne t₂ w₂ hw₂)
    · rcases startThread_cases psmoveId hw₂ with ⟨rfl, rfl⟩ | ⟨-, hw₂⟩
      · exact absurd heq (hne t₁ w₁ hw₁)
      · exact h.distinct t₁ t₂ w₁ w₂ hw₁ hw₂ heq
  · intro _ _ hdevice
    cases hdevice
  · intro t w hw hh
    simp only [startThread]
    rcases startThread_cases psmoveId hw with ⟨-, rfl⟩ | ⟨-, hw⟩
    · rw [Function.update_self, hslot]
      rfl
    · rw [Function.update_of_ne (hothers t w hw hh)]
      exact h.slot t w hw hh
  · intro t₁ t₂ w₁ w₂ hw₁ hw₂ hh₁ hh₂ heq
    rcases startThread_cases psmoveId hw₁ with ⟨rfl, rfl⟩ | ⟨-, hw₁⟩
    · rcases startThread_cases psmoveId hw₂ with ⟨rfl, -⟩ | ⟨-, hw₂⟩
      · rfl
      · exact absurd heq.symm (hothers t₂ w₂ hw₂ hh₂)
    · rcases startThread_cases psmoveId hw₂ with ⟨rfl, rfl⟩ | ⟨-, hw₂⟩
      · exact absurd heq (hothers t₁ w₁ hw₁ hh₁)
      · exact h.exclusive t₁ t₂ w₁ w₂ hw₁ hw₂ hh₁ hh₂ heq

theorem startsSettled_slot {s : RunState} {answer : Option ConnectionType}
    (hok : startsSettled s (.main answer) = true) {psmoveId : ℕ} {move : PSMove}
    (hpc : s.pc = .handleNewDevice psmoveId move) {c : ControllerId}
    (hc : handleNewDevice s.running = some c) :
    s.anyThread c ControllerPc.closing = false := by
  simp only [startsSettled, hpc, hc, Bool.not_eq_true'] at hok
  exact hok

theorem step_owned (s : RunState) (ev : RunEvent) (hok : startsSettled s ev = true)
    (h : s.Owned) : (s.step ev).1.Owned := by
  cases ev with
  | main answer =>
    simp only [RunState.step]
    cases mainStep_moves s answer with
    | quiet same opened device =>
      apply h.keep same (le_of_eq opened.symm)
      intro psmoveId move hpc
      exact absurd hpc (device psmoveId move)
    | connected psmoveId move same opened device handle =>
      apply h.keep same (by omega)
      intro psmoveId' move' hpc
      rw [device] at hpc
      obtain ⟨rfl, rfl⟩ := RunPc.handleNewDevice.inj hpc
      refine ⟨by omega, ?_⟩
      -- the new handle comes after those of all threads
      intro t w hw
      have hlt := h.opened t w hw
      omega
    | refused same opened device =>
      apply h.keep same (by omega)
      intro psmoveId move hpc
      exact absurd hpc (device psmoveId move)
    | starts psmoveId move c device slot state =>
      rw [state]
      exact h.start device (handleNewDevice_free slot) (startsSettled_slot hok device slot)
  | worker t answer =>
    simp only [RunState.step]
    rcases workerStep_spec s t answer with hstay | ⟨w, pc, hm, -⟩
    · rw [hstay]
      exact h
    · exact h.moves hm
  | disconnectKey t =>
    simp only [RunState.step]
    split_ifs
    · exact h.keep ⟨rfl, rfl, rfl⟩ le_rfl h.device
    · exact h
  | stop => exact h.keep ⟨rfl, rfl, rfl⟩ le_rfl h.device

/-! ### Slots with a thread -/

/-- The thread that a slot refers to has not cleared `thread_`. -/
structure RunState.Manned (s : RunState) : Prop where
  owned : s.Owned
  occupied : ∀ c t, (s.slots c).thread = some t →
    ∃ w, s.workers t = some w ∧ w.slot = c ∧ w.pc.attached = true

theorem manned_init : RunState.init.Manned where
  owned := owned_init
  occupied _ _ h := by cases h

/-- The slot holds a handle, so the function does not return at its entry. -/
theorem RunState.Owned.enters {s s' : RunState} {t : ℕ} {w : Worker} {pc : ControllerPc}
    (h : s.Owned) (hm : WorkerMoves s t w pc s') : ¬(w.pc = .entry ∧ pc = .returned) := by
  rintro ⟨hentry, hret⟩
  have hnone := hm.noHandle hentry hret
  have hheld := h.slot t w hm.worker (by rw [hentry]; rfl)
  rw [hnone] at hheld
  cases hheld

/-- A thread leaves its slot with the statement that clears `thread_`. -/
theorem RunState.Manned.moves {s s' : RunState} {t : ℕ} {w : Worker} {pc : ControllerPc}
    (h : s.Manned) (hm : WorkerMoves s t w pc s') : s'.Manned := by
  refine ⟨h.owned.moves hm, ?_⟩
  intro c t' hthread
  rw [hm.thread] at hthread
  split_ifs at hthread with hclear
  obtain ⟨w', hw', hslot, ha⟩ := h.occupied c t' hthread
  rw [hm.workers]
  by_cases ht : t' = t
  · -- the thread that the slot refers to has moved
    subst ht
    obtain rfl : w' = w := Option.some.inj (hw'.symm.trans hm.worker)
    refine ⟨_, Function.update_self .., hslot, ?_⟩
    have hstays : w'.pc ≠ .clearThread := fun hpc => hclear ⟨hslot.symm, hpc⟩
    have hhandle := h.owned.enters hm
    have hnext := hm.next
    revert ha hstays hhandle hnext
    dsimp only
    generalize w'.pc = pc₀
    intro ha hstays hhandle hnext
    cases hnext with
    | noHandle => exact absurd ⟨rfl, rfl⟩ hhandle
    | cleared => exact absurd rfl hstays
    | _ => first | rfl | exact absurd ha Bool.false_ne_true
  · rw [Function.update_of_ne ht]
    exact ⟨w', hw', hslot, ha⟩

theorem step_manned (s : RunState) (ev : RunEvent) (hok : startsSettled s ev = true)
    (h : s.Manned) : (s.step ev).1.Manned := by
  have howned := step_owned s ev hok h.owned
  have hkeep {s' : RunState} (hsame : SameThreads s s') : ∀ c t, (s'.slots c).thread = some t →
      ∃ w, s'.workers t = some w ∧ w.slot = c ∧ w.pc.attached = true := by
    rw [hsame.slots, hsame.workers]
    exact h.occupied
  cases ev with
  | main answer =>
    refine ⟨howned, ?_⟩
    simp only [RunState.step]
    cases mainStep_moves s answer with
    | quiet same => exact hkeep same
    | connected psmoveId move same => exact hkeep same
    | refused same => exact hkeep same
    | starts psmoveId move c device slot state =>
      rw [state]
      intro c' t hthread
      have hslot := Slot.start_free (handleNewDevice_free slot) c psmoveId move s.started
      simp only [RunState.startThread] at hthread ⊢
      by_cases hc : c' = c
      · subst hc
        rw [Function.update_self, hslot] at hthread
        obtain rfl : s.started = t := Option.some.inj hthread
        exact ⟨_, Function.update_self .., rfl, rfl⟩
      · rw [Function.update_of_ne hc] at hthread
        obtain ⟨w, hw, hwslot, ha⟩ := h.occupied c' t hthread
        have hne : t ≠ s.started := ne_of_lt (h.owned.attached.lt_started hw)
        rw [Function.update_of_ne hne]
        exact ⟨w, hw, hwslot, ha⟩
  | worker t answer =>
    simp only [RunState.step]
    rcases workerStep_spec s t answer with hstay | ⟨w, pc, hm, -⟩
    · rw [hstay]
      exact h
    · exact h.moves hm
  | disconnectKey t =>
    refine ⟨howned, hkeep ?_⟩
    simp only [RunState.step]
    split_ifs <;> exact ⟨rfl, rfl, rfl⟩
  | stop => exact ⟨howned, hkeep ⟨rfl, rfl, rfl⟩⟩

/-! ### The history of the handles -/

/-- Who passes the handle to `psmove_disconnect`, call by call. -/
def closers (handle : ℕ) (es : List HandleAction) : List (Option ℕ) :=
  es.filterMap fun
    | .closed thread (some h) => if h = handle then some thread else none
    | _ => none

theorem closers_append (handle : ℕ) (es fs : List HandleAction) :
    closers handle (es ++ fs) = closers handle es ++ closers handle fs :=
  List.filterMap_append

/-- What the actions so far say about the threads and handles of the state. -/
structure Recorded (s : RunState) (es : List HandleAction) : Prop where
  unopened : ∀ h, s.opened ≤ h → closers h es = []
  device : ∀ psmoveId move, s.pc = .handleNewDevice psmoveId move → closers move.handle es = []
  closed : ∀ t w, s.workers t = some w →
    closers w.handle es = if w.pc.hasClosed = true then [some t] else []
  polled : ∀ t handle, .polled t handle ∈ es →
    ∃ w, s.workers t = some w ∧ handle = some w.handle
  started : ∀ t handle, .started t handle ∈ es →
    ∃ w, s.workers t = some w ∧ w.handle = handle

theorem recorded_init : Recorded .init [] where
  unopened _ _ := rfl
  device _ _ _ := rfl
  closed _ _ h := by cases h
  polled _ _ h := absurd h List.not_mem_nil
  started _ _ h := absurd h List.not_mem_nil

/-- A step of the main loop that starts no thread and closes no handle of a thread. -/
theorem Recorded.keep {s s' : RunState} {es fs : List HandleAction} (h : Recorded s es)
    (hsame : SameThreads s s') (hopened : s.opened ≤ s'.opened)
    (hfresh : ∀ handle, handle < s.opened ∨ s'.opened ≤ handle → closers handle fs = [])
    (howned : s.Owned) (hpolled : ∀ t handle, .polled t handle ∉ fs)
    (hstarted : ∀ t handle, .started t handle ∉ fs)
    (hdevice : ∀ psmoveId move, s'.pc = .handleNewDevice psmoveId move →
      closers move.handle (es ++ fs) = []) : Recorded s' (es ++ fs) := by
  constructor
  · intro handle hle
    rw [closers_append, h.unopened handle (hopened.trans hle), hfresh handle (Or.inr hle)]
    rfl
  · exact hdevice
  · intro t w hw
    rw [hsame.workers] at hw
    rw [closers_append, h.closed t w hw, hfresh w.handle (Or.inl (howned.opened t w hw)),
      List.append_nil]
  · intro t handle hmem
    rw [hsame.workers]
    rcases List.mem_append.mp hmem with hmem | hmem
    · exact h.polled t handle hmem
    · exact absurd hmem (hpolled t handle)
  · intro t handle hmem
    rw [hsame.workers]
    rcases List.mem_append.mp hmem with hmem | hmem
    · exact h.started t handle hmem
    · exact absurd hmem (hstarted t handle)

theorem ControllerPc.Next.hasClosed {pc pc' : ControllerPc} (h : pc.Next pc')
    (hhandle : ¬(pc = .entry ∧ pc' = .returned)) :
    pc'.hasClosed = (pc.hasClosed || decide (pc = .disconnect)) := by
  revert hhandle
  cases h <;> decide

/-- While a thread relies on its slot, it finds its own handle there. -/
theorem RunState.Owned.actions {s : RunState} (h : s.Owned) {t : ℕ} {w : Worker}
    (hw : s.workers t = some w) :
    handleActions s t w =
      if w.pc = .poll then [.polled t (some w.handle)]
      else if w.pc = .disconnect then [.closed (some t) (some w.handle)]
      else [] := by
  simp only [handleActions]
  split_ifs with hpoll hdisconnect
  · have hh : w.pc.holding = true := by
      rw [hpoll]
      rfl
    rw [h.slot t w hw hh]
  · have hh : w.pc.holding = true := by
      rw [hdisconnect]
      rfl
    rw [h.slot t w hw hh]
  · rfl

theorem RunState.Owned.closers_actions {s : RunState} (h : s.Owned) {t : ℕ} {w : Worker}
    (hw : s.workers t = some w) (handle : ℕ) :
    closers handle (handleActions s t w) =
      if w.pc = .disconnect ∧ w.handle = handle then [some t] else [] := by
  rw [h.actions hw]
  by_cases hpoll : w.pc = .poll
  · rw [if_pos hpoll, hpoll]
    rfl
  · by_cases hdisconnect : w.pc = .disconnect
    · rw [if_neg hpoll, if_pos hdisconnect]
      simp only [closers, List.filterMap_cons, List.filterMap_nil, hdisconnect, true_and]
      split_ifs <;> rfl
    · rw [if_neg hpoll, if_neg hdisconnect, if_neg fun hc => hdisconnect hc.1]
      rfl

theorem WorkerMoves.forward {s s' : RunState} {t : ℕ} {w : Worker} {pc : ControllerPc}
    (hm : WorkerMoves s t w pc s') {t' : ℕ} {w₀ : Worker} (hw₀ : s.workers t' = some w₀) :
    ∃ w', s'.workers t' = some w' ∧ w'.handle = w₀.handle := by
  rw [hm.workers]
  by_cases ht : t' = t
  · subst ht
    rw [hm.worker] at hw₀
    obtain rfl := Option.some.inj hw₀
    exact ⟨_, Function.update_self .., rfl⟩
  · exact ⟨w₀, by rw [Function.update_of_ne ht, hw₀], rfl⟩

theorem Recorded.moves {s s' : RunState} {es : List HandleAction} {t : ℕ} {w : Worker}
    {pc : ControllerPc} (h : Recorded s es) (howned : s.Owned) (hm : WorkerMoves s t w pc s') :
    Recorded s' (es ++ handleActions s t w) := by
  have hother (handle : ℕ) (hne : w.handle ≠ handle) :
      closers handle (es ++ handleActions s t w) = closers handle es := by
    rw [closers_append, howned.closers_actions hm.worker, if_neg fun hc => hne hc.2,
      List.append_nil]
  constructor
  · intro handle hle
    rw [hm.opened] at hle
    have hlt := howned.opened t w hm.worker
    rw [hother handle (by omega)]
    exact h.unopened handle hle
  · intro psmoveId move hpc
    rw [hm.main] at hpc
    rw [hother _ ((howned.device psmoveId move hpc).2 t w hm.worker)]
    exact h.device psmoveId move hpc
  · intro t' w' hw'
    rcases hm.cases hw' with ⟨rfl, rfl⟩ | ⟨ht, hw'⟩
    · -- the thread finds its handle at its first statement
      have hentry := howned.enters hm
      dsimp only
      rw [closers_append, howned.closers_actions hm.worker, h.closed t' w hm.worker,
        hm.next.hasClosed hentry]
      by_cases hdisconnect : w.pc = .disconnect
      · rw [hdisconnect]
        simp [ControllerPc.hasClosed]
      · simp only [hdisconnect, false_and, decide_false, Bool.or_false, ↓reduceIte,
          List.append_nil]
    · have hne : w.handle ≠ w'.handle := by
        intro heq
        exact ht (howned.distinct t' t w' w hw' hm.worker heq.symm)
      rw [hother _ hne]
      exact h.closed t' w' hw'
  · intro t' handle hmem
    rcases List.mem_append.mp hmem with hmem | hmem
    · obtain ⟨w₀, hw₀, rfl⟩ := h.polled t' handle hmem
      obtain ⟨w', hw', hhandle⟩ := hm.forward hw₀
      exact ⟨w', hw', by rw [hhandle]⟩
    · rw [howned.actions hm.worker] at hmem
      split_ifs at hmem
      · obtain ⟨rfl, rfl⟩ := HandleAction.polled.inj (List.mem_singleton.mp hmem)
        obtain ⟨w', hw', hhandle⟩ := hm.forward hm.worker
        exact ⟨w', hw', by rw [hhandle]⟩
      · cases List.mem_singleton.mp hmem
      · exact absurd hmem List.not_mem_nil
  · intro t' handle hmem
    rcases List.mem_append.mp hmem with hmem | hmem
    · obtain ⟨w₀, hw₀, rfl⟩ := h.started t' handle hmem
      exact hm.forward hw₀
    · rw [howned.actions hm.worker] at hmem
      split_ifs at hmem
      · cases List.mem_singleton.mp hmem
      · cases List.mem_singleton.mp hmem
      · exact absurd hmem List.not_mem_nil

theorem Recorded.start {s : RunState} {es : List HandleAction} (h : Recorded s es)
    (howned : s.Owned) {psmoveId : ℕ} {move : PSMove}
    (hpc : s.pc = .handleNewDevice psmoveId move) (c : ControllerId) :
    Recorded { s.startThread c psmoveId move with pc := .stopCheck }
      (es ++ [.started s.started move.handle]) := by
  have hclosers (handle : ℕ) :
      closers handle (es ++ [.started s.started move.handle]) = closers handle es := by
    rw [closers_append]
    exact List.append_nil _
  have hold : ∀ t w, s.workers t = some w →
      (s.startThread c psmoveId move).workers t = some w := by
    intro t w hw
    have hlt := howned.attached.lt_started hw
    simp only [RunState.startThread]
    rw [Function.update_of_ne (by omega), hw]
  have hnew : (s.startThread c psmoveId move).workers s.started =
      some ⟨c, move.handle, s.sessions, .entry⟩ := Function.update_self ..
  constructor
  · intro handle hle
    rw [hclosers]
    exact h.unopened handle hle
  · intro _ _ hdevice
    cases hdevice
  · intro t w hw
    rw [hclosers]
    rcases startThread_cases psmoveId hw with ⟨-, rfl⟩ | ⟨-, hw⟩
    · -- nobody has closed the handle while the main loop kept it
      exact h.device psmoveId move hpc
    · exact h.closed t w hw
  · intro t handle hmem
    rcases List.mem_append.mp hmem with hmem | hmem
    · obtain ⟨w, hw, hhandle⟩ := h.polled t handle hmem
      exact ⟨w, hold t w hw, hhandle⟩
    · cases List.mem_singleton.mp hmem
  · intro t handle hmem
    rcases List.mem_append.mp hmem with hmem | hmem
    · obtain ⟨w, hw, hhandle⟩ := h.started t handle hmem
      exact ⟨w, hold t w hw, hhandle⟩
    · obtain ⟨rfl, rfl⟩ := HandleAction.started.inj (List.mem_singleton.mp hmem)
      exact ⟨_, hnew, rfl⟩

theorem mainStep_recorded (s : RunState) (es : List HandleAction)
    (answer : Option ConnectionType) (howned : s.Owned) (h : Recorded s es) :
    Recorded (s.mainStep answer).1 (es ++ (s.mainStep answer).2) := by
  cases mainStep_moves s answer with
  | quiet same opened device silent =>
    rw [silent]
    apply h.keep same (le_of_eq opened.symm) (fun _ _ => rfl) howned
    · exact fun _ _ => List.not_mem_nil
    · exact fun _ _ => List.not_mem_nil
    · intro psmoveId move hpc
      exact absurd hpc (device psmoveId move)
  | connected psmoveId move same opened device handle silent =>
    rw [silent]
    apply h.keep same (by omega) (fun _ _ => rfl) howned
    · exact fun _ _ => List.not_mem_nil
    · exact fun _ _ => List.not_mem_nil
    · intro psmoveId' move' hpc
      rw [device] at hpc
      obtain ⟨rfl, rfl⟩ := RunPc.handleNewDevice.inj hpc
      -- a new handle has no history
      rw [List.append_nil, handle]
      exact h.unopened s.opened le_rfl
  | refused same opened device closed =>
    have hno (a : HandleAction) (ha : a ∈ (s.mainStep answer).2) :
        ∃ handle, a = .closed none handle ∧ (handle = none ∨ handle = some s.opened) := by
      rcases closed with hnil | hnull | hhandle
      · rw [hnil] at ha
        exact absurd ha List.not_mem_nil
      · rw [hnull] at ha
        exact ⟨none, List.mem_singleton.mp ha, Or.inl rfl⟩
      · rw [hhandle] at ha
        exact ⟨some s.opened, List.mem_singleton.mp ha, Or.inr rfl⟩
    apply h.keep same (by omega)
    · intro handle hrange
      apply List.filterMap_eq_nil_iff.mpr
      intro a ha
      obtain ⟨x, rfl, rfl | rfl⟩ := hno a ha
      · rfl
      · have hne : s.opened ≠ handle := by omega
        simp only [hne, ↓reduceIte]
    · exact howned
    · intro t handle hmem
      obtain ⟨x, heq, -⟩ := hno _ hmem
      cases heq
    · intro t handle hmem
      obtain ⟨x, heq, -⟩ := hno _ hmem
      cases heq
    · intro psmoveId move hpc
      exact absurd hpc (device psmoveId move)
  | starts psmoveId move c device slot state started =>
    rw [state, started]
    exact h.start howned device c

theorem step_recorded (s : RunState) (es : List HandleAction) (ev : RunEvent) (howned : s.Owned)
    (h : Recorded s es) : Recorded (s.step ev).1 (es ++ (s.step ev).2) := by
  have hflag (s' : RunState) (hsame : SameThreads s s') (hopened : s'.opened = s.opened)
      (hpc : s'.pc = s.pc) : Recorded s' (es ++ []) := by
    apply h.keep hsame (le_of_eq hopened.symm) (fun _ _ => rfl) howned
    · exact fun _ _ => List.not_mem_nil
    · exact fun _ _ => List.not_mem_nil
    · intro psmoveId move hdevice
      rw [List.append_nil]
      rw [hpc] at hdevice
      exact h.device psmoveId move hdevice
  cases ev with
  | main answer => exact mainStep_recorded s es answer howned h
  | worker t answer =>
    simp only [RunState.step]
    rcases workerStep_spec s t answer with hstay | ⟨w, pc, hm, hacts⟩
    · rw [hstay, List.append_nil]
      exact h
    · rw [hacts]
      exact h.moves howned hm
  | disconnectKey t =>
    simp only [RunState.step]
    split_ifs
    · exact hflag _ ⟨rfl, rfl, rfl⟩ rfl rfl
    · exact hflag s ⟨rfl, rfl, rfl⟩ rfl rfl
  | stop => exact hflag _ ⟨rfl, rfl, rfl⟩ rfl rfl

/-- If no start takes over the slot of a thread that has cleared `thread_` but not `move_`, every
handle that is passed to `start` is closed at most once and only by its own thread, that thread
polls nothing else, and it has closed the handle when it has returned. -/
theorem handle_closed_once (evs : List RunEvent)
    (hstarts : Along RunState.step (fun s ev => startsSettled s ev = true) .init evs) :
    let r := run RunState.step .init evs
    ∀ t handle, .started t handle ∈ r.2 →
      (closers handle r.2).length ≤ 1 ∧ (∀ x ∈ closers handle r.2, x = some t) ∧
      (∀ h, .polled t h ∈ r.2 → h = some handle) ∧
      ∀ w, r.1.workers t = some w → w.pc = .returned → closers handle r.2 = [some t] := by
  intro r
  have hboth : r.1.Owned ∧ Recorded r.1 ([] ++ r.2) := by
    apply run_history RunState.step (fun s ev => startsSettled s ev = true)
      (fun s es => s.Owned ∧ Recorded s es)
    · intro s es ev hok h
      exact ⟨step_owned s ev hok h.1, step_recorded s es ev h.1 h.2⟩
    · exact ⟨owned_init, recorded_init⟩
    · exact hstarts
  obtain ⟨-, hrecorded⟩ := hboth
  rw [List.nil_append] at hrecorded
  intro t handle hstarted
  obtain ⟨w, hw, rfl⟩ := hrecorded.started t handle hstarted
  have hclosed := hrecorded.closed t w hw
  refine ⟨?_, ?_, ?_, ?_⟩
  · rw [hclosed]
    split_ifs
    · exact le_rfl
    · exact Nat.zero_le _
  · intro x hx
    rw [hclosed] at hx
    split_ifs at hx
    · exact List.mem_singleton.mp hx
    · exact absurd hx List.not_mem_nil
  · intro h hpolled
    obtain ⟨w', hw', rfl⟩ := hrecorded.polled t h hpolled
    rw [hw] at hw'
    rw [Option.some.inj hw']
  · intro w' hw' hret
    rw [hw] at hw'
    obtain rfl := Option.some.inj hw'
    rw [hclosed, hret]
    rfl

/-- Statements of the first thread, which finds its controller silent. -/
def workerEvents (n : ℕ) : List RunEvent :=
  [.worker 0 false, .worker 0 false, .worker 0 false, .worker 0 true] ++
    List.replicate n (.worker 0 false)

/-- A second thread is started when the first one has cleared `move_`. -/
theorem handle_closed_once_returned :
    closers 0 (run RunState.step .init
      (startEvents ++ workerEvents 4 ++ startEvents ++ [.worker 0 false])).2 = [some 0] := by
  have h := handle_closed_once
    (startEvents ++ workerEvents 4 ++ startEvents ++ [.worker 0 false]) (by decide +kernel)
  exact (h 0 0 (by decide +kernel)).2.2.2 ⟨.first, 0, 0, .returned⟩ (by decide +kernel) rfl

/-- The slot is taken over between the statements that clear `thread_` and `move_`: the old thread
closes the handle of the new one, and returns without having closed its own. -/
theorem start_replaces_handle :
    let r := run RunState.step .init
      (startEvents ++ workerEvents 1 ++ startEvents ++ List.replicate 4 (.worker 0 false))
    .started 0 0 ∈ r.2 ∧ .started 1 1 ∈ r.2 ∧ r.1.workers 0 = some ⟨.first, 0, 0, .returned⟩ ∧
      closers 0 r.2 = [] ∧ closers 1 r.2 = [some 0] := by
  decide +kernel

end PSMoveInput

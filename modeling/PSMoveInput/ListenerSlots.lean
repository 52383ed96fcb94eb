import Mathlib.Logic.Function.Basic
import PSMoveInput.Common
import PSMoveInput.Transducer

/-! The slots of `PSMoveListener` under the main loop of `run`. The test of the capacity, the
choice of an id and the choice of a slot are separate steps, and a controller thread may
terminate between any two of them. -/
namespace PSMoveInput

open Transducer

/-! ### Scans of the slots -/

inductive ConnectionType where
  | bluetooth
  | usb
  | unknown
  deriving DecidableEq, Repr

/-- A handle of psmoveapi. -/
structure PSMove where
  handle : ℕ
  connection : ConnectionType
  deriving DecidableEq, Repr

def psmoveConnectionType : Option PSMove → ConnectionType
  | none => .unknown
  | some move => move.connection

def maxControllers : ℕ := 2

/-- The indices of `controllerThreads_`. -/
def slotIndices : List ControllerId := [.first, .second]

theorem mem_slotIndices (c : ControllerId) : c ∈ slotIndices := by
  cases c <;> decide

def isFullCapacity (running : ControllerId → Bool) : Bool := slotIndices.all running

/-- A running thread handles the controller with this id. -/
def controllerExists (running : ControllerId → Bool) (ids : ControllerId → ℕ) (psmoveId : ℕ) :
    Bool :=
  slotIndices.any fun c => running c && ids c == psmoveId

/-- An iteration of `connect`, for the answer of `psmove_connect_by_id`. The loop goes on when
no handle results. -/
def connectIteration (running : ControllerId → Bool) (ids : ControllerId → ℕ) (psmoveId : ℕ)
    (answer : Option PSMove) : Option PSMove :=
  if controllerExists running ids psmoveId = false then
    -- controllers connected via USB are ignored
    if psmoveConnectionType answer ≠ .bluetooth then none else answer
  else none

/-- The slot that `handleNewDevice` starts. -/
def handleNewDevice (running : ControllerId → Bool) : Option ControllerId :=
  if running .first = false then some .first
  else if running .second = false then some .second
  else none

theorem isFullCapacity_false {running : ControllerId → Bool} (h : isFullCapacity running = false) :
    ∃ c, running c = false := by
  simp only [isFullCapacity, List.all_eq_false, Bool.not_eq_true] at h
  obtain ⟨c, -, hc⟩ := h
  exact ⟨c, hc⟩

theorem controllerExists_false {running : ControllerId → Bool} {ids : ControllerId → ℕ}
    {psmoveId : ℕ} (h : controllerExists running ids psmoveId = false) (c : ControllerId)
    (hc : running c = true) : ids c ≠ psmoveId := by
  intro hid
  have hexists : controllerExists running ids psmoveId = true := by
    apply List.any_eq_true.mpr
    exact ⟨c, mem_slotIndices c, by simp [hc, hid]⟩
  rw [h] at hexists
  exact absurd hexists (by decide)

/-- A handle that `connect` returns is a Bluetooth controller of a fresh id. -/
theorem connectIteration_some {running : ControllerId → Bool} {ids : ControllerId → ℕ}
    {psmoveId : ℕ} {answer : Option PSMove} {move : PSMove}
    (h : connectIteration running ids psmoveId answer = some move) :
    move.connection = .bluetooth ∧ ∀ c, running c = true → ids c ≠ psmoveId := by
  simp only [connectIteration] at h
  split_ifs at h with hexists htype
  · rw [h] at htype
    exact ⟨not_ne_iff.mp htype, controllerExists_false hexists⟩

theorem connectIteration_answer {running : ControllerId → Bool} {ids : ControllerId → ℕ}
    {psmoveId : ℕ} {answer : Option PSMove} {move : PSMove}
    (h : connectIteration running ids psmoveId answer = some move) : answer = some move := by
  simp only [connectIteration] at h
  split_ifs at h
  exact h

theorem handleNewDevice_free {running : ControllerId → Bool} {c : ControllerId}
    (h : handleNewDevice running = some c) : running c = false := by
  simp only [handleNewDevice] at h
  split_ifs at h with hfirst hsecond
  · rwa [← Option.some.inj h]
  · rwa [← Option.some.inj h]

theorem handleNewDevice_isSome {running : ControllerId → Bool} (h : ∃ c, running c = false) :
    ∃ c, handleNewDevice running = some c := by
  obtain ⟨c, hc⟩ := h
  simp only [handleNewDevice]
  split_ifs with hfirst hsecond
  · exact ⟨.first, rfl⟩
  · exact ⟨.second, rfl⟩
  · cases c with
    | first => exact absurd hc hfirst
    | second => exact absurd hc hsecond

/-! ### The main loop -/

/-- The members of a `ControllerThread` that the main loop reads or writes. `θ` tells the objects
of `boost::thread` apart. -/
structure Slot (θ : Type) where
  id : ControllerId
  psmoveId : ℕ
  move : Option PSMove
  thread : Option θ
  deriving DecidableEq, Repr

def Slot.new {θ : Type} : Slot θ where
  id := .first
  psmoveId := 0
  move := none
  thread := none

def Slot.running {θ : Type} (t : Slot θ) : Bool := t.thread.isSome

def Slot.start {θ : Type} (t : Slot θ) (id : ControllerId) (psmoveId : ℕ) (move : PSMove)
    (thread : θ) : Slot θ :=
  -- only start new thread if there isn't one already running
  if t.thread = none then
    { id := id, psmoveId := psmoveId, move := some move, thread := some thread }
  else t

theorem Slot.start_free {θ : Type} {t : Slot θ} (h : t.running = false) (id : ControllerId)
    (psmoveId : ℕ) (move : PSMove) (thread : θ) :
    t.start id psmoveId move thread = ⟨id, psmoveId, some move, some thread⟩ := by
  have hnone : t.thread = none := Option.isNone_iff_eq_none.mp (Option.isSome_eq_false_iff.mp h)
  exact if_pos hnone

/-- The statements of `operator()` after its loop, as one step. -/
def Slot.terminate {θ : Type} (t : Slot θ) : Slot θ := { t with move := none, thread := none }

/-- The next step of `run`, with its local variables. -/
inductive MainPc where
  | stopCheck
  | isFullCapacity
  | connect (psmoveId : ℕ)
  | handleNewDevice (psmoveId : ℕ) (move : PSMove)
  | halted
  deriving DecidableEq, Repr

/-- This model does not tell threads apart. -/
structure ListenerState where
  slots : ControllerId → Slot Unit
  stop : Bool
  threadStop : Bool
  pc : MainPc

def ListenerState.init : ListenerState where
  slots := fun _ => .new
  stop := false
  threadStop := false
  pc := .stopCheck

def ListenerState.running (s : ListenerState) (c : ControllerId) : Bool := (s.slots c).running

def ListenerState.psmoveIds (s : ListenerState) (c : ControllerId) : ℕ := (s.slots c).psmoveId

/-- What becomes of the handles. -/
inductive SlotOutput where
  /-- `connect` returns a handle. -/
  | returned (psmoveId : ℕ) (move : PSMove)
  /-- `start` creates a thread for the handle. -/
  | installed (slot : ControllerId) (psmoveId : ℕ) (move : PSMove)
  deriving DecidableEq, Repr

/-- One step of `run`. A join that has to wait leaves the state as it is. -/
def ListenerState.mainStep (s : ListenerState) (answer : Option PSMove) :
    ListenerState × List SlotOutput :=
  match s.pc with
  | .stopCheck =>
    if s.stop = true ∨ s.threadStop = true then
      if slotIndices.any s.running = true then (s, [])
      else if s.stop = true then ({ s with pc := .halted }, [])
      else ({ s with threadStop := false, pc := .isFullCapacity }, [])
    else ({ s with pc := .isFullCapacity }, [])
  | .isFullCapacity =>
    if PSMoveInput.isFullCapacity s.running = false then ({ s with pc := .connect 0 }, [])
    else ({ s with pc := .stopCheck }, [])
  | .connect psmoveId =>
    if psmoveId < maxControllers then
      match connectIteration s.running s.psmoveIds psmoveId answer with
      | some move => ({ s with pc := .handleNewDevice psmoveId move }, [.returned psmoveId move])
      | none => ({ s with pc := .connect (psmoveId + 1) }, [])
    else ({ s with pc := .stopCheck }, [])
  | .handleNewDevice psmoveId move =>
    match PSMoveInput.handleNewDevice s.running with
    | some c =>
      ({ s with slots := Function.update s.slots c ((s.slots c).start c psmoveId move ())
                pc := .stopCheck },
        if s.running c = false then [.installed c psmoveId move] else [])
    | none => ({ s with pc := .stopCheck }, [])
  | .halted => (s, [])

inductive SlotEvent where
  /-- A step of `run`; `psmove_connect_by_id` would give this answer. -/
  | main (answer : Option PSMove)
  /-- The thread in a slot leaves its loop and cleans up. -/
  | terminate (slot : ControllerId)
  /-- The thread in a slot signals its disconnect key. -/
  | disconnectKey (slot : ControllerId)
  /-- The process is told to stop. -/
  | stop

def ListenerState.step (s : ListenerState) : SlotEvent → ListenerState × List SlotOutput
  | .main answer => s.mainStep answer
  | .terminate c =>
    if s.running c = true then
      ({ s with slots := Function.update s.slots c (s.slots c).terminate, threadStop := true }, [])
    else (s, [])
  | .disconnectKey c =>
    if s.running c = true then ({ s with threadStop := true }, []) else (s, [])
  | .stop => ({ s with stop := true }, [])

/-! ### Consistency of the slots -/

/-- The main loop is on its way to a start. -/
def MainPc.connecting : MainPc → Prop
  | .connect _ => True
  | .handleNewDevice _ _ => True
  | _ => False

/-- Threads only disappear by themselves, so what the main loop has seen of free slots and of
unused ids stays true until it starts a thread. -/
structure ListenerState.Consistent (s : ListenerState) : Prop where
  distinct : ∀ c c', s.running c = true → s.running c' = true →
    s.psmoveIds c = s.psmoveIds c' → c = c'
  ids : ∀ c, s.running c = true → (s.slots c).id = c
  room : s.pc.connecting → ∃ c, s.running c = false
  fresh : ∀ psmoveId move, s.pc = .handleNewDevice psmoveId move →
    move.connection = .bluetooth ∧ ∀ c, s.running c = true → s.psmoveIds c ≠ psmoveId

theorem consistent_init : ListenerState.init.Consistent where
  distinct _ _ h := absurd h Bool.false_ne_true
  ids _ h := absurd h Bool.false_ne_true
  room h := h.elim
  fresh _ _ h := by cases h

/-- Fewer running threads, and the same main loop. -/
theorem ListenerState.Consistent.shrink {s t : ListenerState} (h : s.Consistent)
    (hpc : t.pc = s.pc) (hrun : ∀ c, t.running c = true → t.slots c = s.slots c) :
    t.Consistent := by
  have hold (c : ControllerId) (hc : t.running c = true) : s.running c = true := by
    simp only [running] at hc ⊢
    rwa [← hrun c hc]
  have hid (c : ControllerId) (hc : t.running c = true) : t.psmoveIds c = s.psmoveIds c := by
    simp only [psmoveIds]
    rw [hrun c hc]
  constructor
  · intro c c' hc hc' heq
    rw [hid c hc, hid c' hc'] at heq
    exact h.distinct c c' (hold c hc) (hold c' hc') heq
  · intro c hc
    rw [hrun c hc]
    exact h.ids c (hold c hc)
  · intro hconn
    rw [hpc] at hconn
    obtain ⟨c, hc⟩ := h.room hconn
    refine ⟨c, ?_⟩
    by_contra hne
    have hset : s.running c = true := hold c (eq_true_of_ne_false hne)
    rw [hc] at hset
    exact absurd hset (by decide)
  · intro psmoveId move hdev
    rw [hpc] at hdev
    obtain ⟨hbt, hfresh⟩ := h.fresh psmoveId move hdev
    refine ⟨hbt, ?_⟩
    intro c hc
    rw [hid c hc]
    exact hfresh c (hold c hc)

/-- The same slots, and a main loop that is not connecting. -/
theorem ListenerState.Consistent.leave {s t : ListenerState} (h : s.Consistent)
    (hslots : t.slots = s.slots) (hpc : ¬t.pc.connecting) : t.Consistent := by
  constructor
  · simp only [running, psmoveIds, hslots]
    exact h.distinct
  · simp only [running, hslots]
    exact h.ids
  · intro hconn
    exact absurd hconn hpc
  · intro psmoveId move hdev
    rw [hdev] at hpc
    exact absurd trivial hpc

/-- What `handleNewDevice` does in a consistent state. -/
theorem ListenerState.Consistent.install {s : ListenerState} (h : s.Consistent) {psmoveId : ℕ}
    {move : PSMove} (hpc : s.pc = .handleNewDevice psmoveId move) (answer : Option PSMove) :
    ∃ c, s.running c = false ∧
      s.mainStep answer =
        ({ s with slots := Function.update s.slots c ⟨c, psmoveId, some move, some ()⟩
                  pc := .stopCheck }, [.installed c psmoveId move]) := by
  have hconn : s.pc.connecting := by
    rw [hpc]
    trivial
  obtain ⟨c, hc⟩ := handleNewDevice_isSome (h.room hconn)
  have hfree : s.running c = false := handleNewDevice_free hc
  have hstart := Slot.start_free hfree c psmoveId move ()
  refine ⟨c, hfree, ?_⟩
  simp only [mainStep, hpc, hc, hfree, hstart, ↓reduceIte]

/-- A new thread in a free slot, with an id that no running thread has. -/
theorem ListenerState.Consistent.installed {s : ListenerState} (h : s.Consistent) {psmoveId : ℕ}
    {move : PSMove} (hpc : s.pc = .handleNewDevice psmoveId move) (c : ControllerId) :
    ({ s with slots := Function.update s.slots c ⟨c, psmoveId, some move, some ()⟩
              pc := .stopCheck } : ListenerState).Consistent := by
  obtain ⟨-, hfresh⟩ := h.fresh psmoveId move hpc
  constructor
  · intro d d' hd hd' heq
    simp only [running, psmoveIds] at hd hd' heq
    by_cases hdc : d = c
    · by_cases hdc' : d' = c
      · rw [hdc, hdc']
      · -- the other slot runs with another id
        rw [Function.update_of_ne hdc'] at hd' heq
        rw [hdc, Function.update_self] at heq
        exact absurd heq.symm (hfresh d' hd')
    · rw [Function.update_of_ne hdc] at hd heq
      by_cases hdc' : d' = c
      · rw [hdc', Function.update_self] at heq
        exact absurd heq (hfresh d hd)
      · rw [Function.update_of_ne hdc'] at hd' heq
        exact h.distinct d d' hd hd' heq
  · intro d hd
    simp only [running] at hd ⊢
    by_cases hdc : d = c
    · rw [hdc, Function.update_self]
    · rw [Function.update_of_ne hdc] at hd ⊢
      exact h.ids d hd
  · exact False.elim
  · intro _ _ hdev
    cases hdev

theorem mainStep_consistent (s : ListenerState) (h : s.Consistent) (answer : Option PSMove) :
    (s.mainStep answer).1.Consistent := by
  cases hpc : s.pc with
  | stopCheck =>
    simp only [ListenerState.mainStep, hpc]
    split_ifs
    · exact h
    all_goals exact h.leave rfl id
  | isFullCapacity =>
    simp only [ListenerState.mainStep, hpc]
    split_ifs with hfull
    · -- a free slot, which no thread but the main loop can take
      constructor
      · exact h.distinct
      · exact h.ids
      · intro _
        exact isFullCapacity_false hfull
      · intro _ _ hdev
        cases hdev
    · exact h.leave rfl id
  | connect psmoveId =>
    have hroom : ∃ c, s.running c = false := by
      apply h.room
      rw [hpc]
      trivial
    simp only [ListenerState.mainStep, hpc]
    split_ifs
    · cases hconnect : connectIteration s.running s.psmoveIds psmoveId answer with
      | some move =>
        constructor
        · exact h.distinct
        · exact h.ids
        · exact fun _ => hroom
        · intro _ _ hdev
          -- the guards of the loop have just been tested
          obtain ⟨rfl, rfl⟩ := MainPc.handleNewDevice.inj hdev
          exact connectIteration_some hconnect
      | none =>
        constructor
        · exact h.distinct
        · exact h.ids
        · exact fun _ => hroom
        · intro _ _ hdev
          cases hdev
    · exact h.leave rfl id
  | handleNewDevice psmoveId move =>
    obtain ⟨c, -, hstep⟩ := h.install hpc answer
    rw [hstep]
    exact h.installed hpc c
  | halted =>
    simp only [ListenerState.mainStep, hpc]
    exact h

theorem step_consistent (s : ListenerState) (ev : SlotEvent) (h : s.Consistent) :
    (s.step ev).1.Consistent := by
  cases ev with
  | main answer => exact mainStep_consistent s h answer
  | terminate c =>
    simp only [ListenerState.step]
    split_ifs with hc
    · refine h.shrink rfl ?_
      intro d hd
      by_cases hdc : d = c
      · -- the slot itself does not run any more
        simp only [ListenerState.running] at hd
        rw [hdc, Function.update_self] at hd
        exact absurd hd Bool.false_ne_true
      · exact Function.update_of_ne hdc _ _
    · exact h
  | disconnectKey c =>
    simp only [ListenerState.step]
    split_ifs
    · exact h.shrink rfl fun _ _ => rfl
    · exact h
  | stop => exact h.shrink rfl fun _ _ => rfl

/-! ### Handles in a run -/

/-- The handle that `connect` has returned and `handleNewDevice` has not taken yet. -/
def MainPc.pending : MainPc → List SlotOutput
  | .handleNewDevice psmoveId move => [.returned psmoveId move]
  | _ => []

/-- A handle on its way through the main loop. -/
def passage (x : ControllerId × ℕ × PSMove) : List SlotOutput :=
  [.returned x.2.1 x.2.2, .installed x.1 x.2.1 x.2.2]

/-- Every handle that is returned is installed next. -/
def Passed (s : ListenerState) (es : List SlotOutput) (t : ListenerState) : Prop :=
  ∃ xs : List (ControllerId × ℕ × PSMove), (∀ x ∈ xs, x.2.2.connection = .bluetooth) ∧
    s.pc.pending ++ es = xs.flatMap passage ++ t.pc.pending

theorem passed_silent {s t : ListenerState} (h : t.pc.pending = s.pc.pending) : Passed s [] t := by
  refine ⟨[], fun x hx => absurd hx List.not_mem_nil, ?_⟩
  rw [h, List.append_nil, List.flatMap_nil, List.nil_append]

theorem Passed.append {s t u : ListenerState} {es fs : List SlotOutput} (h : Passed s es t)
    (h' : Passed t fs u) : Passed s (es ++ fs) u := by
  obtain ⟨xs, hxs, heq⟩ := h
  obtain ⟨ys, hys, heq'⟩ := h'
  refine ⟨xs ++ ys, ?_, ?_⟩
  · intro x hx
    rcases List.mem_append.mp hx with hx | hx
    · exact hxs x hx
    · exact hys x hx
  · calc
      s.pc.pending ++ (es ++ fs) = s.pc.pending ++ es ++ fs := (List.append_assoc _ _ _).symm
      _ = xs.flatMap passage ++ (t.pc.pending ++ fs) := by rw [heq, List.append_assoc]
      _ = xs.flatMap passage ++ (ys.flatMap passage ++ u.pc.pending) := by rw [heq']
      _ = (xs ++ ys).flatMap passage ++ u.pc.pending := by
        rw [List.flatMap_append, List.append_assoc]

theorem step_passed (s : ListenerState) (ev : SlotEvent) (h : s.Consistent) :
    Passed s (s.step ev).2 (s.step ev).1 := by
  cases ev with
  | main answer =>
    simp only [ListenerState.step]
    cases hpc : s.pc with
    | stopCheck =>
      simp only [ListenerState.mainStep, hpc]
      split_ifs
      · exact passed_silent rfl
      all_goals exact passed_silent (by rw [hpc]; rfl)
    | isFullCapacity =>
      simp only [ListenerState.mainStep, hpc]
      split_ifs
      all_goals exact passed_silent (by rw [hpc]; rfl)
    | connect psmoveId =>
      simp only [ListenerState.mainStep, hpc]
      split_ifs
      · cases connectIteration s.running s.psmoveIds psmoveId answer with
        | some move =>
          -- the handle is returned, and its thread is pending
          refine ⟨[], fun x hx => absurd hx List.not_mem_nil, ?_⟩
          rw [hpc]
          rfl
        | none => exact passed_silent (by rw [hpc]; rfl)
      · exact passed_silent (by rw [hpc]; rfl)
    | handleNewDevice psmoveId move =>
      obtain ⟨c, -, hstep⟩ := h.install hpc answer
      rw [hstep]
      refine ⟨[(c, psmoveId, move)], ?_, ?_⟩
      · intro x hx
        rw [List.mem_singleton.mp hx]
        exact (h.fresh psmoveId move hpc).1
      · rw [hpc]
        rfl
    | halted =>
      simp only [ListenerState.mainStep, hpc]
      exact passed_silent rfl
  | terminate c =>
    simp only [ListenerState.step]
    split_ifs
    all_goals exact passed_silent rfl
  | disconnectKey c =>
    simp only [ListenerState.step]
    split_ifs
    all_goals exact passed_silent rfl
  | stop => exact passed_silent rfl

/-- In every reachable state the running slots have distinct ids and carry their own
`ControllerId`. Every handle that `connect` returns is a Bluetooth controller, and the next step
of the main loop starts a thread for it in a slot that has none. -/
theorem slots_consistent (evs : List SlotEvent) :
    let r := run ListenerState.step .init evs
    (∀ c c', r.1.running c = true → r.1.running c' = true →
      r.1.psmoveIds c = r.1.psmoveIds c' → c = c') ∧
    (∀ c, r.1.running c = true → (r.1.slots c).id = c) ∧
    (∃ xs : List (ControllerId × ℕ × PSMove), (∀ x ∈ xs, x.2.2.connection = .bluetooth) ∧
      r.2 = xs.flatMap passage ++ r.1.pc.pending) ∧
    ∀ psmoveId move, r.1.pc = .handleNewDevice psmoveId move →
      move.connection = .bluetooth ∧
      ∀ answer, ∃ c, r.1.running c = false ∧
        (r.1.step (.main answer)).1.slots =
          Function.update r.1.slots c ⟨c, psmoveId, some move, some ()⟩ := by
  intro r
  have hstep : ∀ s : ListenerState, ∀ ev ∈ evs, s.Consistent → (s.step ev).1.Consistent :=
    fun s ev _ h => step_consistent s ev h
  have hcons : r.1.Consistent := run_invariant _ _ evs hstep _ consistent_init
  have hpassed : Passed .init r.2 r.1 := by
    apply run_trace _ ListenerState.Consistent Passed
    · exact fun _ => passed_silent rfl
    · exact fun _ _ _ _ _ => Passed.append
    · exact hstep
    · exact fun s ev _ h => step_passed s ev h
    · exact consistent_init
  refine ⟨hcons.distinct, hcons.ids, hpassed, ?_⟩
  intro psmoveId move hpc
  refine ⟨(hcons.fresh psmoveId move hpc).1, ?_⟩
  intro answer
  obtain ⟨c, hfree, hmain⟩ := hcons.install hpc answer
  refine ⟨c, hfree, ?_⟩
  simp only [ListenerState.step, hmain]

end PSMoveInput

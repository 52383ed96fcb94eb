import PSMoveInput.ListenerSlots
import PSMoveInput.Orbit

/-! The whole loop of `connect`, for the controllers that psmoveapi knows, with the handles that it
opens and the ones that it passes to `psmove_disconnect`. -/
namespace PSMoveInput

/-- The connection types of the controllers `0`, `1`, … that are known to psmoveapi, and the handles
that it gives out for them. -/
structure Attached where
  types : List ConnectionType
  handles : ℕ → ℕ

/-- `psmove_connect_by_id`: there is no handle for an id outside of the range. -/
def Attached.connectById (a : Attached) (psmoveId : ℕ) : Option PSMove :=
  a.types[psmoveId]?.map fun type => ⟨a.handles psmoveId, type⟩

inductive ConnectAction where
  /-- `psmove_connect_by_id` has given a handle or none. -/
  | connectById (psmoveId : ℕ) (move : Option PSMove)
  /-- `psmove_disconnect`, which ignores a null handle. -/
  | disconnect (move : Option PSMove)
  deriving DecidableEq

/-- The handle that `connect` returns, and its reference parameter. -/
structure ConnectResult where
  move : Option PSMove
  psmoveId : ℕ
  actions : List ConnectAction

/-- The loop from `psmoveId` on, with the number of iterations that are left. -/
def connectLoop (running : ControllerId → Bool) (ids : ControllerId → ℕ) (a : Attached) :
    ℕ → ℕ → ConnectResult
  | 0, psmoveId => ⟨none, psmoveId, []⟩
  | left + 1, psmoveId =>
    if controllerExists running ids psmoveId = false then
      -- no thread handles controller with this id, so try to connect to it
      let move := a.connectById psmoveId
      if psmoveConnectionType move ≠ .bluetooth then
        let r := connectLoop running ids a left (psmoveId + 1)
        { r with actions := .connectById psmoveId move :: .disconnect move :: r.actions }
      else ⟨move, psmoveId, [.connectById psmoveId move]⟩
    else connectLoop running ids a left (psmoveId + 1)

/-- The bound of the loop is the number of slots. -/
def connect (running : ControllerId → Bool) (ids : ControllerId → ℕ) (a : Attached) :
    ConnectResult :=
  connectLoop running ids a maxControllers 0

variable {running : ControllerId → Bool} {ids : ControllerId → ℕ} {a : Attached}

/-- The id of a Bluetooth controller that no running thread handles. -/
def Available (running : ControllerId → Bool) (ids : ControllerId → ℕ) (a : Attached)
    (psmoveId : ℕ) : Prop :=
  (∀ c, running c = true → ids c ≠ psmoveId) ∧ a.types[psmoveId]? = some .bluetooth

/-- `connect` returns the available controller with the smallest id, if there is one, and
disconnects everything else that it has opened. -/
structure FindsAvailable (running : ControllerId → Bool) (ids : ControllerId → ℕ) (a : Attached)
    (r : ConnectResult) : Prop where
  found : r.move ≠ none ↔ ∃ psmoveId, Available running ids a psmoveId
  smallest : ∀ move, r.move = some move → Available running ids a r.psmoveId ∧
    a.connectById r.psmoveId = some move ∧
    ∀ psmoveId, Available running ids a psmoveId → r.psmoveId ≤ psmoveId
  disconnected : ∀ psmoveId move, .connectById psmoveId (some move) ∈ r.actions →
    r.move ≠ some move → .disconnect (some move) ∈ r.actions

/-! ### An iteration -/

theorem controllerExists_false_iff {psmoveId : ℕ} :
    controllerExists running ids psmoveId = false ↔ ∀ c, running c = true → ids c ≠ psmoveId := by
  constructor
  · exact controllerExists_false
  · intro h
    apply List.any_eq_false.mpr
    intro c _ hc
    rw [Bool.and_eq_true, beq_iff_eq] at hc
    exact h c hc.1 hc.2

theorem connectById_bluetooth_iff {psmoveId : ℕ} :
    psmoveConnectionType (a.connectById psmoveId) = .bluetooth ↔
      a.types[psmoveId]? = some .bluetooth := by
  rw [Attached.connectById]
  cases a.types[psmoveId]? with
  | none => exact iff_of_false (fun h => by cases h) (Option.some_ne_none _).symm
  | some type => exact Option.some_inj.symm

theorem connectLoop_found {left psmoveId : ℕ} (h : Available running ids a psmoveId) :
    connectLoop running ids a (left + 1) psmoveId =
      ⟨a.connectById psmoveId, psmoveId, [.connectById psmoveId (a.connectById psmoveId)]⟩ := by
  have hexists := controllerExists_false_iff.mpr h.1
  have htype := connectById_bluetooth_iff.mpr h.2
  rw [connectLoop, if_pos hexists]
  exact if_neg (not_not.mpr htype)

/-- Otherwise it goes on, and a handle that has been opened is disconnected. -/
theorem connectLoop_skip (left : ℕ) {psmoveId : ℕ} (h : ¬Available running ids a psmoveId) :
    ∃ actions, (actions = [] ∨ actions = [.connectById psmoveId (a.connectById psmoveId),
        .disconnect (a.connectById psmoveId)]) ∧
      connectLoop running ids a (left + 1) psmoveId =
        ⟨(connectLoop running ids a left (psmoveId + 1)).move,
          (connectLoop running ids a left (psmoveId + 1)).psmoveId,
          actions ++ (connectLoop running ids a left (psmoveId + 1)).actions⟩ := by
  by_cases hexists : controllerExists running ids psmoveId = false
  · have htype : psmoveConnectionType (a.connectById psmoveId) ≠ .bluetooth := by
      intro htype
      exact h ⟨controllerExists_false_iff.mp hexists, connectById_bluetooth_iff.mp htype⟩
    refine ⟨_, Or.inr rfl, ?_⟩
    rw [connectLoop, if_pos hexists]
    exact if_pos htype
  · refine ⟨_, Or.inl rfl, ?_⟩
    rw [connectLoop, if_neg hexists]
    rfl

/-! ### The loop -/

/-- The loop finds the first available id of its range. -/
theorem connectLoop_spec (left psmoveId : ℕ) :
    let r := connectLoop running ids a left psmoveId
    (r.move = none ∧ (∀ i, psmoveId ≤ i → i < psmoveId + left → ¬Available running ids a i)) ∨
    (r.move = a.connectById r.psmoveId ∧ Available running ids a r.psmoveId ∧
      psmoveId ≤ r.psmoveId ∧ r.psmoveId < psmoveId + left ∧
      ∀ i, psmoveId ≤ i → i < r.psmoveId → ¬Available running ids a i) := by
  induction left generalizing psmoveId with
  | zero =>
    left
    refine ⟨rfl, ?_⟩
    intro i hi hlt
    omega
  | succ left ih =>
    by_cases h : Available running ids a psmoveId
    · right
      rw [connectLoop_found h]
      refine ⟨rfl, h, le_rfl, ?_, ?_⟩
      · dsimp only
        omega
      · intro i hi hlt
        dsimp only at hlt
        omega
    · obtain ⟨actions, -, hskip⟩ := connectLoop_skip left h
      rw [hskip]
      have hfirst (i : ℕ) (hi : psmoveId ≤ i)
          (hrest : psmoveId + 1 ≤ i → ¬Available running ids a i) :
          ¬Available running ids a i := by
        rcases Nat.eq_or_lt_of_le hi with rfl | hlt
        · exact h
        · exact hrest hlt
      rcases ih (psmoveId + 1) with ⟨hnone, hnothing⟩ | ⟨hmove, havailable, hge, hlt, hbefore⟩
      · left
        refine ⟨hnone, ?_⟩
        intro i hi hlt
        exact hfirst i hi fun hi' => hnothing i hi' (by omega)
      · right
        refine ⟨hmove, havailable, ?_, ?_, ?_⟩
        · exact Nat.le_of_succ_le hge
        · dsimp only
          omega
        · intro i hi hlt'
          exact hfirst i hi fun hi' => hbefore i hi' hlt'

/-- Every handle that the loop has opened is returned or disconnected. -/
theorem connectLoop_disconnected (left psmoveId : ℕ) :
    let r := connectLoop running ids a left psmoveId
    ∀ i move, .connectById i (some move) ∈ r.actions → r.move ≠ some move →
      .disconnect (some move) ∈ r.actions := by
  induction left generalizing psmoveId with
  | zero =>
    intro r i move h
    exact absurd h List.not_mem_nil
  | succ left ih =>
    intro r i move hopened hother
    by_cases h : Available running ids a psmoveId
    · simp only [r, connectLoop_found h, List.mem_singleton, ConnectAction.connectById.injEq]
        at hopened hother
      exact absurd hopened.2.symm hother
    · obtain ⟨actions, hactions, hskip⟩ := connectLoop_skip left h
      simp only [r, hskip, List.mem_append] at hopened hother ⊢
      rcases hopened with hopened | hopened
      · left
        rcases hactions with rfl | rfl
        · exact absurd hopened List.not_mem_nil
        · simp only [List.mem_cons, ConnectAction.connectById.injEq, reduceCtorEq, List.not_mem_nil,
            or_false] at hopened
          rw [hopened.2]
          exact List.mem_cons_of_mem _ List.mem_cons_self
      · right
        exact ih (psmoveId + 1) i move hopened hother

/-! ### The loop in the model of the slots -/

/-- A step of `run` while no thread terminates; `psmove_connect_by_id` answers for the id that the
loop is at. -/
def ListenerState.connectStep (a : Attached) (s : ListenerState) : ListenerState :=
  match s.pc with
  | .connect psmoveId => (s.mainStep (a.connectById psmoveId)).1
  | _ => s

theorem connectStep_found {s : ListenerState} {psmoveId : ℕ} (hpc : s.pc = .connect psmoveId)
    (hlt : psmoveId < maxControllers) (h : Available s.running s.psmoveIds a psmoveId)
    {move : PSMove} (hmove : a.connectById psmoveId = some move) :
    s.connectStep a = { s with pc := .handleNewDevice psmoveId move } := by
  have hiteration : connectIteration s.running s.psmoveIds psmoveId (some move) = some move := by
    have htype := connectById_bluetooth_iff.mpr h.2
    rw [hmove] at htype
    rw [connectIteration, if_pos (controllerExists_false_iff.mpr h.1)]
    exact if_neg (not_not.mpr htype)
  simp only [ListenerState.connectStep, ListenerState.mainStep, hpc, hmove, if_pos hlt, hiteration]

theorem connectStep_skip {s : ListenerState} {psmoveId : ℕ} (hpc : s.pc = .connect psmoveId)
    (hlt : psmoveId < maxControllers) (h : ¬Available s.running s.psmoveIds a psmoveId) :
    s.connectStep a = { s with pc := .connect (psmoveId + 1) } := by
  have hiteration :
      connectIteration s.running s.psmoveIds psmoveId (a.connectById psmoveId) = none := by
    by_contra hsome
    obtain ⟨move, hmove⟩ := Option.ne_none_iff_exists'.mp hsome
    have hanswer := connectIteration_answer hmove
    obtain ⟨htype, hids⟩ := connectIteration_some hmove
    apply h ⟨hids, connectById_bluetooth_iff.mp _⟩
    rw [hanswer]
    exact htype
  simp only [ListenerState.connectStep, ListenerState.mainStep, hpc, if_pos hlt, hiteration]

/-- Where `run` goes on after `connect`. -/
def ConnectResult.next (r : ConnectResult) : MainPc :=
  match r.move with
  | some move => .handleNewDevice r.psmoveId move
  | none => .stopCheck

/-- The iterations one after another lead to what `connect` returns. -/
theorem connectStep_reaches (left psmoveId : ℕ) (hleft : psmoveId + left = maxControllers)
    {s : ListenerState} (hpc : s.pc = .connect psmoveId) :
    Orbit.Reaches (ListenerState.connectStep a) (fun t => ∃ i, t.pc = .connect i) s
      { s with pc := (connectLoop s.running s.psmoveIds a left psmoveId).next } := by
  induction left generalizing psmoveId s with
  | zero =>
    have hstep : s.connectStep a = { s with pc := .stopCheck } := by
      simp only [ListenerState.connectStep, ListenerState.mainStep, hpc]
      exact congrArg Prod.fst (if_neg (show ¬psmoveId < maxControllers by omega))
    exact .cons ⟨psmoveId, hpc⟩ hstep (.refl _)
  | succ left ih =>
    have hlt : psmoveId < maxControllers := by omega
    by_cases h : Available s.running s.psmoveIds a psmoveId
    · have hmove : a.connectById psmoveId = some ⟨a.handles psmoveId, .bluetooth⟩ :=
        congrArg (Option.map _) h.2
      rw [connectLoop_found h, hmove]
      exact .cons ⟨psmoveId, hpc⟩ (connectStep_found hpc hlt h hmove) (.refl _)
    · obtain ⟨actions, -, hskip⟩ := connectLoop_skip left h
      have hrest := ih (psmoveId + 1) (by omega)
        (s := { s with pc := .connect (psmoveId + 1) }) rfl
      rw [hskip]
      exact .cons ⟨psmoveId, hpc⟩ (connectStep_skip hpc hlt h) hrest

/-- `connect` finds an available controller if and only if one of the first two ids belongs to one,
whenever any does. The steps of the main loop lead from its beginning to what it returns. -/
theorem connect_finds_iff (running : ControllerId → Bool) (ids : ControllerId → ℕ) (a : Attached) :
    (FindsAvailable running ids a (connect running ids a) ↔
      ((∃ psmoveId, Available running ids a psmoveId) →
        ∃ psmoveId < maxControllers, Available running ids a psmoveId)) ∧
    ∀ s : ListenerState,
      Orbit.Reaches (ListenerState.connectStep a) (fun t => ∃ i, t.pc = .connect i)
        { s with pc := .connect 0 } { s with pc := (connect s.running s.psmoveIds a).next } := by
  have hspec := @connectLoop_spec running ids a maxControllers 0
  refine ⟨?_, fun s => connectStep_reaches maxControllers 0 rfl rfl⟩
  constructor
  · intro h hexists
    have hfound := h.found.mpr hexists
    rcases hspec with ⟨hnone, -⟩ | ⟨-, havailable, -, hlt, -⟩
    · exact absurd hnone hfound
    · exact ⟨_, by omega, havailable⟩
  · intro h
    rcases hspec with ⟨hnone, hnothing⟩ | ⟨hmove, havailable, -, hlt, hbefore⟩
    · constructor
      · apply iff_of_false
        · exact fun hsome => hsome hnone
        · intro hexists
          obtain ⟨i, hi, havailable⟩ := h hexists
          exact hnothing i (Nat.zero_le i) (by omega) havailable
      · intro move hmove
        exact absurd (hnone.symm.trans hmove) (Option.some_ne_none move).symm
      · exact connectLoop_disconnected maxControllers 0
    · have hopen : (connect running ids a).move =
          some ⟨a.handles (connect running ids a).psmoveId, .bluetooth⟩ := by
        refine hmove.trans ?_
        exact congrArg (Option.map _) havailable.2
      constructor
      · apply iff_of_true
        · rw [hopen]
          exact Option.some_ne_none _
        · exact ⟨_, havailable⟩
      · intro move hsome
        refine ⟨havailable, hmove.symm.trans hsome, ?_⟩
        intro i hi
        by_contra hlt
        exact hbefore i (Nat.zero_le i) (not_le.mp hlt) hi
      · exact connectLoop_disconnected maxControllers 0

/-- Two controllers on USB, and a third one on Bluetooth. -/
def usbAttached : Attached := ⟨[.usb, .usb, .bluetooth], id⟩

/-- The Bluetooth controller is not found. -/
theorem connect_misses_third :
    (connect (fun _ => false) (fun _ => 0) usbAttached).move = none ∧
      ¬FindsAvailable (fun _ => false) (fun _ => 0) usbAttached
        (connect (fun _ => false) (fun _ => 0) usbAttached) := by
  have hnone : (connect (fun _ => false) (fun _ => 0) usbAttached).move = none := by decide
  refine ⟨hnone, ?_⟩
  intro h
  have havailable : Available (fun _ => false) (fun _ => 0) usbAttached 2 :=
    ⟨fun _ hrunning => absurd hrunning Bool.false_ne_true, rfl⟩
  exact h.found.mpr ⟨2, havailable⟩ hnone

end PSMoveInput

import PSMoveInput.HandleRelease
import PSMoveInput.ListenerRefinement

/-! Controllers that can be connected get a thread. Only the main loop starts threads, so that what
it has found out about an id stays true on its way through the other ids. -/
namespace PSMoveInput

open Liveness Transducer

/-! ### Waiting controllers -/

theorem controllerExists_iff {running : ControllerId → Bool} {ids : ControllerId → ℕ}
    {psmoveId : ℕ} : controllerExists running ids psmoveId = true ↔
      ∃ c, running c = true ∧ ids c = psmoveId := by
  simp only [controllerExists, List.any_eq_true, Bool.and_eq_true, beq_iff_eq]
  constructor
  · rintro ⟨c, -, hc⟩
    exact ⟨c, hc⟩
  · rintro ⟨c, hc⟩
    exact ⟨c, mem_slotIndices c, hc⟩

/-- How far the main loop is from its next start of a waiting controller, if no thread leaves. It
may have passed a waiting id on its way through the ids, before the controller was there. -/
def RunPc.phase (waiting : ℕ → Bool) : RunPc → ℕ
  | .handleNewDevice psmoveId _ => if waiting psmoveId = true then 0 else 8
  | .connect psmoveId =>
    if (List.range psmoveId).any waiting = true then 9 + (maxControllers - psmoveId)
    else 1 + (maxControllers - psmoveId)
  | .isFullCapacity => 4
  | .stopCheck => 5
  | .raise => 6
  | .clearStop => 7
  | _ => 0

namespace RunState

/-- No thread handles the Bluetooth controller with this id. -/
def waiting (available : ℕ → Option ConnectionType) (s : RunState) (psmoveId : ℕ) : Bool :=
  decide (available psmoveId = some .bluetooth) && !controllerExists s.running s.psmoveIds psmoveId

def missing (available : ℕ → Option ConnectionType) (s : RunState) : Finset ℕ :=
  (Finset.range maxControllers).filter fun psmoveId => s.waiting available psmoveId = true

def Served (available : ℕ → Option ConnectionType) (s : RunState) : Prop :=
  s.missing available = ∅

/-- A thread that has not cleared `thread_` handles the controller, and finds its handle in its
slot. -/
def HasThread (s : RunState) (psmoveId : ℕ) : Prop :=
  ∃ c t w, (s.slots c).thread = some t ∧ s.psmoveIds c = psmoveId ∧ s.workers t = some w ∧
    w.slot = c ∧ w.pc.attached = true ∧ (s.slots c).move.map PSMove.handle = some w.handle

/-- No request to stop, no thread that leaves its slot, and a fixed set of controllers. -/
structure Calm (available : ℕ → Option ConnectionType) (s : RunState) (ev : RunEvent) : Prop where
  stop : s.stop = false
  threadStop : s.threadStop = false
  stays : ∀ t answer w, ev = .worker t answer → s.workers t = some w → w.pc ≠ .clearThread
  answers : ∀ answer psmoveId, ev = .main answer → s.pc = .connect psmoveId →
    answer = available psmoveId

/-! ### The ids of running threads -/

/-- Running threads handle controllers with different ids within the range. -/
structure Placed (s : RunState) : Prop where
  distinct : ∀ c c', s.running c = true → s.running c' = true →
    s.psmoveIds c = s.psmoveIds c' → c = c'
  small : ∀ c, s.running c = true → s.psmoveIds c < maxControllers
  fresh : ∀ psmoveId move, s.pc = .handleNewDevice psmoveId move →
    psmoveId < maxControllers ∧ ∀ c, s.running c = true → s.psmoveIds c ≠ psmoveId
  room : s.Room
  requested : s.pc.joining = true → s.stop = true ∨ s.threadStop = true
  halted : s.pc = .halted → s.stop = true

theorem placed_init : RunState.init.Placed where
  distinct _ _ h := absurd h Bool.false_ne_true
  small _ h := absurd h Bool.false_ne_true
  fresh _ _ h := by cases h
  room h := absurd h Bool.false_ne_true
  requested h := absurd h Bool.false_ne_true
  halted h := by cases h

variable {s : RunState}

/-- The main loop comes to a start from an id that no thread has. -/
theorem mainStep_device {answer : Option ConnectionType} {psmoveId : ℕ} {move : PSMove}
    (hpc : (s.mainStep answer).1.pc = .handleNewDevice psmoveId move) :
    s.pc = .handleNewDevice psmoveId move ∨ psmoveId < maxControllers ∧
      ∀ c, s.running c = true → s.psmoveIds c ≠ psmoveId := by
  rcases mainStep_next s answer with hstay | hnext
  · left
    rw [← hpc, hstay]
  right
  have hconnect : s.pc = .connect psmoveId := by
    rw [hpc] at hnext
    revert hnext
    generalize s.pc = pc
    intro hnext
    cases hnext
    rfl
  rw [mainStep, hconnect] at hpc
  dsimp only at hpc
  by_cases hid : psmoveId < maxControllers
  · refine ⟨hid, ?_⟩
    rw [if_pos hid] at hpc
    cases hmove : connectIteration s.running s.psmoveIds psmoveId
        (answer.map fun connection => ⟨s.opened, connection⟩) with
    | some found => exact (connectIteration_some hmove).2
    | none =>
      rw [hmove] at hpc
      cases hpc
  · rw [if_neg hid] at hpc
    cases hpc

theorem mainStep_halted {answer : Option ConnectionType}
    (hpc : (s.mainStep answer).1.pc = .halted) : s.pc = .halted ∨ s.stop = true := by
  rcases mainStep_next s answer with hstay | hnext
  · left
    rw [← hpc, hstay]
  right
  have htest : s.pc = .testStop := by
    rw [hpc] at hnext
    revert hnext
    generalize s.pc = pc
    intro hnext
    cases hnext
    rfl
  rw [mainStep, htest] at hpc
  dsimp only at hpc
  split_ifs at hpc with hstop
  exact hstop

/-- A thread takes itself out of its slot, and changes no id. -/
theorem step_shrinks (ev : RunEvent) (hev : ∀ answer, ev ≠ .main answer) (c : ControllerId) :
    (s.step ev).1.psmoveIds c = s.psmoveIds c ∧
      ((s.step ev).1.running c = true → s.running c = true) := by
  cases ev with
  | main answer => exact absurd rfl (hev answer)
  | worker t answer =>
    refine ⟨(workerStep_ids s t answer c).2, ?_⟩
    simp only [step]
    rcases workerStep_spec s t answer with hstay | ⟨w, pc, hm, -⟩
    · rw [hstay]
      exact id
    · simp only [running, Slot.running, hm.thread]
      split_ifs
      · exact fun h => absurd h Bool.false_ne_true
      · exact id
  | disconnectKey t =>
    simp only [step]
    split_ifs <;> exact ⟨rfl, id⟩
  | stop => exact ⟨rfl, id⟩

theorem Placed.start (h : s.Placed) {psmoveId : ℕ} {move : PSMove} {c : ControllerId}
    (device : s.pc = .handleNewDevice psmoveId move) (hfree : s.running c = false) :
    ({ s.startThread c psmoveId move with pc := .stopCheck } : RunState).Placed := by
  obtain ⟨hsmall, hfresh⟩ := h.fresh psmoveId move device
  have hslot := Slot.start_free hfree c psmoveId move s.started
  have hcases (d : ControllerId) :
      d = c ∧ (s.startThread c psmoveId move).psmoveIds d = psmoveId ∨
        d ≠ c ∧ (s.startThread c psmoveId move).running d = s.running d ∧
          (s.startThread c psmoveId move).psmoveIds d = s.psmoveIds d := by
    simp only [psmoveIds, running, startThread]
    by_cases hd : d = c
    · left
      rw [hd, Function.update_self, hslot]
      exact ⟨rfl, rfl⟩
    · right
      rw [Function.update_of_ne hd]
      exact ⟨hd, rfl, rfl⟩
  refine ⟨?_, ?_, fun _ _ hpc => (by cases hpc), fun hpc => absurd hpc Bool.false_ne_true,
    fun hpc => absurd hpc Bool.false_ne_true, fun hpc => (by cases hpc)⟩
  · intro d d' hd hd' heq
    change (s.startThread c psmoveId move).running d = true at hd
    change (s.startThread c psmoveId move).running d' = true at hd'
    change (s.startThread c psmoveId move).psmoveIds d =
      (s.startThread c psmoveId move).psmoveIds d' at heq
    rcases hcases d with ⟨rfl, hid⟩ | ⟨hne, hrun, hid⟩
    · rcases hcases d' with ⟨rfl, -⟩ | ⟨hne', hrun', hid'⟩
      · rfl
      · rw [hid, hid'] at heq
        exact absurd heq.symm (hfresh d' (hrun' ▸ hd'))
    · rcases hcases d' with ⟨rfl, hid'⟩ | ⟨hne', hrun', hid'⟩
      · rw [hid, hid'] at heq
        exact absurd heq (hfresh d (hrun ▸ hd))
      · rw [hid, hid'] at heq
        exact h.distinct d d' (hrun ▸ hd) (hrun' ▸ hd') heq
  · intro d hd
    change (s.startThread c psmoveId move).running d = true at hd
    change (s.startThread c psmoveId move).psmoveIds d < maxControllers
    rcases hcases d with ⟨rfl, hid⟩ | ⟨hne, hrun, hid⟩
    · rw [hid]
      exact hsmall
    · rw [hid]
      exact h.small d (hrun ▸ hd)

theorem step_placed (ev : RunEvent) (h : s.Placed) : (s.step ev).1.Placed := by
  have hroom := step_room s ev h.room
  have hrequested := step_requested h.requested ev
  by_cases hmain : ∃ answer, ev = .main answer
  · obtain ⟨answer, rfl⟩ := hmain
    have hkeep (same : SameThreads s (s.mainStep answer).1) : (s.mainStep answer).1.Placed := by
      have hrun : (s.mainStep answer).1.running = s.running := by
        funext c
        rw [running, same.slots, running]
      have hids : (s.mainStep answer).1.psmoveIds = s.psmoveIds := by
        funext c
        rw [psmoveIds, same.slots, psmoveIds]
      refine ⟨?_, ?_, ?_, hroom, hrequested, ?_⟩
      · rw [hrun, hids]
        exact h.distinct
      · rw [hrun, hids]
        exact h.small
      · intro psmoveId move hpc
        rw [hrun, hids]
        rcases mainStep_device hpc with hbefore | hfresh
        · exact h.fresh psmoveId move hbefore
        · exact hfresh
      · intro hpc
        rw [(mainStep_flags s answer).1]
        exact (mainStep_halted hpc).elim h.halted id
    simp only [step]
    cases mainStep_moves s answer with
    | quiet same => exact hkeep same
    | connected psmoveId move same => exact hkeep same
    | refused same => exact hkeep same
    | starts psmoveId move c device slot state =>
      rw [state]
      exact h.start device (handleNewDevice_free slot)
  · have hev : ∀ answer, ev ≠ .main answer := fun answer heq => hmain ⟨answer, heq⟩
    have hpc : (s.step ev).1.pc = s.pc := step_pc s hev
    have hold (c : ControllerId) := step_shrinks ev hev (s := s) c
    refine ⟨?_, ?_, ?_, hroom, hrequested, ?_⟩
    · intro c c' hc hc' heq
      rw [(hold c).1, (hold c').1] at heq
      exact h.distinct c c' ((hold c).2 hc) ((hold c').2 hc') heq
    · intro c hc
      rw [(hold c).1]
      exact h.small c ((hold c).2 hc)
    · intro psmoveId move hdevice
      rw [hpc] at hdevice
      refine ⟨(h.fresh psmoveId move hdevice).1, ?_⟩
      intro c hc
      rw [(hold c).1]
      exact (h.fresh psmoveId move hdevice).2 c ((hold c).2 hc)
    · intro hhalted
      rw [hpc] at hhalted
      exact step_stop s ev (h.halted hhalted)

/-! ### Progress -/

variable {available : ℕ → Option ConnectionType}

/-- Every start of a waiting controller is worth more than a way through the ids. -/
def connectRank (available : ℕ → Option ConnectionType) (s : RunState) : ℕ :=
  20 * (s.missing available).card + s.pc.phase (s.waiting available)

theorem served_iff : s.Served available ↔
    ∀ psmoveId < maxControllers, s.waiting available psmoveId = false := by
  simp only [Served, missing, Finset.filter_eq_empty_iff, Finset.mem_range, Bool.not_eq_true]

/-- With a thread in every slot no controller waits. -/
theorem Placed.served (h : s.Placed) (hfull : PSMoveInput.isFullCapacity s.running = true) :
    s.Served available := by
  have hrun (c : ControllerId) : s.running c = true :=
    List.all_eq_true.mp hfull c (mem_slotIndices c)
  rw [served_iff]
  intro psmoveId hid
  have hexists : controllerExists s.running s.psmoveIds psmoveId = true := by
    rw [controllerExists_iff]
    have hfirst := h.small .first (hrun .first)
    have hsecond := h.small .second (hrun .second)
    have hne : s.psmoveIds .first ≠ s.psmoveIds .second := fun heq =>
      ControllerId.noConfusion (h.distinct _ _ (hrun _) (hrun _) heq)
    -- two different ids below two
    rw [maxControllers] at hid hfirst hsecond
    by_cases hown : s.psmoveIds .first = psmoveId
    · exact ⟨.first, hrun _, hown⟩
    · exact ⟨.second, hrun _, by omega⟩
  rw [waiting, hexists, Bool.not_true, Bool.and_false]

theorem waiting_of_same {s' : RunState} (same : SameThreads s s') :
    s'.waiting available = s.waiting available := by
  have hrun : s'.running = s.running := by
    funext c
    rw [running, same.slots, running]
  have hids : s'.psmoveIds = s.psmoveIds := by
    funext c
    rw [psmoveIds, same.slots, psmoveIds]
  funext psmoveId
  rw [RunState.waiting, hrun, hids, RunState.waiting]

/-- `start` takes one id off the waiting ones. -/
theorem startThread_waiting {psmoveId : ℕ} {move : PSMove} {c : ControllerId}
    (hfree : s.running c = false) {id : ℕ}
    (hwaiting : (s.startThread c psmoveId move).waiting available id = true) :
    s.waiting available id = true ∧ id ≠ psmoveId := by
  have hslot := Slot.start_free hfree c psmoveId move s.started
  simp only [waiting, Bool.and_eq_true, Bool.not_eq_true'] at hwaiting ⊢
  obtain ⟨havailable, hnone⟩ := hwaiting
  have hother := controllerExists_false hnone
  refine ⟨⟨havailable, ?_⟩, ?_⟩
  · rw [Bool.eq_false_iff, Ne, controllerExists_iff]
    rintro ⟨d, hrun, hid⟩
    have hd : d ≠ c := by
      intro heq
      rw [heq, hfree] at hrun
      exact Bool.false_ne_true hrun
    apply hother d
    · simp only [running, startThread] at hrun ⊢
      rw [Function.update_of_ne hd]
      exact hrun
    · simp only [psmoveIds, startThread] at hid ⊢
      rw [Function.update_of_ne hd]
      exact hid
  · intro heq
    apply hother c
    · simp only [running, startThread, Function.update_self, hslot]
      rfl
    · simp only [psmoveIds, startThread, Function.update_self, hslot]
      exact heq.symm

/-- A statement of the scan over the ids. -/
theorem connect_lowers (hneed : ¬s.Served available) {psmoveId : ℕ}
    (hpc : s.pc = .connect psmoveId) :
    (s.mainStep (available psmoveId)).1.pc.phase (s.waiting available) <
      s.pc.phase (s.waiting available) := by
  have hpassed : (List.range (psmoveId + 1)).any (s.waiting available) =
      ((List.range psmoveId).any (s.waiting available) || s.waiting available psmoveId) := by
    rw [List.range_succ, List.any_append, List.any_cons, List.any_nil, Bool.or_false]
  rw [mainStep, hpc]
  dsimp only
  by_cases hid : psmoveId < maxControllers
  · rw [if_pos hid]
    have hfound : (connectIteration s.running s.psmoveIds psmoveId
        ((available psmoveId).map fun connection => ⟨s.opened, connection⟩)).isSome =
          s.waiting available psmoveId := by
      rw [connectIteration, waiting]
      cases hexists : controllerExists s.running s.psmoveIds psmoveId with
      | true => simp
      | false =>
        cases available psmoveId with
        | none => rfl
        | some connection => cases connection <;> rfl
    cases hmove : connectIteration s.running s.psmoveIds psmoveId
        ((available psmoveId).map fun connection => ⟨s.opened, connection⟩) with
    | some move =>
      rw [hmove] at hfound
      simp only [RunPc.phase, ← hfound, Option.isSome_some, ↓reduceIte]
      split_ifs <;> omega
    | none =>
      rw [hmove] at hfound
      simp only [RunPc.phase, hpassed, ← hfound, Option.isSome_none, Bool.or_false]
      split_ifs <;> omega
  · -- the scan is over; with nothing passed over, nobody waits
    rw [if_neg hid]
    have hsome : (List.range psmoveId).any (s.waiting available) = true := by
      by_contra hnone
      apply hneed
      rw [served_iff]
      intro id hlt
      have hnot := List.any_eq_false.mp (Bool.eq_false_iff.mpr hnone) id
        (List.mem_range.mpr (by omega))
      exact Bool.eq_false_iff.mpr hnot
    simp only [RunPc.phase, hsome, ↓reduceIte]
    omega

theorem main_lowers (h : s.Placed) {answer : Option ConnectionType}
    (hcalm : s.Calm available (.main answer)) (hneed : ¬s.Served available) :
    (s.mainStep answer).1.connectRank available < s.connectRank available := by
  have hflags : ¬(s.stop = true ∨ s.threadStop = true) := by
    rw [hcalm.stop, hcalm.threadStop]
    exact fun hset => hset.elim Bool.false_ne_true Bool.false_ne_true
  have hquiet (hsame : SameThreads s (s.mainStep answer).1)
      (hphase : (s.mainStep answer).1.pc.phase (s.waiting available) <
        s.pc.phase (s.waiting available)) :
      (s.mainStep answer).1.connectRank available < s.connectRank available := by
    simp only [connectRank, missing, waiting_of_same hsame]
    omega
  cases hpc : s.pc with
  | connect psmoveId =>
    rw [hcalm.answers answer psmoveId rfl hpc] at hquiet ⊢
    refine hquiet ?_ (connect_lowers hneed hpc)
    cases mainStep_moves s (available psmoveId) with
    | quiet same => exact same
    | connected _ _ same => exact same
    | refused same => exact same
    | starts _ _ _ device =>
      rw [hpc] at device
      cases device
  | handleNewDevice psmoveId move =>
    obtain ⟨c, hc⟩ := handleNewDevice_isSome (h.room (by rw [hpc]; rfl))
    have hstart : (s.mainStep answer).1 =
        { s.startThread c psmoveId move with pc := .stopCheck } := by
      simp only [mainStep, hpc, hc]
    have hsubset : (s.mainStep answer).1.missing available ⊆
        (s.missing available).erase psmoveId := by
      intro id hid
      rw [hstart] at hid
      obtain ⟨hrange, hwaiting⟩ := Finset.mem_filter.mp hid
      obtain ⟨hbefore, hne⟩ := startThread_waiting (handleNewDevice_free hc) hwaiting
      exact Finset.mem_erase.mpr ⟨hne, Finset.mem_filter.mpr ⟨hrange, hbefore⟩⟩
    have hcard := Finset.card_le_card hsubset
    have hphase : (s.mainStep answer).1.pc.phase ((s.mainStep answer).1.waiting available) = 5 := by
      rw [hstart]
      rfl
    rw [connectRank, hphase, connectRank, hpc, RunPc.phase]
    by_cases hwaiting : s.waiting available psmoveId = true
    · have hmem : psmoveId ∈ s.missing available :=
        Finset.mem_filter.mpr ⟨Finset.mem_range.mpr (h.fresh psmoveId move hpc).1, hwaiting⟩
      have hpos := Finset.card_pos.mpr ⟨psmoveId, hmem⟩
      rw [Finset.card_erase_of_mem hmem] at hcard
      rw [if_pos hwaiting]
      omega
    · have hle := Finset.card_erase_le (s := s.missing available) (a := psmoveId)
      rw [if_neg hwaiting]
      omega
  | isFullCapacity =>
    have hroom : PSMoveInput.isFullCapacity s.running = false :=
      Bool.eq_false_iff.mpr fun hfull => hneed (h.served hfull)
    have hstep : (s.mainStep answer).1 = { s with pc := .connect 0 } := by
      simp only [mainStep, hpc, hroom, ↓reduceIte]
    rw [hstep] at hquiet ⊢
    apply hquiet ⟨rfl, rfl, rfl⟩
    rw [hpc]
    exact (by decide : 3 < 4)
  | stopCheck =>
    have hstep : (s.mainStep answer).1 = { s with pc := .isFullCapacity } := by
      simp only [mainStep, hpc, if_neg hflags]
    rw [hstep] at hquiet ⊢
    apply hquiet ⟨rfl, rfl, rfl⟩
    rw [hpc]
    exact Nat.lt_succ_self 4
  | clearStop =>
    have hstep : (s.mainStep answer).1 = { s with threadStop := false, pc := .raise } := by
      simp only [mainStep, hpc]
    rw [hstep] at hquiet ⊢
    apply hquiet ⟨rfl, rfl, rfl⟩
    rw [hpc]
    exact Nat.lt_succ_self 6
  | raise =>
    have hstep : (s.mainStep answer).1 =
        { s with sessions := s.sessions + 1, pc := .isFullCapacity } := by
      simp only [mainStep, hpc]
    rw [hstep] at hquiet ⊢
    apply hquiet ⟨rfl, rfl, rfl⟩
    rw [hpc]
    exact (by decide : 4 < 6)
  | halted =>
    have hstop := h.halted hpc
    rw [hcalm.stop] at hstop
    exact absurd hstop Bool.false_ne_true
  | join _ => exact absurd (h.requested (by rw [hpc]; rfl)) hflags
  | joinWait _ _ => exact absurd (h.requested (by rw [hpc]; rfl)) hflags
  | testStop => exact absurd (h.requested (by rw [hpc]; rfl)) hflags

/-- While nothing disturbs them the threads stay in their slots. -/
theorem calm_same {ev : RunEvent} (hcalm : s.Calm available ev)
    (hev : ∀ answer, ev ≠ .main answer) :
    (s.step ev).1.waiting available = s.waiting available ∧ (s.step ev).1.pc = s.pc := by
  refine ⟨?_, step_pc s hev⟩
  have hrun : (s.step ev).1.running = s.running := by
    funext c
    cases ev with
    | main answer => exact absurd rfl (hev answer)
    | worker t answer =>
      simp only [step]
      rcases workerStep_spec s t answer with hstay | ⟨w, pc, hm, -⟩
      · rw [hstay]
      · have hstays := hcalm.stays t answer w rfl hm.worker
        rw [running, Slot.running, hm.thread, if_neg fun h => hstays h.2]
        rfl
    | disconnectKey t =>
      simp only [step]
      split_ifs <;> rfl
    | stop => rfl
  have hids : (s.step ev).1.psmoveIds = s.psmoveIds :=
    funext fun c => (step_shrinks ev hev c).1
  funext psmoveId
  rw [waiting, hrun, hids, waiting]

theorem step_served {ev : RunEvent} (hcalm : s.Calm available ev) (h : s.Served available) :
    (s.step ev).1.Served available := by
  rw [served_iff] at h ⊢
  by_cases hmain : ∃ answer, ev = .main answer
  · obtain ⟨answer, rfl⟩ := hmain
    intro psmoveId hid
    have hsame (same : SameThreads s (s.mainStep answer).1) :
        (s.mainStep answer).1.waiting available psmoveId = false := by
      rw [waiting_of_same same]
      exact h psmoveId hid
    simp only [step]
    cases mainStep_moves s answer with
    | quiet same => exact hsame same
    | connected _ _ same => exact hsame same
    | refused same => exact hsame same
    | starts started move c device slot state =>
      rw [state, Bool.eq_false_iff]
      intro hwaiting
      have hbefore := (startThread_waiting (handleNewDevice_free slot) hwaiting).1
      rw [h psmoveId hid] at hbefore
      exact Bool.false_ne_true hbefore
  · rw [(calm_same hcalm fun answer heq => hmain ⟨answer, heq⟩).1]
    exact h

end RunState

/-! ### Runs -/

/-- A slot that looks like one with a thread has one. -/
theorem RunState.Manned.hasThread {s : RunState} (h : s.Manned) {psmoveId : ℕ}
    (hexists : controllerExists s.running s.psmoveIds psmoveId = true) : s.HasThread psmoveId := by
  obtain ⟨c, hrunning, hid⟩ := controllerExists_iff.mp hexists
  obtain ⟨t, ht⟩ := Option.isSome_iff_exists.mp hrunning
  obtain ⟨w, hw, hslot, ha⟩ := h.occupied c t ht
  have hmove := h.owned.slot t w hw (by rw [ControllerPc.holding, ha, Bool.true_or])
  rw [hslot] at hmove
  exact ⟨c, t, w, ht, hid, hw, hslot, ha, hmove⟩

/-- If no slot is given to a new thread before the old one has cleared `move_`, then from some time
on, if nothing is told to stop and no thread leaves its slot, every Bluetooth controller with an id
below `MAX_CONTROLLERS` has a thread, for whichever ids psmoveapi has controllers and whatever went
before. -/
theorem available_connected (available : ℕ → Option ConnectionType) (schedule : ℕ → RunEvent)
    (n₀ : ℕ)
    (hstarts : ∀ n, startsSettled (stateAt RunState.step schedule .init n) (schedule n) = true)
    (hcalm : ∀ n, n₀ ≤ n →
      (stateAt RunState.step schedule .init n).Calm available (schedule n))
    (hfair : ∀ n, ∃ m, n ≤ m ∧ ∃ answer, schedule m = .main answer) :
    ∃ m, ∀ k, m ≤ k → ∀ psmoveId < maxControllers, available psmoveId = some .bluetooth →
      (stateAt RunState.step schedule .init k).HasThread psmoveId := by
  have hplaced : (stateAt RunState.step schedule .init n₀).Placed :=
    stateAt_invariant (fun _ ev h => RunState.step_placed ev h) RunState.placed_init n₀
  have hadvances : Advances RunState.step (RunState.Calm available) RunState.Placed
      (RunState.Served available) (RunState.connectRank available) (fun _ => ())
      (fun _ _ ev => ∃ answer, ev = .main answer) := by
    intro s ev hok hs hneed
    right
    refine ⟨RunState.step_placed ev hs, ?_⟩
    by_cases hmain : ∃ answer, ev = .main answer
    · obtain ⟨answer, rfl⟩ := hmain
      exact Or.inl (RunState.main_lowers hs hok hneed)
    · obtain ⟨hwaiting, hpc⟩ := RunState.calm_same hok fun answer heq => hmain ⟨answer, heq⟩
      refine Or.inr ⟨?_, rfl, hmain⟩
      rw [RunState.connectRank, RunState.missing, hwaiting, hpc]
      rfl
  have hcalm' (n : ℕ) : (stateAt RunState.step (fun k => schedule (n₀ + k))
      (stateAt RunState.step schedule .init n₀) n).Calm available (schedule (n₀ + n)) := by
    rw [← stateAt_add]
    exact hcalm (n₀ + n) (Nat.le_add_right n₀ n)
  obtain ⟨m, -, hserved⟩ := hadvances.reaches hcalm' (fun n _ _ => by
    obtain ⟨m, hm, answer, hmain⟩ := hfair (n₀ + n)
    have hsplit : n₀ + (m - n₀) = m := by omega
    exact ⟨m - n₀, by omega, answer, (congrArg schedule hsplit).trans hmain⟩) 0 hplaced
  rw [← stateAt_add] at hserved
  refine ⟨n₀ + m, ?_⟩
  intro k hk
  have hstill : (stateAt RunState.step schedule .init k).Served available := by
    induction k, hk using Nat.le_induction with
    | base => exact hserved
    | succ k hk ih => exact RunState.step_served (hcalm k (by omega)) ih
  intro psmoveId hid hbluetooth
  have hnone := RunState.served_iff.mp hstill psmoveId hid
  rw [RunState.waiting, hbluetooth, decide_eq_true rfl, Bool.true_and, Bool.not_eq_false'] at hnone
  -- that its thread is still there rests on all starts so far
  have hmanned : (stateAt RunState.step schedule .init k).Manned := by
    rw [stateAt_eq_run]
    exact run_invariant_along RunState.step (fun s ev => startsSettled s ev = true)
      RunState.Manned step_manned _ _ manned_init (along_inputs _ _ _ fun n _ => hstarts n)
  exact hmanned.hasThread hnone

/-- Two controllers over Bluetooth. -/
def bothAvailable (_psmoveId : ℕ) : Option ConnectionType := some .bluetooth

/-- A thread in each slot, and a main loop that looks at the flags and at the slots in turn. -/
structure RunState.Occupied (s : RunState) : Prop where
  stop : s.stop = false
  threadStop : s.threadStop = false
  full : PSMoveInput.isFullCapacity s.running = true
  pc : s.pc = .stopCheck ∨ s.pc = .isFullCapacity

theorem RunState.Occupied.main {s : RunState} (h : s.Occupied)
    (answer : Option ConnectionType) : (s.step (.main answer)).1.Occupied := by
  have hflags : ¬(s.stop = true ∨ s.threadStop = true) := by
    rw [h.stop, h.threadStop]
    exact fun hset => hset.elim Bool.false_ne_true Bool.false_ne_true
  rcases h.pc with hpc | hpc
  · have hstep : (s.step (.main answer)).1 = { s with pc := .isFullCapacity } := by
      simp only [step, mainStep, hpc, if_neg hflags]
    rw [hstep]
    exact ⟨h.stop, h.threadStop, h.full, Or.inr rfl⟩
  · have hstep : (s.step (.main answer)).1 = { s with pc := .stopCheck } := by
      simp only [step, mainStep, hpc, h.full, Bool.true_eq_false, ↓reduceIte]
    rw [hstep]
    exact ⟨h.stop, h.threadStop, h.full, Or.inl rfl⟩

/-- A first controller comes and goes, and then the main loop is alone. -/
def comebackEvents : List RunEvent :=
  startEvents ++ leaveEvents ++ cleanUpEvents ++ joinEvents

def comebackSchedule (n : ℕ) : RunEvent := (comebackEvents[n]?).getD (.main (some .bluetooth))

theorem comebackSchedule_later {n : ℕ} (hn : comebackEvents.length ≤ n) :
    comebackSchedule n = .main (some .bluetooth) := by
  rw [comebackSchedule, List.getElem?_eq_none hn]
  rfl

theorem comeback_occupied {n : ℕ} (hn : comebackEvents.length + 12 ≤ n) :
    (stateAt RunState.step comebackSchedule .init n).Occupied := by
  induction n, hn using Nat.le_induction with
  | base =>
    rw [stateAt_eq_run]
    exact ⟨by decide +kernel, by decide +kernel, by decide +kernel, by decide +kernel⟩
  | succ n hn ih =>
    rw [stateAt, comebackSchedule_later (by omega)]
    exact ih.main _

/-- The first thread has cleared `move_` when its slot is given away again. -/
theorem comeback_startsSettled (n : ℕ) :
    startsSettled (stateAt RunState.step comebackSchedule .init n) (comebackSchedule n) = true := by
  by_cases hlater : comebackEvents.length + 12 ≤ n
  · rw [comebackSchedule_later (by omega), startsSettled]
    rcases (comeback_occupied hlater).pc with hpc | hpc
    · rw [hpc]
    · rw [hpc]
  · have hearly : ∀ i < comebackEvents.length + 12, startsSettled
        (run RunState.step .init (inputs comebackSchedule i)).1 (comebackSchedule i) = true := by
      decide +kernel
    rw [stateAt_eq_run]
    exact hearly n (not_le.mp hlater)

theorem available_connected_comeback : ∃ m, ∀ k, m ≤ k → ∀ psmoveId < maxControllers,
    bothAvailable psmoveId = some .bluetooth →
      (stateAt RunState.step comebackSchedule .init k).HasThread psmoveId := by
  have hearly : ∀ i < 11, (run RunState.step .init
      (inputs comebackSchedule (comebackEvents.length + 1 + i))).1.stop = false ∧
        (run RunState.step .init
          (inputs comebackSchedule (comebackEvents.length + 1 + i))).1.threadStop = false := by
    decide +kernel
  apply available_connected bothAvailable comebackSchedule (comebackEvents.length + 1)
  · exact comeback_startsSettled
  · intro n hn
    have hmain := comebackSchedule_later (n := n) (by omega)
    have hflags : (stateAt RunState.step comebackSchedule .init n).stop = false ∧
        (stateAt RunState.step comebackSchedule .init n).threadStop = false := by
      by_cases hlater : comebackEvents.length + 12 ≤ n
      · exact ⟨(comeback_occupied hlater).stop, (comeback_occupied hlater).threadStop⟩
      · obtain ⟨i, rfl⟩ := Nat.exists_eq_add_of_le hn
        rw [stateAt_eq_run]
        exact hearly i (by omega)
    refine ⟨hflags.1, hflags.2, ?_, ?_⟩
    · intro t answer w hev
      rw [hmain] at hev
      cases hev
    · intro answer psmoveId hev hpc
      rw [hmain] at hev
      cases hev
      rfl
  · intro n
    exact ⟨n + comebackEvents.length, Nat.le_add_right n _, some .bluetooth,
      comebackSchedule_later (Nat.le_add_left _ n)⟩

end PSMoveInput

import PSMoveInput.Instances
import PSMoveInput.PidFilePaths

/-! Signals and the life of the objects. The handler is safe at every point but one: between the
`delete` of the object and the assignment that clears the pointer to it. -/
namespace PSMoveInput

open Interrupts Transducer

/-! ### What every step must keep -/

/-- `stop` is only called on an object that has not been destroyed, no object is destroyed twice,
and the count is the number of references that are held. -/
structure SignalSafe (env : Surroundings) (start : Program) (s : ProcessState)
    (ev : Interrupts.Event) : Prop where
  stop : ∀ input, .stop input ∈ ((process env start).step s ev).2 →
    ∃ id, input = some id ∧ s.shared.destroyed id = 0
  once : ∀ id, ((process env start).step s ev).1.shared.destroyed id ≤ 1
  refs : ((process env start).step s ev).1.shared.refs = heldRefs ((process env start).step s ev).1

/-- The next statement of `main` is the assignment that clears the pointer. -/
def MainPoint.clears : MainPoint → Bool
  | .releaseRef .clear _ => true
  | _ => false

/-- A signal that arrives when the final `releaseRef` is about to clear the pointer finds it cleared
already. -/
def PointerCleared (s : Statics) (m : MainPoint) : Prop :=
  m.clears = true → s.instancePtr = none

instance (s : Statics) (m : MainPoint) : Decidable (PointerCleared s m) :=
  inferInstanceAs (Decidable (m.clears = true → s.instancePtr = none))

/-! ### Objects -/

namespace Statics

/-- Numbers that have not been given have not been used, and no object is destroyed twice. -/
structure Sound (s : Statics) : Prop where
  fresh : ∀ id, s.constructed ≤ id → s.destroyed id = 0
  once : ∀ id, s.destroyed id ≤ 1

/-- The pointer leads to an object. -/
def Live (s : Statics) : Prop :=
  ∃ id, s.instancePtr = some id ∧ id < s.constructed ∧ s.destroyed id = 0

/-- It may be dereferenced after a test. -/
def Valid (s : Statics) : Prop := s.instancePtr = none ∨ s.Live

/-- What it led to has been destroyed. -/
def Destroyed (s : Statics) : Prop := ∀ id, s.instancePtr = some id → s.destroyed id ≠ 0

/-- The objects and the pointer are the same. -/
def SameObjects (s t : Statics) : Prop :=
  t.instancePtr = s.instancePtr ∧ t.constructed = s.constructed ∧ t.destroyed = s.destroyed

variable {s t : Statics}

theorem SameObjects.sound (h : s.SameObjects t) (hs : s.Sound) : t.Sound := by
  obtain ⟨-, hconstructed, hdestroyed⟩ := h
  constructor
  · rw [hconstructed, hdestroyed]
    exact hs.fresh
  · rw [hdestroyed]
    exact hs.once

theorem SameObjects.live (h : s.SameObjects t) (hs : s.Live) : t.Live := by
  rw [Live, h.1, h.2.1, h.2.2]
  exact hs

theorem Live.valid (h : s.Live) : s.Valid := Or.inr h

theorem Live.ptr_ne_none (h : s.Live) : s.instancePtr ≠ none := by
  obtain ⟨id, hid, -⟩ := h
  rw [hid]
  exact Option.some_ne_none id

theorem Valid.live (h : s.Valid) (hptr : s.instancePtr ≠ none) : s.Live := h.resolve_left hptr

end Statics

/-! ### Invariants -/

/-- The pointer at the points of `main`. -/
def MainPoint.Pointer (s : Statics) : MainPoint → Prop
  | .getRef .test => s.instancePtr = none
  | .getRef .construct => s.instancePtr = none
  | .getRef _ => s.Live
  | .run input .. => s.Live ∧ input = s.instancePtr
  | .within input .. => s.Live ∧ input = s.instancePtr
  | .releaseRef .decrement _ => s.Live
  | .releaseRef .clear _ => s.Destroyed
  | .releaseRef _ _ => s.Valid
  | .returned _ => s.instancePtr = none

/-- `main` has no reference yet. -/
def MainPoint.Begins : MainPoint → Prop
  | .getRef _ => True
  | _ => False

structure MainSafe (s : Statics) (m : MainPoint) : Prop where
  sound : s.Sound
  refs : s.refs = m.held
  pointer : m.Pointer s
  installed : s.installed = true → ¬m.Begins

/-- The pointer at the points of the handler. -/
def HandlerPoint.Pointer (s : Statics) (m : MainPoint) : HandlerPoint → Prop
  | .getRef .test => s.Valid
  | .getRef .construct => s.instancePtr = none
  | .getRef _ => s.Live
  | .stop input => s.Live ∧ input = s.instancePtr
  | .releaseRef .delete => s.Live ∧ m.held = 0
  | .releaseRef .clear => m.held = 0
  | .releaseRef _ => s.Live

/-- What holds while the handler runs. The pointer is the one that `main` needs as long as `main`
holds a reference. -/
structure HandlerSafe (s : Statics) (m : MainPoint) (h : HandlerPoint) : Prop where
  sound : s.Sound
  refs : s.refs = m.held + h.held
  pointer : h.Pointer s m
  waiting : m.held = 1 → m.Pointer s
  begun : ¬m.Begins

theorem MainPoint.held_cases (m : MainPoint) : m.held = 0 ∨ m.held = 1 := by
  cases m with
  | getRef stmt => cases stmt <;> decide
  | run => exact Or.inr rfl
  | within => exact Or.inr rfl
  | releaseRef stmt retval =>
    cases stmt with
    | decrement => exact Or.inr rfl
    | _ => exact Or.inl rfl
  | returned => exact Or.inl rfl

theorem MainPoint.Pointer.live {s : Statics} {m : MainPoint} (h : m.Pointer s)
    (hheld : m.held = 1) : s.Live := by
  cases m with
  | getRef stmt =>
    cases stmt with
    | test => cases hheld
    | construct => cases hheld
    | count => cases hheld
    | deref => exact h
  | run => exact h.1
  | within => exact h.1
  | releaseRef stmt retval =>
    cases stmt with
    | decrement => exact h
    | test => cases hheld
    | delete => cases hheld
    | clear => cases hheld
  | returned => cases hheld

/-- A pointer that has been cleared is what every point of `main` without a reference may find. -/
theorem MainPoint.pointer_cleared {s : Statics} {m : MainPoint} (hnone : s.instancePtr = none)
    (hheld : m.held = 0) (hbegun : ¬m.Begins) : m.Pointer s := by
  cases m with
  | getRef stmt => exact absurd trivial hbegun
  | run => cases hheld
  | within => cases hheld
  | releaseRef stmt retval =>
    cases stmt with
    | decrement => cases hheld
    | test => exact Or.inl hnone
    | delete => exact Or.inl hnone
    | clear =>
      intro id hid
      rw [hnone] at hid
      cases hid
  | returned => exact hnone

theorem MainPoint.Pointer.same {s t : Statics} {m : MainPoint} (h : s.SameObjects t)
    (hm : m.Pointer s) : m.Pointer t := by
  have hvalid (hs : s.Valid) : t.Valid := by
    rcases hs with hnone | hlive
    · exact Or.inl (h.1.trans hnone)
    · exact Or.inr (h.live hlive)
  cases m with
  | getRef stmt =>
    cases stmt with
    | test => exact h.1.trans hm
    | construct => exact h.1.trans hm
    | count => exact h.live hm
    | deref => exact h.live hm
  | run => exact ⟨h.live hm.1, hm.2.trans h.1.symm⟩
  | within => exact ⟨h.live hm.1, hm.2.trans h.1.symm⟩
  | releaseRef stmt retval =>
    cases stmt with
    | decrement => exact h.live hm
    | test => exact hvalid hm
    | delete => exact hvalid hm
    | clear =>
      intro id hid
      rw [h.2.2]
      exact hm id (h.1.symm.trans hid)
  | returned => exact h.1.trans hm

/-! ### Single statements -/

theorem construct_live {s : Statics} (h : s.Sound) :
    (s.getRef .construct).1.1.Sound ∧ (s.getRef .construct).1.1.Live := by
  constructor
  · constructor
    · intro id hid
      exact h.fresh id (Nat.le_of_succ_le hid)
    · exact h.once
  · exact ⟨s.constructed, rfl, Nat.lt_succ_self _, h.fresh s.constructed le_rfl⟩

theorem count_same (s : Statics) : s.SameObjects (s.getRef .count).1.1 := ⟨rfl, rfl, rfl⟩

theorem decrement_same (s : Statics) : s.SameObjects (s.releaseRef .decrement).1.1 :=
  ⟨rfl, rfl, rfl⟩

theorem destroy_sound {s : Statics} (h : s.Sound) {id : InstanceId} (hlt : id < s.constructed)
    (halive : s.destroyed id = 0) : (s.destroy id).Sound := by
  constructor
  · intro other hother
    have hne : other ≠ id := by
      rintro rfl
      exact absurd hlt (Nat.not_lt.mpr hother)
    have hsame : (s.destroy id).destroyed other = s.destroyed other := Function.update_of_ne hne _ _
    exact hsame.trans (h.fresh other hother)
  · intro other
    by_cases hother : other = id
    · have hdestroyed : (s.destroy id).destroyed id = s.destroyed id + 1 := Function.update_self ..
      rw [hother, hdestroyed, halive]
    · have hsame : (s.destroy id).destroyed other = s.destroyed other :=
        Function.update_of_ne hother _ _
      rw [hsame]
      exact h.once other

/-- `delete` leaves nothing behind that has not been destroyed, and destroys nothing twice. -/
theorem delete_destroyed {s : Statics} (h : s.Sound) (hvalid : s.Valid) :
    (s.releaseRef .delete).1.2 = some .clear ∧ (s.releaseRef .delete).1.1.Sound ∧
      (s.releaseRef .delete).1.1.Destroyed ∧ (s.releaseRef .delete).1.1.refs = s.refs ∧
      (s.releaseRef .delete).1.1.installed = s.installed := by
  rcases hvalid with hnone | ⟨id, hid, hlt, halive⟩
  · simp only [Statics.releaseRef, hnone]
    refine ⟨trivial, h, ?_, trivial, trivial⟩
    intro id hid
    rw [hnone] at hid
    cases hid
  · simp only [Statics.releaseRef, hid]
    refine ⟨trivial, destroy_sound h hlt halive, ?_, rfl, rfl⟩
    intro other hother
    have hother' : some id = some other := hid.symm.trans hother
    have hdestroyed : (s.destroy id).destroyed id = s.destroyed id + 1 := Function.update_self ..
    rw [← Option.some.inj hother', hdestroyed]
    exact Nat.succ_ne_zero _

/-! ### Steps -/

theorem beginStep_same (env : Surroundings) (s : Statics) (input : Option InstanceId)
    (step : RunStep) :
    s.SameObjects (s.beginStep env input step) ∧ (s.beginStep env input step).refs = s.refs := by
  cases input with
  | none => exact ⟨⟨rfl, rfl, rfl⟩, rfl⟩
  | some id =>
    rw [Statics.beginStep]
    split_ifs
    · exact ⟨⟨rfl, rfl, rfl⟩, rfl⟩
    · exact ⟨⟨rfl, rfl, rfl⟩, rfl⟩

theorem endStep_same (env : Surroundings) (s : Statics) (step : RunStep) :
    s.SameObjects (s.endStep env step) ∧ (s.endStep env step).refs = s.refs := by
  rw [Statics.endStep]
  split_ifs
  · exact ⟨⟨rfl, rfl, rfl⟩, rfl⟩
  · exact ⟨⟨rfl, rfl, rfl⟩, rfl⟩

theorem mainStep_safe (env : Surroundings) (start : Program) (s : Statics) (m : MainPoint)
    (h : MainSafe s m) :
    MainSafe (mainStep env start s m).1.1 (mainStep env start s m).1.2 := by
  obtain ⟨hsound, hrefs, hpointer, hinstalled⟩ := h
  cases m with
  | getRef stmt =>
    -- no signal is handled before `run`
    have hquiet : s.installed ≠ true := fun h => hinstalled h trivial
    cases stmt with
    | test =>
      have hnext : mainStep env start s (.getRef .test) = ((s, .getRef .construct), []) := by
        have hnone : s.instancePtr = none := hpointer
        simp only [mainStep, Statics.getRef, if_pos hnone]
      rw [hnext]
      exact ⟨hsound, hrefs, hpointer, fun h => absurd h hquiet⟩
    | construct =>
      obtain ⟨hsound', hlive⟩ := construct_live hsound
      exact ⟨hsound', hrefs, hlive, fun h => absurd h hquiet⟩
    | count =>
      have hsame := count_same s
      have hzero : s.refs = 0 := hrefs
      have hone : s.refs + 1 = 1 := by omega
      exact ⟨hsame.sound hsound, hone, hsame.live hpointer, fun h => absurd h hquiet⟩
    | deref => exact ⟨hsound, hrefs, ⟨hpointer, rfl⟩, fun h => absurd h hquiet⟩
  | run input program steps =>
    cases steps with
    | nil => exact ⟨hsound, hrefs, hpointer.1, fun _ => id⟩
    | cons step steps =>
      obtain ⟨hsame, hrefs'⟩ := beginStep_same env s input step
      exact ⟨hsame.sound hsound, hrefs'.trans hrefs,
        MainPoint.Pointer.same (m := .within input program step steps) hsame hpointer, fun _ => id⟩
  | within input program step steps =>
    obtain ⟨hsame, hrefs'⟩ := endStep_same env s step
    simp only [mainStep]
    cases (program.attempt env step).thrown with
    | none =>
      exact ⟨hsame.sound hsound, hrefs'.trans hrefs,
        ⟨hsame.live hpointer.1, hpointer.2.trans hsame.1.symm⟩, fun _ => id⟩
    | some t =>
      exact ⟨hsame.sound hsound, hrefs'.trans hrefs, hsame.live hpointer.1, fun _ => id⟩
  | releaseRef stmt retval =>
    cases stmt with
    | decrement =>
      have hsame := decrement_same s
      have hone : s.refs = 1 := hrefs
      have hzero : s.refs - 1 = 0 := by omega
      exact ⟨hsame.sound hsound, hzero, Or.inr (hsame.live hpointer), fun _ => id⟩
    | test =>
      have hnext : mainStep env start s (.releaseRef .test retval) =
          ((s, .releaseRef .delete retval), []) := by
        have hzero : s.refs = 0 := hrefs
        simp only [mainStep, Statics.releaseRef, if_pos hzero]
      rw [hnext]
      exact ⟨hsound, hrefs, hpointer, fun _ => id⟩
    | delete =>
      obtain ⟨hnext, hsound', hdestroyed, hrefs', -⟩ := delete_destroyed hsound hpointer
      simp only [mainStep, hnext]
      exact ⟨hsound', hrefs'.trans hrefs, hdestroyed, fun _ => id⟩
    | clear => exact ⟨⟨hsound.fresh, hsound.once⟩, hrefs, rfl, fun _ => id⟩
  | returned retval => exact ⟨hsound, hrefs, hpointer, hinstalled⟩

theorem signal_enters {s : Statics} {m : MainPoint} (h : MainSafe s m)
    (hinstalled : s.installed = true) (hcleared : PointerCleared s m) :
    HandlerSafe s m (.getRef .test) := by
  obtain ⟨hsound, hrefs, hpointer, hbegun⟩ := h
  refine ⟨hsound, hrefs.trans (Int.add_zero _).symm, ?_, fun _ => hpointer, hbegun hinstalled⟩
  cases m with
  | getRef stmt => exact absurd trivial (hbegun hinstalled)
  | run => exact Or.inr hpointer.1
  | within => exact Or.inr hpointer.1
  | releaseRef stmt retval =>
    cases stmt with
    | decrement => exact Or.inr hpointer
    | test => exact hpointer
    | delete => exact hpointer
    | clear => exact Or.inl (hcleared rfl)
  | returned => exact Or.inl hpointer

theorem signalHandler_safe (s : Statics) (m : MainPoint) (h : HandlerPoint)
    (hs : HandlerSafe s m h) :
    Invariant MainSafe HandlerSafe
      ⟨(signalHandler s h).1.1, m, (signalHandler s h).1.2⟩ := by
  obtain ⟨hsound, hrefs, hpointer, hwaiting, hbegun⟩ := hs
  cases h with
  | getRef stmt =>
    cases stmt with
    | test =>
      by_cases hnone : s.instancePtr = none
      · have hnext : signalHandler s (.getRef .test) = ((s, some (.getRef .construct)), []) := by
          simp only [signalHandler, Statics.getRef, if_pos hnone]
        rw [hnext]
        exact ⟨hsound, hrefs, hnone, hwaiting, hbegun⟩
      · have hnext : signalHandler s (.getRef .test) = ((s, some (.getRef .count)), []) := by
          simp only [signalHandler, Statics.getRef, if_neg hnone]
        rw [hnext]
        exact ⟨hsound, hrefs, hpointer.live hnone, hwaiting, hbegun⟩
    | construct =>
      -- `main` holds no reference to an object that is not there
      have hfree : m.held ≠ 1 := fun hheld => ((hwaiting hheld).live hheld).ptr_ne_none hpointer
      obtain ⟨hsound', hlive⟩ := construct_live hsound
      exact ⟨hsound', hrefs, hlive, fun hheld => absurd hheld hfree, hbegun⟩
    | count =>
      have hsame := count_same s
      have hcounted : s.refs + 1 = m.held + 1 := by
        rw [hrefs]
        exact congrArg (fun n => n + 1) (Int.add_zero m.held)
      exact ⟨hsame.sound hsound, hcounted, hsame.live hpointer,
        fun hheld => (hwaiting hheld).same hsame, hbegun⟩
    | deref => exact ⟨hsound, hrefs, ⟨hpointer, rfl⟩, hwaiting, hbegun⟩
  | stop input => exact ⟨hsound, hrefs, hpointer.1, hwaiting, hbegun⟩
  | releaseRef stmt =>
    cases stmt with
    | decrement =>
      have hsame := decrement_same s
      have hreleased : s.refs - 1 = m.held + 0 := by
        have hheld : s.refs = m.held + 1 := hrefs
        omega
      exact ⟨hsame.sound hsound, hreleased, hsame.live hpointer,
        fun hheld => (hwaiting hheld).same hsame, hbegun⟩
    | test =>
      have hheld : s.refs = m.held := hrefs.trans (Int.add_zero m.held)
      by_cases hzero : s.refs = 0
      · have hnext : signalHandler s (.releaseRef .test) =
            ((s, some (.releaseRef .delete)), []) := by
          simp only [signalHandler, Statics.releaseRef, if_pos hzero, Option.map_some]
        rw [hnext]
        exact ⟨hsound, hrefs, ⟨hpointer, hheld.symm.trans hzero⟩, hwaiting, hbegun⟩
      · have hnext : signalHandler s (.releaseRef .test) = ((s, none), []) := by
          simp only [signalHandler, Statics.releaseRef, if_neg hzero, Option.map_none]
        rw [hnext]
        -- the reference that is left is the one of `main`
        have hone : m.held = 1 := m.held_cases.resolve_left fun h => hzero (hheld.trans h)
        exact ⟨hsound, hheld, hwaiting hone, fun _ => hbegun⟩
    | delete =>
      obtain ⟨hlive, hfree⟩ := hpointer
      obtain ⟨hnext, hsound', -, hrefs', -⟩ := delete_destroyed hsound hlive.valid
      simp only [signalHandler, hnext, Option.map_some]
      refine ⟨hsound', hrefs'.trans hrefs, hfree, ?_, hbegun⟩
      intro hheld
      rw [hfree] at hheld
      cases hheld
    | clear =>
      have hfree : m.held = 0 := hpointer
      have hheld : s.refs = m.held := hrefs.trans (Int.add_zero m.held)
      exact ⟨⟨hsound.fresh, hsound.once⟩, hheld, MainPoint.pointer_cleared rfl hfree hbegun,
        fun _ => hbegun⟩

theorem process_preserves (env : Surroundings) (start : Program) :
    Preserves (process env start) PointerCleared MainSafe HandlerSafe where
  main := mainStep_safe env start
  enter := fun _ _ h hinstalled hcleared => signal_enters h hinstalled hcleared
  handler := signalHandler_safe

theorem init_safe : Invariant MainSafe HandlerSafe processInit := by
  refine ⟨⟨fun _ _ => rfl, fun _ => Nat.zero_le 1⟩, rfl, rfl, ?_⟩
  intro h
  cases h

/-! ### Calls of `stop` -/

theorem getRef_calls (s : Statics) (stmt : GetRef) (input : Option InstanceId) :
    .stop input ∉ (s.getRef stmt).2 := by
  cases stmt <;> simp [Statics.getRef]

theorem releaseRef_calls (s : Statics) (stmt : ReleaseRef) (input : Option InstanceId) :
    .stop input ∉ (s.releaseRef stmt).2 := by
  cases stmt with
  | delete =>
    rw [Statics.releaseRef]
    cases s.instancePtr <;> simp
  | _ => exact List.not_mem_nil

theorem mainStep_calls (env : Surroundings) (start : Program) (s : Statics) (m : MainPoint)
    (input : Option InstanceId) : .stop input ∉ (mainStep env start s m).2 := by
  cases m with
  | getRef stmt => exact getRef_calls s stmt input
  | run _ _ steps => cases steps <;> exact List.not_mem_nil
  | within => exact List.not_mem_nil
  | releaseRef stmt => exact releaseRef_calls s stmt input
  | returned => exact List.not_mem_nil

theorem signalHandler_calls {s : Statics} {h : HandlerPoint} {input : Option InstanceId}
    (hstop : .stop input ∈ (signalHandler s h).2) : h = .stop input := by
  cases h with
  | getRef stmt => exact absurd hstop (getRef_calls s stmt input)
  | releaseRef stmt => exact absurd hstop (releaseRef_calls s stmt input)
  | stop input' =>
    rcases List.mem_cons.mp hstop with heq | hlistener
    · rw [InstanceCall.stop.inj heq]
    · cases input' with
      | none => exact absurd hlistener List.not_mem_nil
      | some id =>
        dsimp only at hlistener
        split_ifs at hlistener
        · cases List.mem_singleton.mp hlistener
        · exact absurd hlistener List.not_mem_nil

/-! ### Runs -/

theorem invariant_refs {s : ProcessState} (h : Invariant MainSafe HandlerSafe s) :
    s.shared.Sound ∧ s.shared.refs = heldRefs s := by
  obtain ⟨shared, main, handler⟩ := s
  cases handler with
  | none => exact ⟨h.sound, h.refs.trans (Int.add_zero _).symm⟩
  | some point => exact ⟨h.sound, h.refs⟩

theorem signalSafe_step (env : Surroundings) (start : Program) (s : ProcessState)
    (ev : Interrupts.Event) (hev : Admits (process env start) PointerCleared s ev)
    (hs : Invariant MainSafe HandlerSafe s) : SignalSafe env start s ev := by
  have hnext := step_invariant (process_preserves env start) s ev hev hs
  obtain ⟨hsound, hrefs⟩ := invariant_refs hnext
  refine ⟨?_, hsound.once, hrefs⟩
  intro input hstop
  obtain ⟨shared, main, handler⟩ := s
  cases ev with
  | signal =>
    rw [Machine.step] at hstop
    split_ifs at hstop
    · exact absurd hstop List.not_mem_nil
    · exact absurd hstop List.not_mem_nil
  | advance =>
    cases handler with
    | none => exact absurd hstop (mainStep_calls env start shared main input)
    | some point =>
      have hpoint : point = .stop input := signalHandler_calls hstop
      subst hpoint
      obtain ⟨⟨id, hid, -, halive⟩, hinput⟩ := hs.pointer
      exact ⟨id, hinput.trans hid, halive⟩

/-- A handler that begins when the pointer leads to a destroyed object stops this object. -/
theorem dangling_unsafe (env : Surroundings) (start : Program) {s : ProcessState}
    (hs : Invariant MainSafe HandlerSafe s)
    (hsignal : ¬Admits (process env start) PointerCleared s .signal) :
    ¬Along (process env start).step (SignalSafe env start) s
      (.signal :: List.replicate 4 .advance) := by
  obtain ⟨⟨ptr, refs, constructed, destroyed, listener, installed⟩, main, handler⟩ := s
  rw [Admits, Classical.not_imp, Classical.not_imp, Classical.not_imp, PointerCleared,
    Classical.not_imp] at hsignal
  obtain ⟨-, hnone, hinstalled, hclears, hset⟩ := hsignal
  have hinstalled' : installed = true := hinstalled
  have hnone' : handler = none := hnone
  subst hinstalled' hnone'
  -- `main` is about to clear the pointer
  obtain ⟨retval, rfl⟩ : ∃ retval, main = .releaseRef .clear retval := by
    cases main with
    | releaseRef stmt retval =>
      cases stmt with
      | clear => exact ⟨retval, rfl⟩
      | _ => cases hclears
    | _ => cases hclears
  have hptr : ptr ≠ none := hset
  obtain ⟨id, rfl⟩ := Option.ne_none_iff_exists'.mp hptr
  have hdestroyed : destroyed id ≠ 0 := hs.pointer id rfl
  -- the handler comes to its call of `stop`
  rintro ⟨-, -, -, -, hsafe, -⟩
  obtain ⟨id', hid, halive⟩ := hsafe.stop (some id) List.mem_cons_self
  cases hid
  exact hdestroyed halive

/-- The handler is safe in every run without a signal between the `delete` and the assignment, and
the first such signal that finds the pointer set makes it unsafe. No signal changes what `main`
returns. -/
theorem signals_safe (env : Surroundings) (start : Program) (evs : List Interrupts.Event)
    (hevs : Along (process env start).step (Admits (process env start) PointerCleared) processInit
      evs) :
    Along (process env start).step (SignalSafe env start) processInit evs ∧
      (¬Admits (process env start) PointerCleared
          (run (process env start).step processInit evs).1 .signal →
        ¬Along (process env start).step (SignalSafe env start) processInit
          (evs ++ .signal :: List.replicate 4 .advance)) ∧
      ∀ retval, (run (process env start).step processInit evs).1.main = .returned retval →
        retval = (start.run env).retval := by
  have hpreserves := process_preserves env start
  refine ⟨?_, ?_, fun retval hreturned => returned_retval env start evs hreturned⟩
  · exact along_of_preserves hpreserves (signalSafe_step env start) evs processInit init_safe hevs
  · intro hsignal hsafe
    have hend := run_preserves hpreserves evs processInit init_safe hevs
    rw [along_append] at hsafe
    exact dangling_unsafe env start hend hsignal hsafe.2

/-- Signals while the listener runs, after the count has become zero, and at the end. The second
handler destroys the object, and the third one constructs another. -/
def interruptedEvents : List Interrupts.Event :=
  List.replicate 19 .advance ++ .signal :: List.replicate 11 .advance ++
    .signal :: List.replicate 11 .advance ++ .signal :: List.replicate 8 .advance

theorem signals_safe_interrupted :
    let env := pidSurroundings "/run/psmoveinput.pid"
    let start := homeProgram "/run/psmoveinput.pid"
    Along (process env start).step (SignalSafe env start) processInit interruptedEvents := by
  intro env start
  have hevs : Along (process env start).step (Admits (process env start) PointerCleared) processInit
      interruptedEvents := by decide +kernel
  exact (signals_safe env start interruptedEvents hevs).1

/-- Up to the assignment that clears the pointer, in a process where nothing fails. -/
def deletedEvents : List Interrupts.Event := List.replicate 26 .advance

/-- The handler stops a destroyed object, and destroys it again. -/
theorem signal_after_delete :
    let env := pidSurroundings "/run/psmoveinput.pid"
    let start := homeProgram "/run/psmoveinput.pid"
    let evs := deletedEvents ++ .signal :: List.replicate 4 .advance
    (run (process env start).step processInit (evs ++ List.replicate 3 .advance)).2 =
        [.constructor 0, .destructor 0, .stop (some 0), .stopListener 0, .destructor 0] ∧
      ¬Along (process env start).step (SignalSafe env start) processInit evs := by
  intro env start evs
  constructor
  · decide +kernel
  · have hadmits : Along (process env start).step (Admits (process env start) PointerCleared)
        processInit deletedEvents := by decide +kernel
    have hend := run_preserves (process_preserves env start) deletedEvents processInit init_safe
      hadmits
    rw [along_append]
    intro hsafe
    exact dangling_unsafe env start hend (by decide +kernel) hsafe.2

end PSMoveInput

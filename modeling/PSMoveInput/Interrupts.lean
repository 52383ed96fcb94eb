import PSMoveInput.Transducer

/-! A program and a handler that interrupts it between two steps. The handler runs to completion and
is not interrupted itself. -/
namespace Interrupts

variable {σ μ η ε : Type*}

/-- What the two share, the point that the program has come to, and the point of the handler while
it runs. -/
structure State (σ μ η : Type*) where
  shared : σ
  main : μ
  handler : Option η

inductive Event where
  | advance
  | signal
  deriving DecidableEq

structure Machine (σ μ η ε : Type*) where
  mainStep : σ → μ → (σ × μ) × List ε
  /-- The handler has returned when there is no point after the step. -/
  handlerStep : σ → η → (σ × Option η) × List ε
  entry : η
  installed : σ → Bool

variable (M : Machine σ μ η ε)

def Machine.step (s : State σ μ η) : Event → State σ μ η × List ε
  | .advance =>
    match s.handler with
    | none =>
      let r := M.mainStep s.shared s.main
      (⟨r.1.1, r.1.2, none⟩, r.2)
    | some h =>
      let r := M.handlerStep s.shared h
      (⟨r.1.1, s.main, r.1.2⟩, r.2)
  | .signal =>
    -- a signal is blocked while the handler runs
    if s.handler.isNone = true ∧ M.installed s.shared = true then
      ({ s with handler := some M.entry }, [])
    else (s, [])

/-- The condition on the points at which the handler may interrupt the program. -/
def Admits (allowed : σ → μ → Prop) (s : State σ μ η) (ev : Event) : Prop :=
  ev = .signal → s.handler = none → M.installed s.shared = true → allowed s.shared s.main

instance (allowed : σ → μ → Prop) [∀ s m, Decidable (allowed s m)] (s : State σ μ η) (ev : Event) :
    Decidable (Admits M allowed s ev) :=
  decidable_of_iff (ev = .signal → s.handler.isNone = true → M.installed s.shared = true →
    allowed s.shared s.main) (by simp only [Admits, Option.isNone_iff_eq_none])

/-- An invariant of the program, and one that holds in its place while the handler runs. -/
def Invariant (I : σ → μ → Prop) (J : σ → μ → η → Prop) (s : State σ μ η) : Prop :=
  match s.handler with
  | none => I s.shared s.main
  | some h => J s.shared s.main h

/-- What the two invariants need. -/
structure Preserves (allowed : σ → μ → Prop) (I : σ → μ → Prop) (J : σ → μ → η → Prop) : Prop where
  main : ∀ s m, I s m → I (M.mainStep s m).1.1 (M.mainStep s m).1.2
  enter : ∀ s m, I s m → M.installed s = true → allowed s m → J s m M.entry
  handler : ∀ s m h, J s m h →
    Invariant I J ⟨(M.handlerStep s h).1.1, m, (M.handlerStep s h).1.2⟩

variable {M} {allowed : σ → μ → Prop} {I : σ → μ → Prop} {J : σ → μ → η → Prop}

theorem step_invariant (hp : Preserves M allowed I J) (s : State σ μ η) (ev : Event)
    (hev : Admits M allowed s ev) (hs : Invariant I J s) : Invariant I J (M.step s ev).1 := by
  obtain ⟨shared, main, handler⟩ := s
  cases ev with
  | advance =>
    cases handler with
    | none => exact hp.main shared main hs
    | some h => exact hp.handler shared main h hs
  | signal =>
    rw [Machine.step]
    split_ifs with hinstalled
    · have hnone : handler = none := Option.isNone_iff_eq_none.mp hinstalled.1
      subst hnone
      exact hp.enter shared main hs hinstalled.2 (hev rfl rfl hinstalled.2)
    · exact hs

/-- Whatever the invariants imply of every step holds along every run that is interrupted at allowed
points only. -/
theorem along_of_preserves (hp : Preserves M allowed I J) {ok : State σ μ η → Event → Prop}
    (hok : ∀ s ev, Admits M allowed s ev → Invariant I J s → ok s ev) (evs : List Event)
    (s : State σ μ η) (hs : Invariant I J s)
    (hevs : Transducer.Along M.step (Admits M allowed) s evs) :
    Transducer.Along M.step ok s evs := by
  induction evs generalizing s with
  | nil => trivial
  | cons ev evs ih =>
    have hnext := step_invariant hp s ev hevs.1 hs
    exact ⟨hok s ev hevs.1 hs, ih _ hnext hevs.2⟩

/-- And they hold at its end. -/
theorem run_preserves (hp : Preserves M allowed I J) (evs : List Event) (s : State σ μ η)
    (hs : Invariant I J s) (hevs : Transducer.Along M.step (Admits M allowed) s evs) :
    Invariant I J (Transducer.run M.step s evs).1 :=
  Transducer.run_invariant_along M.step (Admits M allowed) (Invariant I J)
    (fun s ev => step_invariant hp s ev) evs s hs hevs

end Interrupts

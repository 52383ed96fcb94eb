import Mathlib.Order.Lattice.Nat
import Mathlib.Logic.Function.Iterate
import Mathlib.Tactic.Common

/-! Paths of a machine that makes one step at a time, with a property of the states on the way. -/
namespace Orbit

variable {σ : Type*} {step : σ → σ} {Q Q' : σ → Prop} {a b c : σ}

/-- The machine gets from the first state to the second one, and every state before the second one
has the property. -/
inductive Reaches (step : σ → σ) (Q : σ → Prop) : σ → σ → Prop
  | refl (a : σ) : Reaches step Q a a
  | head {a b : σ} (here : Q a) (rest : Reaches step Q (step a) b) : Reaches step Q a b

theorem Reaches.cons (here : Q a) (hstep : step a = b) (rest : Reaches step Q b c) :
    Reaches step Q a c := by
  subst hstep
  exact .head here rest

theorem Reaches.trans (h : Reaches step Q a b) (h' : Reaches step Q b c) : Reaches step Q a c := by
  induction h with
  | refl _ => exact h'
  | head here _ ih => exact .head here (ih h')

/-- The number of steps, and the property at each of them. -/
theorem Reaches.iterate (h : Reaches step Q a b) :
    ∃ n, step^[n] a = b ∧ ∀ k < n, Q (step^[k] a) := by
  induction h with
  | refl a => exact ⟨0, rfl, fun k hk => absurd hk (Nat.not_lt_zero k)⟩
  | head here _ ih =>
    obtain ⟨n, hn, hq⟩ := ih
    refine ⟨n + 1, hn, ?_⟩
    intro k hk
    cases k with
    | zero => exact here
    | succ k => exact hq k (Nat.lt_of_succ_lt_succ hk)

/-- A path to a state that is not left any more: the property holds forever. -/
theorem Reaches.forever (h : Reaches step Q a b) (hstop : step b = b) (hlast : Q b) (k : ℕ) :
    Q (step^[k] a) := by
  obtain ⟨n, hn, hq⟩ := h.iterate
  rcases Nat.lt_or_ge k n with hk | hk
  · exact hq k hk
  · obtain ⟨m, rfl⟩ := Nat.exists_eq_add_of_le' hk
    rw [Function.iterate_add_apply, hn, Function.iterate_fixed hstop]
    exact hlast

/-! ### Steps to a goal -/

/-- The machine comes to a goal. -/
def Comes (step : σ → σ) (p : σ → Prop) (a : σ) : Prop := ∃ n, p (step^[n] a)

/-- How many steps it takes at least. -/
noncomputable def stepsTo (step : σ → σ) (p : σ → Prop) (a : σ) : ℕ := sInf {n | p (step^[n] a)}

variable {p : σ → Prop}

theorem comes_here (h : p a) : Comes step p a := ⟨0, h⟩

theorem comes_step (h : Comes step p (step a)) : Comes step p a := by
  obtain ⟨n, hn⟩ := h
  exact ⟨n + 1, hn⟩

/-- One step nearer. -/
theorem Comes.nearer (h : Comes step p a) (ha : ¬p a) :
    Comes step p (step a) ∧ stepsTo step p (step a) < stepsTo step p a := by
  have hleast : p (step^[stepsTo step p a] a) := Nat.sInf_mem h
  cases hn : stepsTo step p a with
  | zero =>
    rw [hn] at hleast
    exact absurd hleast ha
  | succ n =>
    rw [hn] at hleast
    have hle : stepsTo step p (step a) ≤ n := Nat.sInf_le hleast
    exact ⟨⟨n, hleast⟩, by omega⟩

end Orbit

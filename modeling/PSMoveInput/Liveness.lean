import Mathlib.Data.Nat.Init
import Mathlib.Order.WellFounded
import PSMoveInput.Transducer

/-! Infinite runs of a machine, and what a fair schedule brings about in the end. -/
namespace Liveness

variable {σ ι ε κ α : Type*} (step : σ → ι → σ × List ε) (schedule : ℕ → ι) (s : σ)

/-- The state after the first `n` inputs of the schedule. -/
def stateAt : ℕ → σ
  | 0 => s
  | n + 1 => (step (stateAt n) (schedule n)).1

/-- The inputs up to the `n`-th one. -/
def inputs (n : ℕ) : List ι := (List.range n).map schedule

theorem inputs_succ (n : ℕ) : inputs schedule (n + 1) = inputs schedule n ++ [schedule n] := by
  rw [inputs, List.range_succ, List.map_append]
  rfl

theorem inputs_split (n d : ℕ) :
    inputs schedule (n + d + 1) =
      inputs schedule n ++ schedule n :: (List.range d).map fun i => schedule (n + 1 + i) := by
  induction d with
  | zero => exact inputs_succ schedule n
  | succ d ih =>
    have hlast : n + 1 + d = n + d + 1 := by omega
    rw [← Nat.add_assoc, inputs_succ, ih, List.range_succ, List.map_append]
    simp only [List.append_assoc, List.cons_append, List.map_cons, List.map_nil, hlast]

theorem stateAt_eq_run (n : ℕ) :
    stateAt step schedule s n = (Transducer.run step s (inputs schedule n)).1 := by
  induction n with
  | zero => rfl
  | succ n ih =>
    rw [inputs_succ, Transducer.run_append, ← ih]
    rfl

/-- The run from a later time on. -/
theorem stateAt_add (n m : ℕ) : stateAt step schedule s (n + m) =
    stateAt step (fun k => schedule (n + k)) (stateAt step schedule s n) m := by
  induction m with
  | zero => rfl
  | succ m ih =>
    rw [← Nat.add_assoc, stateAt, ih]
    rfl

/-- A condition that holds up to a time holds along the run up to this time. -/
theorem along_inputs {ok : σ → ι → Prop} {n : ℕ}
    (h : ∀ k < n, ok (stateAt step schedule s k) (schedule k)) :
    Transducer.Along step ok s (inputs schedule n) := by
  induction n with
  | zero => trivial
  | succ n ih =>
    rw [inputs_succ, Transducer.along_append]
    refine ⟨ih fun k hk => h k (by omega), ?_⟩
    have hlast := h n (by omega)
    rw [stateAt_eq_run] at hlast
    exact ⟨hlast, trivial⟩

/-- A condition that holds along the run up to a time holds up to this time. -/
theorem of_along_inputs {ok : σ → ι → Prop} {n : ℕ}
    (h : Transducer.Along step ok s (inputs schedule n)) :
    ∀ k < n, ok (stateAt step schedule s k) (schedule k) := by
  induction n with
  | zero => exact fun k hk => absurd hk (Nat.not_lt_zero k)
  | succ n ih =>
    rw [inputs_succ, Transducer.along_append, ← stateAt_eq_run] at h
    intro k hk
    rcases Nat.lt_succ_iff_lt_or_eq.mp hk with hlt | rfl
    · exact ih h.1 k hlt
    · exact h.2.1

variable {step schedule s}

/-- What every step keeps is kept from some time on. -/
theorem stateAt_stable {I : σ → Prop} (hstep : ∀ s i, I s → I (step s i).1) {n m : ℕ} (hnm : n ≤ m)
    (h : I (stateAt step schedule s n)) : I (stateAt step schedule s m) := by
  induction m, hnm using Nat.le_induction with
  | base => exact h
  | succ m _ ih => exact hstep _ _ ih

/-- What every step keeps holds at all times. -/
theorem stateAt_invariant {I : σ → Prop} (hstep : ∀ s i, I s → I (step s i).1) (h : I s) (n : ℕ) :
    I (stateAt step schedule s n) :=
  stateAt_stable hstep (Nat.zero_le n) h

variable (step)

/-- A step on the condition reaches the goal, or keeps the invariant and lowers the rank, or leaves
the rank and the helper as they are. The helper's own moves do not leave the rank. -/
def Advances [Preorder α] (ok : σ → ι → Prop) (I Q : σ → Prop) (rank : σ → α) (helper : σ → κ)
    (moves : κ → σ → ι → Prop) : Prop :=
  ∀ s i, ok s i → I s → ¬Q s → Q (step s i).1 ∨ (I (step s i).1 ∧
    (rank (step s i).1 < rank s ∨
      (rank (step s i).1 = rank s ∧ helper (step s i).1 = helper s ∧ ¬moves (helper s) s i)))

variable {step} [Preorder α] {ok : σ → ι → Prop} {I Q : σ → Prop} {rank : σ → α} {helper : σ → κ}
  {moves : κ → σ → ι → Prop}

/-- As long as nothing happens the helper of the first state stays the helper. -/
theorem Advances.waits (h : Advances step ok I Q rank helper moves)
    (hok : ∀ n, ok (stateAt step schedule s n) (schedule n)) {n : ℕ}
    (hI : I (stateAt step schedule s n)) (hQ : ¬Q (stateAt step schedule s n)) (d : ℕ) :
    (∃ m, n ≤ m ∧ (Q (stateAt step schedule s m) ∨ (I (stateAt step schedule s m) ∧
      rank (stateAt step schedule s m) < rank (stateAt step schedule s n)))) ∨
    (I (stateAt step schedule s (n + d)) ∧ ¬Q (stateAt step schedule s (n + d)) ∧
      rank (stateAt step schedule s (n + d)) = rank (stateAt step schedule s n) ∧
      helper (stateAt step schedule s (n + d)) = helper (stateAt step schedule s n)) := by
  induction d with
  | zero => exact Or.inr ⟨hI, hQ, rfl, rfl⟩
  | succ d ih =>
    rcases ih with hdone | ⟨hI', hQ', hrank, hhelper⟩
    · exact Or.inl hdone
    · have hle : n ≤ n + d + 1 := by omega
      rcases h _ (schedule (n + d)) (hok _) hI' hQ' with hgoal | ⟨hkeep, hlower | hwait⟩
      · exact Or.inl ⟨n + d + 1, hle, Or.inl hgoal⟩
      · left
        rw [hrank] at hlower
        exact ⟨n + d + 1, hle, Or.inr ⟨hkeep, hlower⟩⟩
      · obtain ⟨hsame, hstays, -⟩ := hwait
        by_cases hgoal : Q (stateAt step schedule s (n + d + 1))
        · exact Or.inl ⟨n + d + 1, hle, Or.inl hgoal⟩
        · exact Or.inr ⟨hkeep, hgoal, hsame.trans hrank, hstays.trans hhelper⟩

/-- If the helper of every state gets to move again and again, the goal is reached. -/
theorem Advances.reaches [WellFoundedLT α] (h : Advances step ok I Q rank helper moves)
    (hok : ∀ n, ok (stateAt step schedule s n) (schedule n))
    (hfair : ∀ n, I (stateAt step schedule s n) → ¬Q (stateAt step schedule s n) →
      ∃ m, n ≤ m ∧
        moves (helper (stateAt step schedule s n)) (stateAt step schedule s m) (schedule m))
    (n : ℕ) (hI : I (stateAt step schedule s n)) : ∃ m, n ≤ m ∧ Q (stateAt step schedule s m) := by
  -- induction on the rank: the helper's next move lowers it at the latest
  generalize hr : rank (stateAt step schedule s n) = r
  induction r using WellFoundedLT.induction generalizing n with
  | ind r ih =>
    by_cases hQ : Q (stateAt step schedule s n)
    · exact ⟨n, le_rfl, hQ⟩
    obtain ⟨m, hnm, hmove⟩ := hfair n hI hQ
    obtain ⟨d, rfl⟩ := Nat.exists_eq_add_of_le hnm
    have hlower (m' : ℕ) (hm' : n ≤ m') (hI' : I (stateAt step schedule s m'))
        (hlt : rank (stateAt step schedule s m') < rank (stateAt step schedule s n)) :
        ∃ m, n ≤ m ∧ Q (stateAt step schedule s m) := by
      obtain ⟨m, hm, hgoal⟩ := ih _ (hr ▸ hlt) m' hI' rfl
      exact ⟨m, hm'.trans hm, hgoal⟩
    rcases h.waits hok hI hQ d with ⟨m', hm', hgoal | ⟨hI', hlt⟩⟩ | ⟨hI', hQ', hrank, hhelper⟩
    · exact ⟨m', hm', hgoal⟩
    · exact hlower m' hm' hI' hlt
    · have hle : n ≤ n + d + 1 := by omega
      rcases h _ (schedule (n + d)) (hok _) hI' hQ' with hgoal | ⟨hkeep, hlt | ⟨-, -, hidle⟩⟩
      · exact ⟨n + d + 1, hle, hgoal⟩
      · rw [hrank] at hlt
        exact hlower (n + d + 1) hle hkeep hlt
      · rw [hhelper] at hidle
        exact absurd hmove hidle

end Liveness

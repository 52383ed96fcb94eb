import Mathlib.Data.List.Basic
import Mathlib.Tactic.Common

/-! Sequences of steps that may throw: the first one that does is the last one. -/
namespace Attempt

variable {σ ι ε τ : Type*}

/-- The state after a step, what it has done, and what it throws. -/
structure Outcome (σ ε τ : Type*) where
  state : σ
  outputs : List ε
  thrown : Option τ

def run (exec : σ → ι → Outcome σ ε τ) (s : σ) : List ι → Outcome σ ε τ
  | [] => ⟨s, [], none⟩
  | i :: is =>
    let r := exec s i
    match r.thrown with
    | some t => ⟨r.state, r.outputs, some t⟩
    | none =>
      let rest := run exec r.state is
      ⟨rest.state, r.outputs ++ rest.outputs, rest.thrown⟩

variable {exec : σ → ι → Outcome σ ε τ} {s : σ} {i : ι} {t : τ}

theorem run_cons_thrown (h : (exec s i).thrown = some t) (is : List ι) :
    run exec s (i :: is) = exec s i := by
  simp only [run, h]
  rw [← h]

theorem run_cons_returned (h : (exec s i).thrown = none) (is : List ι) :
    run exec s (i :: is) =
      ⟨(run exec (exec s i).state is).state,
        (exec s i).outputs ++ (run exec (exec s i).state is).outputs,
        (run exec (exec s i).state is).thrown⟩ := by
  simp only [run, h]

/-- A sequence that has returned has gone through each of its steps. -/
theorem returned_of_cons {is : List ι} (h : (run exec s (i :: is)).thrown = none) :
    (exec s i).thrown = none ∧ (run exec (exec s i).state is).thrown = none := by
  cases hthrown : (exec s i).thrown with
  | none =>
    rw [run_cons_returned hthrown] at h
    exact ⟨rfl, h⟩
  | some t =>
    rw [run_cons_thrown hthrown, hthrown] at h
    cases h

theorem run_append_thrown {is : List ι} (h : (run exec s is).thrown = some t) (js : List ι) :
    run exec s (is ++ js) = run exec s is := by
  induction is generalizing s with
  | nil => cases h
  | cons i is ih =>
    rw [List.cons_append]
    cases hthrown : (exec s i).thrown with
    | some t => rw [run_cons_thrown hthrown, run_cons_thrown hthrown]
    | none =>
      rw [run_cons_returned hthrown] at h
      rw [run_cons_returned hthrown, run_cons_returned hthrown, ih h]

theorem run_append_returned {is : List ι} (h : (run exec s is).thrown = none) (js : List ι) :
    run exec s (is ++ js) =
      ⟨(run exec (run exec s is).state js).state,
        (run exec s is).outputs ++ (run exec (run exec s is).state js).outputs,
        (run exec (run exec s is).state js).thrown⟩ := by
  induction is generalizing s with
  | nil => rfl
  | cons i is ih =>
    obtain ⟨hhead, htail⟩ := returned_of_cons h
    rw [List.cons_append, run_cons_returned hhead, run_cons_returned hhead, ih htail]
    simp only [List.append_assoc]

theorem returned_of_append {is js : List ι} (h : (run exec s (is ++ js)).thrown = none) :
    (run exec s is).thrown = none ∧ (run exec (run exec s is).state js).thrown = none := by
  cases hthrown : (run exec s is).thrown with
  | none =>
    rw [run_append_returned hthrown] at h
    exact ⟨rfl, h⟩
  | some t =>
    rw [run_append_thrown hthrown, hthrown] at h
    cases h

/-- What a sequence throws one of its steps throws. -/
theorem run_thrown (T : τ → Prop) (is : List ι)
    (hstep : ∀ s, ∀ i ∈ is, ∀ t, (exec s i).thrown = some t → T t)
    (h : (run exec s is).thrown = some t) : T t := by
  induction is generalizing s with
  | nil => cases h
  | cons i is ih =>
    cases hthrown : (exec s i).thrown with
    | some u =>
      rw [run_cons_thrown hthrown] at h
      exact hstep s i List.mem_cons_self t h
    | none =>
      rw [run_cons_returned hthrown] at h
      apply ih _ h
      intro s j hj
      exact hstep s j (List.mem_cons_of_mem i hj)

/-- Something that only one of the steps throws, this step has thrown. -/
theorem thrown_by (before after : List ι) (hbefore : ∀ s, ∀ j ∈ before, (exec s j).thrown ≠ some t)
    (hafter : ∀ s, ∀ j ∈ after, (exec s j).thrown ≠ some t)
    (h : (run exec s (before ++ i :: after)).thrown = some t) :
    (run exec s before).thrown = none ∧
      (exec (run exec s before).state i).thrown = some t ∧
      (run exec s (before ++ i :: after)).state = (exec (run exec s before).state i).state := by
  cases hearly : (run exec s before).thrown with
  | some u =>
    rw [run_append_thrown hearly, hearly] at h
    refine absurd h (run_thrown (fun u => some u ≠ some t) before ?_ hearly)
    intro s j hj u hu
    rw [← hu]
    exact hbefore s j hj
  | none =>
    rw [run_append_returned hearly] at h ⊢
    cases hthrown : (exec (run exec s before).state i).thrown with
    | some u =>
      rw [run_cons_thrown hthrown] at h ⊢
      exact ⟨rfl, hthrown.symm.trans h, rfl⟩
    | none =>
      rw [run_cons_returned hthrown] at h
      refine absurd rfl (run_thrown (fun u => u ≠ t) after ?_ h)
      intro s j hj u hu heq
      rw [heq] at hu
      exact hafter s j hj hu

/-- What each step preserves a sequence preserves, and what each step does under it is all that is
done. -/
theorem run_invariant (I : σ → Prop) (Q : ε → Prop) (is : List ι)
    (hstep : ∀ s, ∀ i ∈ is, I s → I (exec s i).state ∧ ∀ e ∈ (exec s i).outputs, Q e) (hs : I s) :
    I (run exec s is).state ∧ ∀ e ∈ (run exec s is).outputs, Q e := by
  induction is generalizing s with
  | nil => exact ⟨hs, fun e he => absurd he List.not_mem_nil⟩
  | cons i is ih =>
    obtain ⟨hnext, hhead⟩ := hstep s i List.mem_cons_self hs
    cases hthrown : (exec s i).thrown with
    | some t =>
      rw [run_cons_thrown hthrown]
      exact ⟨hnext, hhead⟩
    | none =>
      rw [run_cons_returned hthrown]
      obtain ⟨hend, htail⟩ := ih (fun s j hj => hstep s j (List.mem_cons_of_mem i hj)) hnext
      refine ⟨hend, ?_⟩
      intro e he
      rcases List.mem_append.mp he with he | he
      · exact hhead e he
      · exact htail e he

end Attempt

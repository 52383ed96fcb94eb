import Mathlib.Data.List.Basic
import Mathlib.Tactic.Common

/-! Deterministic machines that answer every input with a list of outputs.
Loops over a list, sequences of calls and schedules are all runs of such a machine. -/
namespace Transducer

variable {σ τ ι ε : Type*}

/-- Feed the inputs one after another and concatenate the outputs. -/
def run (step : σ → ι → σ × List ε) (s : σ) : List ι → σ × List ε
  | [] => (s, [])
  | i :: is =>
    let r := step s i
    let t := run step r.1 is
    (t.1, r.2 ++ t.2)

/-- The outputs of a run, kept input by input. -/
def answers (step : σ → ι → σ × List ε) (s : σ) : List ι → List (ι × List ε)
  | [] => []
  | i :: is => (i, (step s i).2) :: answers step (step s i).1 is

variable (step : σ → ι → σ × List ε)

@[simp] theorem run_nil (s : σ) : run step s [] = (s, []) := rfl

@[simp] theorem run_cons_fst (s : σ) (i : ι) (is : List ι) :
    (run step s (i :: is)).1 = (run step (step s i).1 is).1 := rfl

@[simp] theorem run_cons_snd (s : σ) (i : ι) (is : List ι) :
    (run step s (i :: is)).2 = (step s i).2 ++ (run step (step s i).1 is).2 := rfl

theorem run_append (s : σ) (is js : List ι) :
    run step s (is ++ js) = ((run step (run step s is).1 js).1,
      (run step s is).2 ++ (run step (run step s is).1 js).2) := by
  induction is generalizing s with
  | nil => rfl
  | cons i is ih =>
    have h := ih (step s i).1
    apply Prod.ext
    · simp only [List.cons_append, run_cons_fst, h]
    · simp only [List.cons_append, run_cons_snd, run_cons_fst, h, List.append_assoc]

theorem run_eq_answers (s : σ) (is : List ι) :
    (run step s is).2 = (answers step s is).flatMap Prod.snd := by
  induction is generalizing s with
  | nil => rfl
  | cons i is ih =>
    calc
      (run step s (i :: is)).2 = (step s i).2 ++ (run step (step s i).1 is).2 := rfl
      _ = (step s i).2 ++ (answers step (step s i).1 is).flatMap Prod.snd := by rw [ih]
      _ = (answers step s (i :: is)).flatMap Prod.snd := rfl

/-- What one step preserves a run preserves. -/
theorem run_invariant (I : σ → Prop) (is : List ι)
    (hstep : ∀ s, ∀ i ∈ is, I s → I (step s i).1) (s : σ) (hs : I s) :
    I (run step s is).1 := by
  induction is generalizing s with
  | nil => exact hs
  | cons i is ih =>
    have hnext := hstep s i List.mem_cons_self hs
    rw [run_cons_fst]
    apply ih
    · intro s j hj
      exact hstep s j (List.mem_cons_of_mem i hj)
    · exact hnext

/-- A relation between start, outputs and end that is closed under concatenation
holds of a run as soon as it holds of the steps. The invariant may be used at each step. -/
theorem run_trace (I : σ → Prop) (T : σ → List ε → σ → Prop) (hnil : ∀ s, T s [] s)
    (happ : ∀ s t u es fs, T s es t → T t fs u → T s (es ++ fs) u) (is : List ι)
    (hinv : ∀ s, ∀ i ∈ is, I s → I (step s i).1)
    (hstep : ∀ s, ∀ i ∈ is, I s → T s (step s i).2 (step s i).1) (s : σ) (hs : I s) :
    T s (run step s is).2 (run step s is).1 := by
  induction is generalizing s with
  | nil => exact hnil s
  | cons i is ih =>
    rw [run_cons_fst, run_cons_snd]
    have hhead := hstep s i List.mem_cons_self hs
    have hnext := hinv s i List.mem_cons_self hs
    have htail := ih (fun s j hj => hinv s j (List.mem_cons_of_mem i hj))
      (fun s j hj => hstep s j (List.mem_cons_of_mem i hj)) _ hnext
    exact happ _ _ _ _ _ hhead htail

/-- A loop in which one of the inputs answers outputs what this input does. -/
theorem flatMap_single {l : List ι} (hl : l.Nodup) {a : ι} (ha : a ∈ l) (f : ι → List ε)
    (hf : ∀ x ∈ l, x ≠ a → f x = []) : l.flatMap f = f a := by
  induction l with
  | nil => simp at ha
  | cons x l ih =>
    rw [List.nodup_cons] at hl
    rw [List.flatMap_cons]
    rcases List.mem_cons.mp ha with rfl | ha
    · -- the input stands at the head, and not again in the tail
      have htail : l.flatMap f = [] := by
        apply List.flatMap_eq_nil_iff.mpr
        intro y hy
        have hne : y ≠ a := fun h => hl.1 (h ▸ hy)
        exact hf y (List.mem_cons_of_mem _ hy) hne
      rw [htail, List.append_nil]
    · -- the head is another input and is silent
      have hx : x ≠ a := fun h => hl.1 (h ▸ ha)
      rw [hf x List.mem_cons_self hx, List.nil_append]
      exact ih hl.2 ha fun y hy => hf y (List.mem_cons_of_mem x hy)

/-- Outputs that do not depend on the state. -/
theorem run_outputs (f : ι → List ε) (is : List ι) (hf : ∀ s, ∀ i ∈ is, (step s i).2 = f i)
    (s : σ) : (run step s is).2 = is.flatMap f := by
  induction is generalizing s with
  | nil => rfl
  | cons i is ih =>
    have hhead := hf s i List.mem_cons_self
    have htail := ih (fun s j hj => hf s j (List.mem_cons_of_mem i hj)) (step s i).1
    rw [run_cons_snd, List.flatMap_cons, hhead, htail]

/-- A part of the state that every step updates on its own is updated by a fold. -/
theorem run_view {β : Type*} (view : σ → β) (f : β → ι → β) (is : List ι)
    (hf : ∀ s, ∀ i ∈ is, view (step s i).1 = f (view s) i) (s : σ) :
    view (run step s is).1 = is.foldl f (view s) := by
  induction is generalizing s with
  | nil => rfl
  | cons i is ih =>
    have htail := ih (fun s j hj => hf s j (List.mem_cons_of_mem i hj)) (step s i).1
    calc
      view (run step s (i :: is)).1 = is.foldl f (view (step s i).1) := htail
      _ = is.foldl f (f (view s) i) := by rw [hf s i List.mem_cons_self]
      _ = (i :: is).foldl f (view s) := rfl

/-- A change of state that commutes with every step commutes with a run. -/
theorem run_map (f : σ → σ) (is : List ι)
    (hf : ∀ s, ∀ i ∈ is, step (f s) i = (f (step s i).1, (step s i).2)) (s : σ) :
    run step (f s) is = (f (run step s is).1, (run step s is).2) := by
  induction is generalizing s with
  | nil => rfl
  | cons i is ih =>
    have h := hf s i List.mem_cons_self
    have ht := ih (fun s j hj => hf s j (List.mem_cons_of_mem i hj)) (step s i).1
    apply Prod.ext
    · simp only [run_cons_fst, h, ht]
    · simp only [run_cons_snd, h, ht]

/-- The condition holds at every step of a run. -/
def Along (ok : σ → ι → Prop) (s : σ) : List ι → Prop
  | [] => True
  | i :: is => ok s i ∧ Along ok (step s i).1 is

instance (ok : σ → ι → Prop) [∀ s i, Decidable (ok s i)] (s : σ) (is : List ι) :
    Decidable (Along step ok s is) := by
  induction is generalizing s with
  | nil => exact instDecidableTrue
  | cons i is ih => exact @instDecidableAnd _ _ _ (ih _)

/-- Unwinding. Inputs outside `keep` change nothing that the relation sees, and the others
get equal answers from related states: deleting the former leaves the answers of the latter.
The steps may rely on a condition that holds along the run. -/
theorem answers_filter_along (keep : ι → Bool) (ok : σ → ι → Prop) (R : σ → σ → Prop)
    (hkeep : ∀ s t i, keep i = true → ok s i → R s t →
      (step s i).2 = (step t i).2 ∧ R (step s i).1 (step t i).1)
    (hdrop : ∀ s t i, keep i = false → ok s i → R s t → R (step s i).1 t)
    (is : List ι) (s t : σ) (h : R s t) (hok : Along step ok s is) :
    (answers step s is).filter (fun a => keep a.1) = answers step t (is.filter keep) ∧
      R (run step s is).1 (run step t (is.filter keep)).1 := by
  induction is generalizing s t with
  | nil => exact ⟨rfl, h⟩
  | cons i is ih =>
    cases hk : keep i
    · -- only the full run moves, and the relation survives
      have hnext := hdrop s t i hk hok.1 h
      simp only [answers, List.filter_cons, hk, Bool.false_eq_true, ↓reduceIte]
      exact ih _ _ hnext hok.2
    · -- both runs move, with the same answer
      obtain ⟨he, hr⟩ := hkeep s t i hk hok.1 h
      obtain ⟨hanswers, hend⟩ := ih _ _ hr hok.2
      simp only [answers, List.filter_cons, hk, ↓reduceIte, he, hanswers, run_cons_fst]
      exact ⟨trivial, hend⟩

/-- What an invariant says about one answer holds of all answers of a run. -/
theorem answers_along (ok : σ → ι → Prop) (I : σ → Prop) (Q : ι → List ε → Prop)
    (hstep : ∀ s i, ok s i → I s → Q i (step s i).2 ∧ I (step s i).1) (is : List ι) (s : σ)
    (hs : I s) (hok : Along step ok s is) : ∀ a ∈ answers step s is, Q a.1 a.2 := by
  induction is generalizing s with
  | nil => exact fun a ha => absurd ha List.not_mem_nil
  | cons i is ih =>
    intro a ha
    obtain ⟨hq, hnext⟩ := hstep s i hok.1 hs
    rcases List.mem_cons.mp ha with rfl | ha
    · exact hq
    · exact ih _ hnext hok.2 a ha

theorem along_of_forall {ok : σ → ι → Prop} (h : ∀ s i, ok s i) (s : σ) (is : List ι) :
    Along step ok s is := by
  induction is generalizing s with
  | nil => trivial
  | cons i is ih => exact ⟨h s i, ih _⟩

theorem along_append (ok : σ → ι → Prop) (s : σ) (is js : List ι) :
    Along step ok s (is ++ js) ↔ Along step ok s is ∧ Along step ok (run step s is).1 js := by
  induction is generalizing s with
  | nil => exact (and_iff_right trivial).symm
  | cons i is ih =>
    rw [List.cons_append, Along, Along, ih, run_cons_fst, and_assoc]

/-- Two conditions that an invariant makes equivalent hold along the same runs. -/
theorem along_congr {ok ok' : σ → ι → Prop} (I : σ → Prop) (is : List ι)
    (hstep : ∀ s, ∀ i ∈ is, I s → I (step s i).1)
    (hiff : ∀ s, ∀ i ∈ is, I s → (ok s i ↔ ok' s i)) (s : σ) (hs : I s) :
    Along step ok s is ↔ Along step ok' s is := by
  induction is generalizing s with
  | nil => exact Iff.rfl
  | cons i is ih =>
    have hnext := hstep s i List.mem_cons_self hs
    apply and_congr
    · exact hiff s i List.mem_cons_self hs
    · apply ih
      · intro s j hj
        exact hstep s j (List.mem_cons_of_mem i hj)
      · intro s j hj
        exact hiff s j (List.mem_cons_of_mem i hj)
      · exact hnext

/-- A condition that follows from an invariant holds along every run. -/
theorem along_of_invariant {ok : σ → ι → Prop} (I : σ → Prop) (is : List ι)
    (hstep : ∀ s, ∀ i ∈ is, I s → I (step s i).1) (hok : ∀ s, ∀ i ∈ is, I s → ok s i) (s : σ)
    (hs : I s) : Along step ok s is := by
  apply (along_congr step I is hstep _ s hs).mpr
  · exact along_of_forall step (fun _ _ => trivial) s is
  · intro s i hi h
    exact iff_of_true (hok s i hi h) trivial

/-- What all inputs meet can be added to a condition. -/
theorem along_and {ok : σ → ι → Prop} {p : ι → Prop} (is : List ι) (hp : ∀ i ∈ is, p i) (s : σ)
    (h : Along step ok s is) : Along step (fun s i => p i ∧ ok s i) s is := by
  induction is generalizing s with
  | nil => trivial
  | cons i is ih =>
    obtain ⟨hhead, htail⟩ := List.forall_mem_cons.mp hp
    exact ⟨⟨hhead, h.1⟩, ih htail _ h.2⟩

/-- An invariant of the state and of what has been output so far, for runs whose steps meet a
condition. -/
theorem run_history (ok : σ → ι → Prop) (I : σ → List ε → Prop)
    (hstep : ∀ s es i, ok s i → I s es → I (step s i).1 (es ++ (step s i).2)) (is : List ι)
    (s : σ) (es : List ε) (h : I s es) (hok : Along step ok s is) :
    I (run step s is).1 (es ++ (run step s is).2) := by
  induction is generalizing s es with
  | nil =>
    rw [run_nil, List.append_nil]
    exact h
  | cons i is ih =>
    have hnext := hstep s es i hok.1 h
    have hrest := ih _ _ hnext hok.2
    rw [List.append_assoc] at hrest
    exact hrest

/-- A property of the outputs that the invariant implies, that no output repairs once it is lost,
and that is lost at the first step off the condition, holds of a run exactly along the condition. -/
theorem run_history_iff (ok : σ → ι → Prop) (I : σ → List ε → Prop) (G : List ε → Prop)
    (hgood : ∀ s es, I s es → G es) (hbegin : ∀ es fs, G (es ++ fs) → G es)
    (hstep : ∀ s es i, ok s i → I s es → I (step s i).1 (es ++ (step s i).2))
    (hlost : ∀ s es i, ¬ok s i → I s es → ¬G (es ++ (step s i).2)) (is : List ι) (s : σ)
    (es : List ε) (h : I s es) : G (es ++ (run step s is).2) ↔ Along step ok s is := by
  induction is generalizing s es with
  | nil =>
    rw [run_nil, List.append_nil]
    exact iff_of_true (hgood s es h) trivial
  | cons i is ih =>
    rw [run_cons_snd, ← List.append_assoc]
    by_cases hok : ok s i
    · rw [ih _ _ (hstep s es i hok h)]
      exact (and_iff_right hok).symm
    · apply iff_of_false
      · intro hg
        exact hlost s es i hok h (hbegin _ _ hg)
      · intro halong
        exact hok halong.1

/-- The same for an invariant of the state. -/
theorem run_invariant_along (ok : σ → ι → Prop) (I : σ → Prop)
    (hstep : ∀ s i, ok s i → I s → I (step s i).1) (is : List ι) (s : σ) (h : I s)
    (hok : Along step ok s is) : I (run step s is).1 :=
  run_history step ok (fun s _ => I s) (fun s _ i => hstep s i) is s [] h hok

/-- Along a condition that preserves an invariant, what the two imply of a step holds as well. -/
theorem along_imp {ok ok' : σ → ι → Prop} (I : σ → Prop)
    (hstep : ∀ s i, ok s i → I s → I (step s i).1) (himp : ∀ s i, ok s i → I s → ok' s i)
    (is : List ι) (s : σ) (hs : I s) (hok : Along step ok s is) : Along step ok' s is := by
  induction is generalizing s with
  | nil => trivial
  | cons i is ih =>
    have hnext := hstep s i hok.1 hs
    exact ⟨himp s i hok.1 hs, ih _ hnext hok.2⟩

theorem answers_filter (keep : ι → Bool) (R : σ → σ → Prop)
    (hkeep : ∀ s t i, keep i = true → R s t →
      (step s i).2 = (step t i).2 ∧ R (step s i).1 (step t i).1)
    (hdrop : ∀ s t i, keep i = false → R s t → R (step s i).1 t)
    (is : List ι) (s t : σ) (h : R s t) :
    (answers step s is).filter (fun a => keep a.1) = answers step t (is.filter keep) := by
  have hok : Along step (fun _ _ => True) s is := along_of_forall step (fun _ _ => trivial) s is
  have hboth := answers_filter_along step keep (fun _ _ => True) R
    (fun s t i hk _ => hkeep s t i hk) (fun s t i hk _ => hdrop s t i hk) is s t h hok
  exact hboth.1

end Transducer

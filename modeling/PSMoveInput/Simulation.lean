import PSMoveInput.Transducer

/-! Forward simulation between two deterministic machines. A step of the concrete machine is
matched by a list of steps of the abstract one, which may be empty. -/
namespace Simulation

open Transducer

variable {σ τ ι κ ε δ ο : Type*}

section Mapped

variable (step : σ → ι → σ × List ε) (events : σ → ι → List κ)

/-- The abstract inputs that match a run. -/
def mapped (s : σ) : List ι → List κ
  | [] => []
  | i :: is => events s i ++ mapped (step s i).1 is

@[simp] theorem mapped_nil (s : σ) : mapped step events s [] = [] := rfl

@[simp] theorem mapped_cons (s : σ) (i : ι) (is : List ι) :
    mapped step events s (i :: is) = events s i ++ mapped step events (step s i).1 is := rfl

end Mapped

/-- The step and its abstract steps lead to matching states, and an observer sees the same
outputs. -/
structure Matches (step : σ → ι → σ × List ε) (step' : τ → κ → τ × List δ) (abs : σ → τ)
    (observe : ε → Option ο) (observe' : δ → Option ο) (s : σ) (i : ι) (js : List κ) : Prop where
  state : (run step' (abs s) js).1 = abs (step s i).1
  outputs : (run step' (abs s) js).2.filterMap observe' = (step s i).2.filterMap observe

variable {step : σ → ι → σ × List ε} {step' : τ → κ → τ × List δ} {abs : σ → τ}
  {observe : ε → Option ο} {observe' : δ → Option ο}

/-- A step without an abstract one. -/
theorem Matches.stutter {s : σ} {i : ι} (hstate : abs (step s i).1 = abs s)
    (hsilent : (step s i).2.filterMap observe = []) :
    Matches step step' abs observe observe' s i [] where
  state := hstate.symm
  outputs := hsilent.symm

/-- A step with one abstract step. -/
theorem Matches.single {s : σ} {i : ι} {j : κ} (hstate : (step' (abs s) j).1 = abs (step s i).1)
    (houtputs : (step' (abs s) j).2.filterMap observe' = (step s i).2.filterMap observe) :
    Matches step step' abs observe observe' s i [j] where
  state := hstate
  outputs := by
    rw [run_cons_snd, run_nil, List.append_nil]
    exact houtputs

/-- If every step of a run is matched in the states that the invariant allows, so is the run. -/
theorem run_matches {events : σ → ι → List κ} (ok : σ → ι → Prop) (I : σ → Prop)
    (hinv : ∀ s i, ok s i → I s → I (step s i).1)
    (hstep : ∀ s i, ok s i → I s → Matches step step' abs observe observe' s i (events s i))
    (is : List ι) (s : σ) (hs : I s) (hok : Along step ok s is) :
    (run step' (abs s) (mapped step events s is)).1 = abs (run step s is).1 ∧
      (run step' (abs s) (mapped step events s is)).2.filterMap observe' =
        (run step s is).2.filterMap observe := by
  induction is generalizing s with
  | nil => exact ⟨rfl, rfl⟩
  | cons i is ih =>
    have hhead := hstep s i hok.1 hs
    obtain ⟨hstate, houtputs⟩ := ih _ (hinv s i hok.1 hs) hok.2
    rw [mapped_cons, run_append, hhead.state]
    constructor
    · exact hstate
    · rw [List.filterMap_append, hhead.outputs, houtputs, run_cons_snd, List.filterMap_append]

end Simulation

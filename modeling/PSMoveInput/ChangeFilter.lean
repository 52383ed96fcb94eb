import Mathlib.Data.List.Induction
import Mathlib.Tactic.Common

/-! A source that passes on a sampled value only when it differs from the one before, and a
sink that shows the last value passed on and can be cleared behind the source's back. -/
namespace ChangeFilter

variable {α : Type*} [DecidableEq α]

inductive Input (α : Type*) where
  | sample (value : α)
  | clear

/-- The copy of the source and the copy of the sink. -/
structure Copies (α : Type*) where
  sent : α
  shown : α

def step (blank : α) (s : Copies α) : Input α → Copies α
  | .sample value => ⟨value, if s.sent ≠ value then value else s.shown⟩
  | .clear => ⟨s.sent, blank⟩

def exec (blank : α) (is : List (Input α)) : Copies α := is.foldl (step blank) ⟨blank, blank⟩

def Input.value? : Input α → Option α
  | .sample value => some value
  | .clear => none

def lastSample (blank : α) (is : List (Input α)) : α := (is.filterMap Input.value?).getLast?.getD blank

/-- The first sample after a `clear` repeats the last one before it, and is not blank. -/
def Stale (blank : α) (is : List (Input α)) : Prop :=
  ∃ pre mid post value, is = pre ++ .clear :: mid ++ .sample value :: post ∧
    (∀ v, .sample v ∉ mid) ∧ value = lastSample blank pre ∧ value ≠ blank

variable {blank : α}

theorem exec_append (is js : List (Input α)) :
    exec blank (is ++ js) = js.foldl (step blank) (exec blank is) :=
  List.foldl_append

theorem exec_concat (is : List (Input α)) (i : Input α) :
    exec blank (is ++ [i]) = step blank (exec blank is) i :=
  exec_append is [i]

theorem sent_eq_lastSample (is : List (Input α)) :
    (exec blank is).sent = lastSample blank is := by
  induction is using List.reverseRecOn with
  | nil => rfl
  | append_singleton is i ih =>
    rw [exec_concat]
    simp only [lastSample] at ih ⊢
    rw [List.filterMap_append]
    cases i with
    | sample v => simp [step, Input.value?]
    | clear => simpa [step, Input.value?] using ih

theorem foldl_clears (s : Copies α) (mid : List (Input α)) (hmid : ∀ v, .sample v ∉ mid)
    (hs : s.shown = blank) :
    (mid.foldl (step blank) s).sent = s.sent ∧ (mid.foldl (step blank) s).shown = blank := by
  induction mid generalizing s with
  | nil => exact ⟨rfl, hs⟩
  | cons i mid ih =>
    have htail : ∀ v, Input.sample v ∉ mid := fun v hv => hmid v (List.mem_cons_of_mem i hv)
    cases i with
    | sample v => exact absurd List.mem_cons_self (hmid v)
    | clear => exact ih (step blank s .clear) htail rfl

/-- Without a stale sample the copies agree, except between a `clear` and the next sample. -/
theorem agree_or_cleared (is : List (Input α)) (h : ¬Stale blank is) :
    (exec blank is).shown = (exec blank is).sent ∨
      ∃ pre mid, is = pre ++ .clear :: mid ∧ (∀ v, .sample v ∉ mid) ∧
        (exec blank is).shown = blank ∧ (exec blank is).sent = lastSample blank pre := by
  induction is using List.reverseRecOn with
  | nil => exact Or.inl rfl
  | append_singleton is i ih =>
    have hprefix : ¬Stale blank is := by
      intro hstale
      obtain ⟨pre, mid, post, v, rfl, hmid, hv, hne⟩ := hstale
      exact h ⟨pre, mid, post ++ [i], v, by simp, hmid, hv, hne⟩
    rw [exec_concat]
    cases i with
    | sample v =>
      left
      rcases ih hprefix with hagree | ⟨pre, mid, rfl, hmid, hblank, hlast⟩
      · by_cases hv : (exec blank is).sent = v
        · simp [step, hv, hagree]
        · simp [step, hv]
      · -- the first sample after a clear
        by_cases hv : (exec blank (pre ++ .clear :: mid)).sent = v
        · -- a repeated value can only be the blank one
          have hval : v = blank := by
            by_contra hne
            exact h ⟨pre, mid, [], v, rfl, hmid, hv.symm.trans hlast, hne⟩
          simp only [step, hv, ne_eq, not_true_eq_false, ↓reduceIte, hblank, hval]
        · simp [step, hv]
    | clear =>
      right
      refine ⟨is, [], rfl, fun v hv => absurd hv List.not_mem_nil, rfl, ?_⟩
      exact sent_eq_lastSample is

/-- The sink shows every sample exactly when no sample is stale. -/
theorem shows_samples_iff (is : List (Input α)) :
    (∀ pre value post, is = pre ++ .sample value :: post →
      (exec blank (pre ++ [.sample value])).shown = value) ↔ ¬Stale blank is := by
  constructor
  · -- a stale sample is not passed on, so the sink stays blank
    intro h hstale
    obtain ⟨pre, mid, post, v, rfl, hmid, hv, hne⟩ := hstale
    have hshown := h (pre ++ .clear :: mid) v post rfl
    have hclears := foldl_clears (step blank (exec blank pre) .clear) mid hmid
      (show blank = blank from rfl)
    have hstate : exec blank (pre ++ .clear :: mid) =
        mid.foldl (step blank) (step blank (exec blank pre) .clear) :=
      exec_append pre (.clear :: mid)
    have hsent : (exec blank (pre ++ .clear :: mid)).sent = v := by
      rw [hstate, hclears.1, hv]
      exact sent_eq_lastSample pre
    have hblank : (exec blank (pre ++ .clear :: mid)).shown = blank := by
      rw [hstate]
      exact hclears.2
    rw [exec_concat] at hshown
    simp only [step, hsent, ne_eq, not_true_eq_false, ↓reduceIte, hblank] at hshown
    exact hne hshown.symm
  · intro h pre v post heq
    have hprefix : ¬Stale blank (pre ++ [.sample v]) := by
      intro hstale
      obtain ⟨pre', mid, post', v', hsplit, hmid, hv, hne⟩ := hstale
      refine h ⟨pre', mid, post' ++ post, v', ?_, hmid, hv, hne⟩
      rw [heq, ← List.singleton_append, ← List.append_assoc, hsplit]
      simp
    rcases agree_or_cleared _ hprefix with hagree | ⟨pre', mid, hsplit, hmid, -, -⟩
    · rw [hagree, exec_concat]
      rfl
    · -- the run ends in a sample, not in a clear
      exfalso
      have hlast : (Input.sample v) ∈ (Input.clear :: mid) := by
        have hl := congrArg List.getLast? hsplit
        rw [List.getLast?_append, List.getLast?_append] at hl
        simp only [List.getLast?_singleton, Option.some_or] at hl
        cases hc : (Input.clear :: mid : List (Input α)).getLast? with
        | none => simp at hc
        | some x =>
          rw [hc, Option.some_or] at hl
          rw [Option.some.inj hl]
          exact List.mem_of_getLast? hc
      rcases List.mem_cons.mp hlast with hclear | hmem
      · cases hclear
      · exact hmid v hmem

end ChangeFilter

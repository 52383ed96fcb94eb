import Mathlib.Data.List.Chain
import Mathlib.Tactic.Ring

/-! Marks among ticks: how many ticks come before each mark, whether the marks are a number of ticks
apart, and marks that are every so many of other ones. -/
namespace Pacing

variable {α ε : Type*}

/-- The number of ticks before each mark, from `n` on. -/
def ticksBefore (tick mark : ε → Bool) : ℕ → List ε → List ℕ
  | _, [] => []
  | n, e :: es =>
    let rest := ticksBefore tick mark (if tick e = true then n + 1 else n) es
    if mark e = true then n :: rest else rest

/-- Every `k + 1`-th element, after the first `left` ones. -/
def everyNth (k : ℕ) : ℕ → List α → List α
  | _, [] => []
  | 0, a :: as => a :: everyNth k k as
  | left + 1, _ :: as => everyNth k left as

/-- Every two consecutive numbers are `d` or more apart. -/
def Spaced (d : ℕ) (l : List ℕ) : Prop := l.IsChain fun a b => a + d ≤ b

theorem ticksBefore_append (tick mark : ε → Bool) (n : ℕ) (es fs : List ε) :
    ticksBefore tick mark n (es ++ fs) =
      ticksBefore tick mark n es ++ ticksBefore tick mark (n + es.countP tick) fs := by
  induction es generalizing n with
  | nil => rfl
  | cons e es ih =>
    have hcount : (if tick e = true then n + 1 else n) + es.countP tick =
        n + (e :: es).countP tick := by
      rw [List.countP_cons]
      split_ifs <;> omega
    simp only [List.cons_append, ticksBefore, ih, hcount]
    split_ifs <;> rfl

/-- Without marks there is nothing to count. -/
theorem ticksBefore_unmarked {tick mark : ε → Bool} {es : List ε} (h : ∀ e ∈ es, mark e = false)
    (n : ℕ) : ticksBefore tick mark n es = [] := by
  induction es generalizing n with
  | nil => rfl
  | cons e es ih =>
    have hhead := h e List.mem_cons_self
    simp only [ticksBefore, hhead, Bool.false_eq_true, ↓reduceIte]
    exact ih (fun e' he' => h e' (List.mem_cons_of_mem e he')) _

/-- The number of ticks since the last mark; `n` of them came before the list. -/
def since (tick mark : ε → Bool) : ℕ → List ε → ℕ
  | n, [] => n
  | n, e :: es => since tick mark (if mark e = true then 0 else if tick e = true then n + 1 else n) es

/-- Nowhere in the list have there been more than `d` ticks since the last mark. -/
def Within (tick mark : ε → Bool) (d : ℕ) : ℕ → List ε → Prop
  | n, [] => n ≤ d
  | n, e :: es =>
    n ≤ d ∧ Within tick mark d (if mark e = true then 0 else if tick e = true then n + 1 else n) es

theorem within_append {tick mark : ε → Bool} {d n : ℕ} {es fs : List ε} :
    Within tick mark d n (es ++ fs) ↔
      Within tick mark d n es ∧ Within tick mark d (since tick mark n es) fs := by
  induction es generalizing n with
  | nil =>
    have hstart : Within tick mark d n fs → n ≤ d := by
      cases fs with
      | nil => exact id
      | cons f fs => exact And.left
    exact ⟨fun h => ⟨hstart h, h⟩, And.right⟩
  | cons e es ih =>
    simp only [List.cons_append, Within, since, ih, and_assoc]

theorem Within.since_le {tick mark : ε → Bool} {d n : ℕ} {es : List ε}
    (h : Within tick mark d n es) : since tick mark n es ≤ d := by
  induction es generalizing n with
  | nil => exact h
  | cons e es ih => exact ih h.2

/-- Without marks every tick counts. -/
theorem since_unmarked {tick mark : ε → Bool} {es : List ε} (h : ∀ e ∈ es, mark e = false)
    (n : ℕ) : since tick mark n es = n + es.countP tick := by
  induction es generalizing n with
  | nil => rfl
  | cons e es ih =>
    have hhead := h e List.mem_cons_self
    have htail := ih fun e' he' => h e' (List.mem_cons_of_mem e he')
    simp only [since, hhead, Bool.false_eq_true, ↓reduceIte, htail, List.countP_cons]
    split_ifs <;> omega

/-- A stretch without a mark has no more ticks. -/
theorem Within.gap {tick mark : ε → Bool} {d n : ℕ} {es : List ε} (h : Within tick mark d n es)
    {gap : List ε} (hgap : gap <:+: es) (hmark : ∀ e ∈ gap, mark e = false) :
    gap.countP tick ≤ d := by
  obtain ⟨before, after, rfl⟩ := hgap
  have hbound := (within_append.mp (within_append.mp h).1).2.since_le
  rw [since_unmarked hmark] at hbound
  omega

theorem everyNth_getElem? (k left : ℕ) (l : List α) (j : ℕ) :
    (everyNth k left l)[j]? = l[left + j * (k + 1)]? := by
  induction l generalizing left j with
  | nil => simp only [everyNth, List.getElem?_nil]
  | cons a l ih =>
    cases left with
    | succ left =>
      have hindex : left + 1 + j * (k + 1) = left + j * (k + 1) + 1 := by omega
      rw [hindex, List.getElem?_cons_succ]
      exact ih left j
    | zero =>
      cases j with
      | zero => simp only [everyNth, Nat.zero_mul, Nat.add_zero, List.getElem?_cons_zero]
      | succ j =>
        have hindex : 0 + (j + 1) * (k + 1) = k + j * (k + 1) + 1 := by ring
        rw [hindex, List.getElem?_cons_succ]
        exact ih k j

theorem spaced_iff (d : ℕ) (l : List ℕ) :
    Spaced d l ↔ ∀ j a b, l[j]? = some a → l[j + 1]? = some b → a + d ≤ b := by
  rw [Spaced, List.isChain_iff_getElem]
  constructor
  · intro h j a b ha hb
    obtain ⟨hj, rfl⟩ := List.getElem?_eq_some_iff.mp hb
    obtain ⟨-, rfl⟩ := List.getElem?_eq_some_iff.mp ha
    exact h j hj
  · intro h j hj
    exact h j _ _ (List.getElem?_eq_getElem (by omega)) (List.getElem?_eq_getElem hj)

/-- Every `k + 1`-th number is far from the one before, in the numbering of all. -/
theorem spaced_everyNth (d k left : ℕ) (l : List ℕ) :
    Spaced d (everyNth k left l) ↔ ∀ j a b, l[left + j * (k + 1)]? = some a →
      l[left + (j + 1) * (k + 1)]? = some b → a + d ≤ b := by
  rw [spaced_iff]
  simp only [everyNth_getElem?]

end Pacing

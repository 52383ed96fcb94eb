import Mathlib.Data.Int.Basic
import Mathlib.Data.List.Basic
import Mathlib.Data.List.Induction
import Mathlib.Tactic.Common

/-! A two-valued level observed through its edges: the list of the values it changes to. -/
namespace EdgeTrace

/-- `Edges a l b`: starting at level `a`, the values in `l` are the successive changes of the
level, and the last one leaves it at `b`. -/
inductive Edges : Bool → List Bool → Bool → Prop
  | nil (a : Bool) : Edges a [] a
  | cons {a b : Bool} {l : List Bool} : Edges (!a) l b → Edges a ((!a) :: l) b

/-- `l` strictly alternates and begins with `b`. -/
def Alternates (b : Bool) : List Bool → Prop
  | [] => True
  | x :: l => x = b ∧ Alternates (!b) l

instance (b : Bool) (l : List Bool) : Decidable (Alternates b l) := by
  induction l generalizing b with
  | nil => exact instDecidableTrue
  | cons x l ih => exact @instDecidableAnd _ _ _ (ih _)

theorem Edges.append {a b c : Bool} {l m : List Bool} (hl : Edges a l b) (hm : Edges b m c) :
    Edges a (l ++ m) c := by
  induction hl with
  | nil => exact hm
  | cons _ ih => exact .cons (ih hm)

/-- A level that is sampled before and after has at most one edge in between. -/
theorem Edges.of_sample (a b : Bool) : Edges a (if a = b then [] else [b]) b := by
  cases a <;> cases b
  · exact .nil false
  · exact .cons (.nil true)
  · exact .cons (.nil false)
  · exact .nil true

theorem Edges.alternates {a b : Bool} {l : List Bool} (h : Edges a l b) : Alternates (!a) l := by
  induction h with
  | nil => trivial
  | cons _ ih => exact ⟨rfl, ih⟩

/-- Rising edges minus falling edges is the difference of the levels. -/
theorem Edges.count {a b : Bool} {l : List Bool} (h : Edges a l b) :
    l.count true + a.toNat = l.count false + b.toNat := by
  induction h with
  | nil => rfl
  | @cons a b l _ ih =>
    cases a
    · -- a rising edge
      simp only [Bool.not_false, Bool.toNat_true] at ih
      simp only [Bool.not_false, List.count_cons_self, Bool.toNat_false,
        List.count_cons_of_ne (show true ≠ false by decide)]
      omega
    · -- a falling edge
      simp only [Bool.not_true, Bool.toNat_false] at ih
      simp only [Bool.not_true, List.count_cons_self, Bool.toNat_true,
        List.count_cons_of_ne (show false ≠ true by decide)]
      omega

theorem Edges.count_sub {b : Bool} {l : List Bool} (h : Edges false l b) :
    (l.count true : ℤ) - l.count false = if b then 1 else 0 := by
  have hc := h.count
  cases b <;> simp only [Bool.toNat_false, Bool.toNat_true, Bool.false_eq_true, ↓reduceIte]
    at hc ⊢ <;> omega

/-- The level after the edges of `l`, when it was `a` before. -/
def level (a : Bool) (l : List Bool) : Bool := l.getLast?.getD a

@[simp] theorem level_nil (a : Bool) : level a [] = a := rfl

theorem level_append (a : Bool) (l m : List Bool) : level a (l ++ m) = level (level a l) m := by
  simp only [level]
  rw [List.getLast?_append]
  cases m.getLast? <;> rfl

theorem level_flatMap {ι : Type*} (f : ι → List Bool) (is : List ι) (a : Bool) :
    is.foldl (fun b i => level b (f i)) a = level a (is.flatMap f) := by
  induction is generalizing a with
  | nil => rfl
  | cons i is ih =>
    calc
      (i :: is).foldl (fun b i => level b (f i)) a =
          is.foldl (fun b i => level b (f i)) (level a (f i)) := rfl
      _ = level (level a (f i)) (is.flatMap f) := ih (level a (f i))
      _ = level a ((i :: is).flatMap f) := by rw [List.flatMap_cons, level_append]

theorem level_eq_or_mem (a : Bool) (l : List Bool) :
    (l = [] ∧ level a l = a) ∨ level a l ∈ l := by
  cases h : l.getLast? with
  | none =>
    left
    have hnil : l = [] := List.getLast?_eq_none_iff.mp h
    exact ⟨hnil, by rw [hnil, level_nil]⟩
  | some b =>
    right
    have hmem : b ∈ l := List.mem_of_getLast? h
    simpa only [level, h, Option.getD_some] using hmem

theorem Edges.level {a b : Bool} {l : List Bool} (h : Edges a l b) : level a l = b := by
  induction h with
  | nil => rfl
  | @cons a b l _ ih =>
    calc
      EdgeTrace.level a ((!a) :: l) = EdgeTrace.level (EdgeTrace.level a [!a]) l :=
        level_append a [!a] l
      _ = b := ih

/-- A level that ends elsewhere than it began ends with its last edge. -/
theorem Edges.getLast? {a b : Bool} {l : List Bool} (h : Edges a l b) (hne : a ≠ b) :
    l.getLast? = some b := by
  have hlevel := h.level
  simp only [EdgeTrace.level] at hlevel
  cases hlast : l.getLast? with
  | none =>
    rw [hlast, Option.getD_none] at hlevel
    exact absurd hlevel hne
  | some x =>
    rw [hlast, Option.getD_some] at hlevel
    rw [hlevel]

/-- A level that several parties drive and that is up was put up last by one of them, and that one
has not taken it down since. -/
theorem level_part {α ι : Type*} [DecidableEq ι] (f : α → Option Bool) (part : α → ι) (l : List α)
    (hup : level false (l.filterMap f) = true) :
    ∃ i, level false ((l.filter fun x => part x = i).filterMap f) = true := by
  induction l using List.reverseRecOn with
  | nil => cases hup
  | append_singleton l x ih =>
    cases hx : f x with
    | none =>
      -- the last edge is an earlier one
      have hsingle : [x].filterMap f = [] := by
        simp only [List.filterMap_cons, hx, List.filterMap_nil]
      rw [List.filterMap_append, hsingle, List.append_nil] at hup
      obtain ⟨i, hi⟩ := ih hup
      refine ⟨i, ?_⟩
      rw [List.filter_append, List.filterMap_append, level_append, hi]
      by_cases hpart : part x = i <;> simp [hpart, hx, level]
    | some b =>
      have hsingle : [x].filterMap f = [b] := by
        simp only [List.filterMap_cons, hx, List.filterMap_nil]
      have hb : b = true := by
        rw [List.filterMap_append, hsingle, level_append] at hup
        exact hup
      refine ⟨part x, ?_⟩
      have hmine : [x].filter (fun y => part y = part x) = [x] := by simp
      rw [List.filter_append, List.filterMap_append, hmine, hsingle, level_append, hb]
      rfl

/-- If only one party has edges, the level is that of this party. -/
theorem filterMap_part {α ι : Type*} [DecidableEq ι] (f : α → Option Bool) (part : α → ι)
    (l : List α) (i : ι) (hnone : ∀ x ∈ l, part x ≠ i → f x = none) :
    (l.filter fun x => part x = i).filterMap f = l.filterMap f := by
  rw [List.filterMap_filter]
  apply List.filterMap_congr
  intro x hx
  by_cases hpart : part x = i
  · simp only [hpart, decide_true, ↓reduceIte]
  · simp only [hpart, decide_false, Bool.false_eq_true, ↓reduceIte, hnone x hx hpart]

end EdgeTrace

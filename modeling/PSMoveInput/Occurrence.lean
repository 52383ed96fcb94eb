import Mathlib.Data.List.Infix
import Mathlib.Tactic.Common

/-! Where a pattern occurs in a text. An occurrence lies on one side of every letter that the
pattern does not have. -/
namespace Occurrence

variable {α : Type*}

theorem prefix_side {x : α} {p a b : List α} (hx : x ∉ p) (h : p <+: a ++ x :: b) : p <+: a := by
  rcases List.prefix_or_prefix_of_prefix h (List.prefix_append a (x :: b)) with hp | ⟨q, rfl⟩
  · exact hp
  · -- what goes on behind `a` would begin with the letter
    have hq : q <+: x :: b := (List.prefix_append_right_inj a).mp h
    cases q with
    | nil => rw [List.append_nil]
    | cons y q =>
      obtain ⟨rfl, -⟩ := List.cons_prefix_cons.mp hq
      exact absurd (List.mem_append_right a List.mem_cons_self) hx

theorem infix_side {x : α} {p a b : List α} (hx : x ∉ p) (h : p <:+: a ++ x :: b) :
    p <:+: a ∨ p <:+: b := by
  induction a with
  | nil =>
    rcases List.infix_cons_iff.mp h with h | h
    · left
      have hnil : p <+: [] := prefix_side hx h
      exact hnil.isInfix
    · exact Or.inr h
  | cons y a ih =>
    rcases List.infix_cons_iff.mp h with h | h
    · left
      have hside : p <+: y :: a := prefix_side hx h
      exact hside.isInfix
    · exact (ih h).imp List.infix_cons id

/-- A pattern that is one letter shorter than the text and does not begin like it. -/
theorem infix_cons_of_length {y : α} {p t : List α} (hlength : p.length = t.length)
    (hhead : p.head? ≠ some y) (h : p <:+: y :: t) : p = t := by
  rcases List.infix_cons_iff.mp h with h | h
  · cases p with
    | nil => exact (List.eq_nil_of_length_eq_zero hlength.symm).symm
    | cons z p =>
      obtain ⟨rfl, -⟩ := List.cons_prefix_cons.mp h
      exact absurd rfl hhead
  · exact h.eq_of_length hlength

end Occurrence

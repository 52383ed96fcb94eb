import Mathlib.Data.List.Basic
import Mathlib.Tactic.Common

/-! Paths of names, `.` and `..`, resolved against a directory. A directory is the list of its names
from the innermost one outwards; the empty list is the root, which is its own parent. -/
namespace Paths

variable {α : Type*}

inductive Component (α : Type*) where
  | current
  | parent
  | name (a : α)
  deriving DecidableEq

/-- Follow the components one after another. -/
def resolve : List α → List (Component α) → List α
  | dir, [] => dir
  | dir, .current :: cs => resolve dir cs
  | dir, .parent :: cs => resolve dir.tail cs
  | dir, .name a :: cs => resolve (a :: dir) cs

/-- How far a path climbs above the directory it starts from, when it is `height` levels below it
already. -/
def climb : ℕ → List (Component α) → ℕ
  | _, [] => 0
  | height, .current :: cs => climb height cs
  | 0, .parent :: cs => climb 0 cs + 1
  | height + 1, .parent :: cs => climb height cs
  | height, .name _ :: cs => climb (height + 1) cs

/-- The part of the starting directory that is climbed out of is lost, and the rest of it is left
alone. -/
theorem resolve_append (cs : List (Component α)) (below base : List α) :
    resolve (below ++ base) cs = resolve below cs ++ base.drop (climb below.length cs) := by
  induction cs generalizing below base with
  | nil => rfl
  | cons c cs ih =>
    cases c with
    | current => exact ih below base
    | name a => exact ih (a :: below) base
    | parent =>
      cases below with
      | nil =>
        calc
          resolve base.tail cs = resolve [] cs ++ base.tail.drop (climb 0 cs) := ih [] base.tail
          _ = resolve [] cs ++ base.drop (climb 0 cs + 1) := by rw [List.drop_tail]
      | cons a below => exact ih below base

theorem resolve_eq (dir : List α) (cs : List (Component α)) :
    resolve dir cs = resolve [] cs ++ dir.drop (climb 0 cs) :=
  resolve_append cs [] dir

/-- A path leads to the same place from a directory as from the root exactly if it climbs out of the
whole directory. -/
theorem resolve_root_iff (dir : List α) (cs : List (Component α)) :
    resolve dir cs = resolve [] cs ↔ dir.length ≤ climb 0 cs := by
  rw [resolve_eq]
  constructor
  · intro h
    have hlength := congrArg List.length h
    rw [List.length_append, List.length_drop] at hlength
    omega
  · intro h
    rw [List.drop_eq_nil_of_le h, List.append_nil]

end Paths

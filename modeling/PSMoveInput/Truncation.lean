import Mathlib.Algebra.Order.Floor.Ring
import Mathlib.Algebra.Order.Group.Abs

/-! Conversion of a number to an integer by truncation toward zero, and dead zones around zero.
Both are odd and monotone in absolute value. What they cut off adds up to a drift. -/
namespace Truncation

/-! ### Truncation toward zero -/

section

variable {K : Type*} [Ring K] [LinearOrder K] [FloorRing K]

def truncate (x : K) : ℤ := if 0 ≤ x then ⌊x⌋ else ⌈x⌉

theorem truncate_of_nonneg {x : K} (hx : 0 ≤ x) : truncate x = ⌊x⌋ := if_pos hx

variable [IsStrictOrderedRing K]

theorem truncate_neg (x : K) : truncate (-x) = -truncate x := by
  simp only [truncate]
  rcases lt_trichotomy x 0 with hx | rfl | hx
  · have hneg : 0 ≤ -x := neg_nonneg.mpr hx.le
    rw [if_pos hneg, if_neg (not_le.mpr hx), Int.floor_neg]
  · simp
  · have hneg : ¬0 ≤ -x := not_le.mpr (neg_lt_zero.mpr hx)
    rw [if_neg hneg, if_pos hx.le, Int.ceil_neg]

theorem abs_truncate (x : K) : |truncate x| = ⌊|x|⌋ := by
  have hnonneg (y : K) (hy : 0 ≤ y) : |truncate y| = ⌊y⌋ := by
    rw [truncate_of_nonneg hy]
    exact abs_of_nonneg (Int.floor_nonneg.mpr hy)
  rcases le_total 0 x with hx | hx
  · rw [hnonneg x hx, abs_of_nonneg hx]
  · -- the other half by oddness
    have hneg : 0 ≤ -x := neg_nonneg.mpr hx
    calc
      |truncate x| = |truncate (-x)| := by rw [truncate_neg, abs_neg]
      _ = ⌊-x⌋ := hnonneg (-x) hneg
      _ = ⌊|x|⌋ := by rw [abs_of_nonpos hx]

theorem abs_truncate_mono {x y : K} (h : |x| ≤ |y|) : |truncate x| ≤ |truncate y| := by
  rw [abs_truncate, abs_truncate]
  exact Int.floor_le_floor h

/-- Values of less than one unit above an upper bound are within it. -/
theorem truncate_le_iff {n : ℤ} (hn : 0 ≤ n) (x : K) : truncate x ≤ n ↔ x < n + 1 := by
  have hpos : (0 : K) < n + 1 := by
    have hcast : (0 : K) ≤ n := Int.cast_nonneg hn
    exact lt_of_le_of_lt hcast (lt_add_one _)
  rcases le_or_gt 0 x with hx | hx
  · rw [truncate_of_nonneg hx, ← Int.lt_add_one_iff, Int.floor_lt, Int.cast_add, Int.cast_one]
  · -- a negative number is truncated to at most zero
    have hle : truncate x ≤ 0 := by
      rw [truncate, if_neg (not_le.mpr hx)]
      exact Int.ceil_le.mpr (by rw [Int.cast_zero]; exact hx.le)
    exact iff_of_true (hle.trans hn) (hx.trans hpos)

theorem neg_le_truncate_iff {n : ℤ} (hn : 0 ≤ n) (x : K) : -n ≤ truncate x ↔ -(n + 1 : K) < x := by
  calc
    -n ≤ truncate x ↔ truncate (-x) ≤ n := by rw [truncate_neg, neg_le]
    _ ↔ -x < n + 1 := truncate_le_iff hn (-x)
    _ ↔ -(n + 1 : K) < x := neg_lt

/-- What truncation cuts off is less than one unit. -/
theorem abs_truncate_sub_lt (x : K) : |(truncate x : K) - x| < 1 := by
  have hnonneg (y : K) (hy : 0 ≤ y) : |(truncate y : K) - y| < 1 := by
    have hfloor := Int.floor_le y
    have hceil := Int.lt_floor_add_one y
    rw [truncate_of_nonneg hy, abs_sub_comm, abs_of_nonneg (sub_nonneg.mpr hfloor)]
    exact sub_lt_iff_lt_add'.mpr hceil
  rcases le_total 0 x with hx | hx
  · exact hnonneg x hx
  · have hneg := hnonneg (-x) (neg_nonneg.mpr hx)
    rw [truncate_neg, Int.cast_neg, neg_sub_neg, abs_sub_comm] at hneg
    exact hneg

end

/-! ### Dead zones -/

section

variable {G : Type*} [AddCommGroup G] [LinearOrder G]

/-- Values nearer to zero than the threshold are zero. -/
def deadZone (threshold d : G) : G := if |d| < threshold then 0 else d

theorem deadZone_neg (threshold d : G) : deadZone threshold (-d) = -deadZone threshold d := by
  simp only [deadZone, abs_neg]
  split_ifs
  · exact neg_zero.symm
  · rfl

theorem threshold_le_abs {threshold d : G} (h : deadZone threshold d ≠ 0) :
    threshold ≤ |deadZone threshold d| := by
  revert h
  simp only [deadZone]
  split_ifs with hd
  · intro h
    exact absurd rfl h
  · intro _
    exact not_lt.mp hd

variable [IsOrderedAddMonoid G]

theorem abs_deadZone_mono (threshold : G) {d e : G} (h : |d| ≤ |e|) :
    |deadZone threshold d| ≤ |deadZone threshold e| := by
  by_cases hd : |d| < threshold
  · rw [deadZone, if_pos hd, abs_zero]
    exact abs_nonneg _
  · have he : ¬|e| < threshold := fun he => hd (h.trans_lt he)
    rw [deadZone, if_neg hd, deadZone, if_neg he]
    exact h

end

/-! ### Drifts -/

section

variable {K : Type*} [Ring K] [LinearOrder K] {bound : K}

/-- An integer is at most `bound` for each of the exact values away from their sum. -/
def Drifts (bound : K) (d : ℤ) (xs : List K) : Prop := |(d : K) - xs.sum| ≤ xs.length * bound

theorem drifts_singleton {d : ℤ} {x : K} (h : |(d : K) - x| < bound) : Drifts bound d [x] := by
  simpa [Drifts] using h.le

variable [IsStrictOrderedRing K]

theorem drifts_nil : Drifts bound 0 [] := by simp [Drifts]

theorem Drifts.append {d d' : ℤ} {xs xs' : List K} (h : Drifts bound d xs)
    (h' : Drifts bound d' xs') : Drifts bound (d + d') (xs ++ xs') := by
  rw [Drifts, List.sum_append, List.length_append, Int.cast_add, Nat.cast_add, add_mul,
    add_sub_add_comm]
  calc
    |((d : K) - xs.sum) + ((d' : K) - xs'.sum)| ≤ |(d : K) - xs.sum| + |(d' : K) - xs'.sum| :=
      abs_add_le _ _
    _ ≤ xs.length * bound + xs'.length * bound := add_le_add h h'

/-- What truncation and the dead zone cut off together is less than one unit, or less than the
threshold. -/
theorem abs_deadZone_truncate_sub_lt [FloorRing K] (threshold : ℤ) (x : K) :
    |((deadZone threshold (truncate x) : ℤ) : K) - x| < max 1 (threshold : K) := by
  by_cases hd : |truncate x| < threshold
  · have hx : |x| < threshold := by
      rw [abs_truncate, Int.floor_lt] at hd
      exact hd
    rw [deadZone, if_pos hd, Int.cast_zero, zero_sub, abs_neg]
    exact lt_max_of_lt_right hx
  · rw [deadZone, if_neg hd]
    exact lt_max_of_lt_left (abs_truncate_sub_lt x)

end

end Truncation

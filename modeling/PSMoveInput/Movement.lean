import Mathlib.Data.Rat.Floor
import PSMoveInput.Gestures
import PSMoveInput.Truncation

/-! The arithmetic that `onGyroscope` and `onGesture` share: a displacement is a truncated
product with a dead zone, the same in both directions and in both functions. -/
namespace PSMoveInput

open Truncation

theorem toInt_eq_truncate (x : ℚ) : toInt x = truncate x := by
  have hnonneg (y : ℚ) (hy : 0 ≤ y) : toInt y = truncate y := by
    have hnum : 0 ≤ y.num := Rat.num_nonneg.mpr hy
    rw [truncate_of_nonneg hy, Rat.floor_def', toInt, Int.tdiv_eq_ediv_of_nonneg hnum]
  rcases le_total 0 x with hx | hx
  · exact hnonneg x hx
  · -- both sides are odd
    have hneg : toInt (-x) = -toInt x := by
      rw [toInt, toInt, Rat.num_neg_eq_neg_num, Rat.den_neg_eq_den, Int.neg_tdiv]
    have hopposite := hnonneg (-x) (neg_nonneg.mpr hx)
    rw [hneg, truncate_neg] at hopposite
    exact neg_injective hopposite

/-- The two comparisons of the source make one dead zone. -/
theorem displacement_eq (g delta : ℤ) (coeff : ℚ) (threshold : ℤ) :
    displacement g delta coeff threshold = deadZone threshold (truncate (g * delta * coeff)) := by
  simp only [displacement, deadZone, toInt_eq_truncate]
  rcases lt_trichotomy (truncate ((g : ℚ) * delta * coeff)) 0 with hd | hd | hd
  · rw [abs_of_neg hd]
    split_ifs <;> omega
  · simp [hd]
  · rw [abs_of_pos hd]
    split_ifs <;> omega

theorem displacement_neg (g delta : ℤ) (coeff : ℚ) (threshold : ℤ) :
    displacement (-g) delta coeff threshold = -displacement g delta coeff threshold := by
  have hproduct : ((-g : ℤ) : ℚ) * delta * coeff = -(g * delta * coeff) := by
    rw [Int.cast_neg, neg_mul, neg_mul]
  rw [displacement_eq, displacement_eq, hproduct, truncate_neg, deadZone_neg]

theorem threshold_le_displacement {g delta : ℤ} {coeff : ℚ} {threshold : ℤ}
    (h : displacement g delta coeff threshold ≠ 0) :
    threshold ≤ |displacement g delta coeff threshold| := by
  rw [displacement_eq] at h ⊢
  exact threshold_le_abs h

theorem displacement_mono {g g' : ℤ} (h : |g| ≤ |g'|) (delta : ℤ) (coeff : ℚ) (threshold : ℤ) :
    |displacement g delta coeff threshold| ≤ |displacement g' delta coeff threshold| := by
  have hproduct : |(g : ℚ) * delta * coeff| ≤ |(g' : ℚ) * delta * coeff| := by
    have hcast : |(g : ℚ)| ≤ |(g' : ℚ)| := by exact_mod_cast h
    rw [abs_mul, abs_mul, abs_mul, abs_mul]
    gcongr
  rw [displacement_eq, displacement_eq]
  apply abs_deadZone_mono
  exact abs_truncate_mono hproduct

/-- An open gate and a recorded timestamp: one movement, unless both components are zero. -/
theorem onGyroscope_open (P : Params) (clock : Clock) (gx gy : ℤ) (s : HandlerState)
    (hlast : s.lastGyroTp.tvSec ≠ 0 ∧ s.lastGyroTp.tvNsec ≠ 0) (hgate : moveGate P s = true) :
    let delta := timeDelta (clock 0) s.lastGyroTp
    let dx := displacement gx delta P.cx P.moveThreshold
    let dy := displacement gy delta P.cy P.moveThreshold
    signals (onGyroscope P clock gx gy s).2 =
      if dx ≠ 0 ∨ dy ≠ 0 then [.move dx dy] else [] := by
  intro delta dx dy
  simp only [onGyroscope]
  rw [if_pos hlast, if_pos hgate]
  split_ifs <;> rfl

/-- Without a recorded timestamp or behind a closed gate there is nothing to emit. -/
theorem onGyroscope_unmeasured {P : Params} {s : HandlerState} {clock : Clock} {gx gy : ℤ}
    (h : ¬((s.lastGyroTp.tvSec ≠ 0 ∧ s.lastGyroTp.tvNsec ≠ 0) ∧ moveGate P s = true)) :
    (onGyroscope P clock gx gy s).2 = [] := by
  simp only [onGyroscope]
  by_cases hlast : s.lastGyroTp.tvSec ≠ 0 ∧ s.lastGyroTp.tvNsec ≠ 0
  · rw [if_pos hlast, if_neg fun hgate => h ⟨hlast, hgate⟩]
  · rw [if_neg hlast]

/-- Movement and gestures compute the same displacement, and treat both directions alike. -/
theorem movement_gesture_agree (P : Params) (clock : Clock) (gx gy : ℤ) (s : HandlerState)
    (hlast : s.lastGyroTp.tvSec ≠ 0 ∧ s.lastGyroTp.tvNsec ≠ 0) (hgate : moveGate P s = true) :
    let delta := timeDelta (clock 0) s.lastGyroTp
    let dx := displacement gx delta P.cx P.moveThreshold
    let dy := displacement gy delta P.cy P.moveThreshold
    signals (onGyroscope P clock gx gy s).2 = (if dx ≠ 0 ∨ dy ≠ 0 then [.move dx dy] else []) ∧
    (dx ≠ 0 → P.moveThreshold ≤ |dx|) ∧ (dy ≠ 0 → P.moveThreshold ≤ |dy|) ∧
    signals (onGyroscope P clock (-gx) (-gy) s).2 =
      (if dx ≠ 0 ∨ dy ≠ 0 then [.move (-dx) (-dy)] else []) ∧
    (∀ gx', |gx| ≤ |gx'| → |dx| ≤ |displacement gx' delta P.cx P.moveThreshold|) ∧
    (∀ gy', |gy| ≤ |gy'| → |dy| ≤ |displacement gy' delta P.cy P.moveThreshold|) ∧
    ∀ (Q : Params) (u : HandlerState), Q.cx = P.cx → Q.cy = P.cy →
      Q.gestureThreshold = P.moveThreshold → gestureReady Q u → u.lastGestureTp = s.lastGyroTp →
      ∃ w rest, (onGesture Q clock gx gy u).2 = .report .second (u.buttons .second) w :: rest ∧
        (holds w btnGestureRight = true ↔ 0 < dx) ∧ (holds w btnGestureLeft = true ↔ dx < 0) ∧
        (holds w btnGestureUp = true ↔ 0 < dy) ∧ (holds w btnGestureDown = true ↔ dy < 0) ∧
        w &&& btnGestureMask = u.buttons .second &&& btnGestureMask := by
  intro delta dx dy
  refine ⟨onGyroscope_open P clock gx gy s hlast hgate, threshold_le_displacement,
    threshold_le_displacement, ?_, ?_, ?_, ?_⟩
  · rw [onGyroscope_open P clock (-gx) (-gy) s hlast hgate, displacement_neg, displacement_neg]
    simp only [neg_ne_zero]
    rfl
  · intro gx' h
    exact displacement_mono h delta P.cx P.moveThreshold
  · intro gy' h
    exact displacement_mono h delta P.cy P.moveThreshold
  · -- the same reading as a gesture: the signs of the displacement choose the bits
    intro Q u hcx hcy hthreshold hready htime
    have hx : displacement gx (timeDelta (clock 0) u.lastGestureTp) Q.cx Q.gestureThreshold =
        dx := by rw [htime, hcx, hthreshold]
    have hy : displacement gy (timeDelta (clock 0) u.lastGestureTp) Q.cy Q.gestureThreshold =
        dy := by rw [htime, hcy, hthreshold]
    have hsigns := gestureReport_signs Q (clock 0) gx gy u
    dsimp only at hsigns
    rw [hx, hy] at hsigns
    obtain ⟨hright, hleft, hup, hdown⟩ := hsigns
    obtain ⟨rest, hreport⟩ := onGesture_report Q clock gx gy u hready
    have hmask := gestureReport_mask Q (clock 0) gx gy u
    exact ⟨_, rest, hreport, hright, hleft, hup, hdown, hmask⟩

/-- Coefficients of both signs, and the same threshold for both uses. -/
def skewedParams : Params where
  keymap1 := []
  keymap2 := []
  cx := -1 / 2
  cy := 1 / 2
  moveThreshold := 5
  gestureThreshold := 5

/-- Readings of both kinds are recorded. -/
def recordedState : HandlerState :=
  { HandlerState.init with lastGyroTp := ⟨1, 500000000⟩, lastGestureTp := ⟨1, 500000000⟩ }

/-- 10.5 to the left and 3.5 down after 7 ms: truncated to 10, and to 3 in the dead zone. -/
theorem movement_gesture_agree_skewed :
    signals (onGyroscope skewedParams (fun _ => ⟨1, 507000000⟩) (-3) 1 recordedState).2 =
        [.move 10 0] ∧
      ∃ w rest, (onGesture skewedParams (fun _ => ⟨1, 507000000⟩) 3 (-1) recordedState).2 =
          .report .second 0#32 w :: rest ∧ holds w btnGestureLeft = true := by
  have h := movement_gesture_agree skewedParams (fun _ => ⟨1, 507000000⟩) 3 (-1) recordedState
    (by decide) (by decide)
  obtain ⟨-, -, -, hopposite, -, -, hgesture⟩ := h
  constructor
  · exact hopposite.trans (by decide +kernel)
  · obtain ⟨w, rest, hreport, -, hleft, -⟩ :=
      hgesture skewedParams recordedState rfl rfl rfl (by decide) rfl
    exact ⟨w, rest, hreport, hleft.mpr (by decide +kernel)⟩

end PSMoveInput

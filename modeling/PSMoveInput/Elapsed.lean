import PSMoveInput.Arithmetic

/-! Time between two readings of the clock against `timeDelta`, which sees the `tv_nsec` fields
alone: below one second, and from one second on. -/
namespace PSMoveInput

open Truncation

/-- Nanoseconds from one reading to another. -/
def elapsed (last tp : Timespec) : ℤ :=
  (tp.tvSec - last.tvSec) * 1000000000 + (tp.tvNsec - last.tvNsec)

/-- Whole milliseconds from one reading to another. -/
def elapsedMs (last tp : Timespec) : ℤ := elapsed last tp / 1000000

/-- What the division and the correction make of the difference of the `tv_nsec` fields. Less than
a millisecond below zero it is taken for zero, and not for a change of the second. -/
theorem timeDelta_cases (tp last : Timespec) :
    (last.tvNsec ≤ tp.tvNsec ∧ 1000000 * timeDelta tp last ≤ tp.tvNsec - last.tvNsec ∧
      tp.tvNsec - last.tvNsec < 1000000 * (timeDelta tp last + 1)) ∨
    (tp.tvNsec < last.tvNsec ∧ last.tvNsec - tp.tvNsec < 1000000 ∧ timeDelta tp last = 0) ∨
    (1000000 ≤ last.tvNsec - tp.tvNsec ∧
      1000000 * (timeDelta tp last - 1) < tp.tvNsec - last.tvNsec + 1000000000 ∧
      tp.tvNsec - last.tvNsec + 1000000000 ≤ 1000000 * timeDelta tp last) := by
  have hmillion : (0 : ℤ) < 1000000 := by decide
  have hmul := Int.tdiv_mul_add_tmod (tp.tvNsec - last.tvNsec) 1000000
  have hlt := Int.tmod_lt_of_pos (tp.tvNsec - last.tvNsec) hmillion
  have hlt' := Int.tmod_lt_of_pos (-(tp.tvNsec - last.tvNsec)) hmillion
  have hsign := Int.tmod_nonneg (a := tp.tvNsec - last.tvNsec) 1000000
  have hsign' := Int.tmod_nonneg (a := -(tp.tvNsec - last.tvNsec)) 1000000
  rw [Int.neg_tmod] at hlt' hsign'
  simp only [timeDelta]
  split_ifs with h
  · omega
  · omega

/-! ### Below one second -/

/-- The delta is within one millisecond of the elapsed time, unless the second has changed and more
than 999 ms have passed: it is zero then. -/
theorem timeDelta_within_iff {last tp : Timespec} (hlast : last.Normal) (htp : tp.Normal)
    (helapsed : 0 ≤ elapsed last tp ∧ elapsed last tp < 1000000000) :
    |(timeDelta tp last : ℚ) - elapsed last tp / 1000000| < 1 ↔
      tp.tvSec = last.tvSec ∨ elapsed last tp ≤ 999000000 := by
  obtain ⟨hlast0, hlast1⟩ := hlast
  obtain ⟨htp0, htp1⟩ := htp
  have hscale : |(timeDelta tp last : ℚ) - elapsed last tp / 1000000| < 1 ↔
      -1000000 < 1000000 * timeDelta tp last - elapsed last tp ∧
        1000000 * timeDelta tp last - elapsed last tp < 1000000 := by
    rw [abs_lt, ← @Int.cast_lt ℚ, ← @Int.cast_lt ℚ]
    push_cast
    constructor
    · intro h
      constructor <;> linarith
    · intro h
      constructor <;> linarith
  rw [hscale]
  have hcases := timeDelta_cases tp last
  simp only [elapsed] at helapsed ⊢
  omega

/-- 20 ms, over a change of the second. -/
theorem timeDelta_within_borrow :
    |(timeDelta ⟨2, 10000000⟩ ⟨1, 990000000⟩ : ℚ) - elapsed ⟨1, 990000000⟩ ⟨2, 10000000⟩ / 1000000|
      < 1 := by
  have h := @timeDelta_within_iff ⟨1, 990000000⟩ ⟨2, 10000000⟩ ⟨by decide, by decide⟩
    ⟨by decide, by decide⟩ ⟨by decide, by decide⟩
  apply h.mpr
  right
  decide

/-- One nanosecond short of a second. -/
theorem timeDelta_loses_second :
    elapsed ⟨1, 1⟩ ⟨2, 0⟩ = 999999999 ∧
      ¬|(timeDelta ⟨2, 0⟩ ⟨1, 1⟩ : ℚ) - elapsed ⟨1, 1⟩ ⟨2, 0⟩ / 1000000| < 1 := by
  have hdelta : timeDelta ⟨2, 0⟩ ⟨1, 1⟩ = 0 := by decide
  have helapsed : elapsed ⟨1, 1⟩ ⟨2, 0⟩ = 999999999 := by decide
  refine ⟨helapsed, ?_⟩
  rw [hdelta, helapsed]
  norm_num

/-! ### From one second on -/

/-- A component of the displacement before it is compared with the threshold. -/
def pixelOffset (g delta : ℤ) (coeff : ℚ) : ℤ := toInt (g * delta * coeff)

theorem displacement_offset (g delta : ℤ) (coeff : ℚ) (threshold : ℤ) :
    displacement g delta coeff threshold = deadZone threshold (pixelOffset g delta coeff) := by
  rw [displacement_eq, pixelOffset, toInt_eq_truncate]

/-- At every threshold `onGyroscope` emits the movement `(dx, dy)`, less what the threshold cuts
off. -/
def GyroComputes (P : Params) (clock : Clock) (gx gy : ℤ) (s : HandlerState) (dx dy : ℤ) : Prop :=
  ∀ t : ℤ, (onGyroscope { P with moveThreshold := t } clock gx gy s).2 =
    if deadZone t dx ≠ 0 ∨ deadZone t dy ≠ 0 then
      [.signal none (.move (deadZone t dx) (deadZone t dy))]
    else []

/-- At every threshold `onGesture` reports the gesture bits of `(dx, dy)`, less what the threshold
cuts off. -/
def GestureComputes (P : Params) (clock : Clock) (gx gy : ℤ) (s : HandlerState) (dx dy : ℤ) :
    Prop :=
  ∀ t : ℤ, (onGesture { P with gestureThreshold := t } clock gx gy s).2 =
    (onButtons { P with gestureThreshold := t } (fun k => clock (k + 1))
      (gestureButtons (deadZone t dx) (deadZone t dy) ||| (s.buttons .second &&& btnGestureMask))
      .second s).2

theorem onGyroscope_computes {P : Params} {s : HandlerState}
    (hlast : s.lastGyroTp.tvSec ≠ 0 ∧ s.lastGyroTp.tvNsec ≠ 0) (hgate : moveGate P s = true)
    (clock : Clock) (gx gy : ℤ) :
    GyroComputes P clock gx gy s (pixelOffset gx (timeDelta (clock 0) s.lastGyroTp) P.cx)
      (pixelOffset gy (timeDelta (clock 0) s.lastGyroTp) P.cy) := by
  intro t
  have hopen : moveGate { P with moveThreshold := t } s = true := hgate
  simp only [onGyroscope, if_pos hlast, if_pos hopen, displacement_offset]

theorem onGesture_computes {P : Params} {s : HandlerState} (hready : gestureReady P s)
    (clock : Clock) (gx gy : ℤ) :
    GestureComputes P clock gx gy s (pixelOffset gx (timeDelta (clock 0) s.lastGestureTp) P.cx)
      (pixelOffset gy (timeDelta (clock 0) s.lastGestureTp) P.cy) := by
  intro t
  have hopen : gestureReady { P with gestureThreshold := t } s := hready
  rw [onGesture_eq, if_pos hopen]
  simp only [gestureReport, displacement_offset]

/-- Two readings, one second or more apart, whose offset is not less than that of one millisecond
less than the time between them: either less than one pixel is due, or exactly one pixel is due
and 999 ms of 1998 are just enough for it. -/
def OffsetKept (last tp : Timespec) (gx : ℤ) (cx : ℚ) : Prop :=
  gx * cx * (elapsedMs last tp - 1 : ℤ) < 1 ∨
    (1998000000 < elapsed last tp ∧ elapsed last tp < 1999000000 ∧ tp.tvSec = last.tvSec + 2 ∧
      1 ≤ 999 * (gx * cx) ∧ 1997 * (gx * cx) < 2)

/-- The delta has at most the milliseconds of the last second. -/
theorem timeDelta_past_second {last tp : Timespec} (hlast : last.Normal) (htp : tp.Normal)
    (hgap : 1000000000 ≤ elapsed last tp) :
    timeDelta tp last + 998 ≤ elapsedMs last tp - 1 ∧
      (timeDelta tp last = 999 → elapsedMs last tp < 1999 →
        1998000000 < elapsed last tp ∧ elapsed last tp < 1999000000 ∧
          tp.tvSec = last.tvSec + 2) ∧
      (1998000000 < elapsed last tp → elapsed last tp < 1999000000 →
        tp.tvSec = last.tvSec + 2 → timeDelta tp last = 999 ∧ elapsedMs last tp = 1998) := by
  obtain ⟨hlast0, hlast1⟩ := hlast
  obtain ⟨htp0, htp1⟩ := htp
  have hcases := timeDelta_cases tp last
  simp only [elapsedMs]
  simp only [elapsed] at hgap ⊢
  refine ⟨?_, ?_, ?_⟩
  · omega
  · intro h h'
    omega
  · intro h h' hsec
    omega

theorem pixelOffset_le_iff {g a b : ℤ} {coeff : ℚ} (hg : 0 < g) (hcoeff : 0 < coeff) (ha : 0 ≤ a)
    (hb : 0 ≤ b) : pixelOffset g a coeff ≤ pixelOffset g b coeff ↔
      ⌊g * coeff * a⌋ ≤ ⌊g * coeff * b⌋ := by
  have hfloor (n : ℤ) (hn : 0 ≤ n) : pixelOffset g n coeff = ⌊g * coeff * n⌋ := by
    have hnonneg : 0 ≤ (g : ℚ) * n * coeff := by positivity
    rw [pixelOffset, toInt_eq_truncate, truncate_of_nonneg hnonneg, mul_right_comm]
  rw [hfloor a ha, hfloor b hb]

/-- Offsets of `d` and of `n` milliseconds, at `x` pixels a millisecond. -/
theorem floor_kept_iff {x : ℚ} (hx : 0 < x) {d n : ℤ} (hd : 0 ≤ d ∧ d ≤ 999) (hn : d + 998 ≤ n) :
    ⌊x * n⌋ ≤ ⌊x * d⌋ ↔ x * n < 1 ∨ (d = 999 ∧ n = 1997 ∧ 1 ≤ 999 * x ∧ 1997 * x < 2) := by
  have hn' : (d : ℚ) + 998 ≤ n := by exact_mod_cast hn
  have hd' : (0 : ℚ) ≤ d := by exact_mod_cast hd.1
  constructor
  · intro hlaw
    by_cases hpixel : x * d < 1
    · -- no pixel results, so none may be due
      left
      have hzero : ⌊x * d⌋ < 1 := Int.floor_lt.mpr (by exact_mod_cast hpixel)
      have hdue := Int.floor_lt.mp (hlaw.trans_lt hzero)
      exact_mod_cast hdue
    · right
      have hone : 1 ≤ x * d := not_lt.mp hpixel
      have hlaw' : (⌊x * n⌋ : ℚ) ≤ ⌊x * d⌋ := by exact_mod_cast hlaw
      have hdue : x * n < ⌊x * d⌋ + 1 := by
        have hlt := Int.lt_floor_add_one (x * n)
        linarith
      have hbelow := Int.floor_le (x * d)
      -- the milliseconds between them are less than one pixel
      have hsmall : 998 * x < 1 := by nlinarith
      have h999 : d = 999 := by
        by_contra hne
        have hle : (d : ℚ) ≤ 998 := by
          have hle : d ≤ 998 := by omega
          exact_mod_cast hle
        nlinarith
      subst h999
      push_cast at hone hn'
      have hfloor : ⌊x * (999 : ℤ)⌋ ≤ 1 := by
        apply Int.lt_add_one_iff.mp
        apply Int.floor_lt.mpr
        push_cast
        linarith
      have hfloor' : (⌊x * (999 : ℤ)⌋ : ℚ) ≤ 1 := by exact_mod_cast hfloor
      have hn1997 : n = 1997 := by
        have hlt : n < 1998 := by
          by_contra hge
          have hge' : (1998 : ℚ) ≤ n := by exact_mod_cast not_lt.mp hge
          nlinarith
        omega
      subst hn1997
      have hdue' : x * (1997 : ℤ) < 2 := by linarith
      push_cast at hdue'
      refine ⟨rfl, rfl, by linarith, by linarith⟩
  · intro h
    rcases h with hpixel | ⟨rfl, rfl, hone, htwo⟩
    · have hzero : ⌊x * n⌋ < 1 := Int.floor_lt.mpr (by exact_mod_cast hpixel)
      have hnonneg : 0 ≤ ⌊x * d⌋ := Int.floor_nonneg.mpr (by positivity)
      omega
    · have hdue : ⌊x * (1997 : ℤ)⌋ < 2 := by
        apply Int.floor_lt.mpr
        push_cast
        linarith
      have hkept : 1 ≤ ⌊x * (999 : ℤ)⌋ := by
        apply Int.le_floor.mpr
        push_cast
        linarith
      omega

/-- The law for one pair of readings. -/
theorem pixelOffset_kept_iff {last tp : Timespec} (hlast : last.Normal) (htp : tp.Normal)
    (hgap : 1000000000 ≤ elapsed last tp) {gx : ℤ} {cx : ℚ} (hg : 0 < gx) (hc : 0 < cx) :
    pixelOffset gx (elapsedMs last tp - 1) cx ≤ pixelOffset gx (timeDelta tp last) cx ↔
      OffsetKept last tp gx cx := by
  have hdelta := timeDelta_bounds htp hlast
  obtain ⟨hfar, hsliver, hsliver'⟩ := timeDelta_past_second hlast htp hgap
  have hpos : (0 : ℚ) < gx * cx := by positivity
  rw [pixelOffset_le_iff hg hc (by omega) hdelta.1, floor_kept_iff hpos hdelta hfar]
  apply or_congr Iff.rfl
  constructor
  · intro h
    obtain ⟨h999, hms, hone, htwo⟩ := h
    obtain ⟨hlow, hhigh, hsec⟩ := hsliver h999 (by omega)
    exact ⟨hlow, hhigh, hsec, hone, htwo⟩
  · intro h
    obtain ⟨hlow, hhigh, hsec, hone, htwo⟩ := h
    obtain ⟨h999, hms⟩ := hsliver' hlow hhigh hsec
    exact ⟨h999, by omega, hone, htwo⟩

theorem onGesture_lastGestureTp (P : Params) (clock : Clock) (gx gy : ℤ) (s : HandlerState) :
    (onGesture P clock gx gy s).1.lastGestureTp = clock 0 := by
  rw [onGesture_eq]
  split_ifs <;> rfl

/-- Of two calls, one second or more apart, the second one emits at least the documented offset for
a millisecond less than their distance if and only if the documented one is no pixel, or one that
the last 999 ms yield by themselves. It computes no offset where its gate is closed or the first
reading looks like none. -/
theorem offset_kept_iff (P : Params) (clock clock' : Clock) (gx₀ gy₀ gx gy : ℤ) (s : HandlerState)
    (hclock : (clock 0).Normal) (hclock' : (clock' 0).Normal)
    (hgap : 1000000000 ≤ elapsed (clock 0) (clock' 0)) (hg : 0 < gx) (hc : 0 < P.cx) :
    let due := pixelOffset gx (elapsedMs (clock 0) (clock' 0) - 1) P.cx
    let moved := (onGyroscope P clock gx₀ gy₀ s).1
    let gestured := (onGesture P clock gx₀ gy₀ s).1
    let recorded := (clock 0).tvSec ≠ 0 ∧ (clock 0).tvNsec ≠ 0
    (if recorded ∧ moveGate P moved = true then
      ∃ dx dy, GyroComputes P clock' gx gy moved dx dy ∧
        (due ≤ dx ↔ OffsetKept (clock 0) (clock' 0) gx P.cx)
    else (onGyroscope P clock' gx gy moved).2 = []) ∧
    (if recorded ∧ gestureGate P gestured = true then
      ∃ dx dy, GestureComputes P clock' gx gy gestured dx dy ∧
        (due ≤ dx ↔ OffsetKept (clock 0) (clock' 0) gx P.cx)
    else (onGesture P clock' gx gy gestured).2 = []) := by
  intro due moved gestured recorded
  have hiff := pixelOffset_kept_iff hclock hclock' hgap hg hc
  have hgesture : gestured.lastGestureTp = clock 0 := onGesture_lastGestureTp P clock gx₀ gy₀ s
  constructor
  · split_ifs with hready
    · exact ⟨_, _, onGyroscope_computes hready.1 hready.2 clock' gx gy, hiff⟩
    · exact onGyroscope_unmeasured hready
  · split_ifs with hready
    · have hready' : gestureReady P gestured := ⟨hgesture ▸ hready.1, hready.2⟩
      refine ⟨_, _, onGesture_computes hready' clock' gx gy, ?_⟩
      rw [hgesture]
      exact hiff
    · have hready' : ¬gestureReady P gestured := by
        rintro ⟨hlast, hgate⟩
        rw [hgesture] at hlast
        exact hready ⟨hlast, hgate⟩
      rw [onGesture_eq, if_neg hready']

/-- Every 999 ms a pixel, 1998.5 ms apart: one pixel is due, and one is emitted. -/
theorem offset_kept_slow :
    let P : Params := ⟨[], [], 1 / 999, 1, 0, 0⟩
    let s := (onGyroscope P (fun _ => ⟨1, 500000000⟩) 1 0 .init).1
    (onGyroscope P (fun _ => ⟨3, 498500000⟩) 1 0 s).2 = [.signal none (.move 1 0)] ∧
      ∃ dx dy, GyroComputes P (fun _ => ⟨3, 498500000⟩) 1 0 s dx dy ∧
        pixelOffset 1 1997 P.cx ≤ dx := by
  intro P s
  have hcall := (offset_kept_iff P (fun _ => ⟨1, 500000000⟩) (fun _ => ⟨3, 498500000⟩) 1 0 1 0 .init
    ⟨by decide, by decide⟩ ⟨by decide, by decide⟩ (by decide) (by decide) (by norm_num [P])).1
  rw [if_pos ⟨⟨by decide, by decide⟩, by decide +kernel⟩] at hcall
  obtain ⟨dx, dy, hcomputes, hkept⟩ := hcall
  refine ⟨by decide +kernel, dx, dy, hcomputes, ?_⟩
  apply hkept.mpr
  right
  refine ⟨by decide, by decide, by decide, ?_, ?_⟩
  · norm_num [P]
  · norm_num [P]

/-- One second after the previous reading nothing is emitted, where 999 pixels are due. -/
theorem offset_lost_after_second :
    let P : Params := ⟨[], [], 1, 1, 0, 0⟩
    let moved := (onGyroscope P (fun _ => ⟨1, 500000000⟩) 1 0 .init).1
    let gestured := (onGesture P (fun _ => ⟨1, 500000000⟩) 1 0 .init).1
    let due := pixelOffset 1 (elapsedMs ⟨1, 500000000⟩ ⟨2, 500000000⟩ - 1) P.cx
    due = 999 ∧ (onGesture P (fun _ => ⟨2, 500000000⟩) 1 0 gestured).1.buttons .second = 0#32 ∧
      ¬∃ dx dy, GyroComputes P (fun _ => ⟨2, 500000000⟩) 1 0 moved dx dy ∧ due ≤ dx := by
  intro P moved gestured due
  have hdue : due = 999 := by decide +kernel
  have hsilent : (onGyroscope P (fun _ => ⟨2, 500000000⟩) 1 0 moved).2 = [] := by decide +kernel
  refine ⟨hdue, by decide +kernel, ?_⟩
  rintro ⟨dx, dy, hcomputes, hle⟩
  have hmoves : deadZone (0 : ℤ) dx ≠ 0 := by
    rw [deadZone, if_neg (not_lt.mpr (abs_nonneg dx))]
    omega
  have hemitted := hcomputes 0
  rw [if_pos (Or.inl hmoves)] at hemitted
  cases hsilent.symm.trans hemitted

end PSMoveInput

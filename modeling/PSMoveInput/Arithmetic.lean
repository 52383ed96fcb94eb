import Mathlib.Tactic.Linarith
import PSMoveInput.Config
import PSMoveInput.ControllerThread
import PSMoveInput.Movement

/-! The arithmetic of a controller thread and of the handler calls it makes, for the numbers of a
configuration: the quotients of the timeouts, and the products that are converted to `int`. -/
namespace PSMoveInput

open Transducer Truncation

/-! ### The loop of a controller thread -/

/-- A controller thread with the members that `updateLeds` uses. -/
structure LoopState where
  thread : ControllerThread
  ledTimeout : ℤ
  pollCount : ℤ

inductive LoopEvent where
  /-- `psmove_poll` has data. -/
  | sample (x : Sample)
  | updateLeds

/-- What a step computes: a quotient, or the arguments of a handler call. -/
inductive LoopOutput where
  | divide (a b : ℤ)
  | call (call : Call)

def LoopState.updateLeds (s : LoopState) : LoopState :=
  let pollCount := s.pollCount + 1
  { s with pollCount := if pollCount > s.ledTimeout.tdiv s.thread.pollTimeout then 0 else pollCount }

def LoopState.step (s : LoopState) : LoopEvent → LoopState × List LoopOutput
  | .sample x =>
    let r := s.thread.poll x
    -- only the second controller counts samples
    let quotients :=
      match s.thread.id with
      | .first => []
      | .second => [.divide s.thread.gestureTimeout s.thread.pollTimeout]
    ({ s with thread := r.1 }, quotients ++ r.2.map .call)
  | .updateLeds => (s.updateLeds, [.divide s.ledTimeout s.thread.pollTimeout])

/-- A reading of the clock. -/
def Timespec.Normal (tp : Timespec) : Prop := 0 ≤ tp.tvNsec ∧ tp.tvNsec < 1000000000

/-- The products that a call converts to `int` if the previous reading was taken at `last`. -/
def Call.products (coeffs : MoveCoeffs) (last : Timespec) : Call → List ℚ
  | .onGyroscope clock gx gy =>
    [gx * timeDelta (clock 0) last * coeffs.cx, gy * timeDelta (clock 0) last * coeffs.cy]
  | .onGesture clock gx gy =>
    [gx * timeDelta (clock 0) last * coeffs.cx, gy * timeDelta (clock 0) last * coeffs.cy]
  | _ => []

/-- The quotient is defined and fits, or the products do after their conversion. -/
def LoopOutput.Defined (coeffs : MoveCoeffs) : LoopOutput → Prop
  | .divide a b => b ≠ 0 ∧ InInt (a.tdiv b)
  | .call c => ∀ last : Timespec, last.Normal → ∀ p ∈ c.products coeffs last, InInt (toInt p)

/-- The values that the thread takes for the gyroscope are in the range of 16 bits. -/
def LoopEvent.Measured (t : ControllerThread) : LoopEvent → Prop
  | .sample x =>
    (-2 ^ 15 ≤ (t.gyro x).1 ∧ (t.gyro x).1 < 2 ^ 15) ∧
      (-2 ^ 15 ≤ (t.gyro x).2 ∧ (t.gyro x).2 < 2 ^ 15) ∧ ∀ k, (x.gyroClock k).Normal
  | .updateLeds => True

/-- A thread that is started with the timeouts of a configuration. -/
def LoopState.start (c : Config) (t : ControllerThread) (id : ControllerId) (calibrated : Bool)
    (pollCount : ℤ) : LoopState where
  thread := t.start id calibrated c.pollTimeout c.gestureTimeout
  ledTimeout := c.ledTimeout
  pollCount := pollCount

/-- In every run of every thread that is started with the configuration, all arithmetic is
defined. -/
def RunsDefined (c : Config) : Prop :=
  ∀ (t : ControllerThread) (id : ControllerId) (calibrated : Bool) (pollCount : ℤ)
    (evs : List LoopEvent), t.running = false →
    (∀ ev ∈ evs, ev.Measured (t.start id calibrated c.pollTimeout c.gestureTimeout)) →
    ∀ out ∈ (run LoopState.step (.start c t id calibrated pollCount) evs).2, out.Defined c.coeffs

/-- The condition on the numbers of a configuration. Both products of the horizontal axis use the
negated reading, those of the vertical axis use both signs. -/
def ArithmeticBounds (n : Config.Numbers) : Prop :=
  (n.pollTimeout : ℤ) ≠ 0 ∧
  ¬((n.pollTimeout : ℤ) = -1 ∧
    ((n.gestureTimeout : ℤ) = -2 ^ 31 ∨ (n.ledTimeout : ℤ) = -2 ^ 31)) ∧
  (-(2 ^ 31 + 1) < 32768 * 999 * n.coeffs.cx ∧ 32768 * 999 * n.coeffs.cx < 2 ^ 31) ∧
  (-2 ^ 31 < 32768 * 999 * n.coeffs.cy ∧ 32768 * 999 * n.coeffs.cy < 2 ^ 31)

instance (n : Config.Numbers) : Decidable (ArithmeticBounds n) := inferInstanceAs (Decidable (_ ∧ _))

/-! ### Quotients and products -/

/-- The one quotient of two `int` values that does not fit. -/
theorem inInt_tdiv_iff {a b : ℤ} (ha : InInt a) (hb : b ≠ 0) :
    InInt (a.tdiv b) ↔ ¬(b = -1 ∧ a = -2 ^ 31) := by
  rcases eq_or_ne b (-1) with rfl | hminus
  · obtain ⟨hlow, hhigh⟩ := ha
    rw [Int.tdiv_neg, Int.tdiv_one, InInt]
    omega
  · have hfits : InInt (a.tdiv b) := by
      rcases eq_or_ne b 1 with rfl | hone
      · rw [Int.tdiv_one]
        exact ha
      · -- any other divisor halves the absolute value
        have habs : (a.tdiv b).natAbs ≤ a.natAbs / 2 := by
          rw [Int.natAbs_tdiv]
          apply Nat.div_le_div_left
          · omega
          · decide
        obtain ⟨hlow, hhigh⟩ := ha
        rw [InInt]
        omega
    exact iff_of_true hfits fun h => hminus h.1

theorem inInt_toInt_iff (x : ℚ) : InInt (toInt x) ↔ -(2 ^ 31 + 1) < x ∧ x < 2 ^ 31 := by
  have hlow : -2 ^ 31 ≤ truncate x ↔ -(2 ^ 31 + 1) < x := by
    have h := neg_le_truncate_iff (show (0 : ℤ) ≤ 2 ^ 31 by decide) x
    exact_mod_cast h
  have hhigh : truncate x < 2 ^ 31 ↔ x < 2 ^ 31 := by
    have h := truncate_le_iff (show (0 : ℤ) ≤ 2 ^ 31 - 1 by decide) x
    rw [Int.le_sub_one_iff] at h
    rw [h]
    norm_num
  rw [InInt, toInt_eq_truncate, hlow, hhigh]

theorem timeDelta_bounds {tp last : Timespec} (htp : tp.Normal) (hlast : last.Normal) :
    0 ≤ timeDelta tp last ∧ timeDelta tp last ≤ 999 := by
  obtain ⟨htp0, htp1⟩ := htp
  obtain ⟨hlast0, hlast1⟩ := hlast
  have habs : ((tp.tvNsec - last.tvNsec).tdiv 1000000).natAbs ≤ 999 := by
    rw [Int.natAbs_tdiv]
    apply Nat.le_of_lt_succ
    apply Nat.div_lt_of_lt_mul
    omega
  simp only [timeDelta]
  split_ifs <;> omega

/-- A reading times a time difference, in a range around zero. -/
theorem reading_bounds {low high g delta : ℤ} (hlow : low ≤ 0) (hhigh : 0 ≤ high)
    (hg : low ≤ g ∧ g ≤ high) (hdelta : 0 ≤ delta ∧ delta ≤ 999) :
    low * 999 ≤ g * delta ∧ g * delta ≤ high * 999 := by
  constructor
  · calc
      low * 999 ≤ low * delta := mul_le_mul_of_nonpos_left hdelta.2 hlow
      _ ≤ g * delta := mul_le_mul_of_nonneg_right hg.1 hdelta.1
  · calc
      g * delta ≤ high * delta := mul_le_mul_of_nonneg_right hg.2 hdelta.1
      _ ≤ high * 999 := mul_le_mul_of_nonneg_left hdelta.2 hhigh

/-- A product is in range if the products with both ends of the range of the reading are. -/
theorem product_inInt {low high g delta : ℤ} {c : ℚ} (hlow : low ≤ 0) (hhigh : 0 ≤ high)
    (hg : low ≤ g ∧ g ≤ high) (hdelta : 0 ≤ delta ∧ delta ≤ 999)
    (hcl : -(2 ^ 31 + 1) < low * 999 * c ∧ low * 999 * c < 2 ^ 31)
    (hch : -(2 ^ 31 + 1) < high * 999 * c ∧ high * 999 * c < 2 ^ 31) :
    InInt (toInt (g * delta * c)) := by
  obtain ⟨hl, hh⟩ := reading_bounds hlow hhigh hg hdelta
  have hl' : (low * 999 : ℚ) ≤ g * delta := by exact_mod_cast hl
  have hh' : (g * delta : ℚ) ≤ high * 999 := by exact_mod_cast hh
  rw [inInt_toInt_iff]
  -- the sign of the coefficient says which end bounds the product on which side
  rcases le_total 0 c with hsign | hsign
  · have h1 := mul_le_mul_of_nonneg_right hl' hsign
    have h2 := mul_le_mul_of_nonneg_right hh' hsign
    exact ⟨hcl.1.trans_le h1, h2.trans_lt hch.2⟩
  · have h1 := mul_le_mul_of_nonpos_right hl' hsign
    have h2 := mul_le_mul_of_nonpos_right hh' hsign
    exact ⟨hch.1.trans_le h2, h1.trans_lt hcl.2⟩

/-! ### A step -/

/-- What the thread keeps of the configuration. -/
structure LoopState.Started (c : Config) (t : ControllerThread) (s : LoopState) : Prop where
  calibrated : s.thread.calibrated = t.calibrated
  pollTimeout : s.thread.pollTimeout = c.pollTimeout
  gestureTimeout : s.thread.gestureTimeout = c.gestureTimeout
  ledTimeout : s.ledTimeout = c.ledTimeout

theorem started_step {c : Config} {t : ControllerThread} {s : LoopState} (h : s.Started c t)
    (ev : LoopEvent) : (s.step ev).1.Started c t := by
  cases ev with
  | sample x => exact ⟨h.calibrated, h.pollTimeout, h.gestureTimeout, h.ledTimeout⟩
  | updateLeds => exact ⟨h.calibrated, h.pollTimeout, h.gestureTimeout, h.ledTimeout⟩

/-- The signals of one sample. -/
theorem poll_calls (t : ControllerThread) (x : Sample) (call : Call) (h : call ∈ (t.poll x).2) :
    call = .onGyroscope x.gyroClock (-(t.gyro x).2) (-(t.gyro x).1) ∨
      call = .onGesture x.gyroClock (-(t.gyro x).2) (t.gyro x).1 ∨
      call = .onButtons x.buttonsClock x.buttons t.id := by
  simp only [ControllerThread.poll, List.mem_append] at h
  rcases h with h | h
  · simp only [ControllerThread.reportGyro] at h
    cases hid : t.id with
    | first =>
      rw [hid] at h
      exact Or.inl (List.mem_singleton.mp h)
    | second =>
      rw [hid] at h
      dsimp only at h
      split_ifs at h
      · exact Or.inr (Or.inl (List.mem_singleton.mp h))
      · exact absurd h List.not_mem_nil
  · split_ifs at h
    · exact Or.inr (Or.inr (List.mem_singleton.mp h))
    · exact absurd h List.not_mem_nil

theorem divide_defined {n : Config.Numbers} (hn : ArithmeticBounds n) {a : CInt}
    (ha : a = n.gestureTimeout ∨ a = n.ledTimeout) (coeffs : MoveCoeffs) :
    (LoopOutput.divide a n.pollTimeout).Defined coeffs := by
  obtain ⟨hzero, hminus, -, -⟩ := hn
  refine ⟨hzero, (inInt_tdiv_iff a.2 hzero).mpr ?_⟩
  intro h
  apply hminus
  refine ⟨h.1, ?_⟩
  rcases ha with rfl | rfl
  · exact Or.inl h.2
  · exact Or.inr h.2

/-- The readings of a sample are those of the thread's calibration, and the bounds of the products
are taken at their ends and at 999 ms. -/
theorem call_defined {c : Config} (hc : ArithmeticBounds c.numbers) {t thread : ControllerThread}
    {x : Sample} (hgyro : thread.gyro x = t.gyro x) (hx : (LoopEvent.sample x).Measured t)
    {call : Call} (hcall : call ∈ (thread.poll x).2) : (LoopOutput.call call).Defined c.coeffs := by
  obtain ⟨⟨hx0, hx1⟩, ⟨hz0, hz1⟩, hclock⟩ := hx
  obtain ⟨-, -, hcx, hcy⟩ := hc
  intro last hlast
  have hdelta := timeDelta_bounds (hclock 0) hlast
  change -(2 ^ 31 + 1) < 32768 * 999 * c.coeffs.cx ∧ 32768 * 999 * c.coeffs.cx < 2 ^ 31 at hcx
  change -2 ^ 31 < 32768 * 999 * c.coeffs.cy ∧ 32768 * 999 * c.coeffs.cy < 2 ^ 31 at hcy
  have hfirst (g : ℤ) (hg : -32767 ≤ g ∧ g ≤ 32768) :
      InInt (toInt (g * timeDelta (x.gyroClock 0) last * c.coeffs.cx)) := by
    apply product_inInt (by decide) (by decide) hg hdelta
    · push_cast
      constructor <;> linarith
    · exact_mod_cast hcx
  have hsecond (g : ℤ) (hg : -32768 ≤ g ∧ g ≤ 32768) :
      InInt (toInt (g * timeDelta (x.gyroClock 0) last * c.coeffs.cy)) := by
    apply product_inInt (by decide) (by decide) hg hdelta
    · push_cast
      constructor <;> linarith
    · push_cast
      constructor <;> linarith
  -- both calls negate the horizontal reading, and the movement the vertical one as well
  rcases poll_calls thread x call hcall with rfl | rfl | rfl
  · rw [hgyro]
    simp only [Call.products, List.forall_mem_cons]
    refine ⟨hfirst _ ?_, hsecond _ ?_, by simp⟩
    · omega
    · omega
  · rw [hgyro]
    simp only [Call.products, List.forall_mem_cons]
    refine ⟨hfirst _ ?_, hsecond _ ?_, by simp⟩
    · omega
    · omega
  · intro p hp
    exact absurd hp List.not_mem_nil

theorem step_defined {c : Config} (hc : ArithmeticBounds c.numbers) {t : ControllerThread}
    {s : LoopState} (h : s.Started c t) (ev : LoopEvent) (hev : ev.Measured t) :
    ∀ out ∈ (s.step ev).2, out.Defined c.coeffs := by
  intro out hout
  cases ev with
  | updateLeds =>
    obtain rfl := List.mem_singleton.mp hout
    rw [h.ledTimeout, h.pollTimeout]
    exact divide_defined hc (Or.inr rfl) c.coeffs
  | sample x =>
    rcases List.mem_append.mp hout with hout | hout
    · cases hid : s.thread.id with
      | first =>
        simp only [hid] at hout
        exact absurd hout List.not_mem_nil
      | second =>
        simp only [hid] at hout
        obtain rfl := List.mem_singleton.mp hout
        rw [h.gestureTimeout, h.pollTimeout]
        exact divide_defined hc (Or.inl rfl) c.coeffs
    · obtain ⟨call, hcall, rfl⟩ := List.mem_map.mp hout
      have hgyro : s.thread.gyro x = t.gyro x := by
        simp only [ControllerThread.gyro, h.calibrated]
      exact call_defined hc hgyro hev hcall

/-! ### Runs -/

/-- The second controller reports a gesture after enough samples. -/
theorem gesture_reported (x : Sample) (n : ℕ) (s : LoopState) (hid : s.thread.id = .second)
    (hpos : 0 < n)
    (hn : s.thread.gestureTimeout.tdiv s.thread.pollTimeout - s.thread.gestureCount < n) :
    LoopOutput.call (.onGesture x.gyroClock (-(s.thread.gyro x).2) (s.thread.gyro x).1) ∈
      (run LoopState.step s (List.replicate n (.sample x))).2 := by
  induction n generalizing s with
  | zero => omega
  | succ n ih =>
    rw [List.replicate_succ, run_cons_snd]
    by_cases hreport : s.thread.gestureCount + 1 >
        s.thread.gestureTimeout.tdiv s.thread.pollTimeout
    · have hgyro : (s.thread.reportGyro x).2 =
          [.onGesture x.gyroClock (-(s.thread.gyro x).2) (s.thread.gyro x).1] := by
        simp only [ControllerThread.reportGyro, hid]
        rw [if_pos hreport]
      have hpoll : Call.onGesture x.gyroClock (-(s.thread.gyro x).2) (s.thread.gyro x).1 ∈
          (s.thread.poll x).2 := by
        change _ ∈ (s.thread.reportGyro x).2 ++ _
        rw [hgyro]
        exact List.mem_cons_self
      apply List.mem_append_left
      apply List.mem_append_right
      exact List.mem_map_of_mem hpoll
    · -- the sample is only counted
      apply List.mem_append_right
      have hcount : (s.step (.sample x)).1.thread.gestureCount = s.thread.gestureCount + 1 := by
        simp only [LoopState.step, ControllerThread.poll, hid, ControllerThread.reportGyro]
        rw [if_neg hreport]
      apply ih (s.step (.sample x)).1
      · exact hid
      · omega
      · rw [hcount]
        simp only [LoopState.step, ControllerThread.poll]
        omega

/-- The lowest reading on both axes, at the end of a second. -/
def extremeSample : Sample where
  gyroscope := (-32768, 0, -32768)
  gyroscopeFrame := (0, 0, 0)
  buttons := 0#32
  gyroClock := fun _ => ⟨1, 999999999⟩
  buttonsClock := fun _ => ⟨1, 999999999⟩
  tp := ⟨1, 999999999⟩

theorem extremeSample_delta : timeDelta (extremeSample.gyroClock 0) ⟨1, 1⟩ = 999 := by decide

theorem extremeSample_measured (c : Config) (id : ControllerId) :
    LoopEvent.Measured (ControllerThread.new.start id false c.pollTimeout c.gestureTimeout)
      (.sample extremeSample) := by
  have hgyro : (ControllerThread.new.start id false c.pollTimeout c.gestureTimeout).gyro
      extremeSample = (-32768, -32768) := rfl
  simp only [LoopEvent.Measured, hgyro]
  refine ⟨by decide, by decide, ?_⟩
  intro k
  simp only [extremeSample, Timespec.Normal]
  decide

/-- Two runs of one step show the bounds of the quotients, and one step or a run up to a gesture
those of the products. -/
theorem RunsDefined.bounds {c : Config} (h : RunsDefined c) : ArithmeticBounds c.numbers := by
  have hrun (id : ControllerId) (n : ℕ) : ∀ out ∈ (run LoopState.step (.start c .new id false 0)
      (List.replicate n (.sample extremeSample))).2, out.Defined c.coeffs := by
    apply h .new id false 0 _ rfl
    intro ev hev
    rw [List.eq_of_mem_replicate hev]
    exact extremeSample_measured c id
  have hlast : Timespec.Normal ⟨1, 1⟩ := by
    simp only [Timespec.Normal]
    decide
  -- the quotients
  have hled : (LoopOutput.divide c.ledTimeout c.pollTimeout).Defined c.coeffs := by
    apply h .new .first false 0 [.updateLeds] rfl
    · intro ev hev
      rw [List.mem_singleton.mp hev]
      trivial
    · exact List.mem_cons_self
  have hgesture : (LoopOutput.divide c.gestureTimeout c.pollTimeout).Defined c.coeffs :=
    hrun .second 1 _ List.mem_cons_self
  obtain ⟨hzero, hled⟩ := hled
  rw [inInt_tdiv_iff c.ledTimeout.2 hzero] at hled
  have hquotient := (inInt_tdiv_iff c.gestureTimeout.2 hzero).mp hgesture.2
  -- a movement
  have hmove := hrun .first 1 (.call (.onGyroscope extremeSample.gyroClock 32768 32768))
    List.mem_cons_self ⟨1, 1⟩ hlast
  simp only [Call.products, List.forall_mem_cons, extremeSample_delta, inInt_toInt_iff] at hmove
  obtain ⟨hcx, hcy, -⟩ := hmove
  -- a gesture
  have hreport : LoopOutput.call (.onGesture extremeSample.gyroClock 32768 (-32768)) ∈ _ :=
    gesture_reported extremeSample (((c.gestureTimeout : ℤ).tdiv c.pollTimeout).toNat + 1)
      (.start c .new .second false 0) rfl (Nat.succ_pos _) (by
        have hself := Int.self_le_toNat ((c.gestureTimeout : ℤ).tdiv c.pollTimeout)
        change (c.gestureTimeout : ℤ).tdiv c.pollTimeout - 0 < _
        omega)
  have hswipe := hrun .second _ _ hreport ⟨1, 1⟩ hlast
  simp only [Call.products, List.forall_mem_cons, extremeSample_delta, inInt_toInt_iff] at hswipe
  obtain ⟨-, hcy', -⟩ := hswipe
  push_cast at hcx hcy hcy'
  refine ⟨hzero, ?_, hcx, ?_⟩
  · intro hboth
    rcases hboth.2 with hmin | hmin
    · exact hquotient ⟨hboth.1, hmin⟩
    · exact hled ⟨hboth.1, hmin⟩
  · refine ⟨?_, hcy.2⟩
    change -2 ^ 31 < 32768 * 999 * c.coeffs.cy
    linarith [hcy'.2]

theorem run_defined {c : Config} (hc : ArithmeticBounds c.numbers) : RunsDefined c := by
  intro t id calibrated pollCount evs hstopped hmeasured
  apply run_trace LoopState.step
    (LoopState.Started c (t.start id calibrated c.pollTimeout c.gestureTimeout))
    (fun _ es _ => ∀ out ∈ es, out.Defined c.coeffs)
  · intro s out hout
    exact absurd hout List.not_mem_nil
  · intro s u v es fs hes hfs out hout
    rcases List.mem_append.mp hout with hout | hout
    · exact hes out hout
    · exact hfs out hout
  · intro s ev _ hs
    exact started_step hs ev
  · intro s ev hev hs
    exact step_defined hc hs ev (hmeasured ev hev)
  · -- the thread has taken over the timeouts
    simp only [LoopState.start, ControllerThread.start, hstopped, ↓reduceIte]
    exact ⟨rfl, rfl, rfl, rfl⟩

/-- Every run of every thread is free of undefined arithmetic if and only if the numbers of the
file, over the defaults and over the coefficients that are not set, are within these bounds. -/
theorem runs_defined_iff (B : PSMoveButtons) (env : Environment) (opts : CmdLine)
    (coeffs : MoveCoeffs) (hok : (Config.parse B env (.ok opts) (.new env coeffs)).ok = true) :
    RunsDefined (Config.parse B env (.ok opts) (.new env coeffs)) ↔
      ArithmeticBounds ((Config.new env coeffs).numbers.over (fileOptions env opts)) := by
  rw [← parse_numbers B env opts coeffs hok]
  constructor
  · exact RunsDefined.bounds
  · exact run_defined

/-- A file that sets the coefficients only. -/
def coeffsConf : ConfFile :=
  { ConfFile.ofKeys fun _ => none with moveCoeffX := some 1, moveCoeffY := some (-3 / 2) }

theorem runs_defined_iff_coeffs :
    RunsDefined (Config.parse psmoveButtons (defaultFile coeffsConf) (.ok plainCmdLine)
      (.new (defaultFile coeffsConf) ⟨0, 0⟩)) := by
  have h := runs_defined_iff psmoveButtons (defaultFile coeffsConf) plainCmdLine ⟨0, 0⟩
    (by decide +kernel)
  exact h.mpr (by decide +kernel)

def zeroPollConf : ConfFile :=
  { coeffsConf with pollTimeout := some ⟨0, inInt_zero⟩ }

/-- `POLL_TIMEOUT=0` is accepted, and every thread divides by it when it updates its LEDs. -/
theorem zero_poll_divides :
    let c := Config.parse psmoveButtons (defaultFile zeroPollConf) (.ok plainCmdLine)
      (.new (defaultFile zeroPollConf) ⟨0, 0⟩)
    c.ok = true ∧
      (run LoopState.step (.start c .new .first false 0) [.updateLeds]).2 = [.divide 4000 0] ∧
      ¬RunsDefined c := by
  intro c
  have hled : (c.ledTimeout : ℤ) = 4000 := by decide +kernel
  have hpoll : (c.pollTimeout : ℤ) = 0 := by decide +kernel
  refine ⟨by decide +kernel, ?_, ?_⟩
  · rw [← hled, ← hpoll]
    rfl
  · intro h
    exact h.bounds.1 hpoll

end PSMoveInput

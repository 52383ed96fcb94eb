import PSMoveInput.HandlerScan

/-! `onButtons` and `onGesture` as total functions: the depth of their mutual calls is bounded,
so both satisfy the equations that the source states, and they return with the deferred
release handled. -/
namespace PSMoveInput

open Transducer EdgeTrace

/-! ### The deferred release -/

theorem release_uses_trigger (P : Params) (buttons : Word) (s : HandlerState)
    (h : (reportButtons P buttons .second s).1.releaseGestureKeys = true) :
    s.releaseGestureKeys = true ∨ P.useGestureTrigger = true := by
  unfold reportButtons at h
  split_ifs at h with hne
  · refine scan_invariant P .second (s.buttons .second) buttons
      (fun t => t.releaseGestureKeys = true →
        s.releaseGestureKeys = true ∨ P.useGestureTrigger = true) ?_ s Or.inl h
    intro t e he i _ _ ht
    by_cases hcode : e.lincode = keyPsmoveGestureTrigger
    · intro _
      right
      apply List.any_eq_true.mpr
      exact ⟨e, he, beq_iff_eq.mpr hcode⟩
    · -- no other code touches the flag
      have hsame : (handleSpecialKeys e.lincode .second (holds buttons i) t).2.1 = t := by
        simp only [handleSpecialKeys]
        split_ifs <;> simp_all
      rw [hsame]
      exact ht
  · exact Or.inl h

/-- A report that only releases buttons leaves the trigger off when it defers a release. -/
theorem release_closes_gate (P : Params) (buttons : Word) (s : HandlerState)
    (hrel : s.releaseGestureKeys = false)
    (hsub : ∀ i ∈ scanBits, holds buttons i = true → holds (s.buttons .second) i = true)
    (h : (reportButtons P buttons .second s).1.releaseGestureKeys = true) :
    gestureGate P (reportButtons P buttons .second s).1 = false := by
  have hidle : ¬s.releaseGestureKeys = true := Bool.eq_false_iff.mp hrel
  have huse : P.useGestureTrigger = true := by
    rcases release_uses_trigger P buttons s h with hr | hu
    · exact absurd hr hidle
    · exact hu
  have hoff : (reportButtons P buttons .second s).1.gestureTrigger = false := by
    revert h
    simp only [reportButtons]
    split_ifs with hne
    · refine scan_invariant P .second (s.buttons .second) buttons
        (fun t => t.releaseGestureKeys = true → t.gestureTrigger = false) ?_ s ?_
      · intro t e _ i hi hchange ht
        -- every change of this report is a release
        have hup : holds buttons i = false := by
          by_contra hset
          have hon : holds buttons i = true := eq_true_of_ne_false hset
          exact hchange ((hsub i hi hon).trans hon.symm)
        rw [hup]
        simp only [handleSpecialKeys]
        split_ifs <;> simp_all
      · intro hr
        exact absurd hr hidle
    · intro hr
      exact absurd hr hidle
  simp only [gestureGate, huse, hoff, Bool.and_false, Bool.not_true, Bool.or_false]

/-! ### Depth of the calls -/

/-- The events of one `onButtons` up to the test of `releaseGestureKeys_`. -/
def reportOut (P : Params) (buttons : Word) (controller : ControllerId) (s : HandlerState) :
    List Event :=
  .report controller (s.buttons controller) buttons :: (reportButtons P buttons controller s).2

/-- A call returns from its own report, or from the nested call. -/
theorem onButtonsFuel_succ {P : Params} {n : ℕ} {clock : Clock} {buttons : Word}
    {controller : ControllerId} {s : HandlerState} {t : HandlerState × List Event} :
    onButtonsFuel P (n + 1) clock buttons controller s = some t ↔
      ((reportButtons P buttons controller s).1.releaseGestureKeys = true ∧
        ∃ u, onGestureFuel P n clock 0 0
            { (reportButtons P buttons controller s).1 with releaseGestureKeys := false } = some u ∧
          t = (u.1, reportOut P buttons controller s ++ u.2)) ∨
      ((reportButtons P buttons controller s).1.releaseGestureKeys = false ∧
        t = ((reportButtons P buttons controller s).1, reportOut P buttons controller s)) := by
  simp only [onButtonsFuel, reportOut]
  split_ifs with hrel
  · rw [Option.map_eq_some_iff]
    constructor
    · intro h
      obtain ⟨u, hu, rfl⟩ := h
      exact Or.inl ⟨hrel, u, hu, rfl⟩
    · intro h
      rcases h with ⟨-, u, hu, rfl⟩ | ⟨hoff, -⟩
      · exact ⟨u, hu, rfl⟩
      · exact absurd (hrel.symm.trans hoff) (by decide)
  · have hoff := eq_false_of_ne_true hrel
    constructor
    · intro h
      exact Or.inr ⟨hoff, (Option.some.inj h).symm⟩
    · intro h
      rcases h with ⟨hon, -⟩ | ⟨-, rfl⟩
      · exact absurd hon hrel
      · rfl

theorem onGestureFuel_succ {P : Params} {n : ℕ} {clock : Clock} {gx gy : ℤ} {s : HandlerState}
    {t : HandlerState × List Event} :
    onGestureFuel P (n + 1) clock gx gy s = some t ↔
      (gestureReady P s ∧
        ∃ u, onButtonsFuel P n (fun k => clock (k + 1)) (gestureReport P (clock 0) gx gy s)
            .second s = some u ∧
          t = ({ u.1 with lastGestureTp := clock 0 }, u.2)) ∨
      (¬gestureReady P s ∧ t = ({ s with lastGestureTp := clock 0 }, [])) := by
  simp only [onGestureFuel]
  split_ifs with hready
  · rw [Option.map_eq_some_iff]
    constructor
    · intro h
      obtain ⟨u, hu, rfl⟩ := h
      exact Or.inl ⟨hready, u, hu, rfl⟩
    · intro h
      rcases h with ⟨-, u, hu, rfl⟩ | ⟨hclosed, -⟩
      · exact ⟨u, hu, rfl⟩
      · exact absurd hready hclosed
  · constructor
    · intro h
      exact Or.inr ⟨hready, (Option.some.inj h).symm⟩
    · intro h
      rcases h with ⟨hopen, -⟩ | ⟨-, rfl⟩
      · exact absurd hopen hready
      · rfl

theorem displacement_zero (delta : ℤ) (coeff : ℚ) (threshold : ℤ) :
    displacement 0 delta coeff threshold = 0 := by
  have h : toInt ((0 : ℤ) * delta * coeff) = 0 := by
    simp only [Int.cast_zero, zero_mul]
    rfl
  simp only [displacement]
  rw [h]
  simp only [ite_self]

theorem gestureReport_zero (P : Params) (tp : Timespec) (s : HandlerState) :
    gestureReport P tp 0 0 s = s.buttons .second &&& btnGestureMask := by
  simp only [gestureReport]
  simp only [displacement_zero]
  exact BitVec.zero_or

theorem onGestureFuel_closed (P : Params) (n : ℕ) (clock : Clock) (gx gy : ℤ) (s : HandlerState)
    (h : ¬gestureReady P s) :
    onGestureFuel P (n + 1) clock gx gy s = some ({ s with lastGestureTp := clock 0 }, []) := by
  simp only [onGestureFuel, if_neg h]

theorem onButtonsFuel_masked (P : Params) (n : ℕ) (clock : Clock) (s : HandlerState)
    (hrel : s.releaseGestureKeys = false) :
    (onButtonsFuel P (n + 2) clock (s.buttons .second &&& btnGestureMask) .second s).isSome := by
  rw [onButtonsFuel]
  dsimp only
  split_ifs with h
  · have hsub : ∀ i ∈ scanBits, holds (s.buttons .second &&& btnGestureMask) i = true →
        holds (s.buttons .second) i = true := by
      intro i hi hm
      rw [holds_and hi] at hm
      exact (Bool.and_eq_true_iff.mp hm).1
    have hgate := release_closes_gate P _ s hrel hsub h
    rw [onGestureFuel_closed]
    · rfl
    · intro hready
      have hopen : gestureGate P _ = true := hready.2
      exact Bool.false_ne_true (hgate.symm.trans hopen)
  · rfl

theorem onGestureFuel_zero (P : Params) (n : ℕ) (clock : Clock) (s : HandlerState)
    (hrel : s.releaseGestureKeys = false) : (onGestureFuel P (n + 3) clock 0 0 s).isSome := by
  rw [onGestureFuel]
  dsimp only
  split_ifs
  · rw [gestureReport_zero, Option.isSome_map]
    exact onButtonsFuel_masked P n _ s hrel
  · rfl

theorem onButtonsFuel_isSome (P : Params) (n : ℕ) (clock : Clock) (buttons : Word)
    (controller : ControllerId) (s : HandlerState) :
    (onButtonsFuel P (n + 4) clock buttons controller s).isSome := by
  rw [onButtonsFuel]
  dsimp only
  split_ifs
  · rw [Option.isSome_map]
    exact onGestureFuel_zero P n _ _ rfl
  · rfl

theorem onGestureFuel_isSome (P : Params) (n : ℕ) (clock : Clock) (gx gy : ℤ)
    (s : HandlerState) : (onGestureFuel P (n + 5) clock gx gy s).isSome := by
  rw [onGestureFuel]
  dsimp only
  split_ifs
  · rw [Option.isSome_map]
    exact onButtonsFuel_isSome P n _ _ _ s
  · rfl

/-- More depth than needed changes nothing. -/
theorem fuel_mono (P : Params) (n : ℕ) :
    (∀ clock buttons controller s t, onButtonsFuel P n clock buttons controller s = some t →
      onButtonsFuel P (n + 1) clock buttons controller s = some t) ∧
    (∀ clock gx gy s t, onGestureFuel P n clock gx gy s = some t →
      onGestureFuel P (n + 1) clock gx gy s = some t) := by
  induction n with
  | zero =>
    constructor
    · intro clock buttons controller s t h
      simp [onButtonsFuel] at h
    · intro clock gx gy s t h
      simp [onGestureFuel] at h
  | succ n ih =>
    constructor
    · intro clock buttons controller s t h
      apply onButtonsFuel_succ.mpr
      rcases onButtonsFuel_succ.mp h with ⟨hrel, u, hu, ht⟩ | hdone
      · exact Or.inl ⟨hrel, u, ih.2 _ _ _ _ _ hu, ht⟩
      · exact Or.inr hdone
    · intro clock gx gy s t h
      apply onGestureFuel_succ.mpr
      rcases onGestureFuel_succ.mp h with ⟨hready, u, hu, ht⟩ | hdone
      · exact Or.inl ⟨hready, u, ih.1 _ _ _ _ _ hu, ht⟩
      · exact Or.inr hdone

theorem onButtonsFuel_eq (P : Params) {n : ℕ} (hn : callDepth ≤ n) (clock : Clock)
    (buttons : Word) (controller : ControllerId) (s : HandlerState) :
    onButtonsFuel P n clock buttons controller s = some (onButtons P clock buttons controller s) := by
  induction n, hn using Nat.le_induction with
  | base =>
    have h := onButtonsFuel_isSome P 1 clock buttons controller s
    exact (Option.getD_of_ne_none (Option.isSome_iff_ne_none.mp h) _).symm
  | succ n _ ih => exact (fuel_mono P n).1 _ _ _ _ _ ih

theorem onGestureFuel_eq (P : Params) {n : ℕ} (hn : callDepth ≤ n) (clock : Clock)
    (gx gy : ℤ) (s : HandlerState) :
    onGestureFuel P n clock gx gy s = some (onGesture P clock gx gy s) := by
  induction n, hn using Nat.le_induction with
  | base =>
    have h := onGestureFuel_isSome P 0 clock gx gy s
    exact (Option.getD_of_ne_none (Option.isSome_iff_ne_none.mp h) _).symm
  | succ n _ ih => exact (fuel_mono P n).2 _ _ _ _ _ ih

/-! ### The equations of the source -/

theorem onButtons_eq (P : Params) (clock : Clock) (buttons : Word) (controller : ControllerId)
    (s : HandlerState) :
    onButtons P clock buttons controller s =
      if (reportButtons P buttons controller s).1.releaseGestureKeys = true then
        let t := onGesture P clock 0 0
          { (reportButtons P buttons controller s).1 with releaseGestureKeys := false }
        (t.1, reportOut P buttons controller s ++ t.2)
      else ((reportButtons P buttons controller s).1, reportOut P buttons controller s) := by
  have h := onButtonsFuel_eq P (show callDepth ≤ callDepth + 1 by omega) clock buttons controller s
  rcases onButtonsFuel_succ.mp h with ⟨hrel, u, hu, ht⟩ | ⟨hrel, ht⟩
  · rw [onGestureFuel_eq P le_rfl] at hu
    obtain rfl := Option.some.inj hu
    rw [ht, if_pos hrel]
  · rw [ht, if_neg (Bool.eq_false_iff.mp hrel)]

theorem onGesture_eq (P : Params) (clock : Clock) (gx gy : ℤ) (s : HandlerState) :
    onGesture P clock gx gy s =
      if gestureReady P s then
        let t := onButtons P (fun k => clock (k + 1)) (gestureReport P (clock 0) gx gy s) .second s
        ({ t.1 with lastGestureTp := clock 0 }, t.2)
      else ({ s with lastGestureTp := clock 0 }, []) := by
  have h := onGestureFuel_eq P (show callDepth ≤ callDepth + 1 by omega) clock gx gy s
  rcases onGestureFuel_succ.mp h with ⟨hready, u, hu, ht⟩ | ⟨hready, ht⟩
  · rw [onButtonsFuel_eq P le_rfl] at hu
    obtain rfl := Option.some.inj hu
    rw [ht, if_pos hready]
  · rw [ht, if_neg hready]

/-! ### Rules for the two calls -/

/-- A relation between start, events and end of the statements of a call: it composes, it
ignores the two assignments around a report, and it holds of the reports of a gesture. -/
structure CallRule (P : Params) (T : HandlerState → List Event → HandlerState → Prop) : Prop where
  trans : ∀ {s t u es fs}, T s es t → T t fs u → T s (es ++ fs) u
  clear : ∀ s, T s [] { s with releaseGestureKeys := false }
  time : ∀ s tp, T s [] { s with lastGestureTp := tp }
  gesture : ∀ s tp gx gy, gestureReady P s →
    T s (reportOut P (gestureReport P tp gx gy s) .second s)
      (reportButtons P (gestureReport P tp gx gy s) .second s).1

section

variable {P : Params} {T : HandlerState → List Event → HandlerState → Prop}

theorem CallRule.fuel (hrule : CallRule P T) (n : ℕ) :
    (∀ clock buttons controller s t, onButtonsFuel P n clock buttons controller s = some t →
      T s (reportOut P buttons controller s) (reportButtons P buttons controller s).1 →
      T s t.2 t.1) ∧
    (∀ clock gx gy s t, onGestureFuel P n clock gx gy s = some t → T s t.2 t.1) := by
  induction n with
  | zero =>
    constructor
    · intro clock buttons controller s t h
      simp [onButtonsFuel] at h
    · intro clock gx gy s t h
      simp [onGestureFuel] at h
  | succ n ih =>
    constructor
    · intro clock buttons controller s t h hreport
      rcases onButtonsFuel_succ.mp h with ⟨_, u, hu, rfl⟩ | ⟨_, rfl⟩
      · -- the report, the assignment to the flag, the nested call
        have hcleared := hrule.trans hreport (hrule.clear _)
        rw [List.append_nil] at hcleared
        have hnested := ih.2 _ _ _ _ _ hu
        exact hrule.trans hcleared hnested
      · exact hreport
    · intro clock gx gy s t h
      rcases onGestureFuel_succ.mp h with ⟨hready, u, hu, rfl⟩ | ⟨_, rfl⟩
      · have hcall := ih.1 _ _ _ _ _ hu (hrule.gesture s (clock 0) gx gy hready)
        have hdone := hrule.trans hcall (hrule.time u.1 (clock 0))
        rwa [List.append_nil] at hdone
      · exact hrule.time s (clock 0)

/-- Such a relation holds of a button call once it holds of its own report. -/
theorem CallRule.onButtons (hrule : CallRule P T) (clock : Clock) {buttons : Word}
    {controller : ControllerId} {s : HandlerState}
    (hreport : T s (reportOut P buttons controller s) (reportButtons P buttons controller s).1) :
    T s (onButtons P clock buttons controller s).2 (onButtons P clock buttons controller s).1 := by
  have hret := onButtonsFuel_eq P le_rfl clock buttons controller s
  exact (hrule.fuel callDepth).1 _ _ _ _ _ hret hreport

theorem CallRule.onGesture (hrule : CallRule P T) (clock : Clock) (gx gy : ℤ) (s : HandlerState) :
    T s (onGesture P clock gx gy s).2 (onGesture P clock gx gy s).1 := by
  have hret := onGestureFuel_eq P le_rfl clock gx gy s
  exact (hrule.fuel callDepth).2 _ _ _ _ _ hret

end

/-- A button call returns with the deferred release handled, whatever the state was. A gesture
call keeps it so. -/
theorem release_false (P : Params) (n : ℕ) :
    (∀ clock buttons controller s t, onButtonsFuel P n clock buttons controller s = some t →
      t.1.releaseGestureKeys = false) ∧
    (∀ clock gx gy s t, onGestureFuel P n clock gx gy s = some t →
      s.releaseGestureKeys = false → t.1.releaseGestureKeys = false) := by
  induction n with
  | zero =>
    constructor
    · intro clock buttons controller s t h
      simp [onButtonsFuel] at h
    · intro clock gx gy s t h
      simp [onGestureFuel] at h
  | succ n ih =>
    constructor
    · intro clock buttons controller s t h
      rcases onButtonsFuel_succ.mp h with ⟨_, u, hu, rfl⟩ | ⟨hrel, rfl⟩
      · -- the nested call starts with the flag cleared
        have hdone : u.1.releaseGestureKeys = false := ih.2 _ _ _ _ _ hu rfl
        exact hdone
      · exact hrel
    · intro clock gx gy s t h hs
      rcases onGestureFuel_succ.mp h with ⟨_, u, hu, rfl⟩ | ⟨_, rfl⟩
      · have hdone : u.1.releaseGestureKeys = false := ih.1 _ _ _ _ _ hu
        exact hdone
      · exact hs

theorem onButtons_release (P : Params) (clock : Clock) (buttons : Word)
    (controller : ControllerId) (s : HandlerState) :
    (onButtons P clock buttons controller s).1.releaseGestureKeys = false := by
  have hret := onButtonsFuel_eq P le_rfl clock buttons controller s
  exact (release_false P callDepth).1 _ _ _ _ _ hret

theorem onGesture_release (P : Params) (clock : Clock) (gx gy : ℤ) (s : HandlerState)
    (hs : s.releaseGestureKeys = false) :
    (onGesture P clock gx gy s).1.releaseGestureKeys = false := by
  have hret := onGestureFuel_eq P le_rfl clock gx gy s
  exact (release_false P callDepth).2 _ _ _ _ _ hret hs

theorem step_release (P : Params) (call : Call) (s : HandlerState)
    (hs : s.releaseGestureKeys = false) : (step P s call).1.releaseGestureKeys = false := by
  cases call with
  | onButtons clock buttons controller => exact onButtons_release P clock buttons controller s
  | onGyroscope clock gx gy => exact hs
  | onGesture clock gx gy => exact onGesture_release P clock gx gy s hs
  | reset => exact hs

/-- Between the calls of a run no release is pending. -/
theorem runCalls_release (P : Params) (calls : List Call) (s : HandlerState)
    (hs : s.releaseGestureKeys = false) :
    (runCalls P s calls).1.releaseGestureKeys = false :=
  run_invariant (step P) (fun s => s.releaseGestureKeys = false) calls
    (fun s call _ h => step_release P call s h) s hs

end PSMoveInput

import PSMoveInput.ControllerParts
import PSMoveInput.HandlerCalls

/-! The handler is two machines side by side that share one flag. Calls for one controller do
not see what the other one did, and `reset` leaves nothing of the past. -/
namespace PSMoveInput

open Transducer

/-! ### The second controller's calls -/

theorem gestureReady_forget (P : Params) (s : HandlerState) :
    gestureReady P (s.forget .first) ↔ gestureReady P s := Iff.rfl

theorem gestureReport_forget (P : Params) (tp : Timespec) (gx gy : ℤ) (s : HandlerState) :
    gestureReport P tp gx gy (s.forget .first) = gestureReport P tp gx gy s := by
  have hword : (s.forget .first).buttons .second = s.buttons .second := forget_buttons s .second
  simp only [gestureReport]
  rw [hword]
  rfl

/-- The calls of the second controller run next to any first controller. -/
theorem callsFuel_forget (P : Params) (n : ℕ) :
    (∀ clock buttons s, onButtonsFuel P n clock buttons .second (s.forget .first) =
      (onButtonsFuel P n clock buttons .second s).map fun t => (t.1.forget .first, t.2)) ∧
    (∀ clock gx gy s, onGestureFuel P n clock gx gy (s.forget .first) =
      (onGestureFuel P n clock gx gy s).map fun t => (t.1.forget .first, t.2)) := by
  induction n with
  | zero =>
    constructor
    · intro clock buttons s
      simp only [onButtonsFuel, Option.map_none]
    · intro clock gx gy s
      simp only [onGestureFuel, Option.map_none]
  | succ n ih =>
    constructor
    · intro clock buttons s
      simp only [onButtonsFuel]
      have hreport := reportButtons_forget P buttons .second s
      have hword := forget_buttons s .second
      dsimp only [ControllerId.other] at hreport hword ⊢
      rw [hreport, hword]
      have hflag : ((reportButtons P buttons .second s).1.forget .first).releaseGestureKeys =
          (reportButtons P buttons .second s).1.releaseGestureKeys := rfl
      dsimp only
      rw [hflag]
      split_ifs
      · -- the flag is cleared before the nested call, next to any first controller
        have hnested := ih.2 clock 0 0
          { (reportButtons P buttons .second s).1 with releaseGestureKeys := false }
        rw [Option.map_map]
        refine (congrArg _ hnested).trans ?_
        rw [Option.map_map]
        rfl
      · rfl
    · intro clock gx gy s
      unfold onGestureFuel
      dsimp only
      simp only [gestureReady_forget, gestureReport_forget]
      split_ifs
      · rw [ih.1, Option.map_map, Option.map_map]
        rfl
      · rfl

theorem onButtons_forget (P : Params) (clock : Clock) (buttons : Word) (s : HandlerState) :
    onButtons P clock buttons .second (s.forget .first) =
      ((onButtons P clock buttons .second s).1.forget .first,
        (onButtons P clock buttons .second s).2) := by
  have hrun := (callsFuel_forget P callDepth).1 clock buttons s
  rw [onButtonsFuel_eq P le_rfl, onButtonsFuel_eq P le_rfl, Option.map_some] at hrun
  exact Option.some.inj hrun

theorem onGesture_forget (P : Params) (clock : Clock) (gx gy : ℤ) (s : HandlerState) :
    onGesture P clock gx gy (s.forget .first) =
      ((onGesture P clock gx gy s).1.forget .first, (onGesture P clock gx gy s).2) := by
  have hrun := (callsFuel_forget P callDepth).2 clock gx gy s
  rw [onGestureFuel_eq P le_rfl, onGestureFuel_eq P le_rfl, Option.map_some] at hrun
  exact Option.some.inj hrun

/-- They leave the first controller alone. -/
theorem frame_rule (P : Params) :
    CallRule P fun s _ t => t.forget .second = s.forget .second where
  trans h1 h2 := h2.trans h1
  clear _ := rfl
  time _ _ := rfl
  gesture s tp gx gy _ := reportButtons_frame P (gestureReport P tp gx gy s) .second s

/-! ### The first controller's calls -/

/-- Between calls no release is pending, and the first controller makes none. -/
theorem onButtons_first (P : Params) (clock : Clock) (buttons : Word) (s : HandlerState)
    (hidle : s.releaseGestureKeys = false) :
    onButtons P clock buttons .first s =
      ((reportButtons P buttons .first s).1, reportOut P buttons .first s) := by
  rw [onButtons_eq, if_neg]
  rw [reportButtons_first]
  dsimp only
  rw [hidle]
  exact Bool.false_ne_true

theorem reportOut_forget (P : Params) (buttons : Word) (c : ControllerId) (s : HandlerState) :
    reportOut P buttons c (s.forget c.other) = reportOut P buttons c s := by
  simp only [reportOut]
  rw [forget_buttons, reportButtons_forget]

/-! ### Deleting the calls of one controller -/

/-- The calls that stay when those for the second controller are deleted. -/
def Call.keepsFirst : Call → Bool
  | .onButtons _ _ .first => true
  | .onGyroscope _ _ _ => true
  | .reset => true
  | _ => false

/-- The calls that stay when those for the first controller are deleted. -/
def Call.keepsSecond : Call → Bool
  | .onButtons _ _ .second => true
  | .onGesture _ _ _ => true
  | .reset => true
  | _ => false

theorem reset_forget (s : HandlerState) (c : ControllerId) (h : s.releaseGestureKeys = false) :
    reset (s.forget c) = (reset s).forget c := by
  have hself (c : ControllerId) : Function.update (fun _ : ControllerId => 0#32) c 0#32 =
      fun _ => 0#32 := Function.update_eq_self c (fun _ => 0#32)
  cases c <;> simp only [reset, HandlerState.forget, hself, h]

/-- A kept call answers from its own part of the state. -/
theorem step_keep_first (P : Params) (call : Call) (hkeep : call.keepsFirst = true)
    (s : HandlerState) (hidle : s.releaseGestureKeys = false) :
    step P (s.forget .second) call = ((step P s call).1.forget .second, (step P s call).2) := by
  cases call with
  | onButtons clock buttons controller =>
    cases controller with
    | first =>
      have hout := reportOut_forget P buttons .first s
      have hreport := reportButtons_forget P buttons .first s
      dsimp only [ControllerId.other] at hout hreport
      simp only [step]
      rw [onButtons_first P clock buttons _ rfl, onButtons_first P clock buttons s hidle, hout,
        hreport]
    | second => cases hkeep
  | onGyroscope clock gx gy => rfl
  | onGesture clock gx gy => cases hkeep
  | reset =>
    simp only [step]
    rw [reset_forget s .second hidle]

theorem step_keep_second (P : Params) (call : Call) (hkeep : call.keepsSecond = true)
    (s : HandlerState) (hidle : s.releaseGestureKeys = false) :
    step P (s.forget .first) call = ((step P s call).1.forget .first, (step P s call).2) := by
  cases call with
  | onButtons clock buttons controller =>
    cases controller with
    | first => cases hkeep
    | second => exact onButtons_forget P clock buttons s
  | onGyroscope clock gx gy => cases hkeep
  | onGesture clock gx gy => exact onGesture_forget P clock gx gy s
  | reset =>
    simp only [step]
    rw [reset_forget s .first hidle]

/-- A deleted call changes nothing that is kept. -/
theorem step_drop_first (P : Params) (call : Call) (hdrop : call.keepsFirst = false)
    (s : HandlerState) : (step P s call).1.forget .second = s.forget .second := by
  cases call with
  | onButtons clock buttons controller =>
    cases controller with
    | first => cases hdrop
    | second =>
      have hreport := reportButtons_frame P buttons .second s
      exact (frame_rule P).onButtons clock hreport
  | onGyroscope clock gx gy => cases hdrop
  | onGesture clock gx gy => exact (frame_rule P).onGesture clock gx gy s
  | reset => cases hdrop

theorem step_drop_second (P : Params) (call : Call) (hdrop : call.keepsSecond = false)
    (s : HandlerState) (hidle : s.releaseGestureKeys = false) :
    (step P s call).1.forget .first = s.forget .first := by
  cases call with
  | onButtons clock buttons controller =>
    cases controller with
    | first =>
      simp only [step]
      rw [onButtons_first P clock buttons s hidle]
      exact reportButtons_frame P buttons .first s
    | second => cases hdrop
  | onGyroscope clock gx gy => rfl
  | onGesture clock gx gy => cases hdrop
  | reset => cases hdrop

/-- Deleting the calls of one controller leaves what every remaining call emits. -/
theorem controllers_independent (P : Params) (calls : List Call) :
    (answers (step P) .init calls).filter (fun a => a.1.keepsFirst) =
        answers (step P) .init (calls.filter Call.keepsFirst) ∧
      (answers (step P) .init calls).filter (fun a => a.1.keepsSecond) =
        answers (step P) .init (calls.filter Call.keepsSecond) := by
  constructor
  · apply answers_filter (step P) Call.keepsFirst
      (fun s t => t = s.forget .second ∧ s.releaseGestureKeys = false)
    · intro s t call hkeep h
      obtain ⟨rfl, hidle⟩ := h
      have hnext := step_release P call s hidle
      rw [step_keep_first P call hkeep s hidle]
      exact ⟨rfl, rfl, hnext⟩
    · intro s t call hdrop h
      obtain ⟨rfl, hidle⟩ := h
      have hnext := step_release P call s hidle
      exact ⟨(step_drop_first P call hdrop s).symm, hnext⟩
    · exact ⟨(forget_init .second).symm, rfl⟩
  · apply answers_filter (step P) Call.keepsSecond
      (fun s t => t = s.forget .first ∧ s.releaseGestureKeys = false)
    · intro s t call hkeep h
      obtain ⟨rfl, hidle⟩ := h
      have hnext := step_release P call s hidle
      rw [step_keep_second P call hkeep s hidle]
      exact ⟨rfl, rfl, hnext⟩
    · intro s t call hdrop h
      obtain ⟨rfl, hidle⟩ := h
      have hnext := step_release P call s hidle
      exact ⟨(step_drop_second P call hdrop s hidle).symm, hnext⟩
    · exact ⟨(forget_init .first).symm, rfl⟩

/-! ### Reset -/

/-- `reset` does not assign `releaseGestureKeys_`, but between calls the flag is off. -/
theorem reset_eq_init (s : HandlerState) (h : s.releaseGestureKeys = false) :
    reset s = HandlerState.init := by
  simp only [reset, HandlerState.init]
  rw [h]

/-- Calls after a reset behave as on a new handler, whatever was called before. -/
theorem reset_forgets (P : Params) (before after : List Call) :
    runCalls P (runCalls P .init (before ++ [.reset])).1 after = runCalls P .init after := by
  have hidle := runCalls_release P before .init rfl
  -- what `reset` leaves alone is off by itself
  have hreset : (runCalls P .init (before ++ [.reset])).1 = .init := by
    simp only [runCalls]
    rw [run_append]
    exact reset_eq_init _ hidle
  rw [hreset]

end PSMoveInput

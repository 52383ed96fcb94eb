import PSMoveInput.HandlerScan

/-! The fields that belong to each controller. A report of one controller does not see the
fields of the other one, and leaves them alone. -/
namespace PSMoveInput

open Transducer

def ControllerId.other : ControllerId → ControllerId
  | .first => .second
  | .second => .first

theorem ControllerId.other_other (c : ControllerId) : c.other.other = c := by
  cases c <;> rfl

theorem ControllerId.other_ne (c : ControllerId) : c.other ≠ c := by
  cases c <;> decide

theorem ControllerId.eq_other {c c' : ControllerId} (h : c' ≠ c) : c' = c.other := by
  cases c <;> cases c' <;> first | rfl | exact absurd rfl h

/-- The state as if the controller had never been used. -/
def HandlerState.forget (s : HandlerState) : ControllerId → HandlerState
  | .first => { s with
      buttons := Function.update s.buttons .first 0#32
      lastGyroTp := ⟨0, 0⟩
      moveTrigger := false }
  | .second => { s with
      buttons := Function.update s.buttons .second 0#32
      lastGestureTp := ⟨0, 0⟩
      gestureTrigger := false
      releaseGestureKeys := false }

theorem forget_buttons (s : HandlerState) (c : ControllerId) :
    (s.forget c.other).buttons c = s.buttons c := by
  cases c <;> simp only [ControllerId.other, HandlerState.forget, ne_eq, reduceCtorEq,
    not_false_eq_true, Function.update_of_ne]

theorem forget_init (c : ControllerId) : HandlerState.init.forget c = .init := by
  have hself (c : ControllerId) : Function.update (fun _ : ControllerId => 0#32) c 0#32 =
      fun _ => 0#32 := Function.update_eq_self c (fun _ => 0#32)
  cases c <;> simp only [HandlerState.forget, HandlerState.init, hself]

/-! ### The other controller is not seen -/

theorem handleSpecialKeys_forget (lincode : ℤ) (c : ControllerId) (pressed : Bool)
    (s : HandlerState) :
    handleSpecialKeys lincode c pressed (s.forget c.other) =
      ((handleSpecialKeys lincode c pressed s).1,
        (handleSpecialKeys lincode c pressed s).2.1.forget c.other,
        (handleSpecialKeys lincode c pressed s).2.2) := by
  simp only [handleSpecialKeys]
  cases c <;> split_ifs <;> simp_all [HandlerState.forget, ControllerId.other]

theorem reportKey_forget (P : Params) (button : Word) (pressed : Bool) (c : ControllerId)
    (s : HandlerState) :
    reportKey P button pressed c (s.forget c.other) =
      ((reportKey P button pressed c s).1.forget c.other, (reportKey P button pressed c s).2) := by
  apply run_map (reportEntry button pressed c) fun s => s.forget c.other
  intro s entry _
  unfold reportEntry
  split_ifs
  · simp only [handleSpecialKeys_forget]
  · rfl

theorem scanStep_forget (P : Params) (c : ControllerId) (pressed released : Word)
    (s : HandlerState) (i : Word) :
    scanStep P c pressed released (s.forget c.other) i =
      ((scanStep P c pressed released s i).1.forget c.other,
        (scanStep P c pressed released s i).2) := by
  simp only [scanStep]
  split_ifs
  · exact reportKey_forget P i true c s
  · exact reportKey_forget P i false c s
  · rfl

theorem setButtons_forget (c : ControllerId) (buttons : Word) (s : HandlerState) :
    (s.forget c.other).setButtons c buttons = (s.setButtons c buttons).forget c.other := by
  cases c
  · have hcomm := Function.update_comm (show ControllerId.first ≠ .second by decide) buttons 0#32
      s.buttons
    simp only [HandlerState.setButtons, HandlerState.forget, ControllerId.other, hcomm]
  · have hcomm := Function.update_comm (show ControllerId.second ≠ .first by decide) buttons 0#32
      s.buttons
    simp only [HandlerState.setButtons, HandlerState.forget, ControllerId.other, hcomm]

theorem reportButtons_forget (P : Params) (buttons : Word) (c : ControllerId)
    (s : HandlerState) :
    reportButtons P buttons c (s.forget c.other) =
      ((reportButtons P buttons c s).1.forget c.other, (reportButtons P buttons c s).2) := by
  simp only [reportButtons]
  rw [forget_buttons]
  split_ifs
  · -- the loop and the store commute with forgetting the other controller
    dsimp only
    have hrun := run_map (scanStep P c (buttons &&& ~~~s.buttons c) (s.buttons c &&& ~~~buttons))
      (fun s => s.forget c.other) scanBits (fun s i _ => scanStep_forget P c _ _ s i) s
    rw [hrun, setButtons_forget]
  · rfl

/-! ### The other controller is left alone -/

theorem handleSpecialKeys_frame (lincode : ℤ) (c : ControllerId) (pressed : Bool)
    (s : HandlerState) : (handleSpecialKeys lincode c pressed s).2.1.forget c = s.forget c := by
  cases c
  · rw [handleSpecialKeys_first]
    rfl
  · rw [handleSpecialKeys_second]
    rfl

theorem scanStep_frame (P : Params) (c : ControllerId) (pressed released : Word)
    (s : HandlerState) (i : Word) :
    (scanStep P c pressed released s i).1.forget c = s.forget c := by
  have hkey (pressed : Bool) : (reportKey P i pressed c s).1.forget c = s.forget c := by
    refine run_invariant _ (fun t => t.forget c = s.forget c) _ ?_ s rfl
    intro t entry _ ht
    rw [reportEntry]
    split_ifs
    · exact (handleSpecialKeys_frame entry.1.lincode c pressed t).trans ht
    · exact ht
  simp only [scanStep]
  split_ifs
  · exact hkey true
  · exact hkey false
  · rfl

theorem setButtons_frame (c : ControllerId) (buttons : Word) (s : HandlerState) :
    (s.setButtons c buttons).forget c = s.forget c := by
  cases c <;> simp only [HandlerState.setButtons, HandlerState.forget, Function.update_idem]

theorem reportButtons_frame (P : Params) (buttons : Word) (c : ControllerId)
    (s : HandlerState) : (reportButtons P buttons c s).1.forget c = s.forget c := by
  simp only [reportButtons]
  split_ifs
  · dsimp only
    rw [setButtons_frame]
    refine run_invariant _ (fun t => t.forget c = s.forget c) _ ?_ s rfl
    intro t i _ ht
    exact (scanStep_frame P c _ _ t i).trans ht
  · rfl

end PSMoveInput

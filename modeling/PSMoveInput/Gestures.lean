import PSMoveInput.KeyTransitions
import PSMoveInput.ListenerAgreement

/-! The gesture bits of the second controller's word: what a reading of the gyroscope makes of
them, and what a button report of the listener does to them. -/
namespace PSMoveInput

open Transducer EdgeTrace

/-! ### Reports that do not release the gesture trigger -/

/-- The change of the word releases a button that is mapped to the gesture trigger. -/
def ReleasesTrigger (P : Params) (before after : Word) : Prop :=
  ∃ e ∈ P.keymap2, e.lincode = keyPsmoveGestureTrigger ∧ e.pscode ∈ scanBits ∧
    holds before e.pscode = true ∧ holds after e.pscode = false

/-- Only such a change defers a release of the gesture keys. -/
theorem reportButtons_release (P : Params) (buttons : Word) (s : HandlerState)
    (hrel : s.releaseGestureKeys = false)
    (hkeep : ¬ReleasesTrigger P (s.buttons .second) buttons) :
    (reportButtons P buttons .second s).1.releaseGestureKeys = false := by
  simp only [reportButtons]
  split_ifs with hne
  · apply scan_invariant_entry P .second (s.buttons .second) buttons
      fun t => t.releaseGestureKeys = false
    · intro t e he hscan hchange ht
      by_cases hcode : e.lincode = keyPsmoveGestureTrigger
      · -- the button of the trigger changes, so it is pressed
        have hon : holds buttons e.pscode = true := by
          by_contra hoff
          have hup : holds buttons e.pscode = false := eq_false_of_ne_true hoff
          rw [hup] at hchange
          have hdown : holds (s.buttons .second) e.pscode = true := eq_true_of_ne_false hchange
          exact hkeep ⟨e, he, hcode, hscan, hdown, hup⟩
        simp only [handleSpecialKeys, hcode, hon]
        split_ifs <;> simp_all
      · simp only [handleSpecialKeys]
        split_ifs <;> simp_all
    · exact hrel
  · exact hrel

/-- Such a call ends with its own report. -/
theorem onButtons_plain (P : Params) (clock : Clock) (buttons : Word) (s : HandlerState)
    (hrel : s.releaseGestureKeys = false)
    (hkeep : ¬ReleasesTrigger P (s.buttons .second) buttons) :
    onButtons P clock buttons .second s =
      ((reportButtons P buttons .second s).1, reportOut P buttons .second s) := by
  have hdone := reportButtons_release P buttons s hrel hkeep
  rw [onButtons_eq, if_neg (Bool.eq_false_iff.mp hdone)]

/-! ### Button reports -/

/-- A key signal for an entry of a gesture button. -/
def GestureKey (P : Params) (ev : Event) : Prop :=
  ∃ index e lincode pressed, ev = .signal (some (.second, index)) (.key lincode pressed) ∧
    P.keymap2[index]? = some e ∧ e.pscode ∈ gestureBits

theorem transition_gestureKey (P : Params) (before after : Word)
    (hsame : ∀ g ∈ gestureBits, holds before g = holds after g) :
    ∀ ev ∈ transitionEvents P .second before after, ¬GestureKey P ev := by
  intro ev hev hkey
  obtain ⟨e, index, he, _, hchange, sig, _, rfl⟩ := mem_transitionEvents.mp hev
  obtain ⟨index', e', lincode, pressed, heq, he', hgest⟩ := hkey
  obtain ⟨hcause, -⟩ := Event.signal.inj heq
  obtain ⟨-, rfl⟩ := Prod.mk.inj (Option.some.inj hcause)
  -- the entry is the same one, and its button changed
  have hentry : e = e' := Option.some.inj (he.symm.trans he')
  subst hentry
  exact hchange (hsame e.pscode hgest)

/-- The reports of the first controller, movements and resets have no key of the second one. -/
theorem step_no_gestureKey (P : Params) (s : HandlerState) (hrel : s.releaseGestureKeys = false)
    (call : Call) (hgesture : ∀ clock gx gy, call ≠ .onGesture clock gx gy)
    (hbuttons : ∀ clock buttons, call ≠ .onButtons clock buttons .second) :
    ∀ ev ∈ (step P s call).2, ¬GestureKey P ev := by
  intro ev hev hkey
  obtain ⟨index, e, lincode, pressed, rfl, -, -⟩ := hkey
  cases call with
  | onButtons clock buttons controller =>
    cases controller with
    | second => exact hbuttons clock buttons rfl
    | first =>
      have hdone : (reportButtons P buttons .first s).1.releaseGestureKeys = false := by
        rw [reportButtons_first]
        exact hrel
      simp only [step] at hev
      rw [onButtons_eq, if_neg (Bool.eq_false_iff.mp hdone)] at hev
      rcases List.mem_cons.mp hev with hmark | hev
      · cases hmark
      · rw [reportButtons_events] at hev
        obtain ⟨_, _, _, _, _, _, _, heq⟩ := mem_transitionEvents.mp hev
        obtain ⟨hcause, -⟩ := Event.signal.inj heq
        cases hcause
  | onGyroscope clock gx gy =>
    simp only [step, onGyroscope] at hev
    split_ifs at hev <;> simp at hev
  | onGesture clock gx gy => exact hgesture clock gx gy rfl
  | reset => exact absurd hev List.not_mem_nil

/-- A button report of the second controller leaves the gestures alone exactly when no gesture
is stored. Apart from its reports only `onGesture` presses and releases gesture keys. -/
theorem gestures_kept_iff (P : Params) (calls : List Call) (clock : Clock) (buttons : Word)
    (hbuttons : buttons.toNat < 2 ^ 24)
    (hkeep : ¬ReleasesTrigger P ((runCalls P .init calls).1.buttons .second) buttons) :
    let s := (runCalls P .init calls).1
    let t := onButtons P clock buttons .second s
    (((∀ ev ∈ t.2, ¬GestureKey P ev) ∧
        ∀ g ∈ gestureBits, holds (t.1.buttons .second) g = holds (s.buttons .second) g) ↔
      ∀ g ∈ gestureBits, holds (s.buttons .second) g = false) ∧
    ∀ call, (∀ clock gx gy, call ≠ .onGesture clock gx gy) →
      (∀ clock buttons, call ≠ .onButtons clock buttons .second) →
      ∀ ev ∈ (step P s call).2, ¬GestureKey P ev := by
  intro s t
  have hrel : s.releaseGestureKeys = false := runCalls_release P calls .init rfl
  have ht : t = ((reportButtons P buttons .second s).1, reportOut P buttons .second s) :=
    onButtons_plain P clock buttons s hrel hkeep
  have hword : t.1.buttons .second = buttons := by
    rw [ht, reportButtons_buttons, Function.update_self]
  constructor
  · constructor
    · intro h g hg
      -- the stored word is now the reported one, which has no gestures
      rw [← h.2 g hg, hword]
      exact holds_gesture_of_lt hbuttons hg
    · intro hnone
      have hsame : ∀ g ∈ gestureBits, holds (s.buttons .second) g = holds buttons g := by
        intro g hg
        rw [hnone g hg, holds_gesture_of_lt hbuttons hg]
      constructor
      · intro ev hev
        rw [ht] at hev
        rcases List.mem_cons.mp hev with rfl | hev
        · intro hkey
          obtain ⟨_, _, _, _, hmark, _⟩ := hkey
          cases hmark
        · rw [reportButtons_events] at hev
          exact transition_gestureKey P _ _ hsame ev hev
      · intro g hg
        rw [hword, hsame g hg]
  · intro call hgesture hreport
    exact step_no_gestureKey P s hrel call hgesture hreport

/-- The trigger stays held when a further button is pressed. -/
theorem exampleParams_keeps (before : Word) :
    ¬ReleasesTrigger exampleParams before 0x100040#32 := by
  have hheld : ∀ e ∈ exampleParams.keymap2, e.lincode = keyPsmoveGestureTrigger →
      holds 0x100040#32 e.pscode = true := by decide
  intro h
  obtain ⟨e, he, hcode, -, -, hup⟩ := h
  rw [hheld e he hcode] at hup
  exact absurd hup (by decide)

/-- A button pressed while no gesture is stored. -/
theorem gestures_kept_idle :
    let s := (runCalls exampleParams .init (exampleCalls.take 2)).1
    let t := onButtons exampleParams (fun _ => ⟨1, 512000000⟩) 0x100040#32 .second s
    (∀ ev ∈ t.2, ¬GestureKey exampleParams ev) ∧
      ∀ g ∈ gestureBits, holds (t.1.buttons .second) g = holds (s.buttons .second) g := by
  have hword : (runCalls exampleParams .init (exampleCalls.take 2)).1.buttons .second =
      0x100000#32 := by decide +kernel
  apply (gestures_kept_iff exampleParams (exampleCalls.take 2) (fun _ => ⟨1, 512000000⟩)
    0x100040#32 (by decide) (exampleParams_keeps _)).1.mpr
  intro g hg
  rw [hword]
  exact holds_gesture_of_lt (by decide) hg

/-- A button pressed during a gesture releases the gesture's key, with the trigger held. -/
theorem button_ends_gesture :
    let s := (runCalls exampleParams .init (exampleCalls.take 3)).1
    let t := onButtons exampleParams (fun _ => ⟨1, 512000000⟩) 0x100040#32 .second s
    (0x100040#32).toNat < 2 ^ 24 ∧
      ¬ReleasesTrigger exampleParams (s.buttons .second) 0x100040#32 ∧
      (∃ ev ∈ t.2, GestureKey exampleParams ev) ∧
      holds (s.buttons .second) btnGestureRight = true ∧
      holds (t.1.buttons .second) btnGestureRight = false := by
  intro s t
  have hbefore : s.buttons .second = 0x8100000#32 := by decide +kernel
  have hafter : t.1.buttons .second = 0x100040#32 := by decide +kernel
  have hkey : .signal (some (.second, 2)) (.key 19 false) ∈ t.2 := by decide +kernel
  refine ⟨by decide, exampleParams_keeps _, ?_, ?_, ?_⟩
  · exact ⟨_, hkey, 2, ⟨btnGestureRight, 19⟩, 19, false, rfl, rfl, by decide⟩
  · rw [hbefore]
    decide
  · rw [hafter]
    decide

/-! ### The current gesture -/

theorem holds_sign (positive negative g : Word) (d : ℤ) :
    holds (if d > 0 then positive else if d < 0 then negative else 0#32) g =
      (holds positive g && decide (0 < d) || holds negative g && decide (d < 0)) := by
  rcases lt_trichotomy d 0 with hd | hd | hd
  · have hle : ¬0 < d := by omega
    simp [hle, hd]
  · simp [hd]
  · have hle : ¬d < 0 := by omega
    simp [hle, hd]

/-- Two single bits meet when they are the same bit. -/
theorem holds_single {j k : ℕ} (hk : k < 32) :
    holds (1#32 <<< j) (1#32 <<< k) = decide (j = k) := by
  rw [holds_shift _ hk, BitVec.getLsbD_shiftLeft, BitVec.getLsbD_one]
  simp only [hk]
  grind

/-- A displacement sets the bits of its signs. -/
theorem holds_gestureButtons (dx dy : ℤ) :
    holds (gestureButtons dx dy) btnGestureRight = decide (0 < dx) ∧
      holds (gestureButtons dx dy) btnGestureLeft = decide (dx < 0) ∧
      holds (gestureButtons dx dy) btnGestureUp = decide (0 < dy) ∧
      holds (gestureButtons dx dy) btnGestureDown = decide (dy < 0) := by
  have hor (j : ℕ) (hj : j < 28) (a b : Word) :
      holds (a ||| b) (1#32 <<< j) = (holds a (1#32 <<< j) || holds b (1#32 <<< j)) :=
    holds_or (mem_scanBits.mpr ⟨j, hj, rfl⟩) a b
  have hup : btnGestureUp = 1#32 <<< 24 := by decide
  have hdown : btnGestureDown = 1#32 <<< 25 := by decide
  have hleft : btnGestureLeft = 1#32 <<< 26 := by decide
  have hright : btnGestureRight = 1#32 <<< 27 := by decide
  simp only [gestureButtons]
  rw [hup, hdown, hleft, hright]
  refine ⟨?_, ?_, ?_, ?_⟩
  all_goals
    rw [hor _ (by omega), holds_sign, holds_sign]
    simp only [holds_single (show 24 < 32 by omega), holds_single (show 25 < 32 by omega),
      holds_single (show 26 < 32 by omega), holds_single (show 27 < 32 by omega)]
    simp

/-- A gesture report replaces the gesture bits and keeps the physical buttons. -/
theorem holds_gestureReport (P : Params) (tp : Timespec) (gx gy : ℤ) (s : HandlerState) {i : Word}
    (hi : i ∈ scanBits) :
    holds (gestureReport P tp gx gy s) i =
      if i ∈ gestureBits then
        holds (gestureButtons
          (displacement gx (timeDelta tp s.lastGestureTp) P.cx P.gestureThreshold)
          (displacement gy (timeDelta tp s.lastGestureTp) P.cy P.gestureThreshold)) i
      else holds (s.buttons .second) i := by
  have hmask (w : Word) :
      holds (w &&& btnGestureMask) i = (holds w i && !decide (i ∈ gestureBits)) := by
    rw [holds_and hi, holds_mask hi]
  simp only [gestureReport]
  rw [holds_or hi, hmask]
  split_ifs with hg
  · rw [decide_eq_true hg, Bool.not_true, Bool.and_false, Bool.or_false]
  · -- the new bits are gestures only
    have hnone := hmask (gestureButtons
      (displacement gx (timeDelta tp s.lastGestureTp) P.cx P.gestureThreshold)
      (displacement gy (timeDelta tp s.lastGestureTp) P.cy P.gestureThreshold))
    rw [gestureButtons_mask, holds_zero, decide_eq_false hg, Bool.not_false, Bool.and_true] at hnone
    rw [← hnone, decide_eq_false hg, Bool.not_false, Bool.and_true, Bool.false_or]

/-- The gesture bits of the report are the signs of the displacement. -/
theorem gestureReport_signs (P : Params) (tp : Timespec) (gx gy : ℤ) (s : HandlerState) :
    let w := gestureReport P tp gx gy s
    let dx := displacement gx (timeDelta tp s.lastGestureTp) P.cx P.gestureThreshold
    let dy := displacement gy (timeDelta tp s.lastGestureTp) P.cy P.gestureThreshold
    (holds w btnGestureRight = true ↔ 0 < dx) ∧ (holds w btnGestureLeft = true ↔ dx < 0) ∧
      (holds w btnGestureUp = true ↔ 0 < dy) ∧ (holds w btnGestureDown = true ↔ dy < 0) := by
  intro w dx dy
  have hbit (g : Word) (hg : g ∈ gestureBits) : holds w g = holds (gestureButtons dx dy) g := by
    rw [holds_gestureReport P tp gx gy s (gestureBits_scan g hg), if_pos hg]
  obtain ⟨hright, hleft, hup, hdown⟩ := holds_gestureButtons dx dy
  rw [hbit _ (by decide), hbit _ (by decide), hbit _ (by decide), hbit _ (by decide)]
  rw [hright, hleft, hup, hdown]
  simp only [decide_eq_true_eq, and_self]

/-- The key signals that Linux understands. -/
def Event.isOrdinaryKey : Event → Bool
  | .signal _ (.key lincode _) => lincode ≤ keyMax
  | _ => false

theorem entryEvents_ordinary (c : ControllerId) (i : Word) (pressed : Bool)
    (entry : KeyMapEntry × ℕ) :
    (entryEvents c i pressed entry).filter Event.isOrdinaryKey =
      if entry.1.pscode = i ∧ entry.1.lincode ≤ keyMax then
        [.signal (some (c, entry.2)) (.key entry.1.lincode pressed)]
      else [] := by
  simp only [entryEvents]
  by_cases hi : entry.1.pscode = i
  · by_cases hkey : entry.1.lincode ≤ keyMax
    · rw [if_pos hi, if_pos ⟨hi, hkey⟩, entrySignals_ordinary hkey]
      simp [Event.isOrdinaryKey, hkey]
    · -- what an internal code sends is no ordinary key
      rw [if_pos hi, if_neg fun h => hkey h.2]
      simp only [entrySignals]
      split_ifs <;> simp [Event.isOrdinaryKey, hkey]
  · rw [if_neg hi, if_neg fun h => hi h.1]
    rfl

/-- The keys of the gestures that change, one for each entry, in the order of the bits and of
the key map. -/
def gestureKeys (P : Params) (before after : Word) : List Event :=
  gestureBits.flatMap fun g =>
    if holds before g = holds after g then []
    else P.keymap2.zipIdx.flatMap fun entry =>
      if entry.1.pscode = g ∧ entry.1.lincode ≤ keyMax then
        [.signal (some (.second, entry.2)) (.key entry.1.lincode (holds after g))]
      else []

theorem scanBits_split :
    scanBits = ((List.range 24).map fun j => 1#32 <<< j) ++ gestureBits := by decide

/-- A report that changes gesture bits only. -/
theorem transition_gestures (P : Params) (before after : Word)
    (hsame : ∀ i ∈ scanBits, i ∉ gestureBits → holds before i = holds after i) :
    (transitionEvents P .second before after).filter Event.isOrdinaryKey =
      gestureKeys P before after := by
  simp only [transitionEvents, gestureKeys, scanBits_split, List.flatMap_append]
  have hlow : ((List.range 24).map fun j => 1#32 <<< j).flatMap (fun i =>
      if holds before i = holds after i then []
      else (P.keymap .second).zipIdx.flatMap (entryEvents .second i (holds after i))) = [] := by
    apply List.flatMap_eq_nil_iff.mpr
    intro i hi
    have hscan : i ∈ scanBits := by
      rw [scanBits_split]
      exact List.mem_append_left _ hi
    obtain ⟨j, hj, rfl⟩ := List.mem_map.mp hi
    rw [if_pos (hsame _ hscan (physical_bit (List.mem_range.mp hj)))]
  rw [hlow, List.nil_append, List.filter_flatMap]
  congr 1
  funext g
  split_ifs
  · rfl
  · rw [List.filter_flatMap]
    simp only [entryEvents_ordinary]
    rfl

/-- An open gate: the reading begins with a report of the second controller. -/
theorem onGesture_report (P : Params) (clock : Clock) (gx gy : ℤ) (s : HandlerState)
    (hready : gestureReady P s) :
    ∃ rest, (onGesture P clock gx gy s).2 =
      .report .second (s.buttons .second) (gestureReport P (clock 0) gx gy s) :: rest := by
  rw [onGesture_eq, if_pos hready]
  dsimp only
  rw [onButtons_eq]
  split_ifs
  · exact ⟨_, rfl⟩
  · exact ⟨_, rfl⟩

/-- It is nothing else when no gesture is mapped to the trigger. -/
theorem onGesture_open (P : Params)
    (hmap : ∀ e ∈ P.keymap2, e.pscode ∈ gestureBits → e.lincode ≠ keyPsmoveGestureTrigger)
    (clock : Clock) (gx gy : ℤ) (s : HandlerState) (hrel : s.releaseGestureKeys = false)
    (hready : gestureReady P s) :
    (onGesture P clock gx gy s).1.buttons .second = gestureReport P (clock 0) gx gy s ∧
      (onGesture P clock gx gy s).2 =
        .report .second (s.buttons .second) (gestureReport P (clock 0) gx gy s) ::
          transitionEvents P .second (s.buttons .second) (gestureReport P (clock 0) gx gy s) := by
  have hkeep : ¬ReleasesTrigger P (s.buttons .second) (gestureReport P (clock 0) gx gy s) := by
    intro h
    obtain ⟨e, he, hcode, hscan, hdown, hup⟩ := h
    -- only gesture bits change, and none of them is the trigger
    have hphys : e.pscode ∉ gestureBits := fun hg => hmap e he hg hcode
    rw [holds_gestureReport P (clock 0) gx gy s hscan, if_neg hphys, hdown] at hup
    exact absurd hup (by decide)
  rw [onGesture_eq, if_pos hready]
  dsimp only
  rw [onButtons_plain P _ _ s hrel hkeep]
  dsimp only
  rw [reportButtons_buttons, Function.update_self, reportOut, reportButtons_events]
  exact ⟨rfl, rfl⟩

/-- A reading stores exactly the current gesture, keeps the physical buttons and sends exactly
the keys of the gestures that change. A closed gate only records the time. -/
theorem onGesture_reports_gesture (P : Params)
    (hmap : ∀ e ∈ P.keymap2, e.pscode ∈ gestureBits → e.lincode ≠ keyPsmoveGestureTrigger)
    (calls : List Call) (clock : Clock) (gx gy : ℤ) :
    let s := (runCalls P .init calls).1
    let t := onGesture P clock gx gy s
    let delta := timeDelta (clock 0) s.lastGestureTp
    let dx := displacement gx delta P.cx P.gestureThreshold
    let dy := displacement gy delta P.cy P.gestureThreshold
    (gestureReady P s →
      (holds (t.1.buttons .second) btnGestureRight = true ↔ 0 < dx) ∧
      (holds (t.1.buttons .second) btnGestureLeft = true ↔ dx < 0) ∧
      (holds (t.1.buttons .second) btnGestureUp = true ↔ 0 < dy) ∧
      (holds (t.1.buttons .second) btnGestureDown = true ↔ dy < 0) ∧
      (∀ j < 24, (t.1.buttons .second).getLsbD j = (s.buttons .second).getLsbD j) ∧
      t.2.filter Event.isOrdinaryKey = gestureKeys P (s.buttons .second) (t.1.buttons .second) ∧
      ∀ cause sig, .signal cause sig ∈ t.2 → ∃ index e, cause = some (.second, index) ∧
        P.keymap2[index]? = some e ∧ e.pscode ∈ gestureBits) ∧
    (gestureGate P s = false → t = ({ s with lastGestureTp := clock 0 }, [])) := by
  intro s t delta dx dy
  have hrel : s.releaseGestureKeys = false := runCalls_release P calls .init rfl
  constructor
  · intro hready
    obtain ⟨hword, hevents⟩ := onGesture_open P hmap clock gx gy s hrel hready
    have hphys (i : Word) (hi : i ∈ scanBits) (hg : i ∉ gestureBits) :
        holds (s.buttons .second) i = holds (t.1.buttons .second) i := by
      rw [hword, holds_gestureReport P (clock 0) gx gy s hi, if_neg hg]
    have hsigns := gestureReport_signs P (clock 0) gx gy s
    rw [← hword] at hsigns
    obtain ⟨hright, hleft, hup, hdown⟩ := hsigns
    refine ⟨hright, hleft, hup, hdown, ?_, ?_, ?_⟩
    · intro j hj
      rw [← holds_shift _ (by omega), ← holds_shift _ (by omega)]
      exact (hphys _ (mem_scanBits.mpr ⟨j, by omega, rfl⟩) (physical_bit hj)).symm
    · rw [hevents, hword]
      rw [hword] at hphys
      rw [List.filter_cons_of_neg Bool.false_ne_true]
      exact transition_gestures P _ _ hphys
    · -- the entry of a signal has changed, and only the gestures do
      intro cause sig hmem
      rw [hevents] at hmem
      rcases List.mem_cons.mp hmem with hmark | hmem
      · cases hmark
      · obtain ⟨e, index, he, hscan, hchange, _, _, heq⟩ := mem_transitionEvents.mp hmem
        obtain ⟨rfl, -⟩ := Event.signal.inj heq
        refine ⟨index, e, rfl, he, ?_⟩
        by_contra hg
        rw [← hword] at hchange
        exact hchange (hphys e.pscode hscan hg)
  · intro hclosed
    have hready : ¬gestureReady P s := by
      intro h
      exact Bool.false_ne_true (hclosed.symm.trans h.2)
    exact (onGesture_eq P clock gx gy s).trans (if_neg hready)

/-- A reading of 7 after 10 ms, with the trigger held: 70 to the right presses the key. -/
theorem onGesture_reports_right :
    let t := onGesture exampleParams (fun _ => ⟨1, 510000000⟩) 7 0
      (runCalls exampleParams .init (exampleCalls.take 2)).1
    holds (t.1.buttons .second) btnGestureRight = true ∧
      t.2.filter Event.isOrdinaryKey = [.signal (some (.second, 2)) (.key 19 true)] := by
  intro t
  have hready : gestureReady exampleParams
      (runCalls exampleParams .init (exampleCalls.take 2)).1 := by decide +kernel
  have hbefore : (runCalls exampleParams .init (exampleCalls.take 2)).1.buttons .second =
      0x100000#32 := by decide +kernel
  have hafter : t.1.buttons .second = 0x8100000#32 := by decide +kernel
  obtain ⟨hright, -, -, -, -, hkeys, -⟩ := (onGesture_reports_gesture exampleParams (by decide)
    (exampleCalls.take 2) (fun _ => ⟨1, 510000000⟩) 7 0).1 hready
  constructor
  · exact hright.mpr (by decide +kernel)
  · rw [hbefore, hafter] at hkeys
    exact hkeys.trans (by decide)

end PSMoveInput

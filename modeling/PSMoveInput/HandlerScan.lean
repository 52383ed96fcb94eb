import PSMoveInput.EdgeTrace
import PSMoveInput.Handler

/-! What the bit loop of `onButtons` does, in terms of the stored and the reported word.
Its signals do not depend on the triggers, and the triggers are levels driven by the changes
of the buttons that are mapped to them. -/
namespace PSMoveInput

open Transducer EdgeTrace

/-- The signals of one entry whose button changes. -/
def entrySignals (lincode : ℤ) (controller : ControllerId) (pressed : Bool) : List Signal :=
  if lincode = keyPsmoveDisconnect then [.disconnect controller]
  else if controller = .first ∧ lincode = keyPsmoveMoveTrigger then []
  else if controller = .second ∧ lincode = keyPsmoveGestureTrigger then []
  else if lincode = keyPsmoveMwheelUp ∧ pressed = true then [.mwheel 1]
  else if lincode = keyPsmoveMwheelDown ∧ pressed = true then [.mwheel (-1)]
  else [.key lincode pressed]

def entryEvents (controller : ControllerId) (button : Word) (pressed : Bool)
    (entry : KeyMapEntry × ℕ) : List Event :=
  if entry.1.pscode = button then
    (entrySignals entry.1.lincode controller pressed).map (.signal (some (controller, entry.2)))
  else []

/-- The events of a report that changes the word of a controller from `before` to `after`. -/
def transitionEvents (P : Params) (controller : ControllerId) (before after : Word) :
    List Event :=
  scanBits.flatMap fun i =>
    if holds before i = holds after i then []
    else (P.keymap controller).zipIdx.flatMap (entryEvents controller i (holds after i))

/-- The changes that a report makes to the buttons mapped to `code`, in the order of the loop. -/
def codeEdges (keymap : KeyMap) (code : ℤ) (before after : Word) : List Bool :=
  scanBits.flatMap fun i =>
    if holds before i = holds after i then []
    else keymap.flatMap fun entry =>
      if entry.pscode = i ∧ entry.lincode = code then [holds after i] else []

theorem mem_transitionEvents {P : Params} {controller : ControllerId} {before after : Word}
    {ev : Event} :
    ev ∈ transitionEvents P controller before after ↔
      ∃ e index, (P.keymap controller)[index]? = some e ∧ e.pscode ∈ scanBits ∧
        holds before e.pscode ≠ holds after e.pscode ∧
        ∃ sig ∈ entrySignals e.lincode controller (holds after e.pscode),
          ev = .signal (some (controller, index)) sig := by
  simp only [transitionEvents]
  constructor
  · intro hev
    obtain ⟨i, hi, hev⟩ := List.mem_flatMap.mp hev
    split_ifs at hev with hsame
    · exact absurd hev List.not_mem_nil
    obtain ⟨⟨e, index⟩, he, hev⟩ := List.mem_flatMap.mp hev
    unfold entryEvents at hev
    split_ifs at hev with hcode
    · obtain rfl : e.pscode = i := hcode
      obtain ⟨sig, hsig, rfl⟩ := List.mem_map.mp hev
      exact ⟨e, index, List.mem_zipIdx_iff_getElem?.mp he, hi, hsame, sig, hsig, rfl⟩
    · exact absurd hev List.not_mem_nil
  · intro hev
    obtain ⟨e, index, he, hi, hchange, sig, hsig, rfl⟩ := hev
    apply List.mem_flatMap.mpr
    refine ⟨e.pscode, hi, ?_⟩
    rw [if_neg hchange]
    apply List.mem_flatMap.mpr
    refine ⟨(e, index), List.mem_zipIdx_iff_getElem?.mpr he, ?_⟩
    simp only [entryEvents, ↓reduceIte]
    exact List.mem_map_of_mem hsig

/-- What an observer of one code sees of a report is given by the changes of that code. -/
theorem filterMap_transition {β : Type*} (P : Params) (code : ℤ) (controller : ControllerId)
    (f : Event → Option β) (g : Bool → β)
    (hf : ∀ i pressed entry, (entryEvents controller i pressed entry).filterMap f =
      if entry.1.pscode = i ∧ entry.1.lincode = code then [g pressed] else [])
    (before after : Word) :
    (transitionEvents P controller before after).filterMap f =
      (codeEdges (P.keymap controller) code before after).map g := by
  simp only [transitionEvents, codeEdges]
  rw [List.filterMap_flatMap, List.map_flatMap]
  congr 1
  funext i
  split_ifs
  · rfl
  · -- `codeEdges` reads the entries without their indices
    conv_rhs => rw [← List.zipIdx_map_fst 0 (P.keymap controller)]
    rw [List.filterMap_flatMap, List.flatMap_map, List.map_flatMap]
    congr 1
    funext entry
    rw [hf]
    split_ifs <;> rfl

theorem handleSpecialKeys_signals (lincode : ℤ) (controller : ControllerId) (pressed : Bool)
    (s : HandlerState) :
    (let r := handleSpecialKeys lincode controller pressed s
     if r.1 = false then r.2.2 ++ [.key lincode pressed] else r.2.2) =
      entrySignals lincode controller pressed := by
  rw [handleSpecialKeys, entrySignals]
  split_ifs <;> rfl

theorem reportEntry_events (button : Word) (pressed : Bool) (controller : ControllerId)
    (s : HandlerState) (entry : KeyMapEntry × ℕ) :
    (reportEntry button pressed controller s entry).2 =
      entryEvents controller button pressed entry := by
  have h := handleSpecialKeys_signals entry.1.lincode controller pressed s
  dsimp only at h
  rw [reportEntry, entryEvents]
  split_ifs with hb
  · dsimp only
    rw [h]
  · rfl

theorem scanStep_cases (P : Params) (controller : ControllerId) (before after : Word)
    (s : HandlerState) {i : Word} (hi : i ∈ scanBits) :
    scanStep P controller (after &&& ~~~before) (before &&& ~~~after) s i =
      if holds before i = holds after i then (s, [])
      else reportKey P i (holds after i) controller s := by
  simp only [scanStep]
  rw [holds_changed hi, holds_changed hi]
  cases holds before i <;> cases holds after i <;> rfl

theorem scan_events (P : Params) (controller : ControllerId) (before after : Word)
    (s : HandlerState) :
    (run (scanStep P controller (after &&& ~~~before) (before &&& ~~~after)) s scanBits).2 =
      transitionEvents P controller before after := by
  apply run_outputs
  intro s i hi
  rw [scanStep_cases P controller before after s hi]
  split_ifs with h
  · rfl
  · apply run_outputs
    intro s e _
    exact reportEntry_events i _ controller s e

/-! ### The fields of the state -/

/-- An invariant of `handleSpecialKeys` for the entries of the buttons that change is an
invariant of the loop. -/
theorem scan_invariant_entry (P : Params) (controller : ControllerId) (before after : Word)
    (I : HandlerState → Prop)
    (hkey : ∀ s, ∀ e ∈ P.keymap controller, e.pscode ∈ scanBits →
      holds before e.pscode ≠ holds after e.pscode →
      I s → I (handleSpecialKeys e.lincode controller (holds after e.pscode) s).2.1)
    (s : HandlerState) (hs : I s) :
    I (run (scanStep P controller (after &&& ~~~before) (before &&& ~~~after)) s scanBits).1 := by
  refine run_invariant _ I scanBits ?_ s hs
  intro s i hi hI
  rw [scanStep_cases P controller before after s hi]
  split_ifs with h
  · exact hI
  · refine run_invariant _ I _ ?_ s hI
    intro s e he hI
    have hmem := List.fst_mem_of_mem_zipIdx he
    rw [reportEntry]
    split_ifs with hb
    · subst hb
      exact hkey s e.1 hmem hi h hI
    · exact hI

/-- An invariant of `handleSpecialKeys` for the entries of the key map and the direction of
the changes is an invariant of the loop. -/
theorem scan_invariant (P : Params) (controller : ControllerId) (before after : Word)
    (I : HandlerState → Prop)
    (hkey : ∀ s, ∀ e ∈ P.keymap controller, ∀ i ∈ scanBits, holds before i ≠ holds after i →
      I s → I (handleSpecialKeys e.lincode controller (holds after i) s).2.1)
    (s : HandlerState) (hs : I s) :
    I (run (scanStep P controller (after &&& ~~~before) (before &&& ~~~after)) s scanBits).1 := by
  apply scan_invariant_entry P controller before after I
  · intro s e he hscan hchange hI
    exact hkey s e he e.pscode hscan hchange hI
  · exact hs

/-- A field that `handleSpecialKeys` sets to `pressed` for one code and leaves alone for the
others is a level driven by the changes of that code. -/
theorem scan_level (P : Params) (controller : ControllerId) (before after : Word) (code : ℤ)
    (view : HandlerState → Bool)
    (hkey : ∀ s lincode pressed,
      view (handleSpecialKeys lincode controller pressed s).2.1 =
        if lincode = code then pressed else view s) (s : HandlerState) :
    view (run (scanStep P controller (after &&& ~~~before) (before &&& ~~~after)) s scanBits).1 =
      level (view s) (codeEdges (P.keymap controller) code before after) := by
  simp only [codeEdges]
  rw [← level_flatMap]
  apply run_view
  intro s i hi
  rw [scanStep_cases P controller before after s hi]
  split_ifs with h
  · rfl
  · have hmap : (P.keymap controller).flatMap (fun entry =>
          if entry.pscode = i ∧ entry.lincode = code then [holds after i] else []) =
        (P.keymap controller).zipIdx.flatMap (fun entry =>
          if entry.1.pscode = i ∧ entry.1.lincode = code then [holds after i] else []) := by
      conv_lhs => rw [← List.zipIdx_map_fst 0 (P.keymap controller)]
      rw [List.flatMap_map]
    rw [hmap, ← level_flatMap]
    apply run_view
    intro s e _
    simp only [reportEntry]
    -- an entry of another button sends nothing and leaves the level alone
    by_cases hb : e.1.pscode = i
    · simp only [hb, ↓reduceIte, true_and, hkey]
      split_ifs <;> rfl
    · simp only [hb, ↓reduceIte, false_and, level_nil]

/-- A part of the state that `handleSpecialKeys` leaves alone. -/
theorem scan_frame {β : Type*} (P : Params) (controller : ControllerId) (before after : Word)
    (view : HandlerState → β)
    (hkey : ∀ s lincode pressed,
      view (handleSpecialKeys lincode controller pressed s).2.1 = view s) (s : HandlerState) :
    view (run (scanStep P controller (after &&& ~~~before) (before &&& ~~~after)) s scanBits).1 =
      view s := by
  refine scan_invariant P controller before after (fun t => view t = view s) ?_ s rfl
  intro t e _ i _ _ ht
  rw [hkey, ht]

theorem handleSpecialKeys_moveTrigger (lincode : ℤ) (pressed : Bool) (s : HandlerState) :
    (handleSpecialKeys lincode .first pressed s).2.1.moveTrigger =
      if lincode = keyPsmoveMoveTrigger then pressed else s.moveTrigger := by
  simp only [handleSpecialKeys]
  split_ifs <;> simp_all [keyPsmoveDisconnect, keyPsmoveMoveTrigger]

theorem handleSpecialKeys_gestureTrigger (lincode : ℤ) (pressed : Bool) (s : HandlerState) :
    (handleSpecialKeys lincode .second pressed s).2.1.gestureTrigger =
      if lincode = keyPsmoveGestureTrigger then pressed else s.gestureTrigger := by
  simp only [handleSpecialKeys]
  split_ifs <;> simp_all [keyPsmoveDisconnect, keyPsmoveGestureTrigger]

/-- Neither controller's keys touch the words or the timestamps, and the first controller's
keys touch nothing but the move trigger. -/
theorem handleSpecialKeys_first (lincode : ℤ) (pressed : Bool) (s : HandlerState) :
    (handleSpecialKeys lincode .first pressed s).2.1 =
      { s with moveTrigger :=
        (handleSpecialKeys lincode .first pressed s).2.1.moveTrigger } := by
  simp only [handleSpecialKeys]
  split_ifs <;> simp_all

theorem handleSpecialKeys_second (lincode : ℤ) (pressed : Bool) (s : HandlerState) :
    (handleSpecialKeys lincode .second pressed s).2.1 =
      { s with
        gestureTrigger := (handleSpecialKeys lincode .second pressed s).2.1.gestureTrigger
        releaseGestureKeys :=
          (handleSpecialKeys lincode .second pressed s).2.1.releaseGestureKeys } := by
  simp only [handleSpecialKeys]
  split_ifs <;> simp_all

/-! ### The report as a whole -/

theorem transitionEvents_self (P : Params) (controller : ControllerId) (w : Word) :
    transitionEvents P controller w w = [] := by
  simp only [transitionEvents, ↓reduceIte, List.flatMap_eq_nil_iff, implies_true]

theorem codeEdges_self (keymap : KeyMap) (code : ℤ) (w : Word) :
    codeEdges keymap code w w = [] := by
  simp only [codeEdges, ↓reduceIte, List.flatMap_eq_nil_iff, implies_true]

theorem reportButtons_events (P : Params) (buttons : Word) (controller : ControllerId)
    (s : HandlerState) :
    (reportButtons P buttons controller s).2 =
      transitionEvents P controller (s.buttons controller) buttons := by
  simp only [reportButtons]
  split_ifs with h
  · exact scan_events P controller (s.buttons controller) buttons s
  · rw [← not_ne_iff.mp h, transitionEvents_self]

theorem reportButtons_first (P : Params) (buttons : Word) (s : HandlerState) :
    (reportButtons P buttons .first s).1 =
      { s with
        buttons := Function.update s.buttons .first buttons
        moveTrigger := level s.moveTrigger
          (codeEdges P.keymap1 keyPsmoveMoveTrigger (s.buttons .first) buttons) } := by
  simp only [reportButtons]
  split_ifs with h
  · have hframe := scan_frame P .first (s.buttons .first) buttons
      (fun t => { t with moveTrigger := false })
      (fun t lincode pressed => by rw [handleSpecialKeys_first]) s
    have hlevel := scan_level P .first (s.buttons .first) buttons keyPsmoveMoveTrigger
      HandlerState.moveTrigger (fun t lincode pressed => handleSpecialKeys_moveTrigger _ _ t) s
    -- the loop leaves all fields but the move trigger alone
    simp only [HandlerState.mk.injEq] at hframe
    obtain ⟨hb, hg, hgt, -, ht, hr⟩ := hframe
    apply HandlerState.ext
    · simp only [HandlerState.setButtons, hb]
    · exact hg
    · exact hgt
    · exact hlevel
    · exact ht
    · exact hr
  · rw [← not_ne_iff.mp h, codeEdges_self, level_nil, Function.update_eq_self]

theorem reportButtons_second (P : Params) (buttons : Word) (s : HandlerState) :
    (reportButtons P buttons .second s).1 =
      { s with
        buttons := Function.update s.buttons .second buttons
        gestureTrigger := level s.gestureTrigger
          (codeEdges P.keymap2 keyPsmoveGestureTrigger (s.buttons .second) buttons)
        releaseGestureKeys := (reportButtons P buttons .second s).1.releaseGestureKeys } := by
  by_cases h : s.buttons .second ≠ buttons
  · have hframe := scan_frame P .second (s.buttons .second) buttons
      (fun t => { t with gestureTrigger := false, releaseGestureKeys := false })
      (fun t lincode pressed => by rw [handleSpecialKeys_second]) s
    have hlevel := scan_level P .second (s.buttons .second) buttons keyPsmoveGestureTrigger
      HandlerState.gestureTrigger
      (fun t lincode pressed => handleSpecialKeys_gestureTrigger _ _ t) s
    -- the loop leaves all fields but the gesture trigger and the release flag alone
    simp only [HandlerState.mk.injEq] at hframe
    obtain ⟨hb, hg, hgt, hm, -, -⟩ := hframe
    simp only [reportButtons]
    rw [if_pos h]
    apply HandlerState.ext
    · simp only [HandlerState.setButtons, hb]
    · exact hg
    · exact hgt
    · exact hm
    · exact hlevel
    · rfl
  · simp only [reportButtons]
    rw [if_neg h, ← not_ne_iff.mp h, codeEdges_self, level_nil, Function.update_eq_self]

/-! ### Levels driven by the changes of a code -/

/-- A button that the key map maps to the code is set in the word. -/
def HeldBy (keymap : KeyMap) (code : ℤ) (w : Word) : Prop :=
  ∃ e ∈ keymap, e.lincode = code ∧ holds w e.pscode = true

/-- The same for a button that the bit loop scans. -/
def HeldScan (keymap : KeyMap) (code : ℤ) (w : Word) : Prop :=
  ∃ e ∈ keymap, e.lincode = code ∧ e.pscode ∈ scanBits ∧ holds w e.pscode = true

/-- Every button of the key map is one that the bit loop scans. -/
def Scanned (keymap : KeyMap) : Prop := ∀ e ∈ keymap, e.pscode ∈ scanBits

theorem HeldScan.held {keymap : KeyMap} {code : ℤ} {w : Word} (h : HeldScan keymap code w) :
    HeldBy keymap code w := by
  obtain ⟨e, he, hcode, _, hset⟩ := h
  exact ⟨e, he, hcode, hset⟩

theorem HeldBy.scan {keymap : KeyMap} {code : ℤ} {w : Word} (hscan : Scanned keymap)
    (h : HeldBy keymap code w) : HeldScan keymap code w := by
  obtain ⟨e, he, hcode, hset⟩ := h
  exact ⟨e, he, hcode, hscan e he, hset⟩

theorem mem_codeEdges {keymap : KeyMap} {code : ℤ} {before after : Word} {b : Bool} :
    b ∈ codeEdges keymap code before after ↔
      ∃ e ∈ keymap, e.lincode = code ∧ e.pscode ∈ scanBits ∧
        holds before e.pscode ≠ holds after e.pscode ∧ b = holds after e.pscode := by
  simp only [codeEdges]
  simp only [List.mem_flatMap]
  constructor
  · intro hmem
    obtain ⟨i, hi, hb⟩ := hmem
    split_ifs at hb with hsame
    · simp at hb
    · obtain ⟨e, he, hb⟩ := List.mem_flatMap.mp hb
      split_ifs at hb with hcode
      · obtain ⟨rfl, hcode⟩ := hcode
        exact ⟨e, he, hcode, hi, hsame, List.mem_singleton.mp hb⟩
      · simp at hb
  · intro hmem
    obtain ⟨e, he, hcode, hi, hchange, rfl⟩ := hmem
    refine ⟨e.pscode, hi, ?_⟩
    rw [if_neg hchange]
    apply List.mem_flatMap.mpr
    refine ⟨e, he, ?_⟩
    simp only [hcode, and_self, ↓reduceIte, List.mem_singleton]

/-- A level driven by the changes of a code is on only while a button of the code is held. -/
theorem level_codeEdges {keymap : KeyMap} {code : ℤ} {before after : Word} (a : Bool)
    (hbefore : a = true → HeldScan keymap code before)
    (h : level a (codeEdges keymap code before after) = true) :
    HeldScan keymap code after := by
  rcases level_eq_or_mem a (codeEdges keymap code before after) with ⟨hnil, ha⟩ | hmem
  · -- nothing of this code changed
    obtain ⟨e, he, hcode, hscan, hheld⟩ := hbefore (ha ▸ h)
    refine ⟨e, he, hcode, hscan, ?_⟩
    by_contra hoff
    have hchange : holds before e.pscode ≠ holds after e.pscode := fun hsame => hoff (hsame ▸ hheld)
    have hedge : holds after e.pscode ∈ codeEdges keymap code before after :=
      mem_codeEdges.mpr ⟨e, he, hcode, hscan, hchange, rfl⟩
    rw [hnil] at hedge
    exact absurd hedge List.not_mem_nil
  · -- the last change of this code was a press
    obtain ⟨e, he, hcode, hscan, _, hval⟩ := mem_codeEdges.mp hmem
    exact ⟨e, he, hcode, hscan, hval ▸ h⟩

end PSMoveInput

import PSMoveInput.ReportTrace

/-! The key signals of one key map entry are the edges of its button in the stored word. -/
namespace PSMoveInput

open Transducer EdgeTrace

/-- The key signals caused by the entry with the given index in the controller's key map. -/
def entryKey (controller : ControllerId) (index : ℕ) : Event → Option Bool
  | .signal (some cause) (.key _ pressed) =>
    if cause = (controller, index) then some pressed else none
  | _ => none

def entryKeys (controller : ControllerId) (index : ℕ) (es : List Event) : List Bool :=
  es.filterMap (entryKey controller index)

/-- An ordinary key is not handled internally, whatever the controller and the direction. -/
theorem entrySignals_ordinary {lincode : ℤ} (h : lincode ≤ keyMax) (controller : ControllerId)
    (pressed : Bool) : entrySignals lincode controller pressed = [.key lincode pressed] := by
  obtain ⟨hd, hm, hg, hu, hn⟩ := ordinary_ne h
  simp only [entrySignals, hd, hm, hg, hu, hn, and_false, false_and, ↓reduceIte]

theorem zipIdx_nodup {α : Type*} (l : List α) : l.zipIdx.Nodup := by
  apply List.Nodup.of_map Prod.snd
  rw [List.zipIdx_map_snd]
  exact List.nodup_range'

theorem entryKeys_cause_ne {controller : ControllerId} {index : ℕ}
    {cause : ControllerId × ℕ} (h : cause ≠ (controller, index)) (sigs : List Signal) :
    (sigs.map (Event.signal (some cause))).filterMap (entryKey controller index) = [] := by
  rw [List.filterMap_map, List.filterMap_eq_nil_iff]
  intro sig _
  cases sig with
  | key lincode pressed => simp only [Function.comp_apply, entryKey, h, ↓reduceIte]
  | _ => rfl

theorem zipIdx_unique {α : Type*} {l : List α} {entry : α × ℕ} (hentry : entry ∈ l.zipIdx)
    {a : α} (ha : l[entry.2]? = some a) : entry.1 = a := by
  have hsome : l[entry.2]? = some entry.1 := List.mem_zipIdx_iff_getElem?.mp hentry
  exact Option.some.inj (hsome.symm.trans ha)

/-- Among the entries of the key maps only the observed one is seen, and only on its button. -/
theorem entryKeys_entry (P : Params) {controller : ControllerId} {index : ℕ} {e : KeyMapEntry}
    (he : (P.keymap controller)[index]? = some e) (hkey : e.lincode ≤ keyMax) (c : ControllerId)
    (i : Word) (pressed : Bool) {entry : KeyMapEntry × ℕ}
    (hentry : entry ∈ (P.keymap c).zipIdx) :
    (entryEvents c i pressed entry).filterMap (entryKey controller index) =
      if (c, entry.2) = (controller, index) ∧ e.pscode = i then [pressed] else [] := by
  simp only [entryEvents]
  by_cases hcause : (c, entry.2) = (controller, index)
  · obtain ⟨rfl, rfl⟩ := Prod.mk.inj hcause
    have hsame : entry.1 = e := zipIdx_unique hentry he
    rw [hsame, entrySignals_ordinary hkey]
    by_cases hi : e.pscode = i
    · simp only [hi, ↓reduceIte, and_self, List.map_cons, List.map_nil, List.filterMap_cons,
        entryKey, List.filterMap_nil]
    · simp only [hi, ↓reduceIte, and_false, List.filterMap_nil]
  · have hunseen : ¬((c, entry.2) = (controller, index) ∧ e.pscode = i) := fun h => hcause h.1
    rw [if_neg hunseen]
    split_ifs
    · exact entryKeys_cause_ne hcause _
    · rfl

/-- One report: the entry signals once if its button changes, with the new value. -/
theorem entryKeys_transition (P : Params) (controller : ControllerId) (index : ℕ)
    (e : KeyMapEntry) (he : (P.keymap controller)[index]? = some e) (hscan : e.pscode ∈ scanBits)
    (hkey : e.lincode ≤ keyMax) (c : ControllerId) (before after : Word) :
    entryKeys controller index (transitionEvents P c before after) =
      if c = controller then
        if holds before e.pscode = holds after e.pscode then [] else [holds after e.pscode]
      else [] := by
  -- a scan of a button at which the entry is not seen
  have hsilent (i : Word) (hunseen : ¬(c = controller ∧ e.pscode = i)) :
      (if holds before i = holds after i then []
        else (P.keymap c).zipIdx.flatMap (entryEvents c i (holds after i))).filterMap
          (entryKey controller index) = [] := by
    split_ifs
    · rfl
    · rw [List.filterMap_flatMap, List.flatMap_eq_nil_iff]
      intro entry hentry
      rw [entryKeys_entry P he hkey c i _ hentry, if_neg]
      intro hseen
      exact hunseen ⟨congrArg Prod.fst hseen.1, hseen.2⟩
  simp only [entryKeys, transitionEvents]
  rw [List.filterMap_flatMap]
  by_cases hc : c = controller
  · subst hc
    rw [if_pos rfl, flatMap_single scanBits_nodup hscan]
    · split_ifs with hsame
      · rfl
      · rw [List.filterMap_flatMap]
        have hmem : (e, index) ∈ (P.keymap c).zipIdx := List.mem_zipIdx_iff_getElem?.mpr he
        rw [flatMap_single (zipIdx_nodup _) hmem]
        · rw [entryKeys_entry P he hkey c _ _ hmem, if_pos ⟨rfl, rfl⟩]
        · intro entry hentry hne
          rw [entryKeys_entry P he hkey c _ _ hentry, if_neg]
          intro hseen
          obtain ⟨-, rfl⟩ := Prod.mk.inj hseen.1
          have hsame : entry.1 = e := zipIdx_unique hentry he
          exact hne (Prod.ext hsame rfl)
    · intro i _ hi
      apply hsilent
      intro hseen
      exact hi hseen.2.symm
  · rw [if_neg hc, List.flatMap_eq_nil_iff]
    intro i _
    apply hsilent
    intro hseen
    exact hc hseen.1

/-- Any sequence of reports: the entry's signals are the edges of its button. -/
theorem ReportTrace.entry_edges {P : Params} {w w' : ControllerId → Word} {es : List Event}
    (h : ReportTrace P w es w') (controller : ControllerId) (index : ℕ) (e : KeyMapEntry)
    (he : (P.keymap controller)[index]? = some e) (hscan : e.pscode ∈ scanBits)
    (hkey : e.lincode ≤ keyMax) :
    Edges (holds (w controller) e.pscode) (entryKeys controller index es)
      (holds (w' controller) e.pscode) := by
  induction h with
  | nil w => exact .nil _
  | move w dx dy => exact .nil _
  | report w c after =>
    have hskip : entryKeys controller index
        (.report c (w c) after :: transitionEvents P c (w c) after) =
        entryKeys controller index (transitionEvents P c (w c) after) := rfl
    rw [hskip, entryKeys_transition P controller index e he hscan hkey]
    by_cases hc : c = controller
    · subst hc
      rw [if_pos rfl, Function.update_self]
      exact .of_sample _ _
    · rw [if_neg hc, Function.update_of_ne (Ne.symm hc)]
      exact .nil _
  | append _ _ ih1 ih2 =>
    have hsplit := ih1.append ih2
    rwa [entryKeys, entryKeys, ← List.filterMap_append] at hsplit

/-- A key signal carries the code of the entry that caused it. -/
theorem ReportTrace.key_cause {P : Params} {w w' : ControllerId → Word} {es : List Event}
    (h : ReportTrace P w es w') {cause : Option (ControllerId × ℕ)} {lincode : ℤ}
    {pressed : Bool} (hmem : .signal cause (.key lincode pressed) ∈ es) :
    ∃ controller index e, cause = some (controller, index) ∧
      (P.keymap controller)[index]? = some e ∧ e.lincode = lincode := by
  induction h with
  | nil w => exact absurd hmem List.not_mem_nil
  | move w dx dy => simp at hmem
  | report w c after =>
    rcases List.mem_cons.mp hmem with hmark | hmem
    · cases hmark
    obtain ⟨e, index, he, _, _, sig, hsig, heq⟩ := mem_transitionEvents.mp hmem
    obtain ⟨rfl, rfl⟩ := Event.signal.inj heq
    refine ⟨c, index, e, rfl, he, ?_⟩
    -- of the branches of `entrySignals` only the last one sends a key
    unfold entrySignals at hsig
    split_ifs at hsig <;> simp_all
  | append _ _ ih1 ih2 =>
    rcases List.mem_append.mp hmem with hmem | hmem
    · exact ih1 hmem
    · exact ih2 hmem

/-- No key transition is lost or duplicated: from a fresh or just reset handler the key signals
of an entry alternate, beginning with a press, and their balance is the stored bit. -/
theorem key_transitions_alternate (P : Params) (s : HandlerState)
    (hs : s = HandlerState.init ∨ ∃ r, s = reset r) (calls : List Call)
    (hcalls : ∀ call ∈ calls, call.isReset = false) (controller : ControllerId) (index : ℕ)
    (e : KeyMapEntry) (he : (P.keymap controller)[index]? = some e)
    (hbit : ∃ j < 28, e.pscode = 1#32 <<< j) (hkey : e.lincode ≤ keyMax) :
    Alternates true (entryKeys controller index (runCalls P s calls).2) ∧
      ((entryKeys controller index (runCalls P s calls).2).count true : ℤ) -
          (entryKeys controller index (runCalls P s calls).2).count false =
        if holds ((runCalls P s calls).1.buttons controller) e.pscode then 1 else 0 := by
  have hzero : s.buttons controller = 0#32 := by
    rcases hs with rfl | ⟨r, rfl⟩ <;> rfl
  have htrace := runCalls_trace P calls hcalls s
  have hedges := htrace.entry_edges controller index e he (mem_scanBits.mpr hbit) hkey
  rw [hzero, holds_zero] at hedges
  exact ⟨hedges.alternates, hedges.count_sub⟩

/-- Key maps with both triggers. The button of the gesture trigger types a key as well. -/
def exampleParams : Params where
  keymap1 := [⟨0x40#32, 45⟩, ⟨0x100000#32, keyPsmoveMoveTrigger⟩]
  keymap2 := [⟨0x100000#32, keyPsmoveGestureTrigger⟩, ⟨0x100000#32, 57⟩, ⟨btnGestureRight, 19⟩]
  cx := 1
  cy := 1
  moveThreshold := 0
  gestureThreshold := 40

/-- Two gesture readings 10 ms apart with the trigger held, and the release of the trigger,
which makes the nested calls. -/
def exampleCalls : List Call :=
  [.onGesture (fun _ => ⟨1, 500000000⟩) 0 0,
   .onButtons (fun _ => ⟨1, 505000000⟩) 0x100000#32 .second,
   .onGesture (fun _ => ⟨1, 510000000⟩) 7 0,
   .onButtons (fun _ => ⟨1, 515000000⟩) 0#32 .second]

theorem key_transitions_alternate_gesture :
    Alternates true (entryKeys .second 2 (runCalls exampleParams .init exampleCalls).2) ∧
      ((entryKeys .second 2 (runCalls exampleParams .init exampleCalls).2).count true : ℤ) -
          (entryKeys .second 2 (runCalls exampleParams .init exampleCalls).2).count false =
        if holds ((runCalls exampleParams .init exampleCalls).1.buttons .second) btnGestureRight
          then 1 else 0 :=
  key_transitions_alternate exampleParams .init (Or.inl rfl) exampleCalls (by decide) .second 2
    ⟨btnGestureRight, 19⟩ rfl ⟨27, by decide, by decide⟩ (by decide)

end PSMoveInput

import PSMoveInput.ConfigKeyMaps
import PSMoveInput.DeviceLiveness
import PSMoveInput.DeviceSetup
import PSMoveInput.SampledKeys

/-! From the configuration file to the reader of the device: which keys come out for the buttons of
the controllers. -/
namespace PSMoveInput

open Transducer Liveness EdgeTrace

/-! ### Start -/

/-- What `initHandler` gives to the handler. -/
def Config.handlerParams (c : Config) : Params where
  keymap1 := c.keymaps .first
  keymap2 := c.keymaps .second
  cx := c.coeffs.cx
  cy := c.coeffs.cy
  moveThreshold := c.moveThreshold
  gestureThreshold := c.gestureThreshold

/-- What the threads take of the settings that `startListener` passes. -/
def Config.threadTimeouts (c : Config) : Timeouts where
  pollTimeout := c.pollTimeout
  gestureTimeout := c.gestureTimeout

theorem handlerParams_keymap (c : Config) (controller : ControllerId) :
    c.handlerParams.keymap controller = c.keymaps controller := by
  cases controller <;> rfl

/-! ### The driver -/

instance (accepted : UinputRequest → Bool) (requests : List UinputRequest) (e : InputEvent) :
    Decidable (Announced accepted requests e) :=
  match e with
  | ⟨.evSyn, _, _⟩ => isTrue trivial
  | ⟨.evRel, _, _⟩ => inferInstanceAs (Decidable (_ ∧ _))
  | ⟨.evKey, _, _⟩ => inferInstanceAs (Decidable (_ ∧ _))

/-- The driver passes on what has been announced. -/
def delivered (accepted : UinputRequest → Bool) (requests : List UinputRequest)
    (events : List InputEvent) : List InputEvent :=
  events.filter fun e => Announced accepted requests e

/-- It keeps all events of a key that uinput knows. -/
theorem delivered_keys {P : Params} {accepted : UinputRequest → Bool}
    (haxes : ∀ request, (∀ key, request ≠ .setKeyBit key) → accepted request = true)
    (hkeys : ∀ key, accepted (.setKeyBit key) = true ↔ 0 ≤ key ∧ key ≤ keyMax) {code : ℤ}
    (hcode : 0 ≤ code ∧ code ≤ keyMax) {events : List InputEvent}
    (hevents : ∀ e ∈ events, e.Foreseen P) :
    eventKeys code
        (delivered accepted (InputDevice.construct inputDeviceName (deviceKeys P)) events) =
      eventKeys code events := by
  rw [eventKeys, eventKeys, delivered, List.filterMap_filter]
  apply List.filterMap_congr
  intro e he
  by_cases hkey : e.type = .evKey ∧ e.code = code
  · have hannounced := (announced_foreseen haxes hkeys inputDeviceName (hevents e he)).mpr
      fun _ => hkey.2 ▸ hcode
    rw [if_pos (decide_eq_true hannounced)]
  · have hother : e.keyValue code = none := if_neg hkey
    rw [hother, ite_self]

/-- All events of a run are foreseen. -/
theorem run_foreseen (P : Params) (programs : ControllerId → List DeviceCall)
    (schedule : List ControllerId) :
    ∀ e ∈ writtenEvents (run (DeviceState.observe P) (.start programs) schedule).2,
      e.Foreseen P := by
  have hrun := run_history (DeviceState.observe P) (fun _ _ => True)
    (fun s log => (∀ c, (s.threads c).Foreseen P) ∧ ∀ e ∈ writtenEvents log, e.Foreseen P) ?_
    schedule (.start programs) [] ⟨fun c => foreseen_start P (programs c), fun e he => absurd he
      List.not_mem_nil⟩ (along_of_forall _ (fun _ _ => trivial) _ _)
  · exact hrun.2
  · rintro s log c - ⟨hthreads, hlog⟩
    obtain ⟨hnext, hout⟩ := step_foreseen P hthreads c
    refine ⟨hnext, ?_⟩
    intro e he
    rw [writtenEvents_append, writtenEvents_observe] at he
    rcases List.mem_append.mp he with he | he
    · exact hlog e he
    · obtain ⟨w, hw, rfl⟩ := List.mem_map.mp he
      exact hout w hw

/-! ### Without a gesture trigger -/

/-- The entries that a locked thread has left are entries of the key map it scans. -/
def DeviceThread.OwnEntries (P : Params) (t : DeviceThread) : Prop :=
  ∀ entries, t.entries = some entries → ∃ buttons controller pressed released i bits,
    t.thread.pc = .scan buttons controller pressed released (i :: bits) ∧
      ∀ entry ∈ entries, entry.1 ∈ P.keymap controller

/-- No release of gesture keys is deferred. -/
structure DeviceState.Untriggered (P : Params) (s : DeviceState) : Prop where
  release : s.handler.releaseGestureKeys = false
  entries : ∀ c, (s.threads c).OwnEntries P

theorem untriggered_start (P : Params) (programs : ControllerId → List DeviceCall) :
    (DeviceState.start programs).Untriggered P where
  release := rfl
  entries _ _ h := by cases h

/-- Such a state has no release to take. -/
theorem DeviceState.Untriggered.clean {P : Params} {s : DeviceState} (h : s.Untriggered P)
    (c : ControllerId) : s.Clean c := by
  rintro - - ⟨-, -, htaken⟩
  rw [h.release] at htaken
  exact Bool.false_ne_true htaken

/-- Only an entry for the trigger defers a release. -/
theorem reportEntry_release {P : Params} (hmap : P.useGestureTrigger = false)
    {controller : ControllerId} {entry : KeyMapEntry × ℕ} (hentry : entry.1 ∈ P.keymap controller)
    (button : Word) (pressed : Bool) (s : HandlerState) :
    (reportEntry button pressed controller s entry).1.releaseGestureKeys =
      s.releaseGestureKeys := by
  have htrigger : ¬(controller = .second ∧ entry.1.lincode = keyPsmoveGestureTrigger) := by
    rintro ⟨rfl, hcode⟩
    have hall := List.any_eq_false.mp hmap entry.1 hentry
    exact hall (beq_iff_eq.mpr hcode)
  rw [reportEntry]
  by_cases hbutton : entry.1.pscode = button
  · rw [if_pos hbutton]
    simp only [handleSpecialKeys]
    split_ifs <;> rfl
  · rw [if_neg hbutton]

theorem threadStep_release (P : Params) (s : HandlerState) {t : ThreadState}
    (hpc : ∀ buttons controller pressed released i bits,
      t.pc ≠ .scan buttons controller pressed released (i :: bits))
    (h : s.releaseGestureKeys = false) :
    (threadStep P s t).1.releaseGestureKeys = false := by
  cases ht : t.pc with
  | scan buttons controller pressed released bits =>
    cases bits with
    | nil =>
      simp only [threadStep, ht]
      exact h
    | cons i bits => exact absurd ht (hpc _ _ _ _ _ _)
  | clearRelease => simp only [threadStep, ht]
  | _ =>
    simp only [threadStep, ht]
    exact h

theorem DeviceMoves.untriggered {P : Params} {s : DeviceState} {c : ControllerId}
    {handler : HandlerState} {mutex : Option ControllerId} {t : DeviceThread}
    (h : DeviceMoves P s c handler mutex t) (hmap : P.useGestureTrigger = false)
    (hs : s.Untriggered P) : handler.releaseGestureKeys = false ∧ t.OwnEntries P := by
  have hmine := hs.entries c
  cases h with
  | locks buttons controller pressed released i bits _ _ _ _ hpc =>
    refine ⟨hs.release, ?_⟩
    intro entries heq
    obtain rfl := Option.some.inj heq
    refine ⟨_, _, _, _, _, _, hpc, ?_⟩
    intro entry hentry
    rw [iterationEntries] at hentry
    split_ifs at hentry
    · exact List.fst_mem_of_mem_zipIdx hentry
    · exact absurd hentry List.not_mem_nil
  | entry buttons controller pressed released i bits entry entries _ _ hentries hpc =>
    obtain ⟨_, controller', _, _, _, _, hpc', hown⟩ := hmine _ hentries
    obtain rfl : controller = controller' := by
      rw [hpc] at hpc'
      exact (Pc.scan.inj hpc').2.1
    constructor
    · rw [reportEntry_release hmap (hown entry List.mem_cons_self)]
      exact hs.release
    · intro entries' heq
      obtain rfl := Option.some.inj heq
      exact ⟨_, _, _, _, _, _, hpc, fun e he => hown e (List.mem_cons_of_mem entry he)⟩
  | unlocks => exact ⟨hs.release, fun entries heq => by cases heq⟩
  | request r calls _ _ hdone =>
    refine ⟨hs.release, ?_⟩
    intro entries heq
    obtain ⟨_, _, _, _, _, _, hpc, -⟩ := hmine entries heq
    rw [(done_iff.mp hdone).1] at hpc
    exact Pc.noConfusion hpc
  | statement _ _ hpc =>
    refine ⟨threadStep_release P s.handler hpc hs.release, ?_⟩
    intro entries heq
    obtain ⟨_, _, _, _, _, _, hscan, -⟩ := hmine entries heq
    exact absurd hscan (hpc _ _ _ _ _ _)
  | _ => exact ⟨hs.release, hmine⟩

/-- If no button of the second controller is mapped to the trigger, no release is ever deferred. -/
theorem step_untriggered {P : Params} (hmap : P.useGestureTrigger = false) {s : DeviceState}
    (hs : s.Untriggered P) (c : ControllerId) : (s.step P c).1.Untriggered P := by
  obtain ⟨handler, mutex, t, hmoves, hstep⟩ := device_moves P s c
  obtain ⟨hrelease, hentries⟩ := hmoves.untriggered hmap hs
  rw [hstep]
  refine ⟨hrelease, ?_⟩
  intro i
  by_cases hi : i = c
  · subst hi
    rw [stored_threads]
    exact hentries
  · rw [stored_other s hi]
    exact hs.entries i

theorem stateAt_untriggered {P : Params} (hmap : P.useGestureTrigger = false)
    (programs : ControllerId → List DeviceCall) (schedule : ℕ → ControllerId) (n : ℕ) :
    (stateAt (DeviceState.step P) schedule (.start programs) n).Untriggered P :=
  stateAt_stable (I := DeviceState.Untriggered P) (fun _ c hs => step_untriggered hmap hs c)
    (Nat.zero_le n) (untriggered_start P programs)

theorem stateAt_observe (P : Params) (schedule : ℕ → ControllerId) (s : DeviceState) (n : ℕ) :
    stateAt (DeviceState.observe P) schedule s n = stateAt (DeviceState.step P) schedule s n := by
  induction n with
  | zero => rfl
  | succ n ih =>
    rw [stateAt, stateAt, ih]
    rfl

/-! ### The options of the file -/

/-- The code of the key that the file gives to an option. -/
def KeyOption.key (keys : String → Option String) (o : KeyOption) : Option ℤ :=
  (keys o.name).bind fun optval => linmap.lookup (cStr optval)

/-- The last sample of the controller has the button of the option. -/
def KeyOption.Pressed (B : PSMoveButtons) (samples : ControllerId → List Sample)
    (o : KeyOption) : Prop :=
  holds (lastButtons (samples o.controller)) (o.pscode B) = true

instance (B : PSMoveButtons) (samples : ControllerId → List Sample) (o : KeyOption) :
    Decidable (o.Pressed B samples) :=
  inferInstanceAs (Decidable (_ = true))

theorem parse_fileKeyMap (B : PSMoveButtons) (env : Environment) (opts : CmdLine)
    (coeffs : MoveCoeffs) (conf : ConfFile) (hfile : Config.confFile env opts = some (.ok conf))
    (hok : (Config.parse B env (.ok opts) (.new env coeffs)).ok = true)
    (controller : ControllerId) :
    (Config.parse B env (.ok opts) (.new env coeffs)).keymaps controller =
      fileKeyMap B conf.keys controller := by
  obtain ⟨before, hbefore, hempty, hparse⟩ := parse_keyMaps B env opts coeffs conf hfile
  have hloop := storeKeyMaps_filter B conf.keys configOptions before
  rw [configOptions_keys] at hloop
  rw [hparse, hloop] at hok ⊢
  rw [storeKeyMaps_named B conf.keys keyOptions before
    ((storeKeyMaps_ok B conf.keys keyOptions before hbefore).mp hok), hempty]
  rfl

theorem fileKeyMap_of_key {B : PSMoveButtons} {keys : String → Option String} {o : KeyOption}
    {code : ℤ} (h : o.key keys = some code) :
    (⟨o.pscode B, code⟩ : KeyMapEntry) ∈ fileKeyMap B keys o.controller := by
  have hentry : o.entry B keys = some ⟨o.pscode B, code⟩ := congrArg (Option.map _) h
  apply List.mem_filterMap.mpr
  exact ⟨o, List.mem_filter.mpr ⟨mem_keyOptions o, decide_eq_true rfl⟩, hentry⟩

theorem key_of_fileKeyMap {B : PSMoveButtons} {keys : String → Option String}
    {controller : ControllerId} {e : KeyMapEntry} (h : e ∈ fileKeyMap B keys controller) :
    ∃ o : KeyOption, o.controller = controller ∧ o.key keys = some e.lincode ∧
      o.pscode B = e.pscode := by
  obtain ⟨o, hcontroller, hentry⟩ := mem_fileKeyMap h
  obtain ⟨code, hkey, rfl⟩ := Option.map_eq_some_iff.mp hentry
  exact ⟨o, hcontroller, hkey, rfl⟩

section

variable {B : PSMoveButtons} {keys : String → Option String} {P : Params}
variable (hP : ∀ controller, P.keymap controller = fileKeyMap B keys controller)

include hP

theorem heldBy_file (controller : ControllerId) (code : ℤ) (w : Word) :
    HeldBy (P.keymap controller) code w ↔
      ∃ o : KeyOption, o.controller = controller ∧ o.key keys = some code ∧
        holds w (o.pscode B) = true := by
  rw [hP]
  constructor
  · rintro ⟨e, he, rfl, hset⟩
    obtain ⟨o, hcontroller, hkey, hcode⟩ := key_of_fileKeyMap he
    rw [← hcode] at hset
    exact ⟨o, hcontroller, hkey, hset⟩
  · rintro ⟨o, rfl, hkey, hset⟩
    exact ⟨_, fileKeyMap_of_key hkey, rfl, hset⟩

theorem plainCode_file {code : ℤ} (h : ∀ d, (KeyOption.gesture d).key keys ≠ some code) :
    PlainCode P code := by
  intro controller e he hcode hgesture
  rw [hP] at he
  obtain ⟨o, -, hkey, hpscode⟩ := key_of_fileKeyMap he
  rw [hcode] at hkey
  rcases o with ⟨_, b⟩ | d
  · obtain ⟨j, hj, hbit⟩ := B.single b
    have hphysical : e.pscode = 1#32 <<< j := hpscode.symm.trans hbit
    rw [hphysical] at hgesture
    exact physical_bit hj hgesture
  · exact h d hkey

/-- Two entries of a key come from the same option, and no button has two entries. -/
theorem uniqueCode_file {code : ℤ}
    (h : ∀ o o' : KeyOption, o.key keys = some code → o'.key keys = some code → o = o') :
    UniqueCode P code := by
  intro c c' i i' e e' he he' hcode hcode'
  rw [hP] at he he'
  obtain ⟨o, rfl, hkey, hpscode⟩ := key_of_fileKeyMap (List.mem_of_getElem? he)
  obtain ⟨o', rfl, hkey', hpscode'⟩ := key_of_fileKeyMap (List.mem_of_getElem? he')
  rw [hcode] at hkey
  rw [hcode'] at hkey'
  obtain rfl := h o o' hkey hkey'
  have hindex {k : ℕ} {entry : KeyMapEntry}
      (hentry : (fileKeyMap B keys o.controller)[k]? = some entry)
      (hcode : o.pscode B = entry.pscode) :
      ((fileKeyMap B keys o.controller).map KeyMapEntry.pscode)[k]? = some (o.pscode B) := by
    rw [List.getElem?_map, hentry, hcode]
    rfl
  have hi := hindex he hpscode
  have hlt := (List.getElem?_eq_some_iff.mp hi).1
  have hsame := (List.getElem?_inj hlt (fileKeyMap_nodup B keys o.controller)).mp
    (hi.trans (hindex he' hpscode').symm)
  rw [hsame]

theorem untriggered_file (h : ∀ o : KeyOption, o.controller = .second →
    o.key keys ≠ some keyPsmoveGestureTrigger) : P.useGestureTrigger = false := by
  apply List.any_eq_false.mpr
  intro e he hcode
  have hmem : e ∈ P.keymap .second := he
  rw [hP] at hmem
  obtain ⟨o, hcontroller, hkey, -⟩ := key_of_fileKeyMap hmem
  rw [beq_iff_eq.mp hcode] at hkey
  exact h o hcontroller hkey

end

/-! ### The reader -/

/-- The calls that the threads make for the samples. -/
def Config.threadCalls (c : Config) (calibrated : ControllerId → Bool)
    (samples : ControllerId → List Sample) (controller : ControllerId) : List DeviceCall :=
  (slotThread c.threadTimeouts calibrated controller).deviceCalls (samples controller)

/-- What the driver has passed on after `k` steps. -/
def Config.readerEvents (c : Config) (accepted : UinputRequest → Bool)
    (programs : ControllerId → List DeviceCall) (schedule : ℕ → ControllerId) (k : ℕ) :
    List InputEvent :=
  delivered accepted (InputDevice.construct inputDeviceName (deviceKeys c.handlerParams))
    (writtenEvents (run (DeviceState.observe c.handlerParams) (.start programs)
      (inputs schedule k)).2)

/-- Once both threads have finished, the keys that the file gives to the pressed buttons are those
that the reader holds. -/
theorem finished_keys_file {B : PSMoveButtons} {keys : String → Option String} {P : Params}
    (hP : ∀ controller, P.keymap controller = fileKeyMap B keys controller)
    (hscan : ∀ controller, Scanned (P.keymap controller)) (T : Timeouts)
    (calibrated : ControllerId → Bool) {samples : ControllerId → List Sample}
    (hsamples : ∀ i, ∀ x ∈ samples i, x.buttons.toNat < 2 ^ 24) {schedule : List ControllerId}
    (hclean : Along (DeviceState.observe P) DeviceState.Clean
      (.start fun i => (slotThread T calibrated i).deviceCalls (samples i)) schedule)
    (hfinished : (run (DeviceState.observe P)
      (.start fun i => (slotThread T calibrated i).deviceCalls (samples i)) schedule).1.Finished)
    {code : ℤ} (hkey : code ≤ keyMax)
    (hgestures : ∀ d, (KeyOption.gesture d).key keys ≠ some code) :
    let down := readDown code (writtenEvents (run (DeviceState.observe P)
      (.start fun i => (slotThread T calibrated i).deviceCalls (samples i)) schedule).2)
    (down = true → ∃ o : KeyOption, o.key keys = some code ∧ o.Pressed B samples) ∧
      ((∀ o o' : KeyOption, o.key keys = some code → o'.key keys = some code → o = o') →
        (∃ o : KeyOption, o.key keys = some code ∧ o.Pressed B samples) → down = true) := by
  intro down
  have hprograms (i : ControllerId) : ∀ call ∈ (slotThread T calibrated i).deviceCalls (samples i),
      call.Belongs i := deviceCalls_belongs (slotThread T calibrated i) (samples i)
  obtain ⟨hflow, hseq⟩ := run_flowing P _ hprograms schedule hclean
  -- what a controller holds, in terms of the file
  have hheld (i : ControllerId) : HeldBy (P.keymap i) code
      (heldWord P i ((slotThread T calibrated i).deviceCalls (samples i))) ↔
        ∃ o : KeyOption, o.controller = i ∧ o.key keys = some code ∧
          holds (lastButtons (samples i)) (o.pscode B) = true := by
    rw [heldBy_sampled hscan T calibrated i (hsamples i) (plainCode_file hP hgestures),
      heldBy_file hP]
  constructor
  · intro h
    obtain ⟨i, hi⟩ := hflow.down_held hseq hprograms hfinished hscan hkey h
    obtain ⟨o, rfl, ho⟩ := (hheld i).mp hi
    exact ⟨o, ho⟩
  · rintro huniq ⟨o, hokey, hpressed⟩
    apply hflow.held_down hseq hprograms hfinished hscan hkey (uniqueCode_file hP huniq)
    exact ⟨o.controller, (hheld o.controller).mpr ⟨o, rfl, hokey, hpressed⟩⟩

/-- The first controller keeps its button pressed, the second one releases its own. -/
def crossSamples : ControllerId → List Sample
  | .first => [buttonSample 0x40#32]
  | .second => [buttonSample 0x40#32, buttonSample 0#32]

end PSMoveInput

import PSMoveInput.DeviceStream

/-! The constructor of `InputDevice` announces what the device can report. The two threads write
later on what has been announced, and keys that uinput has refused. -/
namespace PSMoveInput

open Transducer

/-! ### The constructor -/

def busBluetooth : ℕ := 0x05
def psmoveVendorId : ℕ := 0x054C
def psmoveProductId : ℕ := 0x03D5
def uinputMaxNameSize : ℕ := 80
def inputDeviceName : String := "psmoveinput"

/-- The fields of `uinput_user_dev` that are not zero. -/
structure UinputUserDev where
  name : String
  bustype : ℕ
  vendor : ℕ
  product : ℕ
  version : ℕ
  deriving DecidableEq, Repr

/-- What the constructor and the destructor ask of `/dev/uinput`. -/
inductive UinputRequest where
  | setEvBit (type : EventType)
  | setRelBit (axis : ℤ)
  | setKeyBit (key : ℤ)
  | write (device : UinputUserDev)
  | devCreate
  | devDestroy
  deriving DecidableEq, Repr

/-- The device is open. -/
def InputDevice.construct (devname : String) (keys : List ℤ) : List UinputRequest :=
  [.setEvBit .evRel, .setRelBit relX, .setRelBit relY, .setRelBit relWheel, .setEvBit .evKey] ++
    keys.map .setKeyBit ++
    -- `snprintf` leaves room for the terminating zero
    [.write ⟨(devname.take (uinputMaxNameSize - 1)).toString, busBluetooth, psmoveVendorId,
      psmoveProductId, 1⟩, .devCreate]

def InputDevice.destruct : List UinputRequest := [.devDestroy]

/-- The `deviceKeys` of `initDevice`. -/
def deviceKeys (P : Params) : List ℤ :=
  (P.keymap .first).map KeyMapEntry.lincode ++ (P.keymap .second).map KeyMapEntry.lincode

/-! ### Announcements -/

section Driver

-- whether `ioctl` returns without an error
variable (accepted : UinputRequest → Bool)

/-- The bits that are set when the device is created. -/
def announcements (requests : List UinputRequest) : List UinputRequest :=
  (requests.takeWhile fun request => request ≠ .devCreate).filter accepted

/-- The type and the code of the event are announced. `EV_SYN` needs no announcement. -/
def Announced (requests : List UinputRequest) (e : InputEvent) : Prop :=
  match e.type with
  | .evSyn => True
  | .evRel => .setEvBit .evRel ∈ announcements accepted requests ∧
      .setRelBit e.code ∈ announcements accepted requests
  | .evKey => .setEvBit .evKey ∈ announcements accepted requests ∧
      .setKeyBit e.code ∈ announcements accepted requests

end Driver

/-- The device has an axis or a key for the event. -/
def InputEvent.Foreseen (P : Params) (e : InputEvent) : Prop :=
  match e.type with
  | .evSyn => True
  | .evRel => e.code ∈ [relX, relY, relWheel]
  | .evKey => e.code ∈ deviceKeys P

/-- The requests before the device is created. -/
theorem announcements_construct (accepted : UinputRequest → Bool) (devname : String)
    (keys : List ℤ) {request : UinputRequest} (haccepted : accepted request = true)
    (hwrite : ∀ device, request ≠ .write device) :
    request ∈ announcements accepted (InputDevice.construct devname keys) ↔
      request = .setEvBit .evRel ∨ request = .setEvBit .evKey ∨
        (∃ axis ∈ [relX, relY, relWheel], request = .setRelBit axis) ∨
          ∃ key ∈ keys, request = .setKeyBit key := by
  have hkeys : ∀ r ∈ keys.map UinputRequest.setKeyBit, decide (r ≠ .devCreate) = true := by
    intro r hr
    obtain ⟨key, -, rfl⟩ := List.mem_map.mp hr
    exact decide_eq_true UinputRequest.noConfusion
  rw [announcements, InputDevice.construct, List.append_assoc, List.takeWhile_append_of_pos,
    List.takeWhile_append_of_pos hkeys]
  · simp only [List.takeWhile_cons, ne_eq, reduceCtorEq, not_false_eq_true, decide_true,
      ↓reduceIte, not_true_eq_false, decide_false, Bool.false_eq_true, List.mem_filter,
      List.mem_append, List.mem_cons, List.not_mem_nil, or_false, List.mem_map, haccepted,
      and_true, hwrite, exists_eq_or_imp, exists_eq_left, eq_comm]
    tauto
  · simp

/-- uinput knows the axes, and the keys up to `KEY_MAX`. -/
theorem announced_foreseen {P : Params} {accepted : UinputRequest → Bool}
    (haxes : ∀ request, (∀ key, request ≠ .setKeyBit key) → accepted request = true)
    (hkeys : ∀ key, accepted (.setKeyBit key) = true ↔ 0 ≤ key ∧ key ≤ keyMax)
    (devname : String) {e : InputEvent} (he : e.Foreseen P) :
    Announced accepted (InputDevice.construct devname (deviceKeys P)) e ↔
      (e.type = .evKey → 0 ≤ e.code ∧ e.code ≤ keyMax) := by
  have hmem {request : UinputRequest} (haccepted : accepted request = true)
      (hwrite : ∀ device, request ≠ .write device) :=
    announcements_construct accepted devname (deviceKeys P) haccepted hwrite
  have hev (type : EventType) : accepted (.setEvBit type) = true :=
    haxes _ fun _ => UinputRequest.noConfusion
  obtain ⟨type, code, value⟩ := e
  cases type with
  | evSyn => exact iff_of_true trivial fun h => EventType.noConfusion h
  | evRel =>
    apply iff_of_true _ fun h => EventType.noConfusion h
    constructor
    · apply (hmem (hev .evRel) fun _ => UinputRequest.noConfusion).mpr
      exact Or.inl rfl
    · have haxis : accepted (.setRelBit code) = true := haxes _ fun _ => UinputRequest.noConfusion
      apply (hmem haxis fun _ => UinputRequest.noConfusion).mpr
      exact Or.inr (Or.inr (Or.inl ⟨code, he, rfl⟩))
  | evKey =>
    constructor
    · rintro ⟨-, hkey⟩ -
      exact (hkeys code).mp (List.mem_filter.mp hkey).2
    · intro hrange
      constructor
      · apply (hmem (hev .evKey) fun _ => UinputRequest.noConfusion).mpr
        exact Or.inr (Or.inl rfl)
      · apply (hmem ((hkeys code).mpr (hrange rfl)) fun _ => UinputRequest.noConfusion).mpr
        exact Or.inr (Or.inr (Or.inr ⟨code, he, rfl⟩))

/-! ### What is written -/

/-- The reports are foreseen. -/
def AllForeseen (P : Params) (reports : List DeviceReport) : Prop :=
  ∀ report ∈ reports, ∀ e ∈ report.events, e.Foreseen P

theorem reportSyn_foreseen (P : Params) : ∀ e ∈ InputDevice.reportSyn, e.Foreseen P := by
  intro e he
  rw [List.mem_singleton.mp he]
  trivial

theorem move_foreseen (P : Params) {report : DeviceReport} (hmove : report.isMove = true) :
    ∀ e ∈ report.events, e.Foreseen P := by
  cases report with
  | move dx dy =>
    have haxis (d axis : ℤ) (haxis : axis ∈ [relX, relY, relWheel]) :
        ∀ e ∈ if d ≠ 0 then [(⟨.evRel, axis, d⟩ : InputEvent)] else [], e.Foreseen P := by
      intro e he
      split_ifs at he
      · rw [List.mem_singleton.mp he]
        exact haxis
      · exact absurd he List.not_mem_nil
    intro e he
    rcases List.mem_append.mp he with he | he
    · rcases List.mem_append.mp he with he | he
      · exact haxis dx relX (by simp) e he
      · exact haxis dy relY (by simp) e he
    · exact reportSyn_foreseen P e he
  | key code pressed => exact absurd hmove Bool.false_ne_true
  | mwheel value => exact absurd hmove Bool.false_ne_true

/-- An entry of a key map raises signals for its own key, or for the wheel. -/
theorem entry_foreseen {P : Params} {entry : KeyMapEntry × ℕ}
    (hkey : entry.1.lincode ∈ deviceKeys P) (button : Word) (pressed : Bool)
    (controller : ControllerId) (s : HandlerState) :
    AllForeseen P (deviceReports (reportEntry button pressed controller s entry).2) := by
  have hwheel (value : ℤ) : ∀ e ∈ (DeviceReport.mwheel value).events, e.Foreseen P := by
    intro e he
    rcases List.mem_append.mp he with he | he
    · rw [List.mem_singleton.mp he, InputEvent.Foreseen]
      simp
    · exact reportSyn_foreseen P e he
  have hreport : ∀ e ∈ (DeviceReport.key entry.1.lincode pressed).events, e.Foreseen P := by
    intro e he
    rcases List.mem_append.mp he with he | he
    · rw [List.mem_singleton.mp he]
      exact hkey
    · exact reportSyn_foreseen P e he
  rw [reportEntry_events, entryEvents]
  split_ifs
  · rw [entrySignals]
    split_ifs
    all_goals
      intro report hmem
      simp [deviceReports, signals, Event.signal?, Signal.report?] at hmem
      try subst hmem
    · exact hwheel 1
    · exact hwheel (-1)
    · exact hreport
  · exact fun report hmem => absurd hmem List.not_mem_nil

/-- The keys of the entries that an iteration goes through are keys of the device. -/
theorem iterationEntries_keys (P : Params) (controller : ControllerId) (pressed released i : Word) :
    ∀ entry ∈ iterationEntries P controller pressed released i,
      entry.1.lincode ∈ deviceKeys P := by
  intro entry hentry
  rw [iterationEntries] at hentry
  split_ifs at hentry
  · have hcode : entry.1.lincode ∈ (P.keymap controller).map KeyMapEntry.lincode :=
      List.mem_map_of_mem (List.fst_mem_of_mem_zipIdx hentry)
    cases controller with
    | first => exact List.mem_append_left _ hcode
    | second => exact List.mem_append_right _ hcode
  · exact absurd hentry List.not_mem_nil

/-- What a thread has still to report and to write is foreseen. -/
structure DeviceThread.Foreseen (P : Params) (t : DeviceThread) : Prop where
  queue : AllForeseen P t.queue
  left : ∀ w ∈ t.left, w.event.Foreseen P
  entries : ∀ entries, t.entries = some entries →
    ∀ entry ∈ entries, entry.1.lincode ∈ deviceKeys P

theorem foreseen_start (P : Params) (calls : List DeviceCall) :
    (DeviceThread.start calls).Foreseen P where
  queue _ h := absurd h List.not_mem_nil
  left _ h := absurd h List.not_mem_nil
  entries _ h := by cases h

/-- A step of the thread `c`. -/
theorem setThread_foreseen {P : Params} {s s' : DeviceState} (h : ∀ c, (s.threads c).Foreseen P)
    (hs : s'.threads = s.threads) (c : ControllerId) {t : DeviceThread} (ht : t.Foreseen P) :
    ∀ i, ((s'.setThread c t).threads i).Foreseen P := by
  intro i
  by_cases hi : i = c
  · subst hi
    simp only [DeviceState.setThread, Function.update_self]
    exact ht
  · simp only [DeviceState.setThread, Function.update_of_ne hi, hs]
    exact h i

theorem iterate_foreseen (P : Params) {s : DeviceState} (h : ∀ c, (s.threads c).Foreseen P)
    (c : ControllerId) (buttons : Word) (controller : ControllerId) (pressed released i : Word)
    (bits : List Word) :
    ∀ j, ((s.iterate P c buttons controller pressed released i bits).threads j).Foreseen P := by
  have ht := h c
  simp only [DeviceState.iterate]
  cases hentries : (s.threads c).entries with
  | none =>
    dsimp only
    split_ifs
    · refine setThread_foreseen h rfl c ⟨ht.queue, ht.left, ?_⟩
      intro entries heq
      rw [← Option.some.inj heq]
      exact iterationEntries_keys P controller pressed released i
    · exact h
  | some entries =>
    have hkeys := ht.entries entries hentries
    cases entries with
    | nil => exact setThread_foreseen h rfl c ⟨ht.queue, ht.left, fun _ hnone => by cases hnone⟩
    | cons entry entries =>
      refine setThread_foreseen h rfl c ⟨?_, ht.left, ?_⟩
      · exact entry_foreseen (hkeys entry List.mem_cons_self) i _ controller s.handler
      · intro entries' heq e he
        obtain rfl := Option.some.inj heq
        exact hkeys e (List.mem_cons_of_mem entry he)

theorem advance_foreseen (P : Params) {s : DeviceState} (h : ∀ c, (s.threads c).Foreseen P)
    (c : ControllerId) : ∀ j, ((s.advance P c).threads j).Foreseen P := by
  have ht := h c
  simp only [DeviceState.advance]
  split_ifs
  · cases (s.threads c).calls with
    | nil => exact h
    | cons call calls =>
      cases call with
      | request r => exact setThread_foreseen h rfl c ⟨ht.queue, ht.left, ht.entries⟩
      | onGyroscope clock gx gy =>
        refine setThread_foreseen h rfl c ⟨?_, ht.left, ht.entries⟩
        intro report hreport
        exact move_foreseen P (onGyroscope_reports P clock gx gy s.handler report hreport)
  · exact setThread_foreseen h rfl c ⟨ht.queue, ht.left, ht.entries⟩

theorem step_foreseen (P : Params) {s : DeviceState} (h : ∀ c, (s.threads c).Foreseen P)
    (c : ControllerId) :
    (∀ i, ((s.step P c).1.threads i).Foreseen P) ∧ ∀ w ∈ (s.step P c).2, w.event.Foreseen P := by
  have ht := h c
  have hsilent : ∀ w ∈ ([] : List Write), w.event.Foreseen P :=
    fun w hw => absurd hw List.not_mem_nil
  simp only [DeviceState.step]
  cases hleft : (s.threads c).left with
  | cons w left =>
    have hall := ht.left
    rw [hleft] at hall
    constructor
    · refine setThread_foreseen h rfl c ⟨ht.queue, ?_, ht.entries⟩
      exact fun v hv => hall v (List.mem_cons_of_mem w hv)
    · intro v hv
      rw [List.mem_singleton.mp hv]
      exact hall w List.mem_cons_self
  | nil =>
    cases hqueue : (s.threads c).queue with
    | cons report queue =>
      have hall := ht.queue
      rw [hqueue] at hall
      refine ⟨setThread_foreseen h rfl c ⟨?_, ?_, ht.entries⟩, hsilent⟩
      · exact fun r hr => hall r (List.mem_cons_of_mem report hr)
      · intro w hw
        obtain ⟨e, he, rfl⟩ := List.mem_map.mp hw
        exact hall report List.mem_cons_self e he
    | nil =>
      dsimp only
      split
      · exact ⟨iterate_foreseen P h c _ _ _ _ _ _, hsilent⟩
      · exact ⟨advance_foreseen P h c, hsilent⟩

/-- Of the events that the threads write in any order of steps, all are announced but those of keys
that uinput does not know. -/
theorem events_announced_iff (P : Params) (accepted : UinputRequest → Bool)
    (haxes : ∀ request, (∀ key, request ≠ .setKeyBit key) → accepted request = true)
    (hkeys : ∀ key, accepted (.setKeyBit key) = true ↔ 0 ≤ key ∧ key ≤ keyMax)
    (programs : ControllerId → List DeviceCall) (schedule : List ControllerId) :
    ∀ w ∈ (run (DeviceState.step P) (.start programs) schedule).2,
      Announced accepted (InputDevice.construct inputDeviceName (deviceKeys P)) w.event ↔
        (w.event.type = .evKey → 0 ≤ w.event.code ∧ w.event.code ≤ keyMax) := by
  intro w hw
  apply announced_foreseen haxes hkeys
  have hrun := run_history (DeviceState.step P) (fun _ _ => True)
    (fun s log => (∀ c, (s.threads c).Foreseen P) ∧ ∀ w ∈ log, w.event.Foreseen P) ?_ schedule
    (.start programs) [] ⟨fun c => foreseen_start P (programs c), fun w hw => absurd hw
      List.not_mem_nil⟩ (along_of_forall _ (fun _ _ => trivial) _ _)
  · exact hrun.2 w hw
  · rintro s log c - ⟨hthreads, hlog⟩
    obtain ⟨hnext, hout⟩ := step_foreseen P hthreads c
    refine ⟨hnext, ?_⟩
    intro v hv
    rcases List.mem_append.mp hv with hv | hv
    · exact hlog v hv
    · exact hout v hv

/-- uinput refuses keys from `KEY_MAX + 1` on. -/
def uinputAccepts : UinputRequest → Bool
  | .setKeyBit key => decide (0 ≤ key ∧ key ≤ keyMax)
  | _ => true

/-- A key and the wheel on one button. -/
def wheelKeyParams : Params where
  keymap1 := []
  keymap2 := [⟨0x40#32, 45⟩, ⟨0x40#32, keyPsmoveMwheelUp⟩]
  cx := 1
  cy := 1
  moveThreshold := 0
  gestureThreshold := 0

/-- The button is pressed and released. -/
def pressPrograms : ControllerId → List DeviceCall
  | .first => []
  | .second => [
      .request (.onButtons (fun _ => ⟨1, 500000000⟩) 0x40#32 .second),
      .request (.onButtons (fun _ => ⟨1, 600000000⟩) 0#32 .second)]

/-- The release of the wheel button is written as the release of a key that uinput does not know. -/
theorem events_announced_iff_wheel :
    let log := (run (DeviceState.step wheelKeyParams) (.start pressPrograms)
      (List.replicate 230 .second)).2
    (log.map Write.event).filter (fun e => !e.isSyn) =
        [⟨.evKey, 45, 1⟩, ⟨.evRel, relWheel, 1⟩, ⟨.evKey, 45, 0⟩, ⟨.evKey, keyPsmoveMwheelUp, 0⟩] ∧
      ∀ w ∈ log,
        Announced uinputAccepts (InputDevice.construct inputDeviceName (deviceKeys wheelKeyParams))
            w.event ↔
          (w.event.type = .evKey → 0 ≤ w.event.code ∧ w.event.code ≤ keyMax) := by
  intro log
  refine ⟨by decide +kernel, ?_⟩
  apply events_announced_iff wheelKeyParams uinputAccepts
  · intro request hrequest
    cases request with
    | setKeyBit key => exact absurd rfl (hrequest key)
    | _ => rfl
  · exact fun key => decide_eq_true_iff

end PSMoveInput

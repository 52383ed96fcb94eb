import Mathlib.Algebra.BigOperators.Group.List.Basic
import Mathlib.Data.Bool.Count
import PSMoveInput.KeyLevels

/-! The keys that psmoveinput handles itself, counted over whole runs: which reports let an
internal code through to the input device, and which reports ask for a disconnect. -/
namespace PSMoveInput

open Transducer EdgeTrace

/-! ### Internal codes on the key signal -/

/-- The internal codes that `handleSpecialKeys` passes on, for a controller and a direction. -/
def Leaks (code : ℤ) (controller : ControllerId) (pressed : Bool) : Prop :=
  (controller = .first ∧ code = keyPsmoveGestureTrigger) ∨
    (controller = .second ∧ code = keyPsmoveMoveTrigger) ∨
    (pressed = false ∧ (code = keyPsmoveMwheelUp ∨ code = keyPsmoveMwheelDown))

/-- The report changes a button to a direction in which its internal code is passed on. -/
def Report.leaks (P : Params) (r : Report) : Prop :=
  ∃ e ∈ P.keymap r.controller, e.pscode ∈ scanBits ∧
    holds r.before e.pscode ≠ holds r.after e.pscode ∧
    Leaks e.lincode r.controller (holds r.after e.pscode)

theorem entrySignals_leak {lincode : ℤ} (hvalid : lincode ≤ keyMax ∨ lincode ∈ specialKeys)
    (controller : ControllerId) (pressed : Bool) :
    (∀ code b, .key code b ∈ entrySignals lincode controller pressed → code ≤ keyMax) ↔
      ¬Leaks lincode controller pressed := by
  rcases hvalid with hkey | hspecial
  · -- an ordinary key
    obtain ⟨hd, hm, hg, hu, hn⟩ := ordinary_ne hkey
    rw [entrySignals_ordinary hkey]
    simp only [List.mem_singleton, Signal.key.injEq, Leaks, hg, hm, hu, hn, and_false, or_self,
      not_false_eq_true, iff_true]
    intro code b hsame
    rw [hsame.1]
    exact hkey
  · -- one of the five internal codes, on either controller, in either direction
    simp only [specialKeys, List.mem_cons, List.not_mem_nil, or_false] at hspecial
    rcases hspecial with rfl | rfl | rfl | rfl | rfl <;> cases controller <;> cases pressed <;>
      simp [entrySignals, Leaks, keyPsmoveDisconnect, keyPsmoveMoveTrigger,
        keyPsmoveGestureTrigger, keyPsmoveMwheelUp, keyPsmoveMwheelDown, keyMax]

/-- Every key signal carries a code that Linux knows. -/
def KeysOrdinary (es : List Event) : Prop :=
  ∀ code pressed, .key code pressed ∈ signals es → code ≤ keyMax

theorem keysOrdinary_append (es fs : List Event) :
    KeysOrdinary (es ++ fs) ↔ KeysOrdinary es ∧ KeysOrdinary fs := by
  simp only [KeysOrdinary]
  simp only [signals_append, List.mem_append]
  constructor
  · intro h
    exact ⟨fun code b hmem => h code b (Or.inl hmem), fun code b hmem => h code b (Or.inr hmem)⟩
  · intro h code b hmem
    rcases hmem with hmem | hmem
    · exact h.1 code b hmem
    · exact h.2 code b hmem

theorem keysOrdinary_report (P : Params) (hvalid : ∀ c, ∀ e ∈ P.keymap c, EntryValid e)
    (c : ControllerId) (before after : Word) :
    KeysOrdinary (.report c before after :: transitionEvents P c before after) ↔
      ¬Report.leaks P ⟨c, before, after⟩ := by
  constructor
  · intro h hleaks
    obtain ⟨e, he, hscan, hchange, hleak⟩ := hleaks
    obtain ⟨index, hindex⟩ := List.mem_iff_getElem?.mp he
    -- the signals of this entry are among those of the report
    have hordinary : ∀ code b, .key code b ∈ entrySignals e.lincode c (holds after e.pscode) →
        code ≤ keyMax := by
      intro code b hmem
      have hevent : Event.signal (some (c, index)) (.key code b) ∈
          transitionEvents P c before after :=
        mem_transitionEvents.mpr ⟨e, index, hindex, hscan, hchange, _, hmem, rfl⟩
      apply h code b
      apply List.mem_filterMap.mpr
      exact ⟨_, List.mem_cons_of_mem _ hevent, rfl⟩
    exact (entrySignals_leak (hvalid c e he).2 c _).mp hordinary hleak
  · intro h code b hmem
    obtain ⟨ev, hev, hsig⟩ := List.mem_filterMap.mp hmem
    rcases List.mem_cons.mp hev with rfl | hev
    · cases hsig
    obtain ⟨e, index, hindex, hscan, hchange, sig, hsig', rfl⟩ := mem_transitionEvents.mp hev
    obtain rfl : sig = .key code b := Option.some.inj hsig
    have he := List.mem_of_getElem? hindex
    have hsafe : ¬Leaks e.lincode c (holds after e.pscode) := by
      intro hleak
      exact h ⟨e, he, hscan, hchange, hleak⟩
    exact (entrySignals_leak (hvalid c e he).2 c _).mpr hsafe code b hsig'

/-- Neither key map has a code that its controller passes on. -/
def NoLeakingCode (P : Params) : Prop :=
  ∀ c, ∀ e ∈ P.keymap c, ∀ pressed, ¬Leaks e.lincode c pressed

theorem ConfigAccepts.entryValid {B : PSMoveButtons} {P : Params}
    (h : ConfigAccepts B P.keymap1 P.keymap2) (c : ControllerId) :
    ∀ e ∈ P.keymap c, EntryValid e := by
  cases c
  · exact h.valid.1
  · exact h.valid.2

/-- A report that only presses buttons leaves no deferred release. -/
theorem reportButtons_press_idle (P : Params) (w : Word) (c : ControllerId) (s : HandlerState)
    (hzero : s.buttons c = 0#32) (hidle : s.releaseGestureKeys = false) :
    (reportButtons P w c s).1.releaseGestureKeys = false := by
  simp only [reportButtons]
  split_ifs
  · refine scan_invariant P c (s.buttons c) w (fun t => t.releaseGestureKeys = false) ?_ s hidle
    intro t e _ i _ hchange ht
    have hup : holds w i = true := by
      rw [hzero, holds_zero] at hchange
      exact eq_true_of_ne_false (Ne.symm hchange)
    rw [hup]
    simp only [handleSpecialKeys]
    split_ifs <;> simp_all
  · exact hidle

/-- Press and release of one button on a new handler. -/
def pressRelease (w : Word) (c : ControllerId) : List Call :=
  [.onButtons (fun _ => ⟨0, 0⟩) w c, .onButtons (fun _ => ⟨0, 0⟩) 0#32 c]

theorem pressRelease_reports (P : Params) (w : Word) (c : ControllerId) :
    ⟨c, 0#32, w⟩ ∈ reports (runCalls P .init (pressRelease w c)).2 ∧
      ⟨c, w, 0#32⟩ ∈ reports (runCalls P .init (pressRelease w c)).2 := by
  -- the press makes no nested call
  have hfirst : onButtons P (fun _ => ⟨0, 0⟩) w c .init =
      ((reportButtons P w c .init).1, reportOut P w c .init) := by
    rw [onButtons_eq, if_neg]
    rw [reportButtons_press_idle P w c .init rfl rfl]
    exact Bool.false_ne_true
  -- every call begins with its own report
  have hhead (clock : Clock) (b : Word) (s : HandlerState) :
      ⟨c, s.buttons c, b⟩ ∈ reports (onButtons P clock b c s).2 := by
    rw [onButtons_eq]
    split_ifs
    · dsimp only
      rw [reports_append]
      exact List.mem_append_left _ List.mem_cons_self
    · exact List.mem_cons_self
  have hword : (reportButtons P w c .init).1.buttons c = w := by
    rw [reportButtons_buttons, Function.update_self]
  simp only [runCalls, pressRelease, run_cons_snd, run_nil, List.append_nil, step,
    reports_append, List.mem_append]
  constructor
  · exact Or.inl (hhead _ w .init)
  · have hsecond := hhead (fun _ => ⟨0, 0⟩) 0#32 (reportButtons P w c .init).1
    rw [hword] at hsecond
    rw [hfirst]
    exact Or.inr hsecond

/-- An internal code reaches the key signal in a run exactly when a report of the run changes a
button to a direction in which its code is passed on. No run does so exactly when neither key
map has such a code. -/
theorem internal_codes_consumed_iff (B : PSMoveButtons) (P : Params)
    (haccept : ConfigAccepts B P.keymap1 P.keymap2) :
    (∀ calls, KeysOrdinary (runCalls P .init calls).2 ↔
      ∀ r ∈ reports (runCalls P .init calls).2, ¬r.leaks P) ∧
    ((∀ calls, KeysOrdinary (runCalls P .init calls).2) ↔ NoLeakingCode P) := by
  have hrun (calls : List Call) : KeysOrdinary (runCalls P .init calls).2 ↔
      ∀ r ∈ reports (runCalls P .init calls).2, ¬r.leaks P := by
    apply runCalls_events P (fun es => KeysOrdinary es ↔ ∀ r ∈ reports es, ¬r.leaks P)
    · exact iff_of_true (fun _ _ h => absurd h List.not_mem_nil) (fun _ h => absurd h List.not_mem_nil)
    · intro dx dy
      refine iff_of_true ?_ (fun _ h => absurd h List.not_mem_nil)
      intro code b hmem
      exact absurd hmem (by simp [signals, Event.signal?])
    · intro c before after
      rw [keysOrdinary_report P haccept.entryValid, reports_report]
      simp only [List.mem_singleton, forall_eq]
    · intro es fs hes hfs
      rw [keysOrdinary_append, hes, hfs, reports_append]
      simp only [List.mem_append, or_imp, forall_and]
  refine ⟨hrun, ?_⟩
  constructor
  · -- a code that is passed on in some direction shows in the run of one press and release
    intro hall c e he pressed hleak
    have hscan : e.pscode ∈ scanBits := (haccept.entryValid c e he).1
    obtain ⟨j, hj, hcode, hbit⟩ := holds_scan hscan
    have hset : holds e.pscode e.pscode = true := by
      rw [hbit, hcode]
      simp [show j < 32 by omega]
    have hclean := (hrun (pressRelease e.pscode c)).mp (hall _)
    obtain ⟨hpress, hrelease⟩ := pressRelease_reports P e.pscode c
    cases pressed with
    | true =>
      refine hclean _ hpress ⟨e, he, hscan, ?_, ?_⟩
      · simp only [holds_zero, hset, ne_eq, Bool.false_eq_true, not_false_eq_true]
      · rwa [hset]
    | false =>
      refine hclean _ hrelease ⟨e, he, hscan, ?_, ?_⟩
      · simp only [holds_zero, hset, ne_eq, Bool.true_eq_false, not_false_eq_true]
      · rwa [holds_zero]
  · intro hclean calls
    apply (hrun calls).mpr
    intro r _ hleaks
    obtain ⟨e, he, _, _, hleak⟩ := hleaks
    exact hclean r.controller e he _ hleak

/-- A button of the first controller turns the mouse wheel. -/
def wheelParams : Params where
  keymap1 := [⟨0x40#32, keyPsmoveMwheelUp⟩]
  keymap2 := []
  cx := 1
  cy := 1
  moveThreshold := 0
  gestureThreshold := 100

theorem wheelParams_accepted :
    ConfigAccepts psmoveButtons wheelParams.keymap1 wheelParams.keymap2 :=
  ⟨fun name => if name = "PSBTN_CROSS" then some "MWHEEL_UP" else none, by decide +kernel⟩

theorem internal_codes_consumed_wheel :
    (∀ calls, KeysOrdinary (runCalls wheelParams .init calls).2 ↔
      ∀ r ∈ reports (runCalls wheelParams .init calls).2, ¬r.leaks wheelParams) ∧
    ((∀ calls, KeysOrdinary (runCalls wheelParams .init calls).2) ↔ NoLeakingCode wheelParams) :=
  internal_codes_consumed_iff psmoveButtons wheelParams wheelParams_accepted

/-- The release of a wheel button is sent as a key. -/
theorem wheel_release_emitted :
    ConfigAccepts psmoveButtons wheelParams.keymap1 wheelParams.keymap2 ∧
      ¬KeysOrdinary (runCalls wheelParams .init (pressRelease 0x40#32 .first)).2 := by
  refine ⟨wheelParams_accepted, fun h => ?_⟩
  have hcode := h keyPsmoveMwheelUp false (by decide +kernel)
  exact absurd hcode (by decide)

/-! ### Disconnect requests -/

/-- The presses among the changes of a report, for the buttons mapped to a code. Each entry of
the key map counts whose bit the handler scans; the others signal nothing. -/
def pressCount (keymap : KeyMap) (code : ℤ) (before after : Word) : ℕ :=
  keymap.countP fun e => e.lincode = code ∧ e.pscode ∈ scanBits ∧
    holds before e.pscode = false ∧ holds after e.pscode = true

def releaseCount (keymap : KeyMap) (code : ℤ) (before after : Word) : ℕ :=
  keymap.countP fun e => e.lincode = code ∧ e.pscode ∈ scanBits ∧
    holds before e.pscode = true ∧ holds after e.pscode = false

/-- The number of disconnect requests for a controller. -/
def disconnects (controller : ControllerId) (es : List Event) : ℕ :=
  (signals es).count (.disconnect controller)

/-- The sum of a count over the reports of one controller. -/
def sumReports (f : Word → Word → ℕ) (controller : ControllerId) (es : List Event) : ℕ :=
  ((reports es).map fun r => if r.controller = controller then f r.before r.after else 0).sum

theorem codeEdges_cons (e : KeyMapEntry) (keymap : KeyMap) (code : ℤ) (before after : Word)
    (b : Bool) :
    (codeEdges (e :: keymap) code before after).count b =
      (codeEdges [e] code before after).count b + (codeEdges keymap code before after).count b := by
  simp only [codeEdges]
  rw [List.count_flatMap, List.count_flatMap, List.count_flatMap, ← List.sum_map_add]
  apply congrArg
  apply List.map_congr_left
  intro i _
  simp only [Function.comp_apply]
  split_ifs
  · rfl
  · rw [List.flatMap_cons, List.count_append, List.flatMap_singleton]

theorem codeEdges_single (e : KeyMapEntry) (code : ℤ) (before after : Word) :
    codeEdges [e] code before after =
      if e.lincode = code ∧ e.pscode ∈ scanBits ∧ holds before e.pscode ≠ holds after e.pscode
        then [holds after e.pscode] else [] := by
  by_cases hscan : e.pscode ∈ scanBits
  · simp only [codeEdges]
    rw [flatMap_single scanBits_nodup hscan]
    · by_cases hsame : holds before e.pscode = holds after e.pscode <;>
        by_cases hcode : e.lincode = code <;> simp [hsame, hcode, hscan]
    · intro i _ hi
      simp [Ne.symm hi]
  · -- a button outside the bit loop is never reported
    rw [if_neg (fun h => hscan h.2.1)]
    apply List.flatMap_eq_nil_iff.mpr
    intro i hi
    have hne : e.pscode ≠ i := fun h => hscan (h ▸ hi)
    simp [hne]

/-- The changes of a code in a report are its presses and its releases. -/
theorem codeEdges_count (keymap : KeyMap) (code : ℤ) (before after : Word) :
    (codeEdges keymap code before after).count true = pressCount keymap code before after ∧
      (codeEdges keymap code before after).count false = releaseCount keymap code before after := by
  induction keymap with
  | nil =>
    have hnil : codeEdges [] code before after = [] := by
      apply List.flatMap_eq_nil_iff.mpr
      intro i _
      split_ifs <;> rfl
    rw [hnil]
    exact ⟨rfl, rfl⟩
  | cons e keymap ih =>
    rw [codeEdges_cons e keymap, codeEdges_cons e keymap, ih.1, ih.2, codeEdges_single]
    simp only [pressCount, releaseCount]
    rw [List.countP_cons, List.countP_cons]
    by_cases hcode : e.lincode = code <;> by_cases hscan : e.pscode ∈ scanBits <;>
      cases hb : holds before e.pscode <;> cases ha : holds after e.pscode <;>
      simp [hcode, hscan, Nat.add_comm]

theorem disconnects_append (c : ControllerId) (es fs : List Event) :
    disconnects c (es ++ fs) = disconnects c es + disconnects c fs := by
  simp only [disconnects]
  rw [signals_append, List.count_append]

theorem sumReports_append (f : Word → Word → ℕ) (c : ControllerId) (es fs : List Event) :
    sumReports f c (es ++ fs) = sumReports f c es + sumReports f c fs := by
  simp only [sumReports]
  rw [reports_append, List.map_append, List.sum_append]

def disconnectMark (controller : ControllerId) (ev : Event) : Option Unit :=
  if ev.signal? = some (.disconnect controller) then some () else none

theorem disconnects_eq_length (c : ControllerId) (es : List Event) :
    disconnects c es = (es.filterMap (disconnectMark c)).length := by
  simp only [disconnects, signals]
  rw [List.count_filterMap, List.length_filterMap_eq_countP]
  apply List.countP_congr
  intro ev _
  simp only [disconnectMark]
  split_ifs with h <;> simp [h]

theorem disconnectMark_entry (c : ControllerId) (i : Word) (pressed : Bool)
    (entry : KeyMapEntry × ℕ) :
    (entryEvents c i pressed entry).filterMap (disconnectMark c) =
      if entry.1.pscode = i ∧ entry.1.lincode = keyPsmoveDisconnect then [()] else [] := by
  simp only [entryEvents, entrySignals]
  by_cases hi : entry.1.pscode = i
  · by_cases hcode : entry.1.lincode = keyPsmoveDisconnect
    · simp [hi, hcode, disconnectMark, Event.signal?]
    · simp only [hi, hcode, ↓reduceIte, and_false]
      split_ifs <;> simp [disconnectMark, Event.signal?]
  · simp [hi]

theorem disconnectMark_other {c c' : ControllerId} (hc : c' ≠ c) (i : Word) (pressed : Bool)
    (entry : KeyMapEntry × ℕ) :
    (entryEvents c' i pressed entry).filterMap (disconnectMark c) = [] := by
  simp only [entryEvents, entrySignals]
  split_ifs <;> simp [disconnectMark, Event.signal?, hc]

/-- A report asks for a disconnect at every change of a button of `disconnect`, in either
direction, and for its own controller only. -/
theorem disconnects_report (P : Params) (c c' : ControllerId) (before after : Word) :
    disconnects c (.report c' before after :: transitionEvents P c' before after) =
      if c' = c then
        pressCount (P.keymap c) keyPsmoveDisconnect before after +
          releaseCount (P.keymap c) keyPsmoveDisconnect before after
      else 0 := by
  have hskip : disconnects c (.report c' before after :: transitionEvents P c' before after) =
      disconnects c (transitionEvents P c' before after) := rfl
  rw [hskip, disconnects_eq_length]
  split_ifs with hc
  · subst hc
    obtain ⟨hpress, hrelease⟩ := codeEdges_count (P.keymap c') keyPsmoveDisconnect before after
    have hmarks := filterMap_transition P keyPsmoveDisconnect c' (disconnectMark c') (fun _ => ())
      (disconnectMark_entry c') before after
    calc
      ((transitionEvents P c' before after).filterMap (disconnectMark c')).length =
          (codeEdges (P.keymap c') keyPsmoveDisconnect before after).length := by
        rw [hmarks, List.length_map]
      _ = (codeEdges (P.keymap c') keyPsmoveDisconnect before after).count true +
          (codeEdges (P.keymap c') keyPsmoveDisconnect before after).count false :=
        (List.count_true_add_count_false _).symm
      _ = pressCount (P.keymap c') keyPsmoveDisconnect before after +
          releaseCount (P.keymap c') keyPsmoveDisconnect before after := by
        rw [hpress, hrelease]
  · -- the signals of a report carry its own controller
    rw [List.length_eq_zero_iff, List.filterMap_eq_nil_iff]
    intro ev hev
    unfold transitionEvents at hev
    obtain ⟨i, _, hev⟩ := List.mem_flatMap.mp hev
    split_ifs at hev
    · exact absurd hev List.not_mem_nil
    obtain ⟨entry, _, hev⟩ := List.mem_flatMap.mp hev
    exact List.filterMap_eq_nil_iff.mp (disconnectMark_other hc i _ entry) ev hev

/-- Disconnect requests are counted by the presses of scanned bits, in a run and in a single report,
exactly when no report releases a scanned bit of `disconnect`. -/
theorem disconnect_per_press_iff (P : Params) :
    (∀ calls, (∀ c, disconnects c (runCalls P .init calls).2 =
        sumReports (pressCount (P.keymap c) keyPsmoveDisconnect) c (runCalls P .init calls).2) ↔
      ∀ r ∈ reports (runCalls P .init calls).2,
        releaseCount (P.keymap r.controller) keyPsmoveDisconnect r.before r.after = 0) ∧
    (∀ s buttons c, (∀ c', disconnects c' (reportOut P buttons c s) =
        if c = c' then pressCount (P.keymap c) keyPsmoveDisconnect (s.buttons c) buttons else 0) ↔
      releaseCount (P.keymap c) keyPsmoveDisconnect (s.buttons c) buttons = 0) := by
  constructor
  · intro calls
    -- requests = presses + releases, over any run
    have hsum (c : ControllerId) : disconnects c (runCalls P .init calls).2 =
        sumReports (pressCount (P.keymap c) keyPsmoveDisconnect) c (runCalls P .init calls).2 +
          sumReports (releaseCount (P.keymap c) keyPsmoveDisconnect) c
            (runCalls P .init calls).2 := by
      apply runCalls_events P (fun es => disconnects c es =
        sumReports (pressCount (P.keymap c) keyPsmoveDisconnect) c es +
          sumReports (releaseCount (P.keymap c) keyPsmoveDisconnect) c es)
      · rfl
      · intro dx dy
        rfl
      · intro c' before after
        rw [disconnects_report]
        simp only [sumReports]
        rw [reports_report]
        by_cases hc : c' = c <;> simp [hc]
      · intro es fs hes hfs
        rw [disconnects_append, sumReports_append, sumReports_append, hes, hfs]
        omega
    simp only [hsum, Nat.add_eq_left]
    simp only [sumReports]
    simp only [List.sum_eq_zero_iff_forall_eq_nat, List.mem_map]
    constructor
    · intro h r hr
      have hzero := h r.controller _ ⟨r, hr, rfl⟩
      rwa [if_pos rfl] at hzero
    · intro h c n hn
      obtain ⟨r, hr, rfl⟩ := hn
      split_ifs with hc
      · rw [← hc]
        exact h r hr
      · rfl
  · intro s buttons c
    simp only [reportOut]
    rw [reportButtons_events]
    simp only [disconnects_report]
    constructor
    · intro h
      have hc := h c
      simp only [↓reduceIte] at hc
      omega
    · intro h c'
      by_cases hc : c = c'
      · subst hc
        simp only [↓reduceIte, h, Nat.add_zero]
      · simp only [hc, ↓reduceIte]

/-- The first controller's PS button is mapped to `disconnect`. -/
def disconnectParams : Params where
  keymap1 := [⟨0x10000#32, keyPsmoveDisconnect⟩]
  keymap2 := []
  cx := 1
  cy := 1
  moveThreshold := 0
  gestureThreshold := 100

/-- One press and its release ask for two disconnects. -/
theorem disconnect_on_release :
    ¬∀ c, disconnects c (runCalls disconnectParams .init (pressRelease 0x10000#32 .first)).2 =
      sumReports (pressCount (disconnectParams.keymap c) keyPsmoveDisconnect) c
        (runCalls disconnectParams .init (pressRelease 0x10000#32 .first)).2 := by
  intro h
  have hfirst := h .first
  exact absurd hfirst (by decide +kernel)

end PSMoveInput

import PSMoveInput.HandlerCalls

/-! The handler as a sequence of button reports: every run without a reset is a sequence of
changes of the two stored words, and its signals are those of the changes.
Nested calls appear as further reports. -/
namespace PSMoveInput

open Transducer EdgeTrace

/-- `ReportTrace P w es w'`: the events `es` take the stored words from `w` to `w'`. -/
inductive ReportTrace (P : Params) :
    (ControllerId → Word) → List Event → (ControllerId → Word) → Prop
  | nil (w : ControllerId → Word) : ReportTrace P w [] w
  | move (w : ControllerId → Word) (dx dy : ℤ) :
      ReportTrace P w [.signal none (.move dx dy)] w
  | report (w : ControllerId → Word) (controller : ControllerId) (after : Word) :
      ReportTrace P w
        (.report controller (w controller) after ::
          transitionEvents P controller (w controller) after)
        (Function.update w controller after)
  | append {w w' w'' : ControllerId → Word} {es fs : List Event} :
      ReportTrace P w es w' → ReportTrace P w' fs w'' → ReportTrace P w (es ++ fs) w''

theorem reportButtons_buttons (P : Params) (buttons : Word) (controller : ControllerId)
    (s : HandlerState) :
    (reportButtons P buttons controller s).1.buttons =
      Function.update s.buttons controller buttons := by
  cases controller
  · rw [reportButtons_first]
  · rw [reportButtons_second]

theorem reportButtons_trace (P : Params) (buttons : Word) (controller : ControllerId)
    (s : HandlerState) :
    ReportTrace P s.buttons (reportOut P buttons controller s)
      (reportButtons P buttons controller s).1.buttons := by
  simp only [reportOut]
  rw [reportButtons_events, reportButtons_buttons]
  exact .report s.buttons controller buttons

theorem reportTrace_rule (P : Params) :
    CallRule P fun s es t => ReportTrace P s.buttons es t.buttons where
  trans := .append
  clear _ := .nil _
  time _ _ := .nil _
  gesture s tp gx gy _ := reportButtons_trace P (gestureReport P tp gx gy s) .second s

theorem onGyroscope_trace (P : Params) (clock : Clock) (gx gy : ℤ) (s : HandlerState) :
    ReportTrace P s.buttons (onGyroscope P clock gx gy s).2
      (onGyroscope P clock gx gy s).1.buttons := by
  rw [onGyroscope]
  dsimp only
  -- one branch emits a movement, the others nothing
  split_ifs
  · exact .move _ _ _
  all_goals exact .nil _

def Call.isReset : Call → Bool
  | .reset => true
  | _ => false

theorem step_trace (P : Params) (call : Call) (hcall : call.isReset = false) (s : HandlerState) :
    ReportTrace P s.buttons (step P s call).2 (step P s call).1.buttons := by
  cases call with
  | onButtons clock buttons controller =>
    have hreport := reportButtons_trace P buttons controller s
    exact (reportTrace_rule P).onButtons clock hreport
  | onGyroscope clock gx gy => exact onGyroscope_trace P clock gx gy s
  | onGesture clock gx gy => exact (reportTrace_rule P).onGesture clock gx gy s
  | reset => exact absurd hcall (by decide)

/-- The handler refines the sequence of reports. -/
theorem runCalls_trace (P : Params) (calls : List Call)
    (hcalls : ∀ call ∈ calls, call.isReset = false) (s : HandlerState) :
    ReportTrace P s.buttons (runCalls P s calls).2 (runCalls P s calls).1.buttons :=
  have hstep : ∀ s, ∀ call ∈ calls, True →
      ReportTrace P s.buttons (step P s call).2 (step P s call).1.buttons :=
    fun s call hc _ => step_trace P call (hcalls call hc) s
  run_trace (step P) (fun _ => True) (fun s es t => ReportTrace P s.buttons es t.buttons)
    (fun _ => .nil _) (fun _ _ _ _ _ => .append) calls (fun _ _ _ _ => trivial) hstep s trivial

/-! ### Reports of a run -/

structure Report where
  controller : ControllerId
  before : Word
  after : Word

def Event.report? : Event → Option Report
  | .report controller before after => some ⟨controller, before, after⟩
  | .signal _ _ => none

/-- Every execution of `onButtons`, with the stored and the reported word. -/
def reports (es : List Event) : List Report := es.filterMap Event.report?

theorem reports_append (es fs : List Event) : reports (es ++ fs) = reports es ++ reports fs :=
  List.filterMap_append

theorem signals_append (es fs : List Event) : signals (es ++ fs) = signals es ++ signals fs :=
  List.filterMap_append

/-- The transition events hold no further report. -/
theorem reports_report (P : Params) (c : ControllerId) (before after : Word) :
    reports (.report c before after :: transitionEvents P c before after) =
      [⟨c, before, after⟩] := by
  have hnone : (transitionEvents P c before after).filterMap Event.report? = [] := by
    apply List.filterMap_eq_nil_iff.mpr
    intro ev hev
    obtain ⟨_, _, _, _, _, _, _, rfl⟩ := mem_transitionEvents.mp hev
    rfl
  simp only [reports]
  rw [List.filterMap_cons]
  simp only [Event.report?, hnone]

/-- A property of event lists that concatenation keeps and every report has holds of every run,
also of one with resets. -/
theorem runCalls_events (P : Params) (T : List Event → Prop) (hnil : T [])
    (hmove : ∀ dx dy, T [.signal none (.move dx dy)])
    (hreport : ∀ c before after,
      T (.report c before after :: transitionEvents P c before after))
    (happ : ∀ es fs, T es → T fs → T (es ++ fs)) (calls : List Call) (s : HandlerState) :
    T (runCalls P s calls).2 := by
  have htrace {w w' : ControllerId → Word} {es : List Event} (h : ReportTrace P w es w') : T es := by
    induction h with
    | nil w => exact hnil
    | move w dx dy => exact hmove dx dy
    | report w c after => exact hreport c (w c) after
    | append _ _ ih1 ih2 => exact happ _ _ ih1 ih2
  -- a reset has no events at all
  refine run_trace (step P) (fun _ => True) (fun _ es _ => T es) (fun _ => hnil)
    (fun _ _ _ es fs => happ es fs) calls (fun _ _ _ _ => trivial) ?_ s trivial
  intro s call _ _
  cases hcall : call.isReset with
  | false => exact htrace (step_trace P call hcall s)
  | true =>
    cases call with
    | reset => exact hnil
    | _ => cases hcall

end PSMoveInput

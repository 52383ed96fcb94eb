import PSMoveInput.ListenerLiveness

/-! The end of the process: when `run` of the listener has returned, `~PSMoveInput` destroys the
components one after another. A controller thread that is still on its way out uses them. -/
namespace PSMoveInput

open Transducer

inductive Component where
  | log
  | device
  | handler
  /-- An element of `controllerThreads_`. -/
  | slot (c : ControllerId)
  | listener
  deriving DecidableEq, Repr

/-- The order of the destructors. `~PSMoveListener` deletes its slots before its own members go. -/
def destructors : List Component :=
  [.log, .device, .handler, .slot .first, .slot .second, .listener]

/-- The objects whose members the next statement of a thread reads or writes. -/
def ControllerPc.uses (c : ControllerId) : ControllerPc → List Component
  | .entry => [.slot c]
  | .checkStop => [.slot c, .listener]
  -- the signals of the listener lead to the handler and from there to the device
  | .poll => [.slot c, .listener, .handler, .device, .log]
  -- `updateLeds` writes to the log
  | .checkTimeout => [.slot c, .log]
  | .clearThread => [.slot c, .log]
  | .resetLastTp => [.slot c]
  | .disconnect => [.slot c]
  | .clearMove => [.slot c]
  | .onDisconnect => [.slot c, .listener]
  | .returned => []

structure TeardownState where
  run : RunState
  /-- In the order of their destruction. -/
  destroyed : List Component

def TeardownState.init : TeardownState where
  run := .init
  destroyed := []

inductive TeardownEvent where
  | run (ev : RunEvent)
  /-- The next destructor, once `run` has returned. -/
  | destroy

def TeardownState.step (s : TeardownState) : TeardownEvent → TeardownState × List HandleAction
  | .run ev => ({ s with run := (s.run.step ev).1 }, (s.run.step ev).2)
  | .destroy =>
    if s.run.pc = .halted then
      ({ s with destroyed := s.destroyed ++ (destructors[s.destroyed.length]?).toList }, [])
    else (s, [])

/-- No join of the main loop misses a thread that has cleared `thread_` but not returned. -/
def TeardownState.joins (s : TeardownState) : TeardownEvent → Bool
  | .run ev => joinsSettled s.run ev
  | .destroy => true

/-- What the signal of the disconnect key leads to. It names either slot. -/
def disconnectKeyUses : List Component := [.handler, .slot .first, .slot .second, .listener, .log]

/-- The step of the main loop or of a thread uses nothing that has been destroyed. `stop` is left
out: a signal handler calls it, which may come too late for `listener_`. -/
def TeardownState.UsesLive (s : TeardownState) : TeardownEvent → Prop
  | .run (.main _) => s.run.pc ≠ .halted → s.destroyed = []
  | .run (.worker t _) =>
    ∀ w, s.run.workers t = some w → ∀ c ∈ w.pc.uses w.slot, c ∉ s.destroyed
  | .run (.disconnectKey t) =>
    ∀ w, s.run.workers t = some w → w.pc = .poll → ∀ c ∈ disconnectKeyUses, c ∉ s.destroyed
  | .run .stop => True
  | .destroy => True

/-! ### The end of the main loop -/

/-- With the threads that have not returned, the components are still there. -/
structure TeardownState.Orderly (s : TeardownState) : Prop where
  alone : s.run.EndsAlone
  destroyed : s.destroyed ≠ [] → s.run.pc = .halted
  order : s.destroyed <+: destructors

theorem orderly_teardown : TeardownState.init.Orderly where
  alone := endsAlone_init
  destroyed h := absurd rfl h
  order := List.nil_prefix

theorem teardownStep_orderly (s : TeardownState) (ev : TeardownEvent) (hok : s.joins ev = true)
    (h : s.Orderly) : (s.step ev).1.Orderly := by
  cases ev with
  | run ev =>
    refine ⟨step_endsAlone s.run ev hok h.alone, ?_, h.order⟩
    intro hsome
    have hpc := h.destroyed hsome
    have hended : s.run.Ended := ⟨hpc, h.alone.ended hpc⟩
    exact (RunState.step_ended s.run ev hended).1
  | destroy =>
    simp only [TeardownState.step]
    split_ifs with hpc
    · refine ⟨h.alone, fun _ => hpc, ?_⟩
      obtain ⟨rest, hrest⟩ := h.order
      dsimp only
      rw [← hrest]
      cases rest with
      | nil => simp
      | cons c rest => simp
    · exact h

/-- If no join misses a thread, no statement uses a component that has been destroyed, and the
destructors run in their order, each at most once. -/
theorem teardown_uses_live (evs : List TeardownEvent)
    (hjoins : Along TeardownState.step (fun s ev => s.joins ev = true) .init evs) :
    Along TeardownState.step TeardownState.UsesLive .init evs ∧
      (run TeardownState.step .init evs).1.destroyed <+: destructors := by
  constructor
  · apply along_imp TeardownState.step TeardownState.Orderly teardownStep_orderly ?_ evs _
      orderly_teardown hjoins
    intro s ev hok h
    have hgone (t : ℕ) (w : Worker) (hw : s.run.workers t = some w) (hactive : w.pc ≠ .returned) :
        s.destroyed = [] := by
      by_contra hsome
      exact hactive (h.alone.ended (h.destroyed hsome) t w hw)
    cases ev with
    | destroy => trivial
    | run ev =>
      cases ev with
      | main answer =>
        intro hpc
        by_contra hsome
        exact hpc (h.destroyed hsome)
      | worker t answer =>
        intro w hw c hc
        have hactive : w.pc ≠ .returned := by
          intro hret
          rw [hret] at hc
          exact absurd hc List.not_mem_nil
        rw [hgone t w hw hactive]
        exact List.not_mem_nil
      | disconnectKey t =>
        intro w hw hpoll c _
        have hactive : w.pc ≠ .returned := by
          rw [hpoll]
          exact ControllerPc.noConfusion
        rw [hgone t w hw hactive]
        exact List.not_mem_nil
      | stop => trivial
  · exact (run_invariant_along TeardownState.step (fun s ev => s.joins ev = true)
      TeardownState.Orderly teardownStep_orderly evs _ orderly_teardown hjoins).order

/-- `stop` is called while a thread runs, which makes `n` statements before `run` returns. -/
def stopEvents (n : ℕ) : List TeardownEvent :=
  let events : List RunEvent := startEvents ++ [.stop] ++ List.replicate n (.worker 0 false) ++
    List.replicate 4 (.main none)
  events.map .run ++ List.replicate 6 .destroy

/-- The thread returns before the joins. -/
theorem teardown_uses_live_returned :
    Along TeardownState.step TeardownState.UsesLive .init (stopEvents 7) ∧
      (run TeardownState.step .init (stopEvents 7)).1.destroyed = destructors := by
  refine ⟨(teardown_uses_live (stopEvents 7) ?_).1, ?_⟩
  · decide +kernel
  · decide +kernel

/-- The thread has only cleared `thread_`: it goes on with members of a slot that is gone. -/
theorem teardown_uses_destroyed :
    let s := (run TeardownState.step .init (stopEvents 3)).1
    s.run.workers 0 = some ⟨.first, 0, 0, .resetLastTp⟩ ∧ .slot .first ∈ s.destroyed ∧
      ¬s.UsesLive (.run (.worker 0 false)) := by
  have hworker : (run TeardownState.step .init (stopEvents 3)).1.run.workers 0 =
      some ⟨.first, 0, 0, .resetLastTp⟩ := by decide +kernel
  have hslot : .slot .first ∈ (run TeardownState.step .init (stopEvents 3)).1.destroyed := by
    decide +kernel
  refine ⟨hworker, hslot, ?_⟩
  intro huses
  exact huses _ hworker (.slot .first) List.mem_cons_self hslot

end PSMoveInput

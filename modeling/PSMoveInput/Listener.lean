import PSMoveInput.ControllerThread

/-! `PSMoveListener` with its two slots and the handler, wired as in `startListener`.
A step is one pass of a loop that has an effect on the slots or on the handler. -/
namespace PSMoveInput

open Transducer

/-- The signal that is connected to `onDisconnectKey`, which sets `threadStop_`. -/
def Signal.isDisconnect : Signal → Bool
  | .disconnect _ => true
  | _ => false

structure Timeouts where
  pollTimeout : ℤ
  gestureTimeout : ℤ

structure System where
  threads : ControllerId → ControllerThread
  threadStop : Bool
  handler : HandlerState

def System.init : System where
  threads := fun _ => .new
  threadStop := false
  handler := .init

inductive ListenerEvent where
  /-- `connect` found a controller. -/
  | connect (calibrated : Bool)
  /-- A successful `psmove_poll` of the thread in a slot. -/
  | poll (slot : ControllerId) (sample : Sample)
  /-- The thread in a slot leaves its loop. -/
  | exit (slot : ControllerId)
  /-- `run` has joined the threads. -/
  | disconnectComplete

def System.startThread (T : Timeouts) (s : System) (slot : ControllerId) (calibrated : Bool) :
    System :=
  let thread := (s.threads slot).start slot calibrated T.pollTimeout T.gestureTimeout
  { s with threads := Function.update s.threads slot thread }

/-- The first free slot takes the controller; none is free at full capacity. -/
def System.handleNewDevice (T : Timeouts) (s : System) (calibrated : Bool) : Option System :=
  if (s.threads .first).running = false then some (s.startThread T .first calibrated)
  else if (s.threads .second).running = false then some (s.startThread T .second calibrated)
  else none

def System.step (P : Params) (T : Timeouts) (s : System) : ListenerEvent → Option System
  | .connect calibrated => s.handleNewDevice T calibrated
  | .poll slot sample =>
    if (s.threads slot).running = true then
      let r := (s.threads slot).poll sample
      let h := runCalls P s.handler r.2
      some {
        threads := Function.update s.threads slot r.1
        threadStop := s.threadStop || (signals h.2).any Signal.isDisconnect
        handler := h.1 }
    else none
  | .exit slot =>
    if (s.threads slot).running = true then
      -- `onDisconnect` makes the other thread stop as well
      some { s with
        threads := Function.update s.threads slot (s.threads slot).exit
        threadStop := true }
    else none
  | .disconnectComplete =>
    -- the listener waits for the threads before it notifies the handler
    if s.threadStop = true ∧ (s.threads .first).running = false ∧
        (s.threads .second).running = false then
      some { s with threadStop := false, handler := reset s.handler }
    else none

/-- A run is a sequence of possible events. -/
def System.run (P : Params) (T : Timeouts) (s : System) (evs : List ListenerEvent) :
    Option System :=
  evs.foldlM (System.step P T) s

end PSMoveInput

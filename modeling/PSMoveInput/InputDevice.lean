import PSMoveInput.Concurrency
import PSMoveInput.Frames

/-! `InputDevice`: the events that its reports write to the uinput descriptor, one `write` after
another, by the two controller threads that work on one handler. -/
namespace PSMoveInput

/-- The types of `input_event` that are written. -/
inductive EventType where
  | evSyn
  | evKey
  | evRel
  deriving DecidableEq, Repr

structure InputEvent where
  type : EventType
  code : ℤ
  value : ℤ
  deriving DecidableEq, Repr

def relX : ℤ := 0
def relY : ℤ := 1
def relWheel : ℤ := 8
def synReport : ℤ := 0

/-! ### Reports -/

namespace InputDevice

def reportSyn : List InputEvent := [⟨.evSyn, synReport, 0⟩]

/-- A component that is zero is not written. -/
def reportMove (dx dy : ℤ) : List InputEvent :=
  (if dx ≠ 0 then [⟨.evRel, relX, dx⟩] else []) ++ (if dy ≠ 0 then [⟨.evRel, relY, dy⟩] else []) ++
    reportSyn

def reportKey (code : ℤ) (pressed : Bool) : List InputEvent :=
  [⟨.evKey, code, if pressed = true then 1 else 0⟩] ++ reportSyn

def reportMWheel (value : ℤ) : List InputEvent := [⟨.evRel, relWheel, value⟩] ++ reportSyn

end InputDevice

/-- A call of one of the report functions. -/
inductive DeviceReport where
  | move (dx dy : ℤ)
  | key (code : ℤ) (pressed : Bool)
  | mwheel (value : ℤ)
  deriving DecidableEq, Repr

def DeviceReport.events : DeviceReport → List InputEvent
  | .move dx dy => InputDevice.reportMove dx dy
  | .key code pressed => InputDevice.reportKey code pressed
  | .mwheel value => InputDevice.reportMWheel value

def DeviceReport.isMove : DeviceReport → Bool
  | .move _ _ => true
  | _ => false

/-- The slots that `initHandler` connects. The disconnect signal goes to the listener. -/
def Signal.report? : Signal → Option DeviceReport
  | .move dx dy => some (.move dx dy)
  | .key lincode pressed => some (.key lincode pressed)
  | .mwheel value => some (.mwheel value)
  | .disconnect _ => none

/-- The report calls that the signals of a statement cause. -/
def deviceReports (es : List Event) : List DeviceReport := (signals es).filterMap Signal.report?

/-! ### Writes -/

/-- An event on the descriptor, with the report call that wrote it: the `call`-th of its thread. -/
structure Write where
  thread : ControllerId
  call : ℕ
  report : DeviceReport
  event : InputEvent
  deriving DecidableEq, Repr

/-- What one report call writes. -/
def reportWrites (c : ControllerId) (call : ℕ) (report : DeviceReport) : List Write :=
  report.events.map fun event => ⟨c, call, report, event⟩

/-- `EV_SYN` with `SYN_REPORT`. -/
def Write.isSyn (w : Write) : Bool := w.event.type = .evSyn && w.event.code = synReport

/-- A sequence of writes is the complete frame of one report call. -/
def IsReport (f : List Write) : Prop := ∃ c call report, f = reportWrites c call report

/-- Split at the `SYN_REPORT` events, the log consists of complete reports and the beginning of
another one. -/
def WholeReports (log : List Write) : Prop := Frames.Whole Write.isSyn IsReport log

/-! ### Threads -/

/-- The calls that a thread makes. -/
inductive DeviceCall where
  | onGyroscope (clock : Clock) (gx gy : ℤ)
  | request (r : Request)

/-- The calls of the thread of a controller. -/
def DeviceCall.Belongs (c : ControllerId) : DeviceCall → Prop
  | .onGyroscope _ _ _ => c = .first
  | .request r => r.Belongs c

/-- A thread in its calls (`thread`, `calls`), in the locked part of the bit loop (the `entries` of
the key map that are left), and in the reports of the signals it has raised (`queue`): the events
of the current report that are written, and the ones that are left. -/
structure DeviceThread where
  thread : ThreadState
  calls : List DeviceCall
  entries : Option (List (KeyMapEntry × ℕ))
  queue : List DeviceReport
  reports : ℕ
  written : List Write
  left : List Write

def DeviceThread.start (calls : List DeviceCall) : DeviceThread where
  thread := .start []
  calls := calls
  entries := none
  queue := []
  reports := 0
  written := []
  left := []

structure DeviceState where
  handler : HandlerState
  mutex : Option ControllerId
  threads : ControllerId → DeviceThread

def DeviceState.start (programs : ControllerId → List DeviceCall) : DeviceState where
  handler := .init
  mutex := none
  threads := fun c => .start (programs c)

def DeviceState.setThread (s : DeviceState) (c : ControllerId) (t : DeviceThread) : DeviceState :=
  { s with threads := Function.update s.threads c t }

/-- One `write`. -/
def DeviceState.write (s : DeviceState) (c : ControllerId) (w : Write) (left : List Write) :
    DeviceState :=
  let t := s.threads c
  s.setThread c { t with written := if left = [] then [] else t.written ++ [w], left := left }

/-- The slot of a signal is called. -/
def DeviceState.callSlot (s : DeviceState) (c : ControllerId) (report : DeviceReport)
    (queue : List DeviceReport) : DeviceState :=
  let t := s.threads c
  s.setThread c { t with
    queue := queue
    reports := t.reports + 1
    left := reportWrites c t.reports report }

/-- The entries that an iteration of the bit loop goes through. -/
def iterationEntries (P : Params) (controller : ControllerId) (pressed released i : Word) :
    List (KeyMapEntry × ℕ) :=
  if holds pressed i || holds released i then (P.keymap controller).zipIdx else []

/-- The entries of one iteration do together what the iteration does in the sequential model. -/
theorem iteration_scanStep (P : Params) (controller : ControllerId) (pressed released i : Word)
    (s : HandlerState) :
    Transducer.run (reportEntry i (holds pressed i) controller) s
        (iterationEntries P controller pressed released i) =
      scanStep P controller pressed released s i := by
  simp only [iterationEntries, scanStep]
  cases hp : holds pressed i <;> cases hr : holds released i <;> rfl

/-- An iteration of the bit loop, for the bit `i`: the lock guard, one entry of the key map after
another, and the release of the mutex. -/
def DeviceState.iterate (P : Params) (s : DeviceState) (c : ControllerId) (buttons : Word)
    (controller : ControllerId) (pressed released i : Word) (bits : List Word) : DeviceState :=
  let t := s.threads c
  match t.entries with
  | none =>
    -- the guard waits while the other thread holds the mutex
    if s.mutex = none then
      { s with mutex := some c }.setThread c
        { t with entries := some (iterationEntries P controller pressed released i) }
    else s
  | some (entry :: entries) =>
    let r := reportEntry i (holds pressed i) controller s.handler entry
    { s with handler := r.1 }.setThread c
      { t with entries := some entries, queue := deviceReports r.2 }
  | some [] =>
    { s with mutex := none }.setThread c { t with
      entries := none
      thread := t.thread.goto (.scan buttons controller pressed released bits) }

/-- A statement outside the locked part, or the next call. -/
def DeviceState.advance (P : Params) (s : DeviceState) (c : ControllerId) : DeviceState :=
  let t := s.threads c
  if t.thread.done = true then
    match t.calls with
    | [] => s
    | .request r :: calls =>
      s.setThread c { t with thread := { t.thread with program := [r] }, calls := calls }
    | .onGyroscope clock gx gy :: calls =>
      -- the fields that it reads and writes are those of the first thread alone
      let r := onGyroscope P clock gx gy s.handler
      { s with handler := r.1 }.setThread c { t with calls := calls, queue := deviceReports r.2 }
  else
    let r := threadStep P s.handler t.thread
    { s with handler := r.1 }.setThread c { t with thread := r.2.1 }

/-- The scheduled thread makes a step: a signal is raised when its slots have returned. -/
def DeviceState.step (P : Params) (s : DeviceState) (c : ControllerId) :
    DeviceState × List Write :=
  match (s.threads c).left, (s.threads c).queue with
  | w :: left, _ => (s.write c w left, [w])
  | [], report :: queue => (s.callSlot c report queue, [])
  | [], [] =>
    match (s.threads c).thread.pc with
    | .scan buttons controller pressed released (i :: bits) =>
      (s.iterate P c buttons controller pressed released i bits, [])
    | _ => (s.advance P c, [])

/-- The scheduled thread does not write an event of a movement into a report of the other thread,
nor any event into a movement of the other thread. -/
def movesApart (s : DeviceState) (c : ControllerId) : Bool :=
  match (s.threads c).left with
  | [] => true
  | w :: _ => (s.threads c.other).written.all fun v => !(w.report.isMove || v.report.isMove)

end PSMoveInput

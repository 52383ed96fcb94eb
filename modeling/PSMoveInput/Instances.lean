import PSMoveInput.Interrupts
import PSMoveInput.Program

/-! The one object of the class `PSMoveInput`: `getRef` and `releaseRef` statement by statement, in
`main` and in the signal handler that interrupts it. -/
namespace PSMoveInput

/-- The objects are numbered in the order of their construction. -/
abbrev InstanceId := ℕ

/-- The static members, with what has become of the objects and whether `setupSignals` has installed
the handler. -/
structure Statics where
  /-- `instance_`, a null pointer if there is none. -/
  instancePtr : Option InstanceId
  refs : ℤ
  constructed : ℕ
  /-- How often the destructor of an object has run. -/
  destroyed : InstanceId → ℕ
  /-- `listener_` of an object is not a null pointer. -/
  listener : InstanceId → Bool
  installed : Bool

def Statics.init : Statics where
  instancePtr := none
  refs := 0
  constructed := 0
  destroyed := fun _ => 0
  listener := fun _ => false
  installed := false

/-- Calls of members, with the object that they are called on. -/
inductive InstanceCall where
  | constructor (id : InstanceId)
  | destructor (id : InstanceId)
  | stop (input : Option InstanceId)
  | stopListener (id : InstanceId)
  deriving DecidableEq

/-! ### References -/

/-- The statements of `getRef`. -/
inductive GetRef where
  | test
  | construct
  | count
  | deref
  deriving DecidableEq

/-- The statements of `releaseRef`. -/
inductive ReleaseRef where
  | decrement
  | test
  | delete
  | clear
  deriving DecidableEq

/-- One statement, and the one that follows it unless the function returns. -/
def Statics.getRef (s : Statics) :
    GetRef → (Statics × Option GetRef) × List InstanceCall
  | .test => ((s, if s.instancePtr = none then some .construct else some .count), [])
  | .construct =>
    (({ s with instancePtr := some s.constructed, constructed := s.constructed + 1 }, some .count),
      [.constructor s.constructed])
  | .count => (({ s with refs := s.refs + 1 }, some .deref), [])
  -- `return *instance_`
  | .deref => ((s, none), [])

/-- The destructor of an object runs. -/
def Statics.destroy (s : Statics) (id : InstanceId) : Statics :=
  { s with destroyed := Function.update s.destroyed id (s.destroyed id + 1) }

def Statics.releaseRef (s : Statics) :
    ReleaseRef → (Statics × Option ReleaseRef) × List InstanceCall
  | .decrement => (({ s with refs := s.refs - 1 }, some .test), [])
  | .test => ((s, if s.refs = 0 then some .delete else none), [])
  | .delete =>
    match s.instancePtr with
    -- deleting a null pointer does nothing
    | none => ((s, some .clear), [])
    | some id => ((s.destroy id, some .clear), [.destructor id])
  | .clear => (({ s with instancePtr := none }, none), [])

/-- `stop` of an object. -/
def Statics.stop (s : Statics) (input : Option InstanceId) : List InstanceCall :=
  .stop input ::
    match input with
    | some id => if s.listener id = true then [.stopListener id] else []
    | none => []

/-! ### The handler -/

/-- The points of `signal_handler`. -/
inductive HandlerPoint where
  | getRef (stmt : GetRef)
  | stop (input : Option InstanceId)
  | releaseRef (stmt : ReleaseRef)

def signalHandler (s : Statics) :
    HandlerPoint → (Statics × Option HandlerPoint) × List InstanceCall
  | .getRef stmt =>
    let r := s.getRef stmt
    let next := match r.1.2 with
      | some stmt => .getRef stmt
      | none => .stop r.1.1.instancePtr
    ((r.1.1, some next), r.2)
  | .stop input => ((s, some (.releaseRef .decrement)), s.stop input)
  | .releaseRef stmt =>
    let r := s.releaseRef stmt
    ((r.1.1, r.1.2.map .releaseRef), r.2)

/-! ### The program -/

/-- The points of `main`. A signal may arrive before a step of `run` and in the middle of it. -/
inductive MainPoint where
  | getRef (stmt : GetRef)
  | run (input : Option InstanceId) (program : Program) (steps : List RunStep)
  | within (input : Option InstanceId) (program : Program) (step : RunStep) (steps : List RunStep)
  | releaseRef (stmt : ReleaseRef) (retval : ℕ)
  | returned (retval : ℕ)

/-- The step raises nothing before it does anything. -/
def begins (env : Surroundings) (step : RunStep) : Bool :=
  match env.faultAt step with
  | some (.early _) => false
  | _ => true

/-- The listener is there before it runs. -/
def Statics.beginStep (env : Surroundings) (s : Statics) (input : Option InstanceId)
    (step : RunStep) : Statics :=
  match input with
  | some id =>
    if step = .startListener ∧ begins env step = true then
      { s with listener := Function.update s.listener id true }
    else s
  | none => s

def Statics.endStep (env : Surroundings) (s : Statics) (step : RunStep) : Statics :=
  if step = .setupSignals ∧ begins env step = true then { s with installed := true } else s

/-- `main`, which constructs its object from `start`. -/
def mainStep (env : Surroundings) (start : Program) (s : Statics) :
    MainPoint → (Statics × MainPoint) × List InstanceCall
  | .getRef stmt =>
    let r := s.getRef stmt
    let next := match r.1.2 with
      | some stmt => .getRef stmt
      | none => .run r.1.1.instancePtr start Program.runSteps
    ((r.1.1, next), r.2)
  | .run _ program [] =>
    ((s, .releaseRef .decrement (Program.finish env ⟨program, [], none⟩).retval), [])
  | .run input program (step :: steps) =>
    ((s.beginStep env input step, .within input program step steps), [])
  | .within input program step steps =>
    let r := program.attempt env step
    let next := match r.thrown with
      | none => .run input r.state steps
      | some _ => .releaseRef .decrement (Program.finish env r).retval
    ((s.endStep env step, next), [])
  | .releaseRef stmt retval =>
    let r := s.releaseRef stmt
    let next := match r.1.2 with
      | some stmt => .releaseRef stmt retval
      | none => .returned retval
    ((r.1.1, next), r.2)
  | .returned retval => ((s, .returned retval), [])

/-- The process: `main`, interrupted by `signal_handler`. -/
def process (env : Surroundings) (start : Program) :
    Interrupts.Machine Statics MainPoint HandlerPoint InstanceCall where
  mainStep := mainStep env start
  handlerStep := signalHandler
  entry := .getRef .test
  installed := Statics.installed

abbrev ProcessState := Interrupts.State Statics MainPoint HandlerPoint

def processInit : ProcessState where
  shared := .init
  main := .getRef .test
  handler := none

/-! ### References that are held -/

/-- From the statement after the increment of `refs_` to the decrement. -/
def MainPoint.held : MainPoint → ℤ
  | .getRef .deref => 1
  | .run .. => 1
  | .within .. => 1
  | .releaseRef .decrement _ => 1
  | _ => 0

def HandlerPoint.held : HandlerPoint → ℤ
  | .getRef .deref => 1
  | .stop _ => 1
  | .releaseRef .decrement => 1
  | _ => 0

def heldRefs (s : ProcessState) : ℤ :=
  s.main.held + (s.handler.map HandlerPoint.held).getD 0

/-! ### The exit code -/

theorem finish_retval_congr (env : Surroundings) {r r' : StepOutcome} (h : r.thrown = r'.thrown) :
    (Program.finish env r).retval = (Program.finish env r').retval := by
  simp only [Program.finish, h]
  cases r'.thrown with
  | none => rfl
  | some t => cases t <;> rfl

/-- What is left of `run` ends with an exit code. -/
def MainPoint.EndsWith (env : Surroundings) (retval : ℕ) : MainPoint → Prop
  | .getRef _ => True
  | .run _ program steps =>
    (Program.finish env (Attempt.run (Program.attempt env) program steps)).retval = retval
  | .within _ program step steps =>
    (Program.finish env (Attempt.run (Program.attempt env) program (step :: steps))).retval = retval
  | .releaseRef _ r => r = retval
  | .returned r => r = retval

theorem mainStep_endsWith (env : Surroundings) (start : Program) (s : Statics) (m : MainPoint)
    (h : m.EndsWith env (start.run env).retval) :
    (mainStep env start s m).1.2.EndsWith env (start.run env).retval := by
  cases m with
  | getRef stmt =>
    cases stmt with
    | test =>
      simp only [mainStep, Statics.getRef]
      split_ifs <;> trivial
    | construct => trivial
    | count => trivial
    | deref => rfl
  | run input program steps =>
    cases steps with
    | nil => exact h
    | cons step steps => exact h
  | within input program step steps =>
    simp only [mainStep]
    cases hthrown : (program.attempt env step).thrown with
    | none =>
      refine Eq.trans ?_ h
      apply finish_retval_congr
      rw [Attempt.run_cons_returned hthrown]
    | some t =>
      refine Eq.trans ?_ h
      rw [Attempt.run_cons_thrown hthrown]
  | releaseRef stmt retval =>
    simp only [mainStep]
    cases (s.releaseRef stmt).1.2 with
    | none => exact h
    | some next => exact h
  | returned retval => exact h

/-- Signals do not change what `main` returns: it is the exit code of `run`. -/
theorem returned_retval (env : Surroundings) (start : Program) (evs : List Interrupts.Event)
    {retval : ℕ}
    (h : (Transducer.run (process env start).step processInit evs).1.main = .returned retval) :
    retval = (start.run env).retval := by
  have hpreserves : Interrupts.Preserves (process env start) (fun _ _ => True)
      (fun _ m => m.EndsWith env (start.run env).retval)
      (fun _ m _ => m.EndsWith env (start.run env).retval) := by
    constructor
    · exact mainStep_endsWith env start
    · exact fun _ _ hm _ _ => hm
    · intro s m point hm
      rw [Interrupts.Invariant]
      cases ((process env start).handlerStep s point).1.2 <;> exact hm
  have hend := Interrupts.run_preserves hpreserves evs processInit trivial
    (Transducer.along_of_forall _ (fun _ _ _ _ _ => trivial) _ evs)
  rw [Interrupts.Invariant, h] at hend
  cases hhandler : (Transducer.run (process env start).step processInit evs).1.handler with
  | none =>
    rw [hhandler] at hend
    exact hend
  | some point =>
    rw [hhandler] at hend
    exact hend

end PSMoveInput

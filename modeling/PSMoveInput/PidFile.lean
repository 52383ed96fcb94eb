import Mathlib.Logic.Function.Basic
import PSMoveInput.Transducer

/-! `PSMoveInput::run` as far as the pid file goes: any number of processes with the same pid
file, interleaved at their file operations. -/
namespace PSMoveInput

open Transducer

/-- Exit codes of the program. -/
inductive Retval where
  | ok
  | fail
  | already
  | fork
  | pid
  deriving DecidableEq, Repr

/-- How far a process has come. -/
inductive ProcessPc where
  | started
  /-- `checkPidFile` has found no file. -/
  | checked
  /-- `daemonize` is about to write the file. -/
  | daemonized
  /-- Between a successful `writePidFile` and `removePidFile`. -/
  | running
  | exited
  deriving DecidableEq, Repr

variable {ι : Type}

structure PidState (ι : Type) where
  file : Bool
  processes : ι → ProcessPc

def PidState.init : PidState ι where
  file := false
  processes := fun _ => .started

inductive ForkResult where
  | foreground
  | forked
  | failed
  deriving DecidableEq, Repr

inductive PidEvent (ι : Type) where
  /-- `open` succeeds on an existing file that is readable. -/
  | checkPidFile (process : ι) (readable : Bool)
  | daemonize (process : ι) (result : ForkResult)
  /-- `creat` succeeds on a writable path, also when the file exists. -/
  | writePidFile (process : ι) (writable : Bool)
  /-- At the end of `run`, and after a `std::exception` wherever it was thrown. -/
  | removePidFile (process : ι) (exception : Bool)

/-- No two processes run. -/
def PidState.Exclusive (s : PidState ι) : Prop :=
  ∀ p q, s.processes p = .running → s.processes q = .running → p = q

/-- A process creates the file only where there is none, and only a running process removes it. -/
def ownsFile (s : PidState ι) : PidEvent ι → Bool
  | .writePidFile p writable =>
    !(decide (s.processes p = .daemonized) && writable && s.file)
  | .removePidFile p exception =>
    !(decide (s.processes p ≠ .running ∧ s.processes p ≠ .exited) && exception && s.file)
  | _ => true

/-- The file stands for the one process that runs. -/
structure PidState.Guarded (s : PidState ι) : Prop where
  exclusive : s.Exclusive
  file : s.file = true ↔ ∃ p, s.processes p = .running

theorem guarded_init : (PidState.init : PidState ι).Guarded where
  exclusive _ _ h := by cases h
  file := by
    constructor
    · exact nofun
    · intro h
      obtain ⟨p, hp⟩ := h
      cases hp

variable [DecidableEq ι]

def PidState.goto (s : PidState ι) (p : ι) (pc : ProcessPc) : PidState ι :=
  { s with processes := Function.update s.processes p pc }

/-- The outputs are the exit codes. Events that a process cannot make change nothing. -/
def PidState.step (s : PidState ι) : PidEvent ι → PidState ι × List (ι × Retval)
  | .checkPidFile p readable =>
    if s.processes p = .started then
      if s.file = true ∧ readable = true then (s.goto p .exited, [(p, .already)])
      else (s.goto p .checked, [])
    else (s, [])
  | .daemonize p result =>
    if s.processes p = .checked then
      match result with
      | .foreground => (s.goto p .daemonized, [])
      -- the parent quits, and the child goes on
      | .forked => (s.goto p .daemonized, [(p, .ok)])
      | .failed => (s.goto p .exited, [(p, .fork)])
    else (s, [])
  | .writePidFile p writable =>
    if s.processes p = .daemonized then
      if writable = true then ({ s with file := true }.goto p .running, [])
      else (s.goto p .exited, [(p, .pid)])
    else (s, [])
  | .removePidFile p exception =>
    if s.processes p = .exited ∨ (s.processes p ≠ .running ∧ exception = false) then (s, [])
    else
      ({ s with file := false }.goto p .exited,
        [(p, if exception = true then .fail else .ok)])

/-- A process that does not run goes on without running. -/
theorem PidState.Guarded.idle {s : PidState ι} (h : s.Guarded) {p : ι} {pc : ProcessPc}
    (hbefore : s.processes p ≠ .running) (hafter : pc ≠ .running) : (s.goto p pc).Guarded := by
  have hsame : ∀ q, (s.goto p pc).processes q = .running ↔ s.processes q = .running := by
    intro q
    by_cases hq : q = p
    · subst hq
      simp only [goto, Function.update_self]
      exact iff_of_false hafter hbefore
    · simp only [goto, Function.update_of_ne hq]
  constructor
  · intro q q' hq hq'
    exact h.exclusive q q' ((hsame q).mp hq) ((hsame q').mp hq')
  · simp only [hsame]
    exact h.file

/-- A process creates a file that was not there. -/
theorem PidState.Guarded.create {s : PidState ι} (h : s.Guarded) (hfile : s.file = false)
    (p : ι) : ({ s with file := true }.goto p .running).Guarded := by
  have hnone : ∀ q, s.processes q ≠ .running := by
    intro q hq
    have hset := h.file.mpr ⟨q, hq⟩
    rw [hfile] at hset
    cases hset
  have honly : ∀ q, ({ s with file := true }.goto p .running).processes q = .running → q = p := by
    intro q hq
    by_contra hne
    simp only [goto, Function.update_of_ne hne] at hq
    exact hnone q hq
  constructor
  · intro q q' hq hq'
    rw [honly q hq, honly q' hq']
  · constructor
    · intro _
      exact ⟨p, Function.update_self ..⟩
    · intro _
      rfl

/-- The process that runs removes its file. -/
theorem PidState.Guarded.remove {s : PidState ι} (h : s.Guarded) {p : ι}
    (hp : s.processes p = .running) : ({ s with file := false }.goto p .exited).Guarded := by
  have hnone : ∀ q, ({ s with file := false }.goto p .exited).processes q ≠ .running := by
    intro q hq
    by_cases hqp : q = p
    · subst hqp
      simp only [goto, Function.update_self] at hq
      cases hq
    · simp only [goto, Function.update_of_ne hqp] at hq
      exact hqp (h.exclusive q p hq hp)
  constructor
  · intro q q' hq
    exact absurd hq (hnone q)
  · constructor
    · exact nofun
    · intro hex
      obtain ⟨q, hq⟩ := hex
      exact absurd hq (hnone q)

theorem step_guarded (s : PidState ι) (ev : PidEvent ι) (hok : ownsFile s ev = true)
    (h : s.Guarded) : (s.step ev).1.Guarded := by
  cases ev with
  | checkPidFile p readable =>
    simp only [PidState.step]
    split_ifs with hp
    · exact h.idle (by rw [hp]; decide) (by decide)
    · exact h.idle (by rw [hp]; decide) (by decide)
    · exact h
  | daemonize p result =>
    simp only [PidState.step]
    split_ifs with hp
    · cases result
      all_goals exact h.idle (by rw [hp]; decide) (by decide)
    · exact h
  | writePidFile p writable =>
    simp only [PidState.step]
    split_ifs with hp hwritable
    · apply h.create
      simpa [ownsFile, hp, hwritable] using hok
    · exact h.idle (by rw [hp]; decide) (by decide)
    · exact h
  | removePidFile p exception =>
    simp only [PidState.step]
    by_cases hstay : s.processes p = .exited ∨ (s.processes p ≠ .running ∧ exception = false)
    · rw [if_pos hstay]
      exact h
    · rw [if_neg hstay]
      by_cases hp : s.processes p = .running
      · exact h.remove hp
      · -- nothing is there to be removed
        obtain ⟨hexited, hexception⟩ := not_or.mp hstay
        have hthrown : exception = true := by
          by_contra hne
          exact hexception ⟨hp, eq_false_of_ne_true hne⟩
        have hfile : s.file = false := by
          simpa [ownsFile, hp, hexited, hthrown] using hok
        have hsame : ({ s with file := false } : PidState ι) = s := by
          rw [← hfile]
        dsimp only
        rw [hsame]
        exact h.idle hp (by decide)

/-- If every successful `creat` finds no file, and no process removes a file before it has created
its own, at most one process runs in every state. The first `creat` that finds a file makes a
second process run. -/
theorem single_instance (evs : List (PidEvent ι))
    (howns : Along PidState.step (fun s ev => ownsFile s ev = true) .init evs) :
    let s := (run PidState.step .init evs).1
    s.Exclusive ∧ ∀ p, s.processes p = .daemonized → s.file = true →
      ¬(s.step (.writePidFile p true)).1.Exclusive := by
  intro s
  have hguarded : s.Guarded := by
    apply run_invariant_along PidState.step (fun s ev => ownsFile s ev = true) PidState.Guarded
    · exact step_guarded
    · exact guarded_init
    · exact howns
  refine ⟨hguarded.exclusive, ?_⟩
  intro p hp hfile hexclusive
  obtain ⟨q, hq⟩ := hguarded.file.mp hfile
  have hne : q ≠ p := by
    intro heq
    rw [heq, hp] at hq
    cases hq
  simp only [PidState.step, hp, ↓reduceIte] at hexclusive
  apply hne
  apply hexclusive q p
  · simp only [PidState.goto, Function.update_of_ne hne]
    exact hq
  · exact Function.update_self ..

/-- A process that comes to run while no other one does. -/
def launch (p : ι) : List (PidEvent ι) :=
  [.checkPidFile p true, .daemonize p .forked, .writePidFile p true]

/-- One process after the other, and a third one that finds the second running. -/
def turnEvents : List (PidEvent ℕ) :=
  launch 0 ++ [.removePidFile 0 false] ++ launch 1 ++ launch 2

theorem single_instance_turns : (run PidState.step .init turnEvents).1.Exclusive := by
  have h := single_instance turnEvents (by decide +kernel)
  exact h.1

/-- Both processes look for the file before either has created it. -/
theorem two_instances :
    let s := (run PidState.step (.init : PidState ℕ)
      [.checkPidFile 0 true, .checkPidFile 1 true, .daemonize 0 .forked, .daemonize 1 .forked,
       .writePidFile 0 true, .writePidFile 1 true]).1
    s.processes 0 = .running ∧ s.processes 1 = .running := by
  decide +kernel

end PSMoveInput

import Mathlib.Logic.Relation
import TitanEngine.Lib.RecursiveMutex

/-! `PauseLock` and the parts of `DebugLoop` that its flags and its mutex are about, one
load, store, lock or unlock to a step. The debug-loop thread is `none`. -/
namespace TitanEngine
open Relation

/-- How far the constructor of a `PauseLock` has come. -/
inductive PauseLockStage
  | ready
  | pausedLoaded
  | flagsLoaded
  deriving DecidableEq, Repr

/-- The `PauseLock` objects of one thread that are alive, the innermost first, and the one
that is being constructed. -/
structure PauseLocks where
  mLocked : List Bool := []
  stage : PauseLockStage := .ready
  deriving DecidableEq, Repr

inductive LoopPoint
  /-- `InitDebugW` or `AttachDebugger` waits for the process. -/
  | creating
  | starting
  | checkQueue
  | unpause
  | statusBefore
  /-- Inside `WaitForEvent`. -/
  | waiting
  | waited
  | reading
  | pause
  | callbacks
  | flush
  | flushing
  | stopping
  | ended
  deriving DecidableEq, Repr

structure PauseState (Thread : Type*) where
  gPaused : Bool
  gIsDebugging : Bool := false
  gMutexPaused : RecursiveMutex (Option Thread) := .free
  loop : LoopPoint := .creating
  locks : Option Thread → PauseLocks := fun _ => {}

inductive PauseAction (Thread : Type*)
  /-- A thread takes the next step of the constructor. -/
  | construct (thread : Option Thread)
  /-- A thread leaves the scope of its innermost `PauseLock`. -/
  | destroy (thread : Option Thread)
  /-- The debug-loop thread goes on. `ok` answers what its next step asks. -/
  | loop (ok : Bool)

namespace PauseState
variable {Thread : Type*} [DecidableEq Thread]

def setLocks (thread : Option Thread) (locks : PauseLocks) (s : PauseState Thread) :
    PauseState Thread :=
  { s with locks := Function.update s.locks thread locks }

/-- The exports that the debug-loop thread calls are called from the callbacks, or from the
event callbacks of the engine. -/
def Calls (thread : Option Thread) (s : PauseState Thread) : Prop :=
  thread ≠ none ∨ s.loop = .callbacks ∨ s.loop = .waiting ∨ s.loop = .creating

instance (thread : Option Thread) (s : PauseState Thread) : Decidable (s.Calls thread) :=
  inferInstanceAs (Decidable (_ ∨ _))

def pauseLock (thread : Option Thread) (s : PauseState Thread) : Option (PauseState Thread) :=
  let own := s.locks thread
  match own.stage with
  | .ready =>
    if s.gPaused then some (s.setLocks thread { own with stage := .pausedLoaded })
    else some (s.setLocks thread { mLocked := false :: own.mLocked })
  | .pausedLoaded =>
    if s.gIsDebugging then some (s.setLocks thread { own with stage := .flagsLoaded })
    else some (s.setLocks thread { mLocked := false :: own.mLocked })
  | .flagsLoaded => (s.gMutexPaused.lock thread).map fun mutex =>
      { s with gMutexPaused := mutex }.setLocks thread { mLocked := true :: own.mLocked }

def pauseUnlock (thread : Option Thread) (s : PauseState Thread) : Option (PauseState Thread) :=
  match s.locks thread with
  | ⟨true :: rest, .ready⟩ =>
    some ({ s with gMutexPaused := s.gMutexPaused.unlock thread }.setLocks thread ⟨rest, .ready⟩)
  | ⟨false :: rest, .ready⟩ => some (s.setLocks thread ⟨rest, .ready⟩)
  | _ => none

/-- The exports called on the debug-loop thread have returned. -/
def leave (next : LoopPoint) (s : PauseState Thread) : Option (PauseState Thread) :=
  if s.locks none = {} then some { s with loop := next } else none

def debugLoop (ok : Bool) (s : PauseState Thread) : Option (PauseState Thread) :=
  match s.loop with
  | .creating => s.leave .starting
  | .starting => some { s with gIsDebugging := true, loop := .checkQueue }
  -- The create-process event is already queued in the first round.
  | .checkQueue => some { s with loop := if ok then .waited else .unpause }
  | .unpause => some { s with gPaused := false, loop := .statusBefore }
  | .statusBefore => some { s with loop := .waiting }
  | .waiting => s.leave (if ok then .waited else .stopping)
  | .waited => (s.gMutexPaused.lock none).map fun mutex =>
      { s with gMutexPaused := mutex, loop := .reading }
  | .reading => some { s with
      gMutexPaused := s.gMutexPaused.unlock none, loop := if ok then .pause else .stopping }
  | .pause => some { s with gPaused := true, loop := .callbacks }
  | .callbacks => s.leave .flush
  | .flush => (s.gMutexPaused.lock none).map fun mutex =>
      { s with gMutexPaused := mutex, loop := .flushing }
  | .flushing => some { s with
      gMutexPaused := s.gMutexPaused.unlock none, loop := if ok then .checkQueue else .stopping }
  | .stopping => some { s with gIsDebugging := false, loop := .ended }
  | .ended => none

def step (s : PauseState Thread) : PauseAction Thread → Option (PauseState Thread)
  | .construct thread => if s.Calls thread then s.pauseLock thread else none
  | .destroy thread => if s.Calls thread then s.pauseUnlock thread else none
  | .loop ok => s.debugLoop ok

/-- Before a session no export is under way. `gPaused` is left as the last session left it. -/
def Initial (s : PauseState Thread) : Prop :=
  s = { gPaused := s.gPaused }

/-- The actions one after the other, as long as each is allowed and can be taken. -/
def runActions (allowed : PauseAction Thread → PauseState Thread → Bool) (s : PauseState Thread) :
    List (PauseAction Thread) → Option (PauseState Thread)
  | [] => some s
  | action :: rest =>
    if allowed action s then (s.step action).bind fun s' => s'.runActions allowed rest else none

/-- Any interleaving of the threads. -/
abbrev Interleaved : PauseState Thread → PauseState Thread → Prop :=
  ReflTransGen fun s s' => ∃ action, s.step action = some s'

theorem run_of_runActions {allowed : PauseAction Thread → PauseState Thread → Bool}
    {actions : List (PauseAction Thread)} {s s' : PauseState Thread}
    (h : s.runActions allowed actions = some s') :
    ReflTransGen (fun s s' => ∃ action, allowed action s = true ∧ s.step action = some s') s s' := by
  induction actions generalizing s with
  | nil =>
    obtain rfl := Option.some.inj h
    exact .refl
  | cons action rest ih =>
    simp only [runActions] at h
    split_ifs at h with hallowed
    obtain ⟨s₁, hstep, hrest⟩ := Option.bind_eq_some_iff.1 h
    exact (ih hrest).head ⟨action, hallowed, hstep⟩

/-- The thread is inside a section that a successful `PauseLock` guards. -/
def Locked (thread : Option Thread) (s : PauseState Thread) : Prop :=
  true ∈ (s.locks thread).mLocked

instance (thread : Option Thread) (s : PauseState Thread) : Decidable (s.Locked thread) :=
  inferInstanceAs (Decidable (_ ∈ _))

/-- An export of an API thread works on the target while the debug-loop thread waits. -/
def Overlaps (s : PauseState Thread) : Prop :=
  (s.loop = .waiting ∨ s.loop = .creating) ∧ ∃ thread : Thread, s.Locked (some thread)

/-- The thread has found `gPaused` set and has not left the `PauseLock` yet. -/
def Engaged (thread : Option Thread) (s : PauseState Thread) : Prop :=
  (s.locks thread).stage ≠ .ready ∨ s.Locked thread

instance (thread : Option Thread) (s : PauseState Thread) : Decidable (s.Engaged thread) :=
  inferInstanceAs (Decidable (_ ∨ _))

section Fields
variable {s : PauseState Thread} {thread thread' : Option Thread} {locks : PauseLocks}

@[simp] theorem setLocks_self : (s.setLocks thread locks).locks thread = locks := by
  simp [setLocks]

@[simp] theorem setLocks_of_ne (h : thread' ≠ thread) :
    (s.setLocks thread locks).locks thread' = s.locks thread' := by
  simp [setLocks, h]

@[simp] theorem setLocks_gPaused : (s.setLocks thread locks).gPaused = s.gPaused := rfl

@[simp] theorem setLocks_gIsDebugging :
    (s.setLocks thread locks).gIsDebugging = s.gIsDebugging := rfl

@[simp] theorem setLocks_loop : (s.setLocks thread locks).loop = s.loop := rfl

@[simp] theorem setLocks_gMutexPaused :
    (s.setLocks thread locks).gMutexPaused = s.gMutexPaused := rfl

end Fields

end PauseState

end TitanEngine

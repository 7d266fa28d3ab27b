import TitanEngine.Model.Calls

/-! What the client is told in the course of a session, and what becomes of the steps that it
has asked for. -/
namespace TitanEngine
open Relation

/-- The callbacks that are made for one event each, after the one that announces it. -/
def Invocation.isReport : Invocation → Bool
  | .handler .debugEvent | .handler .systemBreakpoint | .attach _ | .step .. => false
  | _ => true

/-- Work that an event callback of the engine queues. -/
def Work.isEvent : Work → Bool
  | .pause _ | .internalStep _ | .step .. => false
  | _ => true

/-- A step of a session in which only the engine reports events. -/
inductive EventStep (rules : Rules) : Session → Session → Prop
  | call {s s' : Session} (step : CallStep rules s s') : EventStep rules s s'
  | target {s : Session} {target : Target} (allowed : rules.target s target) :
      EventStep rules s { s with target := target }
  | stop {s : Session} {env : Env} {events : List (Env × Work)} (running : s.gPaused = false)
      (reported : ∀ event ∈ events, event.2.isEvent = true) : EventStep rules s (s.stop env events)
  | paused {s s' : Session} (paused : s.gPaused = true) (step : SessionStep rules s s') :
      EventStep rules s s'

abbrev EventRun (rules : Rules) : Session → Session → Prop := ReflTransGen (EventStep rules)

/-- A session before its first event. -/
structure Session.Fresh (s : Session) : Prop where
  unseen : s.log = []
  steps : s.steps = {}
  queue : s.gCallbackQueue = []

/-- The work runs the step callback for the thread. -/
def Work.steps (thread : ULONG) (callback : Callback) : Work → Bool
  | .step thread' callback' _ => thread' = thread ∧ callback' = some callback
  | _ => false

namespace Session

/-- How often a step callback waits to be run for a thread: for the stop after the step, for
the end of an internal step that has taken the step over, or in the queue. -/
def pendingSteps (thread : ULONG) (callback : Callback) (s : Session) : ℕ :=
  (if s.steps.gStepCallbacks[thread]? = some (some callback) then 1 else 0) +
    (s.steps.gInternalStepCallbacks.getD thread []).count (.userStep callback) +
    s.gCallbackQueue.countP fun entry => entry.2.steps thread callback

/-- The trap flag of the thread can be set. -/
structure Trappable (env : Env) (thread : ULONG) (s : Session) : Prop where
  live : s.gSessionKind = .live
  debugging : s.gIsDebugging = true
  named : ∃ handle index, s.gDebugIdMap.threadIndexToHandle[thread]? = some handle ∧
    s.gDebugIdMap.threadHandleToIndex[handle]? = some index ∧ env.context handle = true

end Session

/-- The thread does not exit, and traps whenever the adapter wants it to. -/
def lastingThread (thread : ULONG) : Rules where
  call _ _ _ := True
  work env work s :=
    match work with
    | .exitThread _ => env.currentThreadId.getD (BitVec.allOnes 32) ≠ thread
    | .exception _ => env.currentThreadId = some thread → s.Trappable env thread
    | _ => True
  target _ _ := True

/-- The callbacks of a log, newest first. -/
def invocations (log : List Entry) : List Invocation :=
  log.filterMap fun
    | .invoke inv => some inv
    | _ => none

/-- Every callback of an event follows the one that announces the event, and steps alone are
reported without one. -/
inductive Orderly : List Invocation → Prop
  | start : Orderly []
  | step {thread callback ip depth invs} (before : Orderly invs) :
      Orderly (.step thread callback ip depth :: invs)
  | event {invs} (before : Orderly invs) : Orderly (.handler .debugEvent :: invs)
  | report {inv invs} (report : inv.isReport = true) (before : Orderly invs) :
      Orderly (inv :: .handler .debugEvent :: invs)
  | attached {callback invs} (before : Orderly invs) :
      Orderly (.attach callback :: .handler .debugEvent :: invs)
  | stopped {invs} (before : Orderly invs) :
      Orderly (.handler .systemBreakpoint :: .handler .debugEvent :: invs)

/-- The callback tells of the system breakpoint: the handler for it, or what the client has
given to be called once it is attached. -/
def Invocation.announces : Invocation → Bool
  | .handler .systemBreakpoint | .attach _ => true
  | _ => false

/-- How a session that has been given `attach` tells of its system breakpoint. -/
def announcement (attach : Option Callback) : Invocation :=
  match attach with
  | some callback => .attach callback
  | none => .handler .systemBreakpoint

/-- What a client makes of a session: its callbacks, newest first, whether the system
breakpoint is still to come, and the callback that it has given for it. -/
structure Chronicle where
  told : List Invocation
  expected : Bool
  attach : Option Callback

/-- The callbacks of one event or one step. -/
inductive Chronicle.Next : Chronicle → Chronicle → Prop
  | step {c : Chronicle} (thread : ULONG) (callback : Callback) (ip : ULONG_PTR) (depth : ℕ) :
      Next c { c with told := .step thread callback ip depth :: c.told }
  | event {c : Chronicle} : Next c { c with told := .handler .debugEvent :: c.told }
  | report {c : Chronicle} {inv : Invocation} (report : inv.isReport = true) :
      Next c { c with told := inv :: .handler .debugEvent :: c.told }
  | announce {c : Chronicle} (expected : c.expected = true) :
      Next c { told := announcement c.attach :: .handler .debugEvent :: c.told
               expected := false, attach := none }

def Session.chronicle (s : Session) : Chronicle :=
  ⟨invocations s.log, s.gExpectSystemBreakpoint, s.gAttachCallback⟩

end TitanEngine

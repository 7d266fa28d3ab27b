import TitanEngine.Model.Events

/-! One round of `DebugLoop`: wait for the target, work off the queue, resume. -/
namespace TitanEngine

/-- How a round ends: the target is resumed with a status, the loop goes round without
resuming it, or the loop is left. -/
inductive Outcome
  | resumed (status : ExecutionStatus)
  | waiting
  | ended
  deriving DecidableEq

namespace Session

/-- A stop without an event callback is a pause the client asked for, or else the end
of the internal step or of the user step of the thread that stopped. -/
def recogniseStop (env : Env) (s : Session) : Session :=
  if s.gCallbackQueue ≠ [] then s
  else
    match s.gPauseCallback with
    | some callback => { s with gPauseCallback := none, gCallbackQueue := [(env, .pause callback)] }
    | none =>
      match env.currentThreadId with
      | none => s
      | some threadIndex =>
        if s.steps.gInternalStepCallbacks.contains threadIndex then
          { s with gCallbackQueue := [(env, .internalStep threadIndex)] }
        else
          match s.steps.gStepCallbacks[threadIndex]? with
          | none => s
          | some callback =>
            let threadSystemId := s.steps.gStepThreadSystemIds.getD threadIndex 0
            { s with steps.gStepCallbacks := s.steps.gStepCallbacks.erase threadIndex
                     steps.gStepThreadSystemIds := s.steps.gStepThreadSystemIds.erase threadIndex
                     steps.gStepStatuses := s.steps.gStepStatuses.erase threadIndex
                     gCallbackQueue := [(env, .step threadIndex callback threadSystemId)] }

/-- `WaitForEvent`, during which the event callbacks queue `events`. Queued work of the
round before is done first. -/
def awaitEvent (env : Env) (events : List (Env × Work)) (s : Session) : Session :=
  if s.gCallbackQueue ≠ [] then s
  else { s with gPaused := false, gCallbackQueue := events }.recogniseStop env

/-- Work off the queue in order, up to a piece that fails; what is left stays queued.
No call of the client queues work while the session is paused. -/
def drain (k : Client) : List (Env × Work) → Session → Session
  | [], s => { s with gCallbackQueue := [] }
  | (env, work) :: rest, s =>
    match work.run k env { s with gCallbackQueue := rest } with
    | (s, true) => drain k rest s
    | (s, false) => s

/-- `SetExecutionStatus` with the status that the stop settled on. -/
def applyExecutionStatus (env : Env) (s : Session) : Session × Outcome :=
  let status := s.gNextExecutionStatus
  let s := { s with gNextExecutionStatus := .noChange }
  if status = .noChange then (s, .waiting)
  else if s.gSessionKind = .minidump ∧ status = .break then (s, .waiting)
  else if env.hasDebuggee then ({ s with log := .resumed status :: s.log }, .resumed status)
  else (s, .waiting)

def debugLoop (k : Client) (env : Env) (events : List (Env × Work)) (s : Session) :
    Session × Outcome :=
  if s.gCallbackQueue = [] ∧ ¬ env.waitForEvent then (s, .ended)
  else
    let s := s.awaitEvent env events
    if ¬ env.readRegisters then (s, .ended)
    else
      let s := drain k s.gCallbackQueue { s with gPaused := true }
      if ¬ env.flushRegisters then (s, .ended) else s.applyExecutionStatus env

end Session

end TitanEngine

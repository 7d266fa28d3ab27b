import TitanEngine.Model.MemoryBreakpoints

/-! User steps, and the adapter's own single steps that carry a re-arm action. -/
namespace TitanEngine
namespace Session

/-- `debugStep`, behind `StepInto` and `StepOver` outside a replay session. -/
def debugStep (env : Env) (kind : StepKind) (callback : Option Callback) (s : Session) : Session :=
  if !s.pauseLock then s
  else
    match env.currentThreadId with
    | none => s
    | some threadIndex =>
      if s.steps.gStepCallbacks.contains threadIndex then s
      else
        { s with gNextExecutionStatus := kind.status.toExecution
                 steps.gStepCallbacks := s.steps.gStepCallbacks.insertIfNew threadIndex callback
                 steps.gStepThreadSystemIds :=
                   s.steps.gStepThreadSystemIds.insert threadIndex env.currentThreadSystemId
                 steps.gStepStatuses := s.steps.gStepStatuses.insertIfNew threadIndex kind.status
                 log := .stepRequested threadIndex callback :: s.log }

/-- Suspend the threads in order; returns the handles whose threads are now held. -/
def suspendThreads (env : Env) : List HANDLE → Session → Session × List HANDLE
  | [], s => (s, [])
  | handle :: handles, s =>
    let r := s.titanSuspendThread env handle
    let r' := suspendThreads env handles r.1
    (r'.1, if r.2 then handle :: r'.2 else r'.2)

def resumeThreads (handles : List HANDLE) (s : Session) : Session :=
  handles.foldl (fun s handle => s.titanResumeThread handle) s

/-- The other threads of `gDebugIdMap.threadIndexToHandle`, in the order of indices. -/
def peerHandles (threadIndex : ULONG) (s : Session) : List HANDLE :=
  (s.gDebugIdMap.threadIndexToHandle.toList.filter (·.1 ≠ threadIndex)).map (·.2)

/-- Take the user step of a thread out of its tables. -/
def takeUserStep (threadIndex : ULONG) (s : Session) : Session × Option Callback :=
  match s.steps.gStepCallbacks[threadIndex]? with
  | some callback =>
    ({ s with steps.gStepCallbacks := s.steps.gStepCallbacks.erase threadIndex
              steps.gStepThreadSystemIds := s.steps.gStepThreadSystemIds.erase threadIndex }, callback)
  | none => (s, none)

/-- What the closure of a new internal step runs. -/
def stepActions (action : StepAction) (userStep : Option Callback) : List StepAction :=
  action :: (userStep.map .userStep).toList

/-- Hold the peers of `threadIndex` and set its trap flag. -/
def armInternalStep (env : Env) (threadIndex : ULONG) (thread : HANDLE) (actions : List StepAction)
    (s : Session) : Session :=
  let held := s.suspendThreads env (s.peerHandles threadIndex)
  let suspendedThreads := s.steps.gInternalStepSuspendedThreads.getD threadIndex [] ++ held.2
  let s := { held.1 with steps.gInternalStepSuspendedThreads :=
               held.1.steps.gInternalStepSuspendedThreads.insert threadIndex suspendedThreads }
  match s.setCFlags env thread (s.getCFlags env thread ||| TRAP_FLAG) with
  | (s, false) =>
    let s := s.resumeThreads suspendedThreads
    { s with steps.gInternalStepSuspendedThreads :=
        s.steps.gInternalStepSuspendedThreads.erase threadIndex }
  | (s, true) =>
    { s with steps.gInternalStepCallbacks := s.steps.gInternalStepCallbacks.insert threadIndex actions
             steps.gStepStatuses := s.steps.gStepStatuses.insert threadIndex .goHandled }

def scheduleInternalStep (env : Env) (action : StepAction) (s : Session) : Session :=
  match env.currentThreadId with
  | none => s
  | some threadIndex =>
    match s.steps.gInternalStepCallbacks[threadIndex]? with
    | some previous =>
      { s with steps.gInternalStepCallbacks :=
          s.steps.gInternalStepCallbacks.insert threadIndex (previous ++ [action]) }
    | none =>
      let r := s.takeUserStep threadIndex
      match r.1.gDebugIdMap.threadIndexToHandle[threadIndex]? with
      | none => r.1
      | some thread => r.1.armInternalStep env threadIndex thread (stepActions action r.2)

def scheduleMemoryBreakpointRearm (env : Env) (page : ULONG_PTR) (s : Session) : Session :=
  s.scheduleInternalStep env (.rearmPage page)

/-- Run the step callback of the client. It sees the thread where it stopped. -/
def callStep (k : Client) (threadIndex : ULONG) (callback : Callback) (s : Session) : Session :=
  k.call (.step threadIndex callback (s.target.ip threadIndex) (s.target.depth threadIndex)) s

def runAction (k : Client) (env : Env) (threadIndex : ULONG) (action : StepAction) (s : Session) :
    Session :=
  match action with
  | .rearmBreakpoint id =>
    match s.bps.gBreakpoints[id]? with
    | some current => (s.writeNativeBreakpointBytes env current true).1
    | none => s
  | .rearmPage page =>
    if s.bps.gMemoryBreakpointPages.contains page then
      (s.protectMemoryBreakpointPage env page true).1
    else s
  | .userStep callback => s.callStep k threadIndex callback

def runActions (k : Client) (env : Env) (threadIndex : ULONG) (actions : List StepAction)
    (s : Session) : Session :=
  actions.foldl (fun s action => s.runAction k env threadIndex action) s

/-- Clear the trap flag where the thread is still known. -/
def clearTrapFlag (env : Env) (threadIndex : ULONG) (s : Session) : Session :=
  match s.gDebugIdMap.threadIndexToHandle[threadIndex]? with
  | some thread => (s.setCFlags env thread (s.getCFlags env thread &&& ~~~TRAP_FLAG)).1
  | none => s

/-- Let go of the threads that the internal step of `threadIndex` holds. -/
def releaseThreads (threadIndex : ULONG) (s : Session) : Session :=
  match s.steps.gInternalStepSuspendedThreads[threadIndex]? with
  | some suspended =>
    let s := s.resumeThreads suspended
    { s with steps.gInternalStepSuspendedThreads :=
        s.steps.gInternalStepSuspendedThreads.erase threadIndex }
  | none => s

/-- Forget the internal step of a thread; the target resumes as handled. -/
def forgetInternalStep (threadIndex : ULONG) (s : Session) : Session :=
  { s with steps.gInternalStepCallbacks := s.steps.gInternalStepCallbacks.erase threadIndex
           steps.gStepStatuses := s.steps.gStepStatuses.erase threadIndex
           gNextExecutionStatus := .goHandled }

/-- `none` where the thread has no internal step pending. -/
def completeInternalStep (k : Client) (env : Env) (threadIndex : ULONG) (s : Session) :
    Option Session :=
  match s.steps.gInternalStepCallbacks[threadIndex]? with
  | none => none
  | some actions =>
    some (((s.clearTrapFlag env threadIndex).forgetInternalStep threadIndex).runActions k env
      threadIndex actions |>.releaseThreads threadIndex)

end Session

end TitanEngine

import TitanEngine.Lib.Runs
import TitanEngine.Model.Timeline

/-! Movements of a replay: the watchpoint callback, the hits it records, single steps,
runs in both directions, and the pause requests that may meet a run. -/
namespace TitanEngine

def ttdMemoryBreakpointMatches (breakpoint : MemoryBreakpointInfo) (address accessType : ULONG64) :
    Bool :=
  if address < breakpoint.start ∨ breakpoint.size ≤ address - breakpoint.start then false
  else
    match breakpoint.type with
    | .memory => true
    | .read => accessType = DataAccessType.read.value
    | .write => accessType = DataAccessType.write.value
    | .execute => DataAccessType.write.value < accessType

/-- A thread-affine record lets the other threads pass. -/
def BreakpointInfo.admitsThread (info : BreakpointInfo) (uniqueThreadId : ULONG) : Bool :=
  info.ttdThreadAffinity = 0 ∨ info.ttdThreadAffinity = uniqueThreadId

namespace TtdSession

/-- The callback that the engine calls for each covered access; `true` stops the replay. -/
def ttdMemoryWatchpointCallback (result : MemoryWatchpointResult) (threadView : Option ThreadView)
    (t : TtdSession) : TtdSession × Bool :=
  match threadView with
  | none => (t, false)
  | some view =>
    let accessType := result.accessType.value
    let software := t.bps.gBreakpoints.toList.filter fun entry =>
      entry.2.kind = .software ∧ entry.2.offset = result.address
    let memory := t.bps.gMemoryBreakpoints.toList.filter fun entry =>
      ttdMemoryBreakpointMatches entry.2 result.address accessType
    let registeredWatchpoint := !software.isEmpty || !memory.isEmpty
    let acceptedWatchpoint :=
      (software.any fun entry => entry.2.admitsThread view.thread.uniqueId) || !memory.isEmpty
    if !registeredWatchpoint || !acceptedWatchpoint then (t, false)
    else
      let hit : TtdWatchHit :=
        ⟨result.address, result.size, accessType, view.position, view.thread.uniqueId, view.thread.id⟩
      ({ t with gTtdWatchHit := some hit }, true)

/-- `ttdReplay`: the callback is called for each access, and the cursor moves. -/
def ttdReplay (answer : ReplayAnswer) (t : TtdSession) : TtdSession :=
  let t := answer.accesses.foldl
    (fun t access => (t.ttdMemoryWatchpointCallback access.1 access.2).1) t
  { t with cursor := answer.cursor }

/-- The first code breakpoint, in the order of ids, that a hit belongs to. -/
def softwareBreakpointOf (hit : TtdWatchHit) (t : TtdSession) : Option (ULONG × BreakpointInfo) :=
  t.bps.gBreakpoints.toList.find? fun entry =>
    entry.2.kind = .software ∧ entry.2.offset = hit.address ∧ entry.2.admitsThread hit.uniqueThreadId

def memoryBreakpointOf (hit : TtdWatchHit) (t : TtdSession) :
    Option (ULONG64 × MemoryBreakpointInfo) :=
  t.bps.gMemoryBreakpoints.toList.find? fun entry =>
    ttdMemoryBreakpointMatches entry.2 hit.address hit.flags

/-- A one-shot code breakpoint is gone before its callback runs. -/
def consumeSoftware (env : Env) (id : ULONG) (info : BreakpointInfo) (t : TtdSession) : TtdSession :=
  if info.oneShot then
    let s := (t.toSession.removeMemoryWatchpoint env ⟨info.offset, 1, ACCESS_EXECUTE⟩).1
    { t with toSession := { s with bps.gBreakpoints := s.bps.gBreakpoints.erase id } }
  else t

def consumeMemory (env : Env) (id : ULONG64) (info : MemoryBreakpointInfo) (t : TtdSession) :
    TtdSession :=
  if info.restoreOnHit then t
  else { t with toSession := (t.toSession.removeMemoryBreakpointById env id).1 }

def queueTtdWatchpointHit (env : Env) (hit : Option TtdWatchHit) (t : TtdSession) :
    TtdSession × Bool :=
  match hit with
  | none => (t, false)
  | some hit =>
    match t.softwareBreakpointOf hit with
    | some (id, info) =>
      ((t.consumeSoftware env id info).queueCallback (.breakpoint hit info.callback), true)
    | none =>
      match t.memoryBreakpointOf hit with
      | some (id, info) =>
        ((t.consumeMemory env id info).queueCallback (.memoryBreakpoint hit info.callback), true)
      | none => (t, false)

/-- One round of the loops that `replayStep` and `runTtd` share. A hit at the position
before the movement is stale when nothing was executed: the flag asks for another round. -/
def replayAttempt (answer : ReplayAnswer) (setPositionOnThread : ULONG → TtdPosition → TtdCursor)
    (beforePosition : TtdPosition) (t : TtdSession) : TtdSession × ULONG64 × Bool :=
  let t := { t with gTtdWatchHit := none }.ttdReplay answer
  match t.gTtdWatchHit with
  | none => (t, answer.stepsExecuted, false)
  | some hit =>
    if answer.stepsExecuted ≠ 0 then (t, answer.stepsExecuted, false)
    else if hit.position ≠ beforePosition then
      ({ t with cursor := setPositionOnThread hit.uniqueThreadId hit.position }, 1, false)
    else (t, 0, true)

/-- At most two rounds; the flag tells whether the second one was needed. -/
def replayAttempts (answer : ℕ → ReplayAnswer) (setPositionOnThread : ULONG → TtdPosition → TtdCursor)
    (beforePosition : TtdPosition) (t : TtdSession) : TtdSession × ULONG64 × Bool :=
  match t.replayAttempt (answer 0) setPositionOnThread beforePosition with
  | (t, stepCount, false) => (t, stepCount, false)
  | (t, _, true) =>
    let r := t.replayAttempt (answer 1) setPositionOnThread beforePosition
    (r.1, r.2.1, true)

end TtdSession

/-- What the engine answers during one call of `replayStep`: the two attempts, the
calls that it reports with their fall-through addresses, and the selection of a thread. -/
structure StepAnswers where
  attempt : ℕ → ReplayAnswer
  calls : ℕ → List (ULONG64 × Option ThreadInfo) := fun _ => []
  setPositionOnThread : ULONG → TtdPosition → TtdCursor
  base : Env := {}

/-- `ttdCallReturnCallback` for each reported call, with the probe's return address. -/
def ttdCallReturnCallback (uniqueThreadId : ULONG) (calls : List (ULONG64 × Option ThreadInfo))
    (returnAddress : ULONG64) : ULONG64 :=
  calls.foldl (fun returnAddress call =>
    match call.2 with
    | some thread =>
      if call.1 ≠ 0 ∧ thread.uniqueId = uniqueThreadId then call.1 else returnAddress
    | none => returnAddress) returnAddress

namespace TtdSession

/-- The return address of the recorded call that the step executed, 0 without one. -/
def stepOverProbe (answers : StepAnswers) (uniqueThreadId : ULONG) (second : Bool) : ULONG64 :=
  let returnAddress := ttdCallReturnCallback uniqueThreadId (answers.calls 0) 0
  if second then ttdCallReturnCallback uniqueThreadId (answers.calls 1) returnAddress
  else returnAddress

/-- The end of a step: the hit is reported, or else the step itself. -/
def finishStep (env : Env) (stepCallBack : Option Callback) (t : TtdSession) : TtdSession × Bool :=
  let hit := t.gTtdWatchHit
  let t := { t with gTtdWatchHit := none }.refreshTtdTimeline
  match t.queueTtdWatchpointHit env hit, stepCallBack with
  | (t, false), some callback => (t.queueCallback (.step callback), true)
  | (t, _), _ => (t, true)

def replayStep (answers : StepAnswers) (reverse stepOver : Bool) (stepCallBack : Option Callback)
    (t : TtdSession) : TtdSession × Bool :=
  if t.gSessionKind ≠ .ttd ∨ t.gTtdCursor = none then t.fail ERROR_NOT_SUPPORTED
  else if reverse ∧ stepOver then t.fail ERROR_NOT_SUPPORTED
  else if t.gIsDebugging ∧ ¬ t.gPaused then t.fail ERROR_BUSY
  else if ¬ reverse ∧ t.gTtdProcessExitBoundary = some t.cursor.position then
    t.fail ERROR_NO_MORE_ITEMS
  else
    let thread := t.cursor.thread.uniqueId
    let r := t.replayAttempts answers.attempt answers.setPositionOnThread t.cursor.position
    if r.2.1 = 0 then { r.1 with gTtdWatchHit := none }.fail ERROR_NO_MORE_ITEMS
    else
      let t := r.1.updateTtdCursorIdentity
      let returnAddress := if stepOver then stepOverProbe answers thread r.2.2 else 0
      if returnAddress ≠ 0 ∧ t.gTtdWatchHit = none then
        -- The stepped instruction was a call: run on to its return.
        let added :=
          if (t.findSoftware returnAddress).isSome then (t, true)
          else
            let r := t.toSession.addTtdSoftwareBreakpoint answers.base returnAddress stepCallBack true thread
            ({ t with toSession := r.1 }, r.2)
        if !added.2 then ({ added.1 with gTtdWatchHit := none }, false)
        else
          let t := { added.1 with gTtdNextRunReverse := false, gTtdWatchHit := none }
          (t.refreshTtdTimeline, true)
      else t.finishStep answers.base stepCallBack

def replayStepBack (answers : StepAnswers) (stepCallBack : Option Callback) (t : TtdSession) :
    TtdSession × Bool := t.replayStep answers true false stepCallBack

/-- `StepInto` and `StepOver` of a replay: a step that fails is reported as well. -/
def ttdStep (answers : StepAnswers) (stepOver : Bool) (stepCallBack : Option Callback)
    (t : TtdSession) : TtdSession :=
  match t.replayStep answers false stepOver stepCallBack, stepCallBack with
  | (t, false), some callback => t.queueCallback (.step callback)
  | (t, _), _ => t

/-- `reached` is where `SetPosition` leaves the cursor. -/
def replaySetPosition (requested : TtdPosition) (reached : TtdCursor) (t : TtdSession) :
    TtdSession × Bool :=
  if t.gSessionKind ≠ .ttd ∨ t.gTtdCursor = none then t.fail ERROR_NOT_SUPPORTED
  else if requested < t.gTtdEngine.firstPosition ∨ t.gTtdEngine.lastPosition < requested ∨
      (t.gIsDebugging ∧ ¬ t.gPaused) then
    t.fail (if t.gIsDebugging ∧ ¬ t.gPaused then ERROR_BUSY else ERROR_INVALID_PARAMETER)
  else
    let t := { t with cursor := reached }
    if t.cursor.position ≠ requested then t.fail ERROR_INVALID_DATA
    else (t.updateTtdCursorIdentity.refreshTtdTimeline, true)

def replayRunBack (t : TtdSession) : TtdSession × Bool :=
  if t.gSessionKind ≠ .ttd ∨ t.gTtdCursor = none then t.fail ERROR_NOT_SUPPORTED
  else if t.gIsDebugging ∧ ¬ t.gPaused then t.fail ERROR_BUSY
  else ({ t with gTtdNextRunReverse := true }, true)

end TtdSession

/-- The atomic steps of `RequestPause` on another thread: claim the pause callback, which
only the first request gets, raise the flag, interrupt the engine. -/
inductive PauseStep
  | claim (callback : Callback)
  | raise
  | interruptReplay
  deriving DecidableEq

/-- The steps of pause requests that other threads take while `runTtd` runs, by the
point in the run: before each look at the flag, and before the callback is fetched. -/
structure PauseRequests where
  beforeFallbackStep : ℕ → List PauseStep := fun _ => []
  beforeParking : List PauseStep := []
  beforeExchange : List PauseStep := []
  beforeCallback : List PauseStep := []

/-- What the engine answers during one `runTtd`. The replays to a limit depend on it;
`singleStep` answers the backward steps of the fallback. -/
structure RunAnswers where
  replay : ℕ → TtdPosition → ReplayAnswer
  singleStep : ℕ → TtdPosition → ReplayAnswer
  park : ReplayAnswer
  setPositionOnThread : ULONG → TtdPosition → TtdCursor
  requests : PauseRequests := {}
  base : Env := {}

/-- The scan of the recorded exceptions for the nearest one ahead of `beforePosition`. -/
def nearestException (reverse : Bool) (beforePosition limit : TtdPosition)
    (events : List ExceptionEvent) : TtdPosition × Option ExceptionEvent :=
  events.foldl (fun nearest event =>
    if (¬ reverse ∧ beforePosition < event.position ∧ event.position < nearest.1) ∨
        (reverse ∧ event.position < beforePosition ∧ nearest.1 < event.position) then
      (event.position, some event)
    else nearest) (limit, none)

namespace TtdSession

def pauseStep (step : PauseStep) (t : TtdSession) : TtdSession :=
  match step with
  | .claim callback => { t with gPauseCallback := t.gPauseCallback.orElse fun _ => some callback }
  | .raise => { t with gTtdInterruptRequested := true }
  | .interruptReplay => t

def pauseSteps (steps : List PauseStep) (t : TtdSession) : TtdSession :=
  steps.foldl (fun t step => t.pauseStep step) t

/-- `RequestPause` made while no run is going on. -/
def requestPause (callback : Callback) (t : TtdSession) : TtdSession × Bool :=
  if ¬ t.gIsDebugging then t.fail ERROR_INVALID_PARAMETER
  else if t.gPauseCallback.isSome then (t, true)
  else (t.pauseSteps [.claim callback, .raise, .interruptReplay], true)

/-- The reverse fallback: backward steps until a hit, the limit, a request to stop, or
no progress. -/
def fallbackSteps (answers : RunAnswers) (movementLimit : TtdPosition) :
    ℕ → ℕ → ULONG64 → TtdSession → TtdSession × ULONG64
  | 0, _, totalSteps, t => (t, totalSteps)
  | fuel + 1, i, totalSteps, t =>
    let t := t.pauseSteps (answers.requests.beforeFallbackStep i)
    if t.gTtdStopRequested ∨ t.gTtdInterruptRequested then (t, totalSteps)
    else
      let singleStep := answers.singleStep i movementLimit
      let t := { t with gTtdWatchHit := none }.ttdReplay singleStep
      if singleStep.stepsExecuted = 0 ∧ t.gTtdWatchHit = none then (t, totalSteps)
      else
        let totalSteps := totalSteps + singleStep.stepsExecuted
        if t.gTtdWatchHit ≠ none ∨ t.cursor.position ≤ movementLimit then (t, totalSteps)
        else fallbackSteps answers movementLimit fuel (i + 1) totalSteps t

/-- The cursor is put on the thread and the position of the hit, if it is elsewhere. -/
def selectHit (setPositionOnThread : ULONG → TtdPosition → TtdCursor) (stepCount : ULONG64)
    (t : TtdSession) : TtdSession × ULONG64 :=
  match t.gTtdWatchHit with
  | some hit =>
    if t.cursor.position ≠ hit.position then
      ({ t with cursor := setPositionOnThread hit.uniqueThreadId hit.position },
        if stepCount = 0 then 1 else stepCount)
    else (t, stepCount)
  | none => (t, stepCount)

/-- The replays of a run: where they leave the session, the steps they took, and the
recorded exception that the cursor stands at. -/
def replayRun (answers : RunAnswers) (reverse : Bool) (t : TtdSession) :
    TtdSession × ULONG64 × Option ExceptionEvent :=
  let beforePosition := t.cursor.position
  let limit := if reverse then t.gTtdEngine.firstPosition else t.gTtdEngine.lastPosition
  let nearest := nearestException reverse beforePosition limit t.gTtdEngine.exceptionEvents
  let t := { t with gTtdWatchHit := none, gPaused := false }
  let r := t.replayAttempts (fun i => answers.replay i nearest.1) answers.setPositionOnThread
    beforePosition
  let r := if reverse ∧ r.2.1 = 0 ∧ r.1.gTtdWatchHit = none then
      fallbackSteps answers nearest.1 1000000 0 0 r.1
    else (r.1, r.2.1)
  let r := r.1.selectHit answers.setPositionOnThread r.2
  (r.1, r.2, nearest.2.filter fun event => event.position = r.1.cursor.position)

/-- One step back from the end of the trace, which then counts as the process exit. -/
def parkAtExit (answer : ReplayAnswer) (t : TtdSession) : TtdSession :=
  let t := { t with gTtdWatchHit := none }.ttdReplay answer
  let t :=
    if answer.stepsExecuted ≠ 0 then
      { t with gTtdProcessExitBoundary := some t.cursor.position
               noted := t.noted ++ [.published t.cursor.position] }
    else t
  { t with gTtdWatchHit := none }

/-- `runTtd` infers the process exit: steps were taken, and nothing else explains the stop. -/
def parkRun (answers : RunAnswers) (reverse : Bool) (stepCount : ULONG64)
    (event : Option ExceptionEvent) (t : TtdSession) : TtdSession :=
  let t := t.pauseSteps answers.requests.beforeParking
  if ¬ reverse ∧ stepCount ≠ 0 ∧ t.gTtdWatchHit = none ∧ event = none ∧ ¬ t.gTtdStopRequested ∧
      ¬ t.gTtdInterruptRequested then t.parkAtExit answers.park
  else t

/-- The cursor is handed back, with the hit taken out of the session. -/
def settleRun (t : TtdSession) : TtdSession × Option TtdWatchHit :=
  let t := { t with gPaused := true }.updateTtdCursorIdentity
  ({ t with gTtdWatchHit := none }.refreshTtdTimeline, t.gTtdWatchHit)

/-- `DebugEventCallbacks::Exception` for a recorded exception. -/
def queueException (event : ExceptionEvent) (t : TtdSession) : TtdSession :=
  let parameters := event.parameters.take 15
  if (event.code = DBG_PRINTEXCEPTION_C ∨ event.code = DBG_PRINTEXCEPTION_WIDE_C) ∧
      2 ≤ parameters.length then t.queueCallback (.outputDebugString event)
  else
    t.queueCallback
      (.exception ⟨event.code, event.programCounter, parameters, true⟩ t.gTtdCurrentThreadId event)

/-- What the run reports: a pause, the hit, the exception, or an end of the trace. -/
def reportRun (answers : RunAnswers) (reverse : Bool) (stepCount : ULONG64)
    (hit : Option TtdWatchHit) (event : Option ExceptionEvent) (t : TtdSession) : TtdSession × Bool :=
  if t.gTtdStopRequested then (t, true)
  else
    let t := t.pauseSteps answers.requests.beforeExchange
    if t.gTtdInterruptRequested then
      let t := { t with gTtdInterruptRequested := false }.pauseSteps answers.requests.beforeCallback
      ({ t with gPauseCallback := none }.queueCallback (.pause t.gPauseCallback), true)
    else
      match t.queueTtdWatchpointHit answers.base hit with
      | (t, true) => (t, true)
      | (t, false) =>
        match event with
        | some event => (t.queueException event, true)
        | none => (t.queueCallback (if reverse then .boundary else .exitProcess), stepCount ≠ 0)

def runTtd (answers : RunAnswers) (reverse : Bool) (t : TtdSession) : TtdSession × Bool :=
  let r := t.replayRun answers reverse
  let settled := (r.1.parkRun answers reverse r.2.1 r.2.2).settleRun
  settled.1.reportRun answers reverse r.2.1 settled.2 r.2.2

/-- What is queued beyond what was queued before. -/
def queuedSince (t before : TtdSession) : List TtdWork := t.queue.drop before.queue.length

def notedSince (t before : TtdSession) : List TtdEntry := t.noted.drop before.noted.length

end TtdSession

/-- A call of an exported function that moves the cursor, or a run of `DebugLoop`, with
what the engine answers. -/
inductive TtdMove
  | setPosition (requested : TtdPosition) (reached : TtdCursor)
  | stepBack (answers : StepAnswers) (stepCallBack : Option Callback)
  | step (answers : StepAnswers) (stepOver : Bool) (stepCallBack : Option Callback)
  | run (answers : RunAnswers)

/-- `DebugLoop` takes the direction of a run out of the session. -/
def TtdMove.apply (move : TtdMove) (t : TtdSession) : TtdSession :=
  match move with
  | setPosition requested reached => (t.replaySetPosition requested reached).1
  | stepBack answers stepCallBack => (t.replayStepBack answers stepCallBack).1
  | step answers stepOver stepCallBack => t.ttdStep answers stepOver stepCallBack
  | run answers => ({ t with gTtdNextRunReverse := false }.runTtd answers t.gTtdNextRunReverse).1

/-- Runs of a replay session: moves, the delivery of queued work in order, handles that
the client opens and closes, and what it does besides, in any order. -/
inductive TtdStep (allowed : TtdMove → TtdSession → Prop) (delivers : TtdWork → TtdSession → Prop)
    (opens : TtdSession → Prop) : TtdSession → TtdSession → Prop
  | move {move t} (allow : allowed move t) : TtdStep allowed delivers opens t (move.apply t)
  | deliver {t work rest} (queued : t.queue = work :: rest) (allow : delivers work t) :
      TtdStep allowed delivers opens t ({ t with queue := rest }.deliver work)
  | openProcess {dwProcessId t} (allow : opens t) :
      TtdStep allowed delivers opens t (t.titanOpenProcess dwProcessId).1
  | openThread {threads dwThreadId t} (allow : opens t) :
      TtdStep allowed delivers opens t (t.titanOpenThread threads dwThreadId).1
  | closeHandle {hEngineHandle closed t} :
      TtdStep allowed delivers opens t (t.titanCloseHandle hEngineHandle closed).1
  | breakpoints {t bps watchpoints} :
      TtdStep allowed delivers opens t { t with bps := bps, gTtdCursor := some watchpoints }
  | pause {t steps} : TtdStep allowed delivers opens t (t.pauseSteps steps)
  | runBack {t} : TtdStep allowed delivers opens t t.replayRunBack.1
  | loop {t} : TtdStep allowed delivers opens t { t with gIsDebugging := true, gPaused := true }

abbrev TtdRun (allowed : TtdMove → TtdSession → Prop) (delivers : TtdWork → TtdSession → Prop)
    (opens : TtdSession → Prop) : TtdSession → TtdSession → Prop :=
  Relation.ReflTransGen (TtdStep allowed delivers opens)

def TtdEntry.delivery? : TtdEntry → Option (TtdWork × DWORD)
  | .delivered work threadId => some (work, threadId)
  | .published _ => none

/-- The work delivered so far, oldest first, each with the thread id of its event. -/
def TtdSession.deliveries (t : TtdSession) : List (TtdWork × DWORD) :=
  t.noted.filterMap TtdEntry.delivery?

/-- `DebugLoop` runs what is queued, the oldest first; at most `n` of it. -/
def TtdSession.deliverQueued : ℕ → TtdSession → TtdSession
  | 0, t => t
  | n + 1, t =>
    match t.queue with
    | [] => t
    | work :: rest => deliverQueued n ({ t with queue := rest }.deliver work)

end TitanEngine

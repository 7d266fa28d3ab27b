import TitanEngine.Lib.Rounds
import TitanEngine.Model.Api
import TitanEngine.Model.ReplayRuns

/-! The branch of `DebugLoop` for a replay: it hands the queued work to the client, runs the
trace once a callback has asked for it, and sleeps when there is nothing to do. -/
namespace TitanEngine

/-- What the client calls in a replay. `breakpoints` stands for its breakpoint calls, by what
they leave of the tables and of the watchpoints of the cursor. -/
inductive ReplayCall
  | replaySetPosition (requested : TtdPosition) (reached : TtdCursor)
  | replayStepBack (answers : StepAnswers) (stepCallBack : Option Callback)
  | step (answers : StepAnswers) (stepOver : Bool) (stepCallBack : Option Callback)
  | replayRunBack
  | titanOpenProcess (dwProcessId : DWORD)
  | titanOpenThread (threads : List ThreadInfo) (dwThreadId : DWORD)
  | titanCloseHandle (hEngineHandle : HANDLE) (closed : Bool)
  | breakpoints (bps : BreakpointTables) (watchpoints : List MemoryWatchpointData)
  | setNextDbgContinueStatus (SetDbgCode : DWORD)
  | requestPause (callback : Callback)
  | stopDebug

namespace ReplayCall

/-- `StopDebug` before `DebugLoop` ends the session instead, see `Host.stopDebug`. -/
def run : ReplayCall → TtdSession → TtdSession
  | replaySetPosition requested reached, t => (t.replaySetPosition requested reached).1
  | replayStepBack answers stepCallBack, t => (t.replayStepBack answers stepCallBack).1
  | step answers stepOver stepCallBack, t => t.ttdStep answers stepOver stepCallBack
  | replayRunBack, t => t.replayRunBack.1
  | titanOpenProcess dwProcessId, t => (t.titanOpenProcess dwProcessId).1
  | titanOpenThread threads dwThreadId, t => (t.titanOpenThread threads dwThreadId).1
  | titanCloseHandle hEngineHandle closed, t => (t.titanCloseHandle hEngineHandle closed).1
  | breakpoints bps watchpoints, t => { t with bps := bps, gTtdCursor := some watchpoints }
  | setNextDbgContinueStatus code, t =>
    { t with toSession := (t.toSession.setNextDbgContinueStatus code).1 }
  | requestPause callback, t => (t.requestPause callback).1
  | stopDebug, t => { t with gTtdStopRequested := true }

/-- The calls that make a step, each of which may be reported to the client. -/
def isStep : ReplayCall → Bool
  | replayStepBack .. | step .. => true
  | _ => false

/-- `StepOver` of a recorded call leaves the run to its return to `DebugLoop`. -/
def isStepOver : ReplayCall → Bool
  | step _ stepOver _ => stepOver
  | _ => false

/-- The calls that move the cursor. -/
def isMove : ReplayCall → Bool
  | replaySetPosition .. | replayStepBack .. | step .. => true
  | _ => false

end ReplayCall

namespace TtdWork

/-- The exceptions that the client may leave unhandled. -/
def isUnhandled : TtdWork → Bool
  | exception .. => true
  | _ => false

/-- Work that ends in `dispatchSystemBreakpoint`. -/
def isSystemBreakpoint : TtdWork → Bool
  | initialBreakpoint _ | boundary | pause none => true
  | _ => false

end TtdWork

/-- Where in a run another thread's `StopDebug` raises its flag. Within the reverse fallback it
has the effect of an answer of the engine without steps, followed by `beforeParking`. -/
inductive StopPoint
  | beforeParking
  | beforeReport
  deriving DecidableEq

namespace TtdSession

def makeCalls (calls : List ReplayCall) (t : TtdSession) : TtdSession :=
  calls.foldl (fun t call => call.run t) t

/-- A closure of the queue, up to the calls of the client. -/
def beginWork (work : TtdWork) (t : TtdSession) : TtdSession :=
  let t := t.deliver work
  { t with
    gNextContinueStatus := if work.isUnhandled then DBG_EXCEPTION_NOT_HANDLED else DBG_CONTINUE
    gAttachCallback := if work.isSystemBreakpoint then none else t.gAttachCallback }

/-- A closure of the queue, with the calls that the client makes while it runs. -/
def work (work : TtdWork) (calls : List ReplayCall) (t : TtdSession) : TtdSession :=
  let t := (t.beginWork work).makeCalls calls
  { t with toSession := t.toSession.finishDebugEvent work.isUnhandled }

def stopIf (raised : Bool) (t : TtdSession) : TtdSession :=
  { t with gTtdStopRequested := t.gTtdStopRequested || raised }

/-- `runTtd`, with a `StopDebug` that may come while it runs. -/
def runTtdUnder (answers : RunAnswers) (reverse : Bool) (stop : Option StopPoint) (t : TtdSession) :
    TtdSession × Bool :=
  let r := t.replayRun answers reverse
  let moved := r.1.stopIf (stop = some StopPoint.beforeParking)
  let settled := (moved.parkRun answers reverse r.2.1 r.2.2).settleRun
  (settled.1.stopIf (stop = some StopPoint.beforeReport)).reportRun answers reverse r.2.1 settled.2 r.2.2

theorem runTtdUnder_none (answers : RunAnswers) (reverse : Bool) (t : TtdSession) :
    t.runTtdUnder answers reverse none = t.runTtd answers reverse := by
  simp [runTtdUnder, runTtd, stopIf]

end TtdSession

/-- The statuses with which `DebugLoop` runs the trace. -/
def ExecutionStatus.isGo : ExecutionStatus → Bool
  | .go | .goHandled | .goNotHandled => true
  | _ => false

inductive ReplayPhase
  | opened
  | looping
  | left
  deriving DecidableEq

/-- What an observer of the loop sees: calls of the client, work that is handed to it, runs of
the trace, and the loop going to sleep. -/
inductive ReplayEvent
  | called (call : ReplayCall)
  | delivered (work : TtdWork)
  | ran (reverse : Bool)
  | slept

def ReplayEvent.isRun : ReplayEvent → Bool
  | .ran _ => true
  | _ => false

/-- A replay session with the state of its loop, and what happened in it, newest first. -/
structure ReplayLoop where
  session : TtdSession
  phase : ReplayPhase := .opened
  history : List ReplayEvent := []

/-- Which moves of the cursor, which work and which calls for a handle a replay may take, by the
state in which they are made. -/
structure ReplayRules where
  move : TtdMove → TtdSession → Prop
  work : TtdWork → TtdSession → Prop
  opens : TtdSession → Prop

/-- Anything that the client and the replay engine can do. -/
def anyReplay : ReplayRules := ⟨fun _ _ => True, fun _ _ => True, fun _ => True⟩

namespace ReplayRules

def call (rules : ReplayRules) : ReplayCall → TtdSession → Prop
  | .replaySetPosition requested reached, t => rules.move (.setPosition requested reached) t
  | .replayStepBack answers stepCallBack, t => rules.move (.stepBack answers stepCallBack) t
  | .step answers stepOver stepCallBack, t => rules.move (.step answers stepOver stepCallBack) t
  | .titanOpenProcess _, t | .titanOpenThread .., t => rules.opens t
  | _, _ => True

def calls (rules : ReplayRules) : List ReplayCall → TtdSession → Prop
  | [], _ => True
  | call :: rest, t => rules.call call t ∧ rules.calls rest (call.run t)

end ReplayRules

namespace ReplayLoop

def noteCalls (calls : List ReplayCall) (history : List ReplayEvent) : List ReplayEvent :=
  (calls.map ReplayEvent.called).reverse ++ history

/-- A `StopDebug` that comes while the loop waits ends it at once. -/
def sleep (calls : List ReplayCall) (l : ReplayLoop) : ReplayLoop :=
  let t := { l.session with gNextExecutionStatus := .noChange }.makeCalls calls
  { session := t
    phase := if t.gTtdStopRequested then .left else .looping
    history := noteCalls calls (.slept :: l.history) }

/-- The steps of a replay. The client calls before `DebugLoop`, in its callbacks, and from other
threads while the loop sleeps; `StopDebug` and the parts of `RequestPause` come at any time. -/
inductive Step (rules : ReplayRules) : ReplayLoop → ReplayLoop → Prop
  | call {call : ReplayCall} {l : ReplayLoop} (early : l.phase = .opened)
      (goesOn : call ≠ .stopDebug) (allowed : rules.call call l.session) :
      Step rules l { l with session := call.run l.session, history := .called call :: l.history }
  | enter {l : ReplayLoop} (early : l.phase = .opened) :
      Step rules l
        { l with session := { l.session with gIsDebugging := true, gPaused := true }
                 phase := .looping }
  | deliver {work : TtdWork} {rest : List TtdWork} {calls : List ReplayCall} {l : ReplayLoop}
      (looping : l.phase = .looping) (queued : l.session.queue = work :: rest)
      (allowed : rules.work work l.session)
      (called : rules.calls calls ({ l.session with queue := rest }.beginWork work)) :
      Step rules l
        { l with session := { l.session with queue := rest }.work work calls
                 history := noteCalls calls (.delivered work :: l.history) }
  | run {answers : RunAnswers} {stop : Option StopPoint} {l : ReplayLoop}
      (looping : l.phase = .looping) (drained : l.session.queue = [])
      (free : l.session.gTtdStopRequested = false)
      (go : l.session.gNextExecutionStatus.isGo = true)
      (allowed : rules.move (.run answers) { l.session with gNextExecutionStatus := .noChange }) :
      Step rules l
        { l with session := ({ l.session with
                               gNextExecutionStatus := .noChange
                               gTtdNextRunReverse := false }.runTtdUnder answers
                             l.session.gTtdNextRunReverse stop).1
                 history := .ran l.session.gTtdNextRunReverse :: l.history }
  | sleep {calls : List ReplayCall} {l : ReplayLoop} (looping : l.phase = .looping)
      (drained : l.session.queue = []) (free : l.session.gTtdStopRequested = false)
      (idle : l.session.gNextExecutionStatus.isGo = false)
      (called : rules.calls calls { l.session with gNextExecutionStatus := .noChange }) :
      Step rules l (l.sleep calls)
  | pause {steps : List PauseStep} {l : ReplayLoop} :
      Step rules l { l with session := l.session.pauseSteps steps }
  | stop {l : ReplayLoop} (looping : l.phase = .looping) :
      Step rules l
        { l with session := { l.session with gTtdStopRequested := true }
                 history := .called .stopDebug :: l.history }
  | leave {l : ReplayLoop} (looping : l.phase = .looping) (drained : l.session.queue = [])
      (stopped : l.session.gTtdStopRequested = true) :
      Step rules l { l with phase := .left }

abbrev Run (rules : ReplayRules) : ReplayLoop → ReplayLoop → Prop := Relation.ReflTransGen (Step rules)

/-- What happened since the trace was last run, newest first. -/
def round (history : List ReplayEvent) : List ReplayEvent :=
  Rounds.round ReplayEvent.isRun history

end ReplayLoop

end TitanEngine

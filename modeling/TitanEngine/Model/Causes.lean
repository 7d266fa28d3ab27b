import TitanEngine.Model.Calls

/-! Breakpoint exceptions with what has raised them: a patch of the adapter, or an instruction
of the target's own. They may be delivered long after they were raised. -/
namespace TitanEngine

/-- The exceptions that executing the patch of a record raises. -/
inductive BreakpointInfo.Raises (bp : BreakpointInfo) (info : EXCEPTION_DEBUG_INFO) : Prop
  | int3 (patch : bp.patch = [0xCC]) (code : info.code = EXCEPTION_BREAKPOINT)
      (address : info.address = bp.offset)
  | longInt3 (patch : bp.patch = [0xCD, 0x03]) (code : info.code = EXCEPTION_BREAKPOINT)
      (address : info.address = bp.offset ∨ info.address = bp.offset + 1)
  | ud2 (patch : bp.patch = [0x0F, 0x0B]) (code : info.code = EXCEPTION_ILLEGAL_INSTRUCTION)
      (address : info.address = bp.offset)

/-- The patch of a record is in the target. -/
def BreakpointInfo.Installed (bp : BreakpointInfo) (s : Session) : Prop :=
  bp.nativePatch = true ∧ s.target.memory.read bp.offset bp.patchSize = bp.patch

inductive Cause
  | own
  | patch (id : ULONG) (bp : BreakpointInfo) (callback : Invocation)

/-- What can be the cause of an exception that is raised now. -/
def Cause.Raises (info : EXCEPTION_DEBUG_INFO) (s : Session) : Cause → Prop
  | .own =>
    (info.code = EXCEPTION_BREAKPOINT ∨ info.code = EXCEPTION_ILLEGAL_INSTRUCTION) ∧
      ∀ (id : ULONG) (bp : BreakpointInfo), s.bps.gBreakpoints[id]? = some bp → bp.Raises info →
        ¬ bp.Installed s
  | .patch id bp callback =>
    s.bps.gBreakpoints[id]? = some bp ∧ bp.Installed s ∧ bp.Raises info ∧
      bp.invocation = some callback

/-- An exception that has been handled: the session before and after it, and whether the
queue is worked off further. -/
structure Delivery where
  env : Env
  info : EXCEPTION_DEBUG_INFO
  cause : Cause
  before : Session
  after : Session
  done : Bool

/-- A session, and the breakpoint exceptions that have been raised and not yet handled. -/
structure RaisedSession where
  session : Session
  raised : List (EXCEPTION_DEBUG_INFO × Cause) := []

/-- Anything but the work on a breakpoint exception. -/
def otherWork : Rules where
  call _ _ _ := True
  work _ work _ := ∀ info, work = .exception info →
    info.code ≠ EXCEPTION_BREAKPOINT ∧ info.code ≠ EXCEPTION_ILLEGAL_INSTRUCTION
  target _ _ := True

/-- What happens in a session from its start on, with the exceptions handled so far, the
latest first. -/
inductive ExceptionHistory : List Delivery → RaisedSession → Prop
  | start {s : Session} (live : s.gSessionKind = .live) (debugging : s.gIsDebugging = true)
      (fresh : s.bps = {}) : ExceptionHistory [] { session := s }
  | step {past : List Delivery} {w : RaisedSession} {s : Session} (before : ExceptionHistory past w)
      (step : SessionStep otherWork w.session s) : ExceptionHistory past { w with session := s }
  | raise {past : List Delivery} {w : RaisedSession} {info : EXCEPTION_DEBUG_INFO} {cause : Cause}
      (before : ExceptionHistory past w) (running : w.session.gPaused = false)
      (raises : cause.Raises info w.session) :
      ExceptionHistory past { w with raised := (info, cause) :: w.raised }
  | deliver {past : List Delivery} {w : RaisedSession} {k : Client} {env env' : Env}
      {info : EXCEPTION_DEBUG_INFO} {cause : Cause} {rest : List (Env × Work)}
      {earlier later : List (EXCEPTION_DEBUG_INFO × Cause)} {s : Session} {done : Bool}
      (before : ExceptionHistory past w) (follows : k.Follows anyRules) (paused : w.session.gPaused = true)
      (queued : w.session.gCallbackQueue = (env, .exception info) :: rest)
      (pending : w.raised = earlier ++ (info, cause) :: later)
      (handled : (Work.exception info).run k env (w.session.dequeue rest) = (s, done)) :
      ExceptionHistory (⟨env, info, cause, w.session.dequeue rest, s, done⟩ :: past)
        ⟨if done then s else (s.applyExecutionStatus env').1, earlier ++ later⟩

/-- What the client was told, and what was done about exceptions, the latest first. -/
def reports (s s' : Session) : List Entry :=
  (s'.log.take (s'.log.length - s.log.length)).filter fun entry =>
    match entry with
    | .stepRequested .. => false
    | _ => true

namespace Delivery
variable (d : Delivery)

def Told (inv : Invocation) : Prop := .invoke inv ∈ reports d.before d.after

/-- The first breakpoint of a live session is the system's. -/
def Expected : Prop := d.info.code = EXCEPTION_BREAKPOINT ∧ d.before.gExpectSystemBreakpoint = true

/-- The exception is dropped, and the client is told only that there is an event. -/
def Suppressed : Prop := d.done = true ∧ reports d.before d.after = [.invoke (.handler .debugEvent)]

/-- The exception is taken for what has raised it. -/
def Attributed : Prop :=
  match d.cause with
  | .own =>
    (d.Expected → d.Told (.handler .systemBreakpoint) ∨ ∃ callback, d.Told (.attach callback)) ∧
      (¬ d.Expected → d.Told (.handler .unhandledException))
  | .patch id bp callback =>
    (d.before.bps.gBreakpoints[id]? = some bp → d.Told callback) ∧
      (d.before.bps.gBreakpoints[id]? ≠ some bp → d.Suppressed)

end Delivery

end TitanEngine

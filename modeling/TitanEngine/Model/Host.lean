import TitanEngine.Model.Runs
import TitanEngine.Model.ReplayRuns

/-! The process that hosts the adapter: the globals that one session leaves to the next,
how a session is started, and how it ends. -/
namespace TitanEngine

structure PROCESS_INFORMATION where
  hProcess : HANDLE := 0
  hThread : HANDLE := 0
  dwProcessId : DWORD := 0
  dwThreadId : DWORD := 0
  deriving DecidableEq

def DEBUG_ANY_ID : ULONG := 0xFFFFFFFF

def ERROR_BAD_FORMAT : DWORD := 11

/-- A closure of `gCallbackQueue`: the work of an event callback, or the stored exception
that a dump begins with. `teb` is the data offset of a creation event, and `peb` what
`GetCurrentProcessPeb` answers when the work runs, 0 where it fails. -/
inductive Closure
  | event (env : Env) (work : Work) (peb teb : ULONG64)
  | initialException (env : Env) (info : EXCEPTION_DEBUG_INFO)

namespace Closure

def run (k : Client) : Closure → Session → Session × Bool
  | event env work _ _, s => work.run k env s
  | initialException env info, s =>
    ((s.setFakeDebugEvent env (.exception info)).dispatchSystemBreakpoint k, true)

/-- The process that a create-process event announces. -/
def createdProcess : Closure → Option PROCESS_INFORMATION
  | event env (.createProcess handle initialThread) _ _ =>
    some ⟨handle, initialThread, Session.debugProcessId env, Session.debugThreadId env⟩
  | _ => none

/-- `gProcessPebCache` after the closure, which starts in the session `s`. -/
def pebCache (s : Session) (cache : Map HANDLE ULONG64) : Closure → Map HANDLE ULONG64
  | event _ (.createProcess handle _) peb _ =>
    if s.gSessionKind = .ttd then cache else cache.insert handle peb
  | event env (.exitProcess _) _ _ =>
    match s.gDebugIdMap.processIndexToHandle[env.currentProcessId.getD DEBUG_ANY_ID]? with
    | some handle => if handle = 0 then cache else cache.erase handle
    | none => cache
  | _ => cache

/-- `gProcessTebCache` after the closure. -/
def tebCache (s : Session) (cache : Map HANDLE ULONG64) : Closure → Map HANDLE ULONG64
  | event _ (.createThread handle) _ teb => cache.insert handle teb
  | event _ (.createProcess _ initialThread) _ teb => cache.insert initialThread teb
  | event env (.exitThread _) _ _ =>
    match s.gDebugIdMap.threadIndexToHandle[env.currentThreadId.getD DEBUG_ANY_ID]? with
    | some handle => if handle = 0 then cache else cache.erase handle
    | none => cache
  | _ => cache

end Closure

/-- The globals of the process. While a trace is replayed they are those of `ttd`, with the
closures that the replay has queued. The queue holds each closure with the session attempt
that queued it, which only an observer sees; the queue of `session` itself stays empty. -/
structure Host where
  session : Session := { gSessionKind := .none, gPaused := false, gIsDebugging := false }
  ttd : Option TtdSession := none
  gProcessPebCache : Map HANDLE ULONG64 := ∅
  gProcessTebCache : Map HANDLE ULONG64 := ∅
  gNextSyntheticHandle : ULONG_PTR := 1
  gProcessInfo : PROCESS_INFORMATION := {}
  gProcessCreatedEvent : Bool := false
  gSessionGeneration : ℕ := 0
  gCallbackQueue : List (ℕ × Closure) := []

/-- The place of an entry in the tables that a session fills. -/
inductive Slot
  | processIndexToHandle (index : ULONG)
  | processHandleToIndex (handle : HANDLE)
  | threadIndexToHandle (index : ULONG)
  | threadHandleToIndex (handle : HANDLE)
  | processPeb (handle : HANDLE)
  | processTeb (handle : HANDLE)
  | handle (handle : HANDLE)
  | stepCallback (threadIndex : ULONG)
  | stepThreadSystemId (threadIndex : ULONG)
  | internalStepCallback (threadIndex : ULONG)
  | internalStepSuspendedThreads (threadIndex : ULONG)
  | stepStatus (threadIndex : ULONG)
  | breakpoint (id : ULONG)
  | hardwareBreakpointId (register : DWORD)
  | memoryBreakpoint (id : ULONG64)
  | memoryBreakpointPage (page : ULONG_PTR)
  | retiredBreakpointAddress (address : ULONG64)

/-- What a table holds in a place. -/
inductive Content
  | handle (handle : HANDLE)
  | index (index : ULONG)
  | address (address : ULONG64)
  | registered (entry : TitanHandleEntry)
  | callback (callback : Option Callback)
  | systemId (id : DWORD)
  | actions (actions : List StepAction)
  | handles (handles : List HANDLE)
  | status (status : StepStatus)
  | breakpoint (info : BreakpointInfo)
  | memoryBreakpoint (info : MemoryBreakpointInfo)
  | page (info : MemoryBreakpointPage)

/-- The step tables and the breakpoint tables. -/
def Slot.isClientTable : Slot → Bool
  | .stepCallback _ | .stepThreadSystemId _ | .internalStepCallback _
  | .internalStepSuspendedThreads _ | .stepStatus _ | .breakpoint _ | .hardwareBreakpointId _
  | .memoryBreakpoint _ | .memoryBreakpointPage _ | .retiredBreakpointAddress _ => true
  | _ => false

namespace Host

/-- The session globals that are in force. -/
def globals (h : Host) : Session :=
  match h.ttd with
  | some t => t.toSession
  | none => h.session

def tebs (h : Host) : Map HANDLE ULONG64 :=
  match h.ttd with
  | some t => t.gProcessTebCache
  | none => h.gProcessTebCache

def entry (h : Host) : Slot → Option Content
  | .processIndexToHandle index => (h.globals.gDebugIdMap.processIndexToHandle[index]?).map .handle
  | .processHandleToIndex handle => (h.globals.gDebugIdMap.processHandleToIndex[handle]?).map .index
  | .threadIndexToHandle index => (h.globals.gDebugIdMap.threadIndexToHandle[index]?).map .handle
  | .threadHandleToIndex handle => (h.globals.gDebugIdMap.threadHandleToIndex[handle]?).map .index
  | .processPeb handle => (h.gProcessPebCache[handle]?).map .address
  | .processTeb handle => (h.tebs[handle]?).map .address
  | .handle handle => (h.globals.gHandleRegistry[handle]?).map .registered
  | .stepCallback index => (h.globals.steps.gStepCallbacks[index]?).map .callback
  | .stepThreadSystemId index => (h.globals.steps.gStepThreadSystemIds[index]?).map .systemId
  | .internalStepCallback index => (h.globals.steps.gInternalStepCallbacks[index]?).map .actions
  | .internalStepSuspendedThreads index =>
    (h.globals.steps.gInternalStepSuspendedThreads[index]?).map .handles
  | .stepStatus index => (h.globals.steps.gStepStatuses[index]?).map .status
  | .breakpoint id => (h.globals.bps.gBreakpoints[id]?).map .breakpoint
  | .hardwareBreakpointId register => (h.globals.bps.gHardwareBreakpointIds[register]?).map .index
  | .memoryBreakpoint id => (h.globals.bps.gMemoryBreakpoints[id]?).map .memoryBreakpoint
  | .memoryBreakpointPage page => (h.globals.bps.gMemoryBreakpointPages[page]?).map .page
  | .retiredBreakpointAddress address =>
    if h.globals.bps.gRetiredBreakpointAddresses.contains address then some (.address address)
    else none

def fail (error : DWORD) (h : Host) : Host := { h with session.lastError := error }

/-- An event callback of DbgEng: the first process is the one that is debugged. -/
def callback (closure : Closure) (h : Host) : Host :=
  let h := { h with gCallbackQueue := h.gCallbackQueue ++ [(h.gSessionGeneration, closure)] }
  match closure.createdProcess with
  | some info =>
    if h.gProcessInfo.dwProcessId = 0 then
      { h with gProcessInfo := info, gProcessCreatedEvent := true }
    else h
  | none => h

def callbacks (closures : List Closure) (h : Host) : Host :=
  closures.foldl (fun h closure => h.callback closure) h

/-- What a live session resets when it is started. -/
def beginLive (h : Host) : Host :=
  { h with
    gProcessInfo := {}
    gSessionGeneration := h.gSessionGeneration + 1
    gProcessCreatedEvent := false
    session := { h.session with gExpectSystemBreakpoint := true
                                gNextExecutionStatus := .noChange
                                gNextContinueStatus := DBG_CONTINUE } }

end Host

/-- What DbgEng and Windows answer while a live session is started. `error` is what
`CreateProcess2Wide` or `AttachProcess` fails with; `created` and `waited` are the event
callbacks made by then, and those made by `WaitForEvent`. -/
structure Launch where
  error : Option DWORD := none
  created : List Closure := []
  waitForEvent : Bool := true
  waited : List Closure := []
  initProcess : Option HANDLE := none
  initThread : Option HANDLE := none
  duplicateError : DWORD := 0

namespace Host

def initDebugW (named : Bool) (launch : Launch) (h : Host) : Host × Option PROCESS_INFORMATION :=
  if !named then (h.fail ERROR_INVALID_PARAMETER, none)
  else
    let h := h.beginLive.callbacks launch.created
    match launch.error with
    | some error => (h.fail error, none)
    | none =>
      let known := h.gProcessCreatedEvent
      let h := if known then h else h.callbacks launch.waited
      if !known && !(launch.waitForEvent && h.gProcessCreatedEvent) then
        ({ h with gProcessInfo := {} }.fail ERROR_GEN_FAILURE, none)
      else
        let duplicate (source : HANDLE) (target : Option HANDLE) := if source = 0 then none else target
        match duplicate h.gProcessInfo.hProcess launch.initProcess,
          duplicate h.gProcessInfo.hThread launch.initThread with
        | some initProcess, some initThread =>
          let s := h.session.registerTitanHandle initProcess .process DEBUG_ANY_ID
            h.gProcessInfo.dwProcessId true
          let s := s.registerTitanHandle initThread .thread DEBUG_ANY_ID h.gProcessInfo.dwThreadId true
          let info := { h.gProcessInfo with hProcess := initProcess, hThread := initThread }
          ({ h with session := { s with gSessionKind := .live }, gProcessInfo := info }, some info)
        | _, _ => ({ h with gProcessInfo := {} }.fail launch.duplicateError, none)

/-- `AttachDebugger` up to its call of `DebugLoop`. -/
def attachDebugger (given : Bool) (CallBack : Option Callback) (launch : Launch) (h : Host) :
    Host × Bool :=
  if !given then (h.fail ERROR_INVALID_PARAMETER, false)
  else
    let h := h.beginLive
    let h := { h with session.gAttachCallback := CallBack, session.gPauseCallback := none }
    let h := h.callbacks launch.created
    match launch.error with
    | some error => ({ h with session.gAttachCallback := none }.fail error, false)
    | none =>
      let h := h.callbacks launch.waited
      if !(launch.waitForEvent && h.gProcessCreatedEvent) then
        ({ h with session.gAttachCallback := none }.fail ERROR_GEN_FAILURE, false)
      else ({ h with session.gSessionKind := .live }, true)

end Host

/-- What DbgEng tells of a dump. The initial thread is the one of `threadIndex`; `threads`
are all threads with their engine ids, system ids and TEBs, `modules` the bases of the
loaded modules and `exception` is the stored exception. -/
structure Dump where
  processIndex : ULONG
  threadIndex : ULONG
  processSystemId : DWORD
  threadSystemId : DWORD
  peb : ULONG64 := 0
  teb : ULONG64 := 0
  threads : List (ULONG × DWORD × ULONG64)
  modules : List ULONG_PTR := []
  exception : EXCEPTION_DEBUG_INFO
  env : Env := {}

/-- What opening an artifact comes to: it is rejected at some point, with the last error that
is set then, or it is a trace, with the thread its cursor is on at first, or a dump. -/
inductive Artifact
  | rejected (error : DWORD)
  | trace (trace : Trace) (thread : ThreadInfo) (peb : ULONG64)
  | minidump (dump : Dump)

namespace Host

def createSyntheticTitanHandle (type : TitanHandleType) (dbgengId : ULONG) (systemId : DWORD)
    (callerOwned : Bool) (h : Host) : Host × HANDLE :=
  let handle := TtdSession.syntheticHandle h.gNextSyntheticHandle
  ({ h with
     gNextSyntheticHandle := h.gNextSyntheticHandle + 1
     session.gHandleRegistry :=
       if handle = 0 ∨ handle = BitVec.allOnes 64 then h.session.gHandleRegistry
       else h.session.gHandleRegistry.insert handle ⟨type, dbgengId, systemId, 0, callerOwned⟩ },
    handle)

/-- The tables of handles, which every end of a replay empties, and so does its beginning. -/
def clearHandles (h : Host) : Host :=
  { h with
    gProcessInfo := {}
    gProcessPebCache := ∅
    gProcessTebCache := ∅
    gCallbackQueue := []
    session := { h.session with gDebugIdMap := {}, gHandleRegistry := ∅ } }

def beginReplay (h : Host) : Host :=
  let h := h.clearHandles
  { h with
    gSessionGeneration := h.gSessionGeneration + 1
    session := { h.session with gExpectSystemBreakpoint := false
                                gNextExecutionStatus := .noChange
                                gNextContinueStatus := DBG_CONTINUE } }

/-- The lambda `fail` of `InitReplayW`. -/
def rejectReplay (error : DWORD) (h : Host) : Host :=
  let h := h.clearHandles
  { h with
    session := { h.session with gPauseCallback := none, gTtdCursor := none
                                gSessionKind := .none } }.fail error

/-- A thread of a dump besides the initial one. -/
def bootstrapDumpThread (dump : Dump) (h : Host) (thread : ULONG × DWORD × ULONG64) : Host :=
  if thread.1 = dump.threadIndex then h
  else
    let r := h.createSyntheticTitanHandle .thread thread.1 thread.2.1 false
    let s := r.1.session.rememberThread r.2 thread.1
    { r.1 with
      session := s
      gProcessTebCache := r.1.gProcessTebCache.insert r.2 thread.2.2 }.callback
        (.event dump.env (.createThread r.2) 0 thread.2.2)

/-- The snapshot that stands for the events of a dump. -/
def bootstrapDump (dump : Dump) (h : Host) : Host :=
  let eventProcess := h.createSyntheticTitanHandle .process dump.processIndex dump.processSystemId false
  let eventThread :=
    eventProcess.1.createSyntheticTitanHandle .thread dump.threadIndex dump.threadSystemId false
  let h := eventThread.1
  let s := (h.session.rememberProcess eventProcess.2 dump.processIndex).rememberThread eventThread.2
    dump.threadIndex
  let h :=
    { h with
      session := { s with gSessionKind := .minidump }
      gProcessPebCache := h.gProcessPebCache.insert eventProcess.2 dump.peb
      gProcessTebCache := h.gProcessTebCache.insert eventThread.2 dump.teb
      gProcessInfo := ⟨eventProcess.2, eventThread.2, dump.processSystemId, dump.threadSystemId⟩
      gCallbackQueue := [] }
  let h := h.callback
    (.event dump.env (.createProcess eventProcess.2 eventThread.2) dump.peb dump.teb)
  let h := dump.threads.foldl (bootstrapDumpThread dump) h
  let h := (dump.modules.drop 1).foldl
    (fun h base => h.callback (.event dump.env (.loadModule base) 0 0)) h
  h.callback (.initialException dump.env dump.exception)

/-- The handles of a dump that the caller gets. -/
def dumpHandles (dump : Dump) (h : Host) : Host × PROCESS_INFORMATION :=
  let initProcess := h.createSyntheticTitanHandle .process dump.processIndex dump.processSystemId true
  let initThread :=
    initProcess.1.createSyntheticTitanHandle .thread dump.threadIndex dump.threadSystemId true
  let h := initThread.1
  let info : PROCESS_INFORMATION :=
    ⟨initProcess.2, initThread.2, dump.processSystemId, dump.threadSystemId⟩
  let idMap :=
    { h.session.gDebugIdMap with
      processHandleToIndex :=
        h.session.gDebugIdMap.processHandleToIndex.insert initProcess.2 dump.processIndex
      threadHandleToIndex :=
        h.session.gDebugIdMap.threadHandleToIndex.insert initThread.2 dump.threadIndex }
  ({ h with
     session.gDebugIdMap := idMap
     gProcessPebCache := h.gProcessPebCache.insert initProcess.2 dump.peb
     gProcessTebCache := h.gProcessTebCache.insert initThread.2 dump.teb
     gProcessInfo := info }, info)

/-- The process with the replay `t` open. Its event process is the first handle it makes,
and the caller's handles are the last two. -/
def openTrace (peb : ULONG64) (t : TtdSession) (h : Host) : Host × PROCESS_INFORMATION :=
  let eventProcess := TtdSession.syntheticHandle h.gNextSyntheticHandle
  let initProcess := TtdSession.syntheticHandle (t.gNextSyntheticHandle - 2)
  let initThread := TtdSession.syntheticHandle (t.gNextSyntheticHandle - 1)
  let info : PROCESS_INFORMATION :=
    ⟨initProcess, initThread, t.gTtdEngine.processId, t.cursor.thread.id⟩
  ({ h with
     ttd := some t
     gProcessPebCache := (h.gProcessPebCache.insert eventProcess peb).insert initProcess peb
     gProcessInfo := info }, info)

def initReplayW (given : Bool) (artifact : Artifact) (h : Host) : Host × Option PROCESS_INFORMATION :=
  if !given then (h.fail ERROR_INVALID_PARAMETER, none)
  else if h.globals.gSessionKind ≠ .none ∨ h.globals.gIsDebugging then (h.fail ERROR_BUSY, none)
  else
    let h := h.beginReplay
    match artifact with
    | .rejected error => (h.rejectReplay error, none)
    | .trace trace thread peb =>
      match TtdSession.initReplay trace thread h.gNextSyntheticHandle h.session with
      | some t =>
        let r := h.openTrace peb t
        (r.1, some r.2)
      | none => (h.rejectReplay ERROR_BAD_FORMAT, none)
    | .minidump dump =>
      let r := (h.bootstrapDump dump).dumpHandles dump
      (r.1, some r.2)

end Host

end TitanEngine

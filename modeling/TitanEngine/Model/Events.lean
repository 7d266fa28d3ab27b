import TitanEngine.Model.InternalSteps

/-! The queued work of the event callbacks. -/
namespace TitanEngine
namespace Session

def beginDebugEvent (k : Client) (unhandledException : Bool) (s : Session) : Session :=
  k.call (.handler .debugEvent)
    { s with gNextContinueStatus :=
        if unhandledException then DBG_EXCEPTION_NOT_HANDLED else DBG_CONTINUE }

/-- The status that an event asks for when nothing has asked for one before. -/
def eventStatus (unhandledException : Bool) (s : Session) : ExecutionStatus :=
  if s.gSessionKind = .minidump then .break
  else
    match s.steps.gStepStatuses.first with
    | some (_, status) => status.toExecution
    | none =>
      if unhandledException ∧ s.gNextContinueStatus = DBG_EXCEPTION_NOT_HANDLED then .goNotHandled
      else .goHandled

def finishDebugEvent (unhandledException : Bool) (s : Session) : Session :=
  if s.gNextExecutionStatus = .noChange then
    { s with gNextExecutionStatus := s.eventStatus unhandledException }
  else s

def dispatchDebugEvent (k : Client) (id : TitanCustomHandler) (unhandledException : Bool)
    (s : Session) : Session :=
  (k.call (.handler id) (s.beginDebugEvent k unhandledException)).finishDebugEvent unhandledException

def dispatchSystemBreakpoint (k : Client) (s : Session) : Session :=
  let s := s.beginDebugEvent k false
  let s :=
    match s.gAttachCallback with
    | some callback => k.call (.attach callback) { s with gAttachCallback := none }
    | none => k.call (.handler .systemBreakpoint) s
  s.finishDebugEvent false

/-- The exception goes to the client's handler, as one of the target's own. -/
def dispatchUnhandledException (k : Client) (env : Env) (info : EXCEPTION_DEBUG_INFO)
    (s : Session) : Session :=
  { s with log := .delivered env.currentThreadId info.address :: s.log }.dispatchDebugEvent k
    .unhandledException true

/-- The first memory breakpoint of the page that the access belongs to. -/
def hitMemoryBreakpoint (accessType accessAddress : ULONG_PTR) (ids : List ULONG64) (s : Session) :
    Option MemoryBreakpointInfo :=
  ids.findSome? fun id =>
    (s.bps.gMemoryBreakpoints[id]?).filter fun bp =>
      bp.start ≤ accessAddress ∧ accessAddress - bp.start < bp.size ∧
        memoryAccessMatches bp.type accessType

def reportMemoryHit (k : Client) (env : Env) (info : EXCEPTION_DEBUG_INFO)
    (hit : Option MemoryBreakpointInfo) (accessAddress : ULONG_PTR) (s : Session) : Session :=
  let s := (s.setFakeDebugEvent env (.exception info)).beginDebugEvent k false
  match hit with
  | some bp =>
    if bp.id = 0 then s
    else
      let s := if bp.restoreOnHit then s else (s.removeMemoryBreakpointById env bp.id).1
      match bp.callback with
      | some callback => k.call (.memoryBreakpoint callback accessAddress) s
      | none => s
  | none => s

/-- Expose the page and ask for its re-arm, if the callback left it watched. -/
def rearmWatchedPage (env : Env) (page : ULONG_PTR) (s : Session) : Session :=
  if s.bps.gMemoryBreakpointPages.contains page then
    (s.protectMemoryBreakpointPage env page false).1.scheduleMemoryBreakpointRearm env page
  else s

/-- `none` where the exception is not one of a watched page. -/
def dispatchMemoryBreakpointException (k : Client) (env : Env) (info : EXCEPTION_DEBUG_INFO)
    (s : Session) : Option Session :=
  match info.parameters with
  | accessType :: accessAddress :: _ =>
    let page := s.pageAddress accessAddress
    match s.bps.gMemoryBreakpointPages[page]? with
    | none => none
    | some pageInfo =>
      let hit := s.hitMemoryBreakpoint accessType accessAddress pageInfo.breakpointIds.toList
      some (((s.reportMemoryHit k env info hit accessAddress).rearmWatchedPage env
        page).finishDebugEvent false)
  | _ => none

/-- The first record whose patch an exception at `address` belongs to. -/
def findNative (address : ULONG64) (s : Session) : Option (ULONG × BreakpointInfo) :=
  s.bps.gBreakpoints.toList.find? fun entry => entry.2.matchesException address

/-- A one-shot record is consumed before its callback runs. -/
def consumeOneShot (id : ULONG) (bpInfo : BreakpointInfo) (s : Session) : Session :=
  if bpInfo.oneShot then
    { s with bps.gRetiredBreakpointAddresses := s.bps.gRetiredBreakpointAddresses.insert bpInfo.offset
             bps.gBreakpoints := s.bps.gBreakpoints.erase id }
  else s

/-- A hardware breakpoint shows as the exception that a debug register raises. -/
def disguiseHit (bpInfo : BreakpointInfo) (s : Session) : Session :=
  match bpInfo.kind, s.gFakeDebugEvent.u with
  | .hardware, .exception info =>
    { s with gFakeDebugEvent.u := .exception { info with code := EXCEPTION_SINGLE_STEP } }
  | _, _ => s

def callBreakpoint (k : Client) (bpInfo : BreakpointInfo) (s : Session) : Session :=
  match bpInfo.kind with
  | .hardware =>
    match bpInfo.hardwareCallback with
    | some callback => k.call (.hardwareBreakpoint callback bpInfo.offset) s
    | none => s
  | .software =>
    match bpInfo.callback with
    | some callback => k.call (.softBreakpoint callback) s
    | none => s

/-- The patch is out of the target: rewind the thread to it. -/
def enterNativeHit (env : Env) (id : ULONG) (bpInfo : BreakpointInfo) (s : Session) : Session :=
  let s := ((s.setCurrentInstructionPointer env bpInfo.offset).disguiseHit bpInfo).consumeOneShot
    id bpInfo
  { s with log := .hit env.currentThreadId bpInfo.offset :: s.log }

def reportNativeHit (k : Client) (env : Env) (id : ULONG) (bpInfo : BreakpointInfo) (s : Session) :
    Session :=
  ((s.enterNativeHit env id bpInfo).beginDebugEvent k false).callBreakpoint k bpInfo

/-- Ask for the re-arm of a record that the callback left in place. -/
def rearmNative (env : Env) (id : ULONG) (bpInfo : BreakpointInfo) (s : Session) : Session :=
  if !bpInfo.oneShot && s.bps.gBreakpoints.contains id then
    s.scheduleInternalStep env (.rearmBreakpoint id)
  else s

def nativeBreakpointHit (k : Client) (env : Env) (id : ULONG) (bpInfo : BreakpointInfo)
    (s : Session) : Session × Bool :=
  match s.writeNativeBreakpointBytes env bpInfo false with
  | (s, false) => (s, false)
  | (s, true) =>
    (((s.reportNativeHit k env id bpInfo).rearmNative env id bpInfo).finishDebugEvent false, true)

/-- An exception at the address of a patch that was taken out before it was reported. -/
def isRetired (address : ULONG64) (s : Session) : Bool :=
  s.bps.gRetiredBreakpointAddresses.contains address ||
    (address ≠ 0 && s.bps.gRetiredBreakpointAddresses.contains (address - 1))

def breakpointException (k : Client) (env : Env) (info : EXCEPTION_DEBUG_INFO) (s : Session) :
    Session × Bool :=
  match s.findNative info.address with
  | some (id, bpInfo) => s.nativeBreakpointHit k env id bpInfo
  | none =>
    if s.isRetired info.address then ((s.beginDebugEvent k false).finishDebugEvent false, true)
    else (s.dispatchUnhandledException k env info, true)

/-- The internal step that a single-step exception completes. -/
def consumeSingleStep (k : Client) (env : Env) (info : EXCEPTION_DEBUG_INFO) (s : Session) :
    Option Session :=
  if info.code = EXCEPTION_SINGLE_STEP then
    env.currentThreadId.bind fun threadIndex => s.completeInternalStep k env threadIndex
  else none

def consumeAccess (k : Client) (env : Env) (info : EXCEPTION_DEBUG_INFO) (s : Session) :
    Option Session :=
  if info.code = STATUS_GUARD_PAGE_VIOLATION ∨ info.code = EXCEPTION_ACCESS_VIOLATION then
    s.dispatchMemoryBreakpointException k env info
  else none

/-- The work that `Exception` queues. -/
def exceptionEvent (k : Client) (env : Env) (info : EXCEPTION_DEBUG_INFO) (s : Session) :
    Session × Bool :=
  let s := s.setFakeDebugEvent env (.exception info)
  match s.consumeSingleStep k env info with
  | some s => (s, true)
  | none =>
    match s.consumeAccess k env info with
    | some s => (s, true)
    | none =>
      if info.code = EXCEPTION_BREAKPOINT ∧ s.gExpectSystemBreakpoint then
        ({ s with gExpectSystemBreakpoint := false }.dispatchSystemBreakpoint k, true)
      else if info.code = EXCEPTION_BREAKPOINT ∨ info.code = EXCEPTION_ILLEGAL_INSTRUCTION then
        s.breakpointException k env info
      else (s.dispatchUnhandledException k env info, true)

/-- A one-shot software breakpoint of the engine goes once its callback has run. -/
def expireOneShot (id : ULONG) (bpInfo : BreakpointInfo) (s : Session) : Session :=
  if bpInfo.kind = .software ∧ bpInfo.oneShot then
    match s.bps.gBreakpoints[id]? with
    | some current =>
      if current.kind = .software ∧ current.offset = bpInfo.offset then
        { s with bps.gBreakpoints := s.bps.gBreakpoints.erase id }
      else s
    | none => s
  else s

/-- The exception record that stands for a breakpoint event of the engine. -/
def eventRecord (kind : BreakpointKind) (offset : ULONG64) : EXCEPTION_DEBUG_INFO :=
  { code := match kind with
      | .hardware => EXCEPTION_SINGLE_STEP
      | .software => EXCEPTION_BREAKPOINT
    address := offset, firstChance := false }

/-- The work that `Breakpoint` queues. -/
def breakpointEvent (k : Client) (env : Env) (id : ULONG) (offset : ULONG64) (s : Session) : Session :=
  match s.bps.gBreakpoints[id]? with
  | none =>
    let info := eventRecord .software offset
    let s := s.setFakeDebugEvent env (.exception info)
    if s.gExpectSystemBreakpoint then
      { s with gExpectSystemBreakpoint := false }.dispatchSystemBreakpoint k
    else s.dispatchUnhandledException k env info
  | some bpInfo =>
    let s := s.setFakeDebugEvent env (.exception (eventRecord bpInfo.kind offset))
    (((s.beginDebugEvent k false).callBreakpoint k bpInfo).expireOneShot id bpInfo).finishDebugEvent
      false

def rememberThread (handle : HANDLE) (threadIndex : ULONG) (s : Session) : Session :=
  { s with gDebugIdMap.threadHandleToIndex := s.gDebugIdMap.threadHandleToIndex.insert handle threadIndex
           gDebugIdMap.threadIndexToHandle :=
             s.gDebugIdMap.threadIndexToHandle.insert threadIndex handle }

/-- Enter the thread of an event in the tables. A failed lookup leaves the index -1. -/
def enterThread (env : Env) (handle : HANDLE) (s : Session) : Session :=
  let threadIndex := env.currentThreadId.getD (BitVec.allOnes 32)
  (s.rememberThread handle threadIndex).registerTitanHandle handle .thread threadIndex
    (debugThreadId env) false

/-- Outside a live session the event belongs to the thread that was registered. -/
def adoptThreadId (handle : HANDLE) (s : Session) : Session :=
  match s.gSessionKind, s.gHandleRegistry[handle]? with
  | .live, _ => s
  | _, some entry => { s with gFakeDebugEvent.dwThreadId := entry.systemId }
  | _, none => s

def createThreadEvent (k : Client) (env : Env) (handle : HANDLE) (s : Session) : Session :=
  let s := if s.gSessionKind = .live then s.enterThread env handle else s
  ((s.setFakeDebugEvent env (.createThread handle)).adoptThreadId handle).dispatchDebugEvent k
    .createThread false

/-- Forget a thread in every table that is keyed by its index. -/
def forgetThread (threadIndex : ULONG) (threadHandle : Option HANDLE) (s : Session) : Session :=
  let s :=
    match threadHandle with
    | some handle =>
      if handle = 0 then s
      else
        { s with gDebugIdMap.threadHandleToIndex := s.gDebugIdMap.threadHandleToIndex.erase handle
                 gDebugIdMap.threadIndexToHandle :=
                   s.gDebugIdMap.threadIndexToHandle.erase threadIndex }.unregisterTitanHandle handle
    | none => s
  { s with steps.gStepCallbacks := s.steps.gStepCallbacks.erase threadIndex
           steps.gStepThreadSystemIds := s.steps.gStepThreadSystemIds.erase threadIndex
           steps.gInternalStepCallbacks := s.steps.gInternalStepCallbacks.erase threadIndex
           steps.gInternalStepSuspendedThreads :=
             s.steps.gInternalStepSuspendedThreads.erase threadIndex
           steps.gStepStatuses := s.steps.gStepStatuses.erase threadIndex
           log := .exited threadIndex :: s.log }

/-- A failed lookup leaves the index `DEBUG_ANY_ID`. -/
def exitThreadEvent (k : Client) (env : Env) (code : DWORD) (s : Session) : Session :=
  let s := s.setFakeDebugEvent env (.exitThread code)
  let threadIndex := env.currentThreadId.getD (BitVec.allOnes 32)
  let threadHandle := s.gDebugIdMap.threadIndexToHandle[threadIndex]?
  (s.dispatchDebugEvent k .exitThread false).forgetThread threadIndex threadHandle

def rememberProcess (handle : HANDLE) (processIndex : ULONG) (s : Session) : Session :=
  { s with gDebugIdMap.processHandleToIndex :=
             s.gDebugIdMap.processHandleToIndex.insert handle processIndex
           gDebugIdMap.processIndexToHandle :=
             s.gDebugIdMap.processIndexToHandle.insert processIndex handle }

/-- Enter a process and its first thread in the tables. -/
def enterProcess (env : Env) (handle initialThread : HANDLE) (s : Session) : Session :=
  let processIndex := env.currentProcessId.getD (BitVec.allOnes 32)
  if s.gSessionKind = .ttd then s
  else if s.gSessionKind = .live then
    ((s.rememberProcess handle processIndex).registerTitanHandle handle .process processIndex
      (debugProcessId env) false).enterThread env initialThread
  else
    (s.rememberProcess handle processIndex).rememberThread initialThread
      (env.currentThreadId.getD (BitVec.allOnes 32))

def createProcessEvent (k : Client) (env : Env) (handle initialThread : HANDLE) (s : Session) :
    Session :=
  ((s.enterProcess env handle initialThread).setFakeDebugEvent env
    (.createProcess handle)).dispatchDebugEvent k .createProcess false

def forgetProcess (processIndex : ULONG) (processHandle : Option HANDLE) (s : Session) : Session :=
  match processHandle with
  | some handle =>
    if handle = 0 then s
    else
      { s with gDebugIdMap.processHandleToIndex := s.gDebugIdMap.processHandleToIndex.erase handle
               gDebugIdMap.processIndexToHandle :=
                 s.gDebugIdMap.processIndexToHandle.erase processIndex }.unregisterTitanHandle handle
  | none => s

def exitProcessEvent (k : Client) (env : Env) (code : DWORD) (s : Session) : Session :=
  let s := s.setFakeDebugEvent env (.exitProcess code)
  let processIndex := env.currentProcessId.getD (BitVec.allOnes 32)
  let processHandle := s.gDebugIdMap.processIndexToHandle[processIndex]?
  (s.dispatchDebugEvent k .exitProcess false).forgetProcess processIndex processHandle

def moduleEvent (k : Client) (env : Env) (id : TitanCustomHandler) (info : DebugInfo) (s : Session) :
    Session :=
  (s.setFakeDebugEvent env info).dispatchDebugEvent k id false

/-- The event of a stop that no event callback reported carries ids only. -/
def setEventIds (processId threadId : DWORD) (s : Session) : Session :=
  { s with gFakeDebugEvent.dwProcessId := processId, gFakeDebugEvent.dwThreadId := threadId }

def pauseEvent (k : Client) (env : Env) (callback : Callback) (s : Session) : Session :=
  let s := (s.setEventIds (debugProcessId env) (debugThreadId env)).beginDebugEvent k false
  (k.call (.pause callback) s).finishDebugEvent false

/-- A user step asks the target to go on; its callback may ask for something else. A
null callback has nothing to run. -/
def stepEvent (k : Client) (env : Env) (threadIndex : ULONG) (callback : Option Callback)
    (threadSystemId : DWORD) (s : Session) : Session :=
  let s := { s.setEventIds (debugProcessId env) threadSystemId with gNextExecutionStatus := .go }
  match callback with
  | some callback => s.callStep k threadIndex callback
  | none => s

end Session

/-- Run a piece of queued work; its flag tells whether the queue is worked off further. -/
def Work.run (k : Client) (env : Env) : Work → Session → Session × Bool
  | .breakpoint id offset, s => (s.breakpointEvent k env id offset, true)
  | .exception info, s => s.exceptionEvent k env info
  | .createThread handle, s => (s.createThreadEvent k env handle, true)
  | .exitThread code, s => (s.exitThreadEvent k env code, true)
  | .createProcess handle initialThread, s => (s.createProcessEvent k env handle initialThread, true)
  | .exitProcess code, s => (s.exitProcessEvent k env code, true)
  | .loadModule base, s => (s.moduleEvent k env .loadDll (.loadDll base), true)
  | .unloadModule base, s => (s.moduleEvent k env .unloadDll (.unloadDll base), true)
  | .outputDebugString, s => (s.moduleEvent k env .outputDebugString .debugString, true)
  | .pause callback, s => (s.pauseEvent k env callback, true)
  | .internalStep threadIndex, s =>
    match s.completeInternalStep k env threadIndex with
    | some s => (s, true)
    | none => (s, false)
  | .step threadIndex callback threadSystemId, s =>
    (s.stepEvent k env threadIndex callback threadSystemId, true)

end TitanEngine

import TitanEngine.Model.Replay

/-! The threads and modules of a replay: what the bootstrap announces, how a move of the
cursor is turned into events, and how queued events reach the client. -/
namespace TitanEngine
namespace TtdSession

/-- A thread alive at the cursor: a handle and a creation event, unless it has them. -/
def enterThread (info : ThreadInfo) (t : TtdSession) : TtdSession :=
  if t.gDebugIdMap.threadIndexToHandle.contains info.uniqueId then t
  else
    let r := t.createSyntheticTitanHandle .thread info.uniqueId info.id false
    let t := r.1
    let token := r.2
    let teb := t.ttdTebAddress info.id
    { t with
      gDebugIdMap :=
        { t.gDebugIdMap with
          threadIndexToHandle := t.gDebugIdMap.threadIndexToHandle.insert info.uniqueId token
          threadHandleToIndex := t.gDebugIdMap.threadHandleToIndex.insert token info.uniqueId }
      gProcessTebCache := t.gProcessTebCache.insert token teb }.queueCallback
        (.createThread token teb info)

/-- The known threads that are not alive at the cursor, with the system ids that the
registry holds for them. -/
def terminatedThreads (t : TtdSession) : List (ULONG × HANDLE × DWORD) :=
  let active := t.current.threads.map (·.uniqueId)
  (t.gDebugIdMap.threadIndexToHandle.toList.filter fun entry => entry.1 ∉ active).map fun entry =>
    (entry.1, entry.2, ((t.gHandleRegistry[entry.2]?).map (·.systemId)).getD 0)

def leaveThread (thread : ULONG × HANDLE × DWORD) (t : TtdSession) : TtdSession :=
  let (index, handle, systemId) := thread
  let t := t.queueCallback (.exitThread systemId index)
  { t with
    gDebugIdMap :=
      { t.gDebugIdMap with
        threadIndexToHandle := t.gDebugIdMap.threadIndexToHandle.erase index
        threadHandleToIndex := t.gDebugIdMap.threadHandleToIndex.erase handle }
    gProcessTebCache := t.gProcessTebCache.erase handle
    gHandleRegistry := t.gHandleRegistry.erase handle }

def refreshThreads (t : TtdSession) : TtdSession :=
  let t := t.current.threads.foldl (fun t info => t.enterThread info) t
  t.terminatedThreads.foldl (fun t thread => t.leaveThread thread) t

end TtdSession

/-- The paths by base address; of two modules at one base the later one counts. -/
def mapModules (modules : List TtdModuleInfo) : Map ULONG64 String :=
  modules.foldl (fun paths module => paths.insert module.base module.path) ∅

namespace TtdSession

def refreshModules (t : TtdSession) : TtdSession :=
  let modules := t.current.modules
  let currentModules := mapModules modules
  let loaded := modules.filter fun module => !t.gTtdActiveModules.contains module.base
  let unloaded := t.gTtdActiveModules.toList.filter fun entry => !currentModules.contains entry.1
  { t with queue := t.queue ++ (loaded.map TtdWork.loadModule ++
             unloaded.map fun entry => TtdWork.unloadModule entry.2 entry.1)
           gTtdActiveModules := currentModules }

def refreshTtdTimeline (t : TtdSession) : TtdSession := t.refreshThreads.refreshModules

/-- Hand the event of a piece of work to the client. -/
def announce (work : TtdWork) (info : DebugInfo) (threadId : DWORD) (t : TtdSession) : TtdSession :=
  { t with gFakeDebugEvent := ⟨t.gTtdEngine.processId, threadId, info⟩
           noted := t.noted ++ [.delivered work threadId] }

/-- The thread id of the event that creates the thread with this handle. -/
def creationThreadId (handle : HANDLE) (t : TtdSession) : DWORD :=
  match t.gHandleRegistry[handle]? with
  | some entry => entry.systemId
  | none => t.gTtdCurrentThreadId

/-- Run a queued closure up to the call of the client. A recorded exception meets no
patch, no guarded page and no pending step, so only its event is left of the work. -/
def deliver (work : TtdWork) (t : TtdSession) : TtdSession :=
  match work with
  | .createProcess handle initialThread _ teb _ =>
    { t with gProcessTebCache := t.gProcessTebCache.insert initialThread teb }.announce work
      (.createProcess handle) t.gTtdCurrentThreadId
  | .createThread handle teb _ =>
    { t with gProcessTebCache := t.gProcessTebCache.insert handle teb }.announce work
      (.createThread handle) (t.creationThreadId handle)
  | .exitThread systemId _ => t.announce work (.exitThread 0) systemId
  | .loadModule module => t.announce work (.loadDll module.base) t.gTtdCurrentThreadId
  | .unloadModule _ base => t.announce work (.unloadDll base) t.gTtdCurrentThreadId
  | .initialBreakpoint instruction =>
    t.announce work (.exception ⟨EXCEPTION_BREAKPOINT, instruction, [], false⟩) t.gTtdCurrentThreadId
  | .boundary =>
    t.announce work (.exception ⟨EXCEPTION_BREAKPOINT, t.ttdProgramCounter, [], true⟩)
      t.gTtdCurrentThreadId
  | .breakpoint hit _ =>
    t.announce work (.exception ⟨EXCEPTION_BREAKPOINT, hit.address, [], true⟩) hit.threadId
  | .memoryBreakpoint hit _ =>
    t.announce work (.exception ⟨EXCEPTION_SINGLE_STEP, hit.address, [], true⟩) hit.threadId
  | .exception info threadId _ => t.announce work (.exception info) threadId
  | .outputDebugString _ => t.announce work .debugString t.gTtdCurrentThreadId
  | .step _ => t.announce work t.gFakeDebugEvent.u t.gTtdCurrentThreadId
  | .pause _ =>
    t.announce work (.exception ⟨EXCEPTION_BREAKPOINT, t.ttdProgramCounter, [], true⟩)
      t.gTtdCurrentThreadId
  | .exitProcess => t.announce work (.exitProcess 0) t.gTtdCurrentThreadId

/-- `TitanOpenProcess` in a replay. -/
def titanOpenProcess (dwProcessId : DWORD) (t : TtdSession) : TtdSession × HANDLE :=
  if dwProcessId ≠ t.gTtdEngine.processId then ({ t with lastError := ERROR_INVALID_PARAMETER }, 0)
  else
    let r := t.createSyntheticTitanHandle .process 0 dwProcessId true
    let t := r.1
    ({ t with gDebugIdMap :=
        { t.gDebugIdMap with
          processHandleToIndex := t.gDebugIdMap.processHandleToIndex.insert r.2 0 } }, r.2)

/-- `TitanOpenThread` in a replay; `threads` are those of the whole trace. -/
def titanOpenThread (threads : List ThreadInfo) (dwThreadId : DWORD) (t : TtdSession) :
    TtdSession × HANDLE :=
  match t.gTtdCursor, threads.find? fun info => info.id = dwThreadId with
  | none, _ => (t, 0)
  | some _, none => ({ t with lastError := ERROR_INVALID_PARAMETER }, 0)
  | some _, some info =>
    let r := t.createSyntheticTitanHandle .thread info.uniqueId dwThreadId true
    let t := r.1
    ({ t with
      gDebugIdMap :=
        { t.gDebugIdMap with
          threadHandleToIndex := t.gDebugIdMap.threadHandleToIndex.insert r.2 info.uniqueId }
      gProcessTebCache := t.gProcessTebCache.insert r.2 (t.ttdTebAddress dwThreadId) }, r.2)

/-- `closed` is what `CloseHandle` answers for the handle of Windows, if there is one. -/
def titanCloseHandle (hEngineHandle : HANDLE) (closed : Bool) (t : TtdSession) : TtdSession × Bool :=
  match t.gHandleRegistry[hEngineHandle]? with
  | none => t.fail ERROR_INVALID_HANDLE
  | some entry =>
    if ¬ entry.callerOwned then t.fail ERROR_INVALID_HANDLE
    else if entry.nativeHandle = 0 ∨ closed then
      ({ t with
        gDebugIdMap :=
          { t.gDebugIdMap with
            processHandleToIndex := t.gDebugIdMap.processHandleToIndex.erase hEngineHandle
            threadHandleToIndex := t.gDebugIdMap.threadHandleToIndex.erase hEngineHandle }
        gProcessTebCache := t.gProcessTebCache.erase hEngineHandle
        gHandleRegistry := t.gHandleRegistry.erase hEngineHandle }, true)
    else (t, false)

end TtdSession

/-- The file name ends in `.exe`, in either case. -/
def isExecutablePath (path : String) : Bool :=
  let name := path.toList.reverse.takeWhile fun c => c ≠ '\\' ∧ c ≠ '/'
  (name.take 4).map Char.toLower = ['e', 'x', 'e', '.']

/-- The first module with an `.exe` file, else the first one. -/
def mainModule (modules : List TtdModuleInfo) : ℕ :=
  (modules.findIdx? fun module => isExecutablePath module.path).getD 0

namespace TtdSession

/-- The session of a trace before its bootstrap. `thread` is the thread the cursor is on
at the first position, and `s` what earlier sessions left. -/
def openReplay (trace : Trace) (thread : ThreadInfo) (serial : ULONG_PTR) (s : Session) : TtdSession :=
  { s with gSessionKind := .ttd, gIsDebugging := false, gExpectSystemBreakpoint := false
           gNextExecutionStatus := .noChange, gNextContinueStatus := DBG_CONTINUE
           gCallbackQueue := [], gDebugIdMap := {}, gHandleRegistry := ∅
           gTtdCursor := some []
           gTtdEngine := trace, cursor := ⟨trace.firstPosition, thread⟩
           gTtdCurrentThreadId := thread.id, gNextSyntheticHandle := serial
           gTtdActiveModules := mapModules (trace.snapshot trace.firstPosition).modules }

/-- The process and its initial thread, which CREATE_PROCESS announces. -/
def bootstrapProcess (image : TtdModuleInfo) (t : TtdSession) : TtdSession :=
  let thread := t.cursor.thread
  let eventProcess := t.createSyntheticTitanHandle .process 0 t.gTtdEngine.processId false
  let eventThread := eventProcess.1.createSyntheticTitanHandle .thread thread.uniqueId thread.id false
  let teb := t.ttdTebAddress thread.id
  let t := eventThread.1
  { t with
    gDebugIdMap :=
      { processIndexToHandle := t.gDebugIdMap.processIndexToHandle.insert 0 eventProcess.2
        processHandleToIndex := t.gDebugIdMap.processHandleToIndex.insert eventProcess.2 0
        threadIndexToHandle := t.gDebugIdMap.threadIndexToHandle.insert thread.uniqueId eventThread.2
        threadHandleToIndex := t.gDebugIdMap.threadHandleToIndex.insert eventThread.2 thread.uniqueId }
    gProcessTebCache := t.gProcessTebCache.insert eventThread.2 teb }.queueCallback
      (.createProcess eventProcess.2 eventThread.2 image teb thread)

/-- The threads of the bootstrap besides the initial one, which is known by its system id. -/
def bootstrapThread (threadSystemId : DWORD) (t : TtdSession) (info : ThreadInfo) : TtdSession :=
  if info.id = threadSystemId then t
  else
    let r := t.createSyntheticTitanHandle .thread info.uniqueId info.id false
    let t := r.1
    let token := r.2
    let teb := t.ttdTebAddress info.id
    { t with
      gDebugIdMap :=
        { t.gDebugIdMap with
          threadIndexToHandle := t.gDebugIdMap.threadIndexToHandle.insert info.uniqueId token
          threadHandleToIndex := t.gDebugIdMap.threadHandleToIndex.insert token info.uniqueId }
      gProcessTebCache := t.gProcessTebCache.insert token teb }.queueCallback
        (.createThread token teb info)

def bootstrapModules (modules : List TtdModuleInfo) (t : TtdSession) : TtdSession :=
  { t with queue := t.queue ++
      ((modules.eraseIdx (mainModule modules)).map TtdWork.loadModule ++
        [TtdWork.initialBreakpoint t.ttdProgramCounter]) }

/-- The handles that the caller gets. -/
def bootstrapHandles (t : TtdSession) : TtdSession :=
  let thread := t.cursor.thread
  let initProcess := t.createSyntheticTitanHandle .process 0 t.gTtdEngine.processId true
  let initThread := initProcess.1.createSyntheticTitanHandle .thread thread.uniqueId thread.id true
  let teb := t.ttdTebAddress thread.id
  let t := initThread.1
  { t with
    gDebugIdMap :=
      { t.gDebugIdMap with
        processHandleToIndex := t.gDebugIdMap.processHandleToIndex.insert initProcess.2 0
        threadHandleToIndex := t.gDebugIdMap.threadHandleToIndex.insert initThread.2 thread.uniqueId }
    gProcessTebCache := t.gProcessTebCache.insert initThread.2 teb }

/-- The replay branch of `InitReplayW` for a trace of the right architecture. -/
def initReplay (trace : Trace) (thread : ThreadInfo) (serial : ULONG_PTR) (s : Session) :
    Option TtdSession :=
  let modules := (trace.snapshot trace.firstPosition).modules
  let threads := (trace.snapshot trace.firstPosition).threads
  match threads, modules[mainModule modules]? with
  | [], _ => none
  | _, none => none
  | threads, some image =>
    let t := (openReplay trace thread serial s).bootstrapProcess image
    let t := threads.foldl (bootstrapThread thread.id) t
    some (t.bootstrapModules modules).bootstrapHandles

end TtdSession

end TitanEngine

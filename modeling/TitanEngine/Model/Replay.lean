import Mathlib.Data.Prod.Lex
import TitanEngine.Model.MemoryBreakpoints

/-! A replay session: the recorded trace, the cursor that moves over it and what the
replay engine answers while it moves, and the globals that only a replay uses. -/
namespace TitanEngine

/-- `TTDReplay::Position`, ordered as the tuple of its two fields. -/
structure TtdPosition where
  sequence : ULONG64
  steps : ULONG64

namespace TtdPosition

def tuple (p : TtdPosition) : ℕ ×ₗ ℕ := toLex (p.sequence.toNat, p.steps.toNat)

theorem tuple_injective : Function.Injective tuple := by
  intro p q h
  have heq : (p.sequence.toNat, p.steps.toNat) = (q.sequence.toNat, q.steps.toNat) :=
    toLex.injective h
  cases p
  cases q
  simp only [Prod.mk.injEq, BitVec.toNat_inj] at heq
  simp [heq]

instance : LinearOrder TtdPosition := LinearOrder.lift' tuple tuple_injective

end TtdPosition

/-- `TTDReplay::DataAccessType`. -/
inductive DataAccessType
  | read | write | execute | codeFetch | overwrite | dataMismatch | newData | redundantData
  deriving DecidableEq

def DataAccessType.value : DataAccessType → ULONG64
  | .read => 0
  | .write => 1
  | .execute => 2
  | .codeFetch => 3
  | .overwrite => 4
  | .dataMismatch => 5
  | .newData => 6
  | .redundantData => 7

/-- `TTDReplay::EventType`: why a replay stopped. -/
inductive EventType
  | memoryWatchpoint | positionWatchpoint | exception | gap | thread
  | stepCount | position | process | interrupted | error
  deriving DecidableEq

/-- `TTDReplay::ThreadInfo`: the id of a thread in the trace and its system id. -/
structure ThreadInfo where
  uniqueId : ULONG
  id : DWORD
  deriving DecidableEq

structure TtdModuleInfo where
  base : ULONG64
  size : ULONG64
  checksum : ULONG
  path : String
  deriving DecidableEq

/-- `TTDReplay::ExceptionEvent`, as far as the adapter reads it. -/
structure ExceptionEvent where
  position : TtdPosition
  code : DWORD
  flags : DWORD
  programCounter : ULONG64
  parameters : List ULONG64
  deriving DecidableEq

/-- `GetThreadList` and `GetModuleList` at one position, without the null entries that
their readers skip. No two threads alive at once share an id, no two modules a base. -/
structure Snapshot where
  threads : List ThreadInfo
  modules : List TtdModuleInfo
  nodup_uniqueId : (threads.map (·.uniqueId)).Nodup
  nodup_id : (threads.map (·.id)).Nodup
  nodup_base : (modules.map (·.base)).Nodup

/-- What the replay engine knows of a recorded trace. -/
structure Trace where
  firstPosition : TtdPosition
  lastPosition : TtdPosition
  exceptionEvents : List ExceptionEvent
  snapshot : TtdPosition → Snapshot
  tebAddress : TtdPosition → DWORD → ULONG64
  programCounter : TtdPosition → ULONG64
  processId : DWORD := 1

/-- The position of the cursor and the thread it is on. -/
structure TtdCursor where
  position : TtdPosition
  thread : ThreadInfo
  deriving DecidableEq

/-- `MemoryWatchpointResult`: an access that a watchpoint covers. -/
structure MemoryWatchpointResult where
  address : ULONG64
  size : ULONG64
  accessType : DataAccessType
  deriving DecidableEq

/-- What the watchpoint callback can ask the thread it is called for. -/
structure ThreadView where
  thread : ThreadInfo
  position : TtdPosition
  deriving DecidableEq

/-- What one call of `ReplayForward` or `ReplayBackward` does: the accesses for which
it calls the watchpoint callback, in order, and where it leaves the cursor. -/
structure ReplayAnswer where
  stopReason : EventType
  stepsExecuted : ULONG64
  cursor : TtdCursor
  accesses : List (MemoryWatchpointResult × Option ThreadView) := []

/-- `gTtdWatchHit` while it is pending. -/
structure TtdWatchHit where
  address : ULONG64
  size : ULONG64
  flags : ULONG64
  position : TtdPosition
  uniqueThreadId : ULONG
  threadId : DWORD
  deriving DecidableEq

/-- A closure in the queue of a replay session, by what queued it. `thread` is the
thread that an event is queued for; no closure captures it. -/
inductive TtdWork
  | createProcess (handle initialThread : HANDLE) (module : TtdModuleInfo) (teb : ULONG64)
      (thread : ThreadInfo)
  | createThread (handle : HANDLE) (teb : ULONG64) (thread : ThreadInfo)
  | exitThread (systemId : DWORD) (thread : ULONG)
  | loadModule (module : TtdModuleInfo)
  | unloadModule (path : String) (base : ULONG64)
  | initialBreakpoint (instruction : ULONG64)
  | boundary
  | breakpoint (hit : TtdWatchHit) (callback : Option Callback)
  | memoryBreakpoint (hit : TtdWatchHit) (callback : Option Callback)
  | exception (info : EXCEPTION_DEBUG_INFO) (threadId : DWORD) (event : ExceptionEvent)
  | outputDebugString (event : ExceptionEvent)
  | step (callback : Callback)
  | pause (callback : Option Callback)
  | exitProcess
  deriving DecidableEq

/-- What an observer of a replay notes down: each piece of work that is delivered, with
the thread id its event carries, and each publication of the exit boundary. -/
inductive TtdEntry
  | delivered (work : TtdWork) (threadId : DWORD)
  | published (boundary : TtdPosition)
  deriving DecidableEq

/-- A replay session. `queue` is `gCallbackQueue`, oldest closure first; `noted` is the
observer's record in the order of time. -/
structure TtdSession extends Session where
  gSessionKind := .ttd
  gTtdEngine : Trace
  cursor : TtdCursor
  gTtdCurrentThreadId : DWORD := 0
  gTtdActiveModules : Map ULONG64 String := ∅
  gTtdStopRequested : Bool := false
  gTtdInterruptRequested : Bool := false
  gTtdNextRunReverse : Bool := false
  gTtdProcessExitBoundary : Option TtdPosition := none
  gTtdWatchHit : Option TtdWatchHit := none
  gProcessTebCache : Map HANDLE ULONG64 := ∅
  gNextSyntheticHandle : ULONG_PTR := 1
  queue : List TtdWork := []
  noted : List TtdEntry := []

namespace TtdSession

def fail (t : TtdSession) (error : DWORD) : TtdSession × Bool :=
  ({ t with lastError := error }, false)

def queueCallback (work : TtdWork) (t : TtdSession) : TtdSession :=
  { t with queue := t.queue ++ [work] }

/-- The trace at the position of the cursor. -/
def current (t : TtdSession) : Snapshot := t.gTtdEngine.snapshot t.cursor.position

def ttdTebAddress (threadId : DWORD) (t : TtdSession) : ULONG64 :=
  t.gTtdEngine.tebAddress t.cursor.position threadId

def ttdProgramCounter (t : TtdSession) : ULONG64 :=
  t.gTtdEngine.programCounter t.cursor.position

def updateTtdCursorIdentity (t : TtdSession) : TtdSession :=
  { t with gTtdCurrentThreadId := t.cursor.thread.id
           gFakeDebugEvent :=
             { t.gFakeDebugEvent with dwProcessId := t.gTtdEngine.processId
                                      dwThreadId := t.cursor.thread.id } }

/-- A handle that names nothing of Windows, so its entry has no native handle. -/
def syntheticHandle (serial : ULONG_PTR) : HANDLE :=
  0xFFFF800000000000 ||| ((serial &&& 0x00007FFFFFFFFFFF) <<< 4) ||| 3

def registerTitanHandle (handle : HANDLE) (entry : TitanHandleEntry) (t : TtdSession) : TtdSession :=
  if handle = 0 ∨ handle = BitVec.allOnes 64 then t
  else { t with gHandleRegistry := t.gHandleRegistry.insert handle entry }

def createSyntheticTitanHandle (type : TitanHandleType) (dbgengId : ULONG) (systemId : DWORD)
    (callerOwned : Bool) (t : TtdSession) : TtdSession × HANDLE :=
  let handle := syntheticHandle t.gNextSyntheticHandle
  let t := { t with gNextSyntheticHandle := t.gNextSyntheticHandle + 1 }
  (t.registerTitanHandle handle ⟨type, dbgengId, systemId, 0, callerOwned⟩, handle)

end TtdSession

end TitanEngine

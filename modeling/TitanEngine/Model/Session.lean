import TitanEngine.Lib.FlatMemory
import TitanEngine.Model.Types

/-! The globals of the adapter, the target they act on, and the answers of DbgEng
and Windows that one call of the adapter depends on. -/
namespace TitanEngine
open FlatMemory

/-- What DbgEng and Windows answer while one call or one piece of queued work
runs. The default is a call in which everything succeeds on engine thread 0. -/
structure Env where
  currentThreadId : Option ULONG := some 0
  currentThreadSystemId : DWORD := 0
  currentProcessId : Option ULONG := some 0
  currentProcessSystemId : DWORD := 0
  readProcessMemory : Bool := true
  writeProcessMemory : Bool := true
  flushInstructionCache : Bool := true
  writeVirtual : ℕ → Option ℕ := some
  virtualProtectEx : ULONG_PTR → DWORD → Bool := fun _ _ => true
  virtualQueryEx : ULONG_PTR → Bool := fun _ => true
  suspendThread : HANDLE → Bool := fun _ => true
  context : HANDLE → Bool := fun _ => true
  addBreakpoint : Option ULONG := none
  removeBreakpoint : ULONG → Bool := fun _ => true
  addMemoryWatchpoint : Bool := true
  removeMemoryWatchpoint : Bool := true
  setInterrupt : Bool := true
  -- What a failing engine call returns, and how many bytes a failing `ReadVirtual` stores.
  hresult : DWORD := E_FAIL
  bytesRead : ℕ := 0
  replayRead : ULONG_PTR → ℕ → Option (List BYTE) := fun _ _ => none
  waitForEvent : Bool := true
  readRegisters : Bool := true
  flushRegisters : Bool := true
  hasDebuggee : Bool := true

/-- The points at which the adapter runs client code. A step callback comes with
what the client can read there of the stepping thread: its instruction pointer
and its call depth. -/
inductive Invocation
  | handler (id : TitanCustomHandler)
  | softBreakpoint (callback : Callback)
  | hardwareBreakpoint (callback : Callback) (address : ULONG_PTR)
  | memoryBreakpoint (callback : Callback) (address : ULONG_PTR)
  | step (thread : ULONG) (callback : Callback) (ip : ULONG_PTR) (depth : ℕ)
  | attach (callback : Callback)
  | pause (callback : Callback)
  deriving DecidableEq

/-- What an observer of the session notes down, newest entry first. `hit` is a
breakpoint patch reported on a thread, `delivered` an exception that is passed on
as the thread's own. -/
inductive Entry
  | invoke (invocation : Invocation)
  | stepRequested (thread : ULONG) (callback : Option Callback)
  | hit (thread : Option ULONG) (address : ULONG64)
  | delivered (thread : Option ULONG) (address : ULONG_PTR)
  | resumed (status : ExecutionStatus)
  | executed (thread : ULONG) (address : ULONG_PTR)
  | exited (thread : ULONG)
  deriving DecidableEq

/-- A queued callback of `gCallbackQueue`, by the event that queued it. -/
inductive Work
  | breakpoint (id : ULONG) (offset : ULONG64)
  | exception (info : EXCEPTION_DEBUG_INFO)
  | createThread (handle : HANDLE)
  | exitThread (code : DWORD)
  | createProcess (handle : HANDLE) (initialThread : HANDLE)
  | exitProcess (code : DWORD)
  | loadModule (base : ULONG_PTR)
  | unloadModule (base : ULONG_PTR)
  | outputDebugString
  | pause (callback : Callback)
  | internalStep (threadIndex : ULONG)
  | step (threadIndex : ULONG) (callback : Option Callback) (threadSystemId : DWORD)
  deriving DecidableEq

/-- The debuggee. Threads are numbered by creation; engine thread indices select
contexts. `ownProtection` is what the page would carry had the adapter never
touched it; `suspends` and `resumes` count what internal steps did to a thread. -/
structure Target where
  memory : Memory 64 BYTE := fun _ => 0
  protection : ULONG_PTR → DWORD := fun _ => 4
  ownProtection : ULONG_PTR → DWORD := fun _ => 4
  threadOf : HANDLE → Option ℕ := fun _ => none
  suspends : ℕ → ℕ := fun _ => 0
  resumes : ℕ → ℕ := fun _ => 0
  ip : ULONG → ULONG_PTR := fun _ => 0
  eflags : ULONG → ULONG_PTR := fun _ => 0
  depth : ULONG → ℕ := fun _ => 0
  engineBreakpoints : OrderedSet ULONG := ∅

structure BreakpointTables where
  gDefaultBreakpointType : TitanBreakpointType := .int3
  gBreakpoints : Map ULONG BreakpointInfo := ∅
  gHardwareBreakpointIds : Map DWORD ULONG := ∅
  gNextNativeBreakpointId : ULONG := 0x80000000
  gRetiredBreakpointAddresses : OrderedSet ULONG64 := ∅
  gMemoryBreakpoints : Map ULONG64 MemoryBreakpointInfo := ∅
  gMemoryBreakpointPages : Map ULONG_PTR MemoryBreakpointPage := ∅
  gNextMemoryBreakpointId : ULONG64 := 1

structure StepTables where
  gStepCallbacks : Map ULONG (Option Callback) := ∅
  gStepThreadSystemIds : Map ULONG DWORD := ∅
  gInternalStepCallbacks : Map ULONG (List StepAction) := ∅
  gInternalStepSuspendedThreads : Map ULONG (List HANDLE) := ∅
  gStepStatuses : Map ULONG StepStatus := ∅

structure Session where
  gSessionKind : TitanSessionKind := .live
  gPaused : Bool := true
  gIsDebugging : Bool := true
  gExpectSystemBreakpoint : Bool := false
  gAttachCallback : Option Callback := none
  gPauseCallback : Option Callback := none
  gNextExecutionStatus : ExecutionStatus := .noChange
  gNextContinueStatus : DWORD := DBG_CONTINUE
  gFakeDebugEvent : DEBUG_EVENT := {}
  gCallbackQueue : List (Env × Work) := []
  gDebugIdMap : DebugIdMap := {}
  gHandleRegistry : Map HANDLE TitanHandleEntry := ∅
  gSyntheticDebugString : Option (ULONG_PTR × List BYTE) := none
  gTtdCursor : Option (List MemoryWatchpointData) := none
  bps : BreakpointTables := {}
  steps : StepTables := {}
  target : Target := {}
  targetPageSize : ULONG_PTR := 0x1000
  lastError : DWORD := 0
  log : List Entry := []

/-- The client's code: what it makes of the session at each point at which it is
called. It acts through the exported functions only. -/
abbrev Client := Invocation → Session → Session

def Client.call (k : Client) (inv : Invocation) (s : Session) : Session :=
  k inv { s with log := .invoke inv :: s.log }

namespace Session

/-- `PauseLock`: the lock is taken iff the session is paused. -/
def pauseLock (s : Session) : Bool := s.gPaused && s.gIsDebugging

/-- Fail with a last-error code. -/
def fail (s : Session) (error : DWORD) : Session × Bool := ({ s with lastError := error }, false)

/-- A null handle is 0. -/
def sessionProcessHandle (s : Session) : HANDLE :=
  (s.gDebugIdMap.processIndexToHandle.first.map (·.2)).getD 0

def activeProcessHandle (env : Env) (s : Session) : HANDLE :=
  (env.currentProcessId.bind fun i => s.gDebugIdMap.processIndexToHandle[i]?).getD 0

/-- The user part of the address space: Windows maps nothing in the lowest 64 KiB
nor from `maximumAddress` on. -/
def userRange (address : ULONG_PTR) (n : ℕ) : Bool :=
  decide (0x10000 ≤ address.toNat ∧ address.toNat + n ≤ 0x0000800000000000)

def readProcessMemory (env : Env) (address : ULONG_PTR) (n : ℕ) (s : Session) : Option (List BYTE) :=
  if env.readProcessMemory && userRange address n then some (s.target.memory.read address n)
  else none

/-- A failing call leaves a last-error code other than 0. -/
def writeProcessMemory (env : Env) (address : ULONG_PTR) (bytes : List BYTE) (s : Session) :
    Session × Bool :=
  if env.writeProcessMemory && userRange address bytes.length then
    ({ s with target.memory := s.target.memory.write address bytes }, true)
  else s.fail ERROR_NOACCESS

def debugProcessId (env : Env) : DWORD := env.currentProcessSystemId

def debugThreadId (env : Env) : DWORD := env.currentThreadSystemId

def setFakeDebugEvent (env : Env) (info : DebugInfo) (s : Session) : Session :=
  { s with gFakeDebugEvent := ⟨debugProcessId env, debugThreadId env, info⟩ }

def registerTitanHandle (handle : HANDLE) (type : TitanHandleType) (dbgengId systemId : ULONG)
    (callerOwned : Bool) (s : Session) : Session :=
  if handle = 0 ∨ handle = BitVec.allOnes 64 then s
  else { s with gHandleRegistry :=
           s.gHandleRegistry.insert handle ⟨type, dbgengId, systemId, handle, callerOwned⟩ }

def unregisterTitanHandle (handle : HANDLE) (s : Session) : Session :=
  { s with gHandleRegistry := s.gHandleRegistry.erase handle }

def registeredNativeHandle (handle : HANDLE) (expectedType : TitanHandleType) (s : Session) :
    Option HANDLE :=
  match s.gHandleRegistry[handle]? with
  | some entry =>
    if entry.type = expectedType ∧ entry.nativeHandle ≠ 0 then some entry.nativeHandle else none
  | none => none

/-- `SuspendThread` through the registry; only a call that succeeds counts. -/
def titanSuspendThread (env : Env) (handle : HANDLE) (s : Session) : Session × Bool :=
  match s.registeredNativeHandle handle .thread with
  | none => s.fail ERROR_INVALID_HANDLE
  | some native =>
    match s.target.threadOf native with
    | some thread =>
      if env.suspendThread native then
        ({ s with target.suspends :=
             Function.update s.target.suspends thread (s.target.suspends thread + 1) }, true)
      else (s, false)
    | none => (s, false)

/-- `ResumeThread` on a handle of a thread succeeds. -/
def titanResumeThread (handle : HANDLE) (s : Session) : Session :=
  match s.registeredNativeHandle handle .thread with
  | none => (s.fail ERROR_INVALID_HANDLE).1
  | some native =>
    match s.target.threadOf native with
    | some thread =>
      { s with target.resumes :=
          Function.update s.target.resumes thread (s.target.resumes thread + 1) }
    | none => s

/-- `GetContextDataEx(thread, UE_CFLAGS)`; 0 where the thread cannot be selected. -/
def getCFlags (env : Env) (thread : HANDLE) (s : Session) : ULONG_PTR :=
  match s.gDebugIdMap.threadHandleToIndex[thread]? with
  | some index => if env.context thread then s.target.eflags index else 0
  | none => 0

/-- `SetContextDataEx(thread, UE_CFLAGS, value)`. -/
def setCFlags (env : Env) (thread : HANDLE) (value : ULONG_PTR) (s : Session) : Session × Bool :=
  if s.gSessionKind = .minidump ∨ s.gSessionKind = .ttd then s.fail ERROR_NOT_SUPPORTED
  else if !s.pauseLock then (s, false)
  else
    match s.gDebugIdMap.threadHandleToIndex[thread]? with
    | some index =>
      if env.context thread then
        ({ s with target.eflags := Function.update s.target.eflags index value }, true)
      else (s, false)
    | none => s.fail ERROR_INVALID_HANDLE

/-- The instruction pointer of the event thread; the register cache is flushed
before the target is resumed. -/
def setCurrentInstructionPointer (env : Env) (address : ULONG_PTR) (s : Session) : Session :=
  match env.currentThreadId with
  | some index => { s with target.ip := Function.update s.target.ip index address }
  | none => s

end Session

end TitanEngine

import TitanEngine.Model.Events

/-! The exported functions that a client can call while a session runs. -/
namespace TitanEngine
namespace Session

def setNextDbgContinueStatus (SetDbgCode : DWORD) (s : Session) : Session × Bool :=
  if SetDbgCode ≠ DBG_EXCEPTION_NOT_HANDLED ∧ SetDbgCode ≠ DBG_CONTINUE then
    s.fail ERROR_INVALID_PARAMETER
  else ({ s with gNextContinueStatus := SetDbgCode }, true)

/-- `RequestPause`, with a policy in range. A request on top of another one is taken
for granted. -/
def requestPause (env : Env) (PauseCallback : Option Callback) (s : Session) : Session × Bool :=
  match PauseCallback with
  | none => s.fail ERROR_INVALID_PARAMETER
  | some callback =>
    if !s.gIsDebugging then s.fail ERROR_INVALID_PARAMETER
    else if s.gSessionKind ≠ .live then s.fail ERROR_NOT_SUPPORTED
    else if s.gPauseCallback.isSome then (s, true)
    else if env.setInterrupt then ({ s with gPauseCallback := some callback }, true)
    else s.fail (HRESULT_CODE env.hresult)

end Session

/-- `DetachProcesses` takes back what the engine has put into the target: its breakpoints, and
the suspensions that are its own. -/
def Target.detached (t : Target) : Target := { t with engineBreakpoints := ∅ }

namespace Session

/-- `error` is what `DetachProcesses` fails with, if it fails. -/
def detachDebuggerEx (env : Env) (error : Option DWORD) (s : Session) : Session × Bool :=
  match if s.pauseLock then s.removeAllMemoryBreakpoints env else (s, true) with
  | (s, false) => (s, false)
  | (s, true) =>
    match error with
    | some error => s.fail error
    | none => ({ s with target := s.target.detached }, true)

end Session

/-- A call of an exported function with its arguments. -/
inductive ApiCall
  | setBPX (bpxAddress : ULONG_PTR) (bpxType : DWORD) (bpxCallBack : Option Callback)
  | deleteBPX (bpxAddress : ULONG_PTR)
  | setBPXOptions (type : TitanBreakpointType)
  | setHardwareBreakPoint (bpxAddress : ULONG_PTR) (IndexOfRegister : DWORD) (bpxType bpxSize : ℕ)
      (bpxCallBack : Option Callback)
  | deleteHardwareBreakPoint (IndexOfRegister : DWORD)
  | removeAllBreakPoints
  | setMemoryBPXEx (MemoryStart SizeOfMemory : ULONG_PTR) (BreakPointType : ℕ) (RestoreOnHit : Bool)
      (bpxCallBack : Option Callback)
  | removeMemoryBPX (MemoryStart SizeOfMemory : ULONG_PTR)
  | memoryReadUnsafe (hProcess : HANDLE) (lpBaseAddress : ULONG_PTR) (nSize : ℕ)
  | memoryReadSafe (hProcess : HANDLE) (lpBaseAddress : ULONG_PTR) (nSize : ℕ)
  | memoryWriteSafe (hProcess : HANDLE) (lpBaseAddress : ULONG_PTR) (buffer : List BYTE)
  | memoryProtectSafe (lpAddress dwSize : ULONG_PTR) (flNewProtect : DWORD)
  | stepInto (traceCallBack : Option Callback)
  | stepOver (traceCallBack : Option Callback)
  | setNextDbgContinueStatus (SetDbgCode : DWORD)
  | requestPause (PauseCallback : Option Callback)
  deriving DecidableEq

namespace ApiCall

/-- The session after a call, and whether the call reports success. -/
def run (env : Env) : ApiCall → Session → Session × Bool
  | setBPX address type callback, s => s.setBPX env address type callback
  | deleteBPX address, s => s.deleteBPX env address
  | setBPXOptions type, s => (s.setBPXOptions type, true)
  | setHardwareBreakPoint address reg type size callback, s =>
    s.setHardwareBreakPoint env address reg type size callback
  | deleteHardwareBreakPoint reg, s => s.deleteHardwareBreakPoint env reg
  | removeAllBreakPoints, s => s.removeAllBreakPoints env
  | setMemoryBPXEx start size type restoreOnHit callback, s =>
    s.setMemoryBPXEx env start size type restoreOnHit callback
  | removeMemoryBPX start size, s => s.removeMemoryBPX env start size
  | memoryReadUnsafe process address size, s =>
    let r := s.memoryReadUnsafe env process address size
    (r.1, r.2.isSome)
  | memoryReadSafe process address size, s =>
    let r := s.memoryReadSafe env process address size
    (r.1, r.2.isSome)
  | memoryWriteSafe process address buffer, s => s.memoryWriteSafe env process address buffer
  | memoryProtectSafe address size protection, s => s.memoryProtectSafe env address size protection
  | stepInto callback, s => (s.debugStep env .into callback, true)
  | stepOver callback, s => (s.debugStep env .over callback, true)
  | setNextDbgContinueStatus code, s => s.setNextDbgContinueStatus code
  | requestPause callback, s => s.requestPause env callback

end ApiCall

end TitanEngine

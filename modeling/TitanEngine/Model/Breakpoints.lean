import TitanEngine.Model.Session

/-! Software and hardware breakpoints: installing, removing and listing records. -/
namespace TitanEngine

def TitanBreakpointType.patchSize : TitanBreakpointType → ℕ
  | .int3 => 1
  | .longInt3 => 2
  | .ud2 => 2

def TitanBreakpointType.patchBytes : TitanBreakpointType → Vector BYTE 2
  | .int3 => #v[0xCC, 0]
  | .longInt3 => #v[0xCD, 0x03]
  | .ud2 => #v[0x0F, 0x0B]

theorem TitanBreakpointType.patchSize_le (type : TitanBreakpointType) : type.patchSize ≤ 2 := by
  cases type <;> decide

theorem TitanBreakpointType.marked (type : TitanBreakpointType) :
    type.patchBytes.toList.take type.patchSize ∈ [[], [0xCC], [0xCD, 0x03], [0x0F, 0x0B]] := by
  cases type <;> decide

namespace BreakpointInfo

/-- The bytes that writing `patchSize` cells of `originalBytes` transfers. -/
def originals (info : BreakpointInfo) : List BYTE := info.originalBytes.toList.take info.patchSize

def patch (info : BreakpointInfo) : List BYTE := info.patchBytes.toList.take info.patchSize

@[simp] theorem length_originals (info : BreakpointInfo) : info.originals.length = info.patchSize := by
  simpa [originals] using info.patchSize_le

@[simp] theorem length_patch (info : BreakpointInfo) : info.patch.length = info.patchSize := by
  simpa [patch] using info.patchSize_le

/-- The record is the one that an exception at `address` belongs to. An `INT 3` in
its two-byte encoding is reported one byte past its start. -/
def matchesException (info : BreakpointInfo) (address : ULONG64) : Bool :=
  let longInt3Address := info.patchSize == 2 && info.patchBytes[0] == 0xCD &&
    info.patchBytes[1] == 0x03 && info.offset + 1 == address
  info.nativePatch && (info.offset == address || longInt3Address)

end BreakpointInfo

/-- A zeroed two-byte buffer after a read into it. -/
def loadBytes (bytes : List BYTE) : Vector BYTE 2 := #v[bytes.getD 0 0, bytes.getD 1 0]

theorem take_loadBytes (bytes : List BYTE) (h : bytes.length ≤ 2) :
    (loadBytes bytes).toList.take bytes.length = bytes := by
  match bytes, h with
  | [], _ => rfl
  | [_], _ => rfl
  | [_, _], _ => rfl

namespace Session

/-- The first record, in the order of ids, of a software breakpoint at `address`. -/
def findSoftware (address : ULONG64) (s : Session) : Option (ULONG × BreakpointInfo) :=
  s.bps.gBreakpoints.toList.find? fun entry => entry.2.kind = .software ∧ entry.2.offset = address

def isBPXEnabled (address : ULONG_PTR) (s : Session) : Bool :=
  s.pauseLock && (s.findSoftware address).isSome

def setBPXOptions (type : TitanBreakpointType) (s : Session) : Session :=
  { s with bps.gDefaultBreakpointType := type }

def writeNativeBreakpointBytes (env : Env) (info : BreakpointInfo) (install : Bool) (s : Session) :
    Session × Bool :=
  if s.sessionProcessHandle = 0 ∨ info.patchSize = 0 then (s, false)
  else
    match s.writeProcessMemory env info.offset (if install then info.patch else info.originals) with
    | (s, true) => if env.flushInstructionCache then (s, true) else s.fail ERROR_INVALID_HANDLE
    | (s, false) => (s, false)

/-- `AddMemoryWatchpoint`: adding a watchpoint that is present succeeds. -/
def addMemoryWatchpoint (env : Env) (data : MemoryWatchpointData) (s : Session) : Session × Bool :=
  match s.gTtdCursor with
  | some watchpoints =>
    if env.addMemoryWatchpoint then
      ({ s with gTtdCursor := some (if data ∈ watchpoints then watchpoints
                                    else data :: watchpoints) }, true)
    else (s, false)
  | none => (s, false)

def removeMemoryWatchpoint (env : Env) (data : MemoryWatchpointData) (s : Session) : Session × Bool :=
  match s.gTtdCursor with
  | some watchpoints =>
    if env.removeMemoryWatchpoint ∧ data ∈ watchpoints then
      ({ s with gTtdCursor := some (watchpoints.filter (· ≠ data)) }, true)
    else (s, false)
  | none => (s, false)

def addTtdSoftwareBreakpoint (env : Env) (address : ULONG_PTR) (callback : Option Callback)
    (oneShot : Bool) (threadAffinity : ULONG) (s : Session) : Session × Bool :=
  match s.addMemoryWatchpoint env ⟨address, 1, ACCESS_EXECUTE⟩ with
  | (s, false) => s.fail ERROR_GEN_FAILURE
  | (s, true) =>
    let info : BreakpointInfo :=
      { id := s.bps.gNextNativeBreakpointId, kind := .software, callback := callback
        offset := address, oneShot := oneShot, ttdThreadAffinity := threadAffinity }
    ({ s with bps.gNextNativeBreakpointId := s.bps.gNextNativeBreakpointId + 1
              bps.gBreakpoints := s.bps.gBreakpoints.insertIfNew info.id info }, true)

/-- Which patch `SetBPX` installs; `none` for a type it rejects. -/
def selectBreakpointType (bpxType : DWORD) (s : Session) : Option TitanBreakpointType :=
  let type := bpxType &&& 0xF0000000
  if type = 0 then some s.bps.gDefaultBreakpointType
  else if type = UE_BREAKPOINT_TYPE_INT3 then some .int3
  else if type = UE_BREAKPOINT_TYPE_LONG_INT3 then some .longInt3
  else if type = UE_BREAKPOINT_TYPE_UD2 then some .ud2
  else none

/-- Capture the bytes under the patch, take an id and write the patch. The record
is returned once the patch is in the target. -/
def installNative (env : Env) (info : BreakpointInfo) (s : Session) :
    Session × Option BreakpointInfo :=
  if s.sessionProcessHandle = 0 then (s, none)
  else
    match s.readProcessMemory env info.offset info.patchSize with
    | none => ((s.fail ERROR_NOACCESS).1, none)
    | some bytes =>
      let info := { info with originalBytes := loadBytes bytes
                              nativePatch := true
                              id := s.bps.gNextNativeBreakpointId
                              patched := .inl rfl }
      let s := { s with bps.gNextNativeBreakpointId := s.bps.gNextNativeBreakpointId + 1 }
      match s.writeNativeBreakpointBytes env info true with
      | (s, true) => (s, some info)
      | (s, false) => (s, none)

def setBPX (env : Env) (bpxAddress : ULONG_PTR) (bpxType : DWORD) (bpxCallBack : Option Callback)
    (s : Session) : Session × Bool :=
  if bpxAddress = 0 ∨ bpxCallBack = none then s.fail ERROR_INVALID_PARAMETER
  else if ¬ s.pauseLock ∧ ¬ s.gIsDebugging then s.fail ERROR_INVALID_HANDLE
  else if (s.findSoftware bpxAddress).isSome then s.fail ERROR_ALREADY_EXISTS
  else if s.gSessionKind = .ttd then
    s.addTtdSoftwareBreakpoint env bpxAddress bpxCallBack (bpxType &&& UE_SINGLESHOOT ≠ 0) 0
  else
    match s.selectBreakpointType bpxType with
    | none => s.fail ERROR_INVALID_PARAMETER
    | some selectedType =>
      let info : BreakpointInfo :=
        { callback := bpxCallBack, offset := bpxAddress
          oneShot := bpxType &&& UE_SINGLESHOOT ≠ 0
          nativePatch := true, patchSize := selectedType.patchSize
          patchBytes := selectedType.patchBytes
          patchSize_le := selectedType.patchSize_le, patched := .inl rfl, marked := selectedType.marked }
      match s.installNative env info with
      | (s, none) => (s, false)
      | (s, some info) =>
        ({ s with bps.gRetiredBreakpointAddresses := s.bps.gRetiredBreakpointAddresses.erase bpxAddress
                  bps.gBreakpoints := s.bps.gBreakpoints.insert info.id info }, true)

/-- `RemoveBreakpoint2` on the engine object of a record; a record without one has
nothing that the engine could remove. -/
def removeBreakpoint2 (env : Env) (bp : Option ULONG) (s : Session) : Session × Bool :=
  match bp with
  | some bp =>
    if env.removeBreakpoint bp then
      ({ s with target.engineBreakpoints := s.target.engineBreakpoints.erase bp }, true)
    else (s, false)
  | none => (s, false)

def deleteBPX (env : Env) (bpxAddress : ULONG_PTR) (s : Session) : Session × Bool :=
  match s.findSoftware bpxAddress with
  | none => s.fail ERROR_NOT_FOUND
  | some (id, info) =>
    if s.gSessionKind = .ttd then
      match s.removeMemoryWatchpoint env ⟨bpxAddress, 1, ACCESS_EXECUTE⟩ with
      | (s, false) => (s, false)
      | (s, true) => ({ s with bps.gBreakpoints := s.bps.gBreakpoints.erase id }, true)
    else
      match (if info.nativePatch then s.writeNativeBreakpointBytes env info false
             else s.removeBreakpoint2 env info.bp) with
      | (s, false) => (s, false)
      | (s, true) =>
        ({ s with bps.gRetiredBreakpointAddresses := s.bps.gRetiredBreakpointAddresses.insert bpxAddress
                  bps.gBreakpoints := s.bps.gBreakpoints.erase id }, true)

/-- The first free slot. -/
def unusedHardwareRegister (s : Session) : Option DWORD :=
  hardwareRegisters.find? fun reg => !s.bps.gHardwareBreakpointIds.contains reg

/-- An execute breakpoint is a one-byte patch of the adapter, not a debug register. -/
def setExecuteBreakPoint (env : Env) (bpxAddress : ULONG_PTR) (reg : DWORD)
    (bpxCallBack : Option Callback) (s : Session) : Session × Bool :=
  let info : BreakpointInfo :=
    { kind := .hardware, offset := bpxAddress, hardwareCallback := bpxCallBack
      hardwareRegister := reg, nativePatch := true, patchSize := 1, patchBytes := #v[0xCC, 0]
      id := s.bps.gNextNativeBreakpointId }
  let s := { s with bps.gNextNativeBreakpointId := s.bps.gNextNativeBreakpointId + 1 }
  if s.sessionProcessHandle = 0 then (s, false)
  else
    match s.readProcessMemory env bpxAddress 1 with
    | none => s.fail ERROR_NOACCESS
    | some bytes =>
      let info := { info with originalBytes := loadBytes bytes }
      match s.writeNativeBreakpointBytes env info true with
      | (s, false) => (s, false)
      | (s, true) =>
        ({ s with bps.gBreakpoints := s.bps.gBreakpoints.insert info.id info
                  bps.gHardwareBreakpointIds :=
                    s.bps.gHardwareBreakpointIds.insertIfNew reg info.id }, true)

/-- The last error after an engine call that returned `hr`. -/
def errorOfHresult (hr : DWORD) : DWORD := if HRESULT_CODE hr = 0 then ERROR_GEN_FAILURE else HRESULT_CODE hr

/-- A data breakpoint is an engine object. -/
def setDataBreakPoint (env : Env) (bpxAddress : ULONG_PTR) (reg : DWORD) (dataSize : ULONG)
    (bpxCallBack : Option Callback) (s : Session) : Session × Bool :=
  if bpxAddress &&& (dataSize - 1).setWidth 64 ≠ 0 then s.fail ERROR_MAPPED_ALIGNMENT
  else
    match env.addBreakpoint with
    | none => s.fail (errorOfHresult env.hresult)
    | some id =>
      let info : BreakpointInfo :=
        { bp := some id, kind := .hardware, offset := bpxAddress
          hardwareCallback := bpxCallBack, hardwareRegister := reg, id := id }
      ({ s with target.engineBreakpoints := s.target.engineBreakpoints.insert id
                bps.gBreakpoints := s.bps.gBreakpoints.insert id info
                bps.gHardwareBreakpointIds :=
                  s.bps.gHardwareBreakpointIds.insertIfNew reg id }, true)

/-- `UE_DR0` to `UE_DR3` as given, else the first free slot. -/
def chooseRegister (IndexOfRegister : DWORD) (s : Session) : DWORD :=
  if IndexOfRegister = 0 then s.unusedHardwareRegister.getD 0 else IndexOfRegister

def setHardwareBreakPoint (env : Env) (bpxAddress : ULONG_PTR) (IndexOfRegister : DWORD)
    (bpxType bpxSize : ℕ) (bpxCallBack : Option Callback) (s : Session) : Session × Bool :=
  let reg := s.chooseRegister IndexOfRegister
  if bpxAddress = 0 ∨ bpxCallBack = none then s.fail ERROR_INVALID_PARAMETER
  else if !s.pauseLock then
    s.fail (if s.gIsDebugging then ERROR_BUSY else ERROR_INVALID_HANDLE)
  else if reg ∉ hardwareRegisters then s.fail ERROR_INVALID_PARAMETER
  else if s.bps.gHardwareBreakpointIds.contains reg then s.fail ERROR_ALREADY_EXISTS
  else
    match hardwareBreakpointSize bpxSize, TitanHardwareBreakpointType.ofValue bpxType with
    | none, _ => s.fail ERROR_INVALID_PARAMETER
    | _, none => s.fail ERROR_INVALID_PARAMETER
    | some _, some .execute => s.setExecuteBreakPoint env bpxAddress reg bpxCallBack
    | some dataSize, some _ => s.setDataBreakPoint env bpxAddress reg dataSize bpxCallBack

/-- The outcome of removing a patch is kept as `HRESULT_FROM_WIN32(GetLastError())`,
which is no failure when the last-error code is 0. -/
def removeHardware (env : Env) (info : BreakpointInfo) (s : Session) : Session × Bool :=
  if info.nativePatch then
    match s.writeNativeBreakpointBytes env info false with
    | (s, true) =>
      ({ s with bps.gRetiredBreakpointAddresses :=
           s.bps.gRetiredBreakpointAddresses.insert info.offset }, true)
    | (s, false) => (s, s.lastError = 0)
  else s.removeBreakpoint2 env info.bp

def deleteHardwareBreakPoint (env : Env) (IndexOfRegister : DWORD) (s : Session) : Session × Bool :=
  if IndexOfRegister ∉ hardwareRegisters then s.fail ERROR_INVALID_PARAMETER
  else if !s.pauseLock then
    s.fail (if s.gIsDebugging then ERROR_BUSY else ERROR_INVALID_HANDLE)
  else
    match s.bps.gHardwareBreakpointIds[IndexOfRegister]? with
    | none => s.fail ERROR_NOT_FOUND
    | some id =>
      match s.bps.gBreakpoints[id]? with
      | none =>
        ({ s with bps.gHardwareBreakpointIds := s.bps.gHardwareBreakpointIds.erase IndexOfRegister
                  lastError := ERROR_INVALID_DATA }, false)
      | some info =>
        match s.removeHardware env info with
        | (s, false) => s.fail (errorOfHresult (if info.nativePatch then s.lastError else env.hresult))
        | (s, true) =>
          ({ s with bps.gBreakpoints := s.bps.gBreakpoints.erase id
                    bps.gHardwareBreakpointIds :=
                      s.bps.gHardwareBreakpointIds.erase IndexOfRegister }, true)

end Session

/-- The record that others are made from. -/
def BreakpointInfo.blank : BreakpointInfo := { offset := 0 }

end TitanEngine

import TitanEngine.Model.Host
import TitanEngine.Model.MemoryMap

/-! The registry of handles and the tables beside it, for both widths of a handle: what
registers a handle, what gives one out, and what takes it out again. -/
namespace TitanEngine

instance (b : Build) : Std.TransOrd (BitVec b.bits) := inferInstance

namespace Build

/-- The branch of `createSyntheticTitanHandle` for the build whose handles have 32 bits. -/
def syntheticHandle32 (serial : BitVec 32) : BitVec 32 :=
  (0xF0000000 : BitVec 32) ||| ((serial &&& 0x00FFFFFF) <<< 4) ||| 3

def invalidHandleValue (b : Build) : BitVec b.bits := BitVec.allOnes b.bits

/-- The value that `createSyntheticTitanHandle` makes of a serial number. -/
def syntheticHandle : (b : Build) → BitVec b.bits → BitVec b.bits
  | x64 => TtdSession.syntheticHandle
  | x86 => syntheticHandle32

end Build

/-- `TitanHandleEntry` with a handle as wide as the build has it. -/
structure RegistryEntry (b : Build) where
  type : TitanHandleType
  dbgengId : ULONG
  systemId : DWORD
  nativeHandle : BitVec b.bits
  callerOwned : Bool
  deriving DecidableEq

structure HandleTables (b : Build) where
  processIndexToHandle : Map ULONG (BitVec b.bits) := ∅
  processHandleToIndex : Map (BitVec b.bits) ULONG := ∅
  threadIndexToHandle : Map ULONG (BitVec b.bits) := ∅
  threadHandleToIndex : Map (BitVec b.bits) ULONG := ∅
  gProcessPebCache : Map (BitVec b.bits) ULONG64 := ∅
  gProcessTebCache : Map (BitVec b.bits) ULONG64 := ∅
  gHandleRegistry : Map (BitVec b.bits) (RegistryEntry b) := ∅
  gNextSyntheticHandle : BitVec b.bits := 1
  lastError : DWORD := 0

namespace HandleTables
variable {b : Build}

def registerTitanHandle (handle : BitVec b.bits) (entry : RegistryEntry b) (s : HandleTables b) :
    HandleTables b :=
  if handle = 0 ∨ handle = b.invalidHandleValue then s
  else { s with gHandleRegistry := s.gHandleRegistry.insert handle entry }

def createSyntheticTitanHandle (type : TitanHandleType) (dbgengId : ULONG) (systemId : DWORD)
    (callerOwned : Bool) (s : HandleTables b) : HandleTables b × BitVec b.bits :=
  let handle := b.syntheticHandle s.gNextSyntheticHandle
  let s := { s with gNextSyntheticHandle := s.gNextSyntheticHandle + 1 }
  (s.registerTitanHandle handle ⟨type, dbgengId, systemId, 0, callerOwned⟩, handle)

def unregisterTitanHandle (handle : BitVec b.bits) (s : HandleTables b) : HandleTables b :=
  { s with gHandleRegistry := s.gHandleRegistry.erase handle }

def closeCallerOwnedTitanHandles (s : HandleTables b) : HandleTables b := { s with gHandleRegistry := ∅ }

/-- The caller's handle enters the tables of its type, with the PEB or TEB at `address`. -/
def index (type : TitanHandleType) (handle : BitVec b.bits) (dbgengId : ULONG) (address : ULONG64)
    (s : HandleTables b) : HandleTables b :=
  match type with
  | .process =>
    { s with processHandleToIndex := s.processHandleToIndex.insert handle dbgengId
             gProcessPebCache := s.gProcessPebCache.insert handle address }
  | .thread =>
    { s with threadHandleToIndex := s.threadHandleToIndex.insert handle dbgengId
             gProcessTebCache := s.gProcessTebCache.insert handle address }

/-- The handle is also the one that events about the object carry. -/
def remember (type : TitanHandleType) (handle : BitVec b.bits) (dbgengId : ULONG) (address : ULONG64)
    (s : HandleTables b) : HandleTables b :=
  match type with
  | .process =>
    { s.index type handle dbgengId address with
      processIndexToHandle := s.processIndexToHandle.insert dbgengId handle }
  | .thread =>
    { s.index type handle dbgengId address with
      threadIndexToHandle := s.threadIndexToHandle.insert dbgengId handle }

/-- `TitanOpenProcess` and `TitanOpenThread`. In a replay and in a dump `found` is the engine
id and the PEB or TEB of the object, if it is known; elsewhere `opened` is what Windows
answers. -/
def titanOpen (kind : TitanSessionKind) (type : TitanHandleType) (systemId : DWORD)
    (found : Option (ULONG × ULONG64)) (opened : BitVec b.bits) (s : HandleTables b) :
    HandleTables b × BitVec b.bits :=
  if kind = .ttd ∨ kind = .minidump then
    match found with
    | none => ({ s with lastError := ERROR_INVALID_PARAMETER }, 0)
    | some (dbgengId, address) =>
      let r := s.createSyntheticTitanHandle type dbgengId systemId true
      (r.1.index type r.2 dbgengId address, r.2)
  else (s.registerTitanHandle opened ⟨type, DEBUG_ANY_ID, systemId, opened, true⟩, opened)

/-- `closed` is what `CloseHandle` answers. -/
def titanCloseHandle (hEngineHandle : BitVec b.bits) (closed : Bool) (s : HandleTables b) :
    HandleTables b × Bool :=
  match s.gHandleRegistry[hEngineHandle]? with
  | none => ({ s with lastError := ERROR_INVALID_HANDLE }, false)
  | some entry =>
    if !entry.callerOwned then ({ s with lastError := ERROR_INVALID_HANDLE }, false)
    else if entry.nativeHandle = 0 ∨ closed then
      ({ s with
         processHandleToIndex := s.processHandleToIndex.erase hEngineHandle
         threadHandleToIndex := s.threadHandleToIndex.erase hEngineHandle
         gProcessPebCache := s.gProcessPebCache.erase hEngineHandle
         gProcessTebCache := s.gProcessTebCache.erase hEngineHandle
         gHandleRegistry := s.gHandleRegistry.erase hEngineHandle }, true)
    else (s, false)

/-- What a replay or a dump starts with: the handles of the first process and thread that
events carry, those of the other threads, and the two that the caller gets. A process or
thread is given by its engine id, its system id and its PEB or TEB. -/
def bootstrap (process thread : ULONG × DWORD × ULONG64) (others : List (ULONG × DWORD × ULONG64))
    (s : HandleTables b) : HandleTables b :=
  let token (type : TitanHandleType) (s : HandleTables b) (object : ULONG × DWORD × ULONG64) :=
    let r := s.createSyntheticTitanHandle type object.1 object.2.1 false
    r.1.remember type r.2 object.1 object.2.2
  let s := others.foldl (token .thread) (token .thread (token .process s process) thread)
  let initProcess := s.createSyntheticTitanHandle .process process.1 process.2.1 true
  let initThread := initProcess.1.createSyntheticTitanHandle .thread thread.1 thread.2.1 true
  (initThread.1.index .process initProcess.2 process.1 process.2.2).index .thread initThread.2 thread.1
    thread.2.2

/-- The states of the tables and the synthetic handles made until then, in order. Handles of
Windows are multiples of 4. -/
inductive Reaches : List (BitVec b.bits) → HandleTables b → Prop
  | start : Reaches [] {}
  | create {made} {s : HandleTables b} (before : Reaches made s) (type : TitanHandleType)
      (dbgengId : ULONG) (systemId : DWORD) (callerOwned : Bool) :
      Reaches (made ++ [(s.createSyntheticTitanHandle type dbgengId systemId callerOwned).2])
        (s.createSyntheticTitanHandle type dbgengId systemId callerOwned).1
  | register {made} {s : HandleTables b} (before : Reaches made s) {handle : BitVec b.bits}
      (entry : RegistryEntry b)
      (native : handle = 0 ∨ handle = b.invalidHandleValue ∨ 4 ∣ handle.toNat) :
      Reaches made (s.registerTitanHandle handle entry)
  | unregister {made} {s : HandleTables b} (before : Reaches made s) (handle : BitVec b.bits) :
      Reaches made (s.unregisterTitanHandle handle)
  | close {made} {s : HandleTables b} (before : Reaches made s) (hEngineHandle : BitVec b.bits)
      (closed : Bool) : Reaches made (s.titanCloseHandle hEngineHandle closed).1
  | clear {made} {s : HandleTables b} (before : Reaches made s) :
      Reaches made s.closeCallerOwnedTitanHandles
  -- The other tables, whatever is done to them.
  | tables {made} {s s' : HandleTables b} (before : Reaches made s)
      (registry : s'.gHandleRegistry = s.gHandleRegistry)
      (serial : s'.gNextSyntheticHandle = s.gNextSyntheticHandle) : Reaches made s'

end HandleTables

end TitanEngine

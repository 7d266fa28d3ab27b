import Mathlib.Logic.Function.Basic
import TitanEngine.Model.Handles

/-! The registry beside the handles that Windows has open in the debugger's process: what the
exports have Windows open and close. -/
namespace TitanEngine

/-- The handle of Windows that is to be closed with the entry, if it is the caller's. -/
def RegistryEntry.closes {b : Build} (entry : RegistryEntry b) : Option (BitVec b.bits) :=
  if entry.callerOwned ∧ entry.nativeHandle ≠ 0 then some entry.nativeHandle else none

namespace HandleTables
variable {b : Build}

def registeredNativeHandle (handle : BitVec b.bits) (expectedType : TitanHandleType)
    (s : HandleTables b) : HandleTables b × BitVec b.bits :=
  match s.gHandleRegistry[handle]? with
  | some entry =>
    if entry.type ≠ expectedType ∨ entry.nativeHandle = 0 then
      ({ s with lastError := ERROR_INVALID_HANDLE }, 0)
    else (s, entry.nativeHandle)
  | none => ({ s with lastError := ERROR_INVALID_HANDLE }, 0)

/-- `created` is what `CreateRemoteThread` answers. -/
def titanCreateRemoteThread (hProcess : BitVec b.bits) (threadId : DWORD) (created : BitVec b.bits)
    (s : HandleTables b) : HandleTables b × BitVec b.bits :=
  let r := s.registeredNativeHandle hProcess .process
  if r.2 = 0 then (r.1, 0)
  else (r.1.registerTitanHandle created ⟨.thread, DEBUG_ANY_ID, threadId, created, true⟩, created)

/-- The handle of Windows that `TitanCloseHandle` closes. -/
def closes (hEngineHandle : BitVec b.bits) (s : HandleTables b) : Option (BitVec b.bits) :=
  s.gHandleRegistry[hEngineHandle]?.bind RegistryEntry.closes

/-- What `closeCallerOwnedTitanHandles` closes, in order. -/
def callerOwnedNativeHandles (s : HandleTables b) : List (BitVec b.bits) :=
  s.gHandleRegistry.toList.filterMap fun entry => entry.2.closes

end HandleTables

/-- Who has a handle open: the client through an export, DbgEng, or anyone else. -/
inductive HandleOwner
  | caller
  | engine
  | other
  deriving DecidableEq

/-- `opened` are the handles that the exports were given by Windows, `closed` those that they
closed, with the owner that each had then, newest first. -/
structure HandleWorld (b : Build) where
  tables : HandleTables b := {}
  owner : BitVec b.bits → Option HandleOwner := fun _ => none
  opened : List (BitVec b.bits) := []
  closed : List (BitVec b.bits × Option HandleOwner) := []

namespace HandleWorld
variable {b : Build}

/-- Windows answers with a new handle, or with zero. -/
def receive (handle : BitVec b.bits) (w : HandleWorld b) : HandleWorld b :=
  if handle = 0 then w
  else { w with owner := Function.update w.owner handle (some .caller), opened := handle :: w.opened }

/-- `CloseHandle` closes whatever has that value. -/
def closeHandle (handle : BitVec b.bits) (w : HandleWorld b) : HandleWorld b :=
  { w with owner := Function.update w.owner handle none
           closed := (handle, w.owner handle) :: w.closed }

def titanOpen (kind : TitanSessionKind) (type : TitanHandleType) (systemId : DWORD)
    (found : Option (ULONG × ULONG64)) (opened : BitVec b.bits) (w : HandleWorld b) : HandleWorld b :=
  let tables := (w.tables.titanOpen kind type systemId found opened).1
  if kind = .ttd ∨ kind = .minidump then { w with tables := tables }
  else { w.receive opened with tables := tables }

def titanCreateRemoteThread (hProcess : BitVec b.bits) (threadId : DWORD) (created : BitVec b.bits)
    (w : HandleWorld b) : HandleWorld b :=
  let tables := (w.tables.titanCreateRemoteThread hProcess threadId created).1
  if (w.tables.registeredNativeHandle hProcess .process).2 = 0 then { w with tables := tables }
  else { w.receive created with tables := tables }

/-- The end of `InitDebugW`: the handles of the new process are duplicated for the client.
`process` and `thread` are what `DuplicateHandle` leaves, zero after a failure. -/
def initDebugW (process thread : BitVec b.bits) (dwProcessId dwThreadId : DWORD) (w : HandleWorld b) :
    HandleWorld b × Bool :=
  if process = 0 then (w, false)
  else if thread = 0 then ((w.receive process).closeHandle process, false)
  else
    let tables := w.tables.registerTitanHandle process
      ⟨.process, DEBUG_ANY_ID, dwProcessId, process, true⟩
    ({ (w.receive process).receive thread with
       tables := tables.registerTitanHandle thread ⟨.thread, DEBUG_ANY_ID, dwThreadId, thread, true⟩ },
     true)

def titanCloseHandle (hEngineHandle : BitVec b.bits) (w : HandleWorld b) : HandleWorld b × Bool :=
  match w.tables.closes hEngineHandle with
  | none =>
    let r := w.tables.titanCloseHandle hEngineHandle true
    ({ w with tables := r.1 }, r.2)
  | some handle =>
    let r := w.tables.titanCloseHandle hEngineHandle (w.owner handle).isSome
    ({ w.closeHandle handle with tables := r.1 }, r.2)

def closeCallerOwnedTitanHandles (w : HandleWorld b) : HandleWorld b :=
  { w.tables.callerOwnedNativeHandles.foldl (fun w handle => w.closeHandle handle) w with
    tables := w.tables.closeCallerOwnedTitanHandles }

/-- What Windows can answer: handles are multiples of 4, and a new one is not open yet. -/
def Answers (handle : BitVec b.bits) (w : HandleWorld b) : Prop :=
  handle = 0 ∨ 4 ∣ handle.toNat ∧ w.owner handle = none

/-- The exports, called in any order, and what DbgEng and the rest of the process do with the
handles that are not the caller's. -/
inductive Step : HandleWorld b → HandleWorld b → Prop
  | titanOpen {kind : TitanSessionKind} {type : TitanHandleType} {systemId : DWORD}
      {found : Option (ULONG × ULONG64)} {opened : BitVec b.bits} {w : HandleWorld b}
      (answer : w.Answers opened) : Step w (w.titanOpen kind type systemId found opened)
  | titanCreateRemoteThread {hProcess : BitVec b.bits} {threadId : DWORD} {created : BitVec b.bits}
      {w : HandleWorld b} (answer : w.Answers created) :
      Step w (w.titanCreateRemoteThread hProcess threadId created)
  | initDebugW {process thread : BitVec b.bits} {dwProcessId dwThreadId : DWORD} {w : HandleWorld b}
      (answer : w.Answers process) (second : (w.receive process).Answers thread) :
      Step w (w.initDebugW process thread dwProcessId dwThreadId).1
  | titanCloseHandle {hEngineHandle : BitVec b.bits} {w : HandleWorld b} :
      Step w (w.titanCloseHandle hEngineHandle).1
  | closeCallerOwnedTitanHandles {w : HandleWorld b} : Step w w.closeCallerOwnedTitanHandles
  | createSyntheticTitanHandle {type : TitanHandleType} {dbgengId : ULONG} {systemId : DWORD}
      {callerOwned : Bool} {w : HandleWorld b} :
      Step w
        { w with tables := (w.tables.createSyntheticTitanHandle type dbgengId systemId callerOwned).1 }
  -- An event of DbgEng registers a handle that DbgEng has open.
  | register {handle : BitVec b.bits} {type : TitanHandleType} {dbgengId : ULONG} {systemId : DWORD}
      {w : HandleWorld b} (engines : w.owner handle = some .engine) :
      Step w
        { w with tables := w.tables.registerTitanHandle handle ⟨type, dbgengId, systemId, handle, false⟩ }
  -- DbgEng closes the handle of a thread or process only after its exit event is worked off.
  | unregister {handle : BitVec b.bits} {w : HandleWorld b}
      (engines : w.owner handle = some .engine ∨ ¬ 4 ∣ handle.toNat) :
      Step w { w with tables := w.tables.unregisterTitanHandle handle }
  | elsewhere {handle : BitVec b.bits} {next : Option HandleOwner} {w : HandleWorld b}
      (before : w.owner handle ≠ some .caller) (after : next ≠ some .caller) :
      Step w { w with owner := Function.update w.owner handle next }
  | tables {w : HandleWorld b} {s : HandleTables b}
      (registry : s.gHandleRegistry = w.tables.gHandleRegistry) : Step w { w with tables := s }

abbrev Run : HandleWorld b → HandleWorld b → Prop := Relation.ReflTransGen Step

end HandleWorld

end TitanEngine

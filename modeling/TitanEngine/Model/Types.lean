import Mathlib.Data.BitVec
import Std.Data.ExtTreeMap
import Std.Data.ExtTreeSet

/-! Records, enumerations and constants of the adapter. Integer widths are those
of the x64 build; `std::map` and `std::set` are ordered extensional trees. -/
namespace TitanEngine

abbrev BYTE := BitVec 8
abbrev DWORD := BitVec 32
abbrev ULONG := BitVec 32
abbrev ULONG64 := BitVec 64
abbrev ULONG_PTR := BitVec 64
abbrev HANDLE := BitVec 64

/-- A non-null function pointer of the client. -/
abbrev Callback := ℕ

/-- One constant for each width of a key, whichever map or list is asked about. -/
instance : Std.TransOrd ULONG64 := inferInstance
instance : Std.TransOrd ULONG := inferInstance
instance : LawfulBEq ULONG64 := inferInstance

abbrev Map (α β : Type) [Ord α] := Std.ExtTreeMap α β
abbrev OrderedSet (α : Type) [Ord α] := Std.ExtTreeSet α

/-- `*m.begin()`, when the map is not empty. -/
def Map.first {α β : Type} [Ord α] [Std.TransOrd α] (m : Map α β) : Option (α × β) := m.toList.head?

theorem Map.first_eq_none_iff {α β : Type} [Ord α] [Std.TransOrd α] {m : Map α β} :
    m.first = none ↔ m = ∅ := by
  unfold Map.first
  rw [List.head?_eq_none_iff, Std.ExtTreeMap.toList_eq_nil_iff]

theorem Map.getElem?_of_first {α β : Type} [Ord α] [Std.TransOrd α] [Std.LawfulEqOrd α] {m : Map α β}
    {k : α} {v : β} (h : m.first = some (k, v)) : m[k]? = some v := by
  apply Std.ExtTreeMap.mem_toList_iff_getElem?_eq_some.mp
  exact List.mem_of_mem_head? h

theorem isLE_compare_iff {x y : ULONG} : (compare x y).isLE ↔ x ≤ y := by
  show (compareOfLessAndEq x y).isLE = true ↔ x ≤ y
  exact isLE_compareOfLessAndEq (fun {_ _} => BitVec.le_antisymm) BitVec.not_le (fun {_ _} => BitVec.le_total _ _)

section First
variable {α β : Type} [Ord α] [Std.TransOrd α] [Std.LawfulEqOrd α] {m : Map α β} {k : α} {v : β}

theorem Map.first_eq_some_iff : m.first = some (k, v) ↔ m[k]? = some v ∧ ∀ k' ∈ m, (compare k k').isLE := by
  have hordered := Std.ExtTreeMap.ordered_keys_toList (t := m)
  have hmem : ∀ entry, entry ∈ m.toList ↔ m[entry.1]? = some entry.2 :=
    fun entry => Std.ExtTreeMap.mem_toList_iff_getElem?_eq_some
  unfold Map.first
  generalize m.toList = entries at hordered hmem
  constructor
  · intro hfirst
    obtain ⟨rest, rfl⟩ : ∃ rest, entries = (k, v) :: rest := by
      cases entries with
      | nil => cases hfirst
      | cons entry rest => exact ⟨rest, congrArg (· :: rest) (Option.some.inj hfirst)⟩
    refine ⟨(hmem (k, v)).1 List.mem_cons_self, fun k' hk' => ?_⟩
    obtain ⟨v', hv'⟩ := Option.isSome_iff_exists.1 (Std.ExtTreeMap.mem_iff_isSome_getElem?.1 hk')
    rcases List.mem_cons.1 ((hmem (k', v')).2 hv') with heq | hlater
    · rw [(Prod.mk.inj heq).1]
      exact Std.ReflCmp.isLE_rfl
    · rw [(List.pairwise_cons.1 hordered).1 _ hlater]
      rfl
  · rintro ⟨hk, hleast⟩
    cases entries with
    | nil => cases (hmem (k, v)).2 hk
    | cons entry rest =>
      rcases List.mem_cons.1 ((hmem (k, v)).2 hk) with heq | hlater
      · rw [heq]
        rfl
      · have hbelow := (List.pairwise_cons.1 hordered).1 _ hlater
        have hentry := (hmem entry).1 List.mem_cons_self
        have hle := hleast entry.1 (Std.ExtTreeMap.mem_iff_isSome_getElem?.2 (by rw [hentry]; rfl))
        rw [Std.OrientedOrd.eq_swap, hbelow] at hle
        cases hle

/-- What holds of the first entry, when one of which it holds is put in. -/
theorem Map.first_insert_iff {p : β → Prop} (hv : p v) :
    (∀ entry, Map.first (m.insert k v) = some entry → p entry.2) ↔
      ∀ entry, m.first = some entry → p entry.2 ∨ (compare k entry.1).isLE := by
  constructor
  · rintro h ⟨i, w⟩ hfirst
    obtain ⟨hi, hleast⟩ := Map.first_eq_some_iff.1 hfirst
    by_cases hle : (compare k i).isLE
    · exact .inr hle
    · refine .inl (h (i, w) (Map.first_eq_some_iff.2 ⟨?_, fun k' hk' => ?_⟩))
      · rw [Std.ExtTreeMap.getElem?_insert, if_neg fun heq => hle (by rw [heq]; rfl), hi]
      · rcases Std.ExtTreeMap.mem_insert.1 hk' with heq | hk'
        · obtain rfl := Std.LawfulEqCmp.compare_eq_iff_eq.1 heq
          rw [Std.OrientedOrd.eq_swap]
          revert hle
          cases compare k i <;> simp
        · exact hleast k' hk'
  · rintro h ⟨j, u⟩ hfirst
    obtain ⟨hj, hleast⟩ := Map.first_eq_some_iff.1 hfirst
    rw [Std.ExtTreeMap.getElem?_insert] at hj
    by_cases heq : compare k j = .eq
    · rw [if_pos heq] at hj
      cases hj
      exact hv
    · rw [if_neg heq] at hj
      have hm : m.first = some (j, u) :=
        Map.first_eq_some_iff.2 ⟨hj, fun k' hk' => hleast k' (Std.ExtTreeMap.mem_insert.2 (.inr hk'))⟩
      refine (h (j, u) hm).resolve_right fun hle => ?_
      have hle' := hleast k Std.ExtTreeMap.mem_insert_self
      rw [Std.OrientedOrd.eq_swap] at hle'
      revert hle hle' heq
      cases compare k j <;> simp

end First

inductive TitanSessionKind
  | none | live | minidump | ttd | static
  deriving DecidableEq

inductive TitanBreakpointType
  | int3 | longInt3 | ud2
  deriving DecidableEq

inductive TitanMemoryBreakpointType
  | memory | read | write | execute
  deriving DecidableEq

/-- The enumerators of `TitanMemoryBreakpointType` by their values. -/
def TitanMemoryBreakpointType.ofValue : ℕ → Option TitanMemoryBreakpointType
  | 3 => some .memory
  | 4 => some .read
  | 5 => some .write
  | 6 => some .execute
  | _ => none

inductive TitanHardwareBreakpointType
  | execute | write | readWrite
  deriving DecidableEq

def TitanHardwareBreakpointType.ofValue : ℕ → Option TitanHardwareBreakpointType
  | 4 => some .execute
  | 5 => some .write
  | 6 => some .readWrite
  | _ => none

/-- Byte counts of the enumerators of `TitanHardwareBreakpointSize`. -/
def hardwareBreakpointSize : ℕ → Option ULONG
  | 7 => some 1
  | 8 => some 2
  | 9 => some 4
  | 10 => some 8
  | _ => none

inductive TitanCustomHandler
  | createThread | exitThread | createProcess | exitProcess | loadDll | unloadDll
  | outputDebugString | systemBreakpoint | unhandledException | debugEvent
  deriving DecidableEq

def UE_SINGLESHOOT : DWORD := 1
def UE_BREAKPOINT_TYPE_INT3 : DWORD := 0x10000000
def UE_BREAKPOINT_TYPE_LONG_INT3 : DWORD := 0x20000000
def UE_BREAKPOINT_TYPE_UD2 : DWORD := 0x30000000

def hardwareRegisters : List DWORD := [11, 12, 13, 14]

def PAGE_GUARD : DWORD := 0x100

def EXCEPTION_ACCESS_VIOLATION : DWORD := 0xC0000005
def EXCEPTION_BREAKPOINT : DWORD := 0x80000003
def EXCEPTION_SINGLE_STEP : DWORD := 0x80000004
def EXCEPTION_ILLEGAL_INSTRUCTION : DWORD := 0xC000001D
def STATUS_GUARD_PAGE_VIOLATION : DWORD := 0x80000001
def DBG_PRINTEXCEPTION_C : DWORD := 0x40010006
def DBG_PRINTEXCEPTION_WIDE_C : DWORD := 0x4001000A

def DBG_CONTINUE : DWORD := 0x00010002
def DBG_EXCEPTION_NOT_HANDLED : DWORD := 0x80010001

def ERROR_INVALID_HANDLE : DWORD := 6
def ERROR_INVALID_DATA : DWORD := 13
def ERROR_WRITE_FAULT : DWORD := 29
def ERROR_READ_FAULT : DWORD := 30
def ERROR_GEN_FAILURE : DWORD := 31
def ERROR_NOT_SUPPORTED : DWORD := 50
def ERROR_INVALID_PARAMETER : DWORD := 87
def ERROR_BUSY : DWORD := 170
def ERROR_ALREADY_EXISTS : DWORD := 183
def ERROR_NO_MORE_ITEMS : DWORD := 259
def ERROR_PARTIAL_COPY : DWORD := 299
def ERROR_INVALID_ADDRESS : DWORD := 487
def ERROR_NOACCESS : DWORD := 998
def ERROR_MAPPED_ALIGNMENT : DWORD := 1132
def ERROR_NOT_FOUND : DWORD := 1168

def E_FAIL : DWORD := 0x80004005
def HRESULT_CODE (hr : DWORD) : DWORD := hr &&& 0xFFFF

/-- The trap flag of EFLAGS. -/
def TRAP_FLAG : ULONG_PTR := 0x100

/-- `DEBUG_STATUS_*`, as far as the adapter sets them. -/
inductive ExecutionStatus
  | noChange | go | goHandled | goNotHandled | stepOver | stepInto | break
  deriving DecidableEq

/-- The statuses that `gStepStatuses` can hold. -/
inductive StepStatus
  | goHandled | stepOver | stepInto
  deriving DecidableEq

def StepStatus.toExecution : StepStatus → ExecutionStatus
  | .goHandled => .goHandled
  | .stepOver => .stepOver
  | .stepInto => .stepInto

/-- The two requests of `debugStep`. -/
inductive StepKind
  | over | into
  deriving DecidableEq

def StepKind.status : StepKind → StepStatus
  | .over => .stepOver
  | .into => .stepInto

inductive TitanHandleType
  | process | thread
  deriving DecidableEq

structure TitanHandleEntry where
  type : TitanHandleType
  dbgengId : ULONG
  systemId : DWORD
  nativeHandle : HANDLE
  callerOwned : Bool
  deriving DecidableEq

structure DebugIdMap where
  processIndexToHandle : Map ULONG HANDLE := ∅
  processHandleToIndex : Map HANDLE ULONG := ∅
  threadIndexToHandle : Map ULONG HANDLE := ∅
  threadHandleToIndex : Map HANDLE ULONG := ∅

inductive BreakpointKind
  | software | hardware
  deriving DecidableEq

/-- A breakpoint record. The two arrays have two cells, so no patch is longer, and a
record without a patch of the adapter's has no patch bytes. -/
structure BreakpointInfo where
  bp : Option ULONG := none
  id : ULONG := 0
  offset : ULONG64
  kind : BreakpointKind := .software
  callback : Option Callback := none
  hardwareCallback : Option Callback := none
  hardwareRegister : DWORD := 0
  nativePatch : Bool := false
  oneShot : Bool := false
  ttdThreadAffinity : ULONG := 0
  patchSize : ℕ := 0
  originalBytes : Vector BYTE 2 := #v[0, 0]
  patchBytes : Vector BYTE 2 := #v[0, 0]
  patchSize_le : patchSize ≤ 2 := by decide
  patched : nativePatch = true ∨ patchSize = 0 := by decide
  -- `INT3`, `LONG_INT3` and `UD2` are the patches that there are.
  marked : patchBytes.toList.take patchSize ∈ [[], [0xCC], [0xCD, 0x03], [0x0F, 0x0B]] := by decide

structure MemoryBreakpointInfo where
  id : ULONG64
  start : ULONG_PTR
  size : ULONG_PTR
  type : TitanMemoryBreakpointType
  restoreOnHit : Bool
  callback : Option Callback
  deriving DecidableEq

structure MemoryBreakpointPage where
  originalProtect : DWORD
  breakpointIds : OrderedSet ULONG64

/-- `EXCEPTION_DEBUG_INFO`; the list holds `ExceptionInformation`, and its length
is `NumberParameters`. -/
structure EXCEPTION_DEBUG_INFO where
  code : DWORD
  address : ULONG_PTR := 0
  parameters : List ULONG_PTR := []
  firstChance : Bool := true
  deriving DecidableEq

inductive DebugInfo
  | none | exception (info : EXCEPTION_DEBUG_INFO) | createThread (handle : HANDLE)
  | exitThread (code : DWORD) | createProcess (handle : HANDLE) | exitProcess (code : DWORD)
  | loadDll (base : ULONG_PTR) | unloadDll (base : ULONG_PTR) | debugString
  deriving DecidableEq

structure DEBUG_EVENT where
  dwProcessId : DWORD := 0
  dwThreadId : DWORD := 0
  u : DebugInfo := .none
  deriving DecidableEq

/-- What the closures of `gInternalStepCallbacks` do, one entry for each captured
callback in the order in which they run. -/
inductive StepAction
  | rearmBreakpoint (id : ULONG)
  | rearmPage (page : ULONG_PTR)
  | userStep (callback : Callback)
  deriving DecidableEq

/-- `DataAccessMask` of the vendored replay header. -/
def ACCESS_READ : BYTE := 1
def ACCESS_WRITE : BYTE := 2
def ACCESS_EXECUTE : BYTE := 4

/-- `TTDReplay::MemoryWatchpointData` without its thread, which the adapter leaves unset. -/
structure MemoryWatchpointData where
  address : ULONG64
  size : ULONG64
  accessMask : BYTE
  deriving DecidableEq

end TitanEngine

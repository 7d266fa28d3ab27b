import TitanEngine.Lib.MapSums
import TitanEngine.Replay.Moves

/-! The handles of a replay: a synthetic handle is new as long as its serial number has
at most 43 bits, and the tables hold no handle that is not registered. -/
namespace TitanEngine
namespace TtdSession

/-- The shift takes the upper four of the 47 bits that the mask leaves under the prefix. -/
theorem toNat_syntheticHandle (serial : ULONG_PTR) :
    (syntheticHandle serial).toNat = 0xFFFF800000000003 + 16 * (serial.toNat % 2 ^ 43) := by
  have hmask : (serial &&& 0x00007FFFFFFFFFFF).toNat = serial.toNat % 2 ^ 47 := by
    rw [BitVec.toNat_and]
    exact Nat.and_two_pow_sub_one_eq_mod _ 47
  have hshift : ((serial &&& 0x00007FFFFFFFFFFF) <<< 4).toNat =
      2 ^ 47 * (serial.toNat / 2 ^ 43 % 16) ||| serial.toNat % 2 ^ 43 * 16 := by
    rw [BitVec.toNat_shiftLeft, hmask, Nat.shiftLeft_eq, ← Nat.two_pow_add_eq_or_of_lt (by omega)]
    omega
  have hunder : ∀ q < 16, 2 ^ 47 * 0x1FFFF ||| 2 ^ 47 * q = 2 ^ 47 * 0x1FFFF := by decide
  have hbase : 2 ^ 47 * 0x1FFFF + serial.toNat % 2 ^ 43 * 16 =
      2 ^ 47 * 0x1FFFF ||| serial.toNat % 2 ^ 43 * 16 := Nat.two_pow_add_eq_or_of_lt (by omega) _
  have htag : 2 ^ 4 * (0xFFFF80000000000 + serial.toNat % 2 ^ 43) + 3 =
      2 ^ 4 * (0xFFFF80000000000 + serial.toNat % 2 ^ 43) ||| 3 :=
    Nat.two_pow_add_eq_or_of_lt (by decide) _
  have hshape : 2 ^ 47 * 0x1FFFF + serial.toNat % 2 ^ 43 * 16 =
      2 ^ 4 * (0xFFFF80000000000 + serial.toNat % 2 ^ 43) := by omega
  unfold syntheticHandle
  rw [BitVec.toNat_or, BitVec.toNat_or, hshift]
  change (2 ^ 47 * 0x1FFFF ||| (_ ||| _)) ||| 3 = _
  rw [← Nat.or_assoc, hunder _ (Nat.mod_lt _ (by decide)), ← hbase, hshape, ← htag]
  omega

theorem syntheticHandle_injOn {serial serial' : ULONG_PTR} (h : serial.toNat < 2 ^ 43)
    (h' : serial'.toNat < 2 ^ 43) (heq : syntheticHandle serial = syntheticHandle serial') :
    serial = serial' := by
  have hnat := congrArg BitVec.toNat heq
  rw [toNat_syntheticHandle, toNat_syntheticHandle] at hnat
  apply BitVec.eq_of_toNat_eq
  omega

theorem syntheticHandle_valid (serial : ULONG_PTR) :
    ¬ (syntheticHandle serial = 0 ∨ syntheticHandle serial = BitVec.allOnes 64) := by
  have hnat := toNat_syntheticHandle serial
  rintro (heq | heq)
  · have hzero : (0 : HANDLE).toNat = 0 := rfl
    rw [heq, hzero] at hnat
    omega
  · rw [heq, BitVec.toNat_allOnes] at hnat
    omega

theorem createSyntheticTitanHandle_eq (type : TitanHandleType) (dbgengId : ULONG) (systemId : DWORD)
    (callerOwned : Bool) (t : TtdSession) :
    t.createSyntheticTitanHandle type dbgengId systemId callerOwned =
      ({ t with
        gNextSyntheticHandle := t.gNextSyntheticHandle + 1
        gHandleRegistry := t.gHandleRegistry.insert (syntheticHandle t.gNextSyntheticHandle)
          ⟨type, dbgengId, systemId, 0, callerOwned⟩ }, syntheticHandle t.gNextSyntheticHandle) := by
  unfold createSyntheticTitanHandle registerTitanHandle
  dsimp only
  rw [if_neg (syntheticHandle_valid _)]

/-- The handle of a thread, and the system id that it is registered with. -/
def Holds (t : TtdSession) (index : ULONG) (handle : HANDLE) (systemId : DWORD) : Prop :=
  t.gDebugIdMap.threadIndexToHandle[index]? = some handle ∧
    ∃ entry, t.gHandleRegistry[handle]? = some entry ∧ entry.type = .thread ∧
      entry.callerOwned = false ∧ entry.systemId = systemId

/-- Every handle was made here, and every handle in a table is registered as what the
table takes it for. -/
structure Registered (t : TtdSession) : Prop where
  room : t.gNextSyntheticHandle.toNat ≤ 2 ^ 43
  serials : ∀ handle ∈ t.gHandleRegistry, ∃ serial : ULONG_PTR,
    serial.toNat < t.gNextSyntheticHandle.toNat ∧ handle = syntheticHandle serial
  held : ∀ (index : ULONG) (handle : HANDLE),
    t.gDebugIdMap.threadIndexToHandle[index]? = some handle → ∃ systemId, t.Holds index handle systemId
  apart : ∀ (index index' : ULONG) (handle : HANDLE),
    t.gDebugIdMap.threadIndexToHandle[index]? = some handle →
      t.gDebugIdMap.threadIndexToHandle[index']? = some handle → index = index'
  tebs : ∀ handle ∈ t.gProcessTebCache, handle ∈ t.gHandleRegistry
  threads : ∀ handle ∈ t.gDebugIdMap.threadHandleToIndex, handle ∈ t.gHandleRegistry
  processes : ∀ handle ∈ t.gDebugIdMap.processHandleToIndex,
    ∃ entry, t.gHandleRegistry[handle]? = some entry ∧ entry.type = .process
  process : ∀ (index : ULONG) (handle : HANDLE),
    t.gDebugIdMap.processIndexToHandle[index]? = some handle →
      ∃ entry, t.gHandleRegistry[handle]? = some entry ∧ entry.type = .process ∧ entry.callerOwned = false

/-- What the handles live in. -/
def tables (t : TtdSession) : DebugIdMap × Map HANDLE TitanHandleEntry × Map HANDLE ULONG64 × ULONG_PTR :=
  (t.gDebugIdMap, t.gHandleRegistry, t.gProcessTebCache, t.gNextSyntheticHandle)

theorem Holds.congr {t t' : TtdSession} {index : ULONG} {handle : HANDLE} {id : DWORD}
    (h : t.Holds index handle id) (heq : t'.tables = t.tables) : t'.Holds index handle id := by
  simp only [tables, Prod.mk.injEq] at heq
  obtain ⟨hids, hregistry, -, -⟩ := heq
  unfold Holds at h ⊢
  rwa [hids, hregistry]

theorem Registered.congr {t t' : TtdSession} (h : t.Registered) (heq : t'.tables = t.tables) :
    t'.Registered := by
  have hheld := fun index handle id (hheld : t.Holds index handle id) => hheld.congr heq
  simp only [tables, Prod.mk.injEq] at heq
  obtain ⟨hids, hregistry, htebs, hserial⟩ := heq
  constructor
  · rw [hserial]
    exact h.room
  · rw [hregistry, hserial]
    exact h.serials
  · rw [hids]
    exact fun index handle hindex => (h.held index handle hindex).imp (hheld index handle)
  · rw [hids]
    exact h.apart
  · rw [htebs, hregistry]
    exact h.tebs
  · rw [hids, hregistry]
    exact h.threads
  · rw [hids, hregistry]
    exact h.processes
  · rw [hids, hregistry]
    exact h.process

section Fresh
variable {t : TtdSession}

theorem Registered.fresh (h : t.Registered) (hroom : t.gNextSyntheticHandle.toNat < 2 ^ 43) :
    syntheticHandle t.gNextSyntheticHandle ∉ t.gHandleRegistry := by
  intro hmem
  obtain ⟨serial, hlt, heq⟩ := h.serials _ hmem
  have hserial := syntheticHandle_injOn hroom (by omega) heq
  rw [hserial] at hlt
  omega

theorem toNat_next (hroom : t.gNextSyntheticHandle.toNat < 2 ^ 43) :
    (t.gNextSyntheticHandle + 1).toNat = t.gNextSyntheticHandle.toNat + 1 := by
  rw [BitVec.toNat_add]
  have hone : (1 : ULONG_PTR).toNat = 1 := rfl
  omega

/-- A new handle is in no table and leaves what the others are registered with. -/
theorem getElem?_register (h : t.Registered) (hroom : t.gNextSyntheticHandle.toNat < 2 ^ 43)
    {handle : HANDLE} {entry entry' : TitanHandleEntry} (hentry : t.gHandleRegistry[handle]? = some entry) :
    (t.gHandleRegistry.insert (syntheticHandle t.gNextSyntheticHandle) entry')[handle]? = some entry := by
  rw [MapSums.getElem?_insert_of_ne, hentry]
  rintro rfl
  exact h.fresh hroom (MapSums.mem_of_getElem? hentry)

end Fresh

namespace Registered
variable {t : TtdSession} (h : t.Registered)
include h

section Create
variable (hroom : t.gNextSyntheticHandle.toNat < 2 ^ 43) (type : TitanHandleType) (dbgengId : ULONG)
  (systemId : DWORD) (callerOwned : Bool)
include hroom

theorem holds_create {index : ULONG} {handle : HANDLE} {id : DWORD} (hheld : t.Holds index handle id) :
    (t.createSyntheticTitanHandle type dbgengId systemId callerOwned).1.Holds index handle id := by
  rw [createSyntheticTitanHandle_eq]
  obtain ⟨hindex, entry, hentry, hrest⟩ := hheld
  exact ⟨hindex, entry, getElem?_register h hroom hentry, hrest⟩

theorem holds_create_iff {index : ULONG} {handle : HANDLE} {id : DWORD} :
    (t.createSyntheticTitanHandle type dbgengId systemId callerOwned).1.Holds index handle id ↔
      t.Holds index handle id := by
  refine ⟨fun hheld => ?_, h.holds_create hroom type dbgengId systemId callerOwned⟩
  have hindex : t.gDebugIdMap.threadIndexToHandle[index]? = some handle := by
    rw [createSyntheticTitanHandle_eq] at hheld
    exact hheld.1
  obtain ⟨id', hheld'⟩ := h.held index handle hindex
  obtain ⟨-, entry, hentry, -, -, hid⟩ := hheld
  obtain ⟨-, entry', hentry', -, -, hid'⟩ :=
    h.holds_create hroom type dbgengId systemId callerOwned hheld'
  cases hentry.symm.trans hentry'
  rwa [← hid, hid']

theorem create : (t.createSyntheticTitanHandle type dbgengId systemId callerOwned).1.Registered := by
  have hheld : ∀ index handle id, t.Holds index handle id →
      (t.createSyntheticTitanHandle type dbgengId systemId callerOwned).1.Holds index handle id :=
    fun _ _ _ => h.holds_create hroom type dbgengId systemId callerOwned
  rw [createSyntheticTitanHandle_eq] at hheld ⊢
  have hkeep : ∀ handle ∈ t.gHandleRegistry,
      handle ∈ t.gHandleRegistry.insert (syntheticHandle t.gNextSyntheticHandle)
        ⟨type, dbgengId, systemId, 0, callerOwned⟩ :=
    fun handle hmem => MapSums.mem_insert_iff.mpr (.inr hmem)
  constructor
  · show (t.gNextSyntheticHandle + 1).toNat ≤ 2 ^ 43
    rw [toNat_next hroom]
    omega
  · intro handle hmem
    show ∃ serial : ULONG_PTR, serial.toNat < (t.gNextSyntheticHandle + 1).toNat ∧ _
    rw [toNat_next hroom]
    obtain heq | hmem := MapSums.mem_insert_iff.mp hmem
    · exact ⟨t.gNextSyntheticHandle, by omega, heq⟩
    · obtain ⟨serial, hlt, heq⟩ := h.serials handle hmem
      exact ⟨serial, by omega, heq⟩
  · intro index handle hindex
    obtain ⟨id, hholds⟩ := h.held index handle hindex
    exact ⟨id, hheld index handle id hholds⟩
  · exact h.apart
  · exact fun handle hmem => hkeep handle (h.tebs handle hmem)
  · exact fun handle hmem => hkeep handle (h.threads handle hmem)
  · intro handle hmem
    obtain ⟨entry, hentry, htype⟩ := h.processes handle hmem
    exact ⟨entry, getElem?_register h hroom hentry, htype⟩
  · intro index handle hindex
    obtain ⟨entry, hentry, hrest⟩ := h.process index handle hindex
    exact ⟨entry, getElem?_register h hroom hentry, hrest⟩

end Create

/-- A registered handle may enter the tables of threads and TEBs. -/
theorem index {handle : HANDLE} (hmem : handle ∈ t.gHandleRegistry) (index : ULONG) (teb : ULONG64) :
    Registered { t with
      gDebugIdMap :=
        { t.gDebugIdMap with threadHandleToIndex := t.gDebugIdMap.threadHandleToIndex.insert handle index }
      gProcessTebCache := t.gProcessTebCache.insert handle teb } := by
  refine ⟨h.room, h.serials, h.held, h.apart, ?_, ?_, h.processes, h.process⟩
  · intro handle' hmem'
    obtain rfl | hmem' := MapSums.mem_insert_iff.mp hmem'
    · exact hmem
    · exact h.tebs handle' hmem'
  · intro handle' hmem'
    obtain rfl | hmem' := MapSums.mem_insert_iff.mp hmem'
    · exact hmem
    · exact h.threads handle' hmem'

theorem teb {handle : HANDLE} (hmem : handle ∈ t.gHandleRegistry) (teb : ULONG64) :
    Registered { t with gProcessTebCache := t.gProcessTebCache.insert handle teb } := by
  refine ⟨h.room, h.serials, h.held, h.apart, ?_, h.threads, h.processes, h.process⟩
  intro handle' hmem'
  obtain rfl | hmem' := MapSums.mem_insert_iff.mp hmem'
  · exact hmem
  · exact h.tebs handle' hmem'

/-- So may the handle of a process enter the table of processes. -/
theorem indexProcess {handle : HANDLE} {entry : TitanHandleEntry}
    (hentry : t.gHandleRegistry[handle]? = some entry) (htype : entry.type = .process) (index : ULONG) :
    Registered { t with gDebugIdMap :=
      { t.gDebugIdMap with
        processHandleToIndex := t.gDebugIdMap.processHandleToIndex.insert handle index } } := by
  refine ⟨h.room, h.serials, h.held, h.apart, h.tebs, h.threads, ?_, h.process⟩
  intro handle' hmem'
  obtain rfl | hmem' := MapSums.mem_insert_iff.mp hmem'
  · exact ⟨entry, hentry, htype⟩
  · exact h.processes handle' hmem'

theorem ownProcess {handle : HANDLE} {entry : TitanHandleEntry}
    (hentry : t.gHandleRegistry[handle]? = some entry) (htype : entry.type = .process)
    (howned : entry.callerOwned = false) (index : ULONG) :
    Registered { t with gDebugIdMap :=
      { t.gDebugIdMap with
        processIndexToHandle := t.gDebugIdMap.processIndexToHandle.insert index handle } } := by
  refine ⟨h.room, h.serials, h.held, h.apart, h.tebs, h.threads, h.processes, ?_⟩
  intro index' handle' hindex'
  by_cases heq : index' = index
  · subst heq
    rw [Std.ExtTreeMap.getElem?_insert_self] at hindex'
    cases hindex'
    exact ⟨entry, hentry, htype, howned⟩
  · rw [MapSums.getElem?_insert_of_ne heq] at hindex'
    exact h.process index' handle' hindex'

/-- A handle that no thread has becomes that of a thread without one. -/
theorem hold {handle : HANDLE} {entry : TitanHandleEntry}
    (hentry : t.gHandleRegistry[handle]? = some entry) (htype : entry.type = .thread)
    (howned : entry.callerOwned = false) {index : ULONG} (hnew : index ∉ t.gDebugIdMap.threadIndexToHandle)
    (hunused : ∀ index' : ULONG, t.gDebugIdMap.threadIndexToHandle[index']? ≠ some handle) :
    Registered { t with gDebugIdMap :=
      { t.gDebugIdMap with
        threadIndexToHandle := t.gDebugIdMap.threadIndexToHandle.insert index handle } } := by
  refine ⟨h.room, h.serials, ?_, ?_, h.tebs, h.threads, h.processes, h.process⟩
  · intro index' handle' hindex'
    by_cases heq : index' = index
    · subst heq
      rw [Std.ExtTreeMap.getElem?_insert_self] at hindex'
      cases hindex'
      exact ⟨entry.systemId, Std.ExtTreeMap.getElem?_insert_self, entry, hentry, htype, howned, rfl⟩
    · have hother := hindex'
      rw [MapSums.getElem?_insert_of_ne heq] at hother
      obtain ⟨id, -, hrest⟩ := h.held index' handle' hother
      exact ⟨id, hindex', hrest⟩
  · intro index' index'' handle' hindex' hindex''
    by_cases heq : index' = index
    · by_cases heq' : index'' = index
      · rw [heq, heq']
      · rw [heq, Std.ExtTreeMap.getElem?_insert_self] at hindex'
        rw [MapSums.getElem?_insert_of_ne heq'] at hindex''
        cases hindex'
        exact absurd hindex'' (hunused index'')
    · rw [MapSums.getElem?_insert_of_ne heq] at hindex'
      by_cases heq' : index'' = index
      · rw [heq', Std.ExtTreeMap.getElem?_insert_self] at hindex''
        cases hindex''
        exact absurd hindex' (hunused index')
      · rw [MapSums.getElem?_insert_of_ne heq'] at hindex''
        exact h.apart index' index'' handle' hindex' hindex''

omit h in
theorem holds_hold {handle : HANDLE} {entry : TitanHandleEntry}
    (hentry : t.gHandleRegistry[handle]? = some entry) (htype : entry.type = .thread)
    (howned : entry.callerOwned = false) {index : ULONG} (hnew : index ∉ t.gDebugIdMap.threadIndexToHandle)
    {index' : ULONG} {handle' : HANDLE} {id : DWORD} :
    Holds { t with gDebugIdMap :=
      { t.gDebugIdMap with
        threadIndexToHandle := t.gDebugIdMap.threadIndexToHandle.insert index handle } }
        index' handle' id ↔
      t.Holds index' handle' id ∨ index' = index ∧ handle' = handle ∧ id = entry.systemId := by
  constructor
  · rintro ⟨hindex, entry', hentry', hrest⟩
    by_cases heq : index' = index
    · subst heq
      rw [Std.ExtTreeMap.getElem?_insert_self] at hindex
      cases hindex
      cases hentry.symm.trans hentry'
      exact .inr ⟨rfl, rfl, hrest.2.2.symm⟩
    · rw [MapSums.getElem?_insert_of_ne heq] at hindex
      exact .inl ⟨hindex, entry', hentry', hrest⟩
  · rintro (⟨hindex, hrest⟩ | ⟨rfl, rfl, rfl⟩)
    · have hne : index' ≠ index := by
        rintro rfl
        exact hnew (MapSums.mem_of_getElem? hindex)
      exact ⟨(MapSums.getElem?_insert_of_ne hne).trans hindex, hrest⟩
    · exact ⟨Std.ExtTreeMap.getElem?_insert_self, entry, hentry, htype, howned, rfl⟩

/-- A handle leaves the registry together with the tables, and threads keep theirs. -/
theorem forget {handle : HANDLE} {indexToHandle : Map ULONG HANDLE} {handleToIndex : Map HANDLE ULONG}
    (hthreads : ∀ (index : ULONG) (handle' : HANDLE), indexToHandle[index]? = some handle' →
      t.gDebugIdMap.threadIndexToHandle[index]? = some handle' ∧ handle' ≠ handle)
    (hprocesses : ∀ handle' ∈ handleToIndex,
      handle' ∈ t.gDebugIdMap.processHandleToIndex ∧ handle' ≠ handle)
    (hprocess : ∀ index : ULONG, t.gDebugIdMap.processIndexToHandle[index]? ≠ some handle) :
    Registered { t with
      gDebugIdMap :=
        { t.gDebugIdMap with
          processHandleToIndex := handleToIndex
          threadIndexToHandle := indexToHandle
          threadHandleToIndex := t.gDebugIdMap.threadHandleToIndex.erase handle }
      gProcessTebCache := t.gProcessTebCache.erase handle
      gHandleRegistry := t.gHandleRegistry.erase handle } := by
  have hkeep : ∀ handle' ∈ t.gHandleRegistry, handle' ≠ handle → handle' ∈ t.gHandleRegistry.erase handle :=
    fun handle' hmem hne => MapSums.mem_erase_iff.mpr ⟨hne, hmem⟩
  constructor
  · exact h.room
  · exact fun handle' hmem => h.serials handle' (MapSums.mem_erase_iff.mp hmem).2
  · intro index handle' hindex
    obtain ⟨hold, hne⟩ := hthreads index handle' hindex
    obtain ⟨id, -, entry, hentry, hrest⟩ := h.held index handle' hold
    exact ⟨id, hindex, entry, (MapSums.getElem?_erase_of_ne hne).trans hentry, hrest⟩
  · intro index index' handle' hindex hindex'
    exact h.apart index index' handle' (hthreads index handle' hindex).1 (hthreads index' handle' hindex').1
  · intro handle' hmem
    obtain ⟨hne, hmem⟩ := MapSums.mem_erase_iff.mp hmem
    exact hkeep handle' (h.tebs handle' hmem) hne
  · intro handle' hmem
    obtain ⟨hne, hmem⟩ := MapSums.mem_erase_iff.mp hmem
    exact hkeep handle' (h.threads handle' hmem) hne
  · intro handle' hmem
    obtain ⟨hmem, hne⟩ := hprocesses handle' hmem
    obtain ⟨entry, hentry, htype⟩ := h.processes handle' hmem
    exact ⟨entry, (MapSums.getElem?_erase_of_ne hne).trans hentry, htype⟩
  · intro index handle' hindex
    obtain ⟨entry, hentry, hrest⟩ := h.process index handle' hindex
    have hne : handle' ≠ handle := by
      rintro rfl
      exact hprocess index hindex
    exact ⟨entry, (MapSums.getElem?_erase_of_ne hne).trans hentry, hrest⟩

omit h in
/-- The handle of a thread is that of no process. -/
theorem thread_ne_process {index : ULONG} {handle handle' : HANDLE} {id : DWORD}
    (hheld : t.Holds index handle id)
    (hprocess : ∃ entry, t.gHandleRegistry[handle']? = some entry ∧ entry.type = .process) :
    handle' ≠ handle := by
  rintro rfl
  obtain ⟨-, entry, hentry, htype, -⟩ := hheld
  obtain ⟨entry', hentry', htype'⟩ := hprocess
  cases hentry.symm.trans hentry'
  cases htype.symm.trans htype'

theorem leave {index : ULONG} {handle : HANDLE} {id : DWORD} (hheld : t.Holds index handle id) :
    (t.leaveThread (index, handle, id)).Registered := by
  suffices hforgotten : Registered { t with
      gDebugIdMap :=
        { t.gDebugIdMap with
          threadIndexToHandle := t.gDebugIdMap.threadIndexToHandle.erase index
          threadHandleToIndex := t.gDebugIdMap.threadHandleToIndex.erase handle }
      gProcessTebCache := t.gProcessTebCache.erase handle
      gHandleRegistry := t.gHandleRegistry.erase handle } from hforgotten.congr rfl
  refine h.forget ?_ ?_ ?_
  · intro index' handle' hindex'
    have hother := MapSums.getElem?_of_erase hindex'
    refine ⟨hother, ?_⟩
    rintro rfl
    rw [h.apart index' index handle' hother hheld.1, Std.ExtTreeMap.getElem?_erase_self] at hindex'
    cases hindex'
  · exact fun handle' hmem => ⟨hmem, thread_ne_process hheld (h.processes handle' hmem)⟩
  · intro index' hindex'
    obtain ⟨entry, hentry, htype, -⟩ := h.process index' handle hindex'
    exact thread_ne_process hheld ⟨entry, hentry, htype⟩ rfl

theorem openProcess (hroom : t.gNextSyntheticHandle.toNat < 2 ^ 43) (dwProcessId : DWORD) :
    (t.titanOpenProcess dwProcessId).1.Registered := by
  have hcreated := h.create hroom .process 0 dwProcessId true
  unfold titanOpenProcess
  split
  · exact h.congr rfl
  · rw [createSyntheticTitanHandle_eq] at hcreated ⊢
    exact hcreated.indexProcess Std.ExtTreeMap.getElem?_insert_self rfl 0

theorem openThread (hroom : t.gNextSyntheticHandle.toNat < 2 ^ 43) (threads : List ThreadInfo)
    (dwThreadId : DWORD) : (t.titanOpenThread threads dwThreadId).1.Registered := by
  unfold titanOpenThread
  split
  · exact h
  · exact h.congr rfl
  · rename_i info _ _
    have hcreated := h.create hroom .thread info.uniqueId dwThreadId true
    rw [createSyntheticTitanHandle_eq] at hcreated ⊢
    exact hcreated.index (MapSums.mem_of_getElem? Std.ExtTreeMap.getElem?_insert_self) _ _

/-- Only handles that the client owns are closed, and no thread or process has these. -/
theorem closeHandle (hEngineHandle : HANDLE) (closed : Bool) :
    (t.titanCloseHandle hEngineHandle closed).1.Registered := by
  unfold titanCloseHandle
  split
  · exact h.congr rfl
  · rename_i entry hentry
    split
    · exact h.congr rfl
    · rename_i howned
      split
      · refine h.forget ?_ ?_ ?_
        · intro index handle hindex
          refine ⟨hindex, ?_⟩
          rintro rfl
          obtain ⟨-, -, entry', hentry', -, howned', -⟩ := h.held index handle hindex
          cases hentry.symm.trans hentry'
          exact howned (by simp [howned'])
        · intro handle hmem
          obtain ⟨hne, hmem⟩ := MapSums.mem_erase_iff.mp hmem
          exact ⟨hmem, hne⟩
        · intro index hindex
          obtain ⟨entry', hentry', -, howned'⟩ := h.process index _ hindex
          cases hentry.symm.trans hentry'
          exact howned (by simp [howned'])
      · exact h

theorem holds_openProcess (hroom : t.gNextSyntheticHandle.toNat < 2 ^ 43) {dwProcessId : DWORD}
    {index : ULONG} {handle : HANDLE} {id : DWORD} :
    (t.titanOpenProcess dwProcessId).1.Holds index handle id ↔ t.Holds index handle id := by
  unfold titanOpenProcess
  split
  · rfl
  · exact h.holds_create_iff hroom .process 0 dwProcessId true

theorem holds_openThread (hroom : t.gNextSyntheticHandle.toNat < 2 ^ 43) {threads : List ThreadInfo}
    {dwThreadId : DWORD} {index : ULONG} {handle : HANDLE} {id : DWORD} :
    (t.titanOpenThread threads dwThreadId).1.Holds index handle id ↔ t.Holds index handle id := by
  unfold titanOpenThread
  split
  · rfl
  · rfl
  · rename_i info _ _
    exact h.holds_create_iff hroom .thread info.uniqueId dwThreadId true

omit h in
theorem holds_closeHandle {hEngineHandle : HANDLE} {closed : Bool} {index : ULONG} {handle : HANDLE}
    {id : DWORD} :
    (t.titanCloseHandle hEngineHandle closed).1.Holds index handle id ↔ t.Holds index handle id := by
  unfold titanCloseHandle
  split
  · rfl
  · rename_i entry hentry
    split
    · rfl
    · rename_i howned
      split
      · constructor
        · rintro ⟨hindex, entry', hentry', hrest⟩
          exact ⟨hindex, entry', MapSums.getElem?_of_erase hentry', hrest⟩
        · rintro ⟨hindex, entry', hentry', htype', howned', hid'⟩
          have hne : handle ≠ hEngineHandle := by
            rintro rfl
            cases hentry.symm.trans hentry'
            exact howned (by simp [howned'])
          exact ⟨hindex, entry', (MapSums.getElem?_erase_of_ne hne).trans hentry', htype', howned', hid'⟩
      · rfl

end Registered

/-- A thread that was not known gets a handle, and its creation is queued. -/
def addThread (info : ThreadInfo) (t : TtdSession) : TtdSession :=
  let handle := syntheticHandle t.gNextSyntheticHandle
  let teb := t.ttdTebAddress info.id
  { t with
    gNextSyntheticHandle := t.gNextSyntheticHandle + 1
    gHandleRegistry := t.gHandleRegistry.insert handle ⟨.thread, info.uniqueId, info.id, 0, false⟩
    gDebugIdMap :=
      { t.gDebugIdMap with
        threadIndexToHandle := t.gDebugIdMap.threadIndexToHandle.insert info.uniqueId handle
        threadHandleToIndex := t.gDebugIdMap.threadHandleToIndex.insert handle info.uniqueId }
    gProcessTebCache := t.gProcessTebCache.insert handle teb
    queue := t.queue ++ [.createThread handle teb info] }

theorem enterThread_eq (info : ThreadInfo) (t : TtdSession) :
    t.enterThread info =
      if t.gDebugIdMap.threadIndexToHandle.contains info.uniqueId then t else t.addThread info := by
  unfold enterThread
  rw [createSyntheticTitanHandle_eq]
  rfl

theorem bootstrapThread_eq (threadSystemId : DWORD) (info : ThreadInfo) (t : TtdSession) :
    t.bootstrapThread threadSystemId info = if info.id = threadSystemId then t else t.addThread info := by
  unfold bootstrapThread
  rw [createSyntheticTitanHandle_eq]
  rfl

section Added
variable {t : TtdSession} (h : t.Registered) (hroom : t.gNextSyntheticHandle.toNat < 2 ^ 43)
  {info : ThreadInfo} (hnew : info.uniqueId ∉ t.gDebugIdMap.threadIndexToHandle)
include h hroom hnew

theorem holds_addThread {index : ULONG} {handle : HANDLE} {id : DWORD} :
    (t.addThread info).Holds index handle id ↔ t.Holds index handle id ∨
      index = info.uniqueId ∧ handle = syntheticHandle t.gNextSyntheticHandle ∧ id = info.id := by
  have hsame := @h.holds_create_iff t hroom .thread info.uniqueId info.id false index handle id
  rw [createSyntheticTitanHandle_eq] at hsame
  rw [← hsame]
  exact Registered.holds_hold
    (t := { t with
      gNextSyntheticHandle := t.gNextSyntheticHandle + 1
      gHandleRegistry := t.gHandleRegistry.insert (syntheticHandle t.gNextSyntheticHandle)
        ⟨.thread, info.uniqueId, info.id, 0, false⟩ })
    Std.ExtTreeMap.getElem?_insert_self rfl rfl hnew

theorem registered_addThread : (t.addThread info).Registered := by
  have hcreated := h.create hroom .thread info.uniqueId info.id false
  have hfresh := h.fresh hroom
  rw [createSyntheticTitanHandle_eq] at hcreated
  have hheld := hcreated.hold Std.ExtTreeMap.getElem?_insert_self rfl rfl hnew fun index hindex => by
    obtain ⟨_, -, entry, hentry, -⟩ := h.held index _ hindex
    exact hfresh (MapSums.mem_of_getElem? hentry)
  have hindexed := hheld.index (MapSums.mem_of_getElem? Std.ExtTreeMap.getElem?_insert_self) info.uniqueId
    (t.ttdTebAddress info.id)
  exact hindexed.congr rfl

end Added

section Created
variable (type : TitanHandleType) (dbgengId : ULONG) (systemId : DWORD) (callerOwned : Bool)
  (t : TtdSession)

theorem idMap_create :
    (t.createSyntheticTitanHandle type dbgengId systemId callerOwned).1.gDebugIdMap = t.gDebugIdMap := by
  rw [createSyntheticTitanHandle_eq]

theorem serial_create : (t.createSyntheticTitanHandle type dbgengId systemId callerOwned).1.gNextSyntheticHandle =
    t.gNextSyntheticHandle + 1 := by
  rw [createSyntheticTitanHandle_eq]

theorem queue_create :
    (t.createSyntheticTitanHandle type dbgengId systemId callerOwned).1.queue = t.queue := by
  rw [createSyntheticTitanHandle_eq]

theorem entry_create :
    (t.createSyntheticTitanHandle type dbgengId systemId callerOwned).1.gHandleRegistry[
      (t.createSyntheticTitanHandle type dbgengId systemId callerOwned).2]? =
        some ⟨type, dbgengId, systemId, 0, callerOwned⟩ := by
  rw [createSyntheticTitanHandle_eq]
  exact Std.ExtTreeMap.getElem?_insert_self

variable {t}

theorem kept_create (h : t.Registered) (hroom : t.gNextSyntheticHandle.toNat < 2 ^ 43) {handle : HANDLE}
    {entry : TitanHandleEntry} (hentry : t.gHandleRegistry[handle]? = some entry) :
    (t.createSyntheticTitanHandle type dbgengId systemId callerOwned).1.gHandleRegistry[handle]? = some entry := by
  rw [createSyntheticTitanHandle_eq]
  exact getElem?_register h hroom hentry

theorem unheld_create (h : t.Registered) (hroom : t.gNextSyntheticHandle.toNat < 2 ^ 43) (index : ULONG) :
    t.gDebugIdMap.threadIndexToHandle[index]? ≠
      some (t.createSyntheticTitanHandle type dbgengId systemId callerOwned).2 := by
  rw [createSyntheticTitanHandle_eq]
  intro hindex
  obtain ⟨_, -, entry, hentry, -⟩ := h.held index _ hindex
  exact h.fresh hroom (MapSums.mem_of_getElem? hentry)

end Created

section Bootstrap
variable {t : TtdSession} (h : t.Registered) (hroom : t.gNextSyntheticHandle.toNat + 2 ≤ 2 ^ 43)
include h hroom

/-- The handles of the process and its initial thread are registered. -/
theorem registered_bootstrapProcess (image : TtdModuleInfo)
    (hnew : t.cursor.thread.uniqueId ∉ t.gDebugIdMap.threadIndexToHandle) :
    (t.bootstrapProcess image).Registered ∧ ∃ eventProcess eventThread teb,
      (t.bootstrapProcess image).queue =
        t.queue ++ [.createProcess eventProcess eventThread image teb t.cursor.thread] ∧
      (t.bootstrapProcess image).gNextSyntheticHandle.toNat = t.gNextSyntheticHandle.toNat + 2 ∧
      ∀ index handle id, (t.bootstrapProcess image).Holds index handle id ↔ t.Holds index handle id ∨
        index = t.cursor.thread.uniqueId ∧ handle = eventThread ∧ id = t.cursor.thread.id := by
  have hroom₁ : t.gNextSyntheticHandle.toNat < 2 ^ 43 := by omega
  have hprocess := h.create hroom₁ .process 0 t.gTtdEngine.processId false
  have hsame₁ : ∀ index handle id,
      (t.createSyntheticTitanHandle .process 0 t.gTtdEngine.processId false).1.Holds index handle id ↔
        t.Holds index handle id := fun _ _ _ => h.holds_create_iff hroom₁ _ _ _ _
  have hids₁ := idMap_create .process 0 t.gTtdEngine.processId false t
  have hserial₁ := serial_create .process 0 t.gTtdEngine.processId false t
  have hqueue₁ := queue_create .process 0 t.gTtdEngine.processId false t
  have hentry₁ := entry_create .process 0 t.gTtdEngine.processId false t
  have hroom₂ : (t.createSyntheticTitanHandle .process 0 t.gTtdEngine.processId
      false).1.gNextSyntheticHandle.toNat < 2 ^ 43 := by
    rw [hserial₁, toNat_next hroom₁]
    omega
  unfold bootstrapProcess
  dsimp only
  generalize t.createSyntheticTitanHandle .process 0 t.gTtdEngine.processId false = r₁ at *
  obtain ⟨thread, hcursor⟩ : ∃ thread, t.cursor.thread = thread := ⟨_, rfl⟩
  rw [hcursor] at hnew ⊢
  have hthread := hprocess.create hroom₂ .thread thread.uniqueId thread.id false
  have hsame₂ : ∀ index handle id,
      (r₁.1.createSyntheticTitanHandle .thread thread.uniqueId thread.id false).1.Holds index handle id ↔
        r₁.1.Holds index handle id := fun _ _ _ => hprocess.holds_create_iff hroom₂ _ _ _ _
  have hids₂ := idMap_create .thread thread.uniqueId thread.id false r₁.1
  have hserial₂ := serial_create .thread thread.uniqueId thread.id false r₁.1
  have hqueue₂ := queue_create .thread thread.uniqueId thread.id false r₁.1
  have hentry₂ := entry_create .thread thread.uniqueId thread.id false r₁.1
  have hkept := kept_create .thread thread.uniqueId thread.id false hprocess hroom₂ hentry₁
  have hunheld := unheld_create .thread thread.uniqueId thread.id false hprocess hroom₂
  generalize r₁.1.createSyntheticTitanHandle .thread thread.uniqueId thread.id false = r₂ at *
  generalize ttdTebAddress thread.id t = teb
  rw [← hids₂] at hunheld
  rw [← hids₁, ← hids₂] at hnew
  have hprocesses := (hthread.indexProcess hkept rfl 0).ownProcess hkept rfl rfl 0
  have hheld := (hprocesses.hold hentry₂ rfl rfl hnew hunheld).index
    (MapSums.mem_of_getElem? hentry₂) thread.uniqueId teb
  refine ⟨hheld.congr rfl, r₁.2, r₂.2, teb, ?_, ?_, fun index handle id => ?_⟩
  · show r₂.1.queue ++ _ = _
    rw [hqueue₂, hqueue₁]
  · show r₂.1.gNextSyntheticHandle.toNat = _
    rw [hserial₂, toNat_next hroom₂, hserial₁, toNat_next hroom₁]
  · rw [← hsame₁, ← hsame₂]
    exact Registered.holds_hold (t := r₂.1) hentry₂ rfl rfl hnew

/-- The handles that the caller gets are registered beside them. -/
theorem registered_bootstrapHandles : t.bootstrapHandles.Registered ∧
    ∀ index handle id, t.bootstrapHandles.Holds index handle id ↔ t.Holds index handle id := by
  have hroom₁ : t.gNextSyntheticHandle.toNat < 2 ^ 43 := by omega
  have hprocess := h.create hroom₁ .process 0 t.gTtdEngine.processId true
  have hsame₁ : ∀ index handle id,
      (t.createSyntheticTitanHandle .process 0 t.gTtdEngine.processId true).1.Holds index handle id ↔
        t.Holds index handle id := fun _ _ _ => h.holds_create_iff hroom₁ _ _ _ _
  have hserial₁ := serial_create .process 0 t.gTtdEngine.processId true t
  have hentry₁ := entry_create .process 0 t.gTtdEngine.processId true t
  have hroom₂ : (t.createSyntheticTitanHandle .process 0 t.gTtdEngine.processId
      true).1.gNextSyntheticHandle.toNat < 2 ^ 43 := by
    rw [hserial₁, toNat_next hroom₁]
    omega
  unfold bootstrapHandles
  dsimp only
  generalize t.createSyntheticTitanHandle .process 0 t.gTtdEngine.processId true = r₁ at *
  obtain ⟨thread, hcursor⟩ : ∃ thread, t.cursor.thread = thread := ⟨_, rfl⟩
  rw [hcursor]
  have hthread := hprocess.create hroom₂ .thread thread.uniqueId thread.id true
  have hsame₂ : ∀ index handle id,
      (r₁.1.createSyntheticTitanHandle .thread thread.uniqueId thread.id true).1.Holds index handle id ↔
        r₁.1.Holds index handle id := fun _ _ _ => hprocess.holds_create_iff hroom₂ _ _ _ _
  have hentry₂ := entry_create .thread thread.uniqueId thread.id true r₁.1
  have hkept := kept_create .thread thread.uniqueId thread.id true hprocess hroom₂ hentry₁
  generalize r₁.1.createSyntheticTitanHandle .thread thread.uniqueId thread.id true = r₂ at *
  have hindexed := (hthread.indexProcess hkept rfl 0).index
    (MapSums.mem_of_getElem? hentry₂) thread.uniqueId (ttdTebAddress thread.id t)
  refine ⟨hindexed.congr rfl, fun index handle id => ?_⟩
  rw [← hsame₁, ← hsame₂]
  rfl

end Bootstrap

end TtdSession

end TitanEngine

import TitanEngine.Handles.Freshness

/-! The tables of both widths against the 64-bit models of a process and of a replay: the
same steps lead from registries that agree to registries that agree, with the same handles. -/
namespace TitanEngine
namespace HandleTables

section Agrees
variable {b : Build} {κ : Type} {entryOf : κ → RegistryEntry b} {registry : Map (BitVec b.bits) κ}
  {serial : BitVec b.bits} {s : HandleTables b}

/-- A registry and a counter of another model are those of the tables. -/
structure Agrees (entryOf : κ → RegistryEntry b) (registry : Map (BitVec b.bits) κ)
    (serial : BitVec b.bits) (s : HandleTables b) : Prop where
  entries : ∀ handle : BitVec b.bits, s.gHandleRegistry[handle]? = (registry[handle]?).map entryOf
  serial : s.gNextSyntheticHandle = serial

theorem agrees_start : Agrees entryOf ∅ 1 {} := by
  refine ⟨fun handle => ?_, rfl⟩
  simp

variable (h : s.Agrees entryOf registry serial)
include h

theorem Agrees.mem_iff (handle : BitVec b.bits) : handle ∈ s.gHandleRegistry ↔ handle ∈ registry := by
  rw [Std.ExtTreeMap.mem_iff_isSome_getElem?, Std.ExtTreeMap.mem_iff_isSome_getElem?, h.entries,
    Option.isSome_map]

theorem Agrees.of_eq {s' : HandleTables b} (hregistry : s'.gHandleRegistry = s.gHandleRegistry)
    (hserial : s'.gNextSyntheticHandle = s.gNextSyntheticHandle) : s'.Agrees entryOf registry serial := by
  refine ⟨fun handle => ?_, hserial.trans h.serial⟩
  rw [hregistry]
  exact h.entries handle

theorem Agrees.insert (handle : BitVec b.bits) (entry : κ) :
    Agrees entryOf (registry.insert handle entry) serial
      { s with gHandleRegistry := s.gHandleRegistry.insert handle (entryOf entry) } := by
  refine ⟨fun other => ?_, h.serial⟩
  by_cases hother : other = handle
  · rw [hother, Std.ExtTreeMap.getElem?_insert_self, Std.ExtTreeMap.getElem?_insert_self,
      Option.map_some]
  · rw [MapSums.getElem?_insert_of_ne hother, MapSums.getElem?_insert_of_ne hother, h.entries]

theorem Agrees.erase (handle : BitVec b.bits) :
    Agrees entryOf (registry.erase handle) serial (s.unregisterTitanHandle handle) := by
  refine ⟨fun other => ?_, h.serial⟩
  unfold unregisterTitanHandle
  by_cases hother : other = handle
  · rw [hother, Std.ExtTreeMap.getElem?_erase_self, Std.ExtTreeMap.getElem?_erase_self,
      Option.map_none]
  · rw [MapSums.getElem?_erase_of_ne hother, MapSums.getElem?_erase_of_ne hother, h.entries]

theorem Agrees.clear : Agrees entryOf ∅ serial s.closeCallerOwnedTitanHandles := by
  refine ⟨fun handle => ?_, h.serial⟩
  rw [Std.ExtTreeMap.getElem?_empty]
  exact Std.ExtTreeMap.getElem?_empty

theorem Agrees.register (handle : BitVec b.bits) (entry : κ) :
    Agrees entryOf
      (if handle = 0 ∨ handle = b.invalidHandleValue then registry else registry.insert handle entry)
      serial (s.registerTitanHandle handle (entryOf entry)) := by
  unfold registerTitanHandle
  split
  · exact h
  · exact h.insert handle entry

end Agrees

theorem gHandleRegistry_titanCloseHandle_of_some {b : Build} {s : HandleTables b}
    {hEngineHandle : BitVec b.bits} {entry : RegistryEntry b}
    (hfound : s.gHandleRegistry[hEngineHandle]? = some entry) (closed : Bool) :
    (s.titanCloseHandle hEngineHandle closed).1.gHandleRegistry =
      if entry.callerOwned ∧ (entry.nativeHandle = 0 ∨ closed) then
        s.gHandleRegistry.erase hEngineHandle
      else s.gHandleRegistry := by
  unfold titanCloseHandle
  rw [hfound]
  dsimp only
  cases howned : entry.callerOwned with
  | false => rw [if_pos (by rfl), if_neg fun hcloses => Bool.false_ne_true hcloses.1]
  | true =>
    rw [if_neg (by simp)]
    by_cases hcloses : entry.nativeHandle = 0 ∨ closed
    · rw [if_pos hcloses, if_pos ⟨rfl, hcloses⟩]
    · rw [if_neg hcloses, if_neg fun hboth => hcloses hboth.2]

end HandleTables

/-- An entry as the tables of the 64-bit build have it. -/
def TitanHandleEntry.built (entry : TitanHandleEntry) : RegistryEntry .x64 :=
  ⟨entry.type, entry.dbgengId, entry.systemId, entry.nativeHandle, entry.callerOwned⟩

namespace Host

theorem gHandleRegistry_titanCloseHandle_of_some {h : Host} {hEngineHandle : HANDLE}
    {entry : TitanHandleEntry} (hfound : h.session.gHandleRegistry[hEngineHandle]? = some entry)
    (closed : Bool) :
    (h.titanCloseHandle hEngineHandle closed).session.gHandleRegistry =
      if entry.callerOwned ∧ (entry.nativeHandle = 0 ∨ closed) then
        h.session.gHandleRegistry.erase hEngineHandle
      else h.session.gHandleRegistry := by
  unfold titanCloseHandle
  rw [hfound]
  dsimp only
  cases howned : entry.callerOwned with
  | false =>
    rw [if_pos (by rfl), if_neg fun hcloses => Bool.false_ne_true hcloses.1]
    rfl
  | true =>
    rw [if_neg (by simp)]
    by_cases hcloses : entry.nativeHandle = 0 ∨ closed
    · rw [if_pos hcloses, if_pos ⟨rfl, hcloses⟩]
    · rw [if_neg hcloses, if_neg fun hboth => hcloses hboth.2]

theorem gNextSyntheticHandle_titanCloseHandle (h : Host) (hEngineHandle : HANDLE) (closed : Bool) :
    (h.titanCloseHandle hEngineHandle closed).gNextSyntheticHandle = h.gNextSyntheticHandle := by
  unfold titanCloseHandle
  split
  · rfl
  · split
    · rfl
    · split <;> rfl

/-- The registry and the counter of the process, while no trace is open. -/
abbrev SameHandles (h : Host) (s : HandleTables .x64) : Prop :=
  HandleTables.Agrees TitanHandleEntry.built h.session.gHandleRegistry h.gNextSyntheticHandle s

theorem sameHandles_start : SameHandles {} {} := HandleTables.agrees_start

variable {h : Host} {s : HandleTables .x64} (hsame : h.SameHandles s)
include hsame

theorem SameHandles.create (type : TitanHandleType) (dbgengId : ULONG) (systemId : DWORD)
    (callerOwned : Bool) :
    (h.createSyntheticTitanHandle type dbgengId systemId callerOwned).2 =
        (s.createSyntheticTitanHandle type dbgengId systemId callerOwned).2 ∧
      (h.createSyntheticTitanHandle type dbgengId systemId callerOwned).1.SameHandles
        (s.createSyntheticTitanHandle type dbgengId systemId callerOwned).1 := by
  have hserial : s.gNextSyntheticHandle = h.gNextSyntheticHandle := hsame.serial
  unfold createSyntheticTitanHandle
  rw [HandleTables.createSyntheticTitanHandle_eq, hserial]
  dsimp only
  rw [if_neg (TtdSession.syntheticHandle_valid _)]
  refine ⟨rfl, ?_⟩
  have hinsert := hsame.insert (TtdSession.syntheticHandle h.gNextSyntheticHandle)
    ⟨type, dbgengId, systemId, 0, callerOwned⟩
  exact ⟨hinsert.entries, rfl⟩

theorem SameHandles.clearHandles : h.clearHandles.SameHandles s.closeCallerOwnedTitanHandles :=
  hsame.clear

/-- `TitanOpenProcess` and `TitanOpenThread` outside a replay. -/
theorem SameHandles.titanOpen (hkind : h.session.gSessionKind ≠ .ttd) (type : TitanHandleType)
    (systemId : DWORD) (opened : HANDLE) (dbgengId : ULONG) (address : ULONG64) :
    (h.titanOpen type systemId opened dbgengId address).SameHandles
      (HandleTables.titanOpen (b := .x64) h.session.gSessionKind type systemId (some (dbgengId, address))
        opened s).1 := by
  unfold Host.titanOpen HandleTables.titanOpen
  by_cases hdump : h.session.gSessionKind = .minidump
  · obtain ⟨-, hcreated⟩ := hsame.create type dbgengId systemId true
    rw [if_pos hdump, if_pos (.inr hdump)]
    cases type <;> exact hcreated.of_eq rfl rfl
  · rw [if_neg hdump, if_neg (not_or.mpr ⟨hkind, hdump⟩)]
    by_cases hinvalid : opened = 0 ∨ opened = BitVec.allOnes 64
    · have hhost : h.session.registerTitanHandle opened type DEBUG_ANY_ID systemId true = h.session :=
        if_pos hinvalid
      have htables : HandleTables.registerTitanHandle (b := .x64) opened
          ⟨type, DEBUG_ANY_ID, systemId, opened, true⟩ s = s := if_pos hinvalid
      rw [hhost, htables]
      exact hsame
    · have hinserted := hsame.insert opened ⟨type, DEBUG_ANY_ID, systemId, opened, true⟩
      have hhost : h.session.registerTitanHandle opened type DEBUG_ANY_ID systemId true =
          { h.session with gHandleRegistry :=
              h.session.gHandleRegistry.insert opened ⟨type, DEBUG_ANY_ID, systemId, opened, true⟩ } :=
        if_neg hinvalid
      have htables : HandleTables.registerTitanHandle (b := .x64) opened
          ⟨type, DEBUG_ANY_ID, systemId, opened, true⟩ s =
            { s with gHandleRegistry :=
                s.gHandleRegistry.insert opened ⟨type, DEBUG_ANY_ID, systemId, opened, true⟩ } :=
        if_neg hinvalid
      rw [hhost, htables]
      exact hinserted

theorem SameHandles.titanCloseHandle (hEngineHandle : HANDLE) (closed : Bool) :
    (h.titanCloseHandle hEngineHandle closed).SameHandles
      (HandleTables.titanCloseHandle (b := .x64) hEngineHandle closed s).1 := by
  have hentry := hsame.entries hEngineHandle
  cases hfound : h.session.gHandleRegistry[hEngineHandle]? with
  | none =>
    have hnone := hentry.trans (congrArg (Option.map TitanHandleEntry.built) hfound)
    unfold Host.titanCloseHandle HandleTables.titanCloseHandle
    rw [hfound, hnone]
    exact hsame.of_eq rfl rfl
  | some entry =>
    have hsome := hentry.trans (congrArg (Option.map TitanHandleEntry.built) hfound)
    have hhost := Host.gHandleRegistry_titanCloseHandle_of_some hfound closed
    have htables := HandleTables.gHandleRegistry_titanCloseHandle_of_some hsome closed
    have hserial := HandleTables.gNextSyntheticHandle_titanCloseHandle (b := .x64) hEngineHandle closed s
    rw [SameHandles, Host.gNextSyntheticHandle_titanCloseHandle, hhost]
    by_cases hcloses : entry.callerOwned ∧ (entry.nativeHandle = 0 ∨ closed)
    · rw [if_pos hcloses]
      exact (hsame.erase hEngineHandle).of_eq (htables.trans (if_pos hcloses)) hserial
    · rw [if_neg hcloses]
      exact hsame.of_eq (htables.trans (if_neg hcloses)) hserial

/-- The handle that a process makes is not in use iff none that it made whole periods ago
is still registered. -/
theorem SameHandles.notMem_iff {made : List (BitVec Build.x64.bits)}
    (hreached : HandleTables.Reaches made s)
    (type : TitanHandleType) (dbgengId : ULONG) (systemId : DWORD) (callerOwned : Bool) :
    (h.createSyntheticTitanHandle type dbgengId systemId callerOwned).2 ∉ h.session.gHandleRegistry ↔
      s.Spaced made := by
  obtain ⟨hhandle, -⟩ := hsame.create type dbgengId systemId callerOwned
  rw [hhandle, HandleTables.createSyntheticTitanHandle_eq, hreached.next, hreached.spaced_iff]
  exact not_congr (hsame.mem_iff _).symm

end Host
end TitanEngine

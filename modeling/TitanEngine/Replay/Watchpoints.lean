import TitanEngine.Lib.Ledger
import TitanEngine.Patches.Outcomes
import TitanEngine.Replay.Failures

/-! The watchpoints that a replay has installed, and the breakpoint records they were
installed for. Watchpoints are compared by value, so two records that come to one value
share it, and the first to go takes it along. -/
namespace TitanEngine
open Ledgers

def BreakpointInfo.watchpoint (info : BreakpointInfo) : MemoryWatchpointData :=
  ⟨info.offset, 1, ACCESS_EXECUTE⟩

def MemoryBreakpointInfo.watchpoint (info : MemoryBreakpointInfo) : MemoryWatchpointData :=
  ⟨info.start, info.size, Session.ttdMemoryWatchMask info.type⟩

namespace Session

def HasWatchpoint (s : Session) (watchpoint : MemoryWatchpointData) : Prop :=
  ∃ watchpoints, s.gTtdCursor = some watchpoints ∧ watchpoint ∈ watchpoints

/-- Each record has its watchpoint, and each watchpoint belongs to a record. -/
structure WatchpointsAgree (s : Session) : Prop where
  code : ∀ (id : ULONG) info, s.bps.gBreakpoints[id]? = some info → info.kind = .software →
    s.HasWatchpoint info.watchpoint
  data : ∀ (id : ULONG64) info, s.bps.gMemoryBreakpoints[id]? = some info → s.HasWatchpoint info.watchpoint
  owned : ∀ watchpoint, s.HasWatchpoint watchpoint →
    (∃ (id : ULONG) (info : BreakpointInfo), s.bps.gBreakpoints[id]? = some info ∧
      info.kind = .software ∧ info.watchpoint = watchpoint) ∨
    ∃ (id : ULONG64) (info : MemoryBreakpointInfo), s.bps.gMemoryBreakpoints[id]? = some info ∧
      info.watchpoint = watchpoint

/-- The two tables as holders of watchpoints. -/
def holder (s : Session) : ULONG ⊕ ULONG64 → Option MemoryWatchpointData
  | .inl id => (s.bps.gBreakpoints[id]?).bind fun info =>
      if info.kind = .software then some info.watchpoint else none
  | .inr id => (s.bps.gMemoryBreakpoints[id]?).map (·.watchpoint)

def ledger (s : Session) : Ledger (ULONG ⊕ ULONG64) MemoryWatchpointData :=
  ⟨s.holder, { watchpoint | s.HasWatchpoint watchpoint }⟩

theorem holder_code_iff {s : Session} {id : ULONG} {watchpoint : MemoryWatchpointData} :
    s.holder (.inl id) = some watchpoint ↔ ∃ info, s.bps.gBreakpoints[id]? = some info ∧
      info.kind = .software ∧ info.watchpoint = watchpoint := by
  simp only [holder, Option.bind_eq_some_iff, Option.ite_none_right_eq_some, Option.some.injEq]

theorem holder_data_iff {s : Session} {id : ULONG64} {watchpoint : MemoryWatchpointData} :
    s.holder (.inr id) = some watchpoint ↔ ∃ info, s.bps.gMemoryBreakpoints[id]? = some info ∧
      info.watchpoint = watchpoint := by
  simp only [holder, Option.map_eq_some_iff]

/-- Agreement of the tables with the cursor is that of the books. -/
theorem exact_iff_agree (s : Session) : s.ledger.Exact ↔ s.WatchpointsAgree := by
  constructor
  · intro h
    refine ⟨fun id info hinfo hkind => ?_, fun id info hinfo => ?_, fun watchpoint hinstalled => ?_⟩
    · exact (h _).mpr ⟨.inl id, holder_code_iff.mpr ⟨info, hinfo, hkind, rfl⟩⟩
    · exact (h _).mpr ⟨.inr id, holder_data_iff.mpr ⟨info, hinfo, rfl⟩⟩
    · obtain ⟨id | id, hheld⟩ := (h watchpoint).mp hinstalled
      · exact .inl ⟨id, holder_code_iff.mp hheld⟩
      · exact .inr ⟨id, holder_data_iff.mp hheld⟩
  · intro h watchpoint
    constructor
    · intro hinstalled
      obtain ⟨id, hcode⟩ | ⟨id, hdata⟩ := h.owned watchpoint hinstalled
      · exact ⟨.inl id, holder_code_iff.mpr hcode⟩
      · exact ⟨.inr id, holder_data_iff.mpr hdata⟩
    · rintro ⟨id | id, hheld⟩
      · obtain ⟨info, hinfo, hkind, rfl⟩ := holder_code_iff.mp hheld
        exact h.code id info hinfo hkind
      · obtain ⟨info, hinfo, rfl⟩ := holder_data_iff.mp hheld
        exact h.data id info hinfo

/-- What the tables and the cursor hold of watchpoints. -/
def watchTables (s : Session) : TitanSessionKind × Map ULONG BreakpointInfo ×
    Map ULONG64 MemoryBreakpointInfo × Option (List MemoryWatchpointData) :=
  (s.gSessionKind, s.bps.gBreakpoints, s.bps.gMemoryBreakpoints, s.gTtdCursor)

/-- The session is as it was, or its books changed by steps that keep them sound. -/
structure Booked (s s' : Session) : Prop where
  kind : s'.gSessionKind = s.gSessionKind
  steps : s.ledger.Sound → Relation.ReflTransGen Ledger.Step s.ledger s'.ledger

namespace Booked
variable {s s' s'' : Session}

theorem sound (h : s.Booked s') (hsound : s.ledger.Sound) : s'.ledger.Sound :=
  Ledger.sound_step.run (h.steps hsound) hsound

theorem trans (h : s.Booked s') (h' : s'.Booked s'') : s.Booked s'' :=
  ⟨h'.kind.trans h.kind, fun hsound => (h.steps hsound).trans (h'.steps (h.sound hsound))⟩

theorem of_tables (h : s'.watchTables = s.watchTables) : s.Booked s' := by
  simp only [watchTables, Prod.mk.injEq] at h
  obtain ⟨hkind, hcode, hdata, hcursor⟩ := h
  refine ⟨hkind, fun _ => ?_⟩
  have hledger : s'.ledger = s.ledger := by
    unfold ledger holder HasWatchpoint
    rw [hcode, hdata, hcursor]
  rw [hledger]

theorem refl (s : Session) : s.Booked s := of_tables rfl

end Booked

section Holders
variable {s s' : Session}

theorem holder_insert_code {id : ULONG} {info : BreakpointInfo} (hkind : info.kind = .software)
    (hcode : s'.bps.gBreakpoints = s.bps.gBreakpoints.insert id info)
    (hdata : s'.bps.gMemoryBreakpoints = s.bps.gMemoryBreakpoints) :
    s'.holder = Function.update s.holder (.inl id) (some info.watchpoint) := by
  funext key
  cases key with
  | inl id' =>
    by_cases hid : id' = id
    · subst hid
      simp [holder, hcode, hkind]
    · rw [Function.update_of_ne (fun h => hid (Sum.inl.inj h))]
      simp only [holder, hcode, MapSums.getElem?_insert_of_ne hid]
  | inr id' =>
    rw [Function.update_of_ne Sum.inr_ne_inl]
    simp only [holder, hdata]

theorem holder_erase_code {id : ULONG} (hcode : s'.bps.gBreakpoints = s.bps.gBreakpoints.erase id)
    (hdata : s'.bps.gMemoryBreakpoints = s.bps.gMemoryBreakpoints) :
    s'.holder = Function.update s.holder (.inl id) none := by
  funext key
  cases key with
  | inl id' =>
    by_cases hid : id' = id
    · subst hid
      simp [holder, hcode]
    · rw [Function.update_of_ne (fun h => hid (Sum.inl.inj h))]
      simp only [holder, hcode, MapSums.getElem?_erase_of_ne hid]
  | inr id' =>
    rw [Function.update_of_ne Sum.inr_ne_inl]
    simp only [holder, hdata]

theorem holder_insert_data {id : ULONG64} {info : MemoryBreakpointInfo}
    (hcode : s'.bps.gBreakpoints = s.bps.gBreakpoints)
    (hdata : s'.bps.gMemoryBreakpoints = s.bps.gMemoryBreakpoints.insert id info) :
    s'.holder = Function.update s.holder (.inr id) (some info.watchpoint) := by
  funext key
  cases key with
  | inl id' =>
    rw [Function.update_of_ne Sum.inl_ne_inr]
    simp only [holder, hcode]
  | inr id' =>
    by_cases hid : id' = id
    · subst hid
      simp [holder, hdata]
    · rw [Function.update_of_ne (fun h => hid (Sum.inr.inj h))]
      simp only [holder, hdata, MapSums.getElem?_insert_of_ne hid]

theorem holder_erase_data {id : ULONG64} (hcode : s'.bps.gBreakpoints = s.bps.gBreakpoints)
    (hdata : s'.bps.gMemoryBreakpoints = s.bps.gMemoryBreakpoints.erase id) :
    s'.holder = Function.update s.holder (.inr id) none := by
  funext key
  cases key with
  | inl id' =>
    rw [Function.update_of_ne Sum.inl_ne_inr]
    simp only [holder, hcode]
  | inr id' =>
    by_cases hid : id' = id
    · subst hid
      simp [holder, hdata]
    · rw [Function.update_of_ne (fun h => hid (Sum.inr.inj h))]
      simp only [holder, hdata, MapSums.getElem?_erase_of_ne hid]

theorem Booked.acquired {key : ULONG ⊕ ULONG64} {watchpoint : MemoryWatchpointData}
    (hkind : s'.gSessionKind = s.gSessionKind) (hkey : s.holder key = none)
    (hfree : ∀ key, s.holder key ≠ some watchpoint)
    (hholder : s'.holder = Function.update s.holder key (some watchpoint))
    (hcursor : ∀ watchpoint', s'.HasWatchpoint watchpoint' ↔
      watchpoint' = watchpoint ∨ s.HasWatchpoint watchpoint') : s.Booked s' := by
  refine ⟨hkind, fun _ => ?_⟩
  have hledger : s'.ledger = s.ledger.acquire key watchpoint := by
    unfold ledger Ledger.acquire
    rw [hholder]
    congr 1
    ext watchpoint'
    exact hcursor watchpoint'
  rw [hledger]
  exact .single (.acquire hkey hfree)

theorem Booked.released {key : ULONG ⊕ ULONG64} {watchpoint : MemoryWatchpointData}
    (hkind : s'.gSessionKind = s.gSessionKind) (hheld : s.holder key = some watchpoint)
    (hholder : s'.holder = Function.update s.holder key none)
    (hcursor : ∀ watchpoint', s'.HasWatchpoint watchpoint' ↔
      s.HasWatchpoint watchpoint' ∧ watchpoint' ≠ watchpoint) : s.Booked s' := by
  refine ⟨hkind, fun _ => ?_⟩
  have hledger : s'.ledger = s.ledger.release key watchpoint := by
    unfold ledger Ledger.release
    rw [hholder]
    congr 1
    ext watchpoint'
    exact hcursor watchpoint'
  rw [hledger]
  exact .single (.release hheld)

end Holders

/-- Adding leaves the tables alone; it installs the watchpoint or fails. -/
theorem addMemoryWatchpoint_told (env : Env) (data : MemoryWatchpointData) (s : Session) :
    (s.addMemoryWatchpoint env data).1.bps = s.bps ∧
      (s.addMemoryWatchpoint env data).1.gSessionKind = s.gSessionKind ∧
      ((s.addMemoryWatchpoint env data).2 = false ∧ (s.addMemoryWatchpoint env data).1 = s ∨
        (s.addMemoryWatchpoint env data).2 = true ∧
        ∀ watchpoint, (s.addMemoryWatchpoint env data).1.HasWatchpoint watchpoint ↔
          watchpoint = data ∨ s.HasWatchpoint watchpoint) := by
  unfold addMemoryWatchpoint
  cases hcursor : s.gTtdCursor with
  | none => exact ⟨rfl, rfl, .inl ⟨rfl, rfl⟩⟩
  | some watchpoints =>
    dsimp only
    split
    · refine ⟨rfl, rfl, .inr ⟨rfl, fun watchpoint => ?_⟩⟩
      unfold HasWatchpoint
      rw [hcursor]
      simp only [Option.some.injEq, exists_eq_left']
      split
      · rename_i hpresent
        exact (or_iff_right_of_imp fun h => h ▸ hpresent).symm
      · exact List.mem_cons
    · exact ⟨rfl, rfl, .inl ⟨rfl, rfl⟩⟩

/-- Removing leaves the tables alone; it takes the watchpoint away or fails. -/
theorem removeMemoryWatchpoint_told (env : Env) (data : MemoryWatchpointData) (s : Session) :
    (s.removeMemoryWatchpoint env data).1.bps = s.bps ∧
      (s.removeMemoryWatchpoint env data).1.gSessionKind = s.gSessionKind ∧
      ((s.removeMemoryWatchpoint env data).2 = false ∧ (s.removeMemoryWatchpoint env data).1 = s ∨
        (s.removeMemoryWatchpoint env data).2 = true ∧
        ∀ watchpoint, (s.removeMemoryWatchpoint env data).1.HasWatchpoint watchpoint ↔
          s.HasWatchpoint watchpoint ∧ watchpoint ≠ data) := by
  unfold removeMemoryWatchpoint
  cases hcursor : s.gTtdCursor with
  | none => exact ⟨rfl, rfl, .inl ⟨rfl, rfl⟩⟩
  | some watchpoints =>
    dsimp only
    split
    · refine ⟨rfl, rfl, .inr ⟨rfl, fun watchpoint => ?_⟩⟩
      unfold HasWatchpoint
      rw [hcursor]
      simp [List.mem_filter]
    · exact ⟨rfl, rfl, .inl ⟨rfl, rfl⟩⟩

/-- No memory breakpoint comes to the watchpoint of a code breakpoint at the address, and
the next record id is free. -/
structure CodeApart (address : ULONG64) (s : Session) : Prop where
  fresh : s.bps.gNextNativeBreakpointId ∉ s.bps.gBreakpoints
  apart : ∀ (id : ULONG64) info, s.bps.gMemoryBreakpoints[id]? = some info →
    info.watchpoint ≠ ⟨address, 1, ACCESS_EXECUTE⟩

/-- No code breakpoint comes to the watchpoint of a memory breakpoint of this range and
type, and the next record id is free. -/
structure DataApart (start size : ULONG_PTR) (type : TitanMemoryBreakpointType) (s : Session) : Prop where
  fresh : s.bps.gNextMemoryBreakpointId ∉ s.bps.gMemoryBreakpoints
  apart : ∀ (id : ULONG) info, s.bps.gBreakpoints[id]? = some info → info.kind = .software →
    info.watchpoint ≠ ⟨start, size, ttdMemoryWatchMask type⟩

theorem CodeApart.free {address : ULONG64} {s : Session} (h : s.CodeApart address)
    (hnone : s.findSoftware address = none) (key : ULONG ⊕ ULONG64) :
    s.holder key ≠ some ⟨address, 1, ACCESS_EXECUTE⟩ := by
  intro hheld
  cases key with
  | inl id =>
    obtain ⟨info, hinfo, hkind, hsame⟩ := holder_code_iff.mp hheld
    exact findSoftware_eq_none hnone hinfo hkind (congrArg MemoryWatchpointData.address hsame)
  | inr id =>
    obtain ⟨info, hinfo, hsame⟩ := holder_data_iff.mp hheld
    exact h.apart id info hinfo hsame

theorem booked_addTtdSoftwareBreakpoint (env : Env) {address : ULONG_PTR} (callback : Option Callback)
    (oneShot : Bool) (threadAffinity : ULONG) {s : Session} (h : s.CodeApart address)
    (hnone : s.findSoftware address = none) :
    s.Booked (s.addTtdSoftwareBreakpoint env address callback oneShot threadAffinity).1 := by
  obtain ⟨hbps, hkind, hcursor⟩ := addMemoryWatchpoint_told env ⟨address, 1, ACCESS_EXECUTE⟩ s
  unfold addTtdSoftwareBreakpoint
  generalize s.addMemoryWatchpoint env ⟨address, 1, ACCESS_EXECUTE⟩ = r at hbps hkind hcursor ⊢
  obtain ⟨u, added⟩ := r
  obtain ⟨rfl, rfl⟩ | ⟨rfl, hinstalled⟩ := hcursor
  · exact .of_tables rfl
  · dsimp only at hbps hkind hinstalled ⊢
    rw [hbps]
    have hkey : s.holder (.inl s.bps.gNextNativeBreakpointId) = none := by
      simp [holder, Std.ExtTreeMap.getElem?_eq_none h.fresh]
    refine .acquired hkind hkey (h.free hnone) ?_ hinstalled
    let info : BreakpointInfo :=
      { id := s.bps.gNextNativeBreakpointId, kind := .software, callback := callback
        offset := address, oneShot := oneShot, ttdThreadAffinity := threadAffinity }
    refine @holder_insert_code s _ s.bps.gNextNativeBreakpointId info rfl ?_ rfl
    exact MapSums.insertIfNew_of_notMem h.fresh

theorem booked_setBPX (env : Env) {address : ULONG_PTR} (type : DWORD) (callback : Option Callback)
    {s : Session} (hkind : s.gSessionKind = .ttd) (h : s.CodeApart address) :
    s.Booked (s.setBPX env address type callback).1 := by
  unfold setBPX
  split
  · exact .of_tables rfl
  split
  · exact .of_tables rfl
  split
  · exact .of_tables rfl
  rename_i hnone
  rw [Option.not_isSome_iff_eq_none] at hnone
  exact booked_addTtdSoftwareBreakpoint env callback _ 0 h hnone

/-- A code breakpoint goes with its watchpoint. -/
theorem Booked.code_removed {s s' u : Session} {id : ULONG} {info : BreakpointInfo}
    (hinfo : s.bps.gBreakpoints[id]? = some info) (hsoftware : info.kind = .software)
    (hbps : u.bps = s.bps) (hkind : u.gSessionKind = s.gSessionKind)
    (hcursor : ∀ watchpoint, u.HasWatchpoint watchpoint ↔
      s.HasWatchpoint watchpoint ∧ watchpoint ≠ info.watchpoint)
    (hrecords : s' = { u with bps.gBreakpoints := u.bps.gBreakpoints.erase id }) : s.Booked s' := by
  subst hrecords
  have hheld : s.holder (.inl id) = some info.watchpoint :=
    holder_code_iff.mpr ⟨info, hinfo, hsoftware, rfl⟩
  refine .released hkind hheld (holder_erase_code ?_ ?_) hcursor
  · show u.bps.gBreakpoints.erase id = _
    rw [hbps]
  · show u.bps.gMemoryBreakpoints = _
    rw [hbps]

theorem booked_deleteBPX (env : Env) (address : ULONG_PTR) {s : Session} (hkind : s.gSessionKind = .ttd) :
    s.Booked (s.deleteBPX env address).1 := by
  unfold deleteBPX
  cases hfind : s.findSoftware address with
  | none => exact .of_tables rfl
  | some entry =>
    obtain ⟨id, info⟩ := entry
    obtain ⟨hinfo, hsoftware, hoffset⟩ := findSoftware_eq_some hfind
    obtain ⟨hbps, hkind', hcursor⟩ := removeMemoryWatchpoint_told env ⟨address, 1, ACCESS_EXECUTE⟩ s
    dsimp only
    rw [if_pos hkind]
    generalize s.removeMemoryWatchpoint env ⟨address, 1, ACCESS_EXECUTE⟩ = r at hbps hkind' hcursor ⊢
    obtain ⟨u, removed⟩ := r
    obtain ⟨rfl, rfl⟩ | ⟨rfl, hleft⟩ := hcursor
    · exact .refl _
    · subst hoffset
      exact .code_removed hinfo hsoftware hbps hkind' hleft rfl

theorem booked_removeMemoryBreakpointById (env : Env) (id : ULONG64) {s : Session}
    (hkind : s.gSessionKind = .ttd) : s.Booked (s.removeMemoryBreakpointById env id).1 := by
  unfold removeMemoryBreakpointById
  cases hinfo : s.bps.gMemoryBreakpoints[id]? with
  | none => exact .refl s
  | some info =>
    obtain ⟨hbps, hkind', hcursor⟩ := removeMemoryWatchpoint_told env info.watchpoint s
    dsimp only
    rw [if_pos hkind]
    unfold MemoryBreakpointInfo.watchpoint at hbps hkind' hcursor
    generalize s.removeMemoryWatchpoint env _ = r at hbps hkind' hcursor ⊢
    obtain ⟨u, removed⟩ := r
    obtain ⟨rfl, rfl⟩ | ⟨rfl, hleft⟩ := hcursor
    · exact .refl _
    · have hheld : s.holder (.inr id) = some info.watchpoint := holder_data_iff.mpr ⟨info, hinfo, rfl⟩
      refine .released hkind' hheld (holder_erase_data ?_ ?_) hleft
      · show u.bps.gBreakpoints = _
        rw [hbps]
      · show u.bps.gMemoryBreakpoints.erase id = _
        rw [hbps]

theorem booked_removeMemoryBPX (env : Env) (start size : ULONG_PTR) {s : Session}
    (hkind : s.gSessionKind = .ttd) : s.Booked (s.removeMemoryBPX env start size).1 := by
  unfold removeMemoryBPX
  split
  · exact .of_tables rfl
  split
  · exact .of_tables rfl
  split
  · exact booked_removeMemoryBreakpointById env _ hkind
  · exact .of_tables rfl

/-- No memory breakpoint has this range, so that one may be set. -/
def NewRange (start size : ULONG_PTR) (s : Session) : Prop :=
  ∀ (id : ULONG64) info, s.bps.gMemoryBreakpoints[id]? = some info → ¬ (info.start = start ∧ info.size = size)

theorem DataApart.free {start size : ULONG_PTR} {type : TitanMemoryBreakpointType} {s : Session}
    (h : s.DataApart start size type) (hnew : s.NewRange start size) (key : ULONG ⊕ ULONG64) :
    s.holder key ≠ some ⟨start, size, ttdMemoryWatchMask type⟩ := by
  intro hheld
  cases key with
  | inl id =>
    obtain ⟨info, hinfo, hkind, hsame⟩ := holder_code_iff.mp hheld
    exact h.apart id info hinfo hkind hsame
  | inr id =>
    obtain ⟨info, hinfo, hsame⟩ := holder_data_iff.mp hheld
    exact hnew id info hinfo ⟨congrArg MemoryWatchpointData.address hsame,
      congrArg MemoryWatchpointData.size hsame⟩

theorem booked_setMemoryBPXEx (env : Env) {start size : ULONG_PTR} {BreakPointType : ℕ}
    (restoreOnHit : Bool) (callback : Option Callback) {s : Session} (hkind : s.gSessionKind = .ttd)
    (h : s.NewRange start size → ∀ type, TitanMemoryBreakpointType.ofValue BreakPointType = some type →
      s.DataApart start size type) :
    s.Booked (s.setMemoryBPXEx env start size BreakPointType restoreOnHit callback).1 := by
  unfold setMemoryBPXEx
  split
  · exact .of_tables rfl
  cases htype : TitanMemoryBreakpointType.ofValue BreakPointType with
  | none => exact .of_tables rfl
  | some type =>
    dsimp only
    split
    · exact .of_tables rfl
    split
    · exact .of_tables rfl
    split
    · exact .of_tables rfl
    rename_i hfresh
    have hnew : s.NewRange start size := by
      intro id info hinfo hsame
      refine hfresh (List.any_eq_true.mpr ⟨(id, info), ?_, decide_eq_true hsame⟩)
      exact Std.ExtTreeMap.mem_toList_iff_getElem?_eq_some.mpr hinfo
    have hapart := h hnew type htype
    obtain ⟨hbps, hkind', hcursor⟩ := addMemoryWatchpoint_told env ⟨start, size, ttdMemoryWatchMask type⟩
      { s with bps.gNextMemoryBreakpointId := s.bps.gNextMemoryBreakpointId + 1 }
    generalize addMemoryWatchpoint env _ _ = r at hbps hkind' hcursor ⊢
    obtain ⟨u, added⟩ := r
    obtain ⟨rfl, rfl⟩ | ⟨rfl, hinstalled⟩ := hcursor
    · exact .of_tables rfl
    · have hkey : s.holder (.inr s.bps.gNextMemoryBreakpointId) = none := by
        simp [holder, Std.ExtTreeMap.getElem?_eq_none hapart.fresh]
      dsimp only at hbps ⊢
      refine .acquired hkind' hkey (hapart.free hnew) ?_ hinstalled
      let info : MemoryBreakpointInfo :=
        ⟨s.bps.gNextMemoryBreakpointId, start, size, type, restoreOnHit, callback⟩
      refine @holder_insert_data s _ s.bps.gNextMemoryBreakpointId info ?_ ?_
      · show u.bps.gBreakpoints = _
        rw [hbps]
      · show u.bps.gMemoryBreakpoints.insertIfNew s.bps.gNextMemoryBreakpointId _ = _
        rw [hbps]
        exact MapSums.insertIfNew_of_notMem hapart.fresh

end Session

namespace TtdSession

theorem booked_replayed {t t' : TtdSession} (h : t.Replayed t') : t.toSession.Booked t'.toSession :=
  .of_tables (h.field_eq (fun t => t.toSession.watchTables) fun _ _ _ _ _ _ => rfl)

theorem booked_refreshTtdTimeline {s : Session} {t : TtdSession} (h : t.watchTables = s.watchTables) :
    s.Booked t.refreshTtdTimeline.toSession :=
  .of_tables (((refreshed_refreshTtdTimeline t).field_eq (fun t => t.toSession.watchTables)
    fun _ _ _ _ _ _ _ => rfl).trans h)

/-- A one-shot code breakpoint is gone with its watchpoint, which the books say is there. -/
theorem booked_consumeSoftware {env : Env} (hremoves : env.removeMemoryWatchpoint = true) {id : ULONG}
    {info : BreakpointInfo} {t : TtdSession} (hinfo : t.bps.gBreakpoints[id]? = some info)
    (hsoftware : info.kind = .software) : t.toSession.Booked (t.consumeSoftware env id info).toSession := by
  unfold consumeSoftware
  split
  · obtain ⟨hbps, hkind, hcursor⟩ := Session.removeMemoryWatchpoint_told env info.watchpoint t.toSession
    refine ⟨hkind, fun hsound => ?_⟩
    have hpresent : t.HasWatchpoint info.watchpoint :=
      (hsound.exact _).mpr ⟨.inl id, Session.holder_code_iff.mpr ⟨info, hinfo, hsoftware, rfl⟩⟩
    obtain ⟨watchpoints, hsome, hmem⟩ := hpresent
    have hremoved : (t.toSession.removeMemoryWatchpoint env info.watchpoint).2 = true := by
      unfold Session.removeMemoryWatchpoint
      simp only [hsome, hremoves, hmem, and_self, if_true]
    obtain ⟨hfailed, -⟩ | ⟨-, hleft⟩ := hcursor
    · exact absurd (hfailed.symm.trans hremoved) Bool.false_ne_true
    · exact (Session.Booked.code_removed hinfo hsoftware hbps hkind hleft rfl).steps hsound
  · exact .refl _

theorem booked_consumeMemory (env : Env) (id : ULONG64) (info : MemoryBreakpointInfo) {t : TtdSession}
    (hkind : t.gSessionKind = .ttd) : t.toSession.Booked (t.consumeMemory env id info).toSession := by
  unfold consumeMemory
  split
  · exact .refl _
  · exact Session.booked_removeMemoryBreakpointById env id hkind

theorem booked_queueTtdWatchpointHit {env : Env} (hremoves : env.removeMemoryWatchpoint = true)
    (hit : Option TtdWatchHit) {t : TtdSession} (hkind : t.gSessionKind = .ttd) :
    t.toSession.Booked (t.queueTtdWatchpointHit env hit).1.toSession := by
  unfold queueTtdWatchpointHit
  split
  · exact .refl _
  · split
    · rename_i heq
      obtain ⟨hinfo, hsoftware, -⟩ := softwareBreakpointOf_spec heq
      exact booked_consumeSoftware hremoves hinfo hsoftware
    · split
      · exact booked_consumeMemory env _ _ hkind
      · exact .refl _

theorem booked_finishStep {env : Env} (hremoves : env.removeMemoryWatchpoint = true)
    (stepCallBack : Option Callback) {t : TtdSession} (hkind : t.gSessionKind = .ttd) :
    t.toSession.Booked (t.finishStep env stepCallBack).1.toSession := by
  have hrefreshed : t.toSession.Booked { t with gTtdWatchHit := none }.refreshTtdTimeline.toSession :=
    booked_refreshTtdTimeline rfl
  have hhit := hrefreshed.trans
    (booked_queueTtdWatchpointHit hremoves t.gTtdWatchHit (hrefreshed.kind.trans hkind))
  unfold finishStep
  dsimp only
  generalize queueTtdWatchpointHit env _ _ = r at hhit ⊢
  obtain ⟨u, reported⟩ := r
  cases reported with
  | true => exact hhit
  | false =>
    cases stepCallBack with
    | none => exact hhit
    | some callback => exact hhit

end TtdSession

/-- Watchpoints can be removed, and the one that a step over a call adds is of its own. -/
def TtdMove.AddsApart (move : TtdMove) (t : TtdSession) : Prop :=
  match move with
  | setPosition .. => True
  | stepBack answers _ => answers.base.removeMemoryWatchpoint = true
  | step answers stepOver _ =>
    let returnAddress :=
      TtdSession.stepOverProbe answers t.cursor.thread.uniqueId (t.AsksAgain answers.attempt)
    answers.base.removeMemoryWatchpoint = true ∧
      (stepOver = true → t.findSoftware returnAddress = none → t.CodeApart returnAddress)
  | run answers => answers.base.removeMemoryWatchpoint = true

namespace TtdSession

theorem booked_replayStep {answers : StepAnswers} {reverse stepOver : Bool}
    (stepCallBack : Option Callback) {t : TtdSession} (hkind : t.gSessionKind = .ttd)
    (hremoves : answers.base.removeMemoryWatchpoint = true)
    (hapart : stepOver = true →
      t.findSoftware (stepOverProbe answers t.cursor.thread.uniqueId (t.AsksAgain answers.attempt)) = none →
      t.CodeApart (stepOverProbe answers t.cursor.thread.uniqueId (t.AsksAgain answers.attempt))) :
    t.toSession.Booked (t.replayStep answers reverse stepOver stepCallBack).1.toSession := by
  have htold := replayAttempts_told answers.attempt answers.setPositionOnThread t
  have hrun := replayed_replayAttempts answers.attempt answers.setPositionOnThread t.cursor.position t
  have hbooked := booked_replayed hrun
  have hbps := hrun.bps
  unfold replayStep
  split
  · exact .of_tables rfl
  split
  · exact .of_tables rfl
  split
  · exact .of_tables rfl
  split
  · exact .of_tables rfl
  dsimp only
  generalize t.replayAttempts answers.attempt answers.setPositionOnThread t.cursor.position = r
    at htold hbooked hbps ⊢
  rw [htold.again]
  split
  · exact hbooked.trans (.of_tables rfl)
  have hbooked' : t.toSession.Booked r.1.updateTtdCursorIdentity.toSession :=
    hbooked.trans (.of_tables rfl)
  have hsame : r.1.updateTtdCursorIdentity.bps = t.bps := hbps
  generalize r.1.updateTtdCursorIdentity = u at hbooked' hsame ⊢
  cases stepOver with
  | false =>
    simp only [Bool.false_eq_true, if_false, ne_eq, not_true_eq_false, false_and]
    exact hbooked'.trans (booked_finishStep hremoves stepCallBack (hbooked'.kind.trans hkind))
  | true =>
    have hapart' := hapart rfl
    rw [if_pos rfl]
    generalize stepOverProbe answers t.cursor.thread.uniqueId (t.AsksAgain answers.attempt) = returnAddress
      at hapart' ⊢
    have hfound : u.findSoftware returnAddress = t.findSoftware returnAddress := by
      unfold Session.findSoftware
      rw [hsame]
    split
    · split
      · exact hbooked'.trans (booked_refreshTtdTimeline rfl)
      · rename_i hnone
        rw [Option.not_isSome_iff_eq_none] at hnone
        obtain ⟨hfresh, hother⟩ := hapart' (hfound.symm.trans hnone)
        have hapart'' : u.CodeApart returnAddress := by
          constructor
          · rw [hsame]
            exact hfresh
          · rw [hsame]
            exact hother
        have hadded := hbooked'.trans (Session.booked_addTtdSoftwareBreakpoint answers.base stepCallBack
          true t.cursor.thread.uniqueId hapart'' hnone)
        dsimp only
        generalize u.toSession.addTtdSoftwareBreakpoint answers.base returnAddress stepCallBack true
          t.cursor.thread.uniqueId = r at hadded ⊢
        obtain ⟨s, added⟩ := r
        cases added with
        | false => exact hadded
        | true => exact hadded.trans (booked_refreshTtdTimeline rfl)
    · exact hbooked'.trans (booked_finishStep hremoves stepCallBack (hbooked'.kind.trans hkind))

theorem booked_reportRun {answers : RunAnswers} (hremoves : answers.base.removeMemoryWatchpoint = true)
    (reverse : Bool) (stepCount : ULONG64) (hit : Option TtdWatchHit) (event : Option ExceptionEvent)
    {t : TtdSession} (hkind : t.gSessionKind = .ttd) :
    t.toSession.Booked (t.reportRun answers reverse stepCount hit event).1.toSession := by
  have hexchange := booked_replayed (replayed_pauseSteps answers.requests.beforeExchange t)
  unfold reportRun
  split
  · exact .refl _
  dsimp only
  generalize t.pauseSteps answers.requests.beforeExchange = u at hexchange ⊢
  split
  · exact hexchange.trans ((booked_replayed (replayed_pauseSteps answers.requests.beforeCallback
      { u with gTtdInterruptRequested := false })).trans (.of_tables rfl))
  · have hhit := hexchange.trans
      (booked_queueTtdWatchpointHit hremoves hit (hexchange.kind.trans hkind))
    generalize u.queueTtdWatchpointHit answers.base hit = r at hhit ⊢
    obtain ⟨u', reported⟩ := r
    cases reported with
    | true => exact hhit
    | false =>
      cases event with
      | some event =>
        obtain ⟨work, -, heq⟩ := queueException_eq event u'
        dsimp only
        rw [heq]
        exact hhit
      | none => exact hhit

theorem booked_parkRun (answers : RunAnswers) (reverse : Bool) (stepCount : ULONG64)
    (event : Option ExceptionEvent) (t : TtdSession) :
    t.toSession.Booked (t.parkRun answers reverse stepCount event).toSession := by
  have hpause := booked_replayed (replayed_pauseSteps answers.requests.beforeParking t)
  unfold parkRun
  dsimp only
  split
  · rw [parkAtExit_eq]
    split
    · exact hpause
    · exact hpause
  · exact hpause

theorem booked_runTtd {answers : RunAnswers} (hremoves : answers.base.removeMemoryWatchpoint = true)
    (reverse : Bool) {t : TtdSession} (hkind : t.gSessionKind = .ttd) :
    t.toSession.Booked (t.runTtd answers reverse).1.toSession := by
  have hrun := booked_replayed (replayed_replayRun answers reverse t)
  unfold runTtd
  dsimp only
  generalize t.replayRun answers reverse = r at hrun ⊢
  have hparked := hrun.trans (booked_parkRun answers reverse r.2.1 r.2.2 r.1)
  generalize r.1.parkRun answers reverse r.2.1 r.2.2 = parked at hparked ⊢
  have hsettled : t.toSession.Booked parked.settleRun.1.toSession :=
    hparked.trans (booked_refreshTtdTimeline rfl)
  exact hsettled.trans (booked_reportRun hremoves _ _ _ _ (hsettled.kind.trans hkind))

/-- A movement keeps the books, if what it adds is its own. -/
theorem booked_apply {move : TtdMove} {t : TtdSession} (hkind : t.gSessionKind = .ttd)
    (h : move.AddsApart t) : t.toSession.Booked (move.apply t).toSession := by
  cases move with
  | setPosition requested reached =>
    show t.toSession.Booked (t.replaySetPosition requested reached).1.toSession
    unfold replaySetPosition
    split
    · exact .of_tables rfl
    split
    · exact .of_tables rfl
    dsimp only
    split
    · exact .of_tables rfl
    · exact booked_refreshTtdTimeline rfl
  | stepBack answers stepCallBack =>
    exact booked_replayStep stepCallBack hkind h fun hover => absurd hover Bool.false_ne_true
  | step answers stepOver stepCallBack =>
    obtain ⟨hremoves, hapart⟩ := h
    have hstep := @booked_replayStep answers false stepOver stepCallBack t hkind hremoves hapart
    show t.toSession.Booked (t.ttdStep answers stepOver stepCallBack).toSession
    unfold ttdStep
    generalize t.replayStep answers false stepOver stepCallBack = r at hstep ⊢
    obtain ⟨u, succeeded⟩ := r
    cases succeeded with
    | true => exact hstep
    | false =>
      cases stepCallBack with
      | none => exact hstep
      | some callback => exact hstep
  | run answers =>
    exact @booked_runTtd answers h t.gTtdNextRunReverse { t with gTtdNextRunReverse := false } hkind

end TtdSession

/-- What a run may add and move. -/
structure RecordRules where
  code : ULONG64 → Session → Prop
  data : ULONG_PTR → ULONG_PTR → ℕ → Session → Prop
  move : TtdMove → TtdSession → Prop

/-- Runs of a replay, as far as breakpoints go. -/
inductive RecordStep (rules : RecordRules) : TtdSession → TtdSession → Prop
  | setBPX {env address type callback} {t : TtdSession} (allowed : rules.code address t.toSession) :
      RecordStep rules t { t with toSession := (t.toSession.setBPX env address type callback).1 }
  | deleteBPX {env address} {t : TtdSession} :
      RecordStep rules t { t with toSession := (t.toSession.deleteBPX env address).1 }
  | setMemoryBPXEx {env start size type restoreOnHit callback} {t : TtdSession}
      (allowed : rules.data start size type t.toSession) :
      RecordStep rules t
        { t with toSession := (t.toSession.setMemoryBPXEx env start size type restoreOnHit callback).1 }
  | removeMemoryBPX {env start size} {t : TtdSession} :
      RecordStep rules t { t with toSession := (t.toSession.removeMemoryBPX env start size).1 }
  | move {move t} (allowed : rules.move move t) : RecordStep rules t (move.apply t)
  | other {t t' : TtdSession} (same : t'.watchTables = t.watchTables) : RecordStep rules t t'

abbrev RecordRun (rules : RecordRules) : TtdSession → TtdSession → Prop :=
  Relation.ReflTransGen (RecordStep rules)

/-- No breakpoint is set where one of the other table has the same watchpoint. -/
def apartRules : RecordRules where
  code address s := s.findSoftware address = none → s.CodeApart address
  data start size type s := s.NewRange start size →
    ∀ type', TitanMemoryBreakpointType.ofValue type = some type' → s.DataApart start size type'
  move := TtdMove.AddsApart

theorem booked_recordStep {t t' : TtdSession} (hstep : RecordStep apartRules t t')
    (hkind : t.gSessionKind = .ttd) : t.toSession.Booked t'.toSession := by
  cases hstep with
  | @setBPX env address type callback _ allowed =>
    cases hfound : t.findSoftware address with
    | none => exact Session.booked_setBPX env type callback hkind (allowed hfound)
    | some record =>
      refine .of_tables ?_
      dsimp only
      unfold Session.setBPX
      split
      · rfl
      split
      · rfl
      rw [if_pos (by rw [hfound]; rfl)]
      rfl
  | deleteBPX => exact Session.booked_deleteBPX _ _ hkind
  | setMemoryBPXEx allowed => exact Session.booked_setMemoryBPXEx _ _ _ hkind allowed
  | removeMemoryBPX => exact Session.booked_removeMemoryBPX _ _ _ hkind
  | move allowed => exact TtdSession.booked_apply hkind allowed
  | other same => exact .of_tables same

/-- The session is a replay, and its books are sound. -/
def TtdSession.Accounted (t : TtdSession) : Prop := t.gSessionKind = .ttd ∧ t.toSession.ledger.Sound

theorem accounted_watchStep : Runs.Preserves (RecordStep apartRules) TtdSession.Accounted := by
  rintro t t' hstep ⟨hkind, hsound⟩
  have hbooked := booked_recordStep hstep hkind
  exact ⟨hbooked.kind.trans hkind, hbooked.sound hsound⟩

namespace TtdSession

theorem watchTables_createSyntheticTitanHandle (type : TitanHandleType) (dbgengId : ULONG)
    (systemId : DWORD) (callerOwned : Bool) (t : TtdSession) :
    (t.createSyntheticTitanHandle type dbgengId systemId callerOwned).1.toSession.watchTables =
      t.toSession.watchTables := by
  rw [createSyntheticTitanHandle_eq]
  rfl

/-- A replay starts without watchpoints, and with the breakpoints that are left from before. -/
theorem watchTables_initReplay {trace : Trace} {thread : ThreadInfo} {serial : ULONG_PTR} {s : Session}
    {t : TtdSession} (h : initReplay trace thread serial s = some t) :
    t.toSession.watchTables = (.ttd, s.bps.gBreakpoints, s.bps.gMemoryBreakpoints, some []) := by
  unfold initReplay at h
  dsimp only at h
  split at h
  · cases h
  · cases h
  · rename_i _ _ image himage _
    cases h
    have hhandles : ∀ t : TtdSession, t.bootstrapHandles.toSession.watchTables = t.toSession.watchTables :=
      fun t => (watchTables_createSyntheticTitanHandle _ _ _ _ _).trans
        (watchTables_createSyntheticTitanHandle _ _ _ _ t)
    have hprocess : ((openReplay trace thread serial s).bootstrapProcess image).toSession.watchTables =
        (openReplay trace thread serial s).toSession.watchTables :=
      (watchTables_createSyntheticTitanHandle _ _ _ _ _).trans
        (watchTables_createSyntheticTitanHandle _ _ _ _ (openReplay trace thread serial s))
    have hfold := Refreshed.foldl (refreshed_bootstrapThread thread.id)
      (trace.snapshot trace.firstPosition).threads ((openReplay trace thread serial s).bootstrapProcess image)
    have hthreads := hfold.field_eq (fun t => t.toSession.watchTables) fun _ _ _ _ _ _ _ => rfl
    exact (hhandles _).trans (hthreads.trans hprocess)

theorem accounted_initReplay {trace : Trace} {thread : ThreadInfo} {serial : ULONG_PTR} {s : Session}
    {t : TtdSession} (h : initReplay trace thread serial s = some t) (hcode : s.bps.gBreakpoints = ∅)
    (hdata : s.bps.gMemoryBreakpoints = ∅) : t.Accounted := by
  have htables := watchTables_initReplay h
  rw [hcode, hdata] at htables
  simp only [Session.watchTables, Prod.mk.injEq] at htables
  obtain ⟨hkind, hcode', hdata', hcursor⟩ := htables
  refine ⟨hkind, ?_⟩
  have hempty : t.toSession.ledger = ⟨fun _ => none, ∅⟩ := by
    unfold Session.ledger
    congr 1
    · funext key
      cases key with
      | inl id => simp [Session.holder, hcode']
      | inr id => simp [Session.holder, hdata']
    · ext watchpoint
      simp [Session.HasWatchpoint, hcursor]
  rw [hempty]
  exact Ledger.sound_empty

end TtdSession

/-- As long as no two breakpoints come to one watchpoint, the records and the watchpoints
of the cursor agree. -/
theorem watchpoints_agree {trace : Trace} {thread : ThreadInfo} {serial : ULONG_PTR} {s : Session}
    {t₀ t : TtdSession} (hstart : TtdSession.initReplay trace thread serial s = some t₀)
    (hcode : s.bps.gBreakpoints = ∅) (hdata : s.bps.gMemoryBreakpoints = ∅)
    (hrun : RecordRun apartRules t₀ t) : t.WatchpointsAgree := by
  have haccounted := accounted_watchStep.run hrun (TtdSession.accounted_initReplay hstart hcode hdata)
  exact (Session.exact_iff_agree t.toSession).mp haccounted.2.exact

/-- The rules of setting apart can be checked entry by entry. -/
theorem apart_of_toList {α β : Type} [Ord α] [Std.TransOrd α] [Std.LawfulEqOrd α] {m : Map α β}
    {p : β → Prop} (h : ∀ entry ∈ m.toList, p entry.2) (id : α) (info : β) (hinfo : m[id]? = some info) :
    p info := h (id, info) (Std.ExtTreeMap.mem_toList_iff_getElem?_eq_some.mpr hinfo)

def openedReplay : TtdSession := (TtdSession.initReplay shortTrace mainThread 1 {}).get (by decide)

/-- `DebugLoop` has been entered. -/
def pausedReplay : TtdSession := { openedReplay with gIsDebugging := true, gPaused := true }

def withCodeBreakpoint (address : ULONG_PTR) (t : TtdSession) : TtdSession :=
  { t with toSession := (t.toSession.setBPX {} address 0 (some 1)).1 }

def withoutCodeBreakpoint (address : ULONG_PTR) (t : TtdSession) : TtdSession :=
  { t with toSession := (t.toSession.deleteBPX {} address).1 }

/-- An execute breakpoint of one byte. -/
def withExecuteBreakpoint (address : ULONG_PTR) (t : TtdSession) : TtdSession :=
  { t with toSession := (t.toSession.setMemoryBPXEx {} address 1 6 true (some 2)).1 }

theorem watchpoints_agree_apart :
    (withoutCodeBreakpoint 0x401000 (withExecuteBreakpoint 0x402000
      (withCodeBreakpoint 0x401000 pausedReplay))).WatchpointsAgree := by
  have hstart : TtdSession.initReplay shortTrace mainThread 1 {} = some openedReplay :=
    (Option.some_get _).symm
  have hpaused : RecordStep apartRules openedReplay pausedReplay := .other rfl
  have hcode : RecordStep apartRules pausedReplay (withCodeBreakpoint 0x401000 pausedReplay) :=
    .setBPX fun _ => ⟨by decide, apart_of_toList (by decide)⟩
  have hdata : RecordStep apartRules (withCodeBreakpoint 0x401000 pausedReplay)
      (withExecuteBreakpoint 0x402000 (withCodeBreakpoint 0x401000 pausedReplay)) := by
    refine .setMemoryBPXEx fun _ type htype => ?_
    cases htype
    refine ⟨by decide, fun id info hinfo _ => ?_⟩
    exact apart_of_toList (p := fun info => info.watchpoint ≠ ⟨0x402000, 1, ACCESS_EXECUTE⟩)
      (by decide) id info hinfo
  exact watchpoints_agree hstart rfl rfl
    (((Relation.ReflTransGen.single hpaused).tail hcode).tail hdata |>.tail .deleteBPX)

/-- Anything that the client and the engine can do. -/
def anyRecordRules : RecordRules := ⟨fun _ _ => True, fun _ _ _ _ => True, fun _ _ => True⟩

/-- A code breakpoint that goes takes along the watchpoint of an execute breakpoint. -/
theorem shared_watchpoint_lost :
    ∃ t₀ t, TtdSession.initReplay shortTrace mainThread 1 {} = some t₀ ∧
      RecordRun anyRecordRules t₀ t ∧ ¬ t.WatchpointsAgree := by
  have hpaused : RecordStep anyRecordRules openedReplay pausedReplay := .other rfl
  have hdata : RecordStep anyRecordRules pausedReplay (withExecuteBreakpoint 0x401000 pausedReplay) :=
    .setMemoryBPXEx trivial
  have hcode : RecordStep anyRecordRules (withExecuteBreakpoint 0x401000 pausedReplay)
      (withCodeBreakpoint 0x401000 (withExecuteBreakpoint 0x401000 pausedReplay)) := .setBPX trivial
  have hrun := ((Relation.ReflTransGen.single hpaused).tail hdata).tail hcode
  refine ⟨openedReplay, withoutCodeBreakpoint 0x401000 (withCodeBreakpoint 0x401000
    (withExecuteBreakpoint 0x401000 pausedReplay)), (Option.some_get _).symm, hrun.tail .deleteBPX, fun h => ?_⟩
  have hrecord : (withoutCodeBreakpoint 0x401000 (withCodeBreakpoint 0x401000
      (withExecuteBreakpoint 0x401000 pausedReplay))).bps.gMemoryBreakpoints[(1 : ULONG64)]? =
        some ⟨1, 0x401000, 1, .execute, true, some 2⟩ := by decide
  have hcursor : (withoutCodeBreakpoint 0x401000 (withCodeBreakpoint 0x401000
      (withExecuteBreakpoint 0x401000 pausedReplay))).gTtdCursor = some [] := by decide
  obtain ⟨watchpoints, hsome, hmem⟩ := h.data 1 _ hrecord
  rw [hcursor] at hsome
  cases hsome
  cases hmem

end TitanEngine

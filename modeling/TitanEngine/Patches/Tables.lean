import TitanEngine.Lib.Indexed
import TitanEngine.Lib.MapSums
import TitanEngine.Patches.Outcomes

/-! The two tables of breakpoints, and everything that can become of them. -/
namespace TitanEngine
open Indexed

/-- A hardware record takes its register, a software record stands at its address. -/
def recordShape : Shape ULONG DWORD ULONG64 BreakpointInfo where
  key info := info.id
  slot info := if info.kind = .hardware then some info.hardwareRegister else none
  site info := if info.kind = .software then some info.offset else none

theorem slot_eq_some {info : BreakpointInfo} {reg : DWORD} :
    recordShape.slot info = some reg ↔ info.kind = .hardware ∧ info.hardwareRegister = reg := by
  simp [recordShape]

theorem site_eq_some {info : BreakpointInfo} {address : ULONG64} :
    recordShape.site info = some address ↔ info.kind = .software ∧ info.offset = address := by
  simp [recordShape]

namespace Session
variable {s s' : Session}

/-- A register has an id iff the record of that id is of that register; no two software records
share an address, and each record is under its own id. -/
structure TablesAgree (s : Session) : Prop where
  index : ∀ (reg : DWORD) (id : ULONG), s.bps.gHardwareBreakpointIds[reg]? = some id ↔
    ∃ info : BreakpointInfo, s.bps.gBreakpoints[id]? = some info ∧ info.kind = .hardware ∧
      info.hardwareRegister = reg
  unique : ∀ (id id' : ULONG) (info info' : BreakpointInfo), s.bps.gBreakpoints[id]? = some info →
    s.bps.gBreakpoints[id']? = some info' → info.kind = .software → info'.kind = .software →
      info.offset = info'.offset → id = id'
  key : ∀ (id : ULONG) (info : BreakpointInfo), s.bps.gBreakpoints[id]? = some info → info.id = id

def indexed (s : Session) : State ULONG DWORD BreakpointInfo :=
  ⟨fun id => s.bps.gBreakpoints[id]?, fun reg => s.bps.gHardwareBreakpointIds[reg]?⟩

theorem tablesAgree_iff (s : Session) : s.TablesAgree ↔ Consistent recordShape s.indexed := by
  constructor
  · intro h
    refine ⟨fun reg id => ?_, fun id id' info info' address hid hid' hsite hsite' => ?_, h.key⟩
    · simp only [slot_eq_some]
      exact h.index reg id
    · obtain ⟨hkind, hoffset⟩ := site_eq_some.mp hsite
      obtain ⟨hkind', hoffset'⟩ := site_eq_some.mp hsite'
      exact h.unique id id' info info' hid hid' hkind hkind' (hoffset.trans hoffset'.symm)
  · intro h
    refine ⟨fun reg id => ?_, fun id id' info info' hid hid' hkind hkind' hoffset => ?_, h.key⟩
    · simp only [← slot_eq_some]
      exact h.index reg id
    · exact h.site id id' info info' _ hid hid' (site_eq_some.mpr ⟨hkind, hoffset⟩)
        (site_eq_some.mpr ⟨hkind', rfl⟩)

/-- Both tables, with the next id of a patch. -/
def recordTables (s : Session) : Map ULONG BreakpointInfo × Map DWORD ULONG × ULONG :=
  (s.bps.gBreakpoints, s.bps.gHardwareBreakpointIds, s.bps.gNextNativeBreakpointId)

/-- The tables after an id was taken in vain. -/
def skipped (s : Session) : Map ULONG BreakpointInfo × Map DWORD ULONG × ULONG :=
  (s.bps.gBreakpoints, s.bps.gHardwareBreakpointIds, s.bps.gNextNativeBreakpointId + 1)

theorem recordTables_of_core (h : s'.core = s.core) : s'.recordTables = s.recordTables := field_eq recordTables (fun _ => rfl) h

theorem recordTables_of_image (h : s'.image = s.image) : s'.recordTables = s.recordTables :=
  congrArg (fun i : Image => (i.bps.gBreakpoints, i.bps.gHardwareBreakpointIds, i.bps.gNextNativeBreakpointId)) h

theorem recordTables_writeNativeBreakpointBytes (env : Env) (info : BreakpointInfo) (install : Bool) (s : Session) :
    (s.writeNativeBreakpointBytes env info install).1.recordTables = s.recordTables := by
  obtain h | ⟨-, ⟨h, -⟩ | h⟩ := writeNativeBreakpointBytes_outcome env info install s
  · rw [h]
    rfl
  · exact recordTables_of_core (s := s.withBytes info install) h
  · exact recordTables_of_core h

/-- What a call, or a piece of work, may do to the tables. -/
inductive TablesStep (env : Env) (s s' : Session) : Prop
  | same (tables : s'.recordTables = s.recordTables)
  | skipped (tables : s'.recordTables = s.skipped)
  | software (info : BreakpointInfo) (kind : info.kind = .software) (id : info.id = s.bps.gNextNativeBreakpointId)
      (free : s.findSoftware info.offset = none)
      (tables : s'.recordTables = (s.bps.gBreakpoints.insert info.id info, s.skipped.2))
  | patch (info : BreakpointInfo) (kind : info.kind = .hardware) (id : info.id = s.bps.gNextNativeBreakpointId)
      (lasting : info.oneShot = false) (free : info.hardwareRegister ∉ s.bps.gHardwareBreakpointIds)
      (tables : s'.recordTables = (s.bps.gBreakpoints.insert info.id info,
        s.bps.gHardwareBreakpointIds.insertIfNew info.hardwareRegister info.id, s.skipped.2.2))
  | engine (info : BreakpointInfo) (kind : info.kind = .hardware) (id : env.addBreakpoint = some info.id)
      (lasting : info.oneShot = false) (free : info.hardwareRegister ∉ s.bps.gHardwareBreakpointIds)
      (tables : s'.recordTables = (s.bps.gBreakpoints.insert info.id info,
        s.bps.gHardwareBreakpointIds.insertIfNew info.hardwareRegister info.id, s.recordTables.2.2))
  | erased (id : ULONG) (info : BreakpointInfo) (present : s.bps.gBreakpoints[id]? = some info)
      (kind : info.kind = .software) (tables : s'.recordTables = (s.bps.gBreakpoints.erase id, s.recordTables.2))
  | released (reg : DWORD) (id : ULONG) (slot : s.bps.gHardwareBreakpointIds[reg]? = some id)
      (tables : s'.recordTables = (s.bps.gBreakpoints.erase id, s.bps.gHardwareBreakpointIds.erase reg, s.recordTables.2.2))
  | dangling (reg : DWORD) (id : ULONG) (slot : s.bps.gHardwareBreakpointIds[reg]? = some id)
      (missing : s.bps.gBreakpoints[id]? = none)
      (tables : s'.recordTables = (s.bps.gBreakpoints, s.bps.gHardwareBreakpointIds.erase reg, s.recordTables.2.2))
  | cleared (tables : s'.recordTables = (∅, ∅, s.recordTables.2.2))

/-- The tables agree, and every id is below the next one. -/
structure Numbered (s : Session) : Prop where
  agree : s.TablesAgree
  bound : ∀ (id : ULONG) (info : BreakpointInfo), s.bps.gBreakpoints[id]? = some info →
    id.toNat < s.bps.gNextNativeBreakpointId.toNat
  base : 0x80000000 ≤ s.bps.gNextNativeBreakpointId.toNat
  lasting : ∀ (id : ULONG) (info : BreakpointInfo), s.bps.gBreakpoints[id]? = some info →
    info.kind = .hardware → info.oneShot = false

/-- An id is left for the next patch, and the engine hands out ids below those of patches, and
none that a record has. -/
structure HasIds (env : Env) (s : Session) : Prop where
  room : s.bps.gNextNativeBreakpointId.toNat + 1 < 2 ^ 32
  engine : ∀ id, env.addBreakpoint = some id → id.toNat < 0x80000000 ∧ id ∉ s.bps.gBreakpoints

theorem Numbered.fresh (h : s.Numbered) : s.bps.gNextNativeBreakpointId ∉ s.bps.gBreakpoints := by
  intro hmem
  obtain ⟨info, hinfo⟩ := Option.isSome_iff_exists.mp (Std.ExtTreeMap.mem_iff_isSome_getElem?.mp hmem)
  exact absurd (h.bound _ info hinfo) (Nat.lt_irrefl _)

/-- The tables of a session agree if they do when read as a table and its index. -/
theorem TablesAgree.of_state {table : ULONG → Option BreakpointInfo} {index : DWORD → Option ULONG}
    (h : Consistent recordShape ⟨table, index⟩) (hb : (fun id => s.bps.gBreakpoints[id]?) = table)
    (hh : (fun reg => s.bps.gHardwareBreakpointIds[reg]?) = index) : s.TablesAgree := by
  rw [tablesAgree_iff]
  unfold indexed
  rwa [hb, hh]

theorem Numbered.of_tables (h : s.Numbered) (htables : s'.recordTables = s.recordTables) : s'.Numbered := by
  simp only [recordTables, Prod.mk.injEq] at htables
  obtain ⟨hb, hh, hn⟩ := htables
  constructor
  · exact .of_state ((tablesAgree_iff s).mp h.agree) (by rw [hb]) (by rw [hh])
  · rw [hb, hn]
    exact h.bound
  · rw [hn]
    exact h.base
  · rw [hb]
    exact h.lasting

/-- One more record, with the tables in agreement and the next id not below it. -/
theorem Numbered.insert {info : BreakpointInfo} (h : s.Numbered) (hagree : s'.TablesAgree)
    (hb : s'.bps.gBreakpoints = s.bps.gBreakpoints.insert info.id info)
    (hid : info.id.toNat < s'.bps.gNextNativeBreakpointId.toNat)
    (hnext : s.bps.gNextNativeBreakpointId.toNat ≤ s'.bps.gNextNativeBreakpointId.toNat)
    (hlasting : info.kind = .hardware → info.oneShot = false) : s'.Numbered := by
  refine ⟨hagree, fun id i hi => ?_, h.base.trans hnext, fun id i hi => ?_⟩ <;> rw [hb] at hi <;>
    by_cases hk : id = info.id
  · rwa [hk]
  · rw [MapSums.getElem?_insert_of_ne hk] at hi
    exact (h.bound id i hi).trans_le hnext
  · rw [hk, Std.ExtTreeMap.getElem?_insert_self] at hi
    cases hi
    exact hlasting
  · rw [MapSums.getElem?_insert_of_ne hk] at hi
    exact h.lasting id i hi

theorem Numbered.erase {id : ULONG} (h : s.Numbered) (hagree : s'.TablesAgree)
    (hb : s'.bps.gBreakpoints = s.bps.gBreakpoints.erase id)
    (hnext : s'.bps.gNextNativeBreakpointId = s.bps.gNextNativeBreakpointId) : s'.Numbered := by
  refine ⟨hagree, fun k i hk => ?_, by rw [hnext]; exact h.base, fun k i hk => ?_⟩ <;> rw [hb] at hk
  · rw [hnext]
    exact h.bound k i (MapSums.getElem?_of_erase hk)
  · exact h.lasting k i (MapSums.getElem?_of_erase hk)

theorem toNat_next (hroom : s.bps.gNextNativeBreakpointId.toNat + 1 < 2 ^ 32) :
    (s.bps.gNextNativeBreakpointId + 1).toNat = s.bps.gNextNativeBreakpointId.toNat + 1 := by
  rw [BitVec.toNat_add]
  exact Nat.mod_eq_of_lt hroom

theorem vacant_hardware {info : BreakpointInfo} (hkind : info.kind = .hardware) :
    Vacant recordShape s.indexed info := by
  intro id i address _ hsite
  rw [(site_eq_some.mp hsite).1] at hkind
  cases hkind

/-- A hardware record enters under an id that no record has. -/
theorem TablesAgree.enter {info : BreakpointInfo} (h : s.TablesAgree) (hkind : info.kind = .hardware)
    (hfresh : info.id ∉ s.bps.gBreakpoints) (hfree : info.hardwareRegister ∉ s.bps.gHardwareBreakpointIds)
    (hb : s'.bps.gBreakpoints = s.bps.gBreakpoints.insert info.id info)
    (hh : s'.bps.gHardwareBreakpointIds = s.bps.gHardwareBreakpointIds.insertIfNew info.hardwareRegister info.id) :
    s'.TablesAgree := by
  have hconsistent := ((tablesAgree_iff s).mp h).enter (Std.ExtTreeMap.getElem?_eq_none hfresh)
    (slot_eq_some.mpr ⟨hkind, rfl⟩) (Std.ExtTreeMap.getElem?_eq_none hfree) (vacant_hardware hkind)
  refine .of_state hconsistent ?_ ?_
  · rw [hb]
    exact MapSums.getElem?_insert_eq_update ..
  · rw [hh, MapSums.insertIfNew_of_notMem hfree]
    exact MapSums.getElem?_insert_eq_update ..

/-- A software record goes. -/
theorem Numbered.erased {id : ULONG} {info : BreakpointInfo} (h : s.Numbered)
    (hpresent : s.bps.gBreakpoints[id]? = some info) (hkind : info.kind = .software)
    (htables : s'.recordTables = (s.bps.gBreakpoints.erase id, s.recordTables.2)) : s'.Numbered := by
  simp only [recordTables, Prod.mk.injEq] at htables
  obtain ⟨hb, hh, hn⟩ := htables
  have hconsistent := ((tablesAgree_iff s).mp h.agree).erase hpresent (by simp [recordShape, hkind])
  refine h.erase (.of_state hconsistent ?_ (by rw [hh]; rfl)) hb hn
  rw [hb]
  exact MapSums.getElem?_erase_eq_update ..

theorem Numbered.step {env : Env} (h : s.Numbered) (hids : HasIds env s) (hstep : TablesStep env s s') :
    s'.Numbered := by
  have hconsistent := (tablesAgree_iff s).mp h.agree
  have hnext := toNat_next hids.room
  cases hstep with
  | same htables => exact h.of_tables htables
  | skipped htables =>
    simp only [recordTables, skipped, Prod.mk.injEq] at htables
    obtain ⟨hb, hh, hn⟩ := htables
    refine ⟨.of_state hconsistent (by rw [hb]) (by rw [hh]), fun id info hid => ?_, ?_, by rw [hb]; exact h.lasting⟩
    · rw [hb] at hid
      have hbound := h.bound id info hid
      rw [hn, hnext]
      omega
    · have hbase := h.base
      rw [hn, hnext]
      omega
  | software info kind id free htables =>
    simp only [recordTables, skipped, Prod.mk.injEq] at htables
    obtain ⟨hb, hh, hn⟩ := htables
    have hfresh : s.bps.gBreakpoints[info.id]? = none := by
      rw [id]
      exact Std.ExtTreeMap.getElem?_eq_none h.fresh
    have hvacant : Vacant recordShape s.indexed info := by
      intro k i address hi hsite hsite'
      obtain ⟨-, hoffset⟩ := site_eq_some.mp hsite
      obtain ⟨hkind', hoffset'⟩ := site_eq_some.mp hsite'
      exact findSoftware_eq_none free hi hkind' (hoffset'.trans hoffset.symm)
    have hagree : s'.TablesAgree := by
      refine .of_state (hconsistent.insert hfresh (by simp [recordShape, kind]) hvacant) ?_ (by rw [hh]; rfl)
      rw [hb]
      exact MapSums.getElem?_insert_eq_update ..
    refine h.insert hagree hb ?_ ?_ (by simp [kind]) <;> rw [hn, hnext]
    · rw [id]
      omega
    · omega
  | patch info kind id lasting free htables =>
    simp only [recordTables, skipped, Prod.mk.injEq] at htables
    obtain ⟨hb, hh, hn⟩ := htables
    have hfresh : info.id ∉ s.bps.gBreakpoints := by
      rw [id]
      exact h.fresh
    refine h.insert (h.agree.enter kind hfresh free hb hh) hb ?_ ?_ fun _ => lasting <;> rw [hn, hnext]
    · rw [id]
      omega
    · omega
  | engine info kind id lasting free htables =>
    simp only [recordTables, Prod.mk.injEq] at htables
    obtain ⟨hb, hh, hn⟩ := htables
    obtain ⟨hlow, hfresh⟩ := hids.engine info.id id
    have hbase := h.base
    refine h.insert (h.agree.enter kind hfresh free hb hh) hb ?_ ?_ fun _ => lasting <;> rw [hn]
    omega
  | erased id info present kind htables => exact h.erased present kind htables
  | released reg id slot htables =>
    simp only [recordTables, Prod.mk.injEq] at htables
    obtain ⟨hb, hh, hn⟩ := htables
    refine h.erase (.of_state (hconsistent.leave slot) ?_ ?_) hb hn
    · rw [hb]
      exact MapSums.getElem?_erase_eq_update ..
    · rw [hh]
      exact MapSums.getElem?_erase_eq_update ..
  | dangling reg id slot missing htables =>
    obtain ⟨info, hinfo, -⟩ := (h.agree.index reg id).mp slot
    rw [missing] at hinfo
    cases hinfo
  | cleared htables =>
    simp only [recordTables, Prod.mk.injEq] at htables
    obtain ⟨hb, hh, hn⟩ := htables
    refine ⟨.of_state (.empty recordShape) ?_ ?_, fun id info hid => ?_, by rw [hn]; exact h.base,
      fun id info hid => ?_⟩
    · simp [hb]
    · simp [hh]
    · simp [hb] at hid
    · simp [hb] at hid

/-- Capturing the bytes under a patch and writing it changes no table but for the next id. -/
theorem installNative_tables (env : Env) (info : BreakpointInfo) (s : Session) :
    (∃ s', s.installNative env info = (s', none) ∧
        (s'.recordTables = s.recordTables ∨ s'.recordTables = s.skipped)) ∨
      ∃ s' info', s.installNative env info = (s', some info') ∧ s'.recordTables = s.skipped ∧
        info'.id = s.bps.gNextNativeBreakpointId ∧ info'.kind = info.kind ∧ info'.offset = info.offset := by
  unfold installNative
  split
  · exact .inl ⟨s, rfl, .inl rfl⟩
  split
  · exact .inl ⟨_, rfl, .inl rfl⟩
  · rename_i bytes _
    dsimp only
    split <;> rename_i hwrite
    · have htables := congrArg (fun r => r.1.recordTables) hwrite
      rw [recordTables_writeNativeBreakpointBytes] at htables
      exact .inr ⟨_, _, rfl, htables.symm, rfl, rfl, rfl⟩
    · have htables := congrArg (fun r => r.1.recordTables) hwrite
      rw [recordTables_writeNativeBreakpointBytes] at htables
      exact .inl ⟨_, rfl, .inr htables.symm⟩

/-- A breakpoint of a replay has no engine hand out an id. -/
theorem addTtdSoftwareBreakpoint_tables (env env' : Env) {address : ULONG_PTR} (callback : Option Callback)
    (oneShot : Bool) (threadAffinity : ULONG) (hfresh : s.bps.gNextNativeBreakpointId ∉ s.bps.gBreakpoints)
    (hfree : s.findSoftware address = none) :
    TablesStep env' s (s.addTtdSoftwareBreakpoint env address callback oneShot threadAffinity).1 := by
  have hbps : (s.addMemoryWatchpoint env ⟨address, 1, ACCESS_EXECUTE⟩).1.bps = s.bps := by
    unfold addMemoryWatchpoint
    split
    · split <;> rfl
    · rfl
  unfold addTtdSoftwareBreakpoint
  generalize s.addMemoryWatchpoint env ⟨address, 1, ACCESS_EXECUTE⟩ = r at hbps ⊢
  obtain ⟨u, added⟩ := r
  dsimp only at hbps
  cases added with
  | false =>
    refine .same ?_
    unfold recordTables
    show (u.bps.gBreakpoints, u.bps.gHardwareBreakpointIds, u.bps.gNextNativeBreakpointId) = _
    rw [hbps]
  | true =>
    let info : BreakpointInfo :=
      { id := s.bps.gNextNativeBreakpointId, kind := .software, callback := callback
        offset := address, oneShot := oneShot, ttdThreadAffinity := threadAffinity }
    refine .software info rfl rfl hfree ?_
    show (u.bps.gBreakpoints.insertIfNew u.bps.gNextNativeBreakpointId _, u.bps.gHardwareBreakpointIds,
      u.bps.gNextNativeBreakpointId + 1) = _
    rw [hbps, MapSums.insertIfNew_of_notMem hfresh]
    rfl

theorem setBPX_tables (env : Env) (address : ULONG_PTR) (bpxType : DWORD) (callback : Option Callback)
    (hfresh : s.bps.gNextNativeBreakpointId ∉ s.bps.gBreakpoints) :
    TablesStep env s (s.setBPX env address bpxType callback).1 := by
  unfold setBPX
  split
  · exact .same rfl
  split
  · exact .same rfl
  split
  · exact .same rfl
  rename_i hfound
  have hfree : s.findSoftware address = none := Option.not_isSome_iff_eq_none.mp hfound
  split
  · exact addTtdSoftwareBreakpoint_tables env env callback _ 0 hfresh hfree
  cases htype : s.selectBreakpointType bpxType with
  | none => exact .same rfl
  | some type =>
    dsimp only
    generalize hinfo : BreakpointInfo.mk _ _ _ _ _ _ _ _ _ _ _ _ _ _ _ _ = info
    obtain ⟨s', hinstall, hs'⟩ | ⟨s', info', hinstall, htables, hid, hkind, hoffset⟩ :=
      installNative_tables env info s
    · rw [hinstall]
      rcases hs' with hs' | hs'
      · exact .same hs'
      · exact .skipped hs'
    · rw [hinstall]
      simp only [recordTables, skipped, Prod.mk.injEq] at htables
      obtain ⟨hb, hh, hn⟩ := htables
      rw [← hinfo] at hkind hoffset
      refine .software info' hkind hid (by rwa [hoffset]) ?_
      show (s'.bps.gBreakpoints.insert info'.id info', s'.bps.gHardwareBreakpointIds,
        s'.bps.gNextNativeBreakpointId) = _
      rw [hb, hh, hn]
      rfl

theorem deleteBPX_tables (env : Env) (address : ULONG_PTR) (s : Session) :
    TablesStep env s (s.deleteBPX env address).1 := by
  unfold deleteBPX
  cases hfind : s.findSoftware address with
  | none => exact .same rfl
  | some entry =>
    obtain ⟨id, info⟩ := entry
    obtain ⟨hpresent, hkind, -⟩ := findSoftware_eq_some hfind
    dsimp only
    split
    · have hbps : (s.removeMemoryWatchpoint env ⟨address, 1, ACCESS_EXECUTE⟩).1.bps = s.bps := by
        unfold removeMemoryWatchpoint
        split
        · split <;> rfl
        · rfl
      split <;> rename_i hremove <;> rw [hremove] at hbps <;> dsimp only at hbps ⊢
      · refine .same ?_
        unfold recordTables
        rw [hbps]
      · refine .erased id info hpresent hkind ?_
        unfold recordTables
        rw [hbps]
    · have htables : (if info.nativePatch then s.writeNativeBreakpointBytes env info false
          else s.removeBreakpoint2 env info.bp).1.recordTables = s.recordTables := by
        split
        · exact recordTables_writeNativeBreakpointBytes env info false s
        · exact recordTables_of_core (core_removeBreakpoint2 env info.bp s)
      split <;> rename_i hremove <;> rw [hremove] at htables
      · exact .same htables
      · refine .erased id info hpresent hkind ?_
        simp only [recordTables, Prod.mk.injEq] at htables ⊢
        exact ⟨congrArg (·.erase id) htables.1, htables.2⟩

theorem setExecuteBreakPoint_tables (env : Env) (address : ULONG_PTR) {reg : DWORD} (callback : Option Callback)
    (hfree : reg ∉ s.bps.gHardwareBreakpointIds) :
    TablesStep env s (s.setExecuteBreakPoint env address reg callback).1 := by
  unfold setExecuteBreakPoint
  dsimp only
  split
  · exact .skipped rfl
  split
  · exact .skipped rfl
  · rename_i bytes _
    let info : BreakpointInfo :=
      { kind := .hardware, offset := address, hardwareCallback := callback
        hardwareRegister := reg, nativePatch := true, patchSize := 1, patchBytes := #v[0xCC, 0]
        id := s.bps.gNextNativeBreakpointId, originalBytes := loadBytes bytes }
    split <;> rename_i hwrite
    · have htables := congrArg (fun r => r.1.recordTables) hwrite
      rw [recordTables_writeNativeBreakpointBytes] at htables
      exact .skipped htables.symm
    · have htables := congrArg (fun r => r.1.recordTables) hwrite
      rw [recordTables_writeNativeBreakpointBytes] at htables
      simp only [recordTables, Prod.mk.injEq] at htables
      obtain ⟨hb, hh, hn⟩ := htables
      refine .patch info rfl rfl rfl hfree ?_
      unfold recordTables
      dsimp only
      rw [← hb, ← hh, ← hn]
      rfl

theorem setHardwareBreakPoint_tables (env : Env) (address : ULONG_PTR) (index : DWORD) (bpxType bpxSize : ℕ)
    (callback : Option Callback) (s : Session) :
    TablesStep env s (s.setHardwareBreakPoint env address index bpxType bpxSize callback).1 := by
  unfold setHardwareBreakPoint
  dsimp only
  generalize s.chooseRegister index = reg
  split
  · exact .same rfl
  split
  · exact .same rfl
  split
  · exact .same rfl
  split
  · exact .same rfl
  rename_i hused
  have hfree : reg ∉ s.bps.gHardwareBreakpointIds := by simpa using hused
  split
  · exact .same rfl
  · exact .same rfl
  · exact setExecuteBreakPoint_tables env address callback hfree
  · unfold setDataBreakPoint
    split
    · exact .same rfl
    split
    · exact .same rfl
    · rename_i id hid
      let info : BreakpointInfo :=
        { bp := some id, kind := .hardware, offset := address
          hardwareCallback := callback, hardwareRegister := reg, id := id }
      exact .engine info rfl hid rfl hfree rfl

theorem removeHardware_tables (env : Env) (info : BreakpointInfo) (s : Session) :
    (s.removeHardware env info).1.recordTables = s.recordTables := by
  unfold removeHardware
  split
  · have htables := recordTables_writeNativeBreakpointBytes env info false s
    split <;> rename_i hwrite <;> rw [hwrite] at htables <;> exact htables
  · exact recordTables_of_core (core_removeBreakpoint2 env info.bp s)

theorem deleteHardwareBreakPoint_tables (env : Env) (index : DWORD) (s : Session) :
    TablesStep env s (s.deleteHardwareBreakPoint env index).1 := by
  unfold deleteHardwareBreakPoint
  split
  · exact .same rfl
  split
  · exact .same rfl
  cases hslot : s.bps.gHardwareBreakpointIds[index]? with
  | none => exact .same rfl
  | some id =>
    cases hid : s.bps.gBreakpoints[id]? with
    | none =>
      dsimp only
      rw [hid]
      exact .dangling index id hslot hid rfl
    | some info =>
      have htables := removeHardware_tables env info s
      dsimp only
      rw [hid]
      dsimp only
      split <;> rename_i hremove <;> rw [hremove] at htables
      · exact .same htables
      · refine .released index id hslot ?_
        simp only [recordTables, Prod.mk.injEq] at htables ⊢
        exact ⟨congrArg (·.erase id) htables.1, congrArg (·.erase index) htables.2.1, htables.2.2⟩

theorem removeEach_tables (env : Env) (entries : List (ULONG × BreakpointInfo)) (s : Session) :
    (removeEach env entries s).1.recordTables = s.recordTables := by
  induction entries generalizing s with
  | nil => rfl
  | cons entry entries ih =>
    obtain ⟨id, info⟩ := entry
    have htables : (if info.nativePatch then s.writeNativeBreakpointBytes env info false
        else s.removeBreakpoint2 env info.bp).1.recordTables = s.recordTables := by
      split
      · exact recordTables_writeNativeBreakpointBytes env info false s
      · exact recordTables_of_core (core_removeBreakpoint2 env info.bp s)
    simp only [removeEach]
    split <;> rename_i hremove <;> rw [hremove] at htables
    · exact (ih _).trans htables
    · exact htables

theorem removeAllBreakPoints_tables (env : Env) (s : Session) :
    TablesStep env s (s.removeAllBreakPoints env).1 := by
  have hall := recordTables_of_core (core_removeAllMemoryBreakpoints env s)
  unfold removeAllBreakPoints
  split
  · split
    · exact .cleared rfl
    · exact .same rfl
  split <;> rename_i s₁ hs₁ <;> rw [hs₁] at hall
  · exact .same hall
  · have heach := removeEach_tables env s₁.bps.gBreakpoints.toList s₁
    split <;> rename_i s₂ hs₂ <;> rw [hs₂] at heach
    · exact .same (heach.trans hall)
    · have htables := heach.trans hall
      simp only [recordTables, Prod.mk.injEq] at htables
      refine .cleared ?_
      unfold recordTables
      rw [← htables.2.2]

end Session

end TitanEngine

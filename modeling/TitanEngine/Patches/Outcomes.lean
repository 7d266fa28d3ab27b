import TitanEngine.Effects.Traversal

/-! What the calls that set and delete breakpoints do to the records and to the memory
of the target. -/
namespace TitanEngine
open FlatMemory

/-- Reads, writes and flushes of the target's memory succeed. -/
structure Env.MemoryAnswers (env : Env) : Prop where
  reads : env.readProcessMemory = true
  writes : env.writeProcessMemory = true
  flushes : env.flushInstructionCache = true

namespace Session

/-- The tables of records, beside the mode of the session. -/
def records (s : Session) : (TitanSessionKind × Bool × Option (ULONG_PTR × List BYTE)) ×
    Map ULONG BreakpointInfo × Map DWORD ULONG :=
  (s.mode, s.bps.gBreakpoints, s.bps.gHardwareBreakpointIds)

theorem records_of_core {s s' : Session} (h : s'.core = s.core) : s'.records = s.records :=
  field_eq records (fun _ => rfl) h

@[simp] theorem records_withBytes (info : BreakpointInfo) (install : Bool) (s : Session) :
    (s.withBytes info install).records = s.records := rfl

@[simp] theorem records_writeNativeBreakpointBytes (env : Env) (info : BreakpointInfo)
    (install : Bool) (s : Session) :
    (s.writeNativeBreakpointBytes env info install).1.records = s.records := by
  obtain h | ⟨-, ⟨h, -⟩ | h⟩ := writeNativeBreakpointBytes_outcome env info install s
  · rw [h]
    rfl
  · exact records_of_core (s := s.withBytes info install) h
  · exact records_of_core h

/-- `s'` is `s` with one more record, whose patch is in the target. -/
structure Installed (info : BreakpointInfo) (s s' : Session) : Prop where
  native : info.nativePatch = true
  id : info.id = s.bps.gNextNativeBreakpointId
  captured : info.originals = s.target.memory.read info.offset info.patchSize
  user : userRange info.offset info.patchSize = true
  mode : s'.mode = s.mode
  breakpoints : s'.bps.gBreakpoints = s.bps.gBreakpoints.insert info.id info
  memory : s'.target.memory = s.target.memory.write info.offset info.patch

/-- The tables are as before, and so is the memory unless a flush failed. -/
structure Untouched (env : Env) (s s' : Session) : Prop where
  records : s'.records = s.records
  memory : env.flushInstructionCache = true → s'.target.memory = s.target.memory

theorem Untouched.of_core {env : Env} {s s' : Session} (h : s'.core = s.core) : Untouched env s s' :=
  ⟨records_of_core h, fun _ => core_memory h⟩

theorem untouched_writeNativeBreakpointBytes {env : Env} {info : BreakpointInfo} {install : Bool}
    {s s' : Session} (h : s.writeNativeBreakpointBytes env info install = (s', false)) :
    Untouched env s s' := by
  have hrecords := records_writeNativeBreakpointBytes env info install s
  obtain hw | ⟨-, ⟨-, hf⟩ | hw⟩ := writeNativeBreakpointBytes_outcome env info install s
  · rw [h] at hw
    cases hw
  · rw [h] at hrecords
    exact ⟨hrecords, fun hflush => by rw [hf] at hflush; cases hflush⟩
  · rw [h] at hw
    exact Untouched.of_core hw

theorem withBytes_of_writeNativeBreakpointBytes {env : Env} {info : BreakpointInfo} {install : Bool}
    {s s' : Session} (h : s.writeNativeBreakpointBytes env info install = (s', true)) :
    s' = s.withBytes info install := by
  obtain hw | ⟨hw, -⟩ := writeNativeBreakpointBytes_outcome env info install s
  · rw [h] at hw
    cases hw
    rfl
  · rw [h] at hw
    cases hw

theorem readProcessMemory_eq_some {env : Env} {address : ULONG_PTR} {n : ℕ} {s : Session}
    {bytes : List BYTE} (h : s.readProcessMemory env address n = some bytes) :
    bytes = s.target.memory.read address n ∧ userRange address n = true := by
  unfold readProcessMemory at h
  split at h
  · rename_i hread
    simp only [Bool.and_eq_true] at hread
    cases h
    exact ⟨rfl, hread.2⟩
  · cases h

/-- A record whose bytes were just read remembers what the memory holds. -/
theorem originals_loadBytes (info : BreakpointInfo) (m : Memory 64 BYTE) :
    { info with originalBytes := loadBytes (m.read info.offset info.patchSize) }.originals =
      m.read info.offset info.patchSize := by
  have htake := take_loadBytes (m.read info.offset info.patchSize)
    (by rw [length_read]; exact info.patchSize_le)
  rwa [length_read] at htake

theorem installNative_outcome (env : Env) (info : BreakpointInfo) (s : Session) :
    (∃ s', s.installNative env info = (s', none) ∧ Untouched env s s') ∨
      ∃ info' s', s.installNative env info = (s', some info') ∧
        info' = { info with originalBytes := info'.originalBytes, nativePatch := true
                            id := s.bps.gNextNativeBreakpointId, patched := .inl rfl } ∧
        Installed info' s { s' with bps.gBreakpoints := s'.bps.gBreakpoints.insert info'.id info' } ∧
        s'.bps.gBreakpoints = s.bps.gBreakpoints ∧
        s'.bps.gHardwareBreakpointIds = s.bps.gHardwareBreakpointIds := by
  unfold installNative
  split
  · exact .inl ⟨_, rfl, .of_core rfl⟩
  cases hread : s.readProcessMemory env info.offset info.patchSize with
  | none => exact .inl ⟨_, rfl, .of_core rfl⟩
  | some bytes =>
    obtain ⟨rfl, huser⟩ := readProcessMemory_eq_some hread
    dsimp only
    split <;> rename_i hwrite
    · have hs := withBytes_of_writeNativeBreakpointBytes hwrite
      subst hs
      refine .inr ⟨_, _, rfl, rfl, ?_, rfl, rfl⟩
      exact ⟨rfl, rfl, originals_loadBytes info s.target.memory, huser, rfl, rfl, rfl⟩
    · have hun := untouched_writeNativeBreakpointBytes hwrite
      exact .inl ⟨_, rfl, hun.records, hun.memory⟩

theorem findSoftware_eq_some {address : ULONG64} {s : Session} {id : ULONG} {info : BreakpointInfo}
    (h : s.findSoftware address = some (id, info)) :
    s.bps.gBreakpoints[id]? = some info ∧ info.kind = .software ∧ info.offset = address := by
  unfold findSoftware at h
  have hmem := List.mem_of_find?_eq_some h
  have hprop := List.find?_some h
  simp only [Bool.decide_and, Bool.and_eq_true, decide_eq_true_eq] at hprop
  exact ⟨Std.ExtTreeMap.mem_toList_iff_getElem?_eq_some.mp hmem, hprop⟩

theorem findSoftware_eq_none {address : ULONG64} {s : Session} (h : s.findSoftware address = none)
    {id : ULONG} {info : BreakpointInfo} (hid : s.bps.gBreakpoints[id]? = some info)
    (hkind : info.kind = .software) : info.offset ≠ address := by
  unfold findSoftware at h
  rw [List.find?_eq_none] at h
  have hnot := h (id, info) (Std.ExtTreeMap.mem_toList_iff_getElem?_eq_some.mpr hid)
  simp only [Bool.decide_and, Bool.and_eq_true, decide_eq_true_eq] at hnot
  exact fun he => hnot ⟨hkind, he⟩

/-- `s'` is `s` after a successful `SetBPX`. -/
structure SetSoftware (address : ULONG_PTR) (bpxType : DWORD) (s s' : Session) (info : BreakpointInfo) :
    Prop where
  installed : Installed info s s'
  offset : info.offset = address
  kind : info.kind = .software
  type : ∃ type, s.selectBreakpointType bpxType = some type ∧ info.patchSize = type.patchSize
  free : s.findSoftware address = none
  hardware : s'.bps.gHardwareBreakpointIds = s.bps.gHardwareBreakpointIds

theorem setBPX_outcome (env : Env) (address : ULONG_PTR) (bpxType : DWORD)
    (callback : Option Callback) {s : Session} (hlive : s.gSessionKind = .live) :
    (∃ s', s.setBPX env address bpxType callback = (s', false) ∧ Untouched env s s') ∨
      ∃ s' info, s.setBPX env address bpxType callback = (s', true) ∧
        SetSoftware address bpxType s s' info := by
  unfold setBPX
  split
  · exact .inl ⟨_, rfl, .of_core rfl⟩
  split
  · exact .inl ⟨_, rfl, .of_core rfl⟩
  split
  · exact .inl ⟨_, rfl, .of_core rfl⟩
  rename_i hfree
  have hnone : s.findSoftware address = none := by simpa using hfree
  split
  · rename_i httd
    rw [hlive] at httd
    cases httd
  cases htype : s.selectBreakpointType bpxType with
  | none => exact .inl ⟨_, rfl, .of_core rfl⟩
  | some type =>
    dsimp only
    let info : BreakpointInfo :=
      { callback := callback, offset := address, oneShot := bpxType &&& UE_SINGLESHOOT ≠ 0
        nativePatch := true, patchSize := type.patchSize, patchBytes := type.patchBytes
        patchSize_le := type.patchSize_le, patched := .inl rfl, marked := type.marked }
    obtain ⟨s', hinstall, hs'⟩ | ⟨info', s', hinstall, hinfo, hs', -, hhardware⟩ :=
      installNative_outcome env info s
    · simp only [info] at hinstall
      rw [hinstall]
      exact .inl ⟨s', rfl, hs'⟩
    · simp only [info] at hinstall
      rw [hinstall]
      refine .inr ⟨_, info', rfl, ?_⟩
      exact
        { installed := ⟨hs'.native, hs'.id, hs'.captured, hs'.user, hs'.mode, hs'.breakpoints,
            hs'.memory⟩
          offset := by rw [hinfo]
          kind := by rw [hinfo]
          type := ⟨type, htype, by rw [hinfo]⟩
          free := hnone
          hardware := hhardware }

theorem deleteBPX_outcome (env : Env) (address : ULONG_PTR) {s : Session}
    (hlive : s.gSessionKind = .live) :
    (∃ s', s.deleteBPX env address = (s', false) ∧ s'.records = s.records ∧
        (env.flushInstructionCache = true → s'.target.memory = s.target.memory)) ∨
      ∃ s' id info, s.deleteBPX env address = (s', true) ∧ Removed id info s s' ∧
        s.findSoftware address = some (id, info) ∧
        s'.bps.gHardwareBreakpointIds = s.bps.gHardwareBreakpointIds := by
  unfold deleteBPX
  cases hfind : s.findSoftware address with
  | none => exact .inl ⟨_, rfl, rfl, fun _ => rfl⟩
  | some entry =>
    obtain ⟨id, info⟩ := entry
    have hpresent := (findSoftware_eq_some hfind).1
    simp only [hlive, reduceCtorEq, if_false]
    by_cases hnative : info.nativePatch = true
    · simp only [hnative, if_true]
      split <;> rename_i hwrite
      · have hun := untouched_writeNativeBreakpointBytes hwrite
        exact .inl ⟨_, rfl, hun.records, hun.memory⟩
      · have hs := withBytes_of_writeNativeBreakpointBytes hwrite
        subst hs
        refine .inr ⟨_, id, info, rfl, ⟨hpresent, rfl, rfl, ?_⟩, rfl, rfl⟩
        rw [if_pos hnative]
        rfl
    · simp only [hnative]
      cases hremove : s.removeBreakpoint2 env info.bp with
      | mk s' ok =>
        have hcore : s'.core = s.core := by
          have h := core_removeBreakpoint2 env info.bp s
          rwa [hremove] at h
        have hmode : s'.mode = s.mode := core_mode hcore
        have hbreakpoints := core_breakpoints hcore
        have hhardware := core_hardware hcore
        have hmemory := core_memory hcore
        cases ok with
        | false => exact .inl ⟨s', rfl, records_of_core hcore, fun _ => core_memory hcore⟩
        | true =>
          refine .inr ⟨_, id, info, rfl, ⟨hpresent, hmode, ?_, ?_⟩, rfl, hhardware⟩
          · exact congrArg (fun m => m.erase id) hbreakpoints
          · rw [if_neg hnative]
            exact hmemory

/-- `s'` is `s` after a successful `SetHardwareBreakPoint` with `UE_HARDWARE_EXECUTE`. -/
structure SetExecute (address : ULONG_PTR) (s s' : Session) (info : BreakpointInfo) : Prop where
  installed : Installed info s s'
  offset : info.offset = address
  kind : info.kind = .hardware
  size : info.patchSize = 1
  register : info.hardwareRegister ∈ hardwareRegisters
  free : info.hardwareRegister ∉ s.bps.gHardwareBreakpointIds
  hardware : s'.bps.gHardwareBreakpointIds =
    s.bps.gHardwareBreakpointIds.insertIfNew info.hardwareRegister info.id

/-- `s'` is `s` after a successful `SetHardwareBreakPoint` on data. -/
structure SetData (env : Env) (s s' : Session) (info : BreakpointInfo) : Prop where
  engine : env.addBreakpoint = some info.id
  native : info.nativePatch = false
  kind : info.kind = .hardware
  register : info.hardwareRegister ∈ hardwareRegisters
  free : info.hardwareRegister ∉ s.bps.gHardwareBreakpointIds
  mode : s'.mode = s.mode
  memory : s'.target.memory = s.target.memory
  breakpoints : s'.bps.gBreakpoints = s.bps.gBreakpoints.insert info.id info
  hardware : s'.bps.gHardwareBreakpointIds =
    s.bps.gHardwareBreakpointIds.insertIfNew info.hardwareRegister info.id

theorem setExecuteBreakPoint_outcome (env : Env) (address : ULONG_PTR) {reg : DWORD}
    (callback : Option Callback) {s : Session} (hreg : reg ∈ hardwareRegisters)
    (hfree : reg ∉ s.bps.gHardwareBreakpointIds) :
    (∃ s', s.setExecuteBreakPoint env address reg callback = (s', false) ∧ Untouched env s s') ∨
      ∃ s' info, s.setExecuteBreakPoint env address reg callback = (s', true) ∧
        SetExecute address s s' info := by
  unfold setExecuteBreakPoint
  dsimp only
  split
  · exact .inl ⟨_, rfl, rfl, fun _ => rfl⟩
  split
  · exact .inl ⟨_, rfl, rfl, fun _ => rfl⟩
  rename_i bytes hread
  obtain ⟨rfl, huser⟩ := readProcessMemory_eq_some hread
  split <;> rename_i hwrite
  · have hun := untouched_writeNativeBreakpointBytes hwrite
    exact .inl ⟨_, rfl, hun.records, hun.memory⟩
  · have hs := withBytes_of_writeNativeBreakpointBytes hwrite
    subst hs
    let info : BreakpointInfo :=
      { kind := .hardware, offset := address, hardwareCallback := callback, hardwareRegister := reg
        nativePatch := true, patchSize := 1, patchBytes := #v[0xCC, 0]
        id := s.bps.gNextNativeBreakpointId
        originalBytes := loadBytes (s.target.memory.read address 1) }
    refine .inr ⟨_, info, rfl, ?_⟩
    exact
      { installed := ⟨rfl, rfl, originals_loadBytes info s.target.memory, huser, rfl, rfl, rfl⟩
        offset := rfl
        kind := rfl
        size := rfl
        register := hreg
        free := hfree
        hardware := rfl }

theorem setDataBreakPoint_outcome (env : Env) (address : ULONG_PTR) {reg : DWORD} (size : ULONG)
    (callback : Option Callback) {s : Session} (hreg : reg ∈ hardwareRegisters)
    (hfree : reg ∉ s.bps.gHardwareBreakpointIds) :
    (∃ s', s.setDataBreakPoint env address reg size callback = (s', false) ∧ Untouched env s s') ∨
      ∃ s' info, s.setDataBreakPoint env address reg size callback = (s', true) ∧
        SetData env s s' info := by
  unfold setDataBreakPoint
  split
  · exact .inl ⟨_, rfl, .of_core rfl⟩
  split
  · exact .inl ⟨_, rfl, .of_core rfl⟩
  rename_i id hid
  let info : BreakpointInfo :=
    { bp := some id, kind := .hardware, offset := address, hardwareCallback := callback
      hardwareRegister := reg, id := id }
  exact .inr ⟨_, info, rfl, hid, rfl, rfl, hreg, hfree, rfl, rfl, rfl, rfl⟩

theorem setHardwareBreakPoint_outcome (env : Env) (address : ULONG_PTR) (index : DWORD)
    (bpxType bpxSize : ℕ) (callback : Option Callback) (s : Session) :
    (∃ s', s.setHardwareBreakPoint env address index bpxType bpxSize callback = (s', false) ∧
        Untouched env s s') ∨
      (∃ s' info, s.setHardwareBreakPoint env address index bpxType bpxSize callback = (s', true) ∧
        TitanHardwareBreakpointType.ofValue bpxType = some .execute ∧ SetExecute address s s' info) ∨
      ∃ s' info, s.setHardwareBreakPoint env address index bpxType bpxSize callback = (s', true) ∧
        SetData env s s' info := by
  unfold setHardwareBreakPoint
  generalize s.chooseRegister index = reg
  dsimp only
  split
  · exact .inl ⟨_, rfl, .of_core rfl⟩
  split
  · exact .inl ⟨_, rfl, .of_core rfl⟩
  split
  · exact .inl ⟨_, rfl, .of_core rfl⟩
  rename_i hreg
  have hreg : reg ∈ hardwareRegisters := not_not.mp hreg
  split
  · exact .inl ⟨_, rfl, .of_core rfl⟩
  rename_i hfree
  have hfree : reg ∉ s.bps.gHardwareBreakpointIds := by simpa using hfree
  split
  · exact .inl ⟨_, rfl, .of_core rfl⟩
  · exact .inl ⟨_, rfl, .of_core rfl⟩
  · rename_i htype
    obtain h | ⟨s', info, h, hs'⟩ := setExecuteBreakPoint_outcome env address callback hreg hfree
    · exact .inl h
    · exact .inr (.inl ⟨s', info, h, htype, hs'⟩)
  · obtain h | h := setDataBreakPoint_outcome env address _ callback hreg hfree
    · exact .inl h
    · exact .inr (.inr h)

/-- A write that fails leaves an error code, unless it had nothing to do. -/
theorem lastError_writeNativeBreakpointBytes {env : Env} {info : BreakpointInfo} {install : Bool}
    {s s' : Session} (hprocess : s.sessionProcessHandle ≠ 0)
    (h : s.writeNativeBreakpointBytes env info install = (s', false)) :
    info.patchSize = 0 ∧ s' = s ∨ s'.lastError ≠ 0 := by
  unfold writeNativeBreakpointBytes writeProcessMemory at h
  split at h
  · rename_i hor
    cases h
    exact .inl ⟨hor.resolve_left hprocess, rfl⟩
  · right
    generalize (if install = true then info.patch else info.originals) = bytes at h
    by_cases hwrite : (env.writeProcessMemory && userRange info.offset bytes.length) = true
    · by_cases hflush : env.flushInstructionCache = true
      · simp only [hwrite, hflush, if_true] at h
        cases h
      · simp only [hwrite, hflush, if_true] at h
        cases h
        show ERROR_INVALID_HANDLE ≠ 0
        decide
    · simp only [hwrite] at h
      cases h
      show ERROR_NOACCESS ≠ 0
      decide

theorem removeHardware_outcome (env : Env) (info : BreakpointInfo) (s : Session) :
    (∃ s', s.removeHardware env info = (s', false) ∧ Untouched env s s') ∨
      ∃ s', s.removeHardware env info = (s', true) ∧ s'.records = s.records ∧
        (s.sessionProcessHandle ≠ 0 → s'.target.memory =
          if info.nativePatch then s.target.memory.write info.offset info.originals
          else s.target.memory) := by
  unfold removeHardware
  by_cases hnative : info.nativePatch = true
  · simp only [hnative, if_true]
    split <;> rename_i s' hwrite
    · have hs := withBytes_of_writeNativeBreakpointBytes hwrite
      subst hs
      exact .inr ⟨_, rfl, rfl, fun _ => rfl⟩
    · have huntouched := untouched_writeNativeBreakpointBytes hwrite
      by_cases hzero : s'.lastError = 0
      · refine .inr ⟨s', by rw [decide_eq_true hzero], huntouched.records, fun hprocess => ?_⟩
        obtain ⟨hsize, rfl⟩ | herror := lastError_writeNativeBreakpointBytes hprocess hwrite
        · have hnil : info.originals = [] := by
            rw [← List.length_eq_zero_iff, BreakpointInfo.length_originals, hsize]
          rw [hnil, write_nil]
        · exact absurd hzero herror
      · exact .inl ⟨s', by rw [decide_eq_false hzero], huntouched⟩
  · simp only [hnative]
    cases hremove : s.removeBreakpoint2 env info.bp with
    | mk s' ok =>
      have hcore : s'.core = s.core := by
        have h := core_removeBreakpoint2 env info.bp s
        rwa [hremove] at h
      cases ok with
      | false => exact .inl ⟨s', rfl, .of_core hcore⟩
      | true => exact .inr ⟨s', rfl, records_of_core hcore, fun _ => core_memory hcore⟩

/-- A slot whose record is gone is freed by a call that fails. -/
theorem deleteHardwareBreakPoint_outcome (env : Env) (index : DWORD) (s : Session) :
    (∃ s', s.deleteHardwareBreakPoint env index = (s', false) ∧ Untouched env s s') ∨
      (∃ s' id, s.deleteHardwareBreakPoint env index = (s', false) ∧
        s.bps.gHardwareBreakpointIds[index]? = some id ∧ s.bps.gBreakpoints[id]? = none ∧
        s'.records = (s.mode, s.bps.gBreakpoints, s.bps.gHardwareBreakpointIds.erase index) ∧ s'.target.memory = s.target.memory) ∨
      ∃ s' id info, s.deleteHardwareBreakPoint env index = (s', true) ∧
        s.bps.gHardwareBreakpointIds[index]? = some id ∧ s.bps.gBreakpoints[id]? = some info ∧
        s'.records = (s.mode, s.bps.gBreakpoints.erase id,
          s.bps.gHardwareBreakpointIds.erase index) ∧
        (s.sessionProcessHandle ≠ 0 → Removed id info s s') := by
  unfold deleteHardwareBreakPoint
  split
  · exact .inl ⟨_, rfl, .of_core rfl⟩
  split
  · exact .inl ⟨_, rfl, .of_core rfl⟩
  cases hslot : s.bps.gHardwareBreakpointIds[index]? with
  | none => exact .inl ⟨_, rfl, .of_core rfl⟩
  | some id =>
    dsimp only
    cases hrecord : s.bps.gBreakpoints[id]? with
    | none => exact .inr (.inl ⟨_, id, rfl, rfl, hrecord, rfl, rfl⟩)
    | some info =>
      dsimp only
      obtain ⟨s', hremove, hs'⟩ | ⟨s', hremove, hrecords, hmemory⟩ := removeHardware_outcome env info s
      · rw [hremove]
        exact .inl ⟨_, rfl, hs'.records, hs'.memory⟩
      · rw [hremove]
        simp only [records, Prod.mk.injEq] at hrecords
        obtain ⟨hmode, hbreakpoints, hhardware⟩ := hrecords
        have herase : s'.bps.gBreakpoints.erase id = s.bps.gBreakpoints.erase id := by
          rw [hbreakpoints]
        have hslot : s'.bps.gHardwareBreakpointIds.erase index =
            s.bps.gHardwareBreakpointIds.erase index := by
          rw [hhardware]
        refine .inr (.inr ⟨_, id, info, rfl, rfl, hrecord, ?_, ?_⟩)
        · exact congrArg₂ Prod.mk hmode (congrArg₂ Prod.mk herase hslot)
        · exact fun hprocess => ⟨hrecord, hmode, herase, hmemory hprocess⟩

end Session

end TitanEngine

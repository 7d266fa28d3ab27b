import TitanEngine.Patches.Refinement

/-! What every record of a live session satisfies, whatever the run that leads there. -/
namespace TitanEngine
open FlatMemory MapSums Relation

/-- The tables of breakpoint records. A software breakpoint is a patch of the adapter
and the only one at its address, a hardware breakpoint owns its slot, and every patch
lies in the user part of the address space. -/
structure Session.WellFormed (s : Session) : Prop where
  user : ∀ {id : ULONG} {info : BreakpointInfo}, s.bps.gBreakpoints[id]? = some info →
    info.nativePatch = true → userRange info.offset info.patchSize = true
  software : ∀ {id : ULONG} {info : BreakpointInfo}, s.bps.gBreakpoints[id]? = some info →
    info.kind = .software → info.nativePatch = true
  unique : ∀ {id id' : ULONG} {info info' : BreakpointInfo}, s.bps.gBreakpoints[id]? = some info →
    s.bps.gBreakpoints[id']? = some info' → info.kind = .software → info'.kind = .software →
      info.offset = info'.offset → id = id'
  slot : ∀ {id : ULONG} {info : BreakpointInfo}, s.bps.gBreakpoints[id]? = some info →
    info.kind = .hardware → info.hardwareRegister ∈ hardwareRegisters ∧
      s.bps.gHardwareBreakpointIds[info.hardwareRegister]? = some id

namespace Session
variable {s s' : Session}

theorem WellFormed.of_records (h : s.WellFormed) (hrecords : s'.records = s.records) :
    s'.WellFormed := by
  simp only [records, Prod.mk.injEq] at hrecords
  obtain ⟨-, hbreakpoints, hhardware⟩ := hrecords
  constructor
  · rw [hbreakpoints]
    exact h.user
  · rw [hbreakpoints]
    exact h.software
  · rw [hbreakpoints]
    exact h.unique
  · rw [hbreakpoints, hhardware]
    exact h.slot

theorem wellFormed_of_empty (h : s.bps.gBreakpoints = ∅) : s.WellFormed := by
  have hnone : ∀ {id : ULONG} {info : BreakpointInfo}, s.bps.gBreakpoints[id]? ≠ some info := by
    intro id info
    rw [h]
    simp
  exact ⟨fun hid => absurd hid hnone, fun hid => absurd hid hnone, fun hid => absurd hid hnone,
    fun hid => absurd hid hnone⟩

theorem slot_insertIfNew {m : Map DWORD ULONG} {reg reg' : DWORD} {id id' : ULONG}
    (hfree : reg ∉ m) (h : m[reg']? = some id') : (m.insertIfNew reg id)[reg']? = some id' := by
  rw [Std.ExtTreeMap.getElem?_insertIfNew, if_neg]
  · exact h
  · rintro ⟨he, -⟩
    rw [Std.LawfulEqCmp.compare_eq_iff_eq] at he
    subst he
    rw [Std.ExtTreeMap.getElem?_eq_none hfree] at h
    cases h

theorem slot_erase {m : Map DWORD ULONG} {reg reg' : DWORD} {id id' : ULONG}
    (h : m[reg]? = some id) (hne : id' ≠ id) (h' : m[reg']? = some id') :
    (m.erase reg)[reg']? = some id' := by
  rw [Std.ExtTreeMap.getElem?_erase, if_neg]
  · exact h'
  · intro he
    rw [Std.LawfulEqCmp.compare_eq_iff_eq] at he
    subst he
    exact hne (Option.some.inj (h'.symm.trans h))

theorem slot_insertIfNew_self {m : Map DWORD ULONG} {reg : DWORD} {id : ULONG} (hfree : reg ∉ m) :
    (m.insertIfNew reg id)[reg]? = some id := by
  rw [Std.ExtTreeMap.getElem?_insertIfNew, if_pos]
  exact ⟨Std.LawfulEqCmp.compare_eq_iff_eq.mpr rfl, hfree⟩

theorem WellFormed.setSoftware {address : ULONG_PTR} {bpxType : DWORD} {info : BreakpointInfo}
    (h : s.WellFormed) (hset : SetSoftware address bpxType s s' info) : s'.WellFormed := by
  have hb := hset.installed.breakpoints
  constructor
  · intro id i hid hnative
    rw [hb] at hid
    obtain ⟨-, rfl⟩ | ⟨-, hid⟩ := getElem?_insert_cases hid
    · exact hset.installed.user
    · exact h.user hid hnative
  · intro id i hid hkind
    rw [hb] at hid
    obtain ⟨-, rfl⟩ | ⟨-, hid⟩ := getElem?_insert_cases hid
    · exact hset.installed.native
    · exact h.software hid hkind
  · intro id id' i i' hid hid' hkind hkind' hoffset
    rw [hb] at hid hid'
    have hfree : ∀ {id : ULONG} {i : BreakpointInfo}, s.bps.gBreakpoints[id]? = some i →
        i.kind = .software → i.offset ≠ info.offset := by
      intro id i hid hkind
      rw [hset.offset]
      exact findSoftware_eq_none hset.free hid hkind
    obtain ⟨he, hi⟩ | ⟨-, hold⟩ := getElem?_insert_cases hid <;>
      obtain ⟨he', hi'⟩ | ⟨-, hold'⟩ := getElem?_insert_cases hid'
    · rw [he, he']
    · rw [hi] at hoffset
      exact absurd hoffset.symm (hfree hold' hkind')
    · rw [hi'] at hoffset
      exact absurd hoffset (hfree hold hkind)
    · exact h.unique hold hold' hkind hkind' hoffset
  · intro id i hid hkind
    rw [hb] at hid
    rw [hset.hardware]
    obtain ⟨-, rfl⟩ | ⟨-, hid⟩ := getElem?_insert_cases hid
    · rw [hset.kind] at hkind
      cases hkind
    · exact h.slot hid hkind

/-- One more record of a hardware breakpoint, in a slot that was free. -/
theorem WellFormed.setHardware {info : BreakpointInfo} (h : s.WellFormed)
    (hkind : info.kind = .hardware)
    (huser : info.nativePatch = true → userRange info.offset info.patchSize = true)
    (hregister : info.hardwareRegister ∈ hardwareRegisters)
    (hfree : info.hardwareRegister ∉ s.bps.gHardwareBreakpointIds)
    (hb : s'.bps.gBreakpoints = s.bps.gBreakpoints.insert info.id info)
    (hhardware : s'.bps.gHardwareBreakpointIds =
      s.bps.gHardwareBreakpointIds.insertIfNew info.hardwareRegister info.id) : s'.WellFormed := by
  constructor
  · intro id i hid hnative
    rw [hb] at hid
    obtain ⟨-, rfl⟩ | ⟨-, hid⟩ := getElem?_insert_cases hid
    · exact huser hnative
    · exact h.user hid hnative
  · intro id i hid hsoftware
    rw [hb] at hid
    obtain ⟨-, rfl⟩ | ⟨-, hid⟩ := getElem?_insert_cases hid
    · rw [hkind] at hsoftware
      cases hsoftware
    · exact h.software hid hsoftware
  · intro id id' i i' hid hid' hsoftware hsoftware' hoffset
    rw [hb] at hid hid'
    obtain ⟨-, rfl⟩ | ⟨-, hid⟩ := getElem?_insert_cases hid
    · rw [hkind] at hsoftware
      cases hsoftware
    · obtain ⟨-, rfl⟩ | ⟨-, hid'⟩ := getElem?_insert_cases hid'
      · rw [hkind] at hsoftware'
        cases hsoftware'
      · exact h.unique hid hid' hsoftware hsoftware' hoffset
  · intro id i hid hi
    rw [hb] at hid
    rw [hhardware]
    obtain ⟨rfl, rfl⟩ | ⟨-, hid⟩ := getElem?_insert_cases hid
    · exact ⟨hregister, slot_insertIfNew_self hfree⟩
    · obtain ⟨hreg, hslot⟩ := h.slot hid hi
      exact ⟨hreg, slot_insertIfNew hfree hslot⟩

/-- A record is gone; a slot that went with it was its own. -/
theorem WellFormed.erase {id : ULONG} (h : s.WellFormed)
    (hb : s'.bps.gBreakpoints = s.bps.gBreakpoints.erase id)
    (hslot : ∀ {reg : DWORD} {id' : ULONG}, id' ≠ id →
      s.bps.gHardwareBreakpointIds[reg]? = some id' → s'.bps.gHardwareBreakpointIds[reg]? = some id') :
    s'.WellFormed := by
  constructor
  · intro k i hk
    rw [hb] at hk
    exact h.user (getElem?_erase_cases hk).2
  · intro k i hk
    rw [hb] at hk
    exact h.software (getElem?_erase_cases hk).2
  · intro k k' i i' hk hk'
    rw [hb] at hk hk'
    exact h.unique (getElem?_erase_cases hk).2 (getElem?_erase_cases hk').2
  · intro k i hk hkind
    rw [hb] at hk
    obtain ⟨hne, hk⟩ := getElem?_erase_cases hk
    obtain ⟨hreg, hs⟩ := h.slot hk hkind
    exact ⟨hreg, hslot hne hs⟩

/-- The session is live, and so it stays; its tables are well formed, and so they stay. -/
def KeepsRecords (s s' : Session) : Prop := s.Live → s.WellFormed → s'.Live ∧ s'.WellFormed

theorem keepsRecords_of_records (h : s'.records = s.records) : KeepsRecords s s' :=
  fun hlive hwf => ⟨(congrArg Prod.fst h).trans hlive, hwf.of_records h⟩

theorem keepsRecords_of_core (h : s'.core = s.core) : KeepsRecords s s' :=
  keepsRecords_of_records (records_of_core h)

theorem records_of_image (h : s'.image = s.image) : s'.records = s.records :=
  congrArg (fun i : Image => (i.mode, i.bps.gBreakpoints, i.bps.gHardwareBreakpointIds)) h

theorem keepsRecords_of_image (h : s'.image = s.image) : KeepsRecords s s' :=
  keepsRecords_of_records (records_of_image h)

theorem keepsRecords_erase {id : ULONG} (hmode : s'.mode = s.mode)
    (hb : s'.bps.gBreakpoints = s.bps.gBreakpoints.erase id)
    (hhardware : s'.bps.gHardwareBreakpointIds = s.bps.gHardwareBreakpointIds) :
    KeepsRecords s s' := by
  intro hlive hwf
  refine ⟨hmode.trans hlive, hwf.erase hb ?_⟩
  intro reg id' _ hslot
  rwa [hhardware]

theorem keepsRecords_removeAllBreakPoints (env : Env) (s : Session) :
    KeepsRecords s (s.removeAllBreakPoints env).1 := by
  intro hlive hwf
  have hall : KeepsRecords s (s.removeAllMemoryBreakpoints env).1 :=
    keepsRecords_of_core (core_removeAllMemoryBreakpoints env s)
  unfold removeAllBreakPoints
  split
  · split
    · exact ⟨hlive, wellFormed_of_empty rfl⟩
    · exact ⟨hlive, hwf⟩
  split
  · rename_i s₁ hs₁
    rw [hs₁] at hall
    exact hall hlive hwf
  · rename_i s₁ hs₁
    rw [hs₁] at hall
    obtain ⟨hlive₁, hwf₁⟩ := hall hlive hwf
    have heach := records_removeEach env s₁.bps.gBreakpoints.toList s₁
    split <;> rename_i s₂ hs₂ <;> rw [hs₂] at heach
    · exact keepsRecords_of_records heach hlive₁ hwf₁
    · have hlive₂ : s₂.Live := (congrArg Prod.fst heach).trans hlive₁
      exact ⟨hlive₂, wellFormed_of_empty rfl⟩

theorem keepsRecords_memoryWriteSafe (env : Env) (process : HANDLE) (address : ULONG_PTR)
    (buffer : List BYTE) (s : Session) :
    KeepsRecords s (s.memoryWriteSafe env process address buffer).1 := by
  refine keepsRecords_of_records ?_
  unfold memoryWriteSafe
  dsimp only
  repeat' split
  all_goals rfl

theorem keepsRecords_call (env : Env) (call : ApiCall) (s : Session) :
    KeepsRecords s (call.run env s).1 := by
  cases call with
  | setBPX address bpxType callback =>
    intro hlive hwf
    show (s.setBPX env address bpxType callback).1.Live ∧ _
    obtain ⟨s', hcall, hs'⟩ | ⟨s', info, hcall, hs'⟩ :=
      setBPX_outcome env address bpxType callback hlive.kind
    · rw [show ApiCall.run env (.setBPX address bpxType callback) s = _ from hcall, hcall]
      exact keepsRecords_of_records hs'.records hlive hwf
    · rw [show ApiCall.run env (.setBPX address bpxType callback) s = _ from hcall, hcall]
      exact ⟨hs'.installed.mode.trans hlive, hwf.setSoftware hs'⟩
  | deleteBPX address =>
    intro hlive hwf
    obtain ⟨s', hcall, hrecords, -⟩ | ⟨s', id, info, hcall, hs', -, hhardware⟩ :=
      deleteBPX_outcome env address hlive.kind
    · rw [show ApiCall.run env (.deleteBPX address) s = _ from hcall]
      exact keepsRecords_of_records hrecords hlive hwf
    · rw [show ApiCall.run env (.deleteBPX address) s = _ from hcall]
      exact keepsRecords_erase hs'.mode hs'.breakpoints hhardware hlive hwf
  | setBPXOptions type => exact keepsRecords_of_core rfl
  | setHardwareBreakPoint address reg bpxType bpxSize callback =>
    intro hlive hwf
    show (s.setHardwareBreakPoint env address reg bpxType bpxSize callback).1.Live ∧
      (s.setHardwareBreakPoint env address reg bpxType bpxSize callback).1.WellFormed
    obtain ⟨s', hcall, hs'⟩ | ⟨s', info, hcall, -, hs'⟩ | ⟨s', info, hcall, hs'⟩ :=
      setHardwareBreakPoint_outcome env address reg bpxType bpxSize callback s
    · rw [hcall]
      exact keepsRecords_of_records hs'.records hlive hwf
    · rw [hcall]
      exact ⟨hs'.installed.mode.trans hlive, hwf.setHardware hs'.kind (fun _ => hs'.installed.user)
        hs'.register hs'.free hs'.installed.breakpoints hs'.hardware⟩
    · rw [hcall]
      refine ⟨hs'.mode.trans hlive, hwf.setHardware hs'.kind ?_ hs'.register hs'.free
        hs'.breakpoints hs'.hardware⟩
      intro hnative
      rw [hs'.native] at hnative
      cases hnative
  | deleteHardwareBreakPoint reg =>
    intro hlive hwf
    show (s.deleteHardwareBreakPoint env reg).1.Live ∧ (s.deleteHardwareBreakPoint env reg).1.WellFormed
    obtain ⟨s', hcall, hs'⟩ | ⟨s', id, hcall, hslot, hnone, hrecords, -⟩ |
        ⟨s', id, info, hcall, hslot, -, hrecords, -⟩ := deleteHardwareBreakPoint_outcome env reg s
    · rw [hcall]
      exact keepsRecords_of_records hs'.records hlive hwf
    · simp only [records, Prod.mk.injEq] at hrecords
      obtain ⟨hmode, hb, hhardware⟩ := hrecords
      rw [hcall]
      refine ⟨hmode.trans hlive, ?_⟩
      have herase : s.bps.gBreakpoints.erase id = s.bps.gBreakpoints := by
        ext1 k
        rw [Std.ExtTreeMap.getElem?_erase]
        split
        · rename_i he
          rw [← Std.LawfulEqCmp.compare_eq_iff_eq.mp he, hnone]
        · rfl
      refine hwf.erase (hb.trans herase.symm) ?_
      intro reg' id' hne hslot'
      rw [hhardware]
      exact slot_erase hslot hne hslot'
    · simp only [records, Prod.mk.injEq] at hrecords
      obtain ⟨hmode, hb, hhardware⟩ := hrecords
      rw [hcall]
      refine ⟨hmode.trans hlive, hwf.erase hb ?_⟩
      intro reg' id' hne hslot'
      rw [hhardware]
      exact slot_erase hslot hne hslot'
  | removeAllBreakPoints => exact keepsRecords_removeAllBreakPoints env s
  | setMemoryBPXEx => exact keepsRecords_of_core (core_setMemoryBPXEx ..)
  | removeMemoryBPX => exact keepsRecords_of_core (core_removeMemoryBPX ..)
  | memoryReadUnsafe => exact keepsRecords_of_core (core_memoryReadUnsafe ..)
  | memoryReadSafe => exact keepsRecords_of_core (core_memoryReadSafe ..)
  | memoryWriteSafe process address buffer =>
    exact keepsRecords_memoryWriteSafe env process address buffer s
  | memoryProtectSafe => exact keepsRecords_of_core (core_memoryProtectSafe ..)
  | stepInto => exact keepsRecords_of_image (image_debugStep ..)
  | stepOver => exact keepsRecords_of_image (image_debugStep ..)
  | setNextDbgContinueStatus => exact keepsRecords_of_core (core_setNextDbgContinueStatus ..)
  | requestPause => exact keepsRecords_of_image (image_requestPause ..)

theorem closed_keepsRecords (rules : Rules) : Closed rules KeepsRecords where
  refl _ hlive hwf := ⟨hlive, hwf⟩
  trans hab hbc hlive hwf := hbc (hab hlive hwf).1 (hab hlive hwf).2
  core := keepsRecords_of_core
  image := keepsRecords_of_image
  call {env call s} _ := keepsRecords_call env call s
  lift _ _ := keepsRecords_of_records (records_writeNativeBreakpointBytes ..)
  place _ _ := keepsRecords_of_records (records_writeNativeBreakpointBytes ..)
  consume h _ hhardware _ _ := keepsRecords_erase h.mode h.breakpoints hhardware
  expire {env id offset bpInfo s s'} _ _ := by
    unfold expireOneShot
    split
    · split
      · split
        · exact keepsRecords_erase rfl rfl rfl
        · exact keepsRecords_of_core rfl
      · exact keepsRecords_of_core rfl
    · exact keepsRecords_of_core rfl
  target _ hlive hwf := ⟨hlive, hwf.of_records rfl⟩
  stop env events s := by
    have hrecords := records_of_image (image_recogniseStop env { s with gCallbackQueue := events })
    exact keepsRecords_of_records hrecords
  resume env s := by
    have hrecords := records_of_image (image_applyExecutionStatus env s)
    exact keepsRecords_of_records hrecords

theorem wellFormed_of_run {rules : Rules} (hblind : rules.QueueBlind) (hlive : s.Live)
    (hnone : s.bps.gBreakpoints = ∅) (hrun : Run rules s s') : s'.Live ∧ s'.WellFormed :=
  (closed_keepsRecords rules).run hblind hrun hlive (wellFormed_of_empty hnone)

end Session

end TitanEngine

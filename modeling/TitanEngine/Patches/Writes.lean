import TitanEngine.Effects.Frame
import TitanEngine.Patches.Reads

/-! Whether what the client writes outlives the breakpoints that its bytes lie under. -/
namespace TitanEngine
open FlatMemory MapSums Relation

/-- Calls that set no patch and write no memory, with memory answered for and the
process there. -/
def removalRules : Rules where
  call env call s := env.MemoryAnswers ∧ s.sessionProcessHandle ≠ 0 ∧ call.patchRange s = none ∧
    call.writesMemory = false
  work _ _ _ := False
  target _ _ := False

/-- A call of the client, in or out of a callback, or the hit of a breakpoint. -/
inductive RemovalStep : Session → Session → Prop
  | call {s s'} (step : CallStep removalRules s s') : RemovalStep s s'
  | hit {s k env info} (answers : env.MemoryAnswers) (follows : k.Follows removalRules)
      (code : info.code = EXCEPTION_BREAKPOINT ∨ info.code = EXCEPTION_ILLEGAL_INSTRUCTION) :
      RemovalStep s (s.exceptionEvent k env info).1

namespace Session

/-- The target holds `buffer`, and reads of the client give it. -/
def Holds (address : ULONG_PTR) (buffer : List BYTE) (s : Session) : Prop :=
  s.target.memory.read address buffer.length = buffer ∧
    ∀ env process, ReadsProcess env process s →
      (s.memoryReadSafe env process address buffer.length).2 = some buffer

/-- Every record that meets the range remembers the bytes of `buffer` there. -/
def Remembers (address : ULONG_PTR) (buffer : List BYTE) (s : Session) : Prop :=
  ∀ {id : ULONG} {info : BreakpointInfo}, s.bps.gBreakpoints[id]? = some info →
    info.nativePatch = true → ∀ {x : ULONG_PTR} {b b' : BYTE},
      cell info.offset info.originals x = some b → cell address buffer x = some b' → b = b'

/-- The target holds `buffer`, and no record remembers anything else. -/
structure Written (address : ULONG_PTR) (buffer : List BYTE) (s : Session) : Prop where
  live : s.Live
  paused : s.gPaused = true
  memory : ∀ {x : ULONG_PTR} {b : BYTE}, cell address buffer x = some b → s.target.memory x = b
  remembers : s.Remembers address buffer

variable {address : ULONG_PTR} {buffer : List BYTE} {s s' : Session}

theorem Written.holds (h : s.Written address buffer) (hwf : s.WellFormed)
    (huser : userRange address buffer.length = true) : s.Holds address buffer := by
  have hrange := (toNat_of_userRange huser).2
  have hmemory : s.target.memory.read address buffer.length = buffer :=
    (read_eq_list_iff _ address (by omega)).mpr fun _ _ hb => h.memory hb
  refine ⟨hmemory, fun env process hreads => ?_⟩
  have huserRecords : ∀ entry ∈ s.bps.gBreakpoints.toList, entry.2.nativePatch = true →
      userRange entry.2.offset entry.2.patchSize = true :=
    fun entry hmem hnative => hwf.user (mem_toList.mp hmem) hnative
  rw [memoryReadSafe_eq h.live h.paused hreads huser, hmemory]
  congr 1
  have hlength := length_filtered s.bps.gBreakpoints.toList buffer huser huserRecords
  rw [eq_iff_cell (a := address) hlength (by rw [hlength]; omega), hlength]
  intro x hx
  obtain ⟨entry, hmem, hhidden, hcell⟩ | ⟨-, hcell⟩ := cell_filtered _ buffer huser huserRecords hx
  · have hin : InRange entry.2.offset entry.2.originals.length x := by
      rw [BreakpointInfo.length_originals]
      exact hhidden.2.2
    obtain ⟨b, hb⟩ := Option.isSome_iff_exists.mp (isSome_cell_iff.mpr hin)
    obtain ⟨b', hb'⟩ := Option.isSome_iff_exists.mp (isSome_cell_iff.mpr hx)
    rw [hcell, hb, hb', h.remembers (mem_toList.mp hmem) hhidden.2.1 hb hb']
  · exact hcell

theorem Written.of_eq (h : s.Written address buffer) (hrecords : s'.records = s.records)
    (hpaused : s'.gPaused = s.gPaused) (hmemory : s'.target.memory = s.target.memory) :
    s'.Written address buffer := by
  simp only [records, Prod.mk.injEq] at hrecords
  obtain ⟨hmode, hb, -⟩ := hrecords
  refine ⟨hmode.trans h.live, hpaused.trans h.paused, ?_, ?_⟩
  · rw [hmemory]
    exact h.memory
  · intro id info hid
    rw [hb] at hid
    exact h.remembers hid

/-- Putting back what a record remembers does not touch `buffer`. -/
theorem Written.memory_write (h : s.Written address buffer) {id : ULONG} {info : BreakpointInfo}
    (hid : s.bps.gBreakpoints[id]? = some info) (hnative : info.nativePatch = true) {x : ULONG_PTR}
    {b : BYTE} (hb : cell address buffer x = some b) :
    s.target.memory.write info.offset info.originals x = b := by
  cases hc : cell info.offset info.originals x with
  | some b' =>
    rw [write_of_cell _ hc]
    exact h.remembers hid hnative hc hb
  | none =>
    rw [write_of_not_inRange _ (cell_eq_none_iff.mp hc)]
    exact h.memory hb

theorem Written.removed (h : s.Written address buffer) {id : ULONG} {info : BreakpointInfo}
    (hremoved : Removed id info s s') (hpaused : s'.gPaused = s.gPaused) :
    s'.Written address buffer := by
  refine ⟨hremoved.mode.trans h.live, hpaused.trans h.paused, ?_, ?_⟩
  · intro x b hb
    rw [hremoved.memory]
    split
    · rename_i hnative
      exact h.memory_write hremoved.present hnative hb
    · exact h.memory hb
  · intro k i hk
    rw [hremoved.breakpoints] at hk
    exact h.remembers (getElem?_erase_cases hk).2

theorem Written.writeNativeBreakpointBytes (h : s.Written address buffer) (env : Env) {id : ULONG}
    {info : BreakpointInfo} (hid : s.bps.gBreakpoints[id]? = some info)
    (hnative : info.nativePatch = true) :
    (s.writeNativeBreakpointBytes env info false).1.Written address buffer := by
  have hwith : (s.withBytes info false).Written address buffer :=
    ⟨h.live, h.paused, fun hb => h.memory_write hid hnative hb, h.remembers⟩
  obtain hw | ⟨-, ⟨hw, -⟩ | hw⟩ := writeNativeBreakpointBytes_outcome env info false s
  · rw [hw]
    exact hwith
  · exact hwith.of_eq (records_of_core hw) (core_paused hw) (core_memory hw)
  · exact h.of_eq (records_of_core hw) (core_paused hw) (core_memory hw)

theorem Written.removeEach (env : Env) (entries : List (ULONG × BreakpointInfo))
    (h : s.Written address buffer)
    (hentries : ∀ entry ∈ entries, s.bps.gBreakpoints[entry.1]? = some entry.2) :
    (Session.removeEach env entries s).1.Written address buffer := by
  induction entries generalizing s with
  | nil => exact h
  | cons entry entries ih =>
    obtain ⟨id, info⟩ := entry
    have hid := hentries (id, info) (List.mem_cons_self ..)
    have hstep : (if info.nativePatch then s.writeNativeBreakpointBytes env info false
        else s.removeBreakpoint2 env info.bp).1.Written address buffer := by
      split
      · rename_i hnative
        exact h.writeNativeBreakpointBytes env hid hnative
      · have hcore := core_removeBreakpoint2 env info.bp s
        exact h.of_eq (records_of_core hcore) (core_paused hcore) (core_memory hcore)
    have hb : (if info.nativePatch then s.writeNativeBreakpointBytes env info false
        else s.removeBreakpoint2 env info.bp).1.bps.gBreakpoints = s.bps.gBreakpoints := by
      split
      · exact congrArg (fun r => r.2.1) (records_writeNativeBreakpointBytes env info false s)
      · exact core_breakpoints (core_removeBreakpoint2 ..)
    simp only [Session.removeEach]
    split <;> rename_i heq <;> rw [heq] at hstep hb
    · refine ih hstep fun entry hmem => ?_
      rw [hb]
      exact hentries entry (List.mem_cons_of_mem _ hmem)
    · exact hstep

theorem Written.removeAllBreakPoints (env : Env) (h : s.Written address buffer) :
    (s.removeAllBreakPoints env).1.Written address buffer := by
  have hcore := core_removeAllMemoryBreakpoints env s
  have hall : (s.removeAllMemoryBreakpoints env).1.Written address buffer :=
    h.of_eq (records_of_core hcore) (core_paused hcore) (core_memory hcore)
  unfold Session.removeAllBreakPoints
  split
  · simp only [h.live.debugging, Bool.not_true, Bool.false_eq_true, if_false]
    exact h
  split <;> rename_i s₁ hs₁ <;> rw [hs₁] at hall
  · exact hall
  have heach := Written.removeEach env s₁.bps.gBreakpoints.toList hall fun entry hmem =>
    mem_toList.mp hmem
  split <;> rename_i s₂ hs₂ <;> rw [hs₂] at heach
  · exact heach
  · refine ⟨heach.live, heach.paused, heach.memory, ?_⟩
    intro id info hid
    exact absurd hid (by simp)

theorem Written.call {env : Env} {call : ApiCall} (hrule : removalRules.call env call s)
    (h : s.Written address buffer) : (call.run env s).1.Written address buffer := by
  obtain ⟨hanswers, hprocess, hpatch, hwrites⟩ := hrule
  have hpaused := roster_paused (roster_call env call s)
  have hcore : ∀ {s' : Session}, s'.core = s.core → s'.Written address buffer := fun hc =>
    h.of_eq (records_of_core hc) (core_paused hc) (core_memory hc)
  have himage : ∀ {s' : Session}, s'.image = s.image → s'.Written address buffer := fun hi =>
    h.of_eq (records_of_image hi) (congrArg Image.paused hi) (congrArg Image.memory hi)
  cases call with
  | setBPX a bpxType callback =>
    obtain ⟨s', hcall, hs'⟩ | ⟨s', info, -, hs'⟩ := setBPX_outcome env a bpxType callback h.live.kind
    · rw [show ApiCall.run env (.setBPX a bpxType callback) s = _ from hcall] at hpaused ⊢
      exact h.of_eq hs'.records hpaused (hs'.memory hanswers.flushes)
    · obtain ⟨type, htype, -⟩ := hs'.type
      simp only [ApiCall.patchRange, htype, Option.map_some] at hpatch
      cases hpatch
  | deleteBPX a =>
    obtain ⟨s', hcall, hrecords, hmemory⟩ | ⟨s', id, info, hcall, hs', -⟩ :=
      deleteBPX_outcome env a h.live.kind
    · rw [show ApiCall.run env (.deleteBPX a) s = _ from hcall] at hpaused ⊢
      exact h.of_eq hrecords hpaused (hmemory hanswers.flushes)
    · rw [show ApiCall.run env (.deleteBPX a) s = _ from hcall] at hpaused ⊢
      exact h.removed hs' hpaused
  | setBPXOptions type => exact hcore rfl
  | setHardwareBreakPoint a reg bpxType bpxSize callback =>
    have hrun : ApiCall.run env (.setHardwareBreakPoint a reg bpxType bpxSize callback) s =
        s.setHardwareBreakPoint env a reg bpxType bpxSize callback := rfl
    rw [hrun] at hpaused ⊢
    obtain ⟨s', hcall, hs'⟩ | ⟨s', info, hcall, htype, -⟩ | ⟨s', info, hcall, hs'⟩ :=
      setHardwareBreakPoint_outcome env a reg bpxType bpxSize callback s
    · rw [hcall] at hpaused ⊢
      exact h.of_eq hs'.records hpaused (hs'.memory hanswers.flushes)
    · simp only [ApiCall.patchRange, htype, if_true] at hpatch
      cases hpatch
    · rw [hcall] at hpaused ⊢
      refine ⟨hs'.mode.trans h.live, hpaused.trans h.paused, ?_, ?_⟩
      · rw [hs'.memory]
        exact h.memory
      · intro id i hid hnative
        rw [hs'.breakpoints] at hid
        obtain ⟨-, rfl⟩ | ⟨-, hid⟩ := getElem?_insert_cases hid
        · rw [hs'.native] at hnative
          cases hnative
        · exact h.remembers hid hnative
  | deleteHardwareBreakPoint reg =>
    have hrun : ApiCall.run env (.deleteHardwareBreakPoint reg) s =
        s.deleteHardwareBreakPoint env reg := rfl
    rw [hrun] at hpaused ⊢
    obtain ⟨s', hcall, hs'⟩ | ⟨s', id, hcall, -, -, hrecords, hmemory⟩ |
        ⟨s', id, info, hcall, -, -, -, hs'⟩ := deleteHardwareBreakPoint_outcome env reg s
    · rw [hcall] at hpaused ⊢
      exact h.of_eq hs'.records hpaused (hs'.memory hanswers.flushes)
    · rw [hcall] at hpaused ⊢
      simp only [records, Prod.mk.injEq] at hrecords
      obtain ⟨hmode, hb, -⟩ := hrecords
      refine ⟨hmode.trans h.live, hpaused.trans h.paused, ?_, ?_⟩
      · rw [hmemory]
        exact h.memory
      · intro id info hid
        rw [hb] at hid
        exact h.remembers hid
    · rw [hcall] at hpaused ⊢
      exact h.removed (hs' hprocess) hpaused
  | removeAllBreakPoints => exact h.removeAllBreakPoints env
  | setMemoryBPXEx => exact hcore (core_setMemoryBPXEx ..)
  | removeMemoryBPX => exact hcore (core_removeMemoryBPX ..)
  | memoryReadUnsafe => exact hcore (core_memoryReadUnsafe ..)
  | memoryReadSafe => exact hcore (core_memoryReadSafe ..)
  | memoryWriteSafe => cases hwrites
  | memoryProtectSafe => exact hcore (core_memoryProtectSafe ..)
  | stepInto => exact himage (image_debugStep ..)
  | stepOver => exact himage (image_debugStep ..)
  | setNextDbgContinueStatus => exact hcore (core_setNextDbgContinueStatus ..)
  | requestPause => exact himage (image_requestPause ..)

theorem hitClosed_written (address : ULONG_PTR) (buffer : List BYTE) :
    HitClosed removalRules fun s s' => s.Written address buffer → s'.Written address buffer where
  refl _ h := h
  trans hab hbc h := hbc (hab h)
  core hc h := h.of_eq (records_of_core hc) (core_paused hc) (core_memory hc)
  image hi h := h.of_eq (records_of_image hi) (congrArg Image.paused hi) (congrArg Image.memory hi)
  call hrule h := h.call hrule
  lift hid hnative h := h.writeNativeBreakpointBytes _ hid hnative
  consume hremoved hpaused _ _ _ h := h.removed hremoved hpaused

/-- What removals keep: `buffer` stays written, and the tables well formed. -/
theorem Written.removals (h : s.Written address buffer) (hwf : s.WellFormed)
    (hrun : ReflTransGen RemovalStep s s') : s'.Written address buffer ∧ s'.WellFormed := by
  have hwritten := hitClosed_written address buffer
  have hrecords := (closed_keepsRecords removalRules).toHitClosed
  induction hrun with
  | refl => exact ⟨h, hwf⟩
  | tail _ hstep ih =>
    obtain ⟨h, hwf⟩ := ih
    cases hstep with
    | call step => exact ⟨hwritten.effectClosed.callStep step h, (hrecords.effectClosed.callStep step h.live hwf).2⟩
    | hit answers follows code =>
      exact ⟨hwritten.breakpointException follows _ code _ h,
        (hrecords.breakpointException follows _ code _ h.live hwf).2⟩

/-- The session with another memory of the target. -/
def withMemory (m : Memory 64 BYTE) (s : Session) : Session := { s with target.memory := m }

/-- A write of the client that succeeds wrote all of its bytes. -/
theorem memoryWriteSafe_eq_true {env : Env} {process : HANDLE} (hlive : s.Live)
    (h : (s.memoryWriteSafe env process address buffer).2 = true) :
    s.gPaused = true ∧ userRange address buffer.length = true ∧
      (s.memoryWriteSafe env process address buffer).1 =
        s.withMemory (s.target.memory.write address buffer) := by
  unfold memoryWriteSafe at h ⊢
  split at h
  · cases h
  rename_i hargs
  split at h
  · cases h
  rename_i hlock
  have hpaused : s.gPaused = true := by
    simp only [pauseLock, hlive.debugging, Bool.and_true, Bool.not_eq_true, Bool.not_eq_false'] at hlock
    exact hlock
  have hkind : ¬ (s.gSessionKind = .minidump ∨ s.gSessionKind = .ttd) := by simp [hlive.kind]
  rw [if_neg hkind] at h
  rw [if_neg hargs, if_neg hlock, if_neg hkind]
  split at h
  · rename_i written hwritten
    dsimp only at h
    split at h
    · rename_i huser
      have hall : buffer.take written = buffer := by
        apply List.take_of_length_le
        have hlength := of_decide_eq_true h
        rw [List.length_take] at hlength
        omega
      rw [hall] at huser
      dsimp only
      rw [hall, if_pos huser]
      exact ⟨hpaused, huser, rfl⟩
    · cases h
  · cases h

theorem writeNativeBreakpointBytes_eq {env : Env} (hanswers : env.MemoryAnswers)
    {info : BreakpointInfo} (install : Bool) (hprocess : s.sessionProcessHandle ≠ 0)
    (hsize : info.patchSize ≠ 0) (huser : userRange info.offset info.patchSize = true) :
    s.writeNativeBreakpointBytes env info install = (s.withBytes info install, true) := by
  have hlength : (if install then info.patch else info.originals).length = info.patchSize := by
    split
    · exact info.length_patch
    · exact info.length_originals
  unfold writeNativeBreakpointBytes writeProcessMemory
  rw [if_neg (not_or.mpr ⟨hprocess, hsize⟩), hlength, hanswers.writes, huser]
  simp only [hanswers.flushes, Bool.and_self, if_true]
  rfl

/-- Every patch of the tables can be deleted, and what the record remembers comes back. -/
theorem exists_delete {id : ULONG} {info : BreakpointInfo} (hlive : s.Live) (hpaused : s.gPaused = true)
    (hwf : s.WellFormed) (hprocess : s.sessionProcessHandle ≠ 0)
    (hid : s.bps.gBreakpoints[id]? = some info) (hnative : info.nativePatch = true)
    (hsize : info.patchSize ≠ 0) :
    ∃ call, removalRules.call {} call s ∧
      (call.run {} s).1.target.memory = s.target.memory.write info.offset info.originals := by
  have hanswers : Env.MemoryAnswers {} := ⟨rfl, rfl, rfl⟩
  have hwrite := writeNativeBreakpointBytes_eq hanswers false hprocess hsize (hwf.user hid hnative)
  cases hkind : info.kind with
  | software =>
    refine ⟨.deleteBPX info.offset, ⟨hanswers, hprocess, rfl, rfl⟩, ?_⟩
    have hfind : s.findSoftware info.offset = some (id, info) := by
      cases hfound : s.findSoftware info.offset with
      | none => exact absurd rfl (findSoftware_eq_none hfound hid hkind)
      | some entry =>
        obtain ⟨hid', hkind', hoffset⟩ := findSoftware_eq_some hfound
        have he := hwf.unique hid' hid hkind' hkind hoffset
        rw [he, hid] at hid'
        exact congrArg some (Prod.ext he (Option.some.inj hid').symm)
    show (s.deleteBPX {} info.offset).1.target.memory = _
    unfold deleteBPX
    rw [hfind]
    simp only [hlive.kind, reduceCtorEq, if_false, hnative, if_true, hwrite]
    rfl
  | hardware =>
    obtain ⟨hregister, hslot⟩ := hwf.slot hid hkind
    refine ⟨.deleteHardwareBreakPoint info.hardwareRegister, ⟨hanswers, hprocess, rfl, rfl⟩, ?_⟩
    have hlock : s.pauseLock = true := by
      rw [pauseLock, hpaused, hlive.debugging]
      rfl
    have hremove : s.removeHardware {} info =
        ({ s.withBytes info false with bps.gRetiredBreakpointAddresses :=
            s.bps.gRetiredBreakpointAddresses.insert info.offset }, true) := by
      unfold removeHardware
      rw [if_pos hnative, hwrite]
      rfl
    show (s.deleteHardwareBreakPoint {} info.hardwareRegister).1.target.memory = _
    unfold deleteHardwareBreakPoint
    rw [if_neg (not_not.mpr hregister), hlock]
    simp only [Bool.not_true, Bool.false_eq_true, if_false, hslot, hid, hremove]
    rfl

end Session

/-- What a client wrote stays written and readable, whatever breakpoints go or are hit, iff
the records under it remembered just that before. -/
theorem client_write_kept_iff {s₀ s : Session} (hlive : s₀.Live) (hempty : s₀.bps.gBreakpoints = ∅)
    (hrun : Run anyRules s₀ s) (hprocess : s.sessionProcessHandle ≠ 0) {env : Env} {process : HANDLE}
    {address : ULONG_PTR} {buffer : List BYTE}
    (hwrite : (s.memoryWriteSafe env process address buffer).2 = true) :
    (∀ s', ReflTransGen RemovalStep (s.memoryWriteSafe env process address buffer).1 s' →
      s'.Holds address buffer) ↔ s.Remembers address buffer := by
  have hblind : anyRules.QueueBlind := fun _ _ _ _ _ => trivial
  obtain ⟨hlive, hwf⟩ := Session.wellFormed_of_run hblind hlive hempty hrun
  obtain ⟨hpaused, huser, hs₁⟩ := Session.memoryWriteSafe_eq_true hlive hwrite
  rw [hs₁]
  have hwf₁ : (s.withMemory (s.target.memory.write address buffer)).WellFormed := hwf.of_records rfl
  have hlive₁ : (s.withMemory (s.target.memory.write address buffer)).Live := hlive
  constructor
  · intro hholds id info hid hnative x b b' hb hb'
    have hin := inRange_of_cell hb
    rw [BreakpointInfo.length_originals] at hin
    have hsize : info.patchSize ≠ 0 := Nat.ne_of_gt (Nat.zero_lt_of_lt hin)
    obtain ⟨call, hcall, hmemory⟩ :=
      Session.exists_delete hlive₁ hpaused hwf₁ hprocess hid hnative hsize
    have hread := (hholds _ (.single (.call (.call hcall)))).1
    have hrange := (Session.toNat_of_userRange huser).2
    have hbyte := (read_eq_list_iff _ address (by omega)).mp hread x b' hb'
    rwa [hmemory, write_of_cell _ hb] at hbyte
  · intro hremembers s' hrun'
    have hwritten : (s.withMemory (s.target.memory.write address buffer)).Written address buffer :=
      ⟨hlive, hpaused, fun hb => write_of_cell _ hb, hremembers⟩
    obtain ⟨hwritten', hwf'⟩ := hwritten.removals hwf₁ hrun'
    exact hwritten'.holds hwf' huser

theorem run_softwareSession : Run anyRules freshSession softwareSession :=
  .single (.call (show CallStep anyRules freshSession
    (ApiCall.run {} (.setBPX 0x401000 0 (some 1)) freshSession).1 from .call trivial))

theorem client_write_kept_iff_software :
    (ApiCall.run {} (.deleteBPX 0x401000)
      (softwareSession.memoryWriteSafe {} 0x100 0x400FFF [0x90, 0, 0x90]).1).1.Holds 0x400FFF
        [0x90, 0, 0x90] := by
  have hrecord : ∀ entry ∈ softwareSession.bps.gBreakpoints.toList,
      entry.2.offset = 0x401000 ∧ entry.2.originals = [0] := by decide
  have hremoval : ReflTransGen RemovalStep
      (softwareSession.memoryWriteSafe {} 0x100 0x400FFF [0x90, 0, 0x90]).1
      (ApiCall.run {} (.deleteBPX 0x401000)
        (softwareSession.memoryWriteSafe {} 0x100 0x400FFF [0x90, 0, 0x90]).1).1 :=
    .single (.call (.call ⟨⟨rfl, rfl, rfl⟩, by decide, rfl, rfl⟩))
  refine (client_write_kept_iff (show freshSession.Live from rfl) rfl run_softwareSession (by decide)
    (by decide)).mpr (fun {id info} hid _ {x b b'} hb hb' => ?_) _ hremoval
  obtain ⟨hoffset, horiginals⟩ := hrecord (id, info) (Session.mem_toList.mpr hid)
  dsimp only at hoffset horiginals
  rw [hoffset, horiginals] at hb
  obtain rfl := inRange_one_iff.mp (inRange_of_cell hb)
  exact Option.some.inj (hb.symm.trans hb')

/-- A byte written under a breakpoint is hidden by the record, which remembers another. -/
theorem client_write_not_kept :
    ¬ ∀ (s₀ s : Session) (env : Env) (process : HANDLE) (address : ULONG_PTR) (buffer : List BYTE),
      s₀.Live → s₀.bps.gBreakpoints = ∅ → Run anyRules s₀ s → s.sessionProcessHandle ≠ 0 →
      (s.memoryWriteSafe env process address buffer).2 = true →
      ∀ s', ReflTransGen RemovalStep (s.memoryWriteSafe env process address buffer).1 s' →
        s'.Holds address buffer := by
  intro hclaim
  have hholds := hclaim freshSession softwareSession {} 0x100 0x401000 [0x90]
    (show freshSession.Live from rfl) rfl run_softwareSession (by decide) (by decide) _ .refl
  have hread := hholds.2 {} 0x100 ⟨⟨rfl, rfl, rfl⟩, by decide, fun _ h => h⟩
  exact absurd hread (by decide)

end TitanEngine

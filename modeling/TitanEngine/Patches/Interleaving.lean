import TitanEngine.Patches.Reads

/-! A read of a client in its two passes, with sets and deletes of other threads before, between
and after them. -/
namespace TitanEngine
open FlatMemory MapSums Relation

/-- A set or a delete of a software breakpoint. The patch of a set flushes, takes an id that no
record has, and overlaps no record. -/
def ApiCall.Changes (env : Env) (s : Session) : ApiCall → Prop
  | .setBPX address bpxType _ =>
    env.flushInstructionCache = true ∧ s.bps.gNextNativeBreakpointId ∉ s.bps.gBreakpoints ∧
      ∀ type, s.selectBreakpointType bpxType = some type →
        ∀ (id : ULONG) (info : BreakpointInfo), s.bps.gBreakpoints[id]? = some info →
          ∀ x, InRange address type.patchSize x → ¬ InRange info.offset info.patchSize x
  | .deleteBPX _ => True
  | _ => False

def changeRules : Rules where
  call env call s := call.Changes env s
  work _ _ _ := False
  target _ _ := False

namespace Session
variable {m₀ : Memory 64 BYTE} {s s' : Session}

/-- The second pass of `MemoryReadSafe`, over the raw bytes of the first. -/
def hidePatches (start : ULONG_PTR) (buffer : List BYTE) (s : Session) : Option (List BYTE) :=
  if !s.pauseLock then none else some (filtered start s.bps.gBreakpoints.toList buffer)

/-- With nothing between its passes, a read is what `MemoryReadSafe` does. -/
theorem memoryReadSafe_passes (env : Env) (process : HANDLE) (address : ULONG_PTR) (n : ℕ) (s : Session) :
    (s.memoryReadSafe env process address n).2 =
      (s.memoryReadUnsafe env process address n).2.bind fun buffer =>
        (s.memoryReadUnsafe env process address n).1.hidePatches address buffer := by
  unfold memoryReadSafe hidePatches
  split <;> rename_i hread <;> rw [hread]
  · rfl
  · rw [Option.bind_some]
    split <;> rfl

/-- At `x` stands a byte of a patch, other than the one that its record remembers. -/
def Exposes (s : Session) (x : ULONG_PTR) : Prop :=
  ∃ (id : ULONG) (info : BreakpointInfo) (b : BYTE), s.bps.gBreakpoints[id]? = some info ∧ HiddenBy info x ∧
    cell info.offset info.originals x = some b ∧ s.target.memory x ≠ b

/-- Some record has its original byte put back at `x`. -/
def Hides (s : Session) (x : ULONG_PTR) : Prop :=
  ∃ (id : ULONG) (info : BreakpointInfo), s.bps.gBreakpoints[id]? = some info ∧ HiddenBy info x

/-- Software breakpoints alone, whose records remember `m₀`. -/
structure SoftwareOver (m₀ : Memory 64 BYTE) (s : Session) : Prop where
  live : s.Live
  software : ∀ (id : ULONG) (info : BreakpointInfo), s.bps.gBreakpoints[id]? = some info →
    info.kind = .software ∧ info.nativePatch = true ∧ userRange info.offset info.patchSize = true
  sound : Patching.Sound m₀ Set.univ s.patches

theorem SoftwareOver.of_records (h : SoftwareOver m₀ s) (hrecords : s'.records = s.records)
    (hsound : Patching.Sound m₀ Set.univ s'.patches) : SoftwareOver m₀ s' := by
  simp only [records, Prod.mk.injEq] at hrecords
  obtain ⟨hmode, hbreakpoints, -⟩ := hrecords
  refine ⟨hmode.trans h.live, ?_, hsound⟩
  rw [hbreakpoints]
  exact h.software

theorem SoftwareOver.of_core (h : SoftwareOver m₀ s) (hcore : s'.core = s.core) : SoftwareOver m₀ s' := by
  apply h.of_records (records_of_core hcore)
  rw [patches_of_core hcore]
  exact h.sound

/-- A patch that overlaps no record finds pristine bytes. -/
theorem SoftwareOver.pristine (h : SoftwareOver m₀ s) {address : ULONG_PTR} {size : ℕ}
    (happart : ∀ (id : ULONG) (info : BreakpointInfo), s.bps.gBreakpoints[id]? = some info →
      ∀ x, InRange address size x → ¬ InRange info.offset info.patchSize x) :
    s.Pristine m₀ Set.univ address size := by
  intro x hx
  refine ⟨trivial, h.sound.rest x trivial ?_⟩
  rintro ⟨id, p, hp, hcovers⟩
  obtain ⟨info, hid, hnative, rfl⟩ := patchOf_eq_some hp
  apply happart id info hid x hx
  have hin : InRange info.offset info.originals.length x := hcovers
  rwa [BreakpointInfo.length_originals] at hin

/-- A delete removes its record, or leaves all records while the patch of one may be lifted. -/
theorem softwareOver_deleteBPX (env : Env) (address : ULONG_PTR) (h : SoftwareOver m₀ s) :
    SoftwareOver m₀ (s.deleteBPX env address).1 := by
  obtain ⟨s', hcall, hrecords, -⟩ | ⟨s', id, info, hcall, hremoved, -⟩ := deleteBPX_outcome env address h.live.kind
  · have hmatched : PatchMatched m₀ Set.univ ∅ s (s.deleteBPX env address).1 := by
      unfold deleteBPX
      cases hfind : s.findSoftware address with
      | none => exact matched_of_core rfl
      | some entry =>
        have hpresent := (findSoftware_eq_some hfind).1
        have hnative := (h.software _ _ hpresent).2.1
        have hwrite : PatchMatched m₀ Set.univ ∅ s (s.writeNativeBreakpointBytes env entry.2 false).1 :=
          matched_writeNativeBreakpointBytes env false hpresent hnative nofun
        simp only [h.live.kind, reduceCtorEq, if_false, hnative, if_true]
        split <;> rename_i hresult
        · rwa [hresult] at hwrite
        · exfalso
          unfold deleteBPX at hcall
          simp [hfind, h.live.kind, hnative, hresult] at hcall
    rw [hcall] at hmatched ⊢
    exact h.of_records hrecords (Patching.Sound.preserved.run (hmatched h.live).2 h.sound)
  · have hmatched : PatchMatched m₀ Set.univ ∅ s s' := matched_removed hremoved
    rw [hcall]
    refine ⟨hremoved.mode.trans h.live, ?_, Patching.Sound.preserved.run (hmatched h.live).2 h.sound⟩
    intro id' info' hid
    rw [hremoved.breakpoints] at hid
    exact h.software id' info' (getElem?_erase_cases hid).2

theorem softwareOver_setBPX {env : Env} {address : ULONG_PTR} {bpxType : DWORD} {callback : Option Callback}
    (h : SoftwareOver m₀ s) (hchanges : ApiCall.Changes env s (.setBPX address bpxType callback)) :
    SoftwareOver m₀ (s.setBPX env address bpxType callback).1 := by
  obtain ⟨hflush, hfresh, hapart⟩ := hchanges
  obtain ⟨s', hcall, hun⟩ | ⟨s', info, hcall, hset⟩ := setBPX_outcome env address bpxType callback h.live.kind
  · have hmatched : PatchMatched m₀ Set.univ ∅ s s' := matched_of_untouched hflush hun
    rw [hcall]
    exact h.of_records hun.records (Patching.Sound.preserved.run (hmatched h.live).2 h.sound)
  · obtain ⟨type, htype, hsize⟩ := hset.type
    have hpristine : s.Pristine m₀ Set.univ info.offset info.patchSize := by
      rw [hset.offset, hsize]
      exact h.pristine (hapart type htype)
    have hmatched := matched_installed hset.installed hfresh hpristine (fun _ _ => Set.notMem_empty _) h.live
    rw [hcall]
    refine ⟨hmatched.1, ?_, Patching.Sound.preserved.run hmatched.2 h.sound⟩
    intro id' info' hid
    rw [hset.installed.breakpoints] at hid
    obtain ⟨-, rfl⟩ | ⟨-, hid⟩ := getElem?_insert_cases hid
    · exact ⟨hset.kind, hset.installed.native, hset.installed.user⟩
    · exact h.software id' info' hid

theorem softwareOver_preserved : Runs.Preserves (CallStep changeRules) (SoftwareOver m₀) := by
  intro s s' hstep h
  obtain ⟨hallowed⟩ := hstep
  rename_i env call
  cases call with
  | setBPX address bpxType callback => exact softwareOver_setBPX h hallowed
  | deleteBPX address => exact softwareOver_deleteBPX env address h
  | _ => exact hallowed.elim

theorem softwareOver_of_empty (hlive : s.Live) (hempty : s.bps.gBreakpoints = ∅) :
    SoftwareOver s.target.memory s := by
  have hnone : s.hasPatch = false := by
    unfold hasPatch
    rw [hempty]
    rfl
  refine ⟨hlive, fun id info hid => ?_, sound_of_hasPatch hnone _⟩
  rw [hempty] at hid
  simp at hid

/-- A byte is pristine unless a patch exposes it. -/
theorem SoftwareOver.memory_eq_iff (h : SoftwareOver m₀ s) (x : ULONG_PTR) :
    s.target.memory x = m₀ x ↔ ¬ s.Exposes x := by
  constructor
  · rintro hmemory ⟨id, info, b, hid, hhidden, hb, hne⟩
    have htable := table_of_record hid hhidden.2.1
    exact hne (hmemory.trans (h.sound.captures id _ htable x b hb).symm)
  · intro hexposes
    by_contra hne
    have hcovered : s.patches.Covered x := by
      by_contra hfree
      exact hne (h.sound.rest x trivial hfree)
    obtain ⟨id, p, hp, hcovers⟩ := hcovered
    obtain ⟨info, hid, hnative, rfl⟩ := patchOf_eq_some hp
    have hin : InRange info.offset info.originals.length x := hcovers
    obtain ⟨b, hb⟩ := Option.isSome_iff_exists.mp (isSome_cell_iff.mpr hin)
    have hbyte : b = m₀ x := h.sound.captures id _ hp x b hb
    rw [BreakpointInfo.length_originals] at hin
    refine hexposes ⟨id, info, b, hid, ⟨(h.software id info hid).1, hnative, hin⟩, hb, ?_⟩
    rwa [hbyte]

/-- The second pass puts the pristine byte wherever a record hides the byte read. -/
theorem SoftwareOver.cell_filtered_iff (h : SoftwareOver m₀ s) {start x : ULONG_PTR} {buffer : List BYTE}
    (huser : userRange start buffer.length = true) (hx : InRange start buffer.length x) :
    cell start (filtered start s.bps.gBreakpoints.toList buffer) x = some (m₀ x) ↔
      s.Hides x ∨ cell start buffer x = some (m₀ x) := by
  obtain ⟨entry, hmem, hhidden, hcell⟩ | ⟨hnone, hcell⟩ := cell_filtered s.bps.gBreakpoints.toList buffer huser
    (fun entry hmem _ => (h.software _ _ (mem_toList.mp hmem)).2.2) hx
  · have hid := mem_toList.mp hmem
    have hin : InRange entry.2.offset entry.2.originals.length x := by
      rw [BreakpointInfo.length_originals]
      exact hhidden.2.2
    obtain ⟨b, hb⟩ := Option.isSome_iff_exists.mp (isSome_cell_iff.mpr hin)
    have htable := table_of_record hid hhidden.2.1
    rw [hcell, hb, h.sound.captures _ _ htable x b hb]
    exact iff_of_true rfl (.inl ⟨_, _, hid, hhidden⟩)
  · rw [hcell, or_iff_right]
    rintro ⟨id, info, hid, hhidden⟩
    exact hnone (id, info) (mem_toList.mpr hid) hhidden

end Session

/-- A read with sets and deletes before and between its passes returns the memory as it was before
the first breakpoint iff each byte that a patch exposes to the first pass is one that a record hides
in the second. -/
theorem interleaved_read_iff {s s₁ s₁' s₂ : Session} (hlive : s.Live) (hempty : s.bps.gBreakpoints = ∅)
    (hbefore : ReflTransGen (CallStep changeRules) s s₁) {env : Env} {process : HANDLE} {address : ULONG_PTR}
    {n : ℕ} {buffer bytes : List BYTE} (hraw : s₁.memoryReadUnsafe env process address n = (s₁', some buffer))
    (hbetween : ReflTransGen (CallStep changeRules) s₁' s₂)
    (hpass : s₂.hidePatches address buffer = some bytes) :
    bytes = s.target.memory.read address n ↔ ∀ x, InRange address n x → s₁.Exposes x → s₂.Hides x := by
  have hover := Session.softwareOver_preserved.run hbefore (Session.softwareOver_of_empty hlive hempty)
  have hcore := Session.core_memoryReadUnsafe env process address n s₁
  rw [hraw] at hcore
  have hover₂ := Session.softwareOver_preserved.run hbetween (hover.of_core hcore)
  have hread := Session.memoryReadUnsafe_outcome env process address n hover.live
  rw [hraw] at hread
  obtain hread | ⟨-, hread⟩ := hread
  · cases hread
  obtain ⟨rfl, huser⟩ := Session.readProcessMemory_eq_some hread.symm
  have hlength : (s₁.target.memory.read address n).length = n := length_read ..
  unfold Session.hidePatches at hpass
  split at hpass
  · cases hpass
  obtain rfl := Option.some.inj hpass
  have hfiltered := Session.length_filtered s₂.bps.gBreakpoints.toList (s₁.target.memory.read address n)
    (by rwa [hlength]) fun entry hmem _ => (hover₂.software _ _ (Session.mem_toList.mp hmem)).2.2
  rw [hlength] at hfiltered
  have hrange := (Session.toNat_of_userRange huser).2
  have hbyte : ∀ x, InRange address n x →
      (cell address (Session.filtered address s₂.bps.gBreakpoints.toList (s₁.target.memory.read address n)) x =
        some (s.target.memory x) ↔ (s₁.Exposes x → s₂.Hides x)) := by
    intro x hx
    rw [hover₂.cell_filtered_iff (by rwa [hlength]) (by rwa [hlength]), cell_read _ hx, Option.some_inj,
      hover.memory_eq_iff x]
    tauto
  rw [eq_iff_cell (a := address) (by rw [hfiltered, length_read]) (by omega), hfiltered]
  refine forall_congr' fun x => forall_congr' fun hx => ?_
  rw [cell_read _ hx]
  exact hbyte x hx

theorem changeStep_softwareSession : CallStep changeRules freshSession softwareSession := by
  refine .call ⟨rfl, by decide, fun type _ id info hid => ?_⟩
  have hnone : freshSession.bps.gBreakpoints[id]? = none := by
    show (∅ : Map ULONG BreakpointInfo)[id]? = none
    simp
  rw [hnone] at hid
  cases hid

/-- The delete of another patch tears no read. -/
theorem interleaved_read_kept :
    (ApiCall.run {} (.deleteBPX 0x402000) softwareSession).1.hidePatches 0x401000 [0xCC] =
      some (freshSession.target.memory.read 0x401000 1) := by
  have hpass : (ApiCall.run {} (.deleteBPX 0x402000) softwareSession).1.hidePatches 0x401000 [0xCC] =
      some [0] := by decide
  have hdelete : CallStep changeRules softwareSession (ApiCall.run {} (.deleteBPX 0x402000) softwareSession).1 :=
    .call trivial
  rw [hpass]
  refine congrArg some ((interleaved_read_iff (show freshSession.Live from rfl) rfl
    (.single changeStep_softwareSession)
    (show softwareSession.memoryReadUnsafe {} 0x100 0x401000 1 = (softwareSession, some [0xCC]) by rfl)
    (.single hdelete) hpass).mpr fun x hx _ => ?_)
  have hrecord : ∃ entry ∈ (ApiCall.run {} (.deleteBPX 0x402000) softwareSession).1.bps.gBreakpoints.toList,
      entry.2.kind = .software ∧ entry.2.nativePatch = true ∧ entry.2.offset = 0x401000 ∧
        entry.2.patchSize = 1 := by decide
  obtain ⟨entry, hmem, hkind, hnative, hoffset, hsize⟩ := hrecord
  refine ⟨entry.1, entry.2, Session.mem_toList.mp hmem, hkind, hnative, ?_⟩
  rw [hoffset, hsize]
  exact hx

/-- A delete between the passes leaves the patch byte that the first one read. -/
theorem interleaved_read_torn :
    ¬ ∀ (s s₁ s₁' s₂ : Session) (env : Env) (process : HANDLE) (address : ULONG_PTR) (n : ℕ)
      (buffer bytes : List BYTE), s.Live → s.bps.gBreakpoints = ∅ → ReflTransGen (CallStep changeRules) s s₁ →
      s₁.memoryReadUnsafe env process address n = (s₁', some buffer) →
      ReflTransGen (CallStep changeRules) s₁' s₂ → s₂.hidePatches address buffer = some bytes →
      bytes = s.target.memory.read address n := by
  intro hclaim
  have hdelete : CallStep changeRules softwareSession (ApiCall.run {} (.deleteBPX 0x401000) softwareSession).1 :=
    .call trivial
  have hbytes := hclaim freshSession softwareSession softwareSession _ {} 0x100 0x401000 1 [0xCC] [0xCC]
    (show freshSession.Live from rfl) rfl (.single changeStep_softwareSession) rfl (.single hdelete) (by decide)
  exact absurd hbytes (by decide)

end TitanEngine

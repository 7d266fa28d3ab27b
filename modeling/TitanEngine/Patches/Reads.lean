import TitanEngine.Patches.Records
import TitanEngine.Patches.Undo

/-! What the reads of a client show of the patched memory. -/
namespace TitanEngine
open FlatMemory Relation

namespace Session

theorem toNat_of_userRange {address : ULONG_PTR} {n : ℕ} (h : userRange address n = true) :
    0x10000 ≤ address.toNat ∧ address.toNat + n ≤ 0x0000800000000000 := by
  simpa [userRange] using h

/-- The filter puts the original bytes of this record over those at `x`. -/
def HiddenBy (info : BreakpointInfo) (x : ULONG_PTR) : Prop :=
  info.kind = .software ∧ info.nativePatch = true ∧ InRange info.offset info.patchSize x

theorem toNat_add_ofNat {a : ULONG_PTR} {n : ℕ} (h : a.toNat + n < 2 ^ 64) :
    (a + BitVec.ofNat 64 n).toNat = a.toNat + n := by
  rw [BitVec.toNat_add, BitVec.toNat_ofNat, Nat.mod_eq_of_lt (show n < 2 ^ 64 by omega),
    Nat.mod_eq_of_lt h]

theorem toNat_ite (c : Prop) [Decidable c] (a b : ULONG_PTR) :
    (if c then a else b).toNat = if c then a.toNat else b.toNat := apply_ite _ _ _ _

/-- Position by position, a record puts its original bytes where its patch lies. -/
theorem getElem?_overlay {start : ULONG_PTR} {info : BreakpointInfo} {buffer : List BYTE}
    (hread : userRange start buffer.length = true)
    (huser : info.nativePatch = true → userRange info.offset info.patchSize = true) :
    (overlay start info buffer).length = buffer.length ∧ ∀ i < buffer.length,
      (overlay start info buffer)[i]? =
        if info.kind = .software ∧ info.nativePatch = true ∧ info.offset.toNat ≤ start.toNat + i ∧
            start.toNat + i < info.offset.toNat + info.patchSize then
          info.originals[start.toNat + i - info.offset.toNat]?
        else buffer[i]? := by
  obtain ⟨-, hread⟩ := toNat_of_userRange hread
  unfold overlay
  split
  · rename_i hout
    refine ⟨rfl, fun i _ => ?_⟩
    rw [if_neg]
    rintro ⟨hkind, hnative, hle, hlt⟩
    rcases hout with h | h | h
    · exact h hkind
    · exact h hnative
    · omega
  rename_i hin
  simp only [not_or, not_not] at hin
  obtain ⟨hkind, hnative, hsize⟩ := hin
  obtain ⟨-, hpatch⟩ := toNat_of_userRange (huser hnative)
  have hreadEnd := toNat_add_ofNat (a := start) (n := buffer.length) (by omega)
  have hpatchEnd := toNat_add_ofNat (a := info.offset) (n := info.patchSize) (by omega)
  simp only [BitVec.lt_def, BitVec.le_def, hreadEnd, hpatchEnd]
  generalize hs : (if start.toNat ≤ info.offset.toNat then info.offset else start) = overlapStart
  generalize he : (if start.toNat + buffer.length ≤ info.offset.toNat + info.patchSize then
    start + BitVec.ofNat 64 buffer.length else info.offset + BitVec.ofNat 64 info.patchSize) = overlapEnd
  have hs : overlapStart.toNat = max start.toNat info.offset.toNat := by
    rw [← hs, toNat_ite]
    split <;> omega
  have he : overlapEnd.toNat = min (start.toNat + buffer.length) (info.offset.toNat + info.patchSize) := by
    rw [← he, toNat_ite, hreadEnd, hpatchEnd]
    split <;> omega
  split
  · rename_i hoverlap
    have hdestination : (overlapStart - start).toNat = overlapStart.toNat - start.toNat :=
      BitVec.toNat_sub_of_le (BitVec.le_def.mpr (by omega))
    have hsource : (overlapStart - info.offset).toNat = overlapStart.toNat - info.offset.toNat :=
      BitVec.toNat_sub_of_le (BitVec.le_def.mpr (by omega))
    have hcount : (overlapEnd - overlapStart).toNat = overlapEnd.toNat - overlapStart.toNat :=
      BitVec.toNat_sub_of_le (BitVec.le_def.mpr (by omega))
    have hfits : (overlapStart - start).toNat + (overlapEnd - overlapStart).toNat ≤ buffer.length := by
      omega
    have hfits' : (overlapStart - info.offset).toNat + (overlapEnd - overlapStart).toNat ≤
        info.originals.length := by
      rw [BreakpointInfo.length_originals]
      omega
    refine ⟨length_splice hfits hfits', fun i hi => ?_⟩
    rw [getElem?_splice hfits hfits' i]
    simp only [hkind, hnative, true_and]
    by_cases hcover : info.offset.toNat ≤ start.toNat + i ∧
        start.toNat + i < info.offset.toNat + info.patchSize
    · rw [if_pos hcover, if_pos (by omega)]
      congr 1
      omega
    · rw [if_neg hcover, if_neg (by omega)]
  · rename_i hapart
    refine ⟨rfl, fun i hi => ?_⟩
    rw [if_neg]
    rintro ⟨-, -, hle, hlt⟩
    omega

theorem cell_overlay {start : ULONG_PTR} {info : BreakpointInfo} {buffer : List BYTE}
    (hread : userRange start buffer.length = true)
    (huser : info.nativePatch = true → userRange info.offset info.patchSize = true) {x : ULONG_PTR}
    (hx : InRange start buffer.length x) :
    HiddenBy info x ∧ cell start (overlay start info buffer) x = cell info.offset info.originals x ∨
      ¬ HiddenBy info x ∧ cell start (overlay start info buffer) x = cell start buffer x := by
  have hget := (getElem?_overlay hread huser).2 _ hx
  obtain ⟨-, hread⟩ := toNat_of_userRange hread
  have hin := (inRange_iff (a := start) (n := buffer.length) (x := x) (by omega)).mp hx
  have hsub : (x - start).toNat = x.toNat - start.toNat :=
    BitVec.toNat_sub_of_le (BitVec.le_def.mpr hin.1)
  have hadd : start.toNat + (x - start).toNat = x.toNat := by omega
  rw [hadd] at hget
  by_cases hnative : info.nativePatch = true
  · obtain ⟨-, hpatch⟩ := toNat_of_userRange (huser hnative)
    have hiff := inRange_iff (a := info.offset) (n := info.patchSize) (x := x) (by omega)
    by_cases hhidden : HiddenBy info x
    · have hcover := hiff.mp hhidden.2.2
      rw [if_pos ⟨hhidden.1, hnative, hcover⟩] at hget
      have hsub' : (x - info.offset).toNat = x.toNat - info.offset.toNat :=
        BitVec.toNat_sub_of_le (BitVec.le_def.mpr hcover.1)
      left
      refine ⟨hhidden, hget.trans ?_⟩
      rw [cell, hsub']
    · right
      refine ⟨hhidden, ?_⟩
      rw [if_neg] at hget
      · exact hget
      · rintro ⟨hkind, -, hcover⟩
        exact hhidden ⟨hkind, hnative, hiff.mpr hcover⟩
  · right
    refine ⟨fun h => hnative h.2.1, ?_⟩
    rw [if_neg fun h => hnative h.2.1] at hget
    exact hget

/-- The filter of `MemoryReadSafe`: every record in turn. -/
def filtered (start : ULONG_PTR) (entries : List (ULONG × BreakpointInfo)) (buffer : List BYTE) :
    List BYTE :=
  entries.foldl (fun buffer entry => overlay start entry.2 buffer) buffer

/-- A byte of the filtered buffer is an original byte under a record that hides it, or
the byte read where no record does. -/
theorem cell_filtered {start : ULONG_PTR} {x : ULONG_PTR} (entries : List (ULONG × BreakpointInfo))
    (buffer : List BYTE) (hread : userRange start buffer.length = true)
    (huser : ∀ entry ∈ entries, entry.2.nativePatch = true →
      userRange entry.2.offset entry.2.patchSize = true)
    (hx : InRange start buffer.length x) :
    (∃ entry ∈ entries, HiddenBy entry.2 x ∧
        cell start (filtered start entries buffer) x = cell entry.2.offset entry.2.originals x) ∨
      (∀ entry ∈ entries, ¬ HiddenBy entry.2 x) ∧
        cell start (filtered start entries buffer) x = cell start buffer x := by
  induction entries generalizing buffer with
  | nil => exact .inr ⟨by simp, rfl⟩
  | cons entry entries ih =>
    have hhead := huser entry (List.mem_cons_self ..)
    have hlength := (getElem?_overlay hread hhead).1
    rw [← hlength] at hread hx
    obtain ⟨entry', hmem, hhidden, hcell⟩ | ⟨hnone, hcell⟩ :=
      ih (overlay start entry.2 buffer) hread (fun e h => huser e (List.mem_cons_of_mem _ h)) hx
    · exact .inl ⟨entry', List.mem_cons_of_mem _ hmem, hhidden, hcell⟩
    · rw [hlength] at hread hx
      obtain ⟨hhidden, hoverlay⟩ | ⟨hvisible, hoverlay⟩ := cell_overlay hread hhead hx
      · exact .inl ⟨entry, List.mem_cons_self .., hhidden, hcell.trans hoverlay⟩
      · refine .inr ⟨?_, hcell.trans hoverlay⟩
        intro e he
        rcases List.mem_cons.mp he with rfl | he
        · exact hvisible
        · exact hnone e he

theorem length_filtered {start : ULONG_PTR} (entries : List (ULONG × BreakpointInfo))
    (buffer : List BYTE) (hread : userRange start buffer.length = true)
    (huser : ∀ entry ∈ entries, entry.2.nativePatch = true →
      userRange entry.2.offset entry.2.patchSize = true) :
    (filtered start entries buffer).length = buffer.length := by
  induction entries generalizing buffer with
  | nil => rfl
  | cons entry entries ih =>
    have hlength := (getElem?_overlay hread (huser entry (List.mem_cons_self ..))).1
    rw [← hlength] at hread
    exact (ih _ hread fun e h => huser e (List.mem_cons_of_mem _ h)).trans hlength

/-- The call names a process that the engine has selected, or one that it does not know. -/
structure ReadsProcess (env : Env) (process : HANDLE) (s : Session) : Prop where
  answers : env.MemoryAnswers
  nonnull : process ≠ 0
  current : ∀ index, s.gDebugIdMap.processHandleToIndex[process]? = some index →
    env.currentProcessId = some index

theorem memoryReadUnsafe_outcome (env : Env) (process : HANDLE) (address : ULONG_PTR) (n : ℕ)
    {s : Session} (hlive : s.Live) :
    (s.memoryReadUnsafe env process address n).2 = none ∨
      s.pauseLock = true ∧
        (s.memoryReadUnsafe env process address n).2 = s.readProcessMemory env address n := by
  unfold memoryReadUnsafe
  simp only [hlive.synthetic, hlive.kind, Option.bind_none, reduceCtorEq, if_false]
  split
  · exact .inl rfl
  rename_i hcalled
  have hpaused : s.pauseLock = true := by
    simp only [not_or, not_not] at hcalled
    exact hcalled.2.2
  split
  · exact .inr ⟨hpaused, rfl⟩
  split
  · exact .inl rfl
  split
  · exact .inl rfl
  · refine .inr ⟨hpaused, ?_⟩
    unfold readProcessMemory
    rw [core_memory (core_exposePages ..)]

theorem memoryReadUnsafe_eq {env : Env} {process : HANDLE} {address : ULONG_PTR} {n : ℕ}
    {s : Session} (hlive : s.Live) (hpaused : s.gPaused = true) (h : ReadsProcess env process s)
    (huser : userRange address n = true) :
    (s.memoryReadUnsafe env process address n).2 = some (s.target.memory.read address n) := by
  have hlock : s.pauseLock = true := by
    unfold pauseLock
    rw [hpaused, hlive.debugging]
    rfl
  have hlow : ¬ address < 0x10000 := by
    have hrange := (toNat_of_userRange huser).1
    rw [BitVec.lt_def]
    simpa using hrange
  have hread : s.readProcessMemory env address n = some (s.target.memory.read address n) := by
    unfold readProcessMemory
    rw [h.answers.reads, huser]
    rfl
  unfold memoryReadUnsafe
  simp only [hlive.synthetic, hlive.kind, Option.bind_none, reduceCtorEq, if_false]
  rw [if_neg]
  · cases hindex : s.gDebugIdMap.processHandleToIndex[process]? with
    | none => exact hread
    | some index =>
      simp only [h.current index hindex, ne_eq, not_true_eq_false, if_false]
      rw [← hread]
      unfold readProcessMemory
      rw [core_memory (core_exposePages ..)]
  · rw [hlock]
    simp only [not_true_eq_false, or_false, not_or]
    exact ⟨h.nonnull, hlow⟩

theorem memoryReadSafe_eq_some {env : Env} {process : HANDLE} {address : ULONG_PTR} {n : ℕ}
    {s : Session} {bytes : List BYTE} (hlive : s.Live)
    (h : (s.memoryReadSafe env process address n).2 = some bytes) :
    userRange address n = true ∧
      bytes = filtered address s.bps.gBreakpoints.toList (s.target.memory.read address n) := by
  have hcore := core_memoryReadUnsafe env process address n s
  have hout := memoryReadUnsafe_outcome env process address n hlive
  unfold memoryReadSafe at h
  split at h
  · cases h
  · rename_i s' buffer hread
    rw [hread] at hcore hout
    obtain hout | ⟨-, hout⟩ := hout
    · cases hout
    obtain ⟨rfl, huser⟩ := readProcessMemory_eq_some hout.symm
    split at h
    · cases h
    · have hb : s'.bps.gBreakpoints = s.bps.gBreakpoints := core_breakpoints hcore
      rw [hb] at h
      exact ⟨huser, (Option.some.inj h).symm⟩

theorem memoryReadSafe_eq {env : Env} {process : HANDLE} {address : ULONG_PTR} {n : ℕ}
    {s : Session} (hlive : s.Live) (hpaused : s.gPaused = true) (h : ReadsProcess env process s)
    (huser : userRange address n = true) :
    (s.memoryReadSafe env process address n).2 =
      some (filtered address s.bps.gBreakpoints.toList (s.target.memory.read address n)) := by
  have hcore := core_memoryReadUnsafe env process address n s
  have hread := memoryReadUnsafe_eq hlive hpaused h huser
  unfold memoryReadSafe
  split
  · rename_i hnone
    rw [hnone] at hread
    cases hread
  · rename_i s' buffer hsome
    rw [hsome] at hread hcore
    cases hread
    have hlock : s'.pauseLock = true := by
      have hmode : s'.Live := (core_mode hcore).trans hlive
      unfold pauseLock
      rw [core_paused hcore, hpaused, hmode.debugging]
      rfl
    rw [hlock, core_breakpoints hcore]
    rfl

/-- At `x` the memory differs from what a record of a hardware breakpoint remembers, and
no record of a software breakpoint hides it. -/
def Shows (x : ULONG_PTR) (s : Session) : Prop :=
  (∃ (id : ULONG) (info : BreakpointInfo) (b : BYTE), s.bps.gBreakpoints[id]? = some info ∧
      info.kind = .hardware ∧ info.nativePatch = true ∧ cell info.offset info.originals x = some b ∧
      s.target.memory x ≠ b) ∧
    ∀ (id : ULONG) (info : BreakpointInfo), s.bps.gBreakpoints[id]? = some info → ¬ HiddenBy info x

theorem mem_toList {s : Session} {entry : ULONG × BreakpointInfo} :
    entry ∈ s.bps.gBreakpoints.toList ↔ s.bps.gBreakpoints[entry.1]? = some entry.2 :=
  Std.ExtTreeMap.mem_toList_iff_getElem?_eq_some

/-- Under sound records, the filter gives back a pristine byte unless a patch shows there. -/
theorem cell_read_iff {s : Session} {m₀ : Memory 64 BYTE} {code : Set ULONG_PTR} (hwf : s.WellFormed)
    (hsound : Patching.Sound m₀ code s.patches) {address x : ULONG_PTR} {n : ℕ}
    (huser : userRange address n = true) (hx : InRange address n x) (hcode : x ∈ code) :
    cell address (filtered address s.bps.gBreakpoints.toList (s.target.memory.read address n)) x =
      some (m₀ x) ↔ ¬ s.Shows x := by
  have hcaptures : ∀ {id : ULONG} {info : BreakpointInfo}, s.bps.gBreakpoints[id]? = some info →
      info.nativePatch = true → ∀ {b : BYTE}, cell info.offset info.originals x = some b → b = m₀ x := by
    intro id info hid hnative b hb
    exact hsound.captures id _ (table_of_record hid hnative) x b hb
  have hlength : (s.target.memory.read address n).length = n := length_read ..
  rw [← hlength] at huser hx
  obtain ⟨entry, hmem, hhidden, hcell⟩ | ⟨hnone, hcell⟩ := cell_filtered s.bps.gBreakpoints.toList _
    huser (fun entry hmem hnative => hwf.user (mem_toList.mp hmem) hnative) hx
  · have hsome : InRange entry.2.offset entry.2.originals.length x := by
      rw [BreakpointInfo.length_originals]
      exact hhidden.2.2
    obtain ⟨b, hb⟩ := Option.isSome_iff_exists.mp (isSome_cell_iff.mpr hsome)
    have hbyte := hcaptures (mem_toList.mp hmem) hhidden.2.1 hb
    rw [hcell, hb, hbyte]
    exact iff_of_true rfl fun hshows => hshows.2 _ _ (mem_toList.mp hmem) hhidden
  · rw [hlength] at hx
    rw [hcell, cell_read _ hx, Option.some_inj]
    have hvisible : ∀ id info, s.bps.gBreakpoints[id]? = some info → ¬ HiddenBy info x :=
      fun id info hid => hnone (id, info) (mem_toList.mpr hid)
    constructor
    · rintro hmemory ⟨⟨id, info, b, hid, -, hnative, hb, hne⟩, -⟩
      rw [hcaptures hid hnative hb] at hne
      exact hne hmemory
    · intro hshows
      by_cases hcovered : s.patches.Covered x
      · obtain ⟨id, p, hp, hcovers⟩ := hcovered
        obtain ⟨info, hid, hnative, rfl⟩ := patchOf_eq_some hp
        have hin : InRange info.offset info.originals.length x := hcovers
        obtain ⟨b, hb⟩ := Option.isSome_iff_exists.mp (isSome_cell_iff.mpr hin)
        have hkind : info.kind = .hardware := by
          cases hk : info.kind with
          | hardware => rfl
          | software =>
            rw [BreakpointInfo.length_originals] at hin
            exact absurd ⟨hk, hnative, hin⟩ (hvisible id info hid)
        by_contra hne
        refine hshows ⟨⟨id, info, b, hid, hkind, hnative, hb, ?_⟩, hvisible⟩
        rwa [hcaptures hid hnative hb]
      · exact hsound.rest x hcode hcovered

end Session

/-- If every set captures bytes of the memory before the first breakpoint, a read gives a byte of
code as it is in that memory iff no patch of a hardware breakpoint shows there, and a range of code
iff none shows in it. -/
theorem reads_hide_patches {s s' : Session} {code : Set ULONG_PTR} (hlive : s.Live)
    (hempty : s.bps.gBreakpoints = ∅) (hrun : Run (patchRules s.target.memory code) s s') {env : Env}
    {process : HANDLE} {address : ULONG_PTR} {n : ℕ} {bytes : List BYTE}
    (hread : (s'.memoryReadSafe env process address n).2 = some bytes) :
    (∀ x, InRange address n x → x ∈ code →
        (cell address bytes x = some (s.target.memory x) ↔ ¬ s'.Shows x)) ∧
      ((∀ x, InRange address n x → x ∈ code) →
        (bytes = s.target.memory.read address n ↔ ∀ x, InRange address n x → ¬ s'.Shows x)) := by
  have hblind : (patchRules s.target.memory code).QueueBlind := fun _ _ _ _ hwork => hwork
  obtain ⟨hlive', hwf⟩ := Session.wellFormed_of_run hblind hlive hempty hrun
  have hnone : s.hasPatch = false := by
    unfold Session.hasPatch
    rw [hempty]
    rfl
  have hsound := Session.sound_of_run hlive hnone hrun
  obtain ⟨huser, rfl⟩ := Session.memoryReadSafe_eq_some hlive' hread
  have hlength : (s'.target.memory.read address n).length = n := length_read ..
  have hfiltered := Session.length_filtered s'.bps.gBreakpoints.toList (s'.target.memory.read address n)
    (by rwa [hlength]) (fun entry hmem hnative => hwf.user (Session.mem_toList.mp hmem) hnative)
  rw [hlength] at hfiltered
  have hrange := (Session.toNat_of_userRange huser).2
  have hbyte := fun x hx hcode => @Session.cell_read_iff s' _ code hwf hsound address x n huser hx hcode
  refine ⟨hbyte, fun hcode => ?_⟩
  rw [eq_iff_cell (a := address) (by rw [hfiltered, length_read]) (by omega), hfiltered]
  constructor
  · intro h x hx
    have hcell := h x hx
    rw [cell_read _ hx] at hcell
    exact (hbyte x hx (hcode x hx)).mp hcell
  · intro h x hx
    rw [cell_read _ hx]
    exact (hbyte x hx (hcode x hx)).mpr (h x hx)

/-- A software breakpoint in the fresh session. -/
def softwareSession : Session := (ApiCall.run {} (.setBPX 0x401000 0 (some 1)) freshSession).1

theorem step_softwareSession :
    CallStep (patchRules freshSession.target.memory Set.univ) freshSession softwareSession := by
  refine .call ⟨⟨⟨rfl, rfl, rfl⟩, by decide, rfl, by nofun⟩, ?_⟩
  intro address size _ _
  exact ⟨fun x _ => ⟨trivial, rfl⟩, by decide⟩

theorem reads_hide_patches_software :
    (softwareSession.memoryReadSafe {} 0x100 0x401000 1).2 = some (freshSession.target.memory.read 0x401000 1) := by
  have hread : (softwareSession.memoryReadSafe {} 0x100 0x401000 1).2 = some [0] := by decide
  have hsoftware : ∀ entry ∈ softwareSession.bps.gBreakpoints.toList, entry.2.kind = .software := by decide
  rw [hread]
  refine congrArg some ((reads_hide_patches (show freshSession.Live from rfl) rfl
    (.single (.call step_softwareSession)) hread).2 (fun _ _ => trivial) |>.mpr ?_)
  rintro x - ⟨⟨id, info, b, hid, hkind, -⟩, -⟩
  have hkind' := hsoftware (id, info) (Session.mem_toList.mpr hid)
  rw [hkind] at hkind'
  cases hkind'

/-- The filter passes over the records of hardware breakpoints. -/
theorem reads_not_hide_patches :
    ¬ ∀ (s s' : Session) (code : Set ULONG_PTR) (env : Env) (process : HANDLE) (address : ULONG_PTR)
      (n : ℕ) (bytes : List BYTE), s.Live → s.bps.gBreakpoints = ∅ →
      Run (breakpointRules code) s s' → (s'.memoryReadSafe env process address n).2 = some bytes →
      (∀ x, InRange address n x → x ∈ code) → bytes = s.target.memory.read address n := by
  intro hclaim
  let s₁ := (ApiCall.run {} (.setHardwareBreakPoint 0x401000 0 4 7 (some 2)) freshSession).1
  have h₁ : CallStep (breakpointRules Set.univ) freshSession s₁ :=
    .call ⟨⟨rfl, rfl, rfl⟩, by decide, rfl, by nofun⟩
  have hbytes := hclaim freshSession s₁ Set.univ {} 0x100 0x401000 1 [0xCC]
    (show freshSession.Live from rfl) rfl (.single (.call h₁)) (by decide) fun _ _ => trivial
  exact absurd hbytes (by decide)

end TitanEngine

import TitanEngine.Lib.MapSums
import TitanEngine.Lib.Patching
import TitanEngine.Patches.Outcomes

/-! Runs of a session, seen through its patch records, are runs of a patched memory. -/
namespace TitanEngine
open FlatMemory MapSums Relation Runs

def BreakpointInfo.toPatch (info : BreakpointInfo) : Patching.Patch 64 BYTE :=
  ⟨info.offset, info.originals, info.patch, by simp⟩

theorem BreakpointInfo.covers_toPatch_iff {info : BreakpointInfo} {x : ULONG_PTR} :
    info.toPatch.Covers x ↔ InRange info.offset info.patchSize x := by
  unfold Patching.Patch.Covers toPatch
  rw [length_originals]

/-- The patch of a record, if the adapter wrote one for it. -/
def patchOf (record : Option BreakpointInfo) : Option (Patching.Patch 64 BYTE) :=
  record.bind fun info => if info.nativePatch then some info.toPatch else none

theorem patchOf_native {info : BreakpointInfo} (h : info.nativePatch = true) :
    patchOf (some info) = some info.toPatch := if_pos h

theorem patchOf_eq_some {record : Option BreakpointInfo} {p : Patching.Patch 64 BYTE}
    (h : patchOf record = some p) :
    ∃ info, record = some info ∧ info.nativePatch = true ∧ p = info.toPatch := by
  cases record with
  | none => cases h
  | some info =>
    by_cases hnative : info.nativePatch = true
    · rw [patchOf_native hnative] at h
      cases h
      exact ⟨info, rfl, hnative, rfl⟩
    · have hnone : patchOf (some info) = none := if_neg hnative
      rw [hnone] at h
      cases h

/-- A session as a patched memory. -/
def Session.patches (s : Session) : Patching.State 64 BYTE ULONG :=
  ⟨s.target.memory, fun id => patchOf s.bps.gBreakpoints[id]?⟩

theorem Session.table_of_record {s : Session} {id : ULONG} {info : BreakpointInfo}
    (h : s.bps.gBreakpoints[id]? = some info) (hnative : info.nativePatch = true) :
    s.patches.table id = some info.toPatch := by
  show patchOf s.bps.gBreakpoints[id]? = _
  rw [h, patchOf_native hnative]

theorem patchOf_insert (m : Map ULONG BreakpointInfo) (id : ULONG) (info : BreakpointInfo) :
    (fun k => patchOf (m.insert id info)[k]?) =
      Function.update (fun k => patchOf m[k]?) id (patchOf (some info)) := by
  funext k
  by_cases he : k = id
  · subst he
    rw [Function.update_self, Std.ExtTreeMap.getElem?_insert_self]
  · rw [Function.update_of_ne he, getElem?_insert_of_ne he]

theorem patchOf_erase (m : Map ULONG BreakpointInfo) (id : ULONG) :
    (fun k => patchOf (m.erase id)[k]?) = Function.update (fun k => patchOf m[k]?) id none := by
  funext k
  by_cases he : k = id
  · subst he
    rw [Function.update_self, Std.ExtTreeMap.getElem?_erase_self]
    rfl
  · rw [Function.update_of_ne he, getElem?_erase_of_ne he]

namespace Session
variable {m₀ : Memory 64 BYTE} {code spare : Set ULONG_PTR} {s s' : Session}

theorem patches_of_image (h : s'.image = s.image) : s'.patches = s.patches := by
  have hbps : s'.bps = s.bps := congrArg Image.bps h
  have hmemory : s'.target.memory = s.target.memory := congrArg Image.memory h
  unfold patches
  rw [hbps, hmemory]

theorem patches_of_core (h : s'.core = s.core) : s'.patches = s.patches :=
  field_eq patches (fun _ => rfl) h

/-- The bytes that a patch at `address` would cover are code, and pristine. -/
def Pristine (m₀ : Memory 64 BYTE) (code : Set ULONG_PTR) (address : ULONG_PTR) (size : ℕ)
    (s : Session) : Prop :=
  ∀ x, InRange address size x → x ∈ code ∧ s.target.memory x = m₀ x

/-- A live session, as long as it is not torn down. -/
def Live (s : Session) : Prop := s.mode = (.live, true, none)

theorem Live.kind (h : s.Live) : s.gSessionKind = .live := congrArg Prod.fst h

theorem Live.debugging (h : s.Live) : s.gIsDebugging = true := congrArg (fun m => m.2.1) h

theorem Live.synthetic (h : s.Live) : s.gSyntheticDebugString = none := congrArg (fun m => m.2.2) h

abbrev PatchMatched (m₀ : Memory 64 BYTE) (code spare : Set ULONG_PTR) : Session → Session → Prop :=
  Matched (Patching.Step m₀ code spare) patches Live

theorem matched_of_eq (hmode : s'.mode = s.mode) (hpatches : s'.patches = s.patches) :
    PatchMatched m₀ code spare s s' := by
  intro hlive
  rw [hpatches]
  exact ⟨hmode.trans hlive, .refl⟩

theorem matched_of_image (h : s'.image = s.image) : PatchMatched m₀ code spare s s' :=
  matched_of_eq (congrArg Image.mode h) (patches_of_image h)

theorem matched_of_core (h : s'.core = s.core) : PatchMatched m₀ code spare s s' :=
  matched_of_eq (core_mode h) (patches_of_core h)

theorem matched_of_untouched {env : Env} (hflush : env.flushInstructionCache = true)
    (h : Untouched env s s') : PatchMatched m₀ code spare s s' := by
  have hrecords := h.records
  simp only [records, Prod.mk.injEq] at hrecords
  obtain ⟨hmode, hbreakpoints, -⟩ := hrecords
  have hpatches : s'.patches = s.patches := by
    unfold patches
    rw [hbreakpoints, h.memory hflush]
  exact matched_of_eq hmode hpatches

theorem matched_installed {info : BreakpointInfo} (h : Installed info s s')
    (hfresh : s.bps.gNextNativeBreakpointId ∉ s.bps.gBreakpoints)
    (hpristine : s.Pristine m₀ code info.offset info.patchSize)
    (hspares : ∀ x, InRange info.offset info.patchSize x → x ∉ spare) : PatchMatched m₀ code spare s s' := by
  intro hlive
  refine ⟨h.mode.trans hlive, .single ?_⟩
  have hpatches : s'.patches = ⟨s.target.memory.write info.offset info.patch,
      Function.update s.patches.table info.id (some info.toPatch)⟩ := by
    unfold patches
    rw [h.memory, h.breakpoints, patchOf_insert, patchOf_native h.native]
  have hnone : s.bps.gBreakpoints[info.id]? = none := by
    rw [h.id]
    exact Std.ExtTreeMap.getElem?_eq_none hfresh
  rw [hpatches]
  apply Patching.Step.install info.id info.toPatch
  · show patchOf s.bps.gBreakpoints[info.id]? = none
    rw [hnone]
    rfl
  · intro x b hb
    have hin : InRange info.offset info.patchSize x := by
      have hx : InRange info.offset info.originals.length x := inRange_of_cell hb
      rwa [BreakpointInfo.length_originals] at hx
    have hcell : cell info.offset info.originals x = some (s.target.memory x) := by
      rw [h.captured, cell_read _ hin]
    have hbyte : b = s.target.memory x := Option.some.inj (hb.symm.trans hcell)
    rw [hbyte, (hpristine x hin).2]
  · intro x hx
    exact (hpristine x (BreakpointInfo.covers_toPatch_iff.mp hx)).1
  · intro x hx
    exact hspares x (BreakpointInfo.covers_toPatch_iff.mp hx)

theorem matched_removed {id : ULONG} {info : BreakpointInfo} (h : Removed id info s s') :
    PatchMatched m₀ code spare s s' := by
  intro hlive
  refine ⟨h.mode.trans hlive, ?_⟩
  by_cases hnative : info.nativePatch = true
  · have hpatches : s'.patches = ⟨s.target.memory.write info.offset info.originals,
        Function.update s.patches.table id none⟩ := by
      unfold patches
      rw [h.memory, if_pos hnative, h.breakpoints, patchOf_erase]
    rw [hpatches]
    exact .single (.remove id info.toPatch (table_of_record h.present hnative))
  · have hnone : s.patches.table id = none := by
      show patchOf s.bps.gBreakpoints[id]? = none
      rw [h.present]
      exact if_neg hnative
    have hpatches : s'.patches = s.patches := by
      unfold patches
      rw [h.memory, if_neg hnative, h.breakpoints, patchOf_erase]
      exact congrArg _ (Function.update_eq_self_iff.mpr hnone.symm)
    rw [hpatches]

/-- Writing the bytes of a record of the table lifts its patch or places it. -/
theorem matched_withBytes {id : ULONG} {info : BreakpointInfo} (install : Bool)
    (hpresent : s.bps.gBreakpoints[id]? = some info) (hnative : info.nativePatch = true)
    (hspares : install = true → ∀ x, InRange info.offset info.patchSize x → x ∉ spare) :
    PatchMatched m₀ code spare s (s.withBytes info install) := by
  intro hlive
  have htable := table_of_record hpresent hnative
  refine ⟨hlive, .single ?_⟩
  cases install with
  | true =>
    exact .place id info.toPatch htable fun x hx =>
      hspares rfl x (BreakpointInfo.covers_toPatch_iff.mp hx)
  | false => exact .lift id info.toPatch htable

theorem matched_writeNativeBreakpointBytes (env : Env) {id : ULONG} {info : BreakpointInfo}
    (install : Bool) (hpresent : s.bps.gBreakpoints[id]? = some info) (hnative : info.nativePatch = true)
    (hspares : install = true → ∀ x, InRange info.offset info.patchSize x → x ∉ spare) :
    PatchMatched m₀ code spare s (s.writeNativeBreakpointBytes env info install).1 := by
  obtain h | ⟨-, ⟨h, -⟩ | h⟩ := writeNativeBreakpointBytes_outcome env info install s
  · rw [h]
    exact matched_withBytes install hpresent hnative hspares
  · exact (matched_withBytes install hpresent hnative hspares).trans (matched_of_core h)
  · exact matched_of_core h

/-- Removing the records of a list one after the other takes their patches out; a
failure on the way leaves some of them lifted. -/
theorem removeEach_steps (env : Env) (entries : List (ULONG × BreakpointInfo)) (s : Session)
    {T : ULONG → Option (Patching.Patch 64 BYTE)}
    (hT : ∀ entry ∈ entries, T entry.1 = patchOf (some entry.2))
    (hflush : env.flushInstructionCache = true) :
    ReflTransGen (Patching.Step m₀ code spare) ⟨s.target.memory, T⟩
      ⟨(removeEach env entries s).1.target.memory, T⟩ := by
  induction entries generalizing s with
  | nil => exact .refl
  | cons entry entries ih =>
    obtain ⟨id, info⟩ := entry
    have hrest := fun s => ih s fun entry h => hT entry (List.mem_cons_of_mem _ h)
    have hhead := hT (id, info) (List.mem_cons_self ..)
    simp only [removeEach]
    by_cases hnative : info.nativePatch = true
    · simp only [hnative, if_true]
      rw [patchOf_native hnative] at hhead
      split <;> rename_i s' hwrite
      · have hs := withBytes_of_writeNativeBreakpointBytes hwrite
        subst hs
        exact (ReflTransGen.single (.lift id info.toPatch hhead)).trans (hrest _)
      · rw [(untouched_writeNativeBreakpointBytes hwrite).memory hflush]
    · simp only [hnative]
      have hcore := core_removeBreakpoint2 env info.bp s
      split <;> rename_i s' hremove <;> simp only [Bool.false_eq_true, if_false] at hremove <;>
        rw [hremove] at hcore
      · have hmemory : s'.target.memory = s.target.memory := core_memory hcore
        have hrun := hrest s'
        rwa [hmemory] at hrun
      · have hmemory : s'.target.memory = s.target.memory := core_memory hcore
        rw [hmemory]

theorem removeEach_removes (env : Env) (entries : List (ULONG × BreakpointInfo)) (s : Session)
    {T : ULONG → Option (Patching.Patch 64 BYTE)}
    (hT : ∀ entry ∈ entries, T entry.1 = patchOf (some entry.2))
    (hdistinct : entries.Pairwise fun a b => a.1 ≠ b.1) (hdone : (removeEach env entries s).2 = true) :
    ReflTransGen (Patching.Step m₀ code spare) ⟨s.target.memory, T⟩
      ⟨(removeEach env entries s).1.target.memory,
        fun k => if k ∈ entries.map Prod.fst then none else T k⟩ := by
  induction entries generalizing s T with
  | nil => exact .refl
  | cons entry entries ih =>
    obtain ⟨id, info⟩ := entry
    obtain ⟨hne, hdistinct⟩ := List.pairwise_cons.mp hdistinct
    have hhead := hT (id, info) (List.mem_cons_self ..)
    have htail : ∀ entry ∈ entries, Function.update T id none entry.1 = patchOf (some entry.2) := by
      intro entry hmem
      rw [Function.update_of_ne (hne entry hmem).symm]
      exact hT entry (List.mem_cons_of_mem _ hmem)
    have hfinal : (fun k => if k ∈ entries.map Prod.fst then none else Function.update T id none k) =
        fun k => if k ∈ ((id, info) :: entries).map Prod.fst then none else T k := by
      funext k
      by_cases he : k = id
      · subst he
        simp
      · have hmem : k ∈ ((id, info) :: entries).map Prod.fst ↔ k ∈ entries.map Prod.fst := by
          rw [List.map_cons, List.mem_cons, or_iff_right he]
        rw [Function.update_of_ne he]
        exact if_congr hmem.symm rfl rfl
    have hmatched : ∀ s', (if info.nativePatch then s.writeNativeBreakpointBytes env info false
        else s.removeBreakpoint2 env info.bp) = (s', true) →
        ReflTransGen (Patching.Step m₀ code spare) ⟨s.target.memory, T⟩
          ⟨s'.target.memory, Function.update T id none⟩ := by
      intro s' hremove
      by_cases hnative : info.nativePatch = true
      · rw [if_pos hnative] at hremove
        have hs := withBytes_of_writeNativeBreakpointBytes hremove
        subst hs
        rw [patchOf_native hnative] at hhead
        exact .single (.remove id info.toPatch hhead)
      · rw [if_neg hnative] at hremove
        have hcore := core_removeBreakpoint2 env info.bp s
        rw [hremove] at hcore
        have hmemory : s'.target.memory = s.target.memory := core_memory hcore
        have hnone : T id = none := hhead.trans (if_neg hnative)
        rw [hmemory, Function.update_eq_self_iff.mpr hnone.symm]
    simp only [removeEach] at hdone ⊢
    split at hdone
    · rename_i s' hremove
      have hrun := ih s' htail hdistinct hdone
      rw [hfinal] at hrun
      exact (hmatched s' hremove).trans hrun
    · cases hdone

theorem records_removeEach (env : Env) (entries : List (ULONG × BreakpointInfo)) (s : Session) :
    (removeEach env entries s).1.records = s.records := by
  induction entries generalizing s with
  | nil => rfl
  | cons entry entries ih =>
    obtain ⟨id, info⟩ := entry
    have hstep : (if info.nativePatch then s.writeNativeBreakpointBytes env info false
        else s.removeBreakpoint2 env info.bp).1.records = s.records := by
      split
      · exact records_writeNativeBreakpointBytes env info false s
      · exact records_of_core (core_removeBreakpoint2 env info.bp s)
    simp only [removeEach]
    split <;> rename_i heq <;> rw [heq] at hstep
    · exact (ih _).trans hstep
    · exact hstep

theorem matched_removeAllBreakPoints {env : Env} (hflush : env.flushInstructionCache = true) :
    PatchMatched m₀ code spare s (s.removeAllBreakPoints env).1 := by
  intro hlive
  have hmemoryBreakpoints := core_removeAllMemoryBreakpoints env s
  have hall : PatchMatched m₀ code spare s (s.removeAllMemoryBreakpoints env).1 :=
    matched_of_core hmemoryBreakpoints
  unfold removeAllBreakPoints
  split
  · simp only [hlive.debugging, Bool.not_true, Bool.false_eq_true, if_false]
    exact ⟨hlive, .refl⟩
  split
  · rename_i s₁ hs₁
    rw [hs₁] at hall
    exact hall hlive
  · rename_i s₁ hs₁
    rw [hs₁] at hall
    obtain ⟨hlive₁, hrun₁⟩ := hall hlive
    have hT : ∀ entry ∈ s₁.bps.gBreakpoints.toList, s₁.patches.table entry.1 = patchOf (some entry.2) :=
      fun entry hmem => congrArg patchOf (Std.ExtTreeMap.mem_toList_iff_getElem?_eq_some.mp hmem)
    have hrecords := records_removeEach env s₁.bps.gBreakpoints.toList s₁
    simp only [records, Prod.mk.injEq] at hrecords
    obtain ⟨hmode, hbreakpoints, -⟩ := hrecords
    split <;> rename_i s₂ hs₂ <;> rw [hs₂] at hmode hbreakpoints
    · have hrun₂ : ReflTransGen (Patching.Step m₀ code spare) ⟨s₁.target.memory, s₁.patches.table⟩ _ :=
        removeEach_steps env _ s₁ hT hflush
      rw [hs₂] at hrun₂
      have hpatches : s₂.patches = ⟨s₂.target.memory, s₁.patches.table⟩ := by
        unfold patches
        rw [hbreakpoints]
      refine ⟨hmode.trans hlive₁, hrun₁.trans ?_⟩
      rw [hpatches]
      exact hrun₂
    · have hdistinct : s₁.bps.gBreakpoints.toList.Pairwise fun a b => a.1 ≠ b.1 := by
        refine Std.ExtTreeMap.distinct_keys_toList.imp ?_
        intro a b hab he
        exact hab (Std.LawfulEqCmp.compare_eq_iff_eq.mpr he)
      have hrun₂ : ReflTransGen (Patching.Step m₀ code spare) ⟨s₁.target.memory, s₁.patches.table⟩ _ :=
        removeEach_removes env _ s₁ hT hdistinct (by rw [hs₂])
      rw [hs₂] at hrun₂
      refine ⟨hmode.trans hlive₁, hrun₁.trans ?_⟩
      have hempty : (fun k : ULONG => if k ∈ s₁.bps.gBreakpoints.toList.map Prod.fst then none
          else s₁.patches.table k) = fun _ => none := by
        funext k
        split
        · rfl
        · rename_i hk
          show patchOf s₁.bps.gBreakpoints[k]? = none
          rw [Std.ExtTreeMap.getElem?_eq_none]
          · rfl
          · rwa [← Std.ExtTreeMap.mem_keys, ← Std.ExtTreeMap.map_fst_toList_eq_keys]
      rw [hempty] at hrun₂
      exact hrun₂

end Session

end TitanEngine

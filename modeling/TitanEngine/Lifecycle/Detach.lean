import TitanEngine.Guards.Protection
import TitanEngine.Lifecycle.TrapFlags
import TitanEngine.Model.Api
import TitanEngine.Patches.Undo
import TitanEngine.Removal.Memory

/-! What detaching leaves in the target. -/
namespace TitanEngine
open FlatMemory MapSums Relation Runs

/-- Every call and event is one under which the patches, the protections, the suspensions and the
trap flags of the adapter are each accounted for. -/
def accountRules (m₀ : Memory 64 BYTE) (code : Set ULONG_PTR) : Rules where
  call env call s := (codeRules m₀ code).call env call s ∧ protectionRules.call env call s
  work env work s := (codeRules m₀ code).work env work s ∧ protectionRules.work env work s ∧
    suspensionRules.work env work s ∧ trapRules.work env work s
  target s t := (codeRules m₀ code).target s t ∧ protectionRules.target s t ∧
    suspensionRules.target s t ∧ trapRules.target s t

section Accounts
variable (m₀ : Memory 64 BYTE) (code : Set ULONG_PTR)

theorem accountRules_code : (accountRules m₀ code).Within (codeRules m₀ code) where
  call allowed := allowed.1
  work allowed := allowed.1
  target allowed := allowed.1

theorem accountRules_protection : (accountRules m₀ code).Within protectionRules where
  call allowed := allowed.2
  work allowed := allowed.2.1
  target allowed := allowed.2.1

theorem accountRules_suspension : (accountRules m₀ code).Within suspensionRules where
  call _ := trivial
  work allowed := allowed.2.2.1
  target allowed := allowed.2.2.1

theorem accountRules_trap : (accountRules m₀ code).Within trapRules where
  call _ := trivial
  work allowed := allowed.2.2.2
  target allowed := allowed.2.2.2

end Accounts

namespace Session

/-- A live session that has not done anything to its target. -/
structure Unmarked (s : Session) : Prop where
  live : s.Live
  size : ∃ k < 64, s.targetPageSize = BitVec.twoPow 64 k
  patches : s.hasPatch = false
  memoryBreakpoints : s.bps.gMemoryBreakpoints = ∅
  pages : s.bps.gMemoryBreakpointPages = ∅
  protections : s.target.protection = s.target.ownProtection
  suspended : s.steps.gInternalStepSuspendedThreads = ∅
  counts : s.target.suspends = s.target.resumes
  trapped : s.Trapped

/-- The target is as it would be without the adapter, if its code was `m₀` at first. -/
structure LeftClean (m₀ : Memory 64 BYTE) (code : Set ULONG_PTR) (s : Session) : Prop where
  bytes : ∀ x ∈ code, s.target.memory x = m₀ x
  protections : ∀ page, s.target.protection page = s.target.ownProtection page
  threads : ∀ n, s.target.Lives n → s.target.suspends n = s.target.resumes n
  flags : ∀ (t : ULONG) handle, s.gDebugIdMap.threadIndexToHandle[t]? = some handle →
    s.target.eflags t &&& TRAP_FLAG = 0

/-- No patch is in the memory at the moment, no internal step holds a thread that lives, and none
has the trap flag of its thread set. -/
structure AtRest (s : Session) : Prop where
  patches : ∀ (id : ULONG) info, s.bps.gBreakpoints[id]? = some info → info.nativePatch = true →
    ∀ x b, cell info.offset info.originals x = some b → s.target.memory x = b
  threads : ∀ (t : ULONG) handles, s.steps.gInternalStepSuspendedThreads[t]? = some handles →
    ∀ handle ∈ handles, s.resolve handle = none
  flags : ∀ (t : ULONG) handle, t ∈ s.steps.gInternalStepCallbacks →
    s.gDebugIdMap.threadIndexToHandle[t]? = some handle → s.target.eflags t &&& TRAP_FLAG = 0

variable {s s' : Session} {m₀ : Memory 64 BYTE} {code : Set ULONG_PTR}

/-- Whatever the adapter has put into the target is in its tables. -/
structure Accounted (m₀ : Memory 64 BYTE) (code : Set ULONG_PTR) (s : Session) : Prop where
  sound : Patching.Sound m₀ code s.patches
  indexed : s.Indexed
  restoring : s.Restoring
  balanced : s.Balanced
  trapped : s.Trapped

theorem Unmarked.accounted (h : s.Unmarked) (code : Set ULONG_PTR) : s.Accounted s.target.memory code where
  sound := sound_of_hasPatch h.patches code
  indexed := .of_empty h.live.kind h.size h.memoryBreakpoints h.pages
  restoring := by
    refine ⟨h.live, fun {page info} hinfo => ?_, fun {page} _ => congrFun h.protections page⟩
    rw [h.pages] at hinfo
    exact absurd (mem_of_getElem? hinfo) Std.ExtTreeMap.not_mem_empty
  balanced := balanced_of_idle h.suspended h.counts
  trapped := h.trapped

namespace Accounted

theorem session (h : s.Accounted m₀ code) (hstep : SessionStep (accountRules m₀ code) s s') :
    s'.Accounted m₀ code := by
  have hprotection := (accountRules_protection m₀ code).step hstep
  have hmatched := closed_codeMatched.step (fun _ _ _ _ hwork => hwork)
    ((accountRules_code m₀ code).step hstep) h.restoring.live
  constructor
  · exact Patching.Sound.preserved.run hmatched.2 h.sound
  · exact closed_indexed_protection.step protectionRules_queueBlind hprotection h.indexed
  · exact closed_restoring.step protectionRules_queueBlind hprotection h.restoring
  · exact closed_balanced.step suspensionRules_queueBlind ((accountRules_suspension m₀ code).step hstep) h.balanced
  · exact h.trapped.step ((accountRules_trap m₀ code).step hstep)

/-- A guard that goes off is put down to its page. -/
theorem hit (h : s.Accounted m₀ code) (env : Env) (events : List (Env × Work)) {page : ULONG_PTR}
    (hpage : page ∈ watchedPages s) : ((s.delivered page).stop env events).Accounted m₀ code := by
  have hdelivered : PatchMatched m₀ code ∅ s (s.delivered page) := matched_of_core rfl
  have hmatched := closed_codeMatched.trans hdelivered (closed_codeMatched.stop env events _)
  constructor
  · exact Patching.Sound.preserved.run (hmatched h.restoring.live).2 h.sound
  · exact h.indexed.of_catalogue ((catalogue_of_tables (tables_stop ..)).trans rfl)
  · exact h.restoring.hit env events hpage
  · refine h.balanced.of_threads ?_
    have hroll := roll_recogniseStop env { s.delivered page with gCallbackQueue := events }
    exact congrArg Prod.snd hroll
  · have hdelivered : (s.delivered page).Trapped := h.trapped.of_parts rfl rfl rfl rfl
    exact hdelivered.stop env events

theorem run (h : s.Accounted m₀ code) (hrun : WatchRun (accountRules m₀ code) watchedPages s s') :
    s'.Accounted m₀ code := by
  induction hrun with
  | refl => exact h
  | tail _ hstep ih =>
    cases hstep with
    | session step => exact ih.session step
    | hit running code access guarded allowed => exact ih.hit _ _ allowed

end Accounted

/-- A round for each memory breakpoint leaves none. -/
theorem removeMemoryBreakpoints_empty (env : Env) {rounds : ℕ} (hlive : s.Live)
    (hsize : s.bps.gMemoryBreakpoints.size ≤ rounds) :
    (removeMemoryBreakpoints env rounds s).1.bps.gMemoryBreakpoints = ∅ := by
  induction rounds generalizing s with
  | zero => exact Std.ExtTreeMap.eq_empty_iff_size_eq_zero.mpr (Nat.le_zero.mp hsize)
  | succ rounds ih =>
    unfold removeMemoryBreakpoints
    split
    · rename_i hfirst
      exact Map.first_eq_none_iff.mp hfirst
    · rename_i id info hfirst
      have hinfo := Map.getElem?_of_first hfirst
      obtain ⟨pages, protection, e, heq, -, -⟩ := removeMemoryBreakpointById_outcome env id hlive.kind hinfo
      have hmem : id ∈ s.bps.gMemoryBreakpoints := mem_of_getElem? hinfo
      have hpos : 0 < s.bps.gMemoryBreakpoints.size := by
        rw [Nat.pos_iff_ne_zero]
        intro hzero
        rw [Std.ExtTreeMap.eq_empty_iff_size_eq_zero.mpr hzero] at hmem
        exact Std.ExtTreeMap.not_mem_empty hmem
      dsimp only
      rw [heq]
      refine ih hlive ?_
      show (s.bps.gMemoryBreakpoints.erase id).size ≤ rounds
      rw [Std.ExtTreeMap.size_erase, if_pos (Std.ExtTreeMap.contains_iff_mem.mpr hmem)]
      omega

/-- A session that detaches has each page back in its own protection. -/
theorem Accounted.detached (h : s.Accounted m₀ code) {env : Env}
    (hok : (s.removeAllMemoryBreakpoints env).2 = true) (page : ULONG_PTR) :
    (s.removeAllMemoryBreakpoints env).1.target.protection page =
      (s.removeAllMemoryBreakpoints env).1.target.ownProtection page := by
  have hrestored : (s.removeAllMemoryBreakpoints env).1.Restoring := h.restoring.removedAll_of_true hok
  have hindexed : (s.removeAllMemoryBreakpoints env).1.Indexed := h.indexed.removedAll env _
  have hempty : (s.removeAllMemoryBreakpoints env).1.bps.gMemoryBreakpoints = ∅ :=
    removeMemoryBreakpoints_empty env h.restoring.live (Nat.le_refl _)
  refine hrestored.own fun hmem => ?_
  obtain ⟨info, hinfo⟩ := Option.isSome_iff_exists.mp (Std.ExtTreeMap.mem_iff_isSome_getElem?.mp hmem)
  obtain ⟨id, hid⟩ := hindexed.filled page info hinfo
  obtain ⟨breakpoint, hbreakpoint, -⟩ := (hindexed.index id page).mp ⟨info, hinfo, hid⟩
  rw [hempty] at hbreakpoint
  exact Std.ExtTreeMap.not_mem_empty (mem_of_getElem? hbreakpoint)

namespace Accounted

/-- The code is as it was at first iff no record has its patch in the memory. -/
theorem bytes_iff (h : s.Accounted m₀ code) : (∀ x ∈ code, s.target.memory x = m₀ x) ↔
    ∀ (id : ULONG) info, s.bps.gBreakpoints[id]? = some info → info.nativePatch = true →
      ∀ x b, cell info.offset info.originals x = some b → s.target.memory x = b := by
  constructor
  · intro hbytes id info hinfo hnative x b hb
    have hpatch := table_of_record hinfo hnative
    have hx := h.sound.inside id _ hpatch x (inRange_of_cell hb)
    exact (hbytes x hx).trans (h.sound.captures id _ hpatch x b hb).symm
  · intro hlifted x hx
    by_cases hcovered : s.patches.Covered x
    · obtain ⟨id, p, hp, hin⟩ := hcovered
      obtain ⟨info, hinfo, hnative, rfl⟩ := patchOf_eq_some hp
      obtain ⟨b, hb⟩ := Option.isSome_iff_exists.mp (isSome_cell_iff.mpr hin)
      exact (hlifted id info hinfo hnative x b hb).trans (h.sound.captures id _ hp x b hb)
    · exact h.sound.rest x hx hcovered

/-- Nobody is held iff no handle of the lists stands for a thread. -/
theorem threads_iff (h : s.Accounted m₀ code) :
    (∀ n, s.target.Lives n → s.target.suspends n = s.target.resumes n) ↔
      ∀ (t : ULONG) handles, s.steps.gInternalStepSuspendedThreads[t]? = some handles →
        ∀ handle ∈ handles, s.resolve handle = none := by
  constructor
  · intro hcounts t handles hhandles handle hmem
    cases hresolve : s.resolve handle with
    | none => rfl
    | some n =>
      have hlives : s.target.Lives n := by
        unfold resolve at hresolve
        obtain ⟨native, -, hnative⟩ := Option.bind_eq_some_iff.mp hresolve
        exact ⟨native, hnative⟩
      have hzero : s.held n = 0 := by
        have hbalance := h.balanced.counts hlives
        have hequal := hcounts n hlives
        omega
      have hcount : 0 < s.countOf n handles :=
        List.countP_pos_iff.mpr ⟨handle, hmem, by simp [hresolve]⟩
      have hheld : s.held n = s.countOf n handles + _ := total_erase hhandles
      omega
  · intro hfree n hlives
    have hzero : s.held n = 0 := by
      refine total_eq_zero fun t handles hhandles => ?_
      refine List.countP_eq_zero.mpr fun handle hmem => ?_
      simp [hfree t handles hhandles handle hmem]
    rw [h.balanced.counts hlives, hzero, Nat.add_zero]

theorem flags_iff (h : s.Accounted m₀ code) :
    (∀ (t : ULONG) handle, s.gDebugIdMap.threadIndexToHandle[t]? = some handle →
      s.target.eflags t &&& TRAP_FLAG = 0) ↔
      ∀ (t : ULONG) handle, t ∈ s.steps.gInternalStepCallbacks →
        s.gDebugIdMap.threadIndexToHandle[t]? = some handle → s.target.eflags t &&& TRAP_FLAG = 0 := by
  constructor
  · intro hflags t handle _ hhandle
    exact hflags t handle hhandle
  · intro hpending t handle hhandle
    by_contra hflag
    exact hflag (hpending t handle (h.trapped.pending hhandle hflag) hhandle)

end Accounted

end Session

/-- Detaching leaves the target clean exactly when no patch is in its memory, no internal step
holds a thread that lives, and no thread with an internal step pending has its trap flag set. -/
theorem detach_clean_iff {s s' s'' : Session} {code : Set ULONG_PTR} (hunmarked : s.Unmarked)
    (hrun : WatchRun (accountRules s.target.memory code) watchedPages s s') (hpaused : s'.gPaused = true)
    {env : Env} {error : Option DWORD} (hdetach : s'.detachDebuggerEx env error = (s'', true)) :
    s''.LeftClean s.target.memory code ↔ s'.AtRest := by
  have haccounted := (hunmarked.accounted code).run hrun
  have hlock : s'.pauseLock = true := by
    unfold Session.pauseLock
    rw [hpaused, haccounted.restoring.live.debugging]
    rfl
  have hcore := Session.core_removeAllMemoryBreakpoints env s'
  unfold Session.detachDebuggerEx at hdetach
  rw [if_pos hlock] at hdetach
  split at hdetach
  · cases hdetach
  rename_i s₁ hremoved
  have hprotections := haccounted.detached (congrArg Prod.snd hremoved)
  rw [hremoved] at hcore hprotections
  cases error with
  | some error => cases hdetach
  | none =>
  cases hdetach
  have hframe := Session.field_eq (fun s => (s.target.memory, s.gDebugIdMap, s.target.eflags, s.target.threadOf,
    s.target.suspends, s.target.resumes)) (fun _ => rfl) hcore
  simp only [Prod.mk.injEq] at hframe
  obtain ⟨hmemory, hidMap, heflags, hthreadOf, hsuspends, hresumes⟩ := hframe
  have hlives : ∀ n, s₁.target.Lives n ↔ s'.target.Lives n := by
    intro n
    unfold Target.Lives
    rw [hthreadOf]
  constructor
  · rintro ⟨hbytes, -, hthreads, hflags⟩
    refine ⟨haccounted.bytes_iff.mp fun x hx => ?_, haccounted.threads_iff.mp fun n hn => ?_,
      haccounted.flags_iff.mp fun t handle hhandle => ?_⟩
    · rw [← hmemory]
      exact hbytes x hx
    · rw [← hsuspends, ← hresumes]
      exact hthreads n ((hlives n).mpr hn)
    · rw [← hidMap] at hhandle
      rw [← heflags]
      exact hflags t handle hhandle
  · rintro ⟨hpatches, hthreads, hflags⟩
    refine ⟨fun x hx => ?_, hprotections, fun n hn => ?_, fun t handle hhandle => ?_⟩
    · exact (congrFun hmemory x).trans (haccounted.bytes_iff.mpr hpatches x hx)
    · have hcounts := haccounted.threads_iff.mpr hthreads n ((hlives n).mp hn)
      rw [← hsuspends, ← hresumes] at hcounts
      exact hcounts
    · have hhandle' : s'.gDebugIdMap.threadIndexToHandle[t]? = some handle := by
        rw [← hidMap]
        exact hhandle
      have hflag := haccounted.flags_iff.mpr hflags t handle hhandle'
      rw [← heflags] at hflag
      exact hflag

theorem twoThreadSession_threads {t : ULONG} {handle : HANDLE}
    (h : twoThreadSession.gDebugIdMap.threadIndexToHandle[t]? = some handle) :
    t = 1 ∧ handle = 0x14 ∨ t = 0 ∧ handle = 0x10 := by
  change (((∅ : Map ULONG HANDLE).insert 0 0x10).insert 1 0x14)[t]? = some handle at h
  by_cases hone : t = 1
  · subst hone
    rw [Std.ExtTreeMap.getElem?_insert_self] at h
    exact .inl ⟨rfl, (Option.some.inj h).symm⟩
  · rw [getElem?_insert_of_ne hone] at h
    by_cases hzero : t = 0
    · subst hzero
      rw [Std.ExtTreeMap.getElem?_insert_self] at h
      exact .inr ⟨rfl, (Option.some.inj h).symm⟩
    · rw [getElem?_insert_of_ne hzero] at h
      cases h

theorem twoThreadSession_unmarked : twoThreadSession.Unmarked where
  live := rfl
  size := ⟨12, by decide, by decide⟩
  patches := by decide
  memoryBreakpoints := rfl
  pages := rfl
  protections := rfl
  suspended := rfl
  counts := rfl
  trapped := by
    refine ⟨rfl, fun {t handle} h => ?_, fun {t} h => ?_, fun {t handle} _ hflag => absurd ?_ hflag⟩
    · obtain ⟨rfl, rfl⟩ | ⟨rfl, rfl⟩ := twoThreadSession_threads h <;> decide
    · obtain ⟨-, h⟩ | ⟨-, h⟩ := twoThreadSession_threads h <;> exact absurd h (by decide)
    · show (0 : ULONG_PTR) &&& TRAP_FLAG = 0
      decide

/-- A memory breakpoint is taken back. -/
theorem detach_clean_watched :
    (firstIdSession.detachDebuggerEx {} none).1.LeftClean twoThreadSession.target.memory Set.univ := by
  have hset : CallStep (accountRules twoThreadSession.target.memory Set.univ) twoThreadSession firstIdSession := by
    refine .call ⟨⟨⟨⟨rfl, rfl, rfl⟩, by decide, rfl, by nofun⟩, by nofun⟩, ?_⟩
    refine ⟨fun _ _ _ _ _ _ => Std.ExtTreeMap.not_mem_empty, fun _ _ => rfl, fun _ => by decide, ?_⟩
    intro _ _ _ h
    cases h
  have hrun : WatchRun (accountRules twoThreadSession.target.memory Set.univ) watchedPages
      twoThreadSession firstIdSession := .single (.session (.call hset))
  have hdetach : firstIdSession.detachDebuggerEx {} none =
      ((firstIdSession.detachDebuggerEx {} none).1, true) := Prod.ext rfl (by decide)
  have hrecords : ∀ entry ∈ firstIdSession.bps.gBreakpoints.toList, entry.2.nativePatch = false := by decide
  have hsuspended : ∀ entry ∈ firstIdSession.steps.gInternalStepSuspendedThreads.toList, entry.2 = [] := by
    decide
  have hsteps : firstIdSession.steps.gInternalStepCallbacks.isEmpty = true := by decide
  refine (detach_clean_iff twoThreadSession_unmarked hrun (by decide) hdetach).mpr ⟨?_, ?_, ?_⟩
  · intro id info hid hnative
    have hdata := hrecords (id, info) (Std.ExtTreeMap.mem_toList_iff_getElem?_eq_some.mpr hid)
    rw [hnative] at hdata
    cases hdata
  · intro t handles ht handle hhandle
    have hnone : handles = [] :=
      hsuspended (t, handles) (Std.ExtTreeMap.mem_toList_iff_getElem?_eq_some.mpr ht)
    rw [hnone] at hhandle
    cases hhandle
  · intro t handle ht
    rw [Std.ExtTreeMap.isEmpty_iff.mp hsteps] at ht
    exact absurd ht Std.ExtTreeMap.not_mem_empty

/-- The patch of a breakpoint is left in the code. -/
theorem detach_not_clean :
    ¬ ∀ (s s' s'' : Session) (code : Set ULONG_PTR) (env : Env), s.Unmarked →
      WatchRun (accountRules s.target.memory code) watchedPages s s' → s'.gPaused = true →
        s'.detachDebuggerEx env none = (s'', true) → s''.LeftClean s.target.memory code := by
  intro hclaim
  have hset : CallStep (accountRules twoThreadSession.target.memory Set.univ) twoThreadSession armedSession := by
    refine .call ⟨⟨⟨⟨rfl, rfl, rfl⟩, by decide, rfl, by nofun⟩, ?_⟩, ?_⟩
    · intro address size _ _
      exact ⟨fun x _ => ⟨trivial, rfl⟩, by decide⟩
    · refine ⟨?_, fun _ _ => rfl, fun _ => by decide, ?_⟩
      · intro _ _ _ _ _ h
        cases h
      · intro _ _ _ h
        cases h
  have hdetach : (armedSession.detachDebuggerEx {} none).2 = true := by decide
  have hclean := hclaim twoThreadSession armedSession _ Set.univ {} twoThreadSession_unmarked
    (.single (.session (.call hset))) (by decide) (Prod.ext rfl hdetach)
  exact absurd (hclean.bytes 0x401000 trivial) (by decide)

end TitanEngine

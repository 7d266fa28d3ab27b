import TitanEngine.Suspension.Counts

/-! What keeps the suspensions of internal steps balanced. -/
namespace TitanEngine
open MapSums Relation

namespace Session
variable {s s' : Session}

/-- Suspensions, resumptions and what is held change together. -/
theorem Balanced.of_counts (h : s.Balanced) (hregistry : s'.gHandleRegistry = s.gHandleRegistry)
    (hthreadOf : s'.target.threadOf = s.target.threadOf)
    (hcounts : ∀ n, s'.target.suspends n + s.target.resumes n + s.held n =
      s.target.suspends n + s'.target.resumes n +
        total (fun handles => s.countOf n handles) s'.steps.gInternalStepSuspendedThreads)
    (hpending : ∀ {threadIndex : ULONG}, threadIndex ∈ s'.steps.gInternalStepSuspendedThreads →
      threadIndex ∈ s'.steps.gInternalStepCallbacks) : s'.Balanced where
  counts := by
    rintro n ⟨native, hlives⟩
    rw [hthreadOf] at hlives
    have hs := h.counts ⟨native, hlives⟩
    have hn := hcounts n
    have hheld : s'.held n =
        total (fun handles => s.countOf n handles) s'.steps.gInternalStepSuspendedThreads :=
      total_congr fun _ handles _ => countOf_of_eq hregistry hthreadOf n handles
    omega
  pending := hpending

theorem suspendThreads_subset (env : Env) (handles : List HANDLE) (s : Session) :
    ∀ handle ∈ (s.suspendThreads env handles).2, handle ∈ handles := by
  induction handles generalizing s with
  | nil => exact fun _ h => h
  | cons first handles ih =>
    intro handle hmem
    simp only [suspendThreads] at hmem
    split at hmem
    · rcases List.mem_cons.mp hmem with rfl | hmem
      · exact List.mem_cons_self
      · exact List.mem_cons_of_mem _ (ih _ handle hmem)
    · exact List.mem_cons_of_mem _ (ih _ handle hmem)

/-- Either the peers are held and noted down, or they are let go again. -/
theorem armInternalStep_outcome (env : Env) (threadIndex : ULONG) (thread : HANDLE)
    (actions : List StepAction) (s : Session) :
    ∃ handles s', s' = s.armInternalStep env threadIndex thread actions ∧
      (∀ handle ∈ handles, handle ∈ s.peerHandles threadIndex) ∧ s'.gDebugIdMap = s.gDebugIdMap ∧
      s'.gHandleRegistry = s.gHandleRegistry ∧ s'.target.threadOf = s.target.threadOf ∧
      (∀ n, s'.target.suspends n = s.target.suspends n + s.countOf n handles) ∧
      (s'.steps.gInternalStepCallbacks = s.steps.gInternalStepCallbacks.insert threadIndex actions ∧
          s'.target.resumes = s.target.resumes ∧
          s'.steps.gInternalStepSuspendedThreads =
            s.steps.gInternalStepSuspendedThreads.insert threadIndex
              (s.steps.gInternalStepSuspendedThreads.getD threadIndex [] ++ handles) ∨
        s'.steps.gInternalStepCallbacks = s.steps.gInternalStepCallbacks ∧
          (∀ n, s'.target.resumes n = s.target.resumes n +
            s.countOf n (s.steps.gInternalStepSuspendedThreads.getD threadIndex [] ++ handles)) ∧
          ∃ list, s'.steps.gInternalStepSuspendedThreads =
            (s.steps.gInternalStepSuspendedThreads.insert threadIndex list).erase threadIndex) := by
  have hcount := fun n => suspends_suspendThreads env (s.peerHandles threadIndex) n s
  have hpeers := suspendThreads_subset env (s.peerHandles threadIndex) s
  obtain ⟨suspends, e, hheld⟩ := suspendThreads_eq env (s.peerHandles threadIndex) s
  refine ⟨(s.suspendThreads env (s.peerHandles threadIndex)).2, _, rfl, ?_⟩
  unfold Session.armInternalStep
  dsimp only
  generalize s.steps.gInternalStepSuspendedThreads.getD threadIndex [] ++
    (s.suspendThreads env (s.peerHandles threadIndex)).2 = list
  rw [hheld] at hcount ⊢
  split <;> rename_i s₁ hflags
  · obtain ⟨eflags, e', hset⟩ := setCFlags_eq env thread _ _
    rw [hflags] at hset
    subst hset
    have hresumes := fun n => resumes_resumeThreads list n
      { s with steps.gInternalStepSuspendedThreads :=
                 s.steps.gInternalStepSuspendedThreads.insert threadIndex list
               target.suspends := suspends, target.eflags := eflags, lastError := e' }
    obtain ⟨resumes, e'', hresumed⟩ := resumeThreads_eq list
      { s with steps.gInternalStepSuspendedThreads :=
                 s.steps.gInternalStepSuspendedThreads.insert threadIndex list
               target.suspends := suspends, target.eflags := eflags, lastError := e' }
    rw [hresumed] at hresumes ⊢
    exact ⟨hpeers, rfl, rfl, rfl, hcount, .inr ⟨rfl, hresumes, list, rfl⟩⟩
  · obtain ⟨eflags, e', hset⟩ := setCFlags_eq env thread _ _
    rw [hflags] at hset
    subst hset
    exact ⟨hpeers, rfl, rfl, rfl, hcount, .inl ⟨rfl, rfl, rfl⟩⟩

/-- Holding the peers counts them and notes them down; failing to set the flag undoes both. -/
theorem Balanced.armInternalStep (h : s.Balanced) (env : Env) {threadIndex : ULONG} (thread : HANDLE)
    (actions : List StepAction) (hfree : threadIndex ∉ s.steps.gInternalStepCallbacks) :
    (s.armInternalStep env threadIndex thread actions).Balanced := by
  have hnone : threadIndex ∉ s.steps.gInternalStepSuspendedThreads := fun hmem =>
    hfree (h.pending hmem)
  have hlist : s.steps.gInternalStepSuspendedThreads.getD threadIndex [] = [] :=
    Std.ExtTreeMap.getD_eq_fallback hnone
  obtain ⟨handles, s', hs', -, -, hregistry, hthreadOf, hsuspends, hend⟩ :=
    armInternalStep_outcome env threadIndex thread actions s
  rw [hlist, List.nil_append] at hend
  rw [← hs']
  obtain ⟨hinternal, hresumes, hsuspended⟩ | ⟨hinternal, hresumes, list, hsuspended⟩ := hend
  · refine h.of_counts hregistry hthreadOf (fun n => ?_) fun {k} hk => ?_
    · rw [hsuspended, total_insert hnone, hresumes, hsuspends]
      unfold held
      omega
    · rw [hsuspended, Std.ExtTreeMap.mem_insert] at hk
      rw [hinternal, Std.ExtTreeMap.mem_insert]
      exact hk.imp_right h.pending
  · rw [erase_insert_self hnone] at hsuspended
    refine h.of_counts hregistry hthreadOf (fun n => ?_) fun {k} hk => ?_
    · rw [hsuspended, hresumes, hsuspends]
      unfold held
      omega
    · rw [hsuspended] at hk
      rw [hinternal]
      exact h.pending hk

theorem Balanced.scheduleInternalStep (h : s.Balanced) (env : Env) (action : StepAction) :
    (s.scheduleInternalStep env action).Balanced := by
  unfold Session.scheduleInternalStep
  split
  · exact h
  rename_i threadIndex _
  split
  · rename_i previous hprevious
    refine h.of_counts rfl rfl (fun n => by unfold held; rfl) fun {k} hk => ?_
    rw [Std.ExtTreeMap.mem_insert]
    exact .inr (h.pending hk)
  · rename_i hfree
    obtain ⟨callbacks, ids, htaken⟩ := takeUserStep_eq threadIndex s
    have htakenThreads : (s.takeUserStep threadIndex).1.threads = s.threads := by
      rw [htaken]
      rfl
    have hs := h.of_threads htakenThreads
    have hfree' : threadIndex ∉ (s.takeUserStep threadIndex).1.steps.gInternalStepCallbacks := by
      rw [htaken, Std.ExtTreeMap.mem_iff_isSome_getElem?]
      show ¬ s.steps.gInternalStepCallbacks[threadIndex]?.isSome = true
      rw [hfree]
      decide
    dsimp only
    split
    · exact hs
    · exact hs.armInternalStep env _ _ hfree'

/-- Letting the held threads go counts them and forgets them. -/
theorem Balanced.completeInternalStep {k : Client} {rules : Rules} (hk : k.Follows rules) {env : Env}
    {threadIndex : ULONG} (h : s.Balanced)
    (hstep : s.completeInternalStep k env threadIndex = some s') : s'.Balanced := by
  obtain ⟨hpending, s₁, hroll, rfl⟩ := completeInternalStep_outcome hk hstep
  have hthreads := congrArg Prod.snd hroll
  simp only [roll, threads, Prod.mk.injEq] at hthreads
  obtain ⟨hinternal, hsuspended, hregistry, hthreadOf, hsuspends, hresumes⟩ := hthreads
  have hinternal₁ : s₁.steps.gInternalStepCallbacks =
      s.steps.gInternalStepCallbacks.erase threadIndex := hinternal
  have hregistry₁ : s₁.gHandleRegistry = s.gHandleRegistry := hregistry
  have hthreadOf₁ : s₁.target.threadOf = s.target.threadOf := hthreadOf
  have hsuspends₁ : s₁.target.suspends = s.target.suspends := hsuspends
  have hresumes₁ : s₁.target.resumes = s.target.resumes := hresumes
  have hsuspended₁ : s₁.steps.gInternalStepSuspendedThreads =
      s.steps.gInternalStepSuspendedThreads := hsuspended
  have hkept : ∀ {k : ULONG}, k ≠ threadIndex → k ∈ s.steps.gInternalStepSuspendedThreads →
      k ∈ s₁.steps.gInternalStepCallbacks := by
    intro k hne hmem
    rw [hinternal₁, Std.ExtTreeMap.mem_erase]
    exact ⟨fun he => hne (Std.LawfulEqCmp.compare_eq_iff_eq.mp he).symm, h.pending hmem⟩
  unfold releaseThreads
  split
  · rename_i handles hhandles
    have hlist : s.steps.gInternalStepSuspendedThreads[threadIndex]? = some handles := by
      rw [← hhandles, hsuspended]
      rfl
    have hcount := fun n => resumes_resumeThreads handles n s₁
    obtain ⟨resumes, e', hresumed⟩ := resumeThreads_eq handles s₁
    rw [hresumed] at hcount ⊢
    refine h.of_counts hregistry hthreadOf (fun n => ?_) fun {k} hmem => ?_
    · have hn : resumes n = s.target.resumes n + s.countOf n handles := by
        rw [← countOf_of_eq hregistry₁ hthreadOf₁, ← hresumes₁]
        exact hcount n
      have htotal : s.held n = s.countOf n handles + total (fun handles => s.countOf n handles)
        (s.steps.gInternalStepSuspendedThreads.erase threadIndex) := total_erase hlist
      show s₁.target.suspends n + s.target.resumes n + s.held n = s.target.suspends n + resumes n +
        total (fun handles => s.countOf n handles)
          (s₁.steps.gInternalStepSuspendedThreads.erase threadIndex)
      rw [hsuspended₁, hsuspends₁, hn, htotal]
      omega
    · have hmem' : k ∈ s₁.steps.gInternalStepSuspendedThreads.erase threadIndex := hmem
      rw [hsuspended, Std.ExtTreeMap.mem_erase] at hmem'
      exact hkept (fun he => hmem'.1 (Std.LawfulEqCmp.compare_eq_iff_eq.mpr he.symm)) hmem'.2
  · rename_i hhandles
    have hlist : s.steps.gInternalStepSuspendedThreads[threadIndex]? = none := by
      rw [← hhandles, hsuspended]
      rfl
    refine h.of_counts hregistry hthreadOf (fun n => ?_) fun {k} hmem => ?_
    · rw [hsuspended, hsuspends, hresumes]
      rfl
    · rw [hsuspended] at hmem
      refine hkept ?_ hmem
      rintro rfl
      have hmem' : k ∈ s.steps.gInternalStepSuspendedThreads := hmem
      rw [Std.ExtTreeMap.mem_iff_isSome_getElem?, hlist] at hmem'
      cases hmem'

end Session

end TitanEngine

import TitanEngine.Suspension.Runs

/-! Whether two internal steps can hold each other's threads. -/
namespace TitanEngine
open MapSums Relation

namespace Session

/-- The thread that an index of the engine stands for. -/
def threadAt (threadIndex : ULONG) (s : Session) : Option ℕ :=
  s.gDebugIdMap.threadIndexToHandle[threadIndex]?.bind s.resolve

/-- Different indices of the engine stand for different threads. -/
def Distinct (s : Session) : Prop :=
  ∀ {t u : ULONG} {n : ℕ}, s.threadAt t = some n → s.threadAt u = some n → t = u

/-- The thread of an event comes under an index and a handle that no other thread has. -/
structure NewThread (env : Env) (handle : HANDLE) (s : Session) : Prop where
  freshIndex : env.currentThreadId.getD (BitVec.allOnes 32) ∉ s.gDebugIdMap.threadIndexToHandle
  freshHandle : ∀ {t : ULONG}, s.gDebugIdMap.threadIndexToHandle[t]? ≠ some handle
  freshThread : ∀ {t : ULONG} {n : ℕ}, s.threadAt t = some n →
    s.target.threadOf handle ≠ some n ∧ s.resolve handle ≠ some n

end Session

/-- A thread is entered once, and an exception asks for no internal step of its thread while
another thread is on one. -/
def aloneRules : Rules where
  call _ _ _ := True
  target := Session.ThreadChange
  work env work s := suspensionRules.work env work s ∧
    match work with
    | .createThread handle => s.NewThread env handle
    | .createProcess _ initialThread => s.NewThread env initialThread
    | .exception info => s.Arms info → ∀ t, t ∈ s.steps.gInternalStepCallbacks →
        env.currentThreadId = some t
    | _ => True

namespace Session
variable {s s' : Session}

/-- At most one internal step is pending, and it does not hold its own thread. -/
structure Alone (s : Session) : Prop where
  balanced : s.Balanced
  distinct : s.Distinct
  known : ∀ {t : ULONG}, t ∈ s.steps.gInternalStepCallbacks → t ∈ s.gDebugIdMap.threadIndexToHandle
  alone : ∀ {t u : ULONG}, t ∈ s.steps.gInternalStepCallbacks → u ∈ s.steps.gInternalStepCallbacks →
    t = u
  apart : ∀ {t : ULONG} {handles : List HANDLE} {handle : HANDLE} {n : ℕ},
    s.steps.gInternalStepSuspendedThreads[t]? = some handles → handle ∈ handles →
      s.resolve handle = some n → s.threadAt t ≠ some n

/-- The thread of a pending internal step is held by none. -/
theorem Alone.held_eq_zero (h : s.Alone) {t : ULONG} {n : ℕ}
    (hpending : t ∈ s.steps.gInternalStepCallbacks) (hthread : s.threadAt t = some n) :
    s.held n = 0 := by
  unfold held
  refine total_eq_zero fun u handles hhandles => ?_
  have hu : u ∈ s.steps.gInternalStepSuspendedThreads := by
    rw [Std.ExtTreeMap.mem_iff_isSome_getElem?, hhandles]
    rfl
  obtain rfl := h.alone hpending (h.balanced.pending hu)
  unfold countOf
  rw [List.countP_eq_zero]
  intro handle hmem hresolve
  exact h.apart hhandles hmem (of_decide_eq_true hresolve) hthread

/-- What forgets threads, steps and handles leaves the steps apart. -/
theorem Alone.of_le (h : s.Alone) (hbalanced : s'.Balanced)
    (hcallbacks : ∀ t : ULONG, t ∈ s'.steps.gInternalStepCallbacks → t ∈ s.steps.gInternalStepCallbacks ∧
      s'.gDebugIdMap.threadIndexToHandle[t]? = s.gDebugIdMap.threadIndexToHandle[t]?)
    (hsuspended : ∀ (t : ULONG) (handles : List HANDLE), s'.steps.gInternalStepSuspendedThreads[t]? = some handles →
      s.steps.gInternalStepSuspendedThreads[t]? = some handles)
    (hindex : ∀ (t : ULONG) (handle : HANDLE), s'.gDebugIdMap.threadIndexToHandle[t]? = some handle →
      s.gDebugIdMap.threadIndexToHandle[t]? = some handle)
    (hresolve : ∀ handle n, s'.resolve handle = some n → s.resolve handle = some n) : s'.Alone := by
  have hthread : ∀ t n, s'.threadAt t = some n → s.threadAt t = some n := by
    intro t n ht
    unfold threadAt at ht ⊢
    rw [Option.bind_eq_some_iff] at ht ⊢
    obtain ⟨handle, hhandle, hn⟩ := ht
    exact ⟨handle, hindex t handle hhandle, hresolve handle n hn⟩
  refine ⟨hbalanced, fun ht hu => h.distinct (hthread _ _ ht) (hthread _ _ hu), fun {t} ht => ?_,
    fun ht hu => h.alone (hcallbacks _ ht).1 (hcallbacks _ hu).1, fun hhandles hmem hn ht => ?_⟩
  · have hknown := h.known (hcallbacks t ht).1
    rw [Std.ExtTreeMap.mem_iff_isSome_getElem?] at hknown ⊢
    rw [(hcallbacks t ht).2]
    exact hknown
  · exact h.apart (hsuspended _ _ hhandles) hmem (hresolve _ _ hn) (hthread _ _ ht)

theorem Alone.of_roll (h : s.Alone) (hroll : s'.roll = s.roll) : s'.Alone := by
  have hbalanced := h.balanced.of_threads (congrArg Prod.snd hroll)
  have hresolve := resolve_of_roll hroll
  have hsuspended := suspended_of_roll hroll
  simp only [roll, threads, Prod.mk.injEq] at hroll
  obtain ⟨hidMap, hinternal, -⟩ := hroll
  refine h.of_le hbalanced (fun t ht => ?_) (fun t handles hhandles => ?_) (fun t handle hhandle => ?_)
    fun handle n hn => ?_
  · rw [hinternal] at ht
    exact ⟨ht, by rw [hidMap]⟩
  · rwa [hsuspended] at hhandles
  · rwa [hidMap] at hhandle
  · rwa [hresolve] at hn

theorem mem_peerHandles {threadIndex : ULONG} {handle : HANDLE} {s : Session}
    (h : handle ∈ s.peerHandles threadIndex) :
    ∃ u, u ≠ threadIndex ∧ s.gDebugIdMap.threadIndexToHandle[u]? = some handle := by
  unfold peerHandles at h
  obtain ⟨⟨u, handle'⟩, hmem, rfl⟩ := List.mem_map.mp h
  rw [List.mem_filter, Std.ExtTreeMap.mem_toList_iff_getElem?_eq_some] at hmem
  exact ⟨u, of_decide_eq_true hmem.2, hmem.1⟩

/-- A new thread comes beside those that are there. -/
theorem Alone.newThread (h : s.Alone) {env : Env} {handle : HANDLE} (hnew : s.NewThread env handle)
    (hbalanced : s'.Balanced) (hsteps : s'.steps = s.steps)
    (hindex : s'.gDebugIdMap.threadIndexToHandle = s.gDebugIdMap.threadIndexToHandle.insert
      (env.currentThreadId.getD (BitVec.allOnes 32)) handle)
    (hresolve : ∀ other, s'.resolve other = s.resolve other ∨
      other = handle ∧ s'.resolve other = s.target.threadOf handle)
    (hheld : ∀ other, s.HoldsThread other → s'.resolve other = s.resolve other) : s'.Alone := by
  obtain ⟨hfreshIndex, hfreshHandle, hfreshThread⟩ := hnew
  generalize env.currentThreadId.getD (BitVec.allOnes 32) = new at hfreshIndex hindex
  have hold : ∀ t, t ≠ new → s'.threadAt t = s.threadAt t := by
    intro t hne
    unfold threadAt
    rw [hindex, getElem?_insert_of_ne hne]
    cases hhandle : s.gDebugIdMap.threadIndexToHandle[t]? with
    | none => rfl
    | some other =>
      obtain hsame | ⟨rfl, -⟩ := hresolve other
      · exact hsame
      · exact absurd hhandle hfreshHandle
  have hnone : ∀ {t n}, t ≠ new → s'.threadAt t = some n → s'.threadAt new ≠ some n := by
    intro t n hne ht hn
    rw [hold t hne] at ht
    obtain ⟨hthread, hregistered⟩ := hfreshThread ht
    unfold threadAt at hn
    rw [hindex, Std.ExtTreeMap.getElem?_insert_self, Option.bind_some] at hn
    obtain hsame | ⟨-, hsame⟩ := hresolve handle
    · exact hregistered (hsame ▸ hn)
    · exact hthread (hsame ▸ hn)
  have hpending : ∀ {t}, t ∈ s.steps.gInternalStepCallbacks → t ≠ new := by
    rintro t ht rfl
    exact hfreshIndex (h.known ht)
  refine ⟨hbalanced, fun {t u n} ht hu => ?_, fun {t} ht => ?_, ?_, fun {t handles other n} hhandles hmem hn ht => ?_⟩
  · by_cases hte : t = new
    · subst hte
      by_contra hne
      exact hnone (fun he => hne he.symm) hu ht
    · by_cases hue : u = new
      · subst hue
        exact absurd hu (hnone hte ht)
      · rw [hold t hte] at ht
        rw [hold u hue] at hu
        exact h.distinct ht hu
  · rw [hsteps] at ht
    rw [hindex, Std.ExtTreeMap.mem_insert]
    exact .inr (h.known ht)
  · rw [hsteps]
    exact h.alone
  · rw [hsteps] at hhandles
    have hmemt : t ∈ s.steps.gInternalStepSuspendedThreads := by
      rw [Std.ExtTreeMap.mem_iff_isSome_getElem?, hhandles]
      rfl
    rw [hold t (hpending (h.balanced.pending hmemt))] at ht
    rw [hheld other ⟨t, handles, hhandles, hmem⟩] at hn
    exact h.apart hhandles hmem hn ht

theorem Alone.enterThread (h : s.Alone) {env : Env} {handle : HANDLE}
    (hfree : s.mayRegister handle (s.target.threadOf handle)) (hnew : s.NewThread env handle) :
    (s.enterThread env handle).Alone := by
  have hregister := fun other => resolve_registerTitanHandle handle other .thread
    (env.currentThreadId.getD (BitVec.allOnes 32)) (debugThreadId env) false
    (s.rememberThread handle (env.currentThreadId.getD (BitVec.allOnes 32)))
  have hresolve : ∀ other, (s.enterThread env handle).resolve other = s.resolve other ∨
      other = handle ∧ (s.enterThread env handle).resolve other = s.target.threadOf handle := hregister
  refine h.newThread hnew (h.balanced.enterThread env hfree) ?_ ?_ hresolve fun other hholds => ?_
  · unfold Session.enterThread registerTitanHandle
    dsimp only
    split <;> rfl
  · unfold Session.enterThread registerTitanHandle
    dsimp only
    split <;> rfl
  · obtain hsame | ⟨rfl, hthread⟩ := hresolve other
    · exact hsame
    · rw [hthread, hfree hholds]

theorem Alone.registerProcess (h : s.Alone) (env : Env) {handle : HANDLE}
    (hfree : s.mayRegister handle none) (processIndex : ULONG) :
    (s.registerProcess env handle processIndex).Alone := by
  obtain ⟨hsteps, -, hindex⟩ := registerProcess_eq env handle processIndex s
  refine h.of_le (h.balanced.registerProcess env hfree processIndex) (fun t ht => ?_)
    (fun t handles hhandles => ?_) (fun t other hother => ?_) fun other n hn => ?_
  · rw [hsteps] at ht
    exact ⟨ht, by rw [hindex]⟩
  · rwa [hsteps] at hhandles
  · rwa [hindex] at hother
  · obtain hsame | ⟨-, hnone⟩ := resolve_registerProcess env handle other processIndex s
    · rwa [hsame] at hn
    · rw [hnone] at hn
      cases hn

theorem NewThread.registerProcess {env : Env} {handle initialThread : HANDLE} (processIndex : ULONG)
    (hnew : s.NewThread env initialThread) :
    (s.registerProcess env handle processIndex).NewThread env initialThread := by
  obtain ⟨hsteps, htarget, hindex⟩ := registerProcess_eq env handle processIndex s
  obtain ⟨hfreshIndex, hfreshHandle, hfreshThread⟩ := hnew
  have hle : ∀ other n, (s.registerProcess env handle processIndex).resolve other = some n →
      s.resolve other = some n := by
    intro other n hn
    obtain hsame | ⟨-, hnone⟩ := resolve_registerProcess env handle other processIndex s
    · rwa [hsame] at hn
    · rw [hnone] at hn
      cases hn
  refine ⟨by rwa [hindex], by rwa [hindex], fun {t n} ht => ?_⟩
  have ht' : s.threadAt t = some n := by
    unfold threadAt at ht ⊢
    rw [hindex, Option.bind_eq_some_iff] at ht
    rw [Option.bind_eq_some_iff]
    obtain ⟨other, hother, hn⟩ := ht
    exact ⟨other, hother, hle other n hn⟩
  rw [htarget]
  exact ⟨(hfreshThread ht').1, fun hn => (hfreshThread ht').2 (hle _ _ hn)⟩

theorem Alone.enterProcess (h : s.Alone) {env : Env} {handle initialThread : HANDLE}
    (hfree : s.mayRegister handle none)
    (hthread : s.mayRegister initialThread (s.target.threadOf initialThread))
    (hnew : s.NewThread env initialThread) : (s.enterProcess env handle initialThread).Alone := by
  obtain he | ⟨processIndex, he⟩ | ⟨processIndex, he⟩ :=
    enterProcess_outcome env handle initialThread s <;> rw [he]
  · exact h
  · exact (h.registerProcess env hfree processIndex).enterThread
      (mayRegister_registerProcess env processIndex hfree hthread) (hnew.registerProcess processIndex)
  · have hbalanced : ((s.rememberProcess handle processIndex).rememberThread initialThread
        (env.currentThreadId.getD (BitVec.allOnes 32))).Balanced := h.balanced.of_threads rfl
    exact h.newThread hnew hbalanced rfl rfl (fun _ => .inl rfl) fun _ _ => rfl

theorem Alone.forgetThread (h : s.Alone) {threadIndex : ULONG} {threadHandle : Option HANDLE}
    (hgone : ∀ handle, threadHandle = some handle → s.resolve handle = none)
    (hfree : ∀ handles, s.steps.gInternalStepSuspendedThreads[threadIndex]? = some handles →
      ∀ handle ∈ handles, s.resolve handle = none) :
    (s.forgetThread threadIndex threadHandle).Alone := by
  have hbalanced := h.balanced.forgetThread hgone hfree
  have hforgotten : (s.forgetThread threadIndex threadHandle).steps.gInternalStepCallbacks =
        s.steps.gInternalStepCallbacks.erase threadIndex ∧
      (s.forgetThread threadIndex threadHandle).steps.gInternalStepSuspendedThreads =
        s.steps.gInternalStepSuspendedThreads.erase threadIndex ∧
      ((s.forgetThread threadIndex threadHandle).gDebugIdMap.threadIndexToHandle =
          s.gDebugIdMap.threadIndexToHandle ∨
        (s.forgetThread threadIndex threadHandle).gDebugIdMap.threadIndexToHandle =
          s.gDebugIdMap.threadIndexToHandle.erase threadIndex) ∧
      ∀ other n, (s.forgetThread threadIndex threadHandle).resolve other = some n →
        s.resolve other = some n := by
    unfold Session.forgetThread
    cases threadHandle with
    | none => exact ⟨rfl, rfl, .inl rfl, fun _ _ hn => hn⟩
    | some handle =>
      dsimp only
      split
      · exact ⟨rfl, rfl, .inl rfl, fun _ _ hn => hn⟩
      · refine ⟨rfl, rfl, .inr rfl, fun other n hn => ?_⟩
        have hn' : (s.unregisterTitanHandle handle).resolve other = some n := hn
        exact resolve_of_unregister hn'
  obtain ⟨hinternal, hsuspended, hindex, hresolve⟩ := hforgotten
  refine h.of_le hbalanced (fun t ht => ?_) (fun t handles hhandles => ?_) (fun t other hother => ?_)
    hresolve
  · rw [hinternal, mem_erase_iff] at ht
    refine ⟨ht.2, ?_⟩
    rcases hindex with hindex | hindex <;> rw [hindex]
    exact getElem?_erase_of_ne ht.1
  · rw [hsuspended] at hhandles
    exact getElem?_of_erase hhandles
  · rcases hindex with hindex | hindex <;> rw [hindex] at hother
    · exact hother
    · exact getElem?_of_erase hother

theorem Alone.forgetProcess (h : s.Alone) (processIndex : ULONG) {processHandle : Option HANDLE}
    (hfree : ∀ handle, processHandle = some handle → s.mayRegister handle none) :
    (s.forgetProcess processIndex processHandle).Alone := by
  have hbalanced := h.balanced.forgetProcess processIndex hfree
  have hforgotten : (s.forgetProcess processIndex processHandle).steps = s.steps ∧
      (s.forgetProcess processIndex processHandle).gDebugIdMap.threadIndexToHandle =
        s.gDebugIdMap.threadIndexToHandle ∧
      ∀ other n, (s.forgetProcess processIndex processHandle).resolve other = some n →
        s.resolve other = some n := by
    unfold Session.forgetProcess
    cases processHandle with
    | none => exact ⟨rfl, rfl, fun _ _ hn => hn⟩
    | some handle =>
      dsimp only
      split
      · exact ⟨rfl, rfl, fun _ _ hn => hn⟩
      · refine ⟨rfl, rfl, fun other n hn => ?_⟩
        have hn' : (s.unregisterTitanHandle handle).resolve other = some n := hn
        exact resolve_of_unregister hn'
  obtain ⟨hsteps, hindex, hresolve⟩ := hforgotten
  refine h.of_le hbalanced (fun t ht => ?_) (fun t handles hhandles => ?_) (fun t other hother => ?_)
    hresolve
  · rw [hsteps] at ht
    exact ⟨ht, by rw [hindex]⟩
  · rwa [hsteps] at hhandles
  · rwa [hindex] at hother

theorem Alone.target (h : s.Alone) {t : Target} (ht : s.ThreadChange t) :
    Alone { s with target := t } := by
  refine h.of_le (h.balanced.target ht) (fun _ hu => ⟨hu, rfl⟩) (fun _ _ hhandles => hhandles)
    (fun _ _ hother => hother) fun handle n hn => ?_
  have hlives : t.Lives n := by
    have hn' := hn
    unfold resolve at hn'
    rw [Option.bind_eq_some_iff] at hn'
    obtain ⟨native, -, hnative⟩ := hn'
    exact ⟨native, hnative⟩
  exact (ht.resolve_iff hlives handle).mp hn

theorem Alone.completeInternalStep {k : Client} {rules : Rules} (hk : k.Follows rules) {env : Env}
    {threadIndex : ULONG} (h : s.Alone)
    (hstep : s.completeInternalStep k env threadIndex = some s') : s'.Alone := by
  have hbalanced := h.balanced.completeInternalStep hk hstep
  obtain ⟨-, s₁, hroll, rfl⟩ := completeInternalStep_outcome hk hstep
  obtain ⟨resumes, e, hreleased⟩ := releaseThreads_eq threadIndex s₁
  rw [hreleased] at hbalanced ⊢
  have hresolve := resolve_of_roll hroll
  have hsuspended := suspended_of_roll hroll
  simp only [roll, threads, Prod.mk.injEq] at hroll
  obtain ⟨hidMap, hinternal, -⟩ := hroll
  refine h.of_le hbalanced (fun t ht => ?_) (fun t handles hhandles => ?_) (fun t other hother => ?_)
    fun other n hn => ?_
  · have ht' : t ∈ s₁.steps.gInternalStepCallbacks := ht
    rw [hinternal] at ht'
    refine ⟨(mem_erase_iff.mp ht').2, ?_⟩
    show s₁.gDebugIdMap.threadIndexToHandle[t]? = _
    rw [hidMap]
    rfl
  · have hhandles' : s₁.steps.gInternalStepSuspendedThreads[t]? = some handles :=
      getElem?_of_erase hhandles
    rwa [hsuspended] at hhandles'
  · have hother' : s₁.gDebugIdMap.threadIndexToHandle[t]? = some other := hother
    rwa [hidMap] at hother'
  · have hn' : s₁.resolve other = some n := hn
    rwa [hresolve] at hn'

/-- While no other thread is on an internal step, holding the other threads holds none that is. -/
theorem Alone.armInternalStep (h : s.Alone) (env : Env) {threadIndex : ULONG} (thread : HANDLE)
    (actions : List StepAction) (hknown : threadIndex ∈ s.gDebugIdMap.threadIndexToHandle)
    (hidle : s.steps.gInternalStepCallbacks = ∅) :
    (s.armInternalStep env threadIndex thread actions).Alone := by
  have hfree : threadIndex ∉ s.steps.gInternalStepCallbacks := by
    rw [hidle]
    exact Std.ExtTreeMap.not_mem_empty
  have hbalanced := h.balanced.armInternalStep env thread actions hfree
  obtain ⟨handles, s', hs', hpeers, hidMap, hregistry, hthreadOf, -, hend⟩ :=
    armInternalStep_outcome env threadIndex thread actions s
  rw [← hs'] at hbalanced ⊢
  have hresolve : ∀ other, s'.resolve other = s.resolve other := resolve_of_eq hregistry hthreadOf
  have hthread : ∀ t, s'.threadAt t = s.threadAt t := by
    intro t
    unfold threadAt
    rw [hidMap]
    congr 1
    exact funext hresolve
  have hempty : s.steps.gInternalStepSuspendedThreads = ∅ := by
    rw [Std.ExtTreeMap.eq_empty_iff_forall_not_mem]
    intro t ht
    have hpending := h.balanced.pending ht
    rw [hidle] at hpending
    exact Std.ExtTreeMap.not_mem_empty hpending
  obtain ⟨hinternal, -, hsuspended⟩ | ⟨hinternal, -, list, hsuspended⟩ := hend
  · have honly : ∀ t, t ∈ s'.steps.gInternalStepCallbacks → t = threadIndex := by
      intro t ht
      rw [hinternal, hidle, Std.ExtTreeMap.mem_insert] at ht
      rcases ht with ht | ht
      · exact (Std.LawfulEqCmp.compare_eq_iff_eq.mp ht).symm
      · exact absurd ht Std.ExtTreeMap.not_mem_empty
    refine ⟨hbalanced, fun {t u n} ht hu => ?_, fun {t} ht => ?_, fun {t u} ht hu => ?_,
      fun {t list other n} hlist hmem hn ht => ?_⟩
    · rw [hthread] at ht hu
      exact h.distinct ht hu
    · rw [honly t ht, hidMap]
      exact hknown
    · rw [honly t ht, honly u hu]
    · have hte : t = threadIndex := honly t (hbalanced.pending (mem_of_getElem? hlist))
      subst hte
      rw [hsuspended, hempty, Std.ExtTreeMap.getElem?_insert_self] at hlist
      have hmem' : other ∈ handles := by
        rw [← Option.some.inj hlist] at hmem
        simpa using hmem
      obtain ⟨u, hne, hu⟩ := mem_peerHandles (hpeers other hmem')
      rw [hresolve] at hn
      rw [hthread] at ht
      have hu' : s.threadAt u = some n := by
        unfold threadAt
        rw [hu, Option.bind_some, hn]
      exact hne (h.distinct hu' ht)
  · have hnone : threadIndex ∉ s.steps.gInternalStepSuspendedThreads := by
      rw [hempty]
      exact Std.ExtTreeMap.not_mem_empty
    rw [erase_insert_self hnone] at hsuspended
    refine h.of_le hbalanced (fun t ht => ?_) (fun t handles hhandles => ?_) (fun t other hother => ?_)
      fun other n hn => ?_
    · rw [hinternal] at ht
      exact ⟨ht, by rw [hidMap]⟩
    · rwa [hsuspended] at hhandles
    · rwa [hidMap] at hother
    · rwa [hresolve] at hn

theorem Alone.scheduleInternalStep (h : s.Alone) (env : Env) (action : StepAction)
    (hidle : ∀ t, t ∈ s.steps.gInternalStepCallbacks → env.currentThreadId = some t) :
    (s.scheduleInternalStep env action).Alone := by
  have hbalanced := h.balanced.scheduleInternalStep env action
  unfold Session.scheduleInternalStep at hbalanced ⊢
  split at hbalanced
  · exact h
  rename_i threadIndex hthread
  split at hbalanced
  · rename_i previous hprevious
    refine h.of_le hbalanced (fun t ht => ⟨?_, rfl⟩) (fun _ _ hhandles => hhandles)
      (fun _ _ hother => hother) fun _ _ hn => hn
    have ht' : t ∈ s.steps.gInternalStepCallbacks.insert threadIndex (previous ++ [action]) := ht
    rw [Std.ExtTreeMap.mem_insert] at ht'
    rcases ht' with ht' | ht'
    · rw [← Std.LawfulEqCmp.compare_eq_iff_eq.mp ht']
      exact mem_of_getElem? hprevious
    · exact ht'
  · rename_i hfree
    obtain ⟨callbacks, ids, htaken⟩ := takeUserStep_eq threadIndex s
    have htakenRoll : (s.takeUserStep threadIndex).1.roll = s.roll := by
      rw [htaken]
      rfl
    have hs := h.of_roll htakenRoll
    dsimp only
    split
    · exact hs
    · rename_i thread hindex
      refine hs.armInternalStep env thread _ (mem_of_getElem? hindex) ?_
      rw [htaken, Std.ExtTreeMap.eq_empty_iff_forall_not_mem]
      intro t ht
      have ht' : t ∈ s.steps.gInternalStepCallbacks := ht
      have hte := hidle t ht'
      rw [hthread] at hte
      cases hte
      rw [Std.ExtTreeMap.mem_iff_isSome_getElem?, hfree] at ht'
      cases ht'

theorem closed_alone : RollClosed aloneRules fun s s' => s.Alone → s'.Alone where
  trans hab hbc h := hbc (hab h)
  same hroll h := h.of_roll hroll
  schedule {env info s s'} action hallowed harms hroll h := by
    refine h.scheduleInternalStep env action fun t ht => ?_
    simp only [roll, threads, Prod.mk.injEq] at hroll
    rw [hroll.2.1] at ht
    exact hallowed.2 harms t ht
  complete hk hstep h := h.completeInternalStep hk hstep
  enterThread hallowed h := h.enterThread hallowed.1.2 hallowed.2
  enterProcess hallowed h := h.enterProcess hallowed.1.2.1 hallowed.1.2.2 hallowed.2
  forgetThread {env code s s'} hallowed hroll h := by
    obtain ⟨⟨hgone, hfree⟩, -⟩ := hallowed
    refine h.forgetThread (fun handle hhandle => ?_) fun handles hhandles handle hmem => ?_
    · rw [resolve_of_roll hroll]
      exact hgone handle hhandle
    · rw [suspended_of_roll hroll] at hhandles
      rw [resolve_of_roll hroll]
      exact hfree handles hhandles handle hmem
  forgetProcess {env code s s'} hallowed hroll h := by
    refine h.forgetProcess _ fun handle hhandle hholds => ?_
    rw [resolve_of_roll hroll]
    refine hallowed.1.2 handle hhandle ?_
    unfold HoldsThread at hholds ⊢
    rwa [suspended_of_roll hroll] at hholds
  target hallowed h := h.target hallowed

end Session

theorem aloneRules_queueBlind : aloneRules.QueueBlind := by
  intro env work s rest h
  obtain ⟨hsuspension, halone⟩ := h
  refine ⟨suspensionRules_queueBlind env work s rest hsuspension, ?_⟩
  cases work with
  | exception info =>
    intro harms
    refine halone ?_
    cases harms with
    | page code parameters watched => exact .page code parameters watched
    | native code found stays => exact .native code found stays
  | createThread handle => exact ⟨halone.freshIndex, halone.freshHandle, halone.freshThread⟩
  | createProcess handle initialThread =>
    exact ⟨halone.freshIndex, halone.freshHandle, halone.freshThread⟩
  | _ => trivial

/-- As long as internal steps are asked for one at a time, and no thread exits that holds
others, a thread on an internal step is never kept suspended. -/
theorem internal_steps_not_deadlocked {s s' : Session} (hinternal : s.steps.gInternalStepCallbacks = ∅)
    (hsuspended : s.steps.gInternalStepSuspendedThreads = ∅)
    (hcounts : s.target.suspends = s.target.resumes) (hdistinct : s.Distinct)
    (hrun : Run aloneRules s s') (hpending : s'.steps.gInternalStepCallbacks ≠ ∅) :
    ∃ threadIndex ∈ s'.steps.gInternalStepCallbacks, ∀ n, s'.threadAt threadIndex = some n →
      s'.target.suspends n = s'.target.resumes n := by
  have hs : s.Alone := by
    refine ⟨Session.balanced_of_idle hsuspended hcounts, hdistinct, fun {t} ht => ?_, fun {t u} ht _ => ?_,
      fun {t handles _ _} hhandles _ _ => ?_⟩
    · rw [hinternal] at ht
      exact absurd ht Std.ExtTreeMap.not_mem_empty
    · rw [hinternal] at ht
      exact absurd ht Std.ExtTreeMap.not_mem_empty
    · rw [hsuspended] at hhandles
      cases hhandles
  have hs' := Session.closed_alone.run aloneRules_queueBlind hrun hs
  obtain ⟨threadIndex, hmem⟩ : ∃ t, t ∈ s'.steps.gInternalStepCallbacks := by
    by_contra hnone
    exact hpending (Std.ExtTreeMap.eq_empty_iff_forall_not_mem.mpr fun t ht => hnone ⟨t, ht⟩)
  refine ⟨threadIndex, hmem, fun n hn => ?_⟩
  have hlives : s'.target.Lives n := by
    unfold Session.threadAt Session.resolve at hn
    rw [Option.bind_eq_some_iff] at hn
    obtain ⟨handle, -, hn⟩ := hn
    rw [Option.bind_eq_some_iff] at hn
    obtain ⟨native, -, hnative⟩ := hn
    exact ⟨native, hnative⟩
  rw [hs'.balanced.counts hlives, hs'.held_eq_zero hmem hn, Nat.add_zero]

theorem distinct_twoThreadSession : twoThreadSession.Distinct := by
  have hindex : ∀ (t : ULONG) (n : ℕ), twoThreadSession.threadAt t = some n →
      t = 1 ∧ n = 1 ∨ t = 0 ∧ n = 0 := by
    intro t n ht
    unfold Session.threadAt at ht
    have hmap : twoThreadSession.gDebugIdMap.threadIndexToHandle =
        ((∅ : Map ULONG HANDLE).insert 0 0x10).insert 1 0x14 := rfl
    rw [hmap] at ht
    by_cases h1 : t = 1
    · subst h1
      have hone : twoThreadSession.resolve 0x14 = some 1 := by decide
      rw [Std.ExtTreeMap.getElem?_insert_self, Option.bind_some, hone] at ht
      exact .inl ⟨rfl, (Option.some.inj ht).symm⟩
    · rw [getElem?_insert_of_ne h1] at ht
      by_cases h0 : t = 0
      · subst h0
        have hzero : twoThreadSession.resolve 0x10 = some 0 := by decide
        rw [Std.ExtTreeMap.getElem?_insert_self, Option.bind_some, hzero] at ht
        exact .inr ⟨rfl, (Option.some.inj ht).symm⟩
      · rw [getElem?_insert_of_ne h0] at ht
        cases ht
  intro t u n ht hu
  rcases hindex t n ht with ⟨rfl, rfl⟩ | ⟨rfl, rfl⟩ <;>
    rcases hindex u _ hu with ⟨rfl, h⟩ | ⟨rfl, h⟩ <;> first | rfl | cases h

theorem internal_steps_not_deadlocked_holding :
    ∃ threadIndex ∈ holdingSession.steps.gInternalStepCallbacks, ∀ n,
      holdingSession.threadAt threadIndex = some n →
        holdingSession.target.suspends n = holdingSession.target.resumes n := by
  have hidle : ((armedSession.resume {}).stop {}
      [({}, .exception breakpointHit)]).steps.gInternalStepCallbacks = ∅ :=
    Std.ExtTreeMap.isEmpty_iff.mp (by decide)
  have hhit : Run aloneRules twoThreadSession holdingSession := by
    refine run_holdingSession (fun _ _ _ => trivial) ⟨⟨trivial, trivial⟩, fun _ t ht => ?_⟩
    rw [hidle] at ht
    exact absurd ht Std.ExtTreeMap.not_mem_empty
  have hpending : holdingSession.steps.gInternalStepCallbacks ≠ ∅ := by
    rw [ne_eq, ← Std.ExtTreeMap.isEmpty_iff]
    decide
  exact internal_steps_not_deadlocked rfl rfl rfl distinct_twoThreadSession hhit hpending

/-- The second thread had raised its own hit when the first one was reported. -/
def crossedSession : Session :=
  holdingSession.afterEvent idle { currentThreadId := some 1 } (.exception breakpointHit)

/-- Two hits raised at the same time, one after the other reported, hold both threads. -/
theorem internal_steps_deadlocked :
    ¬ ∀ s s' : Session, s.gSessionKind = .live → s.steps.gInternalStepCallbacks = ∅ →
      s.steps.gInternalStepSuspendedThreads = ∅ → s.target.suspends = s.target.resumes →
      s.Distinct → Run threadRules s s' → s'.gPaused = true → s'.gCallbackQueue = [] →
      s'.steps.gInternalStepCallbacks ≠ ∅ →
      ∃ threadIndex ∈ s'.steps.gInternalStepCallbacks, ∀ n, s'.threadAt threadIndex = some n →
        s'.target.suspends n = s'.target.resumes n := by
  intro hclaim
  have hhit : Run threadRules twoThreadSession holdingSession :=
    run_holdingSession (fun _ _ _ => trivial) trivial
  have hcross : Run threadRules holdingSession crossedSession :=
    run_afterEvent (idle_follows threadRules) (by decide) (List.isEmpty_iff.mp (by decide)) trivial
      (by decide)
  have hpending : crossedSession.steps.gInternalStepCallbacks ≠ ∅ := by
    rw [ne_eq, ← Std.ExtTreeMap.isEmpty_iff]
    decide
  obtain ⟨threadIndex, hmem, hfree⟩ := hclaim twoThreadSession crossedSession rfl rfl rfl rfl
    distinct_twoThreadSession (hhit.trans hcross) (by decide) (List.isEmpty_iff.mp (by decide)) hpending
  have hheld : crossedSession.steps.gInternalStepCallbacks.toList.all (fun entry =>
      (crossedSession.threadAt entry.1).any fun n =>
        crossedSession.target.suspends n ≠ crossedSession.target.resumes n) = true := by decide
  rw [List.all_eq_true] at hheld
  rw [Std.ExtTreeMap.mem_iff_isSome_getElem?, Option.isSome_iff_exists] at hmem
  obtain ⟨actions, hactions⟩ := hmem
  have hentry := hheld (threadIndex, actions)
    (Std.ExtTreeMap.mem_toList_iff_getElem?_eq_some.mpr hactions)
  rw [Option.any_eq_true] at hentry
  obtain ⟨n, hn, hne⟩ := hentry
  exact of_decide_eq_true hne (hfree n hn)

end TitanEngine

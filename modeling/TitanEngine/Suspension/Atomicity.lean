import TitanEngine.Suspension.Balance

/-! When an internal step that is not established leaves no trace in the step tables. -/
namespace TitanEngine
open MapSums

namespace Session
variable {env : Env} {s s' : Session} {threadIndex : ULONG} {thread : HANDLE}

/-- The flags of the thread can be written. -/
structure AcceptsFlags (env : Env) (thread : HANDLE) (s : Session) : Prop where
  minidump : s.gSessionKind ≠ .minidump
  ttd : s.gSessionKind ≠ .ttd
  paused : s.pauseLock = true
  known : thread ∈ s.gDebugIdMap.threadHandleToIndex
  context : env.context thread = true

theorem setCFlags_result (value : ULONG_PTR) :
    (s.setCFlags env thread value).2 = true ↔ s.AcceptsFlags env thread := by
  constructor
  · intro h
    unfold setCFlags at h
    split at h
    · cases h
    rename_i hkind
    push Not at hkind
    split at h
    · cases h
    rename_i hpaused
    have hpaused : s.pauseLock = true := by simpa using hpaused
    split at h
    · rename_i index hindex
      split at h
      · rename_i hcontext
        have hknown : thread ∈ s.gDebugIdMap.threadHandleToIndex := by
          rw [Std.ExtTreeMap.mem_iff_isSome_getElem?, hindex]
          rfl
        exact ⟨hkind.1, hkind.2, hpaused, hknown, hcontext⟩
      · cases h
    · cases h
  · intro h
    have hkind : ¬ (s.gSessionKind = .minidump ∨ s.gSessionKind = .ttd) := by
      rintro (hminidump | httd)
      · exact h.minidump hminidump
      · exact h.ttd httd
    have hpaused : (!s.pauseLock) ≠ true := by simp [h.paused]
    obtain ⟨index, hindex⟩ := Option.isSome_iff_exists.1 (Std.ExtTreeMap.mem_iff_isSome_getElem?.1 h.known)
    unfold setCFlags
    rw [if_neg hkind, if_neg hpaused, hindex]
    dsimp only
    rw [if_pos h.context]

/-- The step tables and the suspend count of every thread are as before. -/
structure StepsUntouched (s s' : Session) : Prop where
  tables : s'.steps = s.steps
  counts n : s'.target.suspends n + s.target.resumes n = s.target.suspends n + s'.target.resumes n

theorem stepsUntouched_refl (s : Session) : s.StepsUntouched s := ⟨rfl, fun _ => rfl⟩

/-- A refused write of the trap flag lets go of the threads, with those that an entry of the
thread already held. -/
theorem armInternalStep_refused (threadIndex : ULONG) (actions : List StepAction)
    (h : ¬ s.AcceptsFlags env thread) :
    ∃ s', s' = s.armInternalStep env threadIndex thread actions ∧
      s'.steps = { s.steps with gInternalStepSuspendedThreads :=
                     s.steps.gInternalStepSuspendedThreads.erase threadIndex } ∧
      ∀ n, s'.target.suspends n + s.target.resumes n +
          s.countOf n (s.steps.gInternalStepSuspendedThreads.getD threadIndex []) =
        s.target.suspends n + s'.target.resumes n := by
  have hcount := fun n => suspends_suspendThreads env (s.peerHandles threadIndex) n s
  obtain ⟨suspends, e, hheld⟩ := suspendThreads_eq env (s.peerHandles threadIndex) s
  refine ⟨_, rfl, ?_⟩
  unfold armInternalStep
  dsimp only
  generalize s.steps.gInternalStepSuspendedThreads.getD threadIndex [] = before
  generalize (s.suspendThreads env (s.peerHandles threadIndex)).2 = handles at hcount ⊢
  rw [hheld] at hcount ⊢
  split <;> rename_i s₁ hflags
  · obtain ⟨eflags, e', hset⟩ := setCFlags_eq env thread _ _
    rw [hflags] at hset
    subst hset
    have hresumes := fun n => resumes_resumeThreads (before ++ handles) n
      { s with steps.gInternalStepSuspendedThreads :=
                 s.steps.gInternalStepSuspendedThreads.insert threadIndex (before ++ handles)
               target.suspends := suspends, target.eflags := eflags, lastError := e' }
    obtain ⟨resumes, e'', hresumed⟩ := resumeThreads_eq (before ++ handles)
      { s with steps.gInternalStepSuspendedThreads :=
                 s.steps.gInternalStepSuspendedThreads.insert threadIndex (before ++ handles)
               target.suspends := suspends, target.eflags := eflags, lastError := e' }
    rw [hresumed] at hresumes ⊢
    constructor
    · have herase : (s.steps.gInternalStepSuspendedThreads.insert threadIndex (before ++ handles)).erase
          threadIndex = s.steps.gInternalStepSuspendedThreads.erase threadIndex := erase_insert _ _ _
      simp only [herase]
    · intro n
      have hn : resumes n = s.target.resumes n + s.countOf n (before ++ handles) := hresumes n
      have hsuspends : suspends n = s.target.suspends n + s.countOf n handles := hcount n
      have happend : s.countOf n (before ++ handles) = s.countOf n before + s.countOf n handles :=
        List.countP_append
      show suspends n + s.target.resumes n + s.countOf n before = s.target.suspends n + resumes n
      omega
  · have haccepts := (setCFlags_result _).1 (congrArg Prod.snd hflags)
    exact absurd ⟨haccepts.minidump, haccepts.ttd, haccepts.paused, haccepts.known, haccepts.context⟩ h

/-- A write that is accepted establishes the internal step. -/
theorem armInternalStep_accepted (threadIndex : ULONG) (actions : List StepAction)
    (h : s.AcceptsFlags env thread) :
    threadIndex ∈ (s.armInternalStep env threadIndex thread actions).steps.gInternalStepCallbacks := by
  obtain ⟨suspends, e, hheld⟩ := suspendThreads_eq env (s.peerHandles threadIndex) s
  unfold armInternalStep
  dsimp only
  rw [hheld]
  split <;> rename_i s₁ hflags
  · have hrefused := mt (setCFlags_result _).2 (Bool.eq_false_iff.1 (congrArg Prod.snd hflags))
    exact absurd ⟨h.minidump, h.ttd, h.paused, h.known, h.context⟩ hrefused
  · exact Std.ExtTreeMap.mem_insert_self

theorem AcceptsFlags.taken (threadIndex : ULONG) :
    (s.takeUserStep threadIndex).1.AcceptsFlags env thread ↔ s.AcceptsFlags env thread := by
  obtain ⟨callbacks, ids, h⟩ := takeUserStep_eq threadIndex s
  rw [h]
  exact ⟨fun haccepts => ⟨haccepts.minidump, haccepts.ttd, haccepts.paused, haccepts.known, haccepts.context⟩,
    fun haccepts => ⟨haccepts.minidump, haccepts.ttd, haccepts.paused, haccepts.known, haccepts.context⟩⟩

/-- Taking the user step of a thread that has none changes nothing. -/
theorem takeUserStep_of_notMem (h : threadIndex ∉ s.steps.gStepCallbacks) :
    s.takeUserStep threadIndex = (s, none) := by
  unfold takeUserStep
  rw [Std.ExtTreeMap.getElem?_eq_none h]

theorem notMem_takeUserStep (threadIndex : ULONG) (s : Session) :
    threadIndex ∉ (s.takeUserStep threadIndex).1.steps.gStepCallbacks := by
  unfold takeUserStep
  split
  · exact fun h => (mem_erase_iff.1 h).1 rfl
  · rename_i hnone
    rw [Std.ExtTreeMap.mem_iff_isSome_getElem?, hnone]
    exact Bool.false_ne_true

/-- The step is established: what it has to do is noted down for the current thread. -/
def Established (env : Env) (s : Session) : Prop :=
  ∃ threadIndex, env.currentThreadId = some threadIndex ∧ threadIndex ∈ s.steps.gInternalStepCallbacks

/-- An internal step that is not established leaves the step tables and the threads alone. -/
def SchedulesAtomically (env : Env) (action : StepAction) (s : Session) : Prop :=
  ¬ (s.scheduleInternalStep env action).Established env →
    s.StepsUntouched (s.scheduleInternalStep env action)

/-- Where the current thread has no internal step to join, it has a handle and flags that can be
written, or else nothing that the attempt takes away: no user step and, once it comes to the
threads, no list of held ones. -/
def SchedulesSafely (env : Env) (s : Session) : Prop :=
  ∀ threadIndex, env.currentThreadId = some threadIndex → threadIndex ∉ s.steps.gInternalStepCallbacks →
    match s.gDebugIdMap.threadIndexToHandle[threadIndex]? with
    | none => threadIndex ∉ s.steps.gStepCallbacks
    | some thread => s.AcceptsFlags env thread ∨ threadIndex ∉ s.steps.gStepCallbacks ∧
        threadIndex ∉ s.steps.gInternalStepSuspendedThreads

theorem established_iff (hthread : env.currentThreadId = some threadIndex) :
    s.Established env ↔ threadIndex ∈ s.steps.gInternalStepCallbacks := by
  constructor
  · rintro ⟨other, hother, hmem⟩
    obtain rfl := Option.some.inj (hthread.symm.trans hother)
    exact hmem
  · exact fun hmem => ⟨threadIndex, hthread, hmem⟩

/-- Where there is no step to join, the user step is taken before anything else. -/
theorem scheduleInternalStep_new (hthread : env.currentThreadId = some threadIndex)
    (hnew : threadIndex ∉ s.steps.gInternalStepCallbacks) (action : StepAction) :
    s.scheduleInternalStep env action =
      match s.gDebugIdMap.threadIndexToHandle[threadIndex]? with
      | none => (s.takeUserStep threadIndex).1
      | some thread => (s.takeUserStep threadIndex).1.armInternalStep env threadIndex thread
          (stepActions action (s.takeUserStep threadIndex).2) := by
  have hmap : (s.takeUserStep threadIndex).1.gDebugIdMap = s.gDebugIdMap := by
    obtain ⟨callbacks, ids, htaken⟩ := takeUserStep_eq threadIndex s
    rw [htaken]
  unfold scheduleInternalStep
  rw [hthread]
  dsimp only
  rw [Std.ExtTreeMap.getElem?_eq_none hnew]
  exact hmap ▸ rfl

/-- Without a handle of the thread, a user step is taken all the same. -/
theorem untouched_iff_of_unknown (hthread : env.currentThreadId = some threadIndex)
    (hnew : threadIndex ∉ s.steps.gInternalStepCallbacks)
    (hhandle : s.gDebugIdMap.threadIndexToHandle[threadIndex]? = none) (action : StepAction) :
    s.SchedulesAtomically env action ↔ threadIndex ∉ s.steps.gStepCallbacks := by
  have hresult : s.scheduleInternalStep env action = (s.takeUserStep threadIndex).1 := by
    rw [scheduleInternalStep_new hthread hnew, hhandle]
  have hnot : ¬ (s.scheduleInternalStep env action).Established env := by
    obtain ⟨callbacks, ids, htaken⟩ := takeUserStep_eq threadIndex s
    rw [established_iff hthread, hresult, htaken]
    exact hnew
  constructor
  · intro hatomic hmem
    have htables := (hatomic hnot).tables
    rw [hresult] at htables
    have hgone := notMem_takeUserStep threadIndex s
    rw [htables] at hgone
    exact hgone hmem
  · intro hnone _
    rw [hresult, takeUserStep_of_notMem hnone]
    exact stepsUntouched_refl s

/-- Where the flags are refused, a user step is gone as well, and so is a list of held threads. -/
theorem untouched_iff_of_refused (hthread : env.currentThreadId = some threadIndex)
    (hnew : threadIndex ∉ s.steps.gInternalStepCallbacks)
    (hhandle : s.gDebugIdMap.threadIndexToHandle[threadIndex]? = some thread)
    (hrefused : ¬ s.AcceptsFlags env thread) (action : StepAction) :
    s.SchedulesAtomically env action ↔
      threadIndex ∉ s.steps.gStepCallbacks ∧ threadIndex ∉ s.steps.gInternalStepSuspendedThreads := by
  have hresult : s.scheduleInternalStep env action =
      (s.takeUserStep threadIndex).1.armInternalStep env threadIndex thread
        (stepActions action (s.takeUserStep threadIndex).2) := by
    rw [scheduleInternalStep_new hthread hnew, hhandle]
  obtain ⟨s', hs', hsteps, hcounts⟩ := armInternalStep_refused threadIndex
    (stepActions action (s.takeUserStep threadIndex).2) (mt (AcceptsFlags.taken threadIndex).1 hrefused)
  rw [← hs'] at hresult
  have hnot : ¬ (s.scheduleInternalStep env action).Established env := by
    obtain ⟨callbacks, ids, htaken⟩ := takeUserStep_eq threadIndex s
    rw [established_iff hthread, hresult, hsteps, htaken]
    exact hnew
  constructor
  · intro hatomic
    have htables := (hatomic hnot).tables
    rw [hresult, hsteps] at htables
    constructor
    · intro hmem
      have hgone := notMem_takeUserStep threadIndex s
      have hcallbacks := congrArg StepTables.gStepCallbacks htables
      dsimp only at hcallbacks
      rw [hcallbacks] at hgone
      exact hgone hmem
    · intro hmem
      have hlists := congrArg StepTables.gInternalStepSuspendedThreads htables
      dsimp only at hlists
      rw [← hlists] at hmem
      exact (mem_erase_iff.1 hmem).1 rfl
  · rintro ⟨hnone, hfree⟩ _
    rw [takeUserStep_of_notMem hnone] at hsteps hcounts
    rw [hresult]
    constructor
    · rw [hsteps, erase_of_notMem hfree]
    · intro n
      have hn := hcounts n
      rw [Std.ExtTreeMap.getD_eq_fallback hfree] at hn
      exact hn

/-- A failing `scheduleInternalStep` changes nothing exactly where it finds nothing to take away. -/
theorem schedule_atomic_iff (action : StepAction) :
    s.SchedulesAtomically env action ↔ s.SchedulesSafely env := by
  cases hthread : env.currentThreadId with
  | none =>
    have hsame : s.scheduleInternalStep env action = s := by
      unfold scheduleInternalStep
      rw [hthread]
    constructor
    · intro _ threadIndex hsome
      rw [hthread] at hsome
      cases hsome
    · intro _ _
      rw [hsame]
      exact stepsUntouched_refl s
  | some threadIndex =>
    by_cases hpending : threadIndex ∈ s.steps.gInternalStepCallbacks
    · -- The action joins the step that is there.
      have hestablished : (s.scheduleInternalStep env action).Established env := by
        obtain ⟨previous, hprevious⟩ := Option.isSome_iff_exists.1
          (Std.ExtTreeMap.mem_iff_isSome_getElem?.1 hpending)
        rw [established_iff hthread]
        unfold scheduleInternalStep
        rw [hthread]
        dsimp only
        rw [hprevious]
        exact Std.ExtTreeMap.mem_insert_self
      constructor
      · intro _ other hother hnew
        obtain rfl := Option.some.inj (hthread.symm.trans hother)
        exact absurd hpending hnew
      · exact fun _ hnot => absurd hestablished hnot
    · have hsafely : s.SchedulesSafely env ↔
          match s.gDebugIdMap.threadIndexToHandle[threadIndex]? with
          | none => threadIndex ∉ s.steps.gStepCallbacks
          | some thread => s.AcceptsFlags env thread ∨ threadIndex ∉ s.steps.gStepCallbacks ∧
              threadIndex ∉ s.steps.gInternalStepSuspendedThreads := by
        constructor
        · exact fun h => h threadIndex hthread hpending
        · intro h other hother _
          obtain rfl := Option.some.inj (hthread.symm.trans hother)
          exact h
      cases hhandle : s.gDebugIdMap.threadIndexToHandle[threadIndex]? with
      | none =>
        rw [hsafely, hhandle, untouched_iff_of_unknown hthread hpending hhandle]
      | some thread =>
        rw [hsafely, hhandle]
        by_cases haccepts : s.AcceptsFlags env thread
        · constructor
          · exact fun _ => .inl haccepts
          · intro _ hnot
            have hestablished : (s.scheduleInternalStep env action).Established env := by
              have hmem := armInternalStep_accepted threadIndex
                (stepActions action (s.takeUserStep threadIndex).2) ((AcceptsFlags.taken threadIndex).2 haccepts)
              rw [established_iff hthread, scheduleInternalStep_new hthread hpending, hhandle]
              exact hmem
            exact absurd hestablished hnot
        · rw [untouched_iff_of_refused hthread hpending hhandle haccepts]
          simp [haccepts]

/-- A client that steps through its main thread. -/
def steppingSession : Session :=
  (({ gDebugIdMap := { threadIndexToHandle := (∅ : Map ULONG HANDLE).insert 0 0x10
                       threadHandleToIndex := (∅ : Map HANDLE ULONG).insert 0x10 0 } } : Session).debugStep
    {} .into (some 1))

/-- The thread cannot be selected, so the step of the client is lost without an internal one. -/
theorem schedule_not_atomic :
    ¬ ∀ (env : Env) (action : StepAction) (s : Session), s.SchedulesAtomically env action := by
  intro hall
  have hnot : ¬ (steppingSession.scheduleInternalStep { context := fun _ => false }
      (.rearmPage 0x401000)).Established { context := fun _ => false } := by
    rw [@established_iff _ _ 0 rfl]
    decide
  have huntouched := hall { context := fun _ => false } (.rearmPage 0x401000) steppingSession hnot
  have hbefore : (0 : ULONG) ∈ steppingSession.steps.gStepCallbacks := by decide
  rw [← huntouched.tables] at hbefore
  exact absurd hbefore (by decide)

end Session

end TitanEngine

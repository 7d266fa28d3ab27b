import TitanEngine.Lib.MapSums
import TitanEngine.Effects.Frame

/-! What the pieces of an internal step and the bookkeeping of threads write. -/
namespace TitanEngine
open Relation

namespace Session

theorem titanSuspendThread_eq (env : Env) (handle : HANDLE) (s : Session) :
    ∃ suspends e, (s.titanSuspendThread env handle).1 =
      { s with target.suspends := suspends, lastError := e } := by
  unfold titanSuspendThread
  repeat' split
  all_goals exact ⟨_, _, rfl⟩

theorem suspendThreads_eq (env : Env) (handles : List HANDLE) (s : Session) :
    ∃ suspends e, (s.suspendThreads env handles).1 =
      { s with target.suspends := suspends, lastError := e } := by
  induction handles generalizing s with
  | nil => exact ⟨_, _, rfl⟩
  | cons handle handles ih =>
    obtain ⟨suspends, e, h⟩ := titanSuspendThread_eq env handle s
    obtain ⟨suspends', e', h'⟩ := ih (s.titanSuspendThread env handle).1
    refine ⟨suspends', e', ?_⟩
    simp only [suspendThreads]
    rw [h', h]

theorem titanResumeThread_eq (handle : HANDLE) (s : Session) :
    ∃ resumes e, s.titanResumeThread handle = { s with target.resumes := resumes, lastError := e } := by
  unfold titanResumeThread
  repeat' split
  all_goals exact ⟨_, _, rfl⟩

theorem resumeThreads_eq (handles : List HANDLE) (s : Session) :
    ∃ resumes e, s.resumeThreads handles = { s with target.resumes := resumes, lastError := e } := by
  induction handles generalizing s with
  | nil => exact ⟨_, _, rfl⟩
  | cons handle handles ih =>
    obtain ⟨resumes, e, h⟩ := titanResumeThread_eq handle s
    obtain ⟨resumes', e', h'⟩ := ih (s.titanResumeThread handle)
    refine ⟨resumes', e', ?_⟩
    show (s.titanResumeThread handle).resumeThreads handles = _
    rw [h', h]

theorem setCFlags_eq (env : Env) (thread : HANDLE) (value : ULONG_PTR) (s : Session) :
    ∃ eflags e, (s.setCFlags env thread value).1 =
      { s with target.eflags := eflags, lastError := e } := by
  unfold setCFlags
  repeat' split
  all_goals exact ⟨_, _, rfl⟩

theorem clearTrapFlag_eq (env : Env) (threadIndex : ULONG) (s : Session) :
    ∃ eflags e, s.clearTrapFlag env threadIndex = { s with target.eflags := eflags, lastError := e } := by
  unfold clearTrapFlag
  split
  · exact setCFlags_eq ..
  · exact ⟨_, _, rfl⟩

theorem releaseThreads_eq (threadIndex : ULONG) (s : Session) :
    ∃ resumes e, s.releaseThreads threadIndex =
      { s with steps.gInternalStepSuspendedThreads :=
                 s.steps.gInternalStepSuspendedThreads.erase threadIndex
               target.resumes := resumes
               lastError := e } := by
  unfold releaseThreads
  split
  · rename_i handles _
    obtain ⟨resumes, e, h⟩ := resumeThreads_eq handles s
    rw [h]
    exact ⟨resumes, e, rfl⟩
  · rename_i hnone
    have hnone' : threadIndex ∉ s.steps.gInternalStepSuspendedThreads := by
      rw [Std.ExtTreeMap.mem_iff_isSome_getElem?, hnone]
      decide
    refine ⟨s.target.resumes, s.lastError, ?_⟩
    rw [MapSums.erase_of_notMem hnone']

theorem takeUserStep_eq (threadIndex : ULONG) (s : Session) :
    ∃ callbacks ids, (s.takeUserStep threadIndex).1 =
      { s with steps.gStepCallbacks := callbacks, steps.gStepThreadSystemIds := ids } := by
  unfold takeUserStep
  split <;> exact ⟨_, _, rfl⟩

theorem armInternalStep_eq (env : Env) (threadIndex : ULONG) (thread : HANDLE)
    (actions : List StepAction) (s : Session) :
    ∃ steps suspends resumes eflags e, s.armInternalStep env threadIndex thread actions =
      { s with steps := steps, target.suspends := suspends, target.resumes := resumes
               target.eflags := eflags, lastError := e } := by
  unfold armInternalStep
  obtain ⟨suspends, e, hheld⟩ := suspendThreads_eq env (s.peerHandles threadIndex) s
  dsimp only
  rw [hheld]
  split <;> rename_i s' hflags
  · obtain ⟨eflags, e', hset⟩ := setCFlags_eq env thread _ _
    rw [hflags] at hset
    subst hset
    obtain ⟨resumes, e'', hresumed⟩ := resumeThreads_eq
      (s.steps.gInternalStepSuspendedThreads.getD threadIndex [] ++
        (s.suspendThreads env (s.peerHandles threadIndex)).2) _
    rw [hresumed]
    exact ⟨_, suspends, resumes, eflags, e'', rfl⟩
  · obtain ⟨eflags, e', hset⟩ := setCFlags_eq env thread _ _
    rw [hflags] at hset
    subst hset
    exact ⟨_, suspends, s.target.resumes, eflags, e', rfl⟩

/-- Asking for an internal step writes the step tables, the counts of the held threads
and the flags of the stepping one. -/
theorem scheduleInternalStep_eq (env : Env) (action : StepAction) (s : Session) :
    ∃ steps suspends resumes eflags e, s.scheduleInternalStep env action =
      { s with steps := steps, target.suspends := suspends, target.resumes := resumes
               target.eflags := eflags, lastError := e } := by
  unfold scheduleInternalStep
  cases env.currentThreadId with
  | none => exact ⟨_, _, _, _, _, rfl⟩
  | some threadIndex =>
  dsimp only
  split
  · exact ⟨_, _, _, _, _, rfl⟩
  obtain ⟨callbacks, ids, htaken⟩ := takeUserStep_eq threadIndex s
  rw [htaken]
  split
  · exact ⟨_, _, _, _, _, rfl⟩
  · rename_i thread _
    obtain ⟨steps, suspends, resumes, eflags, e, h⟩ := armInternalStep_eq env threadIndex thread
      (stepActions action (s.takeUserStep threadIndex).2)
      { s with steps.gStepCallbacks := callbacks, steps.gStepThreadSystemIds := ids }
    exact ⟨steps, suspends, resumes, eflags, e, h⟩

/-- What a requested re-arm of a page writes. -/
theorem core_rearmWatchedPage (env : Env) (page : ULONG_PTR) (s : Session) :
    ∃ s', s'.core = s.core ∧ (s.rearmWatchedPage env page = s' ∨
      s.rearmWatchedPage env page = s'.scheduleMemoryBreakpointRearm env page) := by
  unfold rearmWatchedPage
  split
  · exact ⟨_, core_protectMemoryBreakpointPage env page false s, .inr rfl⟩
  · exact ⟨s, rfl, .inl rfl⟩

end Session

end TitanEngine

import TitanEngine.Lib.MapSums
import TitanEngine.Effects.Steps

/-! How often internal steps have suspended and resumed a thread, and which suspensions
are still to be undone. -/
namespace TitanEngine
open MapSums Relation

def Target.Lives (n : ℕ) (t : Target) : Prop := ∃ native, t.threadOf native = some n

namespace Session

/-- The thread that a registered handle stands for. -/
def resolve (handle : HANDLE) (s : Session) : Option ℕ :=
  (s.registeredNativeHandle handle .thread).bind s.target.threadOf

/-- How many handles of a list stand for the thread `n`. -/
def countOf (n : ℕ) (handles : List HANDLE) (s : Session) : ℕ :=
  handles.countP fun handle => s.resolve handle = some n

/-- How many suspensions of the thread `n` the pending internal steps are to undo. -/
def held (n : ℕ) (s : Session) : ℕ :=
  total (fun handles => s.countOf n handles) s.steps.gInternalStepSuspendedThreads

/-- Each thread alive is suspended as often as pending internal steps hold it, and only
pending internal steps hold threads. -/
structure Balanced (s : Session) : Prop where
  counts : ∀ {n : ℕ}, s.target.Lives n → s.target.suspends n = s.target.resumes n + s.held n
  pending : ∀ {threadIndex : ULONG}, threadIndex ∈ s.steps.gInternalStepSuspendedThreads →
    threadIndex ∈ s.steps.gInternalStepCallbacks

/-- Everything that the balance depends on. -/
def threads (s : Session) : Map ULONG (List StepAction) × Map ULONG (List HANDLE) ×
    Map HANDLE TitanHandleEntry × (HANDLE → Option ℕ) × (ℕ → ℕ) × (ℕ → ℕ) :=
  (s.steps.gInternalStepCallbacks, s.steps.gInternalStepSuspendedThreads, s.gHandleRegistry,
    s.target.threadOf, s.target.suspends, s.target.resumes)

/-- What threads and internal steps live in. -/
def roll (s : Session) : DebugIdMap × Map ULONG (List StepAction) × Map ULONG (List HANDLE) ×
    Map HANDLE TitanHandleEntry × (HANDLE → Option ℕ) × (ℕ → ℕ) × (ℕ → ℕ) :=
  (s.gDebugIdMap, s.threads)

variable {s s' : Session}

theorem roll_of_roster (h : s'.roster = s.roster) : s'.roll = s.roll :=
  roster_field_eq roll (fun _ => rfl) h

theorem roll_of_core (h : s'.core = s.core) : s'.roll = s.roll := roll_of_roster (roster_of_core h)

theorem Balanced.of_threads (hs : s.Balanced) (h : s'.threads = s.threads) : s'.Balanced := by
  simp only [threads, Prod.mk.injEq] at h
  obtain ⟨hinternal, hsuspended, hregistry, hthreadOf, hsuspends, hresumes⟩ := h
  have hheld : ∀ n, s'.held n = s.held n := by
    intro n
    unfold held countOf resolve registeredNativeHandle
    rw [hsuspended, hregistry, hthreadOf]
  constructor
  · rintro n ⟨native, hlives⟩
    rw [hthreadOf] at hlives
    rw [hsuspends, hresumes, hheld]
    exact hs.counts ⟨native, hlives⟩
  · intro threadIndex
    rw [hinternal, hsuspended]
    exact hs.pending

theorem resolve_of_eq (hregistry : s'.gHandleRegistry = s.gHandleRegistry)
    (hthreadOf : s'.target.threadOf = s.target.threadOf) (handle : HANDLE) :
    s'.resolve handle = s.resolve handle := by
  unfold resolve registeredNativeHandle
  rw [hregistry, hthreadOf]

theorem countOf_of_eq (hregistry : s'.gHandleRegistry = s.gHandleRegistry)
    (hthreadOf : s'.target.threadOf = s.target.threadOf) (n : ℕ) (handles : List HANDLE) :
    s'.countOf n handles = s.countOf n handles := by
  unfold countOf
  simp only [resolve_of_eq hregistry hthreadOf]

theorem countOf_cons (n : ℕ) (handle : HANDLE) (handles : List HANDLE) (s : Session) :
    s.countOf n (handle :: handles) =
      s.countOf n handles + if s.resolve handle = some n then 1 else 0 := by
  unfold countOf
  rw [List.countP_cons]
  simp

theorem titanSuspendThread_outcome (env : Env) (handle : HANDLE) (s : Session) :
    (s.titanSuspendThread env handle).2 = false ∧
        (s.titanSuspendThread env handle).1.target.suspends = s.target.suspends ∨
      ∃ thread, s.resolve handle = some thread ∧ (s.titanSuspendThread env handle).2 = true ∧
        (s.titanSuspendThread env handle).1.target.suspends =
          Function.update s.target.suspends thread (s.target.suspends thread + 1) := by
  unfold titanSuspendThread resolve
  split
  · exact .inl ⟨rfl, rfl⟩
  rename_i native hnative
  split
  · rename_i thread hthread
    split
    · exact .inr ⟨thread, by rw [hnative, Option.bind_some, hthread], rfl, rfl⟩
    · exact .inl ⟨rfl, rfl⟩
  · exact .inl ⟨rfl, rfl⟩

/-- A suspension that succeeds counts for the thread of its handle. -/
theorem suspends_titanSuspendThread (env : Env) (handle : HANDLE) (n : ℕ) (s : Session) :
    (s.titanSuspendThread env handle).1.target.suspends n = s.target.suspends n +
      if (s.titanSuspendThread env handle).2 = true ∧ s.resolve handle = some n then 1 else 0 := by
  obtain ⟨hfailed, hsame⟩ | ⟨thread, hresolve, hdone, hcount⟩ :=
    titanSuspendThread_outcome env handle s
  · rw [hsame, if_neg (by simp [hfailed])]
    rfl
  · rw [hcount, hresolve]
    by_cases he : thread = n
    · subst he
      simp [hdone]
    · simp [he, Function.update_of_ne (Ne.symm he)]

theorem suspends_suspendThreads (env : Env) (handles : List HANDLE) (n : ℕ) (s : Session) :
    (s.suspendThreads env handles).1.target.suspends n =
      s.target.suspends n + s.countOf n (s.suspendThreads env handles).2 := by
  induction handles generalizing s with
  | nil => rfl
  | cons handle handles ih =>
    obtain ⟨suspends, e, heq⟩ := titanSuspendThread_eq env handle s
    have hregistry : (s.titanSuspendThread env handle).1.gHandleRegistry = s.gHandleRegistry := by
      rw [heq]
    have hthreadOf : (s.titanSuspendThread env handle).1.target.threadOf = s.target.threadOf := by
      rw [heq]
    simp only [suspendThreads]
    rw [ih, suspends_titanSuspendThread, countOf_of_eq hregistry hthreadOf]
    by_cases hok : (s.titanSuspendThread env handle).2 = true
    · rw [if_pos hok, countOf_cons]
      simp only [hok, true_and]
      omega
    · rw [if_neg hok]
      simp [hok]

/-- A resumption counts for the thread of its handle. -/
theorem resumes_titanResumeThread (handle : HANDLE) (n : ℕ) (s : Session) :
    (s.titanResumeThread handle).target.resumes n = s.target.resumes n +
      if s.resolve handle = some n then 1 else 0 := by
  have hout : s.resolve handle = none ∧
        (s.titanResumeThread handle).target.resumes = s.target.resumes ∨
      ∃ thread, s.resolve handle = some thread ∧ (s.titanResumeThread handle).target.resumes =
        Function.update s.target.resumes thread (s.target.resumes thread + 1) := by
    unfold titanResumeThread resolve
    split
    · rename_i hnative
      exact .inl ⟨by rw [hnative, Option.bind_none], rfl⟩
    rename_i native hnative
    rw [hnative, Option.bind_some]
    split
    · rename_i thread hthread
      exact .inr ⟨thread, hthread, rfl⟩
    · rename_i hthread
      exact .inl ⟨hthread, rfl⟩
  obtain ⟨hnone, hsame⟩ | ⟨thread, hresolve, hcount⟩ := hout
  · rw [hsame, hnone]
    simp
  · rw [hcount, hresolve]
    by_cases he : thread = n
    · subst he
      simp
    · simp [he, Function.update_of_ne (Ne.symm he)]

theorem resumes_resumeThreads (handles : List HANDLE) (n : ℕ) (s : Session) :
    (s.resumeThreads handles).target.resumes n = s.target.resumes n + s.countOf n handles := by
  induction handles generalizing s with
  | nil => rfl
  | cons handle handles ih =>
    obtain ⟨resumes, e, heq⟩ := titanResumeThread_eq handle s
    have hregistry : (s.titanResumeThread handle).gHandleRegistry = s.gHandleRegistry := by rw [heq]
    have hthreadOf : (s.titanResumeThread handle).target.threadOf = s.target.threadOf := by rw [heq]
    show ((s.titanResumeThread handle).resumeThreads handles).target.resumes n = _
    rw [ih, resumes_titanResumeThread, countOf_of_eq hregistry hthreadOf, countOf_cons]
    omega

theorem roster_runActions {k : Client} {rules : Rules} (hk : k.Follows rules) (env : Env)
    (threadIndex : ULONG) (actions : List StepAction) (s : Session) :
    (s.runActions k env threadIndex actions).roster = s.roster := by
  induction actions generalizing s with
  | nil => rfl
  | cons action actions ih =>
    suffices haction : (s.runAction k env threadIndex action).roster = s.roster from
      (ih _).trans haction
    cases action with
    | rearmBreakpoint id =>
      simp only [runAction]
      split
      · exact roster_of_frame (frame_writeNativeBreakpointBytes ..)
      · rfl
    | rearmPage page =>
      simp only [runAction]
      split
      · exact roster_of_core (core_protectMemoryBreakpointPage ..)
      · rfl
    | userStep callback => exact roster_effects hk env (.callStep ..)

theorem roll_runActions {k : Client} {rules : Rules} (hk : k.Follows rules) (env : Env)
    (threadIndex : ULONG) (actions : List StepAction) (s : Session) :
    (s.runActions k env threadIndex actions).roll = s.roll :=
  roll_of_roster (roster_runActions hk env threadIndex actions s)

/-- A completed internal step is forgotten, its actions run, and the held threads go last. -/
theorem completeInternalStep_outcome {k : Client} {rules : Rules} (hk : k.Follows rules) {env : Env}
    {threadIndex : ULONG} (h : s.completeInternalStep k env threadIndex = some s') :
    threadIndex ∈ s.steps.gInternalStepCallbacks ∧
      ∃ s₁ : Session, s₁.roll = (s.forgetInternalStep threadIndex).roll ∧ s' = s₁.releaseThreads threadIndex := by
  unfold completeInternalStep at h
  split at h
  · cases h
  rename_i actions hactions
  cases h
  refine ⟨?_, _, ?_, rfl⟩
  · rw [Std.ExtTreeMap.mem_iff_isSome_getElem?, hactions]
    rfl
  · obtain ⟨eflags, e, hclear⟩ := clearTrapFlag_eq env threadIndex s
    rw [roll_runActions hk, hclear]
    rfl

end Session

end TitanEngine

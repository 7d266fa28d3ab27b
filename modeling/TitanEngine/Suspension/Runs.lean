import TitanEngine.Suspension.Balance
import TitanEngine.Suspension.Traversal

/-! Over whole runs: when no internal step is pending, no thread is left suspended. -/
namespace TitanEngine
open MapSums Relation

namespace Session

/-- Some pending internal step holds the thread of the handle. -/
def HoldsThread (handle : HANDLE) (s : Session) : Prop :=
  ∃ (threadIndex : ULONG) (handles : List HANDLE),
    s.steps.gInternalStepSuspendedThreads[threadIndex]? = some handles ∧ handle ∈ handles

/-- What the target can do to its threads: they die with all their handles, and a new one
comes with a number and a handle that nothing has been done to. -/
structure ThreadChange (s : Session) (t : Target) : Prop where
  suspends : t.suspends = s.target.suspends
  resumes : t.resumes = s.target.resumes
  kept : ∀ {native : HANDLE} {n : ℕ}, s.target.threadOf native = some n → t.Lives n →
    t.threadOf native = some n
  born : ∀ {native : HANDLE} {n : ℕ}, t.threadOf native = some n →
    s.target.threadOf native = some n ∨ ¬ s.target.Lives n ∧ s.target.suspends n = 0 ∧
      s.target.resumes n = 0 ∧ ∀ handle, s.registeredNativeHandle handle .thread ≠ some native

/-- A handle may be registered for another object only while no internal step holds it. -/
def mayRegister (handle : HANDLE) (thread : Option ℕ) (s : Session) : Prop :=
  s.HoldsThread handle → s.resolve handle = thread

end Session

/-- Threads come and go, and an exit is reported of a thread that is gone. -/
def threadRules : Rules where
  call _ _ _ := True
  target := Session.ThreadChange
  work env work s :=
    match work with
    | .exitThread _ => ∀ handle,
        s.gDebugIdMap.threadIndexToHandle[env.currentThreadId.getD (BitVec.allOnes 32)]? = some handle →
          s.resolve handle = none
    | _ => True

/-- A thread that exits holds no thread that is alive, and no handle is reused while an
internal step holds its thread. -/
def suspensionRules : Rules where
  call _ _ _ := True
  target := Session.ThreadChange
  work env work s := threadRules.work env work s ∧
    match work with
    | .createThread handle => s.mayRegister handle (s.target.threadOf handle)
    | .createProcess handle initialThread => s.mayRegister handle none ∧
        s.mayRegister initialThread (s.target.threadOf initialThread)
    | .exitProcess _ => ∀ handle,
        s.gDebugIdMap.processIndexToHandle[env.currentProcessId.getD (BitVec.allOnes 32)]? = some handle →
          s.mayRegister handle none
    | .exitThread _ => ∀ handles,
        s.steps.gInternalStepSuspendedThreads[env.currentThreadId.getD (BitVec.allOnes 32)]? =
          some handles → ∀ handle ∈ handles, s.resolve handle = none
    | _ => True

namespace Session
variable {s s' : Session}

theorem resolve_of_roll (h : s'.roll = s.roll) (handle : HANDLE) :
    s'.resolve handle = s.resolve handle := by
  simp only [roll, threads, Prod.mk.injEq] at h
  exact resolve_of_eq h.2.2.2.1 h.2.2.2.2.1 handle

theorem suspended_of_roll (h : s'.roll = s.roll) :
    s'.steps.gInternalStepSuspendedThreads = s.steps.gInternalStepSuspendedThreads := by
  simp only [roll, threads, Prod.mk.injEq] at h
  exact h.2.2.1

/-- What is held does not change where the held handles stand for the same threads. -/
theorem held_of_resolve {n : ℕ}
    (hsuspended : s'.steps.gInternalStepSuspendedThreads = s.steps.gInternalStepSuspendedThreads)
    (hresolve : ∀ handle, s.HoldsThread handle → (s'.resolve handle = some n ↔ s.resolve handle = some n)) :
    s'.held n = s.held n := by
  unfold held
  rw [hsuspended]
  refine total_congr fun threadIndex handles hhandles => ?_
  unfold countOf
  refine List.countP_congr fun handle hmem => ?_
  have hiff := hresolve handle ⟨threadIndex, handles, hhandles, hmem⟩
  simpa using hiff

theorem Balanced.of_resolve (h : s.Balanced) (hsteps : s'.steps = s.steps)
    (htarget : s'.target = s.target)
    (hresolve : ∀ handle, s.HoldsThread handle → s'.resolve handle = s.resolve handle) : s'.Balanced where
  counts := by
    intro n hlives
    have hheld : s'.held n = s.held n :=
      held_of_resolve (by rw [hsteps]) fun handle hholds => by rw [hresolve handle hholds]
    rw [htarget] at hlives ⊢
    rw [hheld]
    exact h.counts hlives
  pending := by
    rw [hsteps]
    exact h.pending

/-- The handles of a thread that lives on stand for it as before. -/
theorem ThreadChange.resolve_iff {t : Target} (ht : s.ThreadChange t) {n : ℕ} (hlives : t.Lives n)
    (handle : HANDLE) :
    Session.resolve handle { s with target := t } = some n ↔
      s.resolve handle = some n := by
  show (s.registeredNativeHandle handle .thread).bind t.threadOf = some n ↔
    (s.registeredNativeHandle handle .thread).bind s.target.threadOf = some n
  cases hnative : s.registeredNativeHandle handle .thread with
  | none => rfl
  | some native =>
    rw [Option.bind_some, Option.bind_some]
    constructor
    · intro hthread
      obtain hold | ⟨-, -, -, hunknown⟩ := ht.born hthread
      · exact hold
      · exact absurd hnative (hunknown handle)
    · exact fun hthread => ht.kept hthread hlives

theorem Balanced.target (h : s.Balanced) {t : Target} (ht : s.ThreadChange t) :
    Balanced { s with target := t } where
  counts := by
    intro n hlives
    have hheld : Session.held n { s with target := t } = s.held n :=
      held_of_resolve rfl fun handle _ => ht.resolve_iff hlives handle
    rw [hheld]
    show t.suspends n = t.resumes n + s.held n
    rw [ht.suspends, ht.resumes]
    obtain ⟨native, hnative⟩ := hlives
    obtain hold | ⟨hnew, hsuspends, hresumes, -⟩ := ht.born hnative
    · exact h.counts ⟨native, hold⟩
    · have hnone : s.held n = 0 := by
        unfold held
        refine total_eq_zero fun threadIndex handles _ => ?_
        unfold countOf
        rw [List.countP_eq_zero]
        intro handle _ hresolve
        have hthread := of_decide_eq_true hresolve
        unfold resolve at hthread
        rw [Option.bind_eq_some_iff] at hthread
        obtain ⟨native', -, hlives⟩ := hthread
        exact hnew ⟨native', hlives⟩
      omega
  pending := h.pending

/-- Registering a handle disturbs no other, and makes this one stand for the object. -/
theorem resolve_registerTitanHandle (handle other : HANDLE) (type : TitanHandleType)
    (dbgengId systemId : ULONG) (callerOwned : Bool) (s : Session) :
    (s.registerTitanHandle handle type dbgengId systemId callerOwned).resolve other = s.resolve other ∨
      other = handle ∧ (s.registerTitanHandle handle type dbgengId systemId callerOwned).resolve other =
        match type with
        | .thread => s.target.threadOf handle
        | .process => none := by
  unfold registerTitanHandle
  split
  · exact .inl rfl
  rename_i hvalid
  by_cases he : other = handle
  · subst he
    refine .inr ⟨rfl, ?_⟩
    have hne : other ≠ 0#64 := fun h => hvalid (.inl h)
    unfold resolve registeredNativeHandle
    rw [Std.ExtTreeMap.getElem?_insert_self]
    cases type with
    | thread => simp [hne]
    | process => simp
  · left
    unfold resolve registeredNativeHandle
    rw [Std.ExtTreeMap.getElem?_insert, if_neg]
    exact fun h => he (Std.LawfulEqCmp.compare_eq_iff_eq.mp h).symm

theorem resolve_unregisterTitanHandle (handle other : HANDLE) (s : Session) :
    (s.unregisterTitanHandle handle).resolve other = if other = handle then none else s.resolve other := by
  unfold unregisterTitanHandle resolve registeredNativeHandle
  by_cases he : other = handle
  · subst he
    rw [if_pos rfl, Std.ExtTreeMap.getElem?_erase_self]
    rfl
  · rw [if_neg he, getElem?_erase_of_ne he]

theorem resolve_of_unregister {handle other : HANDLE} {n : ℕ}
    (h : (s.unregisterTitanHandle handle).resolve other = some n) : s.resolve other = some n := by
  rw [resolve_unregisterTitanHandle] at h
  split at h
  · cases h
  · exact h

theorem Balanced.enterThread (h : s.Balanced) (env : Env) {handle : HANDLE}
    (hfree : s.mayRegister handle (s.target.threadOf handle)) : (s.enterThread env handle).Balanced := by
  refine h.of_resolve ?_ ?_ fun other hholds => ?_
  · unfold Session.enterThread registerTitanHandle
    dsimp only
    split <;> rfl
  · unfold Session.enterThread registerTitanHandle
    dsimp only
    split <;> rfl
  · unfold Session.enterThread
    dsimp only
    obtain hsame | ⟨rfl, hthread⟩ := resolve_registerTitanHandle handle other .thread
      (env.currentThreadId.getD (BitVec.allOnes 32)) (debugThreadId env) false
      (s.rememberThread handle (env.currentThreadId.getD (BitVec.allOnes 32)))
    · exact hsame
    · rw [hthread, hfree hholds]
      rfl

/-- The session with the handle of a process entered. -/
def registerProcess (env : Env) (handle : HANDLE) (processIndex : ULONG) (s : Session) : Session :=
  (s.rememberProcess handle processIndex).registerTitanHandle handle .process processIndex
    (debugProcessId env) false

theorem registerProcess_eq (env : Env) (handle : HANDLE) (processIndex : ULONG) (s : Session) :
    (s.registerProcess env handle processIndex).steps = s.steps ∧
      (s.registerProcess env handle processIndex).target = s.target ∧
      (s.registerProcess env handle processIndex).gDebugIdMap.threadIndexToHandle =
        s.gDebugIdMap.threadIndexToHandle := by
  unfold registerProcess registerTitanHandle
  split <;> exact ⟨rfl, rfl, rfl⟩

theorem resolve_registerProcess (env : Env) (handle other : HANDLE) (processIndex : ULONG)
    (s : Session) : (s.registerProcess env handle processIndex).resolve other = s.resolve other ∨
      other = handle ∧ (s.registerProcess env handle processIndex).resolve other = none :=
  resolve_registerTitanHandle handle other .process processIndex (debugProcessId env) false
    (s.rememberProcess handle processIndex)

theorem resolve_registerProcess_of_holds {env : Env} {handle other : HANDLE} (processIndex : ULONG)
    (hfree : s.mayRegister handle none) (hholds : s.HoldsThread other) :
    (s.registerProcess env handle processIndex).resolve other = s.resolve other := by
  obtain hsame | ⟨rfl, hnone⟩ := resolve_registerProcess env handle other processIndex s
  · exact hsame
  · rw [hnone, hfree hholds]

theorem Balanced.registerProcess (h : s.Balanced) (env : Env) {handle : HANDLE}
    (hfree : s.mayRegister handle none) (processIndex : ULONG) :
    (s.registerProcess env handle processIndex).Balanced := by
  obtain ⟨hsteps, htarget, -⟩ := registerProcess_eq env handle processIndex s
  exact h.of_resolve hsteps htarget fun _ => resolve_registerProcess_of_holds processIndex hfree

theorem mayRegister_registerProcess (env : Env) {handle initialThread : HANDLE} (processIndex : ULONG)
    (hfree : s.mayRegister handle none)
    (hthread : s.mayRegister initialThread (s.target.threadOf initialThread)) :
    (s.registerProcess env handle processIndex).mayRegister initialThread
      ((s.registerProcess env handle processIndex).target.threadOf initialThread) := by
  obtain ⟨hsteps, htarget, -⟩ := registerProcess_eq env handle processIndex s
  intro hholds
  have hholds' : s.HoldsThread initialThread := by
    unfold HoldsThread at hholds ⊢
    rwa [hsteps] at hholds
  rw [resolve_registerProcess_of_holds processIndex hfree hholds', htarget]
  exact hthread hholds'

/-- A process comes with its first thread, if the session keeps track of handles. -/
theorem enterProcess_outcome (env : Env) (handle initialThread : HANDLE) (s : Session) :
    s.enterProcess env handle initialThread = s ∨
      (∃ processIndex, s.enterProcess env handle initialThread =
        (s.registerProcess env handle processIndex).enterThread env initialThread) ∨
      ∃ processIndex, s.enterProcess env handle initialThread =
        (s.rememberProcess handle processIndex).rememberThread initialThread
          (env.currentThreadId.getD (BitVec.allOnes 32)) := by
  unfold Session.enterProcess
  dsimp only
  split
  · exact .inl rfl
  split
  · exact .inr (.inl ⟨_, rfl⟩)
  · exact .inr (.inr ⟨_, rfl⟩)

theorem Balanced.enterProcess (h : s.Balanced) (env : Env) {handle initialThread : HANDLE}
    (hfree : s.mayRegister handle none)
    (hthread : s.mayRegister initialThread (s.target.threadOf initialThread)) :
    (s.enterProcess env handle initialThread).Balanced := by
  obtain he | ⟨processIndex, he⟩ | ⟨processIndex, he⟩ :=
    enterProcess_outcome env handle initialThread s <;> rw [he]
  · exact h
  · exact (h.registerProcess env hfree processIndex).enterThread env
      (mayRegister_registerProcess env processIndex hfree hthread)
  · exact h.of_threads rfl

theorem Balanced.unregister (h : s.Balanced) {handle : HANDLE} (hfree : s.mayRegister handle none) :
    (s.unregisterTitanHandle handle).Balanced := by
  refine h.of_resolve rfl rfl fun other hholds => ?_
  rw [resolve_unregisterTitanHandle]
  split
  · rename_i he
    rw [he] at hholds ⊢
    exact (hfree hholds).symm
  · rfl

theorem Balanced.forgetProcess (h : s.Balanced) (processIndex : ULONG) {processHandle : Option HANDLE}
    (hfree : ∀ handle, processHandle = some handle → s.mayRegister handle none) :
    (s.forgetProcess processIndex processHandle).Balanced := by
  unfold Session.forgetProcess
  split
  · rename_i handle
    split
    · exact h
    · have hs := h.unregister (hfree handle rfl)
      exact hs.of_threads rfl
  · exact h

/-- Forgetting a thread that is gone, and holds no thread alive, loses no suspension. -/
theorem Balanced.forgetThread (h : s.Balanced) {threadIndex : ULONG} {threadHandle : Option HANDLE}
    (hgone : ∀ handle, threadHandle = some handle → s.resolve handle = none)
    (hfree : ∀ handles, s.steps.gInternalStepSuspendedThreads[threadIndex]? = some handles →
      ∀ handle ∈ handles, s.resolve handle = none) :
    (s.forgetThread threadIndex threadHandle).Balanced := by
  -- The handle goes first, then the entries of the thread in the tables.
  have hforgotten : ∃ s₁ : Session, s₁.Balanced ∧ s₁.steps = s.steps ∧
      (∀ handle, s.resolve handle = none → s₁.resolve handle = none) ∧
      (s.forgetThread threadIndex threadHandle).threads =
        { s₁ with
          steps.gInternalStepCallbacks := s₁.steps.gInternalStepCallbacks.erase threadIndex
          steps.gInternalStepSuspendedThreads :=
            s₁.steps.gInternalStepSuspendedThreads.erase threadIndex }.threads := by
    unfold Session.forgetThread
    cases threadHandle with
    | none => exact ⟨s, h, rfl, fun _ hnone => hnone, rfl⟩
    | some handle =>
      dsimp only
      split
      · exact ⟨s, h, rfl, fun _ hnone => hnone, rfl⟩
      · refine ⟨s.unregisterTitanHandle handle, h.unregister fun _ => hgone handle rfl, rfl, ?_, rfl⟩
        intro other hnone
        rw [resolve_unregisterTitanHandle, hnone, ite_self]
  obtain ⟨s₁, hs₁, hsteps, hnone, hthreads⟩ := hforgotten
  refine Balanced.of_threads ?_ hthreads
  refine hs₁.of_counts rfl rfl (fun n => ?_) fun {other} hmem => ?_
  · suffices hheld : s₁.held n = total (fun handles => s₁.countOf n handles)
        (s₁.steps.gInternalStepSuspendedThreads.erase threadIndex) by
      rw [hheld]
    unfold held
    cases hlist : s₁.steps.gInternalStepSuspendedThreads[threadIndex]? with
    | none =>
      rw [erase_of_notMem]
      rw [Std.ExtTreeMap.mem_iff_isSome_getElem?, hlist]
      decide
    | some handles =>
      have hzero : s₁.countOf n handles = 0 := by
        unfold countOf
        rw [List.countP_eq_zero]
        intro handle hmem
        rw [hsteps] at hlist
        rw [hnone handle (hfree handles hlist handle hmem)]
        simp
      rw [total_erase hlist, hzero, Nat.zero_add]
  · rw [Std.ExtTreeMap.mem_erase] at hmem ⊢
    exact ⟨hmem.1, hs₁.pending hmem.2⟩

/-- Everything that the rules allow keeps the balance. -/
theorem closed_balanced : RollClosed suspensionRules fun s s' => s.Balanced → s'.Balanced where
  trans hab hbc h := hbc (hab h)
  same hroll h := h.of_threads (congrArg Prod.snd hroll)
  schedule action _ _ _ h := h.scheduleInternalStep _ action
  complete hk hstep h := h.completeInternalStep hk hstep
  enterThread hallowed h := h.enterThread _ hallowed.2
  enterProcess hallowed h := h.enterProcess _ hallowed.2.1 hallowed.2.2
  forgetThread {env code s s'} hallowed hroll h := by
    obtain ⟨hgone, hfree⟩ := hallowed
    refine h.forgetThread (fun handle hhandle => ?_) fun handles hhandles handle hmem => ?_
    · rw [resolve_of_roll hroll]
      exact hgone handle hhandle
    · rw [suspended_of_roll hroll] at hhandles
      rw [resolve_of_roll hroll]
      exact hfree handles hhandles handle hmem
  forgetProcess {env code s s'} hallowed hroll h := by
    refine h.forgetProcess _ fun handle hhandle hholds => ?_
    rw [resolve_of_roll hroll]
    refine hallowed.2 handle hhandle ?_
    unfold HoldsThread at hholds ⊢
    rwa [suspended_of_roll hroll] at hholds
  target hallowed h := h.target hallowed

theorem balanced_of_idle (hsuspended : s.steps.gInternalStepSuspendedThreads = ∅)
    (hcounts : s.target.suspends = s.target.resumes) : s.Balanced where
  counts := by
    intro n _
    unfold held
    rw [hcounts, hsuspended, total_empty, Nat.add_zero]
  pending := by
    intro threadIndex hmem
    rw [hsuspended] at hmem
    exact absurd hmem Std.ExtTreeMap.not_mem_empty

end Session

theorem suspensionRules_queueBlind : suspensionRules.QueueBlind := by
  intro env work s rest h
  cases work <;> exact h

/-- Whenever no internal step is pending, every thread alive has been resumed as often as it
has been suspended, in every run in which no thread exits that holds others. -/
theorem suspensions_balanced {s s' : Session}
    (hsuspended : s.steps.gInternalStepSuspendedThreads = ∅)
    (hcounts : s.target.suspends = s.target.resumes) (hrun : Run suspensionRules s s')
    (hidle : s'.steps.gInternalStepCallbacks = ∅) {n : ℕ} (hlives : s'.target.Lives n) :
    s'.target.suspends n = s'.target.resumes n := by
  have hs := Session.balanced_of_idle hsuspended hcounts
  have hs' := Session.closed_balanced.run suspensionRules_queueBlind hrun hs
  have hnone : s'.steps.gInternalStepSuspendedThreads = ∅ := by
    rw [Std.ExtTreeMap.eq_empty_iff_forall_not_mem]
    intro threadIndex hmem
    have hpending := hs'.pending hmem
    rw [hidle] at hpending
    exact Std.ExtTreeMap.not_mem_empty hpending
  have hheld : s'.held n = 0 := by
    unfold Session.held
    rw [hnone, total_empty]
  rw [hs'.counts hlives, hheld, Nat.add_zero]

/-- Nothing but the target itself gives its threads other handles. -/
theorem closed_threadOf : RollClosed { threadRules with target := fun _ _ => False }
    fun s s' => s'.target.threadOf = s.target.threadOf where
  trans hab hbc := hbc.trans hab
  same h := by
    simp only [Session.roll, Session.threads, Prod.mk.injEq] at h
    exact h.2.2.2.2.1
  schedule {env _ _ s'} action _ _ _ := by
    obtain ⟨steps, suspends, resumes, eflags, e, h⟩ := Session.scheduleInternalStep_eq env action s'
    rw [h]
  complete hk hstep := by
    obtain ⟨-, s₁, hroll, rfl⟩ := Session.completeInternalStep_outcome hk hstep
    obtain ⟨resumes, e, hreleased⟩ := Session.releaseThreads_eq _ s₁
    simp only [Session.roll, Session.threads, Prod.mk.injEq] at hroll
    rw [hreleased]
    exact hroll.2.2.2.2.1
  enterThread _ := by
    unfold Session.enterThread Session.registerTitanHandle
    dsimp only
    split <;> rfl
  enterProcess _ := by
    unfold Session.enterProcess Session.enterThread Session.registerTitanHandle
    dsimp only
    repeat' split
    all_goals rfl
  forgetThread _ _ := by
    unfold Session.forgetThread
    split
    · dsimp only
      split <;> rfl
    · rfl
  forgetProcess _ _ := by
    unfold Session.forgetProcess
    split
    · split <;> rfl
    · rfl
  target h := h.elim

/-- A live session on a process with two threads. -/
def twoThreadSession : Session :=
  { gDebugIdMap := { processIndexToHandle := (∅ : Map ULONG HANDLE).insert 0 0x100
                     processHandleToIndex := (∅ : Map HANDLE ULONG).insert 0x100 0
                     threadIndexToHandle := ((∅ : Map ULONG HANDLE).insert 0 0x10).insert 1 0x14
                     threadHandleToIndex := ((∅ : Map HANDLE ULONG).insert 0x10 0).insert 0x14 1 }
    gHandleRegistry := ((∅ : Map HANDLE TitanHandleEntry).insert 0x10
      ⟨.thread, 0, 0, 0x10, false⟩).insert 0x14 ⟨.thread, 1, 0, 0x14, false⟩
    target := { threadOf := fun native =>
                  if native = 0x10 then some 0 else if native = 0x14 then some 1 else none } }

def armedSession : Session := (ApiCall.run {} (.setBPX 0x401000 0 (some 1)) twoThreadSession).1

/-- The first thread has hit a breakpoint and holds the second one. -/
def holdingSession : Session := armedSession.afterEvent idle {} (.exception breakpointHit)

theorem run_holdingSession {rules : Rules} (hcall : ∀ env call s, rules.call env call s)
    (hwork : rules.work {} (.exception breakpointHit)
      ((armedSession.resume {}).stop {} [({}, .exception breakpointHit)])) :
    Run rules twoThreadSession holdingSession := by
  have hset : CallStep rules twoThreadSession armedSession :=
    show CallStep rules twoThreadSession
      (ApiCall.run {} (.setBPX 0x401000 0 (some 1)) twoThreadSession).1 from .call (hcall ..)
  have hhit : Run rules armedSession holdingSession :=
    run_afterEvent (idle_follows rules) (by decide) (List.isEmpty_iff.mp (by decide)) hwork
      (by decide)
  exact .head (.call hset) hhit

/-- The first thread has stepped past the breakpoint. -/
def steppedSession : Session :=
  holdingSession.afterEvent idle {} (.exception { code := EXCEPTION_SINGLE_STEP })

theorem suspensions_balanced_stepped :
    steppedSession.target.suspends 1 = steppedSession.target.resumes 1 := by
  have hhit : Run suspensionRules twoThreadSession holdingSession :=
    run_holdingSession (fun _ _ _ => trivial) ⟨trivial, trivial⟩
  have hstep : Run suspensionRules holdingSession steppedSession :=
    run_afterEvent (idle_follows suspensionRules) (by decide) (List.isEmpty_iff.mp (by decide))
      ⟨trivial, trivial⟩ (by decide)
  exact suspensions_balanced rfl rfl (hhit.trans hstep) (Std.ExtTreeMap.isEmpty_iff.mp (by decide))
    ⟨0x14, by decide⟩

/-- The first thread is gone before its internal step completes. -/
def lonelySession : Session :=
  { holdingSession with target.threadOf := fun native => if native = 0x14 then some 1 else none }

def abandonedSession : Session := lonelySession.afterEvent idle {} (.exitThread 0)

theorem threadOf_holdingSession (native : HANDLE) : holdingSession.target.threadOf native =
    if native = 0x10 then some 0 else if native = 0x14 then some 1 else none := by
  have hblind : Rules.QueueBlind { threadRules with target := fun _ _ => False } := by
    intro env work s rest h
    cases work <;> exact h
  have hrun := closed_threadOf.run hblind (run_holdingSession (fun _ _ _ => trivial) trivial)
  exact congrFun hrun native

theorem threadChange_lonelySession : holdingSession.ThreadChange lonelySession.target where
  suspends := rfl
  resumes := rfl
  kept {native n} hnative hlives := by
    obtain ⟨other, hother⟩ := hlives
    have hother' : (if other = 0x14 then some 1 else none) = some n := hother
    show (if native = 0x14 then some 1 else none) = some n
    rw [threadOf_holdingSession] at hnative
    split at hother'
    · cases hother'
      split at hnative
      · cases hnative
      · split at hnative
        · rename_i he
          rw [if_pos he]
        · cases hnative
    · cases hother'
  born {native n} hnative := by
    left
    have hnative' : (if native = 0x14 then some 1 else none) = some n := hnative
    rw [threadOf_holdingSession]
    split at hnative'
    · rename_i he
      subst he
      exact hnative'
    · cases hnative'

/-- When the thread that holds the others exits, its list is dropped and nobody resumes them. -/
theorem suspensions_not_balanced :
    ¬ ∀ (s s' : Session) (n : ℕ), s.steps.gInternalStepSuspendedThreads = ∅ →
      s.target.suspends = s.target.resumes → s.gSessionKind = .live → Run threadRules s s' →
      s'.steps.gInternalStepCallbacks = ∅ → s'.target.Lives n →
      s'.target.suspends n = s'.target.resumes n := by
  intro hclaim
  have hdies : SessionStep threadRules holdingSession lonelySession :=
    .target threadChange_lonelySession
  have hgone : threadRules.work {} (.exitThread 0)
      ((lonelySession.resume {}).stop {} [({}, .exitThread 0)]) := by
    intro handle hhandle
    have hfirst : ((lonelySession.resume {}).stop {}
        [({}, .exitThread 0)]).gDebugIdMap.threadIndexToHandle[(0 : ULONG)]? = some 0x10 := by decide
    rw [show ({} : Env).currentThreadId.getD (BitVec.allOnes 32) = 0 from rfl, hfirst] at hhandle
    cases hhandle
    decide
  have hexit : Run threadRules lonelySession abandonedSession :=
    run_afterEvent (idle_follows threadRules) (by decide) (List.isEmpty_iff.mp (by decide)) hgone
      (by decide)
  have hrun : Run threadRules twoThreadSession abandonedSession :=
    (run_holdingSession (fun _ _ _ => trivial) trivial).trans (.head hdies hexit)
  have hidle : abandonedSession.steps.gInternalStepCallbacks = ∅ := by
    rw [← Std.ExtTreeMap.isEmpty_iff]
    decide
  have hbalance := hclaim twoThreadSession abandonedSession 1 rfl rfl rfl hrun hidle
    ⟨0x14, by decide⟩
  exact absurd hbalance (by decide)

end TitanEngine

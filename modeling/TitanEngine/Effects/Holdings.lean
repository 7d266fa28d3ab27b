import TitanEngine.Effects.Steps
import TitanEngine.Model.Callbacks

/-! What a session keeps for others: the breakpoint records with the objects of the engine behind
them, and the callbacks that the client has given. -/
namespace TitanEngine
open Relation

/-- The callback that an invocation runs. The handlers are set apart from the session. -/
def Invocation.callback : Invocation → Option Callback
  | .handler _ => none
  | .softBreakpoint callback | .hardwareBreakpoint callback _ | .memoryBreakpoint callback _
  | .step _ callback .. | .attach callback | .pause callback => some callback

/-- The callback that queued work has taken along. -/
def Work.callback : Work → Option Callback
  | .pause callback => some callback
  | .step _ callback _ => callback
  | _ => none

structure Holdings where
  gIsDebugging : Bool
  gBreakpoints : Map ULONG BreakpointInfo
  gHardwareBreakpointIds : Map DWORD ULONG
  gNextNativeBreakpointId : ULONG
  engineBreakpoints : OrderedSet ULONG
  gMemoryBreakpoints : Map ULONG64 MemoryBreakpointInfo
  gStepCallbacks : Map ULONG (Option Callback)
  gInternalStepCallbacks : Map ULONG (List StepAction)
  gCallbackQueue : List (Env × Work)
  gPauseCallback : Option Callback
  gAttachCallback : Option Callback
  told : List Invocation

/-- The record has the callback. -/
def BreakpointInfo.Runs (callback : Callback) (info : BreakpointInfo) : Prop :=
  info.callback = some callback ∨ info.hardwareCallback = some callback

namespace Session

def holdings (s : Session) : Holdings :=
  ⟨s.gIsDebugging, s.bps.gBreakpoints, s.bps.gHardwareBreakpointIds, s.bps.gNextNativeBreakpointId,
    s.target.engineBreakpoints, s.bps.gMemoryBreakpoints, s.steps.gStepCallbacks,
    s.steps.gInternalStepCallbacks, s.gCallbackQueue, s.gPauseCallback, s.gAttachCallback,
    invocations s.log⟩

variable {s s' : Session}

@[simp] theorem holdings_finishDebugEvent (u : Bool) (s : Session) :
    (s.finishDebugEvent u).holdings = s.holdings := by
  unfold finishDebugEvent
  split <;> rfl

@[simp] theorem holdings_writeNativeBreakpointBytes (env : Env) (info : BreakpointInfo) (install : Bool)
    (s : Session) : (s.writeNativeBreakpointBytes env info install).1.holdings = s.holdings := by
  have hmemory : ∀ bytes, (s.writeProcessMemory env info.offset bytes).1.holdings = s.holdings := by
    intro bytes
    unfold writeProcessMemory
    split <;> rfl
  have hwrite := hmemory (if install then info.patch else info.originals)
  unfold writeNativeBreakpointBytes
  split
  · rfl
  split <;> rename_i heq <;> rw [heq] at hwrite
  · split
    · exact hwrite
    · exact hwrite
  · exact hwrite

@[simp] theorem holdings_protectMemoryBreakpointPage (env : Env) (page : ULONG_PTR) (guarded : Bool)
    (s : Session) : (s.protectMemoryBreakpointPage env page guarded).1.holdings = s.holdings := by
  unfold protectMemoryBreakpointPage virtualProtectEx
  repeat' split
  all_goals rfl

@[simp] theorem holdings_leavePages (env : Env) (id : ULONG64) (pages : List ULONG_PTR) (s : Session) :
    (leavePages env id pages s).1.holdings = s.holdings := by
  have hleave : ∀ (page : ULONG_PTR) (s : Session), (s.leavePage env id page).1.holdings = s.holdings := by
    intro page s
    unfold leavePage
    split
    · rfl
    · dsimp only
      split
      · exact holdings_protectMemoryBreakpointPage env page false _
      · rfl
  induction pages generalizing s with
  | nil => rfl
  | cons page pages ih =>
    simp only [leavePages]
    rw [ih, hleave]

@[simp] theorem holdings_addMemoryWatchpoint (env : Env) (data : MemoryWatchpointData) (s : Session) :
    (s.addMemoryWatchpoint env data).1.holdings = s.holdings := by
  unfold addMemoryWatchpoint
  split
  · split <;> rfl
  · rfl

@[simp] theorem holdings_removeMemoryWatchpoint (env : Env) (data : MemoryWatchpointData) (s : Session) :
    (s.removeMemoryWatchpoint env data).1.holdings = s.holdings := by
  unfold removeMemoryWatchpoint
  split
  · split <;> rfl
  · rfl

@[simp] theorem holdings_adoptThreadId (handle : HANDLE) (s : Session) :
    (s.adoptThreadId handle).holdings = s.holdings := by
  unfold adoptThreadId
  split <;> rfl

@[simp] theorem holdings_registerTitanHandle (handle : HANDLE) (type : TitanHandleType)
    (dbgengId systemId : ULONG) (callerOwned : Bool) (s : Session) :
    (s.registerTitanHandle handle type dbgengId systemId callerOwned).holdings = s.holdings := by
  unfold registerTitanHandle
  split <;> rfl

@[simp] theorem holdings_enterThread (env : Env) (handle : HANDLE) (s : Session) :
    (s.enterThread env handle).holdings = s.holdings :=
  holdings_registerTitanHandle ..

@[simp] theorem holdings_enterProcess (env : Env) (handle initialThread : HANDLE) (s : Session) :
    (s.enterProcess env handle initialThread).holdings = s.holdings := by
  unfold enterProcess
  dsimp only
  split
  · rfl
  split
  · exact (holdings_enterThread ..).trans (holdings_registerTitanHandle ..)
  · rfl

@[simp] theorem holdings_forgetProcess (processIndex : ULONG) (handle : Option HANDLE) (s : Session) :
    (s.forgetProcess processIndex handle).holdings = s.holdings := by
  unfold forgetProcess
  repeat' split
  all_goals rfl

@[simp] theorem holdings_applyExecutionStatus (env : Env) (s : Session) :
    (s.applyExecutionStatus env).1.holdings = s.holdings := by
  unfold applyExecutionStatus
  dsimp only
  repeat' split
  all_goals rfl

@[simp] theorem holdings_clearTrapFlag (env : Env) (threadIndex : ULONG) (s : Session) :
    (s.clearTrapFlag env threadIndex).holdings = s.holdings := by
  obtain ⟨eflags, e, h⟩ := clearTrapFlag_eq env threadIndex s
  rw [h]
  rfl

@[simp] theorem holdings_releaseThreads (threadIndex : ULONG) (s : Session) :
    (s.releaseThreads threadIndex).holdings = s.holdings := by
  obtain ⟨resumes, e, h⟩ := releaseThreads_eq threadIndex s
  rw [h]
  rfl

/-- The breakpoint goes, or stays with all others. -/
theorem holdings_removeMemoryBreakpointById (env : Env) (id : ULONG64) (s : Session) :
    (s.removeMemoryBreakpointById env id).1.holdings = s.holdings ∨
      (s.removeMemoryBreakpointById env id).1.holdings =
        { s.holdings with gMemoryBreakpoints := s.bps.gMemoryBreakpoints.erase id } := by
  unfold removeMemoryBreakpointById
  split
  · exact .inl rfl
  split
  · split <;> rename_i heq <;> have hremoved := congrArg (fun r => r.1.holdings) heq <;>
      rw [holdings_removeMemoryWatchpoint] at hremoved <;> dsimp only at hremoved
    · refine .inr ?_
      exact congrArg (fun h : Holdings =>
        { h with gMemoryBreakpoints := h.gMemoryBreakpoints.erase id }) hremoved.symm
    · exact .inl hremoved.symm
  · refine .inr ?_
    exact congrArg (fun h : Holdings => { h with gMemoryBreakpoints := h.gMemoryBreakpoints.erase id })
      (holdings_leavePages env id _ s)

/-- The step callbacks of the tables are among those of the session. -/
structure StepsWithin (s : Session) (steps : Map ULONG (Option Callback))
    (internal : Map ULONG (List StepAction)) : Prop where
  steps : ∀ {thread : ULONG} {callback : Callback}, steps[thread]? = some (some callback) →
    s.steps.gStepCallbacks[thread]? = some (some callback)
  internal : ∀ {thread : ULONG} {actions : List StepAction} {callback : Callback},
    internal[thread]? = some actions → .userStep callback ∈ actions →
      s.steps.gStepCallbacks[thread]? = some (some callback) ∨
        ∃ previous, s.steps.gInternalStepCallbacks[thread]? = some previous ∧ .userStep callback ∈ previous

theorem StepsWithin.erase (thread : ULONG) (s : Session) :
    s.StepsWithin (s.steps.gStepCallbacks.erase thread) (s.steps.gInternalStepCallbacks.erase thread) :=
  ⟨fun h => MapSums.getElem?_of_erase h, fun h hmem => .inr ⟨_, MapSums.getElem?_of_erase h, hmem⟩⟩

theorem holdings_armInternalStep (env : Env) (threadIndex : ULONG) (thread : HANDLE)
    (actions : List StepAction) (s : Session) :
    (s.armInternalStep env threadIndex thread actions).holdings = s.holdings ∨
      (s.armInternalStep env threadIndex thread actions).holdings = { s.holdings with
        gInternalStepCallbacks := s.steps.gInternalStepCallbacks.insert threadIndex actions } := by
  unfold armInternalStep
  obtain ⟨suspends, e, hheld⟩ := suspendThreads_eq env (s.peerHandles threadIndex) s
  dsimp only
  rw [hheld]
  split <;> rename_i s' hflags
  · obtain ⟨eflags, e', hset⟩ := setCFlags_eq env thread _ _
    rw [hflags] at hset
    subst hset
    obtain ⟨resumes, e'', hresumed⟩ := resumeThreads_eq
      (s.steps.gInternalStepSuspendedThreads.getD threadIndex [] ++
        (s.suspendThreads env (s.peerHandles threadIndex)).2) _
    rw [hresumed]
    exact .inl rfl
  · obtain ⟨eflags, e', hset⟩ := setCFlags_eq env thread _ _
    rw [hflags] at hset
    subst hset
    exact .inr rfl

/-- An internal step takes over the user step of its thread, and nothing else changes hands. -/
theorem holdings_scheduleInternalStep (env : Env) {action : StepAction}
    (plain : ∀ callback, action ≠ .userStep callback) (s : Session) :
    ∃ steps internal, (s.scheduleInternalStep env action).holdings =
      { s.holdings with gStepCallbacks := steps, gInternalStepCallbacks := internal } ∧
        s.StepsWithin steps internal := by
  have hsame : s.StepsWithin s.steps.gStepCallbacks s.steps.gInternalStepCallbacks :=
    ⟨id, fun h hmem => .inr ⟨_, h, hmem⟩⟩
  unfold scheduleInternalStep
  cases env.currentThreadId with
  | none => exact ⟨_, _, rfl, hsame⟩
  | some threadIndex =>
  dsimp only
  split
  · rename_i previous hprevious
    refine ⟨_, _, rfl, hsame.steps, fun {thread actions callback} h hmem => ?_⟩
    rcases MapSums.getElem?_insert_cases h with ⟨rfl, rfl⟩ | ⟨-, h⟩
    · rw [List.mem_append, List.mem_singleton] at hmem
      exact .inr ⟨previous, hprevious, hmem.resolve_right fun heq => plain callback heq.symm⟩
    · exact .inr ⟨actions, h, hmem⟩
  have htaken : (s.takeUserStep threadIndex).1.holdings =
        { s.holdings with gStepCallbacks := s.steps.gStepCallbacks.erase threadIndex } ∧
      ∀ callback, (s.takeUserStep threadIndex).2 = some callback →
        s.steps.gStepCallbacks[threadIndex]? = some (some callback) := by
    unfold takeUserStep
    split <;> rename_i hstep
    · refine ⟨rfl, fun callback hcallback => ?_⟩
      rw [hstep]
      exact congrArg some hcallback
    · refine ⟨?_, fun callback hcallback => nomatch hcallback⟩
      have hout : threadIndex ∉ s.steps.gStepCallbacks := by
        rw [Std.ExtTreeMap.mem_iff_isSome_getElem?, hstep]
        exact Bool.false_ne_true
      rw [MapSums.erase_of_notMem hout]
      rfl
  obtain ⟨htables, hcallback⟩ := htaken
  have hsteps : ∀ {thread : ULONG} {callback : Callback},
      (s.steps.gStepCallbacks.erase threadIndex)[thread]? = some (some callback) →
        s.steps.gStepCallbacks[thread]? = some (some callback) :=
    fun h => MapSums.getElem?_of_erase h
  split
  · exact ⟨_, _, htables, hsteps, fun h hmem => .inr ⟨_, h, hmem⟩⟩
  · rename_i thread _
    rcases holdings_armInternalStep env threadIndex thread (stepActions action (s.takeUserStep threadIndex).2)
      (s.takeUserStep threadIndex).1 with h | h
    · exact ⟨_, _, h.trans htables, hsteps, fun h hmem => .inr ⟨_, h, hmem⟩⟩
    · have hinternal : (s.takeUserStep threadIndex).1.steps.gInternalStepCallbacks =
          s.steps.gInternalStepCallbacks := congrArg Holdings.gInternalStepCallbacks htables
      rw [htables, hinternal] at h
      refine ⟨_, _, h, hsteps, fun {thread actions callback} h hmem => ?_⟩
      rcases MapSums.getElem?_insert_cases h with ⟨rfl, rfl⟩ | ⟨-, h⟩
      · rw [stepActions, List.mem_cons, Option.mem_toList, Option.map_eq_some_iff] at hmem
        rcases hmem with heq | ⟨taken, htaken, heq⟩
        · exact absurd heq.symm (plain callback)
        · cases heq
          exact .inl (hcallback _ htaken)
      · exact .inr ⟨actions, h, hmem⟩

end Session

/-- Everything that a session keeps has callbacks that are `known`, and since `past` the client
has been called with no other one. -/
structure Holdings.Given (known : Callback → Prop) (past : List Invocation) (h : Holdings) : Prop where
  records : ∀ {id : ULONG} {info : BreakpointInfo}, h.gBreakpoints[id]? = some info →
    ∀ callback, info.Runs callback → known callback
  watched : ∀ {id : ULONG64} {info : MemoryBreakpointInfo}, h.gMemoryBreakpoints[id]? = some info →
    ∀ callback, info.callback = some callback → known callback
  steps : ∀ {thread : ULONG} {callback : Callback},
    h.gStepCallbacks[thread]? = some (some callback) → known callback
  internal : ∀ {thread : ULONG} {actions : List StepAction}, h.gInternalStepCallbacks[thread]? = some actions →
    ∀ callback, .userStep callback ∈ actions → known callback
  queue : ∀ entry ∈ h.gCallbackQueue, ∀ callback, entry.2.callback = some callback → known callback
  pause : ∀ callback, h.gPauseCallback = some callback → known callback
  attach : ∀ callback, h.gAttachCallback = some callback → known callback
  told : ∃ news, h.told = news ++ past ∧
    ∀ inv ∈ news, ∀ callback, inv.callback = some callback → known callback

theorem Session.given_anything (s : Session) : s.holdings.Given (fun _ => True) (invocations s.log) where
  records _ _ _ := trivial
  watched _ _ _ := trivial
  steps _ := trivial
  internal _ _ _ := trivial
  queue _ _ _ _ := trivial
  pause _ _ := trivial
  attach _ _ := trivial
  told := ⟨[], rfl, fun _ hmem => nomatch hmem⟩

/-- What a piece of work does to the things that a session keeps. -/
inductive Tends (known : Callback → Prop) (k : Client) : Session → Session → Prop
  | same {s s' : Session} (same : s'.holdings = s.holdings) : Tends known k s s'
  | call {inv : Invocation} {s : Session} (given : ∀ callback, inv.callback = some callback → known callback) :
      Tends known k s (k.call inv s)
  | attach {callback : Callback} {s : Session} (given : s.gAttachCallback = some callback) :
      Tends known k s (k.call (.attach callback) { s with gAttachCallback := none })
  | consume {id : ULONG} {info : BreakpointInfo} {s s' : Session} (record : s.bps.gBreakpoints[id]? = some info)
      (own : info.nativePatch = true ∨ info.kind = .software)
      (erased : s'.holdings = { s.holdings with gBreakpoints := s.bps.gBreakpoints.erase id }) :
      Tends known k s s'
  | lose {id : ULONG64} {s s' : Session}
      (erased : s'.holdings = { s.holdings with gMemoryBreakpoints := s.bps.gMemoryBreakpoints.erase id }) :
      Tends known k s s'
  | regroup {steps internal} {s s' : Session} (within : s.StepsWithin steps internal)
      (regrouped : s'.holdings =
        { s.holdings with gStepCallbacks := steps, gInternalStepCallbacks := internal }) : Tends known k s s'

abbrev Tending (known : Callback → Prop) (k : Client) : Session → Session → Prop :=
  ReflTransGen (Tends known k)

namespace Tending
variable {known : Callback → Prop} {k : Client} {past : List Invocation} {s s' s'' : Session}

theorem same (h : s'.holdings = s.holdings) : Tending known k s s' := .single (.same h)

theorem call {inv : Invocation} (h : ∀ callback, inv.callback = some callback → known callback)
    (s : Session) : Tending known k s (k.call inv s) := .single (.call h)

theorem handler (id : TitanCustomHandler) (s : Session) : Tending known k s (k.call (.handler id) s) :=
  call (fun _ h => nomatch h) s

theorem finishDebugEvent (u : Bool) (s : Session) : Tending known k s (s.finishDebugEvent u) :=
  same (Session.holdings_finishDebugEvent u s)

theorem beginDebugEvent (u : Bool) (s : Session) : Tending known k s (s.beginDebugEvent k u) := by
  have hstatus : Tending known k s { s with gNextContinueStatus :=
      if u then DBG_EXCEPTION_NOT_HANDLED else DBG_CONTINUE } := same rfl
  exact hstatus.trans (handler .debugEvent _)

theorem dispatchDebugEvent (id : TitanCustomHandler) (u : Bool) (s : Session) :
    Tending known k s (s.dispatchDebugEvent k id u) :=
  ((beginDebugEvent u s).trans (handler id _)).trans (finishDebugEvent u _)

theorem dispatchSystemBreakpoint (s : Session) : Tending known k s (s.dispatchSystemBreakpoint k) := by
  refine (beginDebugEvent false s).trans ?_
  unfold Session.dispatchSystemBreakpoint
  dsimp only
  split
  · rename_i callback hcallback
    exact .trans (.single (.attach hcallback)) (finishDebugEvent false _)
  · exact (handler .systemBreakpoint _).trans (finishDebugEvent false _)

theorem expectedSystemBreakpoint (s : Session) :
    Tending known k s ({ s with gExpectSystemBreakpoint := false }.dispatchSystemBreakpoint k) := by
  have hseen : Tending known k s { s with gExpectSystemBreakpoint := false } := same rfl
  exact hseen.trans (dispatchSystemBreakpoint _)

theorem dispatchUnhandledException (env : Env) (info : EXCEPTION_DEBUG_INFO) (s : Session) :
    Tending known k s (s.dispatchUnhandledException k env info) := by
  have hnoted : Tending known k s { s with log := .delivered env.currentThreadId info.address :: s.log } :=
    same rfl
  exact hnoted.trans (dispatchDebugEvent _ true _)

theorem lose (env : Env) (id : ULONG64) (s : Session) :
    Tending known k s (s.removeMemoryBreakpointById env id).1 := by
  rcases Session.holdings_removeMemoryBreakpointById env id s with h | h
  · exact same h
  · exact .single (.lose h)

theorem scheduleInternalStep (env : Env) {action : StepAction}
    (plain : ∀ callback, action ≠ .userStep callback) (s : Session) :
    Tending known k s (s.scheduleInternalStep env action) := by
  obtain ⟨steps, internal, h, hwithin⟩ := Session.holdings_scheduleInternalStep env plain s
  exact .single (.regroup hwithin h)

theorem reportMemoryHit (env : Env) (info : EXCEPTION_DEBUG_INFO) {hit : Option MemoryBreakpointInfo}
    (address : ULONG_PTR)
    (hhit : ∀ bp ∈ hit, ∀ callback, bp.callback = some callback → known callback) (s : Session) :
    Tending known k s (s.reportMemoryHit k env info hit address) := by
  have hfake : Tending known k s (s.setFakeDebugEvent env (.exception info)) := same rfl
  refine hfake.trans ((beginDebugEvent false _).trans ?_)
  unfold Session.reportMemoryHit
  generalize (s.setFakeDebugEvent env (.exception info)).beginDebugEvent k false = s
  dsimp only
  cases hit with
  | none => exact .refl
  | some bp =>
    dsimp only
    split
    · exact .refl
    · have hremove : Tending known k s
          (if bp.restoreOnHit then s else (s.removeMemoryBreakpointById env bp.id).1) := by
        split
        · exact .refl
        · exact lose env bp.id s
      refine hremove.trans ?_
      generalize (if bp.restoreOnHit then s else (s.removeMemoryBreakpointById env bp.id).1) = s
      cases hcallback : bp.callback with
      | none => exact .refl
      | some callback =>
        refine call (fun given hgiven => ?_) s
        cases hgiven
        exact hhit bp rfl _ hcallback

theorem rearmWatchedPage (env : Env) (page : ULONG_PTR) (s : Session) :
    Tending known k s (s.rearmWatchedPage env page) := by
  unfold Session.rearmWatchedPage Session.scheduleMemoryBreakpointRearm
  split
  · exact (same (Session.holdings_protectMemoryBreakpointPage env page false s)).trans
      (scheduleInternalStep env (by simp) _)
  · exact .refl

theorem callBreakpoint {bpInfo : BreakpointInfo} (hinfo : ∀ callback, bpInfo.Runs callback → known callback)
    (s : Session) : Tending known k s (s.callBreakpoint k bpInfo) := by
  unfold Session.callBreakpoint
  split <;> split
  · rename_i callback hcallback
    refine call (fun given hgiven => ?_) s
    cases hgiven
    exact hinfo _ (.inr hcallback)
  · exact .refl
  · rename_i callback hcallback
    refine call (fun given hgiven => ?_) s
    cases hgiven
    exact hinfo _ (.inl hcallback)
  · exact .refl

/-- The record goes with its patch if it is for one hit. -/
theorem enterNativeHit (env : Env) {id : ULONG} {bpInfo : BreakpointInfo}
    (hrecord : s.bps.gBreakpoints[id]? = some bpInfo) (hnative : bpInfo.nativePatch = true) :
    Tending known k s (s.enterNativeHit env id bpInfo) := by
  have hip : (s.setCurrentInstructionPointer env bpInfo.offset).holdings = s.holdings := by
    unfold Session.setCurrentInstructionPointer
    split <;> rfl
  have hdisguise : ((s.setCurrentInstructionPointer env bpInfo.offset).disguiseHit bpInfo).holdings =
      s.holdings := by
    refine Eq.trans ?_ hip
    unfold Session.disguiseHit
    split <;> rfl
  unfold Session.enterNativeHit
  dsimp only
  generalize (s.setCurrentInstructionPointer env bpInfo.offset).disguiseHit bpInfo = s₁ at hdisguise
  refine (same hdisguise).trans ?_
  have hrecord₁ : s₁.bps.gBreakpoints[id]? = some bpInfo := by
    rw [← hrecord]
    exact congrArg (fun h : Holdings => h.gBreakpoints[id]?) hdisguise
  unfold Session.consumeOneShot
  split
  · exact .single (.consume hrecord₁ (.inl hnative) rfl)
  · exact same rfl

theorem nativeBreakpointHit (env : Env) {id : ULONG} {bpInfo : BreakpointInfo}
    (hrecord : s.bps.gBreakpoints[id]? = some bpInfo) (hnative : bpInfo.nativePatch = true)
    (hinfo : ∀ callback, bpInfo.Runs callback → known callback) :
    Tending known k s (s.nativeBreakpointHit k env id bpInfo).1 := by
  have hwrite := Session.holdings_writeNativeBreakpointBytes env bpInfo false s
  unfold Session.nativeBreakpointHit
  split <;> rename_i s₁ heq <;> rw [heq] at hwrite
  · exact same hwrite
  · have hrecord₁ : s₁.bps.gBreakpoints[id]? = some bpInfo := by
      rw [← hrecord]
      exact congrArg (fun h : Holdings => h.gBreakpoints[id]?) hwrite
    refine (same hwrite).trans ((enterNativeHit env hrecord₁ hnative).trans ?_)
    refine (beginDebugEvent false _).trans ((callBreakpoint hinfo _).trans ?_)
    refine Relation.ReflTransGen.trans ?_ (finishDebugEvent false _)
    unfold Session.rearmNative
    split
    · exact scheduleInternalStep env (by simp) _
    · exact .refl

theorem breakpointException (env : Env) (info : EXCEPTION_DEBUG_INFO)
    (hs : s.holdings.Given known past) : Tending known k s (s.breakpointException k env info).1 := by
  unfold Session.breakpointException
  split
  · rename_i id bpInfo hfound
    have hmem := List.mem_of_find?_eq_some hfound
    have hmatch := List.find?_some hfound
    simp only [BreakpointInfo.matchesException, Bool.and_eq_true] at hmatch
    have hrecord := Std.ExtTreeMap.mem_toList_iff_getElem?_eq_some.mp hmem
    exact nativeBreakpointHit env hrecord hmatch.1 (hs.records hrecord)
  · split
    · exact (beginDebugEvent false s).trans (finishDebugEvent false _)
    · exact dispatchUnhandledException env info s

theorem runActions (env : Env) (thread : ULONG) {actions : List StepAction}
    (hactions : ∀ callback, .userStep callback ∈ actions → known callback) (s : Session) :
    Tending known k s (s.runActions k env thread actions) := by
  induction actions generalizing s with
  | nil => exact .refl
  | cons action rest ih =>
    have hfirst : Tending known k s (s.runAction k env thread action) := by
      unfold Session.runAction
      cases action with
      | rearmBreakpoint id =>
        dsimp only
        split
        · exact same (Session.holdings_writeNativeBreakpointBytes ..)
        · exact .refl
      | rearmPage page =>
        dsimp only
        split
        · exact same (Session.holdings_protectMemoryBreakpointPage ..)
        · exact .refl
      | userStep callback =>
        refine call (fun given hgiven => ?_) s
        cases hgiven
        exact hactions _ List.mem_cons_self
    exact hfirst.trans (ih (fun callback h => hactions callback (List.mem_cons_of_mem _ h)) _)

theorem completeInternalStep (env : Env) {thread : ULONG} (hs : s.holdings.Given known past)
    (h : s.completeInternalStep k env thread = some s') : Tending known k s s' := by
  unfold Session.completeInternalStep at h
  split at h
  · cases h
  · rename_i actions hpending
    cases h
    have hclear : Tending known k s (s.clearTrapFlag env thread) :=
      same (Session.holdings_clearTrapFlag env thread s)
    have htables : (s.clearTrapFlag env thread).steps.gInternalStepCallbacks =
        s.steps.gInternalStepCallbacks :=
      congrArg Holdings.gInternalStepCallbacks (Session.holdings_clearTrapFlag env thread s)
    have hforget : Tending known k (s.clearTrapFlag env thread)
        ((s.clearTrapFlag env thread).forgetInternalStep thread) :=
      .single (.regroup ⟨id, (Session.StepsWithin.erase thread _).internal⟩ rfl)
    refine hclear.trans (hforget.trans ((runActions env thread (hs.internal hpending) _).trans ?_))
    exact same (Session.holdings_releaseThreads thread _)

theorem exceptionEvent (env : Env) (info : EXCEPTION_DEBUG_INFO) (hs : s.holdings.Given known past) :
    Tending known k s (s.exceptionEvent k env info).1 := by
  have hfake : Tending known k s (s.setFakeDebugEvent env (.exception info)) := same rfl
  have hs₁ : (s.setFakeDebugEvent env (.exception info)).holdings.Given known past := hs
  unfold Session.exceptionEvent
  refine hfake.trans ?_
  generalize s.setFakeDebugEvent env (.exception info) = s₁ at hs₁
  dsimp only
  split
  · rename_i s₂ hstep
    unfold Session.consumeSingleStep at hstep
    split at hstep
    · obtain ⟨thread, -, hcomplete⟩ := Option.bind_eq_some_iff.mp hstep
      exact completeInternalStep env hs₁ hcomplete
    · cases hstep
  split
  · rename_i s₂ haccess
    unfold Session.consumeAccess at haccess
    split at haccess
    · unfold Session.dispatchMemoryBreakpointException at haccess
      split at haccess
      · dsimp only at haccess
        split at haccess
        · cases haccess
        · cases haccess
          refine (reportMemoryHit env info _ (fun bp hbp => ?_) s₁).trans
            ((rearmWatchedPage env _ _).trans (finishDebugEvent false _))
          obtain ⟨id, -, hfilter⟩ := List.exists_of_findSome?_eq_some hbp
          exact hs₁.watched (Option.filter_eq_some_iff.mp hfilter).1
      · cases haccess
    · cases haccess
  split
  · exact expectedSystemBreakpoint s₁
  split
  · exact breakpointException env info hs₁
  · exact dispatchUnhandledException env info s₁

theorem expireOneShot (id : ULONG) (bpInfo : BreakpointInfo) (s : Session) :
    Tending known k s (s.expireOneShot id bpInfo) := by
  unfold Session.expireOneShot
  split
  · split
    · rename_i current hcurrent
      split
      · rename_i hmatch
        exact .single (.consume hcurrent (.inr hmatch.1) rfl)
      · exact .refl
    · exact .refl
  · exact .refl

theorem breakpointEvent (env : Env) (id : ULONG) (offset : ULONG64) (hs : s.holdings.Given known past) :
    Tending known k s (s.breakpointEvent k env id offset) := by
  unfold Session.breakpointEvent
  split
  · have hfake : Tending known k s
        (s.setFakeDebugEvent env (.exception (Session.eventRecord .software offset))) := same rfl
    refine hfake.trans ?_
    dsimp only
    split
    · exact expectedSystemBreakpoint _
    · exact dispatchUnhandledException env _ _
  · rename_i bpInfo hrecord
    have hfake : Tending known k s
        (s.setFakeDebugEvent env (.exception (Session.eventRecord bpInfo.kind offset))) := same rfl
    exact hfake.trans ((beginDebugEvent false _).trans ((callBreakpoint (hs.records hrecord) _).trans
      ((expireOneShot id bpInfo _).trans (finishDebugEvent false _))))

theorem moduleEvent (env : Env) (id : TitanCustomHandler) (info : DebugInfo) (s : Session) :
    Tending known k s (s.moduleEvent k env id info) := by
  have hfake : Tending known k s (s.setFakeDebugEvent env info) := same rfl
  exact hfake.trans (dispatchDebugEvent id false _)

theorem forgetThread (thread : ULONG) (handle : Option HANDLE) (s : Session) :
    Tending known k s (s.forgetThread thread handle) := by
  refine .single (.regroup (Session.StepsWithin.erase thread s) ?_)
  unfold Session.forgetThread
  split
  · split <;> rfl
  · rfl

/-- Every piece of work only tends to what the session keeps. -/
theorem work (env : Env) {work : Work} (hs : s.holdings.Given known past)
    (hwork : ∀ callback, work.callback = some callback → known callback) :
    Tending known k s (work.run k env s).1 := by
  cases work with
  | breakpoint id offset => exact breakpointEvent env id offset hs
  | exception info => exact exceptionEvent env info hs
  | createThread handle =>
    have hentered : (if s.gSessionKind = .live then s.enterThread env handle else s).holdings =
        s.holdings := by
      split
      · exact Session.holdings_enterThread env handle s
      · rfl
    refine (same ?_).trans (dispatchDebugEvent .createThread false _)
    exact (Session.holdings_adoptThreadId handle _).trans hentered
  | exitThread code =>
    have hfake : Tending known k s (s.setFakeDebugEvent env (.exitThread code)) := same rfl
    exact hfake.trans ((dispatchDebugEvent .exitThread false _).trans (forgetThread _ _ _))
  | createProcess handle initialThread =>
    refine (same ?_).trans (dispatchDebugEvent .createProcess false _)
    exact Session.holdings_enterProcess env handle initialThread s
  | exitProcess code =>
    have hfake : Tending known k s (s.setFakeDebugEvent env (.exitProcess code)) := same rfl
    exact hfake.trans ((dispatchDebugEvent .exitProcess false _).trans
      (same (Session.holdings_forgetProcess ..)))
  | loadModule base => exact moduleEvent env .loadDll _ s
  | unloadModule base => exact moduleEvent env .unloadDll _ s
  | outputDebugString => exact moduleEvent env .outputDebugString _ s
  | pause callback =>
    have hids : Tending known k s
        (s.setEventIds (Session.debugProcessId env) (Session.debugThreadId env)) := same rfl
    refine hids.trans ((beginDebugEvent false _).trans ((call (fun given hgiven => ?_) _).trans
      (finishDebugEvent false _)))
    exact hwork given hgiven
  | internalStep thread =>
    simp only [Work.run]
    split
    · rename_i s₁ hstep
      exact completeInternalStep env hs hstep
    · exact .refl
  | step thread callback threadSystemId =>
    have hids : Tending known k s { s.setEventIds (Session.debugProcessId env) threadSystemId with
        gNextExecutionStatus := .go } := same rfl
    refine hids.trans ?_
    cases callback with
    | none => exact .refl
    | some callback =>
      refine call (fun given hgiven => ?_) _
      exact hwork given hgiven

end Tending

end TitanEngine

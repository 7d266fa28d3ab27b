import TitanEngine.Resume.Exceptions

/-! Whether a hit that needs an internal step is resumed as handled. -/
namespace TitanEngine
open Relation

/-- The session at a hit of the adapter's, once the client has been called and the re-arm
has been asked for. -/
inductive HitReported (k : Client) (env : Env) (info : EXCEPTION_DEBUG_INFO) (s : Session) :
    Session → Prop
  | page {accessType accessAddress : ULONG_PTR} {rest : List ULONG_PTR}
      {pageInfo : MemoryBreakpointPage}
      (code : info.code = STATUS_GUARD_PAGE_VIOLATION ∨ info.code = EXCEPTION_ACCESS_VIOLATION)
      (parameters : info.parameters = accessType :: accessAddress :: rest)
      (watched : s.bps.gMemoryBreakpointPages[s.pageAddress accessAddress]? = some pageInfo) :
      HitReported k env info s
        (((s.setFakeDebugEvent env (.exception info)).reportMemoryHit k env info
          (s.hitMemoryBreakpoint accessType accessAddress pageInfo.breakpointIds.toList)
          accessAddress).rearmWatchedPage env (s.pageAddress accessAddress))
  | native {id : ULONG} {bpInfo : BreakpointInfo} {lifted : Session}
      (code : info.code = EXCEPTION_BREAKPOINT ∨ info.code = EXCEPTION_ILLEGAL_INSTRUCTION)
      (own : ¬ (info.code = EXCEPTION_BREAKPOINT ∧ s.gExpectSystemBreakpoint = true))
      (found : s.findNative info.address = some (id, bpInfo))
      (written : (s.setFakeDebugEvent env (.exception info)).writeNativeBreakpointBytes env bpInfo
        false = (lifted, true)) :
      HitReported k env info s ((lifted.reportNativeHit k env id bpInfo).rearmNative env id bpInfo)

namespace Session
variable {k : Client} {env : Env} {info : EXCEPTION_DEBUG_INFO} {s v : Session}

theorem exceptionEvent_of_hit (h : HitReported k env info s v) :
    s.exceptionEvent k env info = (v.finishDebugEvent false, true) := by
  cases h with
  | @page accessType accessAddress rest pageInfo code parameters watched =>
    have hstep : (s.setFakeDebugEvent env (.exception info)).consumeSingleStep k env info = none := by
      unfold consumeSingleStep
      rw [if_neg]
      rcases code with h | h <;> rw [h] <;> decide
    have hwatched : (s.setFakeDebugEvent env (.exception info)).bps.gMemoryBreakpointPages[
        (s.setFakeDebugEvent env (.exception info)).pageAddress accessAddress]? = some pageInfo :=
      watched
    unfold exceptionEvent consumeAccess
    dsimp only
    rw [hstep]
    dsimp only
    rw [if_pos code]
    unfold dispatchMemoryBreakpointException
    rw [parameters]
    dsimp only
    rw [hwatched]
    rfl
  | @native id bpInfo lifted code own found written =>
    have hstep : (s.setFakeDebugEvent env (.exception info)).consumeSingleStep k env info = none := by
      unfold consumeSingleStep
      rw [if_neg]
      rcases code with h | h <;> rw [h] <;> decide
    have haccess : (s.setFakeDebugEvent env (.exception info)).consumeAccess k env info = none := by
      unfold consumeAccess
      rw [if_neg]
      rcases code with h | h <;> rw [h] <;> decide
    have hown : ¬ (info.code = EXCEPTION_BREAKPOINT ∧
        (s.setFakeDebugEvent env (.exception info)).gExpectSystemBreakpoint = true) := own
    have hfound : (s.setFakeDebugEvent env (.exception info)).findNative info.address =
        some (id, bpInfo) := found
    unfold exceptionEvent
    dsimp only
    rw [hstep, haccess]
    dsimp only
    rw [if_neg hown, if_pos code]
    unfold breakpointException
    rw [hfound]
    dsimp only
    unfold nativeBreakpointHit
    rw [written]

/-- An event of the adapter's asks for a handled status iff that has been asked for before,
or nothing has and the first thread with a step status is one on an internal step. -/
theorem finishDebugEvent_goHandled_iff (hkind : v.gSessionKind = .live) :
    (v.finishDebugEvent false).gNextExecutionStatus = .goHandled ↔
      v.gNextExecutionStatus = .goHandled ∨ v.gNextExecutionStatus = .noChange ∧
        ∀ entry, v.steps.gStepStatuses.first = some entry → entry.2 = .goHandled := by
  unfold finishDebugEvent
  split
  · rename_i hopen
    show v.eventStatus false = .goHandled ↔ _
    rw [hopen]
    unfold eventStatus
    rw [if_neg (by simp [hkind])]
    cases v.steps.gStepStatuses.first with
    | none => simp
    | some entry =>
      obtain ⟨threadIndex, status⟩ := entry
      cases status <;> simp [StepStatus.toExecution]
  · rename_i hsettled
    simp [hsettled]

end Session

namespace Session
variable {k : Client} {env : Env} {info : EXCEPTION_DEBUG_INFO} {s v : Session}

/-- What a stop settles on by itself when the thread gets an internal step: nothing but a handled
status has been asked for, and no thread with a lower index has another step status. A thread that
has its internal step already gets no new status. -/
def SettlesHandled (threadIndex : ULONG) (s : Session) : Prop :=
  s.gNextExecutionStatus = .goHandled ∨ s.gNextExecutionStatus = .noChange ∧
    ∀ entry, s.steps.gStepStatuses.first = some entry →
      entry.2 = .goHandled ∨ threadIndex ≤ entry.1 ∧ threadIndex ∉ s.steps.gInternalStepCallbacks

/-- Before the re-arm, a hit heeds the client only. -/
theorem heeds_of_hit (hk : k.Follows anyRules) (h : HitReported k env info s v) :
    ∃ w, Heeds s w ∧ (v = w ∨ ∃ action, v = w.scheduleInternalStep env action) := by
  have hfake : Heeds s (s.setFakeDebugEvent env (.exception info)) :=
    .of_core (core_setFakeDebugEvent env (.exception info) s)
  cases h with
  | @page accessType accessAddress rest pageInfo code parameters watched =>
    have hreport := hfake.trans (Heeds.reportMemoryHit hk env info
      (s.hitMemoryBreakpoint accessType accessAddress pageInfo.breakpointIds.toList) accessAddress _)
    obtain ⟨w, hcore, h | h⟩ := core_rearmWatchedPage env (s.pageAddress accessAddress)
      ((s.setFakeDebugEvent env (.exception info)).reportMemoryHit k env info
        (s.hitMemoryBreakpoint accessType accessAddress pageInfo.breakpointIds.toList) accessAddress)
    · exact ⟨w, hreport.trans (.of_core hcore), .inl h⟩
    · exact ⟨w, hreport.trans (.of_core hcore), .inr ⟨_, h⟩⟩
  | @native id bpInfo lifted code own found written =>
    have hwrite := Heeds.of_frame (frame_writeNativeBreakpointBytes env bpInfo false
      (s.setFakeDebugEvent env (.exception info)))
    rw [written] at hwrite
    have hreport := (hfake.trans hwrite).trans (Heeds.reportNativeHit hk env id bpInfo lifted)
    refine ⟨_, hreport, ?_⟩
    unfold rearmNative
    split
    · exact .inr ⟨_, rfl⟩
    · exact .inl rfl

/-- A thread that gets its internal step now gets the handled status with it. -/
theorem armInternalStep_statuses (env : Env) {threadIndex : ULONG} (thread : HANDLE) (actions : List StepAction)
    (hfree : threadIndex ∉ s.steps.gInternalStepCallbacks)
    (hpending : threadIndex ∈ (s.armInternalStep env threadIndex thread actions).steps.gInternalStepCallbacks) :
    (s.armInternalStep env threadIndex thread actions).steps.gStepStatuses =
      s.steps.gStepStatuses.insert threadIndex .goHandled := by
  revert hpending
  unfold armInternalStep
  obtain ⟨suspends, e, hheld⟩ := suspendThreads_eq env (s.peerHandles threadIndex) s
  dsimp only
  rw [hheld]
  split <;> rename_i w hflags <;> intro hpending
  · -- The trap flag was refused, so that nothing is pending.
    obtain ⟨eflags, e', hset⟩ := setCFlags_eq env thread _ _
    rw [hflags] at hset
    subst hset
    obtain ⟨resumes, e'', hresumed⟩ := resumeThreads_eq
      (s.steps.gInternalStepSuspendedThreads.getD threadIndex [] ++
        (s.suspendThreads env (s.peerHandles threadIndex)).2) _
    rw [hresumed] at hpending
    exact absurd hpending hfree
  · obtain ⟨eflags, e', hset⟩ := setCFlags_eq env thread _ _
    rw [hflags] at hset
    subst hset
    rfl

theorem scheduleInternalStep_statuses {threadIndex : ULONG} (action : StepAction)
    (hthread : env.currentThreadId = some threadIndex)
    (hpending : threadIndex ∈ (s.scheduleInternalStep env action).steps.gInternalStepCallbacks) :
    (s.scheduleInternalStep env action).steps.gStepStatuses =
      if threadIndex ∈ s.steps.gInternalStepCallbacks then s.steps.gStepStatuses
      else s.steps.gStepStatuses.insert threadIndex .goHandled := by
  revert hpending
  unfold scheduleInternalStep
  rw [hthread]
  dsimp only
  cases hinternal : s.steps.gInternalStepCallbacks[threadIndex]? with
  | some previous => exact fun _ => by rw [if_pos (MapSums.mem_of_getElem? hinternal)]
  | none =>
    have hfree : threadIndex ∉ s.steps.gInternalStepCallbacks := by
      rw [Std.ExtTreeMap.mem_iff_isSome_getElem?, hinternal]
      decide
    obtain ⟨callbacks, ids, htaken⟩ := takeUserStep_eq threadIndex s
    rw [htaken, if_neg hfree]
    dsimp only
    split
    · exact fun hpending => absurd hpending hfree
    · exact armInternalStep_statuses env _ _ hfree

/-- With a step of its thread pending, a hit settles on the handled status iff the client has asked
for no step and the session before it settles so. -/
theorem handled_of_hit_iff (hk : k.Follows anyRules) (h : HitReported k env info s v) {threadIndex : ULONG}
    (hthread : env.currentThreadId = some threadIndex) (hpending : threadIndex ∈ v.steps.gInternalStepCallbacks) :
    (v.gNextExecutionStatus = .goHandled ∨ v.gNextExecutionStatus = .noChange ∧
        ∀ entry, v.steps.gStepStatuses.first = some entry → entry.2 = .goHandled) ↔
      stepRequests v.log = stepRequests s.log ∧ s.SettlesHandled threadIndex := by
  obtain ⟨w, hheeds, hrearm⟩ := heeds_of_hit hk h
  have hwritten : v.gNextExecutionStatus = w.gNextExecutionStatus ∧ v.log = w.log := by
    rcases hrearm with rfl | ⟨action, rfl⟩
    · exact ⟨rfl, rfl⟩
    · obtain ⟨steps, suspends, resumes, eflags, e, hschedule⟩ := scheduleInternalStep_eq env action w
      rw [hschedule]
      exact ⟨rfl, rfl⟩
  have hstatuses : v.steps.gStepStatuses =
      if threadIndex ∈ s.steps.gInternalStepCallbacks then w.steps.gStepStatuses
      else w.steps.gStepStatuses.insert threadIndex .goHandled := by
    rw [← hheeds.internal]
    rcases hrearm with rfl | ⟨action, rfl⟩
    · rw [if_pos hpending]
    · exact scheduleInternalStep_statuses action hthread hpending
  rw [hwritten.1, hwritten.2, hstatuses]
  by_cases hasked : stepRequests w.log = stepRequests s.log
  · obtain ⟨hstatus, hsteps⟩ := hheeds.kept hasked
    rw [hstatus, hsteps, and_iff_right hasked]
    unfold SettlesHandled
    by_cases hinternal : threadIndex ∈ s.steps.gInternalStepCallbacks
    · rw [if_pos hinternal]
      simp only [hinternal, not_true_eq_false, and_false, or_false]
    · have hfirst := Map.first_insert_iff (m := s.steps.gStepStatuses) (k := threadIndex)
        (p := (· = StepStatus.goHandled)) rfl
      rw [if_neg hinternal, hfirst]
      simp only [hinternal, not_false_eq_true, and_true, isLE_compare_iff]
  · have hstep := hheeds.asked (lt_of_le_of_ne hheeds.requests (Ne.symm hasked))
    refine iff_of_false ?_ fun hboth => hasked hboth.1
    rcases hstep with hstep | hstep <;> simp [hstep]

end Session

/-- In a live session, the stop of a hit that leaves an internal step pending on its thread is
resumed as handled iff the client asks for no step meanwhile, the session at the hit settles so
and that stays, or an internal step that completes later at the same stop brings it back. -/
theorem hit_resumed_handled_iff {k : Client} (hk : k.Follows anyRules) {s s₁ v : Session}
    (hlive : s.Live) {env env' : Env} {events rest : List (Env × Work)} {info : EXCEPTION_DEBUG_INFO}
    {threadIndex : ULONG} (hround : Round k env events s ((env', .exception info) :: rest) s₁)
    (hdebuggee : env.hasDebuggee = true) (hhit : HitReported k env' info (s₁.dequeue rest) v)
    (hthread : env'.currentThreadId = some threadIndex)
    (hpending : threadIndex ∈ v.steps.gInternalStepCallbacks) :
    (s.debugLoop k env events).2 = .resumed .goHandled ↔
      (stepRequests v.log = stepRequests s₁.log ∧ s₁.SettlesHandled threadIndex) ∧
        Overwritten k rest (v.finishDebugEvent false) = false ∨
      Restored k .goHandled rest (v.finishDebugEvent false) = true := by
  have hevent := Session.exceptionEvent_of_hit hhit
  have hdrain : Session.drain k ((env', .exception info) :: rest) s₁ =
      Session.drain k rest (v.finishDebugEvent false) := by
    rw [Session.drain_cons]
    have hrun : (Work.exception info).run k env' (s₁.dequeue rest) = _ := hevent
    rw [hrun]
    rfl
  have hmode₁ : s₁.mode = s.mode := mode_of_round hk hround
  have hlive₁ : (s₁.dequeue rest).Live := hmode₁.trans hlive
  have hmode := mode_work hk env' (.exception info) (s₁.dequeue rest)
  rw [show (Work.exception info).run k env' (s₁.dequeue rest) = _ from hevent] at hmode
  have hlive' : (v.finishDebugEvent false).Live := hmode.trans hlive₁
  have hkind : v.gSessionKind = .live := by
    have himage := congrArg Image.mode (Session.image_finishDebugEvent false v)
    exact Session.Live.kind (himage.symm.trans hlive')
  have hsettled := Session.finishDebugEvent_ne_noChange false v
  rw [Session.debugLoop_of_round hround, hdrain, resumed_iff hk hlive' hdebuggee hsettled,
    drain_status_iff hk .goHandled (by decide) (by decide) rest hsettled,
    Session.finishDebugEvent_goHandled_iff hkind, Session.handled_of_hit_iff hk hhit hthread hpending]
  rfl

namespace Session

/-- The session at the hit of a patch, as far as there is one. -/
def nativeHit (k : Client) (env : Env) (info : EXCEPTION_DEBUG_INFO) (s : Session) : Option Session :=
  match s.findNative info.address with
  | none => none
  | some (id, bpInfo) =>
    match (s.setFakeDebugEvent env (.exception info)).writeNativeBreakpointBytes env bpInfo false with
    | (lifted, true) => some ((lifted.reportNativeHit k env id bpInfo).rearmNative env id bpInfo)
    | (_, false) => none

theorem hitReported_of_nativeHit {k : Client} {env : Env} {info : EXCEPTION_DEBUG_INFO} {s v : Session}
    (code : info.code = EXCEPTION_BREAKPOINT ∨ info.code = EXCEPTION_ILLEGAL_INSTRUCTION)
    (own : ¬ (info.code = EXCEPTION_BREAKPOINT ∧ s.gExpectSystemBreakpoint = true))
    (h : s.nativeHit k env info = some v) : HitReported k env info s v := by
  unfold nativeHit at h
  split at h
  · cases h
  rename_i found
  split at h
  · rename_i written
    cases h
    exact .native code own found written
  · cases h

end Session

/-- A stop of the threaded session at its breakpoint. -/
def stoppedSession : Session :=
  { softwareThreadedSession.awaitEvent {} [({}, .exception breakpointHit)] with gPaused := true }

theorem round_stoppedSession (k : Client) :
    Round k {} [({}, .exception breakpointHit)] softwareThreadedSession
      [({}, .exception breakpointHit)] stoppedSession :=
  ⟨.inr rfl, ⟨rfl, rfl⟩, by
    have hqueue : (softwareThreadedSession.awaitEvent {}
        [({}, .exception breakpointHit)]).gCallbackQueue = [({}, .exception breakpointHit)] := rfl
    rw [hqueue]
    exact .refl⟩

/-- With a client that asks for nothing, the thread goes on as handled. -/
theorem hit_resumed_handled_iff_idle :
    (softwareThreadedSession.debugLoop idle {} [({}, .exception breakpointHit)]).2 = .resumed .goHandled := by
  have hpending : ((stoppedSession.dequeue []).nativeHit idle {} breakpointHit).any
      (fun v => v.steps.gInternalStepCallbacks.contains 0 &&
        decide (stepRequests v.log = stepRequests stoppedSession.log)) = true := by decide
  rw [Option.any_eq_true] at hpending
  obtain ⟨v, hv, hboth⟩ := hpending
  rw [Bool.and_eq_true, decide_eq_true_iff] at hboth
  have hhit := Session.hitReported_of_nativeHit (.inl rfl) (by decide) hv
  have hthread : ({} : Env).currentThreadId = some 0 := rfl
  refine (hit_resumed_handled_iff (idle_follows anyRules) (show softwareThreadedSession.Live from rfl)
    (round_stoppedSession idle) rfl hhit hthread (Std.ExtTreeMap.contains_iff_mem.mp hboth.1)).2
    (.inl ⟨⟨hboth.2, .inr ⟨rfl, ?_⟩⟩, rfl⟩)
  have hnone : stoppedSession.steps.gStepStatuses.first = none := by decide
  rw [hnone]
  exact fun entry h => by cases h

/-- A client that steps into from every breakpoint callback. -/
def stepper : Client := fun inv s =>
  match inv with
  | .softBreakpoint _ => s.debugStep {} .into (some 7)
  | _ => s

theorem stepper_follows : stepper.Follows anyRules := by
  intro inv s
  cases inv with
  | softBreakpoint callback =>
    have hstep : CallStep anyRules s (ApiCall.run {} (.stepInto (some 7)) s).1 := .call trivial
    exact .single hstep
  | _ => exact .refl

/-- A step that the client asks for in its callback decides how the target is resumed. -/
theorem hit_not_resumed_handled :
    ¬ ∀ (k : Client) (s₀ s s₁ v : Session) (env env' : Env) (events rest : List (Env × Work))
      (info : EXCEPTION_DEBUG_INFO) (threadIndex : ULONG), k.Follows anyRules → s₀.Live →
      s₀.bps.gBreakpoints = ∅ → Run anyRules s₀ s →
      Round k env events s ((env', .exception info) :: rest) s₁ → env.hasDebuggee = true →
      HitReported k env' info (s₁.dequeue rest) v → env'.currentThreadId = some threadIndex →
      threadIndex ∈ v.steps.gInternalStepCallbacks →
      (s.debugLoop k env events).2 = .resumed .goHandled := by
  intro hclaim
  have hset : CallStep anyRules threadedSession softwareThreadedSession :=
    show CallStep anyRules threadedSession
      (ApiCall.run {} (.setBPX 0x401000 0 (some 1)) threadedSession).1 from .call trivial
  have hpending : ((stoppedSession.dequeue []).nativeHit stepper {} breakpointHit).any
      (fun v => v.steps.gInternalStepCallbacks.contains 0) = true := by decide
  rw [Option.any_eq_true] at hpending
  obtain ⟨v, hv, hcontains⟩ := hpending
  have hhit := Session.hitReported_of_nativeHit (.inl rfl) (by decide) hv
  have hresumed := hclaim stepper threadedSession softwareThreadedSession stoppedSession v {} {} _ []
    breakpointHit 0 stepper_follows (show threadedSession.Live from rfl) rfl (.single (.call hset))
    (round_stoppedSession stepper) rfl hhit rfl (Std.ExtTreeMap.contains_iff_mem.mp hcontains)
  exact absurd hresumed (by decide)

end TitanEngine

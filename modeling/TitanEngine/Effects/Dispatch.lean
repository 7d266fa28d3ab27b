import TitanEngine.Effects.Core

/-! What the dispatch of an event does beside patches, steps and threads: bookkeeping,
calls of the client, and the choice of a status. -/
namespace TitanEngine
open Relation

inductive Effect (k : Client) (env : Env) : Session → Session → Prop
  | quiet {s s' : Session} (same : s'.core = s.core) (watch : s'.watch = s.watch) : Effect k env s s'
  | lose (id : ULONG64) (s : Session) : Effect k env s (s.removeMemoryBreakpointById env id).1
  | call (inv : Invocation) (s : Session) : Effect k env s (k.call inv s)
  | status (status : ExecutionStatus) (s : Session) (unsettled : s.gNextExecutionStatus = .noChange)
      (settles : status ≠ .noChange) : Effect k env s { s with gNextExecutionStatus := status }
  | delivered (thread : Option ULONG) (address : ULONG_PTR) (s : Session) :
      Effect k env s { s with log := .delivered thread address :: s.log }

abbrev Effects (k : Client) (env : Env) : Session → Session → Prop := ReflTransGen (Effect k env)

namespace Effects
variable {k : Client} {env : Env} {s s' : Session}

theorem quiet (h : s'.core = s.core) (hwatch : s'.watch = s.watch) : Effects k env s s' :=
  .single (.quiet h hwatch)

theorem fake (info : DebugInfo) (s : Session) : Effects k env s (s.setFakeDebugEvent env info) :=
  quiet rfl rfl

theorem call (inv : Invocation) (s : Session) : Effects k env s (k.call inv s) := .single (.call inv s)

/-- An event always asks for something. -/
theorem eventStatus_ne_noChange (u : Bool) (s : Session) : s.eventStatus u ≠ .noChange := by
  unfold Session.eventStatus
  split
  · decide
  split
  · rename_i status _
    cases status <;> decide
  · split <;> decide

theorem finishDebugEvent (u : Bool) (s : Session) : Effects k env s (s.finishDebugEvent u) := by
  unfold Session.finishDebugEvent
  split
  · rename_i hunsettled
    exact .single (.status _ s hunsettled (eventStatus_ne_noChange u s))
  · exact .refl

theorem beginDebugEvent (u : Bool) (s : Session) : Effects k env s (s.beginDebugEvent k u) := by
  unfold Session.beginDebugEvent
  refine (quiet ?_ ?_).trans (call _ _) <;> rfl

theorem dispatchDebugEvent (id : TitanCustomHandler) (u : Bool) (s : Session) :
    Effects k env s (s.dispatchDebugEvent k id u) :=
  ((beginDebugEvent u s).trans (call _ _)).trans (finishDebugEvent u _)

theorem dispatchSystemBreakpoint (s : Session) : Effects k env s (s.dispatchSystemBreakpoint k) := by
  refine (beginDebugEvent false s).trans ?_
  unfold Session.dispatchSystemBreakpoint
  dsimp only
  split
  · refine (quiet ?_ ?_).trans ((call _ _).trans (finishDebugEvent _ _)) <;> rfl
  · exact (call _ _).trans (finishDebugEvent _ _)

theorem dispatchUnhandledException (env : Env) (info : EXCEPTION_DEBUG_INFO) (s : Session) :
    Effects k env s (s.dispatchUnhandledException k env info) :=
  (ReflTransGen.single (.delivered env.currentThreadId info.address s)).trans
    (dispatchDebugEvent _ _ _)

theorem reportMemoryHit (env : Env) (info : EXCEPTION_DEBUG_INFO)
    (hit : Option MemoryBreakpointInfo) (address : ULONG_PTR) (s : Session) :
    Effects k env s (s.reportMemoryHit k env info hit address) := by
  have hbegin : Effects k env s ((s.setFakeDebugEvent env (.exception info)).beginDebugEvent k false) :=
    (fake _ s).trans (beginDebugEvent _ _)
  refine hbegin.trans ?_
  unfold Session.reportMemoryHit
  generalize (s.setFakeDebugEvent env (.exception info)).beginDebugEvent k false = s
  dsimp only
  cases hit with
  | none => exact .refl
  | some bp =>
    dsimp only
    split
    · exact .refl
    · have hremove : Effects k env s
          (if bp.restoreOnHit then s else (s.removeMemoryBreakpointById env bp.id).1) := by
        split
        · exact .refl
        · exact .single (.lose bp.id s)
      refine hremove.trans ?_
      generalize (if bp.restoreOnHit then s else (s.removeMemoryBreakpointById env bp.id).1) = s
      cases bp.callback with
      | none => exact .refl
      | some callback => exact call _ _

theorem callBreakpoint (bpInfo : BreakpointInfo) (s : Session) :
    Effects k env s (s.callBreakpoint k bpInfo) := by
  unfold Session.callBreakpoint
  split <;> split
  · exact call _ _
  · exact .refl
  · exact call _ _
  · exact .refl

theorem moduleEvent (env : Env) (id : TitanCustomHandler) (info : DebugInfo) (s : Session) :
    Effects k env s (s.moduleEvent k env id info) :=
  (fake info s).trans (dispatchDebugEvent _ _ _)

theorem pauseEvent (env : Env) (callback : Callback) (s : Session) :
    Effects k env s (s.pauseEvent k env callback) := by
  have hids : Effects k env s (s.setEventIds (Session.debugProcessId env) (Session.debugThreadId env)) :=
    quiet rfl rfl
  exact hids.trans ((beginDebugEvent _ _).trans ((call _ _).trans (finishDebugEvent _ _)))

theorem callStep (threadIndex : ULONG) (callback : Callback) (s : Session) :
    Effects k env s (s.callStep k threadIndex callback) := call _ _

/-- A user step asks the target to go on before its callback is called. -/
theorem stepEvent (k : Client) (env : Env) (threadIndex : ULONG) (callback : Option Callback)
    (threadSystemId : DWORD) (s : Session) :
    ∃ s', s' = { s.setEventIds (Session.debugProcessId env) threadSystemId with
        gNextExecutionStatus := .go } ∧
      Effects k env s' (s.stepEvent k env threadIndex callback threadSystemId) := by
  refine ⟨_, rfl, ?_⟩
  unfold Session.stepEvent
  cases callback with
  | none => exact .refl
  | some callback => exact callStep _ _ _

/-- Everything that the event of an engine breakpoint does up to the expiry of the record. -/
theorem breakpointEvent_outcome (env : Env) (id : ULONG) (offset : ULONG64) (s : Session) :
    s.bps.gBreakpoints[id]? = none ∧ Effects k env s (s.breakpointEvent k env id offset) ∨
      ∃ bpInfo s', s.bps.gBreakpoints[id]? = some bpInfo ∧ Effects k env s s' ∧
        s.breakpointEvent k env id offset = (s'.expireOneShot id bpInfo).finishDebugEvent false := by
  unfold Session.breakpointEvent
  cases hrecord : s.bps.gBreakpoints[id]? with
  | none =>
    refine .inl ⟨rfl, ?_⟩
    have hfake : Effects k env s
        (s.setFakeDebugEvent env (.exception (Session.eventRecord .software offset))) :=
      fake _ s
    dsimp only
    refine hfake.trans ?_
    generalize s.setFakeDebugEvent env (.exception (Session.eventRecord .software offset)) = s
    split
    · refine (quiet ?_ ?_).trans (dispatchSystemBreakpoint _) <;> rfl
    · exact dispatchUnhandledException _ _ _
  | some bpInfo =>
    refine .inr ⟨bpInfo, _, rfl, ?_, rfl⟩
    exact (fake _ s).trans
      ((beginDebugEvent _ _).trans (callBreakpoint _ _))

end Effects

namespace Session

/-- The ways in which the work of an exception event can end. -/
inductive ExceptionOutcome (k : Client) (env : Env) (info : EXCEPTION_DEBUG_INFO) (s : Session) :
    Session × Bool → Prop
  | completed {threadIndex s'} (thread : env.currentThreadId = some threadIndex)
      (trap : info.code = EXCEPTION_SINGLE_STEP)
      (step : (s.setFakeDebugEvent env (.exception info)).completeInternalStep k env threadIndex =
        some s') : ExceptionOutcome k env info s (s', true)
  | memory {s'} (page : ULONG_PTR)
      (access : info.code = STATUS_GUARD_PAGE_VIOLATION ∨ info.code = EXCEPTION_ACCESS_VIOLATION)
      (reported : Effects k env s s')
      (watched : ∃ accessType accessAddress rest,
        info.parameters = accessType :: accessAddress :: rest ∧ page = s.pageAddress accessAddress ∧
          page ∈ s.bps.gMemoryBreakpointPages) :
      ExceptionOutcome k env info s ((s'.rearmWatchedPage env page).finishDebugEvent false, true)
  | native {id bpInfo}
      (code : info.code = EXCEPTION_BREAKPOINT ∨ info.code = EXCEPTION_ILLEGAL_INSTRUCTION)
      (found : s.findNative info.address = some (id, bpInfo)) :
      ExceptionOutcome k env info s
        ((s.setFakeDebugEvent env (.exception info)).nativeBreakpointHit k env id bpInfo)
  | dispatched {s'} (effects : Effects k env s s') : ExceptionOutcome k env info s (s', true)

theorem dispatchMemoryBreakpointException_outcome (k : Client) (env : Env)
    (info : EXCEPTION_DEBUG_INFO) (s s' : Session)
    (h : s.dispatchMemoryBreakpointException k env info = some s') :
    ∃ page reported, Effects k env s reported ∧
      (∃ accessType accessAddress rest, info.parameters = accessType :: accessAddress :: rest ∧
        page = s.pageAddress accessAddress ∧ page ∈ s.bps.gMemoryBreakpointPages) ∧
      s' = (reported.rearmWatchedPage env page).finishDebugEvent false := by
  unfold dispatchMemoryBreakpointException at h
  split at h
  · rename_i accessType accessAddress rest hparameters
    dsimp only at h
    split at h
    · cases h
    · rename_i pageInfo hwatched
      cases h
      have hmem : s.pageAddress accessAddress ∈ s.bps.gMemoryBreakpointPages := by
        rw [Std.ExtTreeMap.mem_iff_isSome_getElem?, hwatched]
        rfl
      exact ⟨_, _, Effects.reportMemoryHit env info _ _ s,
        ⟨accessType, accessAddress, rest, hparameters, rfl, hmem⟩, rfl⟩
  · cases h

theorem exceptionEvent_outcome (k : Client) (env : Env) (info : EXCEPTION_DEBUG_INFO) (s : Session) :
    ExceptionOutcome k env info s (s.exceptionEvent k env info) := by
  have hfake : Effects k env s (s.setFakeDebugEvent env (.exception info)) :=
    .fake _ s
  unfold exceptionEvent
  dsimp only
  split
  · rename_i s' hstep
    unfold consumeSingleStep at hstep
    split at hstep
    · rename_i htrap
      cases hthread : env.currentThreadId with
      | none => simp [hthread] at hstep
      | some threadIndex =>
        rw [hthread] at hstep
        exact .completed hthread htrap hstep
    · cases hstep
  split
  · rename_i s' haccess
    unfold consumeAccess at haccess
    split at haccess
    · rename_i hcode
      obtain ⟨page, reported, heffects, hwatched, rfl⟩ :=
        dispatchMemoryBreakpointException_outcome k env info _ _ haccess
      exact .memory page hcode (hfake.trans heffects) hwatched
    · cases haccess
  split
  · refine .dispatched (hfake.trans ((Effects.quiet ?_ ?_).trans
      (Effects.dispatchSystemBreakpoint _))) <;> rfl
  split
  · rename_i hcode
    unfold breakpointException
    split
    · rename_i hfound
      exact .native hcode hfound
    · split
      · exact .dispatched (hfake.trans ((Effects.beginDebugEvent _ _).trans
          (Effects.finishDebugEvent _ _)))
      · exact .dispatched (hfake.trans (Effects.dispatchUnhandledException _ _ _))
  · exact .dispatched (hfake.trans (Effects.dispatchUnhandledException _ _ _))

end Session

end TitanEngine

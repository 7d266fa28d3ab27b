import TitanEngine.Effects.Steps

/-! Which status a stop settles on. The first writer of `gNextExecutionStatus` wins,
unless an ending step or a request of the client overwrites what is there. -/
namespace TitanEngine
open Relation

def Entry.isRequest : Entry → Bool
  | .stepRequested .. => true
  | _ => false

/-- How many step requests of the client have been accepted. -/
def stepRequests (log : List Entry) : ℕ := log.countP Entry.isRequest

@[simp] theorem stepRequests_cons (entry : Entry) (log : List Entry) :
    stepRequests (entry :: log) = stepRequests log + if entry.isRequest then 1 else 0 := by
  unfold stepRequests
  rw [List.countP_cons]

/-- The status, the statuses of the steps and the internal steps stay as they are until the client
asks for a step; the status is a step status from then on. -/
structure Heeds (s s' : Session) : Prop where
  requests : stepRequests s.log ≤ stepRequests s'.log
  internal : s'.steps.gInternalStepCallbacks = s.steps.gInternalStepCallbacks
  kept : stepRequests s'.log = stepRequests s.log → s'.gNextExecutionStatus = s.gNextExecutionStatus ∧
    s'.steps.gStepStatuses = s.steps.gStepStatuses
  asked : stepRequests s.log < stepRequests s'.log →
    s'.gNextExecutionStatus = .stepInto ∨ s'.gNextExecutionStatus = .stepOver

namespace Heeds
variable {s s' s'' : Session}

theorem of_eq (hstatus : s'.gNextExecutionStatus = s.gNextExecutionStatus) (hsteps : s'.steps = s.steps)
    (hrequests : stepRequests s'.log = stepRequests s.log) : Heeds s s' :=
  ⟨hrequests.ge, congrArg (·.gInternalStepCallbacks) hsteps, fun _ => ⟨hstatus, congrArg (·.gStepStatuses) hsteps⟩,
    fun hlt => absurd hlt (by omega)⟩

theorem refl (s : Session) : Heeds s s := of_eq rfl rfl rfl

theorem trans (h : Heeds s s') (h' : Heeds s' s'') : Heeds s s'' where
  requests := h.requests.trans h'.requests
  internal := h'.internal.trans h.internal
  kept heq := by
    have hle := h.requests
    have hle' := h'.requests
    obtain ⟨hstatus, hsteps⟩ := h.kept (by omega)
    obtain ⟨hstatus', hsteps'⟩ := h'.kept (by omega)
    exact ⟨hstatus'.trans hstatus, hsteps'.trans hsteps⟩
  asked hlt := by
    have hle := h.requests
    rcases Nat.eq_or_lt_of_le h'.requests with heq | hlt'
    · rw [(h'.kept heq.symm).1]
      exact h.asked (by omega)
    · exact h'.asked hlt'

theorem of_frame (h : s'.frame = s.frame) : Heeds s s' :=
  of_eq (Session.frame_status h) (Session.frame_field_eq (·.steps) (fun _ => rfl) h)
    (congrArg stepRequests (Session.frame_log h))

theorem of_core (h : s'.core = s.core) : Heeds s s' := of_frame (Session.frame_of_core h)

/-- An entry that is no request. -/
theorem of_log {entry : Entry} (hentry : entry.isRequest = false) (s : Session) :
    Heeds s { s with log := entry :: s.log } := by
  refine of_eq rfl rfl ?_
  rw [stepRequests_cons, hentry]
  rfl

theorem debugStep (env : Env) (kind : StepKind) (callback : Option Callback) (s : Session) :
    Heeds s (s.debugStep env kind callback) := by
  obtain h | ⟨threadIndex, -, -, -, h⟩ := Session.debugStep_outcome env kind callback s
  · rw [h]
    exact .refl s
  · rw [h]
    have hrequests : stepRequests (s.stepAccepted env kind callback threadIndex).log =
        stepRequests s.log + 1 := by
      show stepRequests (_ :: s.log) = _
      rw [stepRequests_cons]
      rfl
    refine ⟨by omega, rfl, fun heq => absurd heq (by omega), fun _ => ?_⟩
    cases kind
    · exact .inr rfl
    · exact .inl rfl

theorem call (env : Env) (call : ApiCall) (s : Session) : Heeds s (call.run env s).1 := by
  cases hsteps : call.steps with
  | false => exact of_frame (Session.frame_call env hsteps s)
  | true =>
    cases call with
    | stepInto callback => exact debugStep env .into callback s
    | stepOver callback => exact debugStep env .over callback s
    | _ => cases hsteps

theorem run {r : Session → Session → Prop} (hr : ∀ ⦃a b⦄, r a b → Heeds a b) (h : ReflTransGen r s s') :
    Heeds s s' := by
  induction h with
  | refl => exact .refl s
  | tail _ hstep ih => exact ih.trans (hr hstep)

variable {k : Client} {rules : Rules}

theorem client (hk : k.Follows rules) (inv : Invocation) (s : Session) : Heeds s (k.call inv s) := by
  have hlog : Heeds s { s with log := .invoke inv :: s.log } := of_log rfl s
  refine hlog.trans (run ?_ (hk inv _))
  rintro a b ⟨allowed⟩
  exact call _ _ _

theorem beginDebugEvent (hk : k.Follows rules) (u : Bool) (s : Session) : Heeds s (s.beginDebugEvent k u) := by
  have hstatus : Heeds s { s with gNextContinueStatus := if u then DBG_EXCEPTION_NOT_HANDLED else DBG_CONTINUE } :=
    of_eq rfl rfl rfl
  exact hstatus.trans (client hk _ _)

theorem callBreakpoint (hk : k.Follows rules) (bpInfo : BreakpointInfo) (s : Session) :
    Heeds s (s.callBreakpoint k bpInfo) := by
  unfold Session.callBreakpoint
  split <;> split
  · exact client hk _ _
  · exact .refl s
  · exact client hk _ _
  · exact .refl s

theorem reportMemoryHit (hk : k.Follows rules) (env : Env) (info : EXCEPTION_DEBUG_INFO)
    (hit : Option MemoryBreakpointInfo) (address : ULONG_PTR) (s : Session) :
    Heeds s (s.reportMemoryHit k env info hit address) := by
  have hbegin : Heeds s ((s.setFakeDebugEvent env (.exception info)).beginDebugEvent k false) :=
    (of_core (Session.core_setFakeDebugEvent env (.exception info) s)).trans (beginDebugEvent hk false _)
  refine hbegin.trans ?_
  unfold Session.reportMemoryHit
  generalize (s.setFakeDebugEvent env (.exception info)).beginDebugEvent k false = s
  cases hit with
  | none => exact .refl s
  | some bp =>
    dsimp only
    split
    · exact .refl s
    · have hremove : Heeds s (if bp.restoreOnHit then s else (s.removeMemoryBreakpointById env bp.id).1) := by
        split
        · exact .refl s
        · exact of_core (Session.core_removeMemoryBreakpointById env bp.id s)
      refine hremove.trans ?_
      cases bp.callback with
      | none => exact .refl _
      | some callback => exact client hk _ _

theorem enterNativeHit (env : Env) (id : ULONG) (bpInfo : BreakpointInfo) (s : Session) :
    Heeds s (s.enterNativeHit env id bpInfo) := by
  have hrewound : Heeds s (s.setCurrentInstructionPointer env bpInfo.offset) := by
    unfold Session.setCurrentInstructionPointer
    split <;> exact of_eq rfl rfl rfl
  have hconsumed : ∀ s : Session, Heeds s (s.consumeOneShot id bpInfo) := by
    intro s
    unfold Session.consumeOneShot
    split <;> exact of_eq rfl rfl rfl
  exact ((hrewound.trans (of_core (Session.core_disguiseHit bpInfo _))).trans (hconsumed _)).trans
    (of_log rfl _)

theorem reportNativeHit (hk : k.Follows rules) (env : Env) (id : ULONG) (bpInfo : BreakpointInfo)
    (s : Session) : Heeds s (s.reportNativeHit k env id bpInfo) :=
  ((enterNativeHit env id bpInfo s).trans (beginDebugEvent hk false _)).trans (callBreakpoint hk bpInfo _)

end Heeds

/-- From a session whose status counts as `base`, the status stays until the client asks
for a step, and is a step status from then on. -/
structure Settled (base : ExecutionStatus) (s s' : Session) : Prop where
  requests : stepRequests s.log ≤ stepRequests s'.log
  kept : base ≠ .noChange → stepRequests s'.log = stepRequests s.log → s'.gNextExecutionStatus = base
  asked : base ≠ .noChange → stepRequests s.log < stepRequests s'.log →
    s'.gNextExecutionStatus = .stepInto ∨ s'.gNextExecutionStatus = .stepOver

namespace Settled
variable {base : ExecutionStatus} {s s' s'' : Session}

theorem of_eq (hstatus : s'.gNextExecutionStatus = base)
    (hrequests : stepRequests s'.log = stepRequests s.log) : Settled base s s' :=
  ⟨hrequests.ge, fun _ _ => hstatus, fun _ hlt => absurd hlt (by omega)⟩

theorem refl (s : Session) : Settled s.gNextExecutionStatus s s := of_eq rfl rfl

theorem trans (h : Settled base s s') (h' : Settled s'.gNextExecutionStatus s' s'') :
    Settled base s s'' where
  requests := h.requests.trans h'.requests
  kept hbase heq := by
    have hle := h.requests
    have hle' := h'.requests
    have hstatus := h.kept hbase (by omega)
    rw [← hstatus] at hbase ⊢
    exact h'.kept hbase (by omega)
  asked hbase hlt := by
    have hle := h.requests
    have hle' := h'.requests
    rcases Nat.eq_or_lt_of_le hle with heq | hlt₁
    · have hstatus := h.kept hbase heq.symm
      rw [← hstatus] at hbase
      exact h'.asked hbase (by omega)
    · have hstep := h.asked hbase hlt₁
      have hbase' : s'.gNextExecutionStatus ≠ .noChange := by
        rcases hstep with hstep | hstep <;> rw [hstep] <;> decide
      rcases Nat.eq_or_lt_of_le hle' with heq | hlt₂
      · rwa [h'.kept hbase' heq.symm]
      · exact h'.asked hbase' hlt₂

theorem of_heeds (h : Heeds s s') : Settled s.gNextExecutionStatus s s' :=
  ⟨h.requests, fun _ heq => (h.kept heq).1, fun _ hlt => h.asked hlt⟩

theorem of_core (h : s'.core = s.core) : Settled s.gNextExecutionStatus s s' := of_heeds (.of_core h)

theorem of_frame (h : s'.frame = s.frame) : Settled s.gNextExecutionStatus s s' := of_heeds (.of_frame h)

theorem run {r : Session → Session → Prop}
    (hr : ∀ ⦃a b⦄, r a b → Settled a.gNextExecutionStatus a b) (h : ReflTransGen r s s') :
    Settled s.gNextExecutionStatus s s' := by
  induction h with
  | refl => exact .refl s
  | tail _ hstep ih => exact ih.trans (hr hstep)

variable {k : Client} {rules : Rules}

theorem client (hk : k.Follows rules) (inv : Invocation) (s : Session) :
    Settled s.gNextExecutionStatus s (k.call inv s) := of_heeds (.client hk inv s)

theorem effects (hk : k.Follows rules) (env : Env) (h : Effects k env s s') :
    Settled s.gNextExecutionStatus s s' := by
  refine run ?_ h
  intro a b hstep
  cases hstep with
  | quiet same => exact of_core same
  | lose id => exact of_core (Session.core_removeMemoryBreakpointById env id a)
  | call inv s => exact client hk inv a
  | status status s unsettled settles =>
    exact ⟨le_refl _, fun hbase => absurd unsettled hbase, fun hbase => absurd unsettled hbase⟩
  | delivered thread address s =>
    refine of_eq rfl ?_
    rw [stepRequests_cons]
    rfl

theorem finishDebugEvent (u : Bool) (s : Session) :
    Settled s.gNextExecutionStatus s (s.finishDebugEvent u) :=
  effects (Client.follows_id anyRules) {} (.finishDebugEvent u s)

theorem scheduleInternalStep (env : Env) (action : StepAction) (s : Session) :
    Settled s.gNextExecutionStatus s (s.scheduleInternalStep env action) := by
  obtain ⟨steps, suspends, resumes, eflags, e, h⟩ := Session.scheduleInternalStep_eq env action s
  rw [h]
  exact of_eq rfl rfl

theorem rearmWatchedPage (env : Env) (page : ULONG_PTR) (s : Session) :
    Settled s.gNextExecutionStatus s (s.rearmWatchedPage env page) := by
  obtain ⟨s', hcore, h | h⟩ := Session.core_rearmWatchedPage env page s
  · rw [h]
    exact of_core hcore
  · rw [h]
    exact (of_core hcore).trans (scheduleInternalStep _ _ _)

theorem reportNativeHit (hk : k.Follows rules) (env : Env) (id : ULONG) (bpInfo : BreakpointInfo)
    (s : Session) : Settled s.gNextExecutionStatus s (s.reportNativeHit k env id bpInfo) :=
  of_heeds (.reportNativeHit hk env id bpInfo s)

theorem rearmNative (env : Env) (id : ULONG) (bpInfo : BreakpointInfo) (s : Session) :
    Settled s.gNextExecutionStatus s (s.rearmNative env id bpInfo) := by
  unfold Session.rearmNative
  split
  · exact scheduleInternalStep _ _ _
  · exact .refl s

theorem nativeBreakpointHit (hk : k.Follows rules) (env : Env) (id : ULONG) (bpInfo : BreakpointInfo)
    (s : Session) : Settled s.gNextExecutionStatus s (s.nativeBreakpointHit k env id bpInfo).1 := by
  have hwrite := of_frame (Session.frame_writeNativeBreakpointBytes env bpInfo false s)
  unfold Session.nativeBreakpointHit
  split <;> rename_i heq <;> rw [heq] at hwrite
  · exact hwrite
  · exact ((hwrite.trans (reportNativeHit hk env id bpInfo _)).trans (rearmNative ..)).trans
      (finishDebugEvent ..)

/-- The end of an internal step counts as handled. -/
theorem completeInternalStep (hk : k.Follows rules) {env : Env} {threadIndex : ULONG}
    (h : s.completeInternalStep k env threadIndex = some s') : Settled .goHandled s s' := by
  unfold Session.completeInternalStep at h
  split at h
  · cases h
  rename_i actions _
  cases h
  obtain ⟨eflags, e, hclear⟩ := Session.clearTrapFlag_eq env threadIndex s
  rw [hclear]
  have hforget : Settled .goHandled s
      ({ s with target.eflags := eflags, lastError := e }.forgetInternalStep threadIndex) :=
    of_eq rfl rfl
  have hactions : ∀ (actions : List StepAction) (s : Session),
      Settled s.gNextExecutionStatus s (s.runActions k env threadIndex actions) := by
    intro actions
    induction actions with
    | nil => exact fun s => .refl s
    | cons action actions ih =>
      intro s
      suffices haction : Settled s.gNextExecutionStatus s (s.runAction k env threadIndex action) from
        haction.trans (ih _)
      cases action with
      | rearmBreakpoint id =>
        simp only [Session.runAction]
        split
        · exact of_frame (Session.frame_writeNativeBreakpointBytes ..)
        · exact .refl s
      | rearmPage page =>
        simp only [Session.runAction]
        split
        · exact of_core (Session.core_protectMemoryBreakpointPage ..)
        · exact .refl s
      | userStep callback => exact client hk _ s
  refine (hforget.trans (hactions actions _)).trans ?_
  obtain ⟨resumes, e', hrelease⟩ := Session.releaseThreads_eq threadIndex
    (({ s with target.eflags := eflags, lastError := e }.forgetInternalStep threadIndex).runActions k
      env threadIndex actions)
  rw [hrelease]
  exact of_eq rfl rfl

end Settled

end TitanEngine

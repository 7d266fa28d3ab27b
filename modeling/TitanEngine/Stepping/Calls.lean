import TitanEngine.Lifecycle.TrapFlags
import TitanEngine.Model.Calls
import TitanEngine.Resume.Hits

/-! A step over from the callback of a breakpoint. The internal step that re-arms the
breakpoint takes the callback of the client along, and ends inside the function. -/
namespace TitanEngine
open Relation

namespace Session
variable {k : Client} {env : Env} {s s' : Session} {thread : ULONG}

/-- While a step of the current thread is pending, no request is accepted. -/
theorem debugStep_of_pending (kind : StepKind) (callback : Option Callback)
    (hcurrent : env.currentThreadId = some thread) (hpending : thread ∈ s.steps.gStepCallbacks) :
    s.debugStep env kind callback = s := by
  obtain heq | ⟨thread', hcurrent', -, hfree, -⟩ := debugStep_outcome env kind callback s
  · exact heq
  · rw [hcurrent] at hcurrent'
    cases hcurrent'
    exact absurd hpending hfree

theorem frame_callStep_of_pending (hstep : CallStep (onThread thread) s s')
    (hpending : thread ∈ s.steps.gStepCallbacks) : s'.frame = s.frame := by
  obtain @⟨env, call, _, hcurrent⟩ := hstep
  cases hsteps : call.steps with
  | false => exact frame_call env hsteps s
  | true =>
    cases call with
    | stepInto callback =>
      exact congrArg frame (debugStep_of_pending .into callback hcurrent hpending)
    | stepOver callback =>
      exact congrArg frame (debugStep_of_pending .over callback hcurrent hpending)
    | _ => cases hsteps

theorem frame_steps (h : s'.frame = s.frame) : s'.steps = s.steps :=
  frame_field_eq (fun s => s.steps) (fun _ => rfl) h

theorem frame_calls_of_pending (hrun : ReflTransGen (CallStep (onThread thread)) s s')
    (hpending : thread ∈ s.steps.gStepCallbacks) : s'.frame = s.frame := by
  induction hrun with
  | refl => rfl
  | tail _ hstep ih =>
    have hpending' := hpending
    rw [← frame_steps ih] at hpending'
    exact (frame_callStep_of_pending hstep hpending').trans ih

theorem Known.of_setting (h : s.Known thread) (hsetting : s'.setting = s.setting) : s'.Known thread := by
  have hidMap : s'.gDebugIdMap = s.gDebugIdMap := congrArg (fun x => x.2.2.2.1) hsetting
  have heflags : s'.target.eflags = s.target.eflags := congrArg (fun x => x.2.1.2.2) hsetting
  have hcallbacks : s'.steps.gInternalStepCallbacks = s.steps.gInternalStepCallbacks :=
    congrArg (fun x => x.2.2.2.2.1) hsetting
  constructor
  · rw [hidMap]
    exact h.named
  · rw [heflags, hcallbacks]
    exact h.traps

/-- The step that the client has asked for is pending at the end of the callback. -/
structure Asked (thread : ULONG) (callback : Callback) (s : Session) : Prop where
  pending : s.steps.gStepCallbacks[thread]? = some (some callback)
  status : s.gNextExecutionStatus = .stepOver

theorem Asked.mem {callback : Callback} (h : s.Asked thread callback) :
    thread ∈ s.steps.gStepCallbacks := MapSums.mem_of_getElem? h.pending

theorem Asked.of_frame {callback : Callback} (h : s.Asked thread callback) (hframe : s'.frame = s.frame) :
    s'.Asked thread callback := by
  constructor
  · rw [frame_steps hframe]
    exact h.pending
  · rw [frame_status hframe]
    exact h.status

theorem asked_stepAccepted {callback : Callback} (hfree : thread ∉ s.steps.gStepCallbacks) :
    (s.stepAccepted env .over (some callback) thread).Asked thread callback := by
  refine ⟨?_, rfl⟩
  show (s.steps.gStepCallbacks.insertIfNew thread (some callback))[thread]? = _
  rw [MapSums.insertIfNew_of_notMem hfree, Std.ExtTreeMap.getElem?_insert_self]

theorem asked_of_stepsOver {callback : Callback} {inv : Invocation}
    (h : k.StepsOver thread callback inv s) : (k.call inv s).Asked thread callback := by
  obtain ⟨a, env, -, hcurrent, hlock, hfree, hrun⟩ := h
  have haccepted : (ApiCall.run env (.stepOver (some callback)) a).1 =
      a.stepAccepted env .over (some callback) thread := by
    show a.debugStep env .over (some callback) = _
    unfold debugStep
    rw [if_neg (by simp [hlock]), hcurrent]
    exact if_neg (by simpa using hfree)
  rw [haccepted] at hrun
  have hasked : (a.stepAccepted env .over (some callback) thread).Asked thread callback :=
    asked_stepAccepted hfree
  exact hasked.of_frame (frame_calls_of_pending hrun hasked.mem)

/-- The thread will trap, and its step will run the callback or leave it where it is. -/
structure Due (thread : ULONG) (callback : Callback) (s : Session) : Prop where
  trap : s.target.eflags thread &&& TRAP_FLAG ≠ 0
  actions : ∃ actions, s.steps.gInternalStepCallbacks[thread]? = some actions ∧
    (.userStep callback ∈ actions ∨ thread ∈ s.steps.gStepCallbacks)

theorem or_trap_ne (flags : ULONG_PTR) : (flags ||| TRAP_FLAG) &&& TRAP_FLAG ≠ 0 := by
  rw [BitVec.and_or_distrib_right, BitVec.and_self]
  intro hzero
  have hbit := congrArg (fun v => v.getLsbD 8) hzero
  simp [TRAP_FLAG] at hbit

theorem Due.arm {callback : Callback} {handle : HANDLE} {actions : List StepAction}
    (hindex : s.gDebugIdMap.threadHandleToIndex[handle]? = some thread)
    (hfree : thread ∉ s.steps.gInternalStepCallbacks)
    (haction : .userStep callback ∈ actions)
    (harmed : thread ∈ (s.armInternalStep env thread handle actions).steps.gInternalStepCallbacks) :
    (s.armInternalStep env thread handle actions).Due thread callback := by
  obtain ⟨flags, heflags⟩ := armInternalStep_eflags env thread actions hindex
  have hcallbacks := armInternalStep_callbacks env thread handle actions s
  cases hset : (s.setCFlags env handle 0).2 with
  | false =>
    rw [hset] at hcallbacks
    rw [hcallbacks] at harmed
    exact absurd harmed hfree
  | true =>
    rw [hset] at hcallbacks heflags
    constructor
    · rw [heflags, if_pos rfl, Function.update_self]
      exact or_trap_ne flags
    · rw [hcallbacks, if_pos rfl]
      exact ⟨actions, Std.ExtTreeMap.getElem?_insert_self, .inl haction⟩

/-- The step that is asked for at a hit takes the callback of the client along, unless one is
pending already. -/
theorem Due.schedule {callback : Callback} {action : StepAction}
    (hcurrent : env.currentThreadId = some thread) (hasked : s.Asked thread callback)
    (hknown : s.Known thread)
    (harmed : thread ∈ (s.scheduleInternalStep env action).steps.gInternalStepCallbacks) :
    (s.scheduleInternalStep env action).Due thread callback := by
  obtain ⟨handle, hhandle, hindex⟩ := hknown.named
  unfold scheduleInternalStep at harmed ⊢
  rw [hcurrent] at harmed ⊢
  dsimp only at harmed ⊢
  cases hprevious : s.steps.gInternalStepCallbacks[thread]? with
  | some previous =>
    rw [hprevious] at harmed
    exact ⟨hknown.traps (MapSums.mem_of_getElem? hprevious), previous ++ [action],
      Std.ExtTreeMap.getElem?_insert_self, .inr hasked.mem⟩
  | none =>
    have hfree : thread ∉ s.steps.gInternalStepCallbacks := by
      rw [Std.ExtTreeMap.mem_iff_isSome_getElem?, hprevious]
      decide
    have htaken : s.takeUserStep thread =
        ({ s with steps.gStepCallbacks := s.steps.gStepCallbacks.erase thread
                  steps.gStepThreadSystemIds := s.steps.gStepThreadSystemIds.erase thread },
          some callback) := by
      unfold takeUserStep
      rw [hasked.pending]
    rw [hprevious, htaken] at harmed
    dsimp only at harmed ⊢
    rw [hhandle] at harmed
    rw [htaken]
    dsimp only
    rw [hhandle]
    exact Due.arm hindex hfree (by simp [stepActions]) harmed

end Session

namespace ArmedHit
variable {k : Client} {env : Env} {info : EXCEPTION_DEBUG_INFO} {s called v : Session}
  {inv : Invocation} (h : ArmedHit k env info s inv called v)
include h

theorem reported : HitReported k env info s v := by
  cases h with
  | @page accessType accessAddress rest pageInfo bp callback _ code parameters watched hit valid given
      entered armed =>
    have hreported : (s.setFakeDebugEvent env (.exception info)).reportMemoryHit k env info (some bp)
        accessAddress = k.call (.memoryBreakpoint callback accessAddress) called := by
      unfold Session.reportMemoryHit
      dsimp only
      rw [if_neg valid, given, entered]
    have hpage : HitReported k env info s _ := .page code parameters watched
    rw [hit, hreported] at hpage
    unfold Session.rearmWatchedPage at hpage
    rwa [if_pos (Std.ExtTreeMap.contains_iff_mem.mpr armed)] at hpage
  | @native id bpInfo lifted _ code own found written given persistent armed =>
    have hcall : ((lifted.enterNativeHit env id bpInfo).beginDebugEvent k false).callBreakpoint k bpInfo =
        k.call inv ((lifted.enterNativeHit env id bpInfo).beginDebugEvent k false) := by
      unfold BreakpointInfo.invocation at given
      unfold Session.callBreakpoint
      cases hkind : bpInfo.kind with
      | hardware =>
        rw [hkind] at given
        obtain ⟨callback, hcallback, rfl⟩ := Option.map_eq_some_iff.mp given
        rw [hcallback]
      | software =>
        rw [hkind] at given
        obtain ⟨callback, hcallback, rfl⟩ := Option.map_eq_some_iff.mp given
        rw [hcallback]
    have hnative := HitReported.native (k := k) code own found written
    unfold Session.reportNativeHit at hnative
    rw [hcall] at hnative
    unfold Session.rearmNative at hnative
    rwa [if_pos (by simp [persistent, armed])] at hnative

variable {rules : Rules} (hk : k.Follows rules)
include hk

theorem setting_called : called.setting = s.setting := by
  have hbegin : ∀ s : Session, (s.beginDebugEvent k false).setting = s.setting := by
    intro s
    have heffects : Effects k env s (s.beginDebugEvent k false) := .beginDebugEvent false s
    exact Session.setting_of_roster (Session.roster_effects hk env heffects)
  cases h with
  | page code parameters watched hit valid given entered armed =>
    rw [entered]
    split
    · exact hbegin _
    · exact (Session.setting_of_roster (Session.roster_of_core
        (Session.core_removeMemoryBreakpointById ..))).trans (hbegin _)
  | @native id bpInfo lifted _ code own found written given persistent armed =>
    have hlifted := Session.guards_writeNativeBreakpointBytes env bpInfo false
      (s.setFakeDebugEvent env (.exception info))
    rw [written] at hlifted
    exact (hbegin _).trans ((congrArg Prod.fst (Session.guards_enterNativeHit env id bpInfo lifted)).trans
      (congrArg Prod.fst hlifted))

/-- The end of a hit is a request for an internal step in what the callback has left. -/
theorem scheduled : ∃ (w : Session) (action : StepAction), w.core = (k.call inv called).core ∧
    w.setting = s.setting ∧ v = w.scheduleInternalStep env action := by
  have hcalled := h.setting_called hk
  have heffects : Effects k env called (k.call inv called) := .call inv called
  have hclient : (k.call inv called).setting = s.setting :=
    (Session.setting_of_roster (Session.roster_effects hk env heffects)).trans hcalled
  cases h with
  | @page _ accessAddress _ _ _ callback =>
    have hcore := Session.core_protectMemoryBreakpointPage env (s.pageAddress accessAddress) false
      (k.call (.memoryBreakpoint callback accessAddress) called)
    exact ⟨_, _, hcore, (Session.setting_of_roster (Session.roster_of_core hcore)).trans hclient, rfl⟩
  | native => exact ⟨_, _, rfl, hclient, rfl⟩

end ArmedHit

namespace Session

/-- What the observer has noted down from `s` to `s'`. -/
def noted (s s' : Session) : List Entry := s'.log.take (s'.log.length - s.log.length)

theorem noted_eq {s s' : Session} {added : List Entry} (h : s'.log = added ++ s.log) :
    noted s s' = added := by
  unfold noted
  rw [h, List.length_append, Nat.add_sub_cancel, List.take_left]

/-- From `s` to `s'` the thread stays where it is, and step callbacks see it there. -/
structure Ran (thread : ULONG) (callback : Callback) (s s' : Session) : Prop where
  ip : s'.target.ip thread = s.target.ip thread
  depth : s'.target.depth thread = s.target.depth thread
  log : s'.log = noted s s' ++ s.log
  calls : ∀ call ∈ stepCalls thread callback (noted s s'),
    call = (s.target.ip thread, s.target.depth thread)

namespace Ran
variable {k : Client} {rules : Rules} {env : Env} {thread : ULONG} {callback : Callback}
  {s s' s'' : Session}

theorem of_log (added : List Entry) (hip : s'.target.ip = s.target.ip)
    (hdepth : s'.target.depth = s.target.depth) (hlog : s'.log = added ++ s.log)
    (hcalls : ∀ call ∈ stepCalls thread callback added,
      call = (s.target.ip thread, s.target.depth thread)) : Ran thread callback s s' := by
  have hnoted := noted_eq hlog
  refine ⟨congrFun hip thread, congrFun hdepth thread, ?_, ?_⟩
  · rw [hnoted]
    exact hlog
  · rw [hnoted]
    exact hcalls

theorem noted_trans (h : Ran thread callback s s') (h' : Ran thread callback s' s'') :
    noted s s'' = noted s' s'' ++ noted s s' := by
  apply noted_eq
  rw [List.append_assoc, ← h.log, ← h'.log]

theorem trans (h : Ran thread callback s s') (h' : Ran thread callback s' s'') :
    Ran thread callback s s'' := by
  have hnoted := h.noted_trans h'
  refine ⟨h'.ip.trans h.ip, h'.depth.trans h.depth, ?_, ?_⟩
  · rw [hnoted, List.append_assoc, ← h.log]
    exact h'.log
  · rw [hnoted, stepCalls, List.filterMap_append]
    intro call hcall
    obtain hcall | hcall := List.mem_append.mp hcall
    · rw [h'.calls call hcall, h.ip, h.depth]
    · exact h.calls call hcall

theorem quiet (hip : s'.target.ip = s.target.ip) (hdepth : s'.target.depth = s.target.depth)
    (hlog : s'.log = s.log) : Ran thread callback s s' :=
  of_log [] hip hdepth hlog fun _ hcall => absurd hcall List.not_mem_nil

theorem calls_ne_nil (h : Ran thread callback s s') (h' : Ran thread callback s' s'')
    (hne : stepCalls thread callback (noted s s') ≠ []) :
    stepCalls thread callback (noted s s'') ≠ [] := by
  rw [h.noted_trans h', stepCalls, List.filterMap_append]
  exact List.append_ne_nil_of_right_ne_nil _ hne

theorem of_frame (h : s'.frame = s.frame) : Ran thread callback s s' :=
  quiet (frame_field_eq (fun s => s.target.ip) (fun _ => rfl) h)
    (frame_field_eq (fun s => s.target.depth) (fun _ => rfl) h) (frame_log h)

theorem refl (s : Session) : Ran thread callback s s := of_frame rfl

theorem of_core (h : s'.core = s.core) : Ran thread callback s s' := of_frame (frame_of_core h)

theorem debugStep (kind : StepKind) (asked : Option Callback) (s : Session) :
    Ran thread callback s (s.debugStep env kind asked) := by
  obtain heq | ⟨thread', -, -, -, heq⟩ := debugStep_outcome env kind asked s
  · rw [heq]
    exact refl s
  · rw [heq]
    exact of_log [.stepRequested thread' asked] rfl rfl rfl
      (fun _ hcall => absurd hcall List.not_mem_nil)

theorem callStep (h : CallStep rules s s') : Ran thread callback s s' := by
  obtain @⟨env, call, _, -⟩ := h
  cases hsteps : call.steps with
  | false => exact of_frame (frame_call env hsteps s)
  | true =>
    cases call with
    | stepInto asked => exact debugStep .into asked s
    | stepOver asked => exact debugStep .over asked s
    | _ => cases hsteps

theorem calls_run (h : ReflTransGen (CallStep rules) s s') : Ran thread callback s s' := by
  induction h with
  | refl => exact refl s
  | tail _ hstep ih => exact ih.trans (callStep hstep)

theorem stepCalls_step (thread : ULONG) (callback callback' : Callback) (ip : ULONG_PTR) (depth : ℕ) :
    stepCalls thread callback [.invoke (.step thread callback' ip depth)] =
      if callback' = callback then [(ip, depth)] else [] := by
  by_cases heq : callback' = callback
  · simp [stepCalls, heq]
  · simp [stepCalls, heq]

/-- A step callback is noted down, with where the thread stands, before the client runs. -/
theorem invoked (callback' : Callback) (s : Session) :
    Ran thread callback s
      { s with log := .invoke (.step thread callback' (s.target.ip thread) (s.target.depth thread)) ::
        s.log } := by
  refine of_log [_] rfl rfl rfl fun call hcall => ?_
  rw [stepCalls_step] at hcall
  split at hcall
  · exact List.mem_singleton.mp hcall
  · cases hcall

/-- What the client does in a step callback is done where the thread stands. -/
theorem callStep_client (hk : k.Follows rules) (callback' : Callback) (s : Session) :
    Ran thread callback s (s.callStep k thread callback') :=
  (invoked callback' s).trans (calls_run (hk _ _))

theorem stepCalls_callStep (hk : k.Follows rules) (s : Session) :
    stepCalls thread callback (noted s (s.callStep k thread callback)) ≠ [] := by
  have hclient := hk (.step thread callback (s.target.ip thread) (s.target.depth thread))
    { s with log := .invoke (.step thread callback (s.target.ip thread) (s.target.depth thread)) :: s.log }
  have hfirst : Ran thread callback s _ := invoked callback s
  have hnoted := hfirst.noted_trans (calls_run hclient)
  have hinvoked : noted s
      { s with log := .invoke (.step thread callback (s.target.ip thread) (s.target.depth thread)) ::
        s.log } = [_] := noted_eq rfl
  rw [hinvoked] at hnoted
  show stepCalls thread callback (noted s (k _ _)) ≠ []
  rw [hnoted, stepCalls, List.filterMap_append]
  apply List.append_ne_nil_of_right_ne_nil
  show stepCalls thread callback _ ≠ []
  rw [stepCalls_step, if_pos rfl]
  exact List.cons_ne_nil _ _

theorem runAction (hk : k.Follows rules) (action : StepAction) (s : Session) :
    Ran thread callback s (s.runAction k env thread action) := by
  cases action with
  | rearmBreakpoint id =>
    unfold Session.runAction
    dsimp only
    split
    · exact of_frame (frame_writeNativeBreakpointBytes ..)
    · exact refl s
  | rearmPage page =>
    unfold Session.runAction
    dsimp only
    split
    · exact of_core (core_protectMemoryBreakpointPage ..)
    · exact refl s
  | userStep callback' => exact callStep_client hk callback' s

theorem runActions (hk : k.Follows rules) (actions : List StepAction) (s : Session) :
    Ran thread callback s (s.runActions k env thread actions) := by
  induction actions generalizing s with
  | nil => exact refl s
  | cons action actions ih => exact (runAction hk action s).trans (ih _)

/-- The callback that an internal step takes along is run at its end. -/
theorem runActions_userStep (hk : k.Follows rules) {actions : List StepAction}
    (haction : .userStep callback ∈ actions) (s : Session) :
    stepCalls thread callback (noted s (s.runActions k env thread actions)) ≠ [] := by
  induction actions generalizing s with
  | nil => cases haction
  | cons action actions ih =>
    have hfirst : Ran thread callback s (s.runAction k env thread action) := runAction hk action s
    have hrest : Ran thread callback (s.runAction k env thread action)
        ((s.runAction k env thread action).runActions k env thread actions) := runActions hk actions _
    have hnoted := hfirst.noted_trans hrest
    show stepCalls thread callback (noted s
      ((s.runAction k env thread action).runActions k env thread actions)) ≠ []
    rw [hnoted, stepCalls, List.filterMap_append]
    obtain heq | hmem := List.mem_cons.mp haction
    · subst heq
      exact List.append_ne_nil_of_right_ne_nil _ (stepCalls_callStep hk s)
    · exact List.append_ne_nil_of_left_ne_nil (ih hmem _) _

end Ran

/-- The step is still pending, and the thread runs on as handled without its trap flag. -/
structure Overrun (thread : ULONG) (s : Session) : Prop where
  pending : thread ∈ s.steps.gStepCallbacks
  status : s.gNextExecutionStatus = .goHandled
  clear : s.target.eflags thread &&& TRAP_FLAG = 0

namespace Overrun
variable {k : Client} {env : Env} {thread : ULONG} {s s' : Session}

theorem of_frame (h : s.Overrun thread) (hframe : s'.frame = s.frame) : s'.Overrun thread := by
  refine ⟨?_, (frame_status hframe).trans h.status, ?_⟩
  · rw [frame_steps hframe]
    exact h.pending
  · rw [roster_field_eq (fun s => s.target.eflags) (fun _ => rfl) (roster_of_frame hframe)]
    exact h.clear

theorem runAction (hk : k.Follows (onThread thread)) (h : s.Overrun thread) (action : StepAction) :
    (s.runAction k env thread action).Overrun thread := by
  cases action with
  | rearmBreakpoint id =>
    unfold Session.runAction
    dsimp only
    split
    · exact h.of_frame (frame_writeNativeBreakpointBytes ..)
    · exact h
  | rearmPage page =>
    unfold Session.runAction
    dsimp only
    split
    · exact h.of_frame (frame_of_core (core_protectMemoryBreakpointPage ..))
    · exact h
  | userStep callback =>
    have hnoted : Overrun thread
        { s with log := .invoke (.step thread callback (s.target.ip thread) (s.target.depth thread)) ::
          s.log } := ⟨h.pending, h.status, h.clear⟩
    exact hnoted.of_frame (frame_calls_of_pending (hk _ _) hnoted.pending)

theorem runActions (hk : k.Follows (onThread thread)) (h : s.Overrun thread) (actions : List StepAction) :
    (s.runActions k env thread actions).Overrun thread := by
  induction actions generalizing s with
  | nil => exact h
  | cons action actions ih => exact ih (h.runAction hk action)

end Overrun

/-- The end of an internal step, where the flags of the thread can be written. -/
theorem completeInternalStep_spec {k : Client} {thread : ULONG} (hk : k.Follows (onThread thread))
    (env : Env) (callback : Callback) {s : Session} (hlive : s.Live) (hpaused : s.gPaused = true)
    (hcontext : ∀ handle, env.context handle = true)
    (hnamed : ∃ handle, s.gDebugIdMap.threadIndexToHandle[thread]? = some handle ∧
      s.gDebugIdMap.threadHandleToIndex[handle]? = some thread)
    {actions : List StepAction} (hactions : s.steps.gInternalStepCallbacks[thread]? = some actions) :
    ∃ s', s.completeInternalStep k env thread = some s' ∧ Ran thread callback s s' ∧
      (.userStep callback ∈ actions → stepCalls thread callback (noted s s') ≠ []) ∧
        (thread ∈ s.steps.gStepCallbacks → s'.Overrun thread) := by
  obtain ⟨handle, hhandle, hindex⟩ := hnamed
  have hclear : s.clearTrapFlag env thread =
      { s with target.eflags :=
          Function.update s.target.eflags thread (s.getCFlags env handle &&& ~~~TRAP_FLAG) } := by
    unfold clearTrapFlag
    rw [hhandle]
    exact setCFlags_live hlive hpaused hcontext _ hindex
  have hforgotten : Ran thread callback s ((s.clearTrapFlag env thread).forgetInternalStep thread) := by
    rw [hclear]
    exact .quiet rfl rfl rfl
  have hran : Ran thread callback ((s.clearTrapFlag env thread).forgetInternalStep thread)
      (((s.clearTrapFlag env thread).forgetInternalStep thread).runActions k env thread actions) :=
    .runActions hk actions _
  obtain ⟨resumes, e, hreleased⟩ := releaseThreads_eq thread
    (((s.clearTrapFlag env thread).forgetInternalStep thread).runActions k env thread actions)
  have hrelease : Ran thread callback
      (((s.clearTrapFlag env thread).forgetInternalStep thread).runActions k env thread actions)
      ((((s.clearTrapFlag env thread).forgetInternalStep thread).runActions k env thread
        actions).releaseThreads thread) := by
    rw [hreleased]
    exact .quiet rfl rfl rfl
  refine ⟨_, ?_, (hforgotten.trans hran).trans hrelease, fun haction => ?_, fun hpending => ?_⟩
  · unfold completeInternalStep
    rw [hactions]
  · refine (hforgotten.trans hran).calls_ne_nil hrelease ?_
    rw [hforgotten.noted_trans hran, stepCalls, List.filterMap_append]
    exact List.append_ne_nil_of_left_ne_nil (Ran.runActions_userStep hk haction _) _
  · have hoverrun : ((s.clearTrapFlag env thread).forgetInternalStep thread).Overrun thread := by
      rw [hclear]
      refine ⟨hpending, rfl, ?_⟩
      show Function.update s.target.eflags thread (s.getCFlags env handle &&& ~~~TRAP_FLAG) thread &&&
        TRAP_FLAG = 0
      rw [Function.update_self]
      exact clear_and_trap _
    have hafter : Overrun thread
        (((s.clearTrapFlag env thread).forgetInternalStep thread).runActions k env thread actions) :=
      hoverrun.runActions hk actions
    rw [hreleased]
    exact ⟨hafter.pending, hafter.status, hafter.clear⟩

/-- A round whose only event is the trap of an internal step. -/
theorem debugLoop_trap {k : Client} {env : Env} {thread : ULONG} {info : EXCEPTION_DEBUG_INFO}
    {s s' : Session} (hqueue : s.gCallbackQueue = []) (hwait : env.waitForEvent = true)
    (hregisters : env.readRegisters = true ∧ env.flushRegisters = true)
    (hcurrent : env.currentThreadId = some thread) (hcode : info.code = EXCEPTION_SINGLE_STEP)
    (hcomplete : ({ s with gPaused := true }.setFakeDebugEvent env
      (.exception info)).completeInternalStep k env thread = some s') :
    s.debugLoop k env [(env, .exception info)] =
      { s' with gCallbackQueue := [] }.applyExecutionStatus env := by
  have hround : Round k env [(env, .exception info)] s [(env, .exception info)]
      { s with gPaused := true, gCallbackQueue := [(env, .exception info)] } := by
    refine ⟨.inr hwait, hregisters, ?_⟩
    have hawaited : s.awaitEvent env [(env, .exception info)] =
        { s with gPaused := false, gCallbackQueue := [(env, .exception info)] } := by
      unfold awaitEvent
      rw [if_neg (not_not.mpr hqueue)]
      unfold recogniseStop
      exact if_pos (List.cons_ne_nil _ _)
    rw [hawaited]
  have hdequeued : Session.dequeue [] { s with gPaused := true, gCallbackQueue := [(env, .exception info)] } =
      { s with gPaused := true } := by
    show { s with gPaused := true, gCallbackQueue := [] } = { s with gPaused := true }
    rw [← hqueue]
  have hevent : (Work.exception info).run k env { s with gPaused := true } = (s', true) := by
    show exceptionEvent k env info { s with gPaused := true } = (s', true)
    unfold exceptionEvent consumeSingleStep
    dsimp only
    rw [if_pos hcode, hcurrent, Option.bind_some, hcomplete]
  rw [debugLoop_of_round hround, drain_cons, hdequeued, hevent]
  rfl

theorem applyExecutionStatus_log (env : Env) (s : Session) :
    ∃ status added, (s.applyExecutionStatus env).1 =
        { s with gNextExecutionStatus := status, log := added ++ s.log } ∧
      ∀ thread callback, stepCalls thread callback added = [] := by
  unfold applyExecutionStatus
  dsimp only
  split
  · exact ⟨.noChange, [], rfl, fun _ _ => rfl⟩
  split
  · exact ⟨.noChange, [], rfl, fun _ _ => rfl⟩
  split
  · exact ⟨.noChange, [_], rfl, fun _ _ => rfl⟩
  · exact ⟨.noChange, [], rfl, fun _ _ => rfl⟩

theorem Ran.applyExecutionStatus {thread : ULONG} {callback : Callback} (env : Env) (s : Session) :
    Ran thread callback s (s.applyExecutionStatus env).1 := by
  obtain ⟨status, added, heq, hcalls⟩ := applyExecutionStatus_log env s
  rw [heq]
  refine .of_log added rfl rfl rfl fun call hcall => ?_
  rw [hcalls] at hcall
  cases hcall

end Session

/-- Nothing stops a thread that runs on. -/
theorem Session.Overrun.not_next {thread : ULONG} {s : Session} (h : s.Overrun thread) {env : Env}
    (hdebuggee : env.hasDebuggee = true) {n : ℕ} (c : CallTrace) (k : Client) (stop : CallStop) :
    ¬ c.Next k thread ⟨n, ({ s with gCallbackQueue := [] }.applyExecutionStatus env).1,
      ({ s with gCallbackQueue := [] }.applyExecutionStatus env).2⟩ stop := by
  obtain ⟨status, added, heq, -⟩ := applyExecutionStatus_log env { s with gCallbackQueue := [] }
  have houtcome : ({ s with gCallbackQueue := [] }.applyExecutionStatus env).2 = .resumed .goHandled := by
    unfold applyExecutionStatus
    dsimp only
    rw [h.status, hdebuggee, if_neg (by decide), if_neg (by simp), if_pos rfl]
  rw [heq, houtcome]
  rintro ⟨resumed, stops⟩
  cases resumed
  cases stops with
  | trap set => exact set h.clear
  | into asked => cases asked
  | stepped clear asked => cases asked

/-- A thread that is due to trap is not stepped over its call: it stops in the function, where
the callback is run or the thread is let go. -/
theorem CallTrace.not_steppedOver_of_due (c : CallTrace) {k : Client} {thread : ULONG}
    {callback : Callback} (hk : k.Follows (onThread thread)) {s : Session} {outcome : Outcome}
    (hlive : s.Live) (hqueue : s.gCallbackQueue = [])
    (hnamed : ∃ handle, s.gDebugIdMap.threadIndexToHandle[thread]? = some handle ∧
      s.gDebugIdMap.threadHandleToIndex[handle]? = some thread)
    (hdue : s.Due thread callback) : ¬ c.SteppedOver k thread callback ⟨0, s, outcome⟩ := by
  intro hstepped
  obtain ⟨actions, hactions, hcarried⟩ := hdue.actions
  have hresumed : ∃ status, outcome = .resumed status := by
    have hnone : CallStop.since ⟨0, s, outcome⟩ ⟨0, s, outcome⟩ = [] :=
      Session.noted_eq (s := s) (List.nil_append _).symm
    obtain ⟨-, stop, hnext⟩ | ⟨hlast, -⟩ := hstepped _ .refl
    · cases hnext with
      | stop resumed => exact ⟨_, resumed⟩
    · rw [hnone] at hlast
      cases hlast
  obtain ⟨status, hresumed⟩ := hresumed
  -- The trap comes as an exception, in a round in which everything succeeds.
  let env : Env := { currentThreadId := some thread }
  let info : EXCEPTION_DEBUG_INFO := { code := EXCEPTION_SINGLE_STEP, address := c.ip 1 }
  let stood := s.standing thread (c.ip 1) (c.depth 1)
  obtain ⟨s', hcomplete, hran, hcalls, hoverrun⟩ := Session.completeInternalStep_spec hk env callback
    (s := { stood with gPaused := true }.setFakeDebugEvent env (.exception info)) hlive rfl
    (fun _ => rfl) hnamed hactions
  have hloop := Session.debugLoop_trap (s := stood) hqueue rfl ⟨rfl, rfl⟩ rfl rfl hcomplete
  have hnext : c.Next k thread ⟨0, s, outcome⟩
      ⟨1, (stood.debugLoop k env [(env, .exception info)]).1,
        (stood.debugLoop k env [(env, .exception info)]).2⟩ :=
    .stop hresumed (.trap hdue.trap) rfl (.inr ⟨info, rfl, rfl⟩)
  rw [hloop] at hnext
  have hcleared : Session.Ran thread callback s' { s' with gCallbackQueue := [] } := .quiet rfl rfl rfl
  have happlied : Session.Ran thread callback _ _ :=
    .applyExecutionStatus env { s' with gCallbackQueue := [] }
  have hafter := (hran.trans hcleared).trans happlied
  obtain ⟨hnone, stop, hlater⟩ | ⟨hlast, -⟩ := hstepped _ (.single hnext)
  · obtain haction | hpending := hcarried
    · exact (hran.trans hcleared).calls_ne_nil happlied (hran.calls_ne_nil hcleared (hcalls haction)) hnone
    · exact absurd hlater ((hoverrun hpending).not_next rfl c k stop)
  · have hcall := hafter.calls _ (List.mem_of_getLast? hlast)
    have hdepth : c.depth 0 = c.depth 1 := (congrArg Prod.snd hcall).trans (Function.update_self ..)
    have hcalled := c.called
    omega

/-- In no session is a call stepped over from the callback of a breakpoint that stays armed. -/
theorem ArmedHit.not_steppedOver {k : Client} {thread : ULONG} {callback : Callback}
    (hk : k.Follows (onThread thread)) {s s₁ called v : Session} (hlive : s.Live) {env env' : Env}
    {events : List (Env × Work)} {info : EXCEPTION_DEBUG_INFO} {inv : Invocation}
    (hround : Round k env events s [(env', .exception info)] s₁)
    (hcurrent : env'.currentThreadId = some thread) (hknown : s₁.Known thread)
    (hhit : ArmedHit k env' info (s₁.dequeue []) inv called v)
    (harmed : thread ∈ v.steps.gInternalStepCallbacks)
    (hover : k.StepsOver thread callback inv called) (c : CallTrace) :
    ¬ c.SteppedOver k thread callback
      ⟨0, (s.debugLoop k env events).1, (s.debugLoop k env events).2⟩ := by
  obtain ⟨w, action, hcore, hsetting, rfl⟩ := hhit.scheduled hk
  have hasked : w.Asked thread callback :=
    (Session.asked_of_stepsOver hover).of_frame (Session.frame_of_core hcore)
  have hknown' : w.Known thread :=
    Session.Known.of_setting (s := s₁.dequeue []) ⟨hknown.named, hknown.traps⟩ hsetting
  have hdue := Session.Due.schedule hcurrent hasked hknown' harmed
  have hmode : w.mode = s.mode := (congrArg (fun x => x.1) hsetting).trans (mode_of_round hk hround)
  obtain ⟨steps, suspends, resumes, eflags, e, hschedule⟩ := Session.scheduleInternalStep_eq env' action w
  have hfinish : (w.scheduleInternalStep env' action).finishDebugEvent false =
      w.scheduleInternalStep env' action := by
    have hstatus : (w.scheduleInternalStep env' action).gNextExecutionStatus = .stepOver := by
      rw [hschedule]
      exact hasked.status
    unfold Session.finishDebugEvent
    exact if_neg (by rw [hstatus]; decide)
  have hloop : s.debugLoop k env events =
      { w.scheduleInternalStep env' action with gCallbackQueue := [] }.applyExecutionStatus env := by
    have hrun : (Work.exception info).run k env' (s₁.dequeue []) = _ :=
      Session.exceptionEvent_of_hit hhit.reported
    rw [Session.debugLoop_of_round hround, Session.drain_cons, hrun, hfinish]
    rfl
  obtain ⟨status, added, happlied, -⟩ := Session.applyExecutionStatus_log env
    { w.scheduleInternalStep env' action with gCallbackQueue := [] }
  rw [hloop]
  apply c.not_steppedOver_of_due hk
  · rw [happlied, hschedule]
    exact hmode.trans hlive
  · rw [happlied]
  · rw [happlied, hschedule]
    exact hknown'.named
  · rw [happlied]
    exact ⟨hdue.trap, hdue.actions⟩

/-- A client that steps over from every breakpoint callback. -/
def overStepper : Client := fun inv s =>
  match inv with
  | .softBreakpoint _ => s.debugStep {} .over (some 7)
  | _ => s

theorem overStepper_follows : overStepper.Follows (onThread 0) := by
  intro inv s
  cases inv with
  | softBreakpoint callback =>
    have hstep : CallStep (onThread 0) s (ApiCall.run {} (.stepOver (some 7)) s).1 := .call rfl
    exact .single hstep
  | _ => exact .refl

def shortCallIp : ℕ → ULONG_PTR
  | 0 => 0x401000
  | 1 => 0x402000
  | _ => 0x401005

def shortCallDepth : ℕ → ℕ
  | 1 => 1
  | _ => 0

theorem shortCall_inside (n : ℕ) (hpos : 0 < n) (hlt : n < 2) : shortCallDepth 0 < shortCallDepth n := by
  obtain rfl : n = 1 := by omega
  decide

/-- A call of a function that returns at once. -/
def shortCall : CallTrace where
  ip := shortCallIp
  depth := shortCallDepth
  returned := 2
  called := rfl
  inside := shortCall_inside
  back := rfl
  later := Nat.two_pos

theorem known_stoppedSession : stoppedSession.Known 0 where
  named := ⟨0x10, by decide, by decide⟩
  traps := by decide

theorem armedHit_overStepper : ∃ called v,
    ArmedHit overStepper {} breakpointHit (stoppedSession.dequeue []) (.softBreakpoint 1) called v ∧
      0 ∈ v.steps.gInternalStepCallbacks ∧ overStepper.StepsOver 0 7 (.softBreakpoint 1) called := by
  let s := stoppedSession.dequeue []
  let lift (bpInfo : BreakpointInfo) :=
    (s.setFakeDebugEvent {} (.exception breakpointHit)).writeNativeBreakpointBytes {} bpInfo false
  let enter (hit : ULONG × BreakpointInfo) :=
    ((lift hit.2).1.enterNativeHit {} hit.1 hit.2).beginDebugEvent overStepper false
  have hfacts : (s.findNative breakpointHit.address).any (fun hit =>
      (lift hit.2).2 && decide (hit.2.invocation = some (.softBreakpoint 1)) && !hit.2.oneShot &&
      (overStepper.call (.softBreakpoint 1) (enter hit)).bps.gBreakpoints.contains hit.1 &&
      ((overStepper.call (.softBreakpoint 1) (enter hit)).scheduleInternalStep {}
        (.rearmBreakpoint hit.1)).steps.gInternalStepCallbacks.contains 0 &&
      (enter hit).pauseLock && !(enter hit).steps.gStepCallbacks.contains 0) = true := by decide
  rw [Option.any_eq_true] at hfacts
  obtain ⟨hit, hfound, hfacts⟩ := hfacts
  simp only [Bool.and_eq_true, Bool.not_eq_true', decide_eq_true_eq] at hfacts
  obtain ⟨⟨⟨⟨⟨⟨hlift, hgiven⟩, hpersistent⟩, harmed⟩, hscheduled⟩, hlock⟩, hfree⟩ := hfacts
  have hhit : ArmedHit overStepper {} breakpointHit s (.softBreakpoint 1) (enter hit) _ :=
    .native (.inl rfl) (by decide) hfound (Prod.ext rfl hlift) hgiven hpersistent
      (Std.ExtTreeMap.contains_iff_mem.mp harmed)
  refine ⟨_, _, hhit, Std.ExtTreeMap.contains_iff_mem.mp hscheduled, _, {}, .refl, rfl, hlock, ?_, .refl⟩
  intro hmem
  rw [← Std.ExtTreeMap.contains_iff_mem] at hmem
  exact Bool.false_ne_true (hfree.symm.trans hmem)

/-- The stop at the breakpoint, with the step over asked for. -/
def breakpointStop : CallStop :=
  ⟨0, (softwareThreadedSession.debugLoop overStepper {} [({}, .exception breakpointHit)]).1,
    (softwareThreadedSession.debugLoop overStepper {} [({}, .exception breakpointHit)]).2⟩

theorem not_steppedOver_overStepper :
    ¬ shortCall.SteppedOver overStepper 0 7 breakpointStop := by
  obtain ⟨called, v, hhit, harmed, hover⟩ := armedHit_overStepper
  exact hhit.not_steppedOver overStepper_follows (show softwareThreadedSession.Live from rfl)
    (round_stoppedSession overStepper) rfl known_stoppedSession harmed hover shortCall

def calleeTrap : EXCEPTION_DEBUG_INFO := { code := EXCEPTION_SINGLE_STEP, address := 0x402000 }

/-- The next stop, at the first instruction of the function. -/
def calleeStop : CallStop :=
  ⟨1, ((breakpointStop.session.standing 0 0x402000 1).debugLoop overStepper {} [({}, .exception calleeTrap)]).1,
    ((breakpointStop.session.standing 0 0x402000 1).debugLoop overStepper {} [({}, .exception calleeTrap)]).2⟩

theorem next_calleeStop : shortCall.Next overStepper 0 breakpointStop calleeStop := by
  have hresumed : breakpointStop.outcome = .resumed .stepOver := by decide
  have htrap : breakpointStop.session.target.eflags 0 &&& TRAP_FLAG ≠ 0 := by decide
  exact .stop hresumed (.trap htrap) rfl (.inr ⟨calleeTrap, rfl, rfl⟩)

/-- A step over from the callback of a breakpoint at a call is reported at the first
instruction of the function. -/
theorem step_over_ends_in_callee :
    ¬ ∀ (k : Client) (thread : ULONG) (callback : Callback) (s s₁ called v : Session) (env env' : Env)
      (events : List (Env × Work)) (info : EXCEPTION_DEBUG_INFO) (inv : Invocation) (c : CallTrace),
      k.Follows (onThread thread) → s.Live → Round k env events s [(env', .exception info)] s₁ →
      env'.currentThreadId = some thread → s₁.Known thread →
      ArmedHit k env' info (s₁.dequeue []) inv called v → thread ∈ v.steps.gInternalStepCallbacks →
      k.StepsOver thread callback inv called →
      c.SteppedOver k thread callback
        ⟨0, (s.debugLoop k env events).1, (s.debugLoop k env events).2⟩ := by
  intro hclaim
  obtain ⟨called, v, hhit, harmed, hover⟩ := armedHit_overStepper
  have hstepped := hclaim overStepper 0 7 softwareThreadedSession stoppedSession called v {} {} _ _ _
    shortCall overStepper_follows (show softwareThreadedSession.Live from rfl)
    (round_stoppedSession overStepper) rfl known_stoppedSession hhit harmed hover
  have hcalls : stepCalls 0 7 (calleeStop.since breakpointStop) = [(0x402000, 1)] := by decide
  obtain ⟨hnone, -⟩ | ⟨hlast, -⟩ := hstepped calleeStop (.single next_calleeStop)
  · change stepCalls 0 7 (calleeStop.since breakpointStop) = [] at hnone
    rw [hcalls] at hnone
    cases hnone
  · change (stepCalls 0 7 (calleeStop.since breakpointStop)).getLast? = _ at hlast
    rw [hcalls] at hlast
    exact absurd hlast (by decide)

end TitanEngine

import TitanEngine.Replay.Modules
import TitanEngine.Replay.Rounds
import TitanEngine.Replay.Threads

/-! The loop of a replay against runs of a replay session: it makes their steps, and in between
turns only what steers it. -/
namespace TitanEngine
open Relation

/-- The status of the loop, that of the event, and the callback of an attach are written. -/
inductive Steers : TtdSession → TtdSession → Prop
  | steer {t : TtdSession} (status : ExecutionStatus) (continueStatus : DWORD)
      (attach : Option Callback) (error : DWORD) (stop : Bool) :
      Steers t
        { t with gNextExecutionStatus := status
                 gNextContinueStatus := continueStatus
                 gAttachCallback := attach
                 lastError := error
                 gTtdStopRequested := stop }

/-- A step of a replay session, or of the loop on its own. -/
inductive SteeredStep (rules : ReplayRules) : TtdSession → TtdSession → Prop
  | step {t t' : TtdSession} (step : TtdStep rules.move rules.work rules.opens t t') :
      SteeredStep rules t t'
  | steer {t t' : TtdSession} (steer : Steers t t') : SteeredStep rules t t'

namespace TtdSession
variable {rules : ReplayRules} {t : TtdSession}

theorem steers_refl (t : TtdSession) : Steers t t :=
  .steer t.gNextExecutionStatus t.gNextContinueStatus t.gAttachCallback t.lastError t.gTtdStopRequested

theorem steered_call {call : ReplayCall} (h : rules.call call t) :
    SteeredStep rules t (call.run t) := by
  cases call with
  | replaySetPosition requested reached => exact .step (@TtdStep.move _ _ _ (.setPosition requested reached) t h)
  | replayStepBack answers stepCallBack =>
    exact .step (@TtdStep.move _ _ _ (.stepBack answers stepCallBack) t h)
  | step answers stepOver stepCallBack =>
    exact .step (@TtdStep.move _ _ _ (.step answers stepOver stepCallBack) t h)
  | replayRunBack => exact .step .runBack
  | titanOpenProcess dwProcessId => exact .step (.openProcess h)
  | titanOpenThread threads dwThreadId => exact .step (.openThread h)
  | titanCloseHandle hEngineHandle closed => exact .step .closeHandle
  | breakpoints bps watchpoints => exact .step .breakpoints
  | setNextDbgContinueStatus code =>
    refine .steer ?_
    simp only [ReplayCall.run, Session.setNextDbgContinueStatus]
    split
    · exact .steer t.gNextExecutionStatus t.gNextContinueStatus t.gAttachCallback
        ERROR_INVALID_PARAMETER t.gTtdStopRequested
    · exact .steer t.gNextExecutionStatus code t.gAttachCallback t.lastError t.gTtdStopRequested
  | requestPause callback =>
    simp only [ReplayCall.run, requestPause]
    split
    · exact .steer (.steer t.gNextExecutionStatus t.gNextContinueStatus t.gAttachCallback
        ERROR_INVALID_PARAMETER t.gTtdStopRequested)
    · split
      · exact .steer (steers_refl t)
      · exact .step .pause
  | stopDebug =>
    exact .steer (.steer t.gNextExecutionStatus t.gNextContinueStatus t.gAttachCallback t.lastError true)

theorem steered_makeCalls {calls : List ReplayCall} (h : rules.calls calls t) :
    ReflTransGen (SteeredStep rules) t (t.makeCalls calls) := by
  induction calls generalizing t with
  | nil => exact .refl
  | cons call calls ih => exact .head (steered_call h.1) (ih h.2)

theorem steered_work {work : TtdWork} {rest : List TtdWork} {calls : List ReplayCall}
    (hqueue : t.queue = work :: rest) (hallowed : rules.work work t)
    (hcalled : rules.calls calls ({ t with queue := rest }.beginWork work)) :
    ReflTransGen (SteeredStep rules) t ({ t with queue := rest }.work work calls) := by
  have hdeliver : SteeredStep rules t ({ t with queue := rest }.deliver work) :=
    .step (.deliver hqueue hallowed)
  have hbegin : SteeredStep rules ({ t with queue := rest }.deliver work)
      ({ t with queue := rest }.beginWork work) :=
    .steer (.steer _ _ _ _ _)
  have hfinish : ∀ u : TtdSession, SteeredStep rules u
      { u with toSession := u.toSession.finishDebugEvent work.isUnhandled } := by
    intro u
    refine .steer ?_
    unfold Session.finishDebugEvent
    split
    · exact .steer (u.toSession.eventStatus work.isUnhandled) u.gNextContinueStatus u.gAttachCallback
        u.lastError u.gTtdStopRequested
    · exact steers_refl u
  exact .tail (.head hdeliver (.head hbegin (steered_makeCalls hcalled))) (hfinish _)

end TtdSession

namespace ReplayLoop
variable {rules : ReplayRules} {l l' : ReplayLoop}

theorem goesOn_makeCalls {calls : List ReplayCall} {t : TtdSession} (hsteerable : t.Steerable)
    (h : (t.makeCalls calls).gTtdStopRequested = false) : t.gTtdStopRequested = false := by
  induction calls generalizing t with
  | nil => exact h
  | cons call calls ih =>
    obtain ⟨turned, -, hadds⟩ := TtdSession.adds_call call hsteerable
    have hstop : (call.run t).gTtdStopRequested = (t.gTtdStopRequested || call.stops) :=
      congrArg (fun x => x.2.2) hadds.helm
    have hcalled := ih (hsteerable.of_helm (congrArg Prod.fst hadds.helm)) h
    rw [hstop] at hcalled
    exact (Bool.or_eq_false_iff.mp hcalled).1

theorem steerable_beginWork {t : TtdSession} (hsteerable : t.Steerable) (work : TtdWork)
    (rest : List TtdWork) :
    ({ t with queue := rest }.beginWork work).Steerable ∧
      ({ t with queue := rest }.beginWork work).gTtdStopRequested = t.gTtdStopRequested := by
  obtain ⟨tebs, event, threadId, hdeliver⟩ := TtdSession.deliver_eq work { t with queue := rest }
  unfold TtdSession.beginWork
  rw [hdeliver]
  exact ⟨⟨hsteerable.kind, hsteerable.cursor, hsteerable.rests⟩, rfl⟩

theorem stop_runTtdUnder {t : TtdSession} (hkind : t.gSessionKind = .ttd) (answers : RunAnswers)
    (reverse : Bool) (stop : Option StopPoint) :
    (t.runTtdUnder answers reverse stop).1.gTtdStopRequested = (t.gTtdStopRequested || stop.isSome) :=
  congrArg (fun x => x.2.2) (TtdSession.runTtdUnder_steady hkind answers reverse stop).1

theorem stop_eq_none {t : TtdSession} (hkind : t.gSessionKind = .ttd) {answers : RunAnswers}
    {reverse : Bool} {stop : Option StopPoint}
    (h : (t.runTtdUnder answers reverse stop).1.gTtdStopRequested = false) : stop = none := by
  rw [stop_runTtdUnder hkind, Bool.or_eq_false_iff] at h
  exact Option.isNone_iff_eq_none.mp (Option.isSome_eq_false_iff.mp h.2)

/-- A request for the end of the session is kept. -/
theorem goesOn_step (hstep : Step rules l l') (hsteerable : l.session.Steerable)
    (h : l'.session.gTtdStopRequested = false) : l.session.gTtdStopRequested = false := by
  cases hstep with
  | @call call l early goesOn allowed =>
    obtain ⟨turned, -, hadds⟩ := TtdSession.adds_call call hsteerable
    have hstop : (call.run l.session).gTtdStopRequested = (l.session.gTtdStopRequested || call.stops) :=
      congrArg (fun x => x.2.2) hadds.helm
    rw [hstop] at h
    exact (Bool.or_eq_false_iff.mp h).1
  | enter early => exact h
  | @deliver work rest calls l looping queued allowed called =>
    obtain ⟨hbegun, hstop⟩ := steerable_beginWork hsteerable work rest
    have hmade : ((({ l.session with queue := rest } : TtdSession).beginWork work).makeCalls
        calls).gTtdStopRequested = false := h
    exact hstop.symm.trans (goesOn_makeCalls hbegun hmade)
  | @run answers stop l looping drained free go allowed => exact free
  | sleep looping drained free idle called => exact free
  | @pause steps l =>
    obtain ⟨callback, interrupt, heq⟩ := TtdSession.pauseSteps_eq steps l.session
    rw [heq] at h
    exact h
  | stop looping => exact absurd h Bool.true_eq_false.mp
  | leave looping drained stopped => exact h

theorem steered_step (hstep : Step rules l l') (hsteerable : l.session.Steerable)
    (h : l'.session.gTtdStopRequested = false) :
    ReflTransGen (SteeredStep rules) l.session l'.session := by
  have hquiet : SteeredStep rules l.session { l.session with gNextExecutionStatus := .noChange } :=
    .steer (.steer .noChange l.session.gNextContinueStatus l.session.gAttachCallback
      l.session.lastError l.session.gTtdStopRequested)
  cases hstep with
  | call early goesOn allowed => exact .single (TtdSession.steered_call allowed)
  | enter early => exact .single (.step .loop)
  | deliver looping queued allowed called => exact TtdSession.steered_work queued allowed called
  | @run answers stop l looping drained free go allowed =>
    obtain rfl := stop_eq_none
      (t := { l.session with gNextExecutionStatus := .noChange, gTtdNextRunReverse := false })
      hsteerable.kind h
    rw [TtdSession.runTtdUnder_none]
    exact .head hquiet (.single (.step (@TtdStep.move _ _ _ (.run answers) _ allowed)))
  | sleep looping drained free idle called =>
    exact .head hquiet (TtdSession.steered_makeCalls called)
  | pause => exact .single (.step .pause)
  | stop looping =>
    exact .single (.steer (.steer l.session.gNextExecutionStatus l.session.gNextContinueStatus
      l.session.gAttachCallback l.session.lastError true))
  | leave looping drained stopped => exact .refl

theorem steered_run (hrun : Run rules l l') (hsound : Sound l.session l.history)
    (h : l'.session.gTtdStopRequested = false) :
    ReflTransGen (SteeredStep rules) l.session l'.session := by
  induction hrun with
  | refl => exact .refl
  | @tail before after hbefore hstep ih =>
    have hsteady : Sound before.session before.history := sound_step.run hbefore hsound
    have hsteerable := hsteady.steerable
    exact (ih (goesOn_step hstep hsteerable h)).trans (steered_step hstep hsteerable h)

end ReplayLoop

section Loop
variable {rules : ReplayRules} {trace : Trace} {thread : ThreadInfo} {serial : ULONG_PTR} {s : Session}
  {t₀ : TtdSession} {l : ReplayLoop}

/-- Until the end of the session is asked for, the loop of a replay is a run of the steps of a
replay session, with changes of what steers the loop in between. -/
theorem replay_loop_runs (opened : TtdSession.initReplay trace thread serial s = some t₀)
    (run : ReplayLoop.Run rules ⟨t₀, .opened, []⟩ l) (goesOn : l.session.gTtdStopRequested = false) :
    ReflTransGen (SteeredStep rules) t₀ l.session :=
  ReplayLoop.steered_run run (ReplayLoop.sound_initReplay opened) goesOn

theorem replay_loop_runs_returning :
    ReflTransGen (SteeredStep anyReplay) loadingReplay returningLoop.session :=
  @replay_loop_runs anyReplay loadingTrace mainThread 1 {} loadingReplay returningLoop (Option.some_get _).symm
    (run_returningLoop (fun _ _ => trivial) trivial) (by decide)

end Loop

end TitanEngine

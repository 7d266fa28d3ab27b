import TitanEngine.Replay.Moves
import TitanEngine.Replay.Steering

/-! The rounds of a replay: between two runs of the trace the client is told why the first one
stopped, and only what it asks for then decides how the trace is run next. -/
namespace TitanEngine

namespace ReplayEvent

def work? : ReplayEvent → Option TtdWork
  | .delivered work => some work
  | _ => none

def call? : ReplayEvent → Option ReplayCall
  | .called call => some call
  | _ => none

/-- Whether the event leaves the direction of the next run as it was asked for. -/
def keepsTurn : ReplayEvent → Bool
  | .called call => !call.isStepOver
  | _ => true

end ReplayEvent

namespace ReplayLoop

/-- The work handed to the client, newest first. -/
def handed (events : List ReplayEvent) : List TtdWork := events.filterMap ReplayEvent.work?

def callsOf (events : List ReplayEvent) : List ReplayCall := events.filterMap ReplayEvent.call?

/-- The client makes its last step over a call before it asks for a run back. -/
def AsksBack (round : List ReplayEvent) : Prop :=
  .called .replayRunBack ∈ round.takeWhile ReplayEvent.keepsTurn

/-- What makes the next run a run back: `ReplayRunBack`, if no step over a call follows it. -/
structure Directed (round : List ReplayEvent) (reverse : Bool) : Prop where
  asked : reverse = true → .called .replayRunBack ∈ round
  heard : AsksBack round → reverse = true

/-- In a round the client is told at least one stop, and at most one besides those of its own
steps. If it does not move the cursor, then it is told of threads and modules and at last of
the one stop. -/
structure Reported (round : List ReplayEvent) : Prop where
  told : 1 ≤ (handed round).countP TtdWork.isStop
  bounded : (handed round).countP TtdWork.isStop ≤ 1 + (callsOf round).countP ReplayCall.isStep
  last : (∀ call ∈ callsOf round, call.isMove = false) →
    ∃ stop rest, handed round = stop :: rest ∧ stop.isStop = true ∧
      ∀ work ∈ rest, work.isStop = false

/-- The work of the round in the order of time: what the client has been handed, and what it is
going to be handed. -/
def told (t : TtdSession) (history : List ReplayEvent) : List TtdWork :=
  (handed (round history)).reverse ++ t.queue

/-- What holds of the round that goes on. -/
structure Due (t : TtdSession) (history : List ReplayEvent) : Prop where
  bounded : (told t history).countP TtdWork.isStop ≤
    1 + (callsOf (round history)).countP ReplayCall.isStep
  due : t.gTtdStopRequested = true ∨ 1 ≤ (told t history).countP TtdWork.isStop
  last : (∀ call ∈ callsOf (round history), call.isMove = false) → t.gTtdStopRequested = true ∨
    ∃ rest stop, told t history = rest ++ [stop] ∧ stop.isStop = true ∧
      ∀ work ∈ rest, work.isStop = false

/-- What a run ends: a round in which the client was told of stops, and one whose calls decide
the direction of the run. -/
def RoundEnds (event : ReplayEvent) (older : List ReplayEvent) : Prop :=
  Reported (round older) ∧ ∀ reverse, event = .ran reverse → Directed (round older) reverse

structure Sound (t : TtdSession) (history : List ReplayEvent) : Prop where
  steerable : t.Steerable
  due : Due t history
  directed : Directed (round history) t.gTtdNextRunReverse
  rounds : Rounds.Each ReplayEvent.isRun RoundEnds history

section Events
variable {event : ReplayEvent} {history : List ReplayEvent}

theorem round_cons (h : event.isRun = false) : round (event :: history) = event :: round history :=
  Rounds.round_cons h

theorem Directed.cons {round : List ReplayEvent} {reverse : Bool} (h : Directed round reverse)
    (hother : event ≠ .called .replayRunBack) : Directed (event :: round) reverse := by
  refine ⟨fun hreverse => List.mem_cons_of_mem _ (h.asked hreverse), fun hasks => h.heard ?_⟩
  unfold AsksBack at hasks ⊢
  cases hkeeps : event.keepsTurn with
  | false => simp [hkeeps] at hasks
  | true =>
    rw [List.takeWhile_cons, if_pos hkeeps] at hasks
    exact (List.mem_cons.mp hasks).resolve_left (Ne.symm hother)

/-- A call turns the direction as it says. -/
theorem Directed.call {round : List ReplayEvent} {before after : Bool} (h : Directed round before)
    {call : ReplayCall} (hturns : call.Turns before after) :
    Directed (.called call :: round) after := by
  cases call with
  | replayRunBack =>
    obtain rfl : after = true := hturns
    exact ⟨fun _ => List.mem_cons_self, fun _ => rfl⟩
  | step answers stepOver stepCallBack =>
    cases stepOver with
    | false =>
      obtain rfl : after = before := hturns
      exact h.cons (by simp)
    | true =>
      obtain rfl | rfl : after = before ∨ after = false := hturns
      · exact h.cons (by simp)
      · refine ⟨by simp, fun hasks => ?_⟩
        simp [AsksBack, ReplayEvent.keepsTurn, ReplayCall.isStepOver] at hasks
  | _ =>
    obtain rfl : after = before := hturns
    exact h.cons (by simp)

end Events

section Calls
variable {t : TtdSession} {history : List ReplayEvent}

theorem told_call (call : ReplayCall) {t' : TtdSession} {works : List TtdWork}
    (hqueue : t'.queue = t.queue ++ works) :
    told t' (.called call :: history) = told t history ++ works := by
  rw [told, told, round_cons rfl, hqueue, List.append_assoc]
  rfl

theorem Sound.call (h : Sound t history) (call : ReplayCall) :
    Sound (call.run t) (.called call :: history) := by
  obtain ⟨turned, hturned, hadds⟩ := TtdSession.adds_call call h.steerable
  obtain ⟨works, hworks, hqueue⟩ := hadds.queued
  have hreverse : (call.run t).gTtdNextRunReverse = turned := congrArg (fun x => x.2.1) hadds.helm
  have hstop : (call.run t).gTtdStopRequested = (t.gTtdStopRequested || call.stops) :=
    congrArg (fun x => x.2.2) hadds.helm
  have hstays : t.gTtdStopRequested = true → (call.run t).gTtdStopRequested = true := by
    intro htrue
    rw [hstop, htrue, Bool.true_or]
  have htold : told (call.run t) (.called call :: history) = told t history ++ works :=
    told_call call hqueue
  have hcalls : callsOf (round (.called call :: history)) = call :: callsOf (round history) := by
    rw [round_cons rfl]
    rfl
  refine ⟨h.steerable.of_helm (congrArg Prod.fst hadds.helm), ⟨?_, ?_, ?_⟩, ?_, ?_⟩
  · have hbounded := h.due.bounded
    rw [htold, hcalls, List.countP_append, List.countP_cons]
    omega
  · rw [htold, List.countP_append]
    exact h.due.due.imp hstays fun hdue => by omega
  · rw [htold, hcalls]
    intro hmoves
    have hstill : (call.run t).queue = t.queue :=
      congrArg Prod.fst (TtdSession.still_call (hmoves call List.mem_cons_self) t)
    have hnone : works = [] := by
      rw [hstill] at hqueue
      exact List.append_cancel_left (hqueue.symm.trans (List.append_nil _).symm)
    rw [hnone, List.append_nil]
    exact (h.due.last fun c hc => hmoves c (List.mem_cons_of_mem _ hc)).imp hstays id
  · rw [round_cons rfl, hreverse]
    exact h.directed.call hturned
  · exact h.rounds.cons rfl

theorem Sound.makeCalls (calls : List ReplayCall) (h : Sound t history) :
    Sound (t.makeCalls calls) (noteCalls calls history) := by
  induction calls generalizing t history with
  | nil => exact h
  | cons call calls ih =>
    have hnote : noteCalls (call :: calls) history = noteCalls calls (.called call :: history) := by
      simp [noteCalls]
    rw [hnote]
    exact ih (h.call call)

end Calls

section Steps
variable {t : TtdSession} {history : List ReplayEvent}

/-- The session goes by the same helm, and what the client is to be told is the same. -/
theorem Sound.keep {t' : TtdSession} {history' : List ReplayEvent} (h : Sound t history)
    (hsteerable : t'.Steerable) (hreverse : t'.gTtdNextRunReverse = t.gTtdNextRunReverse)
    (hstop : t.gTtdStopRequested = true → t'.gTtdStopRequested = true)
    (hround : round history' = round history ∨
      ∃ event, (event.call? = none ∧ round history' = event :: round history))
    (htold : told t' history' = told t history)
    (hrounds : Rounds.Each ReplayEvent.isRun RoundEnds history') : Sound t' history' := by
  have hcalls : callsOf (round history') = callsOf (round history) := by
    obtain heq | ⟨event, hcall, heq⟩ := hround
    · rw [heq]
    · rw [heq, callsOf, List.filterMap_cons, hcall]
      rfl
  have hdirected : Directed (round history') t.gTtdNextRunReverse := by
    obtain heq | ⟨event, hcall, heq⟩ := hround
    · rw [heq]
      exact h.directed
    · rw [heq]
      refine h.directed.cons fun hback => ?_
      rw [hback] at hcall
      cases hcall
  refine ⟨hsteerable, ⟨?_, ?_, ?_⟩, hreverse ▸ hdirected, hrounds⟩
  · rw [htold, hcalls]
    exact h.due.bounded
  · rw [htold]
    exact h.due.due.imp hstop id
  · rw [htold, hcalls]
    exact fun hmoves => (h.due.last hmoves).imp hstop id

/-- A run finds the round told in full. -/
theorem Sound.reported (h : Sound t history) (hdrained : t.queue = [])
    (hfree : t.gTtdStopRequested = false) : Reported (round history) := by
  obtain ⟨hbounded, hdue, hlast⟩ := h.due
  have htold : told t history = (handed (round history)).reverse := by simp [told, hdrained]
  rw [htold, List.countP_reverse] at hbounded hdue
  refine ⟨hdue.resolve_left (by simp [hfree]), hbounded, fun hmoves => ?_⟩
  obtain ⟨rest, stop, heq, hstop, hrest⟩ := (hlast hmoves).resolve_left (by simp [hfree])
  rw [htold, List.reverse_eq_iff, List.reverse_append] at heq
  exact ⟨stop, rest.reverse, heq, hstop, fun work hwork => hrest work (List.mem_reverse.mp hwork)⟩

theorem Sound.run (h : Sound t history) (answers : RunAnswers) (stop : Option StopPoint)
    (hdrained : t.queue = []) (hfree : t.gTtdStopRequested = false) :
    Sound ({ t with gNextExecutionStatus := .noChange, gTtdNextRunReverse := false }.runTtdUnder
      answers t.gTtdNextRunReverse stop).1 (.ran t.gTtdNextRunReverse :: history) := by
  have hends : RoundEnds (.ran t.gTtdNextRunReverse) history := by
    refine ⟨h.reported hdrained hfree, fun reverse heq => ?_⟩
    obtain rfl := ReplayEvent.ran.inj heq
    exact h.directed
  have hround : round (.ran t.gTtdNextRunReverse :: history) = [] := Rounds.round_cons_of_mark rfl
  obtain ⟨hhelm, works, tail, hworks, hqueue, hcases⟩ := TtdSession.runTtdUnder_steady
    (t := { t with gNextExecutionStatus := .noChange, gTtdNextRunReverse := false }) h.steerable.kind
    answers t.gTtdNextRunReverse stop
  generalize ({ t with gNextExecutionStatus := .noChange, gTtdNextRunReverse := false }.runTtdUnder
    answers t.gTtdNextRunReverse stop).1 = u at hhelm hqueue ⊢
  simp only [TtdSession.helm, Session.helm, Prod.mk.injEq] at hhelm
  obtain ⟨⟨hkind, -, hpaused, -, -, hcursor⟩, hreverse, hstop⟩ := hhelm
  have htold : told u (.ran t.gTtdNextRunReverse :: history) = works ++ tail := by
    rw [told, hround, hqueue, hdrained]
    rfl
  have hnone : works.countP TtdWork.isStop = 0 := by
    rw [List.countP_eq_zero]
    intro work hwork
    simp [hworks work hwork]
  refine ⟨⟨hkind.trans h.steerable.kind, hcursor.trans h.steerable.cursor, fun _ => hpaused⟩, ?_, ?_,
    h.rounds.cons_mark hends⟩
  · rw [← hstop] at hcases
    obtain ⟨hstopped, rfl⟩ | ⟨-, work, hwork, rfl⟩ := hcases
    · exact ⟨by rw [htold]; simp [hnone], .inl hstopped, fun _ => .inl hstopped⟩
    · refine ⟨?_, .inr ?_, fun _ => .inr ⟨works, work, htold, hwork, hworks⟩⟩
      · rw [htold, List.countP_append, hnone, List.countP_singleton, if_pos hwork]
        omega
      · rw [htold, List.countP_append, List.countP_singleton, if_pos hwork]
        omega
  · rw [hround, hreverse]
    exact ⟨fun hfalse => absurd hfalse (by simp), fun hback => absurd hback (by simp [AsksBack])⟩

/-- Handing over work moves it from the queue to the client. -/
theorem Sound.handOver {work : TtdWork} {rest : List TtdWork} (h : Sound t history)
    (hqueue : t.queue = work :: rest) :
    Sound { t with queue := rest } (.delivered work :: history) := by
  refine h.keep ⟨h.steerable.kind, h.steerable.cursor, h.steerable.rests⟩ rfl id
    (.inr ⟨.delivered work, rfl, round_cons rfl⟩) ?_ (h.rounds.cons rfl)
  rw [told, told, round_cons rfl, hqueue]
  simp [handed, ReplayEvent.work?]

/-- What the loop does to itself, but for its queue, the direction and the stop flag. -/
theorem Sound.steer {t' : TtdSession} (h : Sound t history) (hsteerable : t'.Steerable)
    (hreverse : t'.gTtdNextRunReverse = t.gTtdNextRunReverse)
    (hstop : t.gTtdStopRequested = true → t'.gTtdStopRequested = true) (hqueue : t'.queue = t.queue) :
    Sound t' history :=
  h.keep hsteerable hreverse hstop (.inl rfl) (by rw [told, told, hqueue]) h.rounds

theorem Sound.finish (h : Sound t history) (unhandled : Bool) :
    Sound { t with toSession := t.toSession.finishDebugEvent unhandled } history := by
  unfold Session.finishDebugEvent
  split
  · exact h.steer ⟨h.steerable.kind, h.steerable.cursor, h.steerable.rests⟩ rfl id rfl
  · exact h

theorem Sound.work {work : TtdWork} (h : Sound t (.delivered work :: history))
    (calls : List ReplayCall) :
    Sound (t.work work calls) (noteCalls calls (.delivered work :: history)) := by
  obtain ⟨tebs, event, threadId, hdeliver⟩ := TtdSession.deliver_eq work t
  unfold TtdSession.work TtdSession.beginWork
  dsimp only
  refine (Sound.makeCalls calls ?_).finish _
  rw [hdeliver]
  exact h.steer ⟨h.steerable.kind, h.steerable.cursor, h.steerable.rests⟩ rfl id rfl

theorem Sound.sleep (h : Sound t history) (calls : List ReplayCall) :
    Sound ({ t with gNextExecutionStatus := .noChange }.makeCalls calls)
      (noteCalls calls (.slept :: history)) := by
  refine Sound.makeCalls calls ?_
  refine h.keep ⟨h.steerable.kind, h.steerable.cursor, h.steerable.rests⟩ rfl id
    (.inr ⟨.slept, rfl, round_cons rfl⟩) ?_ (h.rounds.cons rfl)
  rw [told, told, round_cons rfl]
  rfl

end Steps

theorem sound_step {rules : ReplayRules} :
    Runs.Preserves (Step rules) fun l => Sound l.session l.history := by
  intro l l' hstep h
  cases hstep with
  | call early goesOn allowed => exact h.call _
  | enter early => exact h.steer ⟨h.steerable.kind, h.steerable.cursor, fun _ => rfl⟩ rfl id rfl
  | deliver looping queued allowed called => exact (h.handOver queued).work _
  | run looping drained free go allowed => exact h.run _ _ drained free
  | sleep looping drained free idle called => exact h.sleep _
  | @pause steps l =>
    obtain ⟨callback, interrupt, heq⟩ := TtdSession.pauseSteps_eq steps l.session
    rw [heq]
    exact h.steer ⟨h.steerable.kind, h.steerable.cursor, h.steerable.rests⟩ rfl id rfl
  | stop looping => exact h.call .stopDebug
  | leave looping drained stopped => exact h

/-- The bootstrap queues the process on the initial thread, threads and modules, and then the
initial breakpoint. -/
theorem bootstrap_initReplay {trace : Trace} {thread : ThreadInfo} {serial : ULONG_PTR} {s : Session}
    {t : TtdSession} (h : TtdSession.initReplay trace thread serial s = some t) :
    t.helm = (TtdSession.openReplay trace thread serial s).helm ∧ t.gTtdEngine = trace ∧
      t.gTtdCurrentThreadId = thread.id ∧ ∃ process initialThread image teb works ip,
        t.queue = .createProcess process initialThread image teb thread :: works ++ [.initialBreakpoint ip] ∧
          ∀ work ∈ works, TtdWork.OfTimeline work := by
  unfold TtdSession.initReplay at h
  dsimp only at h
  split at h
  · cases h
  · cases h
  · rename_i _ _ image himage _
    cases h
    generalize hp : (TtdSession.openReplay trace thread serial s).bootstrapProcess image = process
    have hprocess : process.helm = (TtdSession.openReplay trace thread serial s).helm ∧
        process.gTtdEngine = trace ∧ process.gTtdCurrentThreadId = thread.id ∧
          ∃ handle initialThread teb,
            process.queue = [.createProcess handle initialThread image teb thread] := by
      rw [← hp]
      simp only [TtdSession.bootstrapProcess, TtdSession.createSyntheticTitanHandle_eq]
      exact ⟨rfl, rfl, rfl, _, _, _, rfl⟩
    obtain ⟨hhelm, hengine, hcurrent, handle, initialThread, teb, hcreated⟩ := hprocess
    have hfold := TtdSession.Refreshed.foldl (TtdSession.refreshed_bootstrapThread thread.id)
      (trace.snapshot trace.firstPosition).threads process
    have hsame := hfold.field_eq (fun t => (t.helm, t.gTtdEngine, t.gTtdCurrentThreadId))
      fun _ _ _ _ _ _ _ => rfl
    obtain ⟨works, hworks, hqueue⟩ := hfold.queued
    generalize (trace.snapshot trace.firstPosition).threads.foldl (TtdSession.bootstrapThread thread.id)
      process = started at hsame hqueue ⊢
    rw [hcreated] at hqueue
    simp only [Prod.mk.injEq, hhelm, hengine, hcurrent] at hsame
    simp only [TtdSession.bootstrapHandles, TtdSession.createSyntheticTitanHandle_eq]
    refine ⟨hsame.1, hsame.2.1, hsame.2.2, handle, initialThread, image, teb, works ++
      ((trace.snapshot trace.firstPosition).modules.eraseIdx
        (mainModule (trace.snapshot trace.firstPosition).modules)).map TtdWork.loadModule,
      started.ttdProgramCounter, ?_, fun work hwork => ?_⟩
    · simp [TtdSession.bootstrapModules, hqueue]
    · rcases List.mem_append.mp hwork with hwork | hwork
      · exact hworks work hwork
      · obtain ⟨module, -, rfl⟩ := List.mem_map.mp hwork
        trivial

theorem sound_initReplay {trace : Trace} {thread : ThreadInfo} {serial : ULONG_PTR} {s : Session}
    {t : TtdSession} (h : TtdSession.initReplay trace thread serial s = some t) : Sound t [] := by
  obtain ⟨hhelm, -, -, process, initialThread, image, teb, works, ip, hqueue, hworks⟩ :=
    bootstrap_initReplay h
  simp only [TtdSession.helm, Session.helm, TtdSession.openReplay, Prod.mk.injEq] at hhelm
  obtain ⟨⟨hkind, hdebugging, -, -, -, hcursor⟩, hreverse, -⟩ := hhelm
  have htold : told t [] = .createProcess process initialThread image teb thread :: works ++
    [.initialBreakpoint ip] := hqueue
  have hrest : ∀ work ∈ TtdWork.createProcess process initialThread image teb thread :: works,
      work.isStop = false := by
    intro work hwork
    rcases List.mem_cons.mp hwork with rfl | hwork
    · rfl
    · exact (hworks work hwork).not_isStop
  have hcount : (told t []).countP TtdWork.isStop = 1 := by
    have hnone : (TtdWork.createProcess process initialThread image teb thread :: works).countP
        TtdWork.isStop = 0 := by
      rw [List.countP_eq_zero]
      intro work hwork
      simp [hrest work hwork]
    rw [htold, List.countP_append, hnone, List.countP_singleton]
    rfl
  refine ⟨⟨hkind, hcursor, by simp [hdebugging]⟩, ⟨?_, .inr hcount.ge, ?_⟩, ?_, Rounds.each_nil⟩
  · exact hcount.le.trans (Nat.le_add_right 1 _)
  · exact fun _ => .inr ⟨_, _, htold, rfl, hrest⟩
  · rw [hreverse]
    exact ⟨fun hfalse => absurd hfalse (by simp), fun hback => by simp [AsksBack, round, Rounds.round] at hback⟩

/-- No step of an earlier session is pending, so the status that a callback settles on always
runs the trace, and each round has had a callback. -/
structure Awake (t : TtdSession) (history : List ReplayEvent) : Prop where
  clean : t.steps.gStepStatuses = ∅
  asked : t.gNextExecutionStatus = .noChange ∨ t.gNextExecutionStatus.isGo = true
  went : handed (round history) ≠ [] → t.gNextExecutionStatus.isGo = true

section Awake
variable {t : TtdSession} {history : List ReplayEvent}

theorem Awake.of_helm {t' : TtdSession} (h : Awake t history)
    (hhelm : t'.toSession.helm = t.toSession.helm) : Awake t' history := by
  simp only [Session.helm, Prod.mk.injEq] at hhelm
  obtain ⟨-, -, -, hstatus, hsteps, -⟩ := hhelm
  exact ⟨by rw [hsteps]; exact h.clean, by rw [hstatus]; exact h.asked,
    by rw [hstatus]; exact h.went⟩

theorem Awake.call (h : Awake t history) (hsteerable : t.Steerable) (call : ReplayCall) :
    Awake (call.run t) (.called call :: history) := by
  obtain ⟨turned, -, hadds⟩ := TtdSession.adds_call call hsteerable
  have hkept : Awake (call.run t) history := h.of_helm (congrArg Prod.fst hadds.helm)
  refine ⟨hkept.clean, hkept.asked, fun hsome => hkept.went ?_⟩
  rwa [round_cons rfl] at hsome

/-- The end of a callback asks for a run of the trace, if nothing has asked for one before. -/
theorem isGo_finishDebugEvent {s : Session} (hkind : s.gSessionKind = .ttd)
    (hclean : s.steps.gStepStatuses = ∅)
    (hasked : s.gNextExecutionStatus = .noChange ∨ s.gNextExecutionStatus.isGo = true)
    (unhandled : Bool) : (s.finishDebugEvent unhandled).gNextExecutionStatus.isGo = true := by
  have hfirst : s.steps.gStepStatuses.first = none := by rw [hclean]; rfl
  unfold Session.finishDebugEvent
  split
  · simp only [Session.eventStatus, hkind, hfirst]
    rw [if_neg (by simp)]
    split <;> rfl
  · rename_i hother
    exact hasked.resolve_left hother

/-- With a callback in the round, the loop has a run to make. -/
theorem Awake.goes (h : Awake t history) (hsound : Sound t history) (hdrained : t.queue = [])
    (hfree : t.gTtdStopRequested = false) : t.gNextExecutionStatus.isGo = true := by
  have htold := (hsound.reported hdrained hfree).told
  refine h.went fun hnone => ?_
  simp [hnone] at htold

theorem Awake.work (h : Awake t history) (hsteerable : t.Steerable) (work : TtdWork)
    (calls : List ReplayCall) (rest : List TtdWork) (history' : List ReplayEvent) :
    Awake ({ t with queue := rest }.work work calls) history' := by
  obtain ⟨tebs, event, threadId, hdeliver⟩ := TtdSession.deliver_eq work { t with queue := rest }
  unfold TtdSession.work TtdSession.beginWork
  dsimp only
  rw [hdeliver]
  generalize hbegun : ({ t with
    queue := rest
    gProcessTebCache := tebs
    gFakeDebugEvent := event
    noted := t.noted ++ [.delivered work threadId]
    gNextContinueStatus := if work.isUnhandled then DBG_EXCEPTION_NOT_HANDLED else DBG_CONTINUE
    gAttachCallback := if work.isSystemBreakpoint then none else t.gAttachCallback } : TtdSession) =
      begun
  have hhelm : begun.toSession.helm = t.toSession.helm := by rw [← hbegun]; rfl
  have hmade := TtdSession.helm_makeCalls calls (hsteerable.of_helm hhelm)
  have hkept : Awake (begun.makeCalls calls) history := h.of_helm (hmade.trans hhelm)
  have hkind := ((hsteerable.of_helm hhelm).of_helm hmade).kind
  have hgo := isGo_finishDebugEvent hkind hkept.clean hkept.asked work.isUnhandled
  refine ⟨?_, .inr hgo, fun _ => hgo⟩
  have hsteps : ∀ s : Session, (s.finishDebugEvent work.isUnhandled).steps = s.steps := by
    intro s
    unfold Session.finishDebugEvent
    split <;> rfl
  exact (congrArg (fun steps => steps.gStepStatuses) (hsteps _)).trans hkept.clean

end Awake

/-- After `StopDebug` the trace is not run any more. -/
structure Halting (t : TtdSession) (history : List ReplayEvent) : Prop where
  halted : .called .stopDebug ∈ history → t.gTtdStopRequested = true
  last : Rounds.Each ReplayEvent.isRun (fun _ older => .called .stopDebug ∉ older) history

section Halting
variable {t : TtdSession} {history : List ReplayEvent}

theorem Halting.steer {t' : TtdSession} (h : Halting t history)
    (hstop : t.gTtdStopRequested = true → t'.gTtdStopRequested = true) : Halting t' history :=
  ⟨fun hmem => hstop (h.halted hmem), h.last⟩

theorem Halting.cons {event : ReplayEvent} (h : Halting t history) (hrun : event.isRun = false)
    (hstop : event ≠ .called .stopDebug) : Halting t (event :: history) :=
  ⟨fun hmem => h.halted ((List.mem_cons.mp hmem).resolve_left (Ne.symm hstop)), h.last.cons hrun⟩

theorem Halting.call (h : Halting t history) (hsteerable : t.Steerable) (call : ReplayCall) :
    Halting (call.run t) (.called call :: history) := by
  obtain ⟨turned, -, hadds⟩ := TtdSession.adds_call call hsteerable
  have hstop : (call.run t).gTtdStopRequested = (t.gTtdStopRequested || call.stops) :=
    congrArg (fun x => x.2.2) hadds.helm
  refine ⟨fun hmem => ?_, h.last.cons rfl⟩
  rw [hstop]
  obtain heq | hmem := List.mem_cons.mp hmem
  · obtain rfl := ReplayEvent.called.inj heq
    simp [ReplayCall.stops]
  · rw [h.halted hmem, Bool.true_or]

theorem Halting.makeCalls (calls : List ReplayCall) (h : Halting t history) (hsteerable : t.Steerable) :
    Halting (t.makeCalls calls) (noteCalls calls history) := by
  induction calls generalizing t history with
  | nil => exact h
  | cons call calls ih =>
    obtain ⟨turned, -, hadds⟩ := TtdSession.adds_call call hsteerable
    have hnote : noteCalls (call :: calls) history = noteCalls calls (.called call :: history) := by
      simp [noteCalls]
    rw [hnote]
    exact ih (h.call hsteerable call) (hsteerable.of_helm (congrArg Prod.fst hadds.helm))

theorem Halting.work {work : TtdWork} (h : Halting t (.delivered work :: history))
    (hsteerable : t.Steerable) (calls : List ReplayCall) :
    Halting (t.work work calls) (noteCalls calls (.delivered work :: history)) := by
  obtain ⟨tebs, event, threadId, hdeliver⟩ := TtdSession.deliver_eq work t
  unfold TtdSession.work TtdSession.beginWork
  dsimp only
  refine Halting.steer (Halting.makeCalls calls ?_ ?_) id
  · rw [hdeliver]
    exact h.steer id
  · rw [hdeliver]
    exact ⟨hsteerable.kind, hsteerable.cursor, hsteerable.rests⟩

end Halting

/-- The loop has not slept so far, and a stop of the session has ended the runs. -/
structure Unslept (l : ReplayLoop) : Prop where
  sound : Sound l.session l.history
  awake : Awake l.session l.history
  sleepless : .slept ∉ l.history
  halting : Halting l.session l.history

theorem unslept_step {rules : ReplayRules} : Runs.Preserves (Step rules) Unslept := by
  intro l l' hstep h
  have hsound := sound_step hstep h.sound
  have hsteerable := h.sound.steerable
  cases hstep with
  | call early goesOn allowed =>
    exact ⟨hsound, h.awake.call hsteerable _, by simp [h.sleepless], h.halting.call hsteerable _⟩
  | enter early => exact ⟨hsound, ⟨h.awake.clean, h.awake.asked, h.awake.went⟩, h.sleepless, h.halting.steer id⟩
  | @deliver work rest calls l looping queued allowed called =>
    refine ⟨hsound, h.awake.work hsteerable work calls rest _, ?_, ?_⟩
    · simp [noteCalls, h.sleepless]
    · have hdelivered : Halting l.session (.delivered work :: l.history) :=
        h.halting.cons rfl (by simp)
      have hdequeued : Halting { l.session with queue := rest } (.delivered work :: l.history) :=
        hdelivered.steer id
      exact hdequeued.work ⟨hsteerable.kind, hsteerable.cursor, hsteerable.rests⟩ calls
  | @run answers stop l looping drained free go allowed =>
    obtain ⟨hhelm, -⟩ := TtdSession.runTtdUnder_steady
      (t := { l.session with gNextExecutionStatus := .noChange, gTtdNextRunReverse := false })
      hsteerable.kind answers l.session.gTtdNextRunReverse stop
    simp only [TtdSession.helm, Session.helm, Prod.mk.injEq] at hhelm
    obtain ⟨⟨-, -, -, hstatus, hsteps, -⟩, -, -⟩ := hhelm
    have hnever : .called .stopDebug ∉ l.history := by
      intro hmem
      rw [h.halting.halted hmem] at free
      cases free
    refine ⟨hsound, ⟨?_, .inl hstatus, fun hsome => ?_⟩, by simp [h.sleepless], fun hmem => ?_, ?_⟩
    · exact (congrArg (fun steps => steps.gStepStatuses) hsteps).trans h.awake.clean
    · rw [round, Rounds.round_cons_of_mark rfl] at hsome
      exact absurd rfl hsome
    · exact absurd ((List.mem_cons.mp hmem).resolve_left (by simp)) hnever
    · exact h.halting.last.cons_mark hnever
  | sleep looping drained free idle called =>
    have hgo := h.awake.goes h.sound drained free
    rw [idle] at hgo
    cases hgo
  | @pause steps l =>
    obtain ⟨callback, interrupt, heq⟩ := TtdSession.pauseSteps_eq steps l.session
    have hhelm : (l.session.pauseSteps steps).toSession.helm = l.session.toSession.helm := by rw [heq]; rfl
    have hstop : (l.session.pauseSteps steps).gTtdStopRequested = l.session.gTtdStopRequested := by
      rw [heq]
    exact ⟨hsound, h.awake.of_helm hhelm, h.sleepless, h.halting.steer fun htrue => hstop.trans htrue⟩
  | stop looping =>
    exact ⟨hsound, h.awake.call hsteerable .stopDebug, by simp [h.sleepless],
      h.halting.call hsteerable .stopDebug⟩
  | leave looping drained stopped => exact ⟨hsound, h.awake, h.sleepless, h.halting⟩

theorem unslept_initReplay {trace : Trace} {thread : ThreadInfo} {serial : ULONG_PTR} {s : Session}
    {t : TtdSession} (h : TtdSession.initReplay trace thread serial s = some t)
    (hclean : s.steps.gStepStatuses = ∅) : Unslept ⟨t, .opened, []⟩ := by
  obtain ⟨hhelm, -⟩ := bootstrap_initReplay h
  simp only [TtdSession.helm, Session.helm, TtdSession.openReplay, Prod.mk.injEq] at hhelm
  obtain ⟨⟨-, -, -, hstatus, hsteps, -⟩, -, -⟩ := hhelm
  refine ⟨sound_initReplay h, ⟨?_, .inl hstatus, fun hsome => absurd rfl hsome⟩, by simp, by simp,
    Rounds.each_nil⟩
  rw [hsteps]
  exact hclean

end ReplayLoop

namespace ReplayLoop

/-- The front of the queue, handed to a client that makes these calls. -/
def deliverNext (calls : List ReplayCall) (l : ReplayLoop) : ReplayLoop :=
  match l.session.queue with
  | [] => l
  | work :: rest =>
    { l with session := { l.session with queue := rest }.work work calls
             history := noteCalls calls (.delivered work :: l.history) }

theorem run_deliverNext {rules : ReplayRules} {calls : List ReplayCall} {l l' : ReplayLoop}
    (h : Run rules l l') (hlooping : l'.phase = .looping) (hwork : ∀ work t, rules.work work t)
    (hcalls : ∀ t, rules.calls calls t) : Run rules l (l'.deliverNext calls) := by
  unfold deliverNext
  split
  · exact h
  · rename_i work rest hqueue
    exact h.tail (.deliver hlooping hqueue (hwork _ _) (hcalls _))

end ReplayLoop

def loadingAnswers : RunAnswers where
  replay _ _ := ⟨.process, 5, ⟨⟨7, 0⟩, mainThread⟩, []⟩
  singleStep _ _ := ⟨.stepCount, 1, ⟨⟨6, 0⟩, mainThread⟩, []⟩
  park := ⟨.stepCount, 1, ⟨⟨6, 1⟩, mainThread⟩, []⟩
  setPositionOnThread _ position := ⟨position, mainThread⟩

/-- The bootstrap is told, and the loop is about to run the trace. -/
def startedLoop : ReplayLoop :=
  (ReplayLoop.deliverNext [] (ReplayLoop.deliverNext []
    ⟨{ loadingReplay with gIsDebugging := true, gPaused := true }, .looping, []⟩))

/-- The trace has been run to its end, which is told, and the client asks to go back. -/
def returningLoop : ReplayLoop :=
  (ReplayLoop.deliverNext [.replayRunBack] (ReplayLoop.deliverNext []
    { startedLoop with
      session := ({ startedLoop.session with
                    gNextExecutionStatus := .noChange
                    gTtdNextRunReverse := false }.runTtdUnder loadingAnswers
                  startedLoop.session.gTtdNextRunReverse none).1
      history := .ran startedLoop.session.gTtdNextRunReverse :: startedLoop.history }))

theorem run_returningLoop {rules : ReplayRules} (hwork : ∀ work t, rules.work work t)
    (hrun : rules.move (.run loadingAnswers)
      { startedLoop.session with gNextExecutionStatus := .noChange }) :
    ReplayLoop.Run rules ⟨loadingReplay, .opened, []⟩ returningLoop := by
  have hentered : ReplayLoop.Run rules ⟨loadingReplay, .opened, []⟩
      ⟨{ loadingReplay with gIsDebugging := true, gPaused := true }, .looping, []⟩ :=
    .single (.enter rfl)
  have hfirst := @ReplayLoop.run_deliverNext rules [] _ _ hentered rfl hwork fun _ => trivial
  have hstarted : ReplayLoop.Run rules ⟨loadingReplay, .opened, []⟩ startedLoop :=
    ReplayLoop.run_deliverNext hfirst (by decide) hwork fun _ => trivial
  have hran := hstarted.tail (@ReplayLoop.Step.run rules loadingAnswers none startedLoop (by decide)
    (by decide) (by decide) (by decide) hrun)
  have htold := @ReplayLoop.run_deliverNext rules [] _ _ hran (by decide) hwork fun _ => trivial
  exact ReplayLoop.run_deliverNext htold (by decide) hwork fun _ => ⟨trivial, trivial⟩

theorem run_again : ReplayLoop.Run anyReplay ⟨loadingReplay, .opened, []⟩
    { returningLoop with
      session := ({ returningLoop.session with
                    gNextExecutionStatus := .noChange
                    gTtdNextRunReverse := false }.runTtdUnder loadingAnswers
                  returningLoop.session.gTtdNextRunReverse none).1
      history := .ran returningLoop.session.gTtdNextRunReverse :: returningLoop.history } :=
  (run_returningLoop (fun _ _ => trivial) trivial).tail
    (@ReplayLoop.Step.run anyReplay loadingAnswers none returningLoop (by decide) (by decide) (by decide)
      (by decide) trivial)

variable {rules : ReplayRules} {trace : Trace} {thread : ThreadInfo} {serial : ULONG_PTR} {s : Session}
  {t₀ : TtdSession} {l : ReplayLoop}

/-- Whenever the trace is run, the client has been told, since the run before, one stop, and
at most one more for each step that it made. If it did not move the cursor itself, it was told
of the changed threads and modules first, and of the stop last. -/
theorem rounds_reported (opened : TtdSession.initReplay trace thread serial s = some t₀)
    (run : ReplayLoop.Run rules ⟨t₀, .opened, []⟩ l) {newer older : List ReplayEvent} {reverse : Bool}
    (ran : l.history = newer ++ .ran reverse :: older) :
    ReplayLoop.Reported (ReplayLoop.round older) := by
  have hsound := ReplayLoop.sound_step.run run (ReplayLoop.sound_initReplay opened)
  exact (hsound.rounds newer (.ran reverse) older ran rfl).1

/-- Before it runs back, the client is told of the module that the run forward brought, and then
of the end of the trace. -/
theorem rounds_reported_returning : ReplayLoop.Reported (ReplayLoop.round returningLoop.history) :=
  @rounds_reported anyReplay loadingTrace mainThread 1 {} loadingReplay _ (Option.some_get _).symm run_again []
    returningLoop.history returningLoop.session.gTtdNextRunReverse rfl

/-- The trace is run back only when the client has called `ReplayRunBack` since the run before,
and it is when no step over a call has followed. -/
theorem runs_directed (opened : TtdSession.initReplay trace thread serial s = some t₀)
    (run : ReplayLoop.Run rules ⟨t₀, .opened, []⟩ l) {newer older : List ReplayEvent} {reverse : Bool}
    (ran : l.history = newer ++ .ran reverse :: older) :
    ReplayLoop.Directed (ReplayLoop.round older) reverse := by
  have hsound := ReplayLoop.sound_step.run run (ReplayLoop.sound_initReplay opened)
  exact (hsound.rounds newer (.ran reverse) older ran rfl).2 reverse rfl

theorem runs_directed_returning : ReplayLoop.Directed (ReplayLoop.round returningLoop.history) true :=
  @runs_directed anyReplay loadingTrace mainThread 1 {} loadingReplay _ (Option.some_get _).symm run_again []
    returningLoop.history true rfl

/-- In a process without pending steps the loop never waits: there is work to hand over, a
run to make, or the session is to end. Once it is to end, the trace is not run any more. -/
theorem replay_never_waits (opened : TtdSession.initReplay trace thread serial s = some t₀)
    (clean : s.steps.gStepStatuses = ∅) (run : ReplayLoop.Run rules ⟨t₀, .opened, []⟩ l) :
    .slept ∉ l.history ∧
      (l.session.queue ≠ [] ∨ l.session.gTtdStopRequested = true ∨
        l.session.gNextExecutionStatus.isGo = true) ∧
      ∀ newer older, l.history = newer ++ .called .stopDebug :: older → ∀ reverse, .ran reverse ∉ newer := by
  have h := ReplayLoop.unslept_step.run run (ReplayLoop.unslept_initReplay opened clean)
  refine ⟨h.sleepless, ?_, fun newer older heq reverse hran => ?_⟩
  · by_cases hdrained : l.session.queue = []
    · cases hfree : l.session.gTtdStopRequested with
      | true => exact .inr (.inl rfl)
      | false => exact .inr (.inr (h.awake.goes h.sound hdrained hfree))
    · exact .inl hdrained
  · obtain ⟨later, between, rfl⟩ := List.append_of_mem hran
    rw [List.append_assoc, List.cons_append] at heq
    exact h.halting.last later _ _ heq rfl (by simp)

theorem replay_never_waits_returning : .slept ∉ returningLoop.history ∧
    (returningLoop.session.queue ≠ [] ∨ returningLoop.session.gTtdStopRequested = true ∨
      returningLoop.session.gNextExecutionStatus.isGo = true) ∧
    ∀ newer older, returningLoop.history = newer ++ .called .stopDebug :: older →
      ∀ reverse, .ran reverse ∉ newer :=
  @replay_never_waits anyReplay loadingTrace mainThread 1 {} loadingReplay returningLoop (Option.some_get _).symm rfl
    (run_returningLoop (fun _ _ => trivial) trivial)

end TitanEngine

import TitanEngine.Replay.LoopRuns

/-! What the client of a replay that does not move the cursor itself sees in the loop: the
threads and modules of the position that it stops at. -/
namespace TitanEngine
open Relation

/-- In the course of the trace no base gets another image and no thread the id of another one. -/
structure Trace.Unrecycled (trace : Trace) : Prop where
  images : ∀ p q, trace.SameImages p q
  threads : ∀ p q, ∀ info ∈ (trace.snapshot p).threads, ∀ info' ∈ (trace.snapshot q).threads,
    info.id = info'.id → info.uniqueId = info'.uniqueId

/-- The cursor is moved by runs of the loop only, and there are serial numbers left. -/
def watchingRules : ReplayRules where
  move move t := (∃ answers, move = .run answers) ∧ t.gNextSyntheticHandle.toNat +
    (t.gTtdEngine.snapshot (move.apply t).cursor.position).threads.length ≤ 2 ^ 43
  work _ _ := True
  opens := TtdSession.HasSerial

/-- What the views of the timeline ask of the moves and of the delivery. -/
def followedRules : ReplayRules where
  move move t := move.KeepsImages t ∧ move.KeepsThreads t
  work := TtdWork.InTime
  opens := TtdSession.HasSerial

theorem TtdStep.mono {allowed allowed' : TtdMove → TtdSession → Prop}
    {delivers delivers' : TtdWork → TtdSession → Prop} {opens opens' : TtdSession → Prop}
    {t t' : TtdSession} (h : TtdStep allowed delivers opens t t')
    (hallowed : ∀ move t, allowed move t → allowed' move t)
    (hdelivers : ∀ work t, delivers work t → delivers' work t) (hopens : ∀ t, opens t → opens' t) :
    TtdStep allowed' delivers' opens' t t' := by
  cases h with
  | move allow => exact .move (hallowed _ _ allow)
  | deliver queued allow => exact .deliver queued (hdelivers _ _ allow)
  | openProcess allow => exact .openProcess (hopens _ allow)
  | openThread allow => exact .openThread (hopens _ allow)
  | closeHandle => exact .closeHandle
  | breakpoints => exact .breakpoints
  | pause => exact .pause
  | runBack => exact .runBack
  | loop => exact .loop

namespace TtdSession

/-- The adapter and the client have the threads and modules of the cursor, in a trace. -/
structure Tracks (trace : Trace) (t : TtdSession) : Prop where
  engine : t.gTtdEngine = trace
  modules : t.ModulesTold
  threads : t.ThreadsKept

variable {trace : Trace} {t t' : TtdSession}

theorem engine_step (hstep : TtdStep followedRules.move followedRules.work followedRules.opens t t') :
    t'.gTtdEngine = t.gTtdEngine := by
  have hside {u : TtdSession} (h : u.moduleSide = t.moduleSide) : u.gTtdEngine = t.gTtdEngine :=
    congrArg (fun side => side.2.1) h
  cases hstep with
  | move allow => exact (moved_apply allow.1.1).engine
  | @deliver _ work rest _ _ =>
    obtain ⟨tebs, event, threadId, hdeliver⟩ := deliver_eq work { t with queue := rest }
    rw [hdeliver]
  | openProcess _ => exact hside (moduleSide_titanOpenProcess ..)
  | openThread _ => exact hside (moduleSide_titanOpenThread ..)
  | closeHandle => exact hside (moduleSide_titanCloseHandle ..)
  | breakpoints => rfl
  | pause => exact (Stays.of_pauseSteps _ t).engine
  | runBack =>
    unfold replayRunBack
    split
    · rfl
    · split <;> rfl
  | loop => rfl

theorem tracks_step : Runs.Preserves (SteeredStep followedRules) (Tracks trace) := by
  intro t t' hstep h
  cases hstep with
  | step step =>
    have himages : TtdStep TtdMove.KeepsImages TtdWork.InTime HasSerial t t' :=
      step.mono (fun _ _ allow => allow.1) (fun _ _ => id) fun _ => id
    have hthreads : TtdStep TtdMove.KeepsThreads TtdWork.InTime HasSerial t t' :=
      step.mono (fun _ _ allow => allow.2) (fun _ _ => id) fun _ => id
    exact ⟨(engine_step step).trans h.engine, modulesTold_step himages h.modules,
      threadsKept_step hthreads h.threads⟩
  | steer steer =>
    obtain ⟨status, continueStatus, attach, error, stop⟩ := steer
    exact ⟨h.engine, h.modules.congr rfl, h.threads.carried (.of_timeline rfl) rfl⟩

/-- What a move queues tells of no new process. -/
theorem Moved.inTime (h : t.Moved t') (hdrained : t.queue = []) : ∀ work ∈ t'.queue, work.InTime t' := by
  have hplain : ∀ work : TtdWork, ¬ work.Announces → work.InTime t' := by
    intro work hplain
    cases work with
    | createProcess => exact absurd trivial hplain
    | _ => trivial
  have htimeline : ∀ work : TtdWork, work.OfTimeline → work.InTime t' := by
    intro work hwork
    cases work with
    | createThread | exitThread | loadModule | unloadModule => trivial
    | _ => exact absurd hwork id
  intro work hmem
  cases h with
  | rests carried position =>
    obtain ⟨works, hworks, hqueue⟩ := carried.queued
    rw [hqueue, hdrained, List.nil_append] at hmem
    exact hplain work (hworks work hmem)
  | @arrives u carried refreshed =>
    obtain ⟨works, hworks, hqueue⟩ := carried.queued
    obtain ⟨told, htold, hqueue'⟩ := (refreshed_refreshTtdTimeline u).queued
    obtain ⟨last, hlast, hqueue''⟩ := refreshed.queued
    rw [hqueue'', hqueue', hqueue, hdrained, List.nil_append, List.mem_append, List.mem_append] at hmem
    rcases hmem with (hmem | hmem) | hmem
    · exact hplain work (hworks work hmem)
    · exact htimeline work (htold work hmem)
    · exact hplain work (hlast work hmem)

end TtdSession

theorem watchingRules.followed_call {call : ReplayCall} {t : TtdSession} (h : watchingRules.call call t) :
    followedRules.call call t ∧ call.isMove = false := by
  cases call with
  | replaySetPosition | replayStepBack | step =>
    obtain ⟨⟨answers, heq⟩, -⟩ := h
    cases heq
  | titanOpenProcess | titanOpenThread => exact ⟨h, rfl⟩
  | _ => exact ⟨trivial, rfl⟩

theorem watchingRules.followed_calls {calls : List ReplayCall} {t : TtdSession}
    (h : watchingRules.calls calls t) : followedRules.calls calls t ∧
      ((t.makeCalls calls).queue, (t.makeCalls calls).gTtdCurrentThreadId) =
        (t.queue, t.gTtdCurrentThreadId) := by
  induction calls generalizing t with
  | nil => exact ⟨trivial, rfl⟩
  | cons call calls ih =>
    obtain ⟨hcall, hstill⟩ := followed_call h.1
    obtain ⟨hcalls, hsame⟩ := ih h.2
    exact ⟨⟨hcall, hcalls⟩, hsame.trans (TtdSession.still_call hstill t)⟩

namespace ReplayLoop
variable {trace : Trace} {l l' : ReplayLoop}

/-- Nothing in the queue is delivered late. -/
def Timely (l : ReplayLoop) : Prop := ∀ work ∈ l.session.queue, work.InTime l.session

theorem timely_of_still {t t' : TtdSession}
    (h : (t'.queue, t'.gTtdCurrentThreadId) = (t.queue, t.gTtdCurrentThreadId))
    (htimely : ∀ work ∈ t.queue, work.InTime t) : ∀ work ∈ t'.queue, work.InTime t' := by
  rw [Prod.mk.injEq] at h
  intro work hmem
  rw [h.1] at hmem
  have hwork := htimely work hmem
  cases work with
  | createProcess => exact h.2.trans hwork
  | _ => trivial

/-- The loop that runs with the queue drained asks of the trace alone what the views need. -/
theorem followed_run {answers : RunAnswers} {t : TtdSession} (hunrecycled : trace.Unrecycled)
    (htracks : t.Tracks trace) (hdrained : t.queue = [])
    (hallowed : watchingRules.move (.run answers) t) : followedRules.move (.run answers) t := by
  have hlands : TtdMove.Lands (.run answers) t := trivial
  refine ⟨⟨hlands, ?_⟩, ⟨hlands, ?_, ?_, hallowed.2⟩⟩
  · rw [htracks.engine]
    exact hunrecycled.images _ _
  · rw [hdrained]
    exact fun _ hmem => absurd hmem List.not_mem_nil
  · unfold TtdSession.current
    rw [htracks.engine]
    exact hunrecycled.threads _ _

theorem followed_step (hunrecycled : trace.Unrecycled) (hstep : Step watchingRules l l')
    (htracks : l.session.Tracks trace) (htimely : l.Timely) : Step followedRules l l' := by
  cases hstep with
  | call early goesOn allowed => exact .call early goesOn (watchingRules.followed_call allowed).1
  | enter early => exact .enter early
  | deliver looping queued allowed called =>
    have hmem := htimely _ (queued ▸ List.mem_cons_self)
    exact .deliver looping queued hmem (watchingRules.followed_calls called).1
  | run looping drained free go allowed =>
    refine .run looping drained free go (followed_run hunrecycled ?_ drained allowed)
    exact ⟨htracks.engine, htracks.modules.congr rfl, htracks.threads.carried (.of_timeline rfl) rfl⟩
  | sleep looping drained free idle called =>
    exact .sleep looping drained free idle (watchingRules.followed_calls called).1
  | pause => exact .pause
  | stop looping => exact .stop looping
  | leave looping drained stopped => exact .leave looping drained stopped

theorem timely_step (hstep : Step watchingRules l l') (hsteerable : l.session.Steerable)
    (hgoesOn : l'.session.gTtdStopRequested = false) (h : l.Timely) : l'.Timely := by
  cases hstep with
  | call early goesOn allowed =>
    exact timely_of_still (TtdSession.still_call (watchingRules.followed_call allowed).2 _) h
  | enter early => exact timely_of_still rfl h
  | @deliver work rest calls l looping queued allowed called =>
    obtain ⟨tebs, event, threadId, hdeliver⟩ := TtdSession.deliver_eq work { l.session with queue := rest }
    have hstill := (watchingRules.followed_calls called).2
    have hbegun : (({ l.session with queue := rest }.beginWork work).queue,
        ({ l.session with queue := rest }.beginWork work).gTtdCurrentThreadId) =
        (({ l.session with queue := rest } : TtdSession).queue, l.session.gTtdCurrentThreadId) := by
      unfold TtdSession.beginWork
      rw [hdeliver]
    have hrest : ∀ other ∈ rest, other.InTime ({ l.session with queue := rest } : TtdSession) := by
      intro other hmem
      exact h other (queued ▸ List.mem_cons_of_mem _ hmem)
    exact timely_of_still (t := { l.session with queue := rest }) (hstill.trans hbegun) hrest
  | @run answers stop l looping drained free go allowed =>
    obtain rfl := stop_eq_none
      (t := { l.session with gNextExecutionStatus := .noChange, gTtdNextRunReverse := false })
      hsteerable.kind hgoesOn
    have hmoved : TtdSession.Moved { l.session with gNextExecutionStatus := .noChange }
        (TtdMove.apply (.run answers) { l.session with gNextExecutionStatus := .noChange }) :=
      TtdSession.moved_apply trivial
    have htimely := hmoved.inTime drained
    unfold Timely
    rw [TtdSession.runTtdUnder_none]
    exact htimely
  | sleep looping drained free idle called =>
    exact timely_of_still (watchingRules.followed_calls called).2 h
  | @pause steps l =>
    obtain ⟨callback, interrupt, heq⟩ := TtdSession.pauseSteps_eq steps l.session
    refine timely_of_still ?_ h
    rw [heq]
  | stop looping => exact timely_of_still rfl h
  | leave looping drained stopped => exact h

theorem tracks_run (hunrecycled : trace.Unrecycled) (hrun : Run watchingRules l l')
    (hsound : Sound l.session l.history) (htracks : l.session.Tracks trace) (htimely : l.Timely)
    (hgoesOn : l'.session.gTtdStopRequested = false) : l'.session.Tracks trace ∧ l'.Timely := by
  induction hrun with
  | refl => exact ⟨htracks, htimely⟩
  | @tail before after hbefore hstep ih =>
    have hsteady : Sound before.session before.history := sound_step.run hbefore hsound
    obtain ⟨hbeforeTracks, hbeforeTimely⟩ := ih (goesOn_step hstep hsteady.steerable hgoesOn)
    have hfollowed := followed_step hunrecycled hstep hbeforeTracks hbeforeTimely
    have hsteered := steered_step hfollowed hsteady.steerable hgoesOn
    exact ⟨TtdSession.tracks_step.run hsteered hbeforeTracks,
      timely_step hstep hsteady.steerable hgoesOn hbeforeTimely⟩

end ReplayLoop

section Views
variable {trace : Trace} {thread : ThreadInfo} {serial : ULONG_PTR} {s : Session} {t₀ : TtdSession}
  {l : ReplayLoop}

/-- The bootstrap creates the process on the initial thread. -/
theorem timely_initReplay (h : TtdSession.initReplay trace thread serial s = some t₀) :
    t₀.gTtdEngine = trace ∧ ∀ work ∈ t₀.queue, work.InTime t₀ := by
  obtain ⟨-, hengine, hcurrent, process, initialThread, image, teb, works, ip, hqueue, hworks⟩ :=
    ReplayLoop.bootstrap_initReplay h
  refine ⟨hengine, fun work hmem => ?_⟩
  rw [hqueue, List.mem_append, List.mem_cons, List.mem_singleton] at hmem
  obtain (rfl | hwork) | rfl := hmem
  · exact hcurrent
  · have htimeline := hworks work hwork
    cases work with
    | createThread | exitThread | loadModule | unloadModule => trivial
    | _ => exact absurd htimeline id
  · trivial

/-- A client that leaves the cursor to the loop has the threads and modules of the position
that the loop has stopped at, on a trace that gives no base and no thread id out again. -/
theorem views_followed (opened : TtdSession.initReplay trace thread serial s = some t₀)
    (initial : thread ∈ (trace.snapshot trace.firstPosition).threads) (named : trace.ThreadsNamed)
    (unrecycled : trace.Unrecycled)
    (room : serial.toNat + (trace.snapshot trace.firstPosition).threads.length + 4 ≤ 2 ^ 43)
    (run : ReplayLoop.Run watchingRules ⟨t₀, .opened, []⟩ l)
    (goesOn : l.session.gTtdStopRequested = false) :
    l.session.ModulesFollowed ∧ l.session.ThreadsFollowed := by
  obtain ⟨hengine, htimely⟩ := timely_initReplay opened
  have htracks : t₀.Tracks trace := ⟨hengine, TtdSession.modulesTold_initReplay opened,
    TtdSession.threadsKept_initReplay opened initial named room⟩
  obtain ⟨⟨-, hmodules, hthreads⟩, -⟩ := ReplayLoop.tracks_run unrecycled run
    (ReplayLoop.sound_initReplay opened) htracks htimely goesOn
  exact ⟨hmodules.followed, hthreads.told.followed hthreads.settled⟩

theorem snapshot_loadingTrace (p : TtdPosition) :
    loadingTrace.snapshot p = loadingTrace.snapshot ⟨0, 0⟩ ∨
      loadingTrace.snapshot p = loadingTrace.snapshot ⟨5, 0⟩ := by
  have hbefore : (⟨0, 0⟩ : TtdPosition) < ⟨5, 0⟩ := by decide
  have hafter : ¬ (⟨5, 0⟩ : TtdPosition) < ⟨5, 0⟩ := by decide
  unfold loadingTrace imagesTrace
  dsimp only
  rw [if_pos hbefore, if_neg hafter]
  split
  · exact .inl rfl
  · exact .inr rfl

theorem unrecycled_loadingTrace : loadingTrace.Unrecycled := by
  constructor
  · intro p q
    unfold Trace.SameImages
    rcases snapshot_loadingTrace p with hp | hp <;> rcases snapshot_loadingTrace q with hq | hq <;>
      rw [hp, hq] <;> decide
  · intro p q
    rcases snapshot_loadingTrace p with hp | hp <;> rcases snapshot_loadingTrace q with hq | hq <;>
      rw [hp, hq] <;> decide

/-- At the end of the trace the client knows the module that has been loaded on the way. -/
theorem views_followed_returning :
    returningLoop.session.ModulesFollowed ∧ returningLoop.session.ThreadsFollowed := by
  have hnamed : loadingTrace.ThreadsNamed := by
    intro p q
    rcases snapshot_loadingTrace p with hp | hp <;> rcases snapshot_loadingTrace q with hq | hq <;>
      rw [hp, hq] <;> decide
  have hrun : watchingRules.move (.run loadingAnswers)
      { startedLoop.session with gNextExecutionStatus := .noChange } := ⟨⟨_, rfl⟩, by decide⟩
  exact @views_followed loadingTrace mainThread 1 {} loadingReplay returningLoop (Option.some_get _).symm
    (by decide) hnamed unrecycled_loadingTrace (by decide)
    (run_returningLoop (fun _ _ => trivial) hrun) (by decide)

end Views

end TitanEngine

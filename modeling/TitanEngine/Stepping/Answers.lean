import TitanEngine.Resume.Hits
import TitanEngine.Stepping.Ledger

/-! Over every run, a step that the client has asked for is answered at most once, and just once
where its thread lasts and can be made to trap. -/
namespace TitanEngine
open Relation

namespace Session
variable {k : Client} {rules : Rules} {env : Env} {thread : ULONG} {callback : Callback}
variable {s s' : Session}

/-- What no callback of the client and no report changes. -/
def scene (s : Session) : TitanSessionKind × Bool × Bool × DebugIdMap × List (Env × Work) :=
  (s.gSessionKind, s.gPaused, s.gIsDebugging, s.gDebugIdMap, s.gCallbackQueue)

theorem scene_of_story (h : s'.story = s.story) : s'.scene = s.scene :=
  story_field_eq scene (fun _ => rfl) h

theorem scene_call (hk : k.Follows rules) (inv : Invocation) (s : Session) :
    (k.call inv s).scene = s.scene := by
  have hroster : (k.call inv s).roster = { s with log := .invoke inv :: s.log }.roster :=
    roster_client hk inv _
  exact roster_field_eq scene (fun _ => rfl) hroster

theorem scene_reports (hk : k.Follows rules) (h : Reports k s s') : s'.scene = s.scene := by
  cases h with
  | event entered told =>
    rw [scene_of_story told, scene_call hk, scene_of_story entered]
  | callback report entered told called =>
    rw [scene_of_story called, scene_call hk, scene_of_story told, scene_call hk,
      scene_of_story entered]
  | attached expected entered given called =>
    have hentered := scene_of_story entered
    rw [scene_of_story called, scene_call hk]
    exact (scene_call hk _ _).trans hentered
  | stopped expected entered given called =>
    have hentered := scene_of_story entered
    rw [scene_of_story called, scene_call hk, scene_call hk]
    exact hentered

theorem scene_runActions (hk : k.Follows rules) (env : Env) (threadIndex : ULONG)
    (actions : List StepAction) (s : Session) :
    (s.runActions k env threadIndex actions).scene = s.scene :=
  roster_field_eq scene (fun _ => rfl) (roster_runActions hk env threadIndex actions s)

theorem scene_scheduleInternalStep (env : Env) (action : StepAction) (s : Session) :
    (s.scheduleInternalStep env action).scene = s.scene := by
  obtain ⟨steps, suspends, resumes, eflags, e, heq⟩ := scheduleInternalStep_eq env action s
  rw [heq]
  rfl

theorem trappable_of_scene (h : s'.scene = s.scene) (hs : s.Trappable env thread) :
    s'.Trappable env thread := by
  simp only [scene, Prod.mk.injEq] at h
  obtain ⟨hkind, -, hdebugging, hidMap, -⟩ := h
  constructor
  · rw [hkind]
    exact hs.live
  · rw [hdebugging]
    exact hs.debugging
  · rw [hidMap]
    exact hs.named

/-- No work touches the queue or ends the stop. -/
theorem work_paused (hk : k.Follows rules) (env : Env) (work : Work) (s : Session) :
    (work.run k env s).1.gPaused = s.gPaused := by
  have hshape := WorkShape.run k env work s
  generalize (work.run k env s).1 = s' at hshape
  have hpaused : ∀ {s s' : Session}, s'.scene = s.scene → s'.gPaused = s.gPaused :=
    fun h => congrArg (fun scene => scene.2.1) h
  cases hshape with
  | silent quiet same => exact story_paused same
  | step step before => exact (hpaused (scene_call hk _ _)).trans (story_paused before)
  | completed quiet pending forgotten ran =>
    have hforgotten := story_paused forgotten
    exact (story_paused ran).trans ((hpaused (scene_runActions hk ..)).trans hforgotten)
  | event quiet entered kept reported left =>
    have hreported := (hpaused (scene_reports hk reported)).trans (story_paused entered)
    cases left with
    | same same => exact (story_paused same).trans hreported
    | armed exception before armed plain =>
      exact (story_paused armed).trans ((hpaused (scene_scheduleInternalStep ..)).trans
        ((story_paused before).trans hreported))
    | exited exit =>
      refine Eq.trans ?_ hreported
      unfold forgetThread
      repeat' split
      all_goals rfl
    | unnamed same => exact (story_paused same).trans hreported

/-- A piece of work answers the step that it is queued for, and loses one at most where its
thread does not last. -/
theorem lostSteps_work (hk : k.Follows rules) (thread : ULONG) (callback : Callback) (env : Env)
    (work : Work) (s : Session) :
    s.lostSteps thread callback - (if work.steps thread callback then 1 else 0) ≤
        (work.run k env s).1.lostSteps thread callback ∧
      (s.gPaused = true → (lastingThread thread).work env work s →
        (work.run k env s).1.lostSteps thread callback =
          s.lostSteps thread callback - if work.steps thread callback then 1 else 0) := by
  have hshape := WorkShape.run k env work s
  generalize (work.run k env s).1 = s' at hshape
  cases hshape with
  | silent quiet same =>
    rw [lostSteps_of_story same, quiet]
    exact ⟨by simp, fun _ _ => by simp⟩
  | step step before =>
    rename_i thread' callback' id s₀
    have hcall : (s₀.callStep k thread' callback').lostSteps thread callback =
        s.lostSteps thread callback - if work.steps thread callback then 1 else 0 := by
      unfold callStep
      rw [lostSteps_call hk, lostSteps_of_story before, step]
      simp [Invocation.answers, Work.steps]
    exact ⟨hcall.ge, fun _ _ => hcall⟩
  | completed quiet pending forgotten ran =>
    have hbalanced : s'.lostSteps thread callback = s.lostSteps thread callback := by
      rw [lostSteps_of_story ran, lostSteps_runActions hk, lostSteps_of_story forgotten,
        lostSteps_forgetInternalStep pending]
      omega
    rw [hbalanced, quiet]
    exact ⟨by simp, fun _ _ => by simp⟩
  | event quiet entered kept reported left =>
    rename_i map s₀ s₁
    have hentered : _ = _ := @lostSteps_of_story thread callback _ _ entered
    have hreported : s₁.lostSteps thread callback = s.lostSteps thread callback :=
      (lostSteps_reports hk reported).trans hentered
    rw [quiet, ← hreported]
    simp only [Bool.false_eq_true, if_false, sub_zero]
    cases left with
    | same same => exact ⟨(lostSteps_of_story same).ge, fun _ _ => lostSteps_of_story same⟩
    | armed exception before armed plain =>
      rename_i info action s₂
      have hschedule := lostSteps_scheduleInternalStep env thread callback plain s₂
      rw [lostSteps_of_story armed, ← lostSteps_of_story before]
      refine ⟨hschedule.1, fun hpaused hlasts => hschedule.2 ?_ fun hcurrent => ?_⟩
      · have hscene : s₁.gPaused = s₀.gPaused :=
          congrArg (fun scene => scene.2.1) (scene_reports hk reported)
        rw [story_paused before, hscene, story_paused entered]
        exact hpaused
      · subst exception
        have htrappable : s.Trappable env thread := hlasts hcurrent
        have hkept : s₀.story = s.story := by
          rw [entered, kept info rfl]
        exact trappable_of_scene ((scene_of_story before).trans
          ((scene_reports hk reported).trans (scene_of_story hkept))) htrappable
    | exited exit =>
      have hforget := lostSteps_forgetThread thread callback
        (env.currentThreadId.getD (BitVec.allOnes 32)) (by assumption) s₁
      refine ⟨hforget.1, fun _ hlasts => hforget.2 ?_⟩
      subst exit
      exact hlasts
    | unnamed same =>
      have hsame : _ = _ := @lostSteps_of_story thread callback _ _ same
      exact ⟨hsame.ge, fun _ _ => hsame⟩

/-- The target runs with an empty queue. -/
def Parked (s : Session) : Prop := s.gPaused = false → s.gCallbackQueue = []

theorem parked_eventStep (h : EventStep rules s s') (hs : s.Parked) : s'.Parked := by
  cases h with
  | call step =>
    obtain @⟨env, call, _, -⟩ := step
    have hscene : (call.run env s).1.scene = s.scene :=
      roster_field_eq scene (fun _ => rfl) (roster_call env call s)
    simp only [scene, Prod.mk.injEq] at hscene
    intro hrunning
    rw [hscene.2.2.2.2]
    exact hs (hscene.2.1.symm.trans hrunning)
  | target allowed => exact hs
  | stop running reported => exact fun hrunning => nomatch hrunning
  | paused paused step =>
    cases step with
    | call step =>
      obtain @⟨env, call, _, -⟩ := step
      have hpaused := roster_paused (roster_call env call s)
      exact fun hrunning => absurd (hrunning.symm.trans (hpaused.trans paused)) (by decide)
    | target allowed => exact hs
    | stop running => exact absurd (running.symm.trans paused) (by decide)
    | @work k env work rest follows paused queued allowed done =>
      have hpaused := work_paused follows env work (s.dequeue rest)
      exact fun hrunning => absurd (hrunning.symm.trans (hpaused.trans paused)) (by decide)
    | @failed k env env' work rest follows paused queued allowed failed =>
      have hpaused := (story_paused (story_applyExecutionStatus env' _)).trans
        (work_paused follows env work (s.dequeue rest))
      exact fun hrunning => absurd (hrunning.symm.trans (hpaused.trans paused)) (by decide)
    | resume paused drained =>
      intro _
      exact (story_queue (story_applyExecutionStatus _ s)).trans drained

/-- A stop puts a step into the queue, and loses none. -/
theorem lostSteps_stop {events : List (Env × Work)} (hqueue : s.gCallbackQueue = [])
    (hreported : ∀ event ∈ events, event.2.isEvent = true) :
    (s.stop env events).lostSteps thread callback = s.lostSteps thread callback := by
  have hquiet : ∀ work : Work, work.isEvent = true → work.steps thread callback = false := by
    intro work hwork
    cases work <;> first | rfl | cases hwork
  have hnone : events.countP (fun entry => entry.2.steps thread callback) = 0 := by
    rw [List.countP_eq_zero]
    intro event hevent
    rw [hquiet _ (hreported event hevent)]
    simp
  have hevents : { { s with gCallbackQueue := events } with gPaused := true }.lostSteps thread callback =
      s.lostSteps thread callback := by
    unfold lostSteps pendingSteps
    dsimp only
    rw [hnone, hqueue]
    rfl
  unfold stop recogniseStop
  split
  · exact hevents
  rename_i hempty
  rw [not_not] at hempty
  change events = [] at hempty
  subst hempty
  split
  · unfold lostSteps pendingSteps
    rw [hqueue]
    rfl
  split
  · exact hevents
  split
  · unfold lostSteps pendingSteps
    rw [hqueue]
    rfl
  split
  · exact hevents
  · rename_i threadIndex _ _ _ callback' hstored
    unfold lostSteps pendingSteps
    dsimp only
    rw [hqueue]
    by_cases hthread : threadIndex = thread
    · subst hthread
      change s.steps.gStepCallbacks[threadIndex]? = some callback' at hstored
      rw [Std.ExtTreeMap.getElem?_erase_self, hstored]
      simp [Work.steps]
      omega
    · rw [MapSums.getElem?_erase_of_ne (Ne.symm hthread)]
      simp [Work.steps, hthread]

theorem lostSteps_dequeue (thread : ULONG) (callback : Callback) {work : Work} {rest : List (Env × Work)}
    (hqueue : s.gCallbackQueue = (env, work) :: rest) :
    (s.dequeue rest).lostSteps thread callback =
      s.lostSteps thread callback + if work.steps thread callback then 1 else 0 := by
  unfold lostSteps pendingSteps dequeue
  dsimp only
  rw [hqueue, List.countP_cons]
  dsimp only
  split <;> push_cast <;> omega

/-- One step of a session loses no step of a thread that lasts, and gives none back. -/
theorem lostSteps_eventStep (thread : ULONG) (callback : Callback) (h : EventStep rules s s') (hs : s.Parked) :
    s.lostSteps thread callback ≤ s'.lostSteps thread callback ∧
      (rules = lastingThread thread →
        s'.lostSteps thread callback = s.lostSteps thread callback) := by
  have hbalanced : ∀ {s' : Session}, s'.lostSteps thread callback = s.lostSteps thread callback →
      s.lostSteps thread callback ≤ s'.lostSteps thread callback ∧ (rules = lastingThread thread →
        s'.lostSteps thread callback = s.lostSteps thread callback) :=
    fun heq => ⟨heq.ge, fun _ => heq⟩
  have hwork : ∀ {k : Client} {env : Env} {work : Work} {rest : List (Env × Work)},
      k.Follows rules → s.gPaused = true → s.gCallbackQueue = (env, work) :: rest →
        rules.work env work s →
        s.lostSteps thread callback ≤ (work.run k env (s.dequeue rest)).1.lostSteps thread callback ∧
          (rules = lastingThread thread →
            (work.run k env (s.dequeue rest)).1.lostSteps thread callback =
              s.lostSteps thread callback) := by
    intro k env work rest hk hpaused hqueue hallowed
    have hdequeue := lostSteps_dequeue thread callback hqueue
    obtain ⟨hle, heq⟩ := lostSteps_work hk thread callback env work (s.dequeue rest)
    refine ⟨by omega, fun hrules => ?_⟩
    subst hrules
    have hlasts : (lastingThread thread).work env work (s.dequeue rest) := by
      cases work with
      | exception info =>
        intro hcurrent
        have htrappable := hallowed hcurrent
        exact ⟨htrappable.live, htrappable.debugging, htrappable.named⟩
      | _ => exact hallowed
    rw [heq hpaused hlasts]
    omega
  cases h with
  | call step => exact hbalanced (lostSteps_callStep step)
  | target allowed => exact hbalanced rfl
  | stop running reported => exact hbalanced (lostSteps_stop (hs running) reported)
  | paused paused step =>
    cases step with
    | call step => exact hbalanced (lostSteps_callStep step)
    | target allowed => exact hbalanced rfl
    | stop running => exact absurd (running.symm.trans paused) (by decide)
    | work follows paused queued allowed done => exact hwork follows paused queued allowed
    | @failed k env env' work rest follows paused queued allowed failed =>
      have happly := @lostSteps_of_story thread callback _ _
        (story_applyExecutionStatus env' (work.run k env (s.dequeue rest)).1)
      rw [happly]
      exact hwork follows paused queued allowed
    | @resume env paused drained =>
      have happly := @lostSteps_of_story thread callback _ _ (story_applyExecutionStatus env s)
      exact hbalanced happly

theorem lostSteps_eventRun (thread : ULONG) (callback : Callback) (h : EventRun rules s s')
    (hs : s.Parked) :
    s'.Parked ∧ s.lostSteps thread callback ≤ s'.lostSteps thread callback ∧
      (rules = lastingThread thread →
        s'.lostSteps thread callback = s.lostSteps thread callback) := by
  induction h with
  | refl => exact ⟨hs, le_rfl, fun _ => rfl⟩
  | tail _ hstep ih =>
    obtain ⟨hparked, hle, heq⟩ := ih
    obtain ⟨hle', heq'⟩ := lostSteps_eventStep thread callback hstep hparked
    exact ⟨parked_eventStep hstep hparked, hle.trans hle', fun h => (heq' h).trans (heq h)⟩

theorem Fresh.lostSteps (h : s.Fresh) : s.lostSteps thread callback = 0 := by
  unfold Session.lostSteps pendingSteps
  rw [h.unseen, h.steps, h.queue]
  rfl

end Session

variable {rules : Rules} {thread : ULONG} {callback : Callback} {s s' : Session}

/-- A step callback is run, or waits to be run, no more often than it has been asked for. -/
theorem step_callbacks_bounded (hs : s.Fresh) (hrun : EventRun rules s s') (thread : ULONG)
    (callback : Callback) :
    (stepCalls thread callback s'.log).length + s'.pendingSteps thread callback ≤
      stepAsks thread callback s'.log := by
  obtain ⟨-, hle, -⟩ := Session.lostSteps_eventRun thread callback hrun fun _ => hs.queue
  rw [hs.lostSteps] at hle
  unfold Session.lostSteps at hle
  omega

/-- Each step that a lasting thread has been asked for has been answered once, or waits. -/
theorem steps_answered_once (hs : s.Fresh) (hrun : EventRun (lastingThread thread) s s') :
    stepAsks thread callback s'.log =
      (stepCalls thread callback s'.log).length + s'.pendingSteps thread callback := by
  obtain ⟨-, -, heq⟩ := Session.lostSteps_eventRun thread callback hrun fun _ => hs.queue
  have hnone := heq rfl
  rw [hs.lostSteps] at hnone
  unfold Session.lostSteps at hnone
  omega

theorem eventRun_afterEvent {k : Client} (hk : k.Follows rules) {env : Env} {work : Work}
    (hevent : work.isEvent = true) (hpaused : s.gPaused = true) (hdrained : s.gCallbackQueue = [])
    (hallowed : rules.work env work ((s.resume env).stop env [(env, work)]))
    (hdone : (work.run k env (((s.resume env).stop env [(env, work)]).dequeue [])).2 = true) :
    EventRun rules s (s.afterEvent k env work) := by
  have hreported : ∀ event ∈ [(env, work)], event.2.isEvent = true := by
    intro event hmem
    rw [List.mem_singleton.mp hmem]
    exact hevent
  have hstop : EventStep rules (s.resume env) ((s.resume env).stop env [(env, work)]) :=
    .stop rfl hreported
  have hqueue : ((s.resume env).stop env [(env, work)]).gCallbackQueue = [(env, work)] :=
    Session.queue_stop _ (List.cons_ne_nil _ _)
  have hwork : SessionStep rules ((s.resume env).stop env [(env, work)]) (s.afterEvent k env work) :=
    .work hk rfl hqueue hallowed hdone
  exact .tail (.tail (.single (.paused hpaused (.resume hpaused hdrained))) hstop) (.paused rfl hwork)

/-- The thread has stepped from a breakpoint, where the step was taken over. -/
def steppedOnceSession : Session :=
  (softwareThreadedSession.afterEvent stepper {} (.exception breakpointHit)).afterEvent idle {}
    (.exception { code := EXCEPTION_SINGLE_STEP })

theorem stepper_follows_lastingThread (thread : ULONG) : stepper.Follows (lastingThread thread) := by
  intro inv s
  cases inv with
  | softBreakpoint callback =>
    have hstep : CallStep (lastingThread thread) s (ApiCall.run {} (.stepInto (some 7)) s).1 :=
      .call trivial
    exact .single hstep
  | _ => exact .refl

theorem fresh_threadedSession : threadedSession.Fresh := ⟨rfl, rfl, rfl⟩

theorem eventRun_steppedOnceSession : EventRun (lastingThread 0) threadedSession steppedOnceSession := by
  have hset : CallStep (lastingThread 0) threadedSession softwareThreadedSession :=
    show CallStep (lastingThread 0) threadedSession
      (ApiCall.run {} (.setBPX 0x401000 0 (some 1)) threadedSession).1 from .call trivial
  have hhit : EventRun (lastingThread 0) softwareThreadedSession
      (softwareThreadedSession.afterEvent stepper {} (.exception breakpointHit)) :=
    eventRun_afterEvent (stepper_follows_lastingThread 0) rfl (by decide)
      (List.isEmpty_iff.mp (by decide))
      (fun _ => ⟨by decide, by decide, 0x10, 0, by decide, by decide, rfl⟩) (by decide)
  have hstepped : EventRun (lastingThread 0)
      (softwareThreadedSession.afterEvent stepper {} (.exception breakpointHit)) steppedOnceSession :=
    eventRun_afterEvent (idle_follows _) rfl (by decide) (List.isEmpty_iff.mp (by decide))
      (fun _ => ⟨by decide, by decide, 0x10, 0, by decide, by decide, rfl⟩) (by decide)
  exact (ReflTransGen.head (.call hset) hhit).trans hstepped

theorem step_callbacks_bounded_steppedOnce :
    stepCalls 0 7 steppedOnceSession.log = [(0x401000, 0)] ∧
      (stepCalls 0 7 steppedOnceSession.log).length + steppedOnceSession.pendingSteps 0 7 ≤
        stepAsks 0 7 steppedOnceSession.log :=
  ⟨by decide, step_callbacks_bounded fresh_threadedSession eventRun_steppedOnceSession 0 7⟩

theorem steps_answered_once_steppedOnce :
    stepAsks 0 7 steppedOnceSession.log = 1 ∧ stepAsks 0 7 steppedOnceSession.log =
      (stepCalls 0 7 steppedOnceSession.log).length + steppedOnceSession.pendingSteps 0 7 :=
  ⟨by decide, steps_answered_once fresh_threadedSession eventRun_steppedOnceSession⟩

end TitanEngine

import TitanEngine.Effects.Core
import TitanEngine.Replay.Stages

/-! What a move of the cursor does to the timeline: it leaves the cursor where it is, or
it goes to a position and refreshes the threads and modules there. What it reports
besides is no event of the timeline. -/
namespace TitanEngine

/-- Work that tells the client about threads or modules. -/
def TtdWork.Announces : TtdWork → Prop
  | .createProcess .. | .createThread .. | .exitThread .. | .loadModule .. | .unloadModule .. => True
  | _ => False

namespace TtdSession

theorem current_congr {t t' : TtdSession} (hengine : t'.gTtdEngine = t.gTtdEngine)
    (hposition : t'.cursor.position = t.cursor.position) : t'.current = t.current := by
  unfold current
  rw [hengine, hposition]

/-- A delivery notes down the work, and writes the TEB of a thread that it creates. -/
theorem deliver_eq (work : TtdWork) (t : TtdSession) :
    ∃ tebs event threadId, t.deliver work =
      { t with gProcessTebCache := tebs, gFakeDebugEvent := event
               noted := t.noted ++ [.delivered work threadId] } := by
  cases work <;> exact ⟨_, _, _, rfl⟩

theorem refreshed_bootstrapThread (threadSystemId : DWORD) (t : TtdSession) (info : ThreadInfo) :
    t.Refreshed (t.bootstrapThread threadSystemId info) := by
  unfold bootstrapThread
  split
  · exact .refl t
  · dsimp only [createSyntheticTitanHandle]
    unfold registerTitanHandle
    split
    · exact ⟨rfl, [_], by simp [TtdWork.OfTimeline], rfl⟩
    · exact ⟨rfl, [_], by simp [TtdWork.OfTimeline], rfl⟩

/-- What a refresh of the timeline works on, but for the cursor. -/
def timeline (t : TtdSession) : DebugIdMap × Map HANDLE TitanHandleEntry × Map HANDLE ULONG64 ×
    ULONG_PTR × Map ULONG64 String × Trace × List TtdEntry × List TtdWork :=
  (t.gDebugIdMap, t.gHandleRegistry, t.gProcessTebCache, t.gNextSyntheticHandle,
    t.gTtdActiveModules, t.gTtdEngine, t.noted, t.queue)

/-- The registries are the same, and nothing was queued or delivered that tells about
threads or modules. -/
structure Carried (t t' : TtdSession) : Prop where
  ids : t'.gDebugIdMap = t.gDebugIdMap
  registry : t'.gHandleRegistry = t.gHandleRegistry
  tebs : t'.gProcessTebCache = t.gProcessTebCache
  serial : t'.gNextSyntheticHandle = t.gNextSyntheticHandle
  modules : t'.gTtdActiveModules = t.gTtdActiveModules
  engine : t'.gTtdEngine = t.gTtdEngine
  deliveries : t'.deliveries = t.deliveries
  queued : ∃ works : List TtdWork, (∀ work ∈ works, ¬ work.Announces) ∧ t'.queue = t.queue ++ works

namespace Carried
variable {t t' t'' : TtdSession}

theorem trans (h : t.Carried t') (h' : t'.Carried t'') : t.Carried t'' := by
  refine ⟨h'.ids.trans h.ids, h'.registry.trans h.registry, h'.tebs.trans h.tebs,
    h'.serial.trans h.serial, h'.modules.trans h.modules, h'.engine.trans h.engine,
    h'.deliveries.trans h.deliveries, ?_⟩
  obtain ⟨works, hworks, hqueue⟩ := h.queued
  obtain ⟨works', hworks', hqueue'⟩ := h'.queued
  refine ⟨works ++ works', fun work hmem => ?_, ?_⟩
  · exact (List.mem_append.mp hmem).elim (hworks work) (hworks' work)
  · rw [hqueue', hqueue, List.append_assoc]

theorem of_timeline (h : t'.timeline = t.timeline) : t.Carried t' := by
  simp only [timeline, Prod.mk.injEq] at h
  obtain ⟨hids, hregistry, htebs, hserial, hmodules, hengine, hnoted, hqueue⟩ := h
  refine ⟨hids, hregistry, htebs, hserial, hmodules, hengine, ?_, [], ?_, ?_⟩
  · unfold TtdSession.deliveries
    rw [hnoted]
  · exact fun _ hmem => absurd hmem List.not_mem_nil
  · rw [hqueue, List.append_nil]

theorem refl (t : TtdSession) : t.Carried t := of_timeline rfl

theorem of_replayed (h : t.Replayed t') : t.Carried t' :=
  of_timeline (h.field_eq timeline fun _ _ _ _ _ _ => rfl)

theorem of_queued {work : TtdWork} (t : TtdSession) (h : ¬ work.Announces) :
    t.Carried (t.queueCallback work) :=
  ⟨rfl, rfl, rfl, rfl, rfl, rfl, rfl, [work], by simpa using h, rfl⟩

end Carried

/-- Where the cursor stays as well. -/
structure Stays (t t' : TtdSession) : Prop extends t.Carried t' where
  cursor : t'.cursor = t.cursor

namespace Stays
variable {t t' t'' : TtdSession}

theorem refl (t : TtdSession) : t.Stays t := ⟨.refl t, rfl⟩

theorem trans (h : t.Stays t') (h' : t'.Stays t'') : t.Stays t'' :=
  ⟨h.toCarried.trans h'.toCarried, h'.cursor.trans h.cursor⟩

theorem of_queued {work : TtdWork} (t : TtdSession) (h : ¬ work.Announces) :
    t.Stays (t.queueCallback work) := ⟨.of_queued t h, rfl⟩

theorem of_pauseSteps (steps : List PauseStep) (t : TtdSession) : t.Stays (t.pauseSteps steps) := by
  obtain ⟨callback, interrupt, heq⟩ := pauseSteps_eq steps t
  refine ⟨.of_replayed (replayed_pauseSteps steps t), ?_⟩
  rw [heq]

theorem of_session {s : Session} (ids : s.gDebugIdMap = t.gDebugIdMap)
    (registry : s.gHandleRegistry = t.gHandleRegistry) : t.Stays { t with toSession := s } :=
  ⟨.of_timeline (by simp only [timeline, ids, registry]), rfl⟩

end Stays

theorem stays_consumeSoftware (env : Env) (id : ULONG) (info : BreakpointInfo) (t : TtdSession) :
    t.Stays (t.consumeSoftware env id info) := by
  have hcore := Session.core_removeMemoryWatchpoint env ⟨info.offset, 1, ACCESS_EXECUTE⟩ t.toSession
  have hids := Session.core_idMap hcore
  have hregistry := Session.core_registry hcore
  unfold consumeSoftware
  split
  · exact .of_session hids hregistry
  · exact .refl t

theorem stays_consumeMemory (env : Env) (id : ULONG64) (info : MemoryBreakpointInfo)
    (t : TtdSession) : t.Stays (t.consumeMemory env id info) := by
  have hcore := Session.core_removeMemoryBreakpointById env id t.toSession
  unfold consumeMemory
  split
  · exact .refl t
  · exact .of_session (Session.core_idMap hcore) (Session.core_registry hcore)

theorem stays_queueTtdWatchpointHit (env : Env) (hit : Option TtdWatchHit) (t : TtdSession) :
    t.Stays (t.queueTtdWatchpointHit env hit).1 := by
  unfold queueTtdWatchpointHit
  split
  · exact .refl t
  · split
    · exact (stays_consumeSoftware _ _ _ t).trans (.of_queued _ id)
    · split
      · exact (stays_consumeMemory _ _ _ t).trans (.of_queued _ id)
      · exact .refl t

/-- What a move comes to. -/
inductive Moved (t t' : TtdSession) : Prop
  | rests (carried : t.Carried t') (position : t'.cursor.position = t.cursor.position)
  | arrives {u : TtdSession} (carried : t.Carried u) (refreshed : u.refreshTtdTimeline.Stays t')

theorem Moved.then {t t' t'' : TtdSession} (h : t.Moved t') (h' : t'.Stays t'') : t.Moved t'' := by
  cases h with
  | rests carried position =>
    exact .rests (carried.trans h'.toCarried) ((congrArg TtdCursor.position h'.cursor).trans position)
  | arrives carried refreshed => exact .arrives carried (refreshed.trans h')

theorem Moved.engine {t t' : TtdSession} (h : t.Moved t') : t'.gTtdEngine = t.gTtdEngine := by
  cases h with
  | rests carried _ => exact carried.engine
  | arrives carried refreshed =>
    exact (refreshed.engine.trans (refreshed_refreshTtdTimeline _).engine).trans carried.engine

end TtdSession

/-- A replay that executes nothing leaves the cursor where it is. -/
def StepAnswers.Idle (answers : StepAnswers) (position : TtdPosition) : Prop :=
  ∀ i, (answers.attempt i).stepsExecuted = 0 → (answers.attempt i).cursor.position = position

/-- The call gets where it is to go: `SetPosition` reaches the position asked for, a step
that executes nothing moves nothing, and a step over a call can watch for the return. -/
def TtdMove.Lands : TtdMove → TtdSession → Prop
  | setPosition requested reached, _ => reached.position = requested
  | stepBack answers _, t => answers.Idle t.cursor.position
  | step answers stepOver _, t =>
    answers.Idle t.cursor.position ∧ (stepOver = true → answers.base.addMemoryWatchpoint = true)
  | run _, _ => True

namespace TtdSession

theorem moved_fail (error : DWORD) (t : TtdSession) : t.Moved (t.fail error).1 :=
  .rests (.of_timeline rfl) rfl

theorem moved_replaySetPosition {requested : TtdPosition} {reached : TtdCursor} (t : TtdSession)
    (h : reached.position = requested) : t.Moved (t.replaySetPosition requested reached).1 := by
  unfold replaySetPosition
  split
  · exact moved_fail _ t
  · split
    · exact moved_fail _ t
    · dsimp only
      rw [if_neg (not_not.mpr h)]
      exact .arrives (u := { t with cursor := reached }.updateTtdCursorIdentity)
        (.of_timeline rfl) (.refl _)

/-- Two attempts that come to no step leave the cursor at its position. -/
theorem idle_replayAttempts {answers : StepAnswers} {t : TtdSession} {before : TtdPosition}
    (hidle : answers.Idle t.cursor.position)
    (hzero : (t.replayAttempts answers.attempt answers.setPositionOnThread before).2.1 = 0) :
    (t.replayAttempts answers.attempt answers.setPositionOnThread before).1.cursor.position =
      t.cursor.position := by
  have hattempt : ∀ (i : ℕ) (u : TtdSession),
      (u.replayAttempt (answers.attempt i) answers.setPositionOnThread before).2.1 = 0 →
        (u.replayAttempt (answers.attempt i) answers.setPositionOnThread before).1.cursor.position =
          t.cursor.position := by
    intro i u
    unfold replayAttempt
    dsimp only
    split
    · exact hidle i
    · split
      · exact fun hsteps => absurd hsteps ‹_›
      · split
        · intro hone
          cases hone
        · exact fun _ => hidle i (not_not.mp ‹_›)
  unfold replayAttempts at hzero ⊢
  split at hzero <;> rename_i heq
  · have hfirst := hattempt 0 t
    rw [heq] at hfirst
    exact hfirst hzero
  · exact hattempt 1 _ hzero

theorem moved_finishStep (env : Env) (stepCallBack : Option Callback) {t u : TtdSession}
    (h : t.Carried u) : t.Moved (u.finishStep env stepCallBack).1 := by
  have hcleared : t.Carried { u with gTtdWatchHit := none } :=
    h.trans (.of_timeline rfl)
  have hrefreshed : t.Moved { u with gTtdWatchHit := none }.refreshTtdTimeline :=
    .arrives hcleared (.refl _)
  have hhit := stays_queueTtdWatchpointHit env u.gTtdWatchHit
    { u with gTtdWatchHit := none }.refreshTtdTimeline
  have hmoved := hrefreshed.then hhit
  unfold finishStep
  dsimp only
  generalize queueTtdWatchpointHit env _ _ = r at hmoved ⊢
  obtain ⟨u', reported⟩ := r
  cases reported with
  | true => exact hmoved
  | false =>
    cases stepCallBack with
    | none => exact hmoved
    | some callback => exact hmoved.then (.of_queued _ id)

theorem registries_addTtdSoftwareBreakpoint (env : Env) (address : ULONG_PTR)
    (callback : Option Callback) (thread : ULONG) (s : Session) :
    (s.addTtdSoftwareBreakpoint env address callback true thread).1.gDebugIdMap = s.gDebugIdMap ∧
      (s.addTtdSoftwareBreakpoint env address callback true thread).1.gHandleRegistry =
        s.gHandleRegistry := by
  have hcore := Session.core_addMemoryWatchpoint env ⟨address, 1, ACCESS_EXECUTE⟩ s
  have hids := Session.core_idMap hcore
  have hregistry := Session.core_registry hcore
  unfold Session.addTtdSoftwareBreakpoint
  split <;> rename_i heq <;> rw [heq] at hids hregistry
  · exact ⟨hids, hregistry⟩
  · exact ⟨hids, hregistry⟩

theorem added_addTtdSoftwareBreakpoint {env : Env} (address : ULONG_PTR) (callback : Option Callback)
    (thread : ULONG) {t : TtdSession} (hcursor : t.gTtdCursor ≠ none)
    (hadds : env.addMemoryWatchpoint = true) :
    (t.toSession.addTtdSoftwareBreakpoint env address callback true thread).2 = true := by
  obtain ⟨watchpoints, hsome⟩ := Option.ne_none_iff_exists'.mp hcursor
  unfold Session.addTtdSoftwareBreakpoint Session.addMemoryWatchpoint
  simp only [hsome, hadds, if_true]

theorem moved_replayStep {answers : StepAnswers} {stepOver : Bool} (reverse : Bool)
    (stepCallBack : Option Callback) {t : TtdSession} (hidle : answers.Idle t.cursor.position)
    (hadds : stepOver = true → answers.base.addMemoryWatchpoint = true) :
    t.Moved (t.replayStep answers reverse stepOver stepCallBack).1 := by
  have hrun := replayed_replayAttempts answers.attempt answers.setPositionOnThread t.cursor.position t
  have hcarried := Carried.of_replayed hrun
  have hrests := @idle_replayAttempts answers t t.cursor.position hidle
  have hcursor := hrun.field_eq (fun t => t.gTtdCursor) fun _ _ _ _ _ _ => rfl
  unfold replayStep
  split
  · exact moved_fail _ t
  rename_i hsession
  split
  · exact moved_fail _ t
  split
  · exact moved_fail _ t
  split
  · exact moved_fail _ t
  dsimp only at hcursor ⊢
  generalize t.replayAttempts answers.attempt answers.setPositionOnThread t.cursor.position = r
    at hcarried hrests hcursor ⊢
  split
  · rename_i hzero
    exact .rests (hcarried.trans (.of_timeline rfl)) (hrests hzero)
  have hidentity : t.Carried r.1.updateTtdCursorIdentity :=
    hcarried.trans (.of_timeline rfl)
  have hwatches : r.1.updateTtdCursorIdentity.gTtdCursor ≠ none :=
    fun hnone => hsession (.inr (hcursor.symm.trans hnone))
  generalize r.1.updateTtdCursorIdentity = u at hidentity hwatches ⊢
  generalize hreturn : (if stepOver = true then _ else (0 : ULONG64)) = returnAddress
  split
  · rename_i hcall
    have hover : stepOver = true := by
      by_contra hinto
      exact hcall.1 (hreturn.symm.trans (if_neg hinto))
    have hadded := added_addTtdSoftwareBreakpoint returnAddress stepCallBack
      t.cursor.thread.uniqueId hwatches (hadds hover)
    obtain ⟨hids, hregistry⟩ := registries_addTtdSoftwareBreakpoint answers.base returnAddress
      stepCallBack t.cursor.thread.uniqueId u.toSession
    have hcarried' := hidentity.trans (Stays.of_session hids hregistry).toCarried
    split
    · exact .arrives (u := { u with gTtdNextRunReverse := false, gTtdWatchHit := none })
        (hidentity.trans (.of_timeline rfl)) (.refl _)
    · rw [hadded]
      exact .arrives (u := { u with
          toSession := (u.toSession.addTtdSoftwareBreakpoint answers.base returnAddress stepCallBack
            true t.cursor.thread.uniqueId).1
          gTtdNextRunReverse := false, gTtdWatchHit := none })
        (hcarried'.trans (.of_timeline rfl)) (.refl _)
  · exact moved_finishStep _ _ hidentity

theorem moved_ttdStep {answers : StepAnswers} {stepOver : Bool} (stepCallBack : Option Callback)
    {t : TtdSession} (hidle : answers.Idle t.cursor.position)
    (hadds : stepOver = true → answers.base.addMemoryWatchpoint = true) :
    t.Moved (t.ttdStep answers stepOver stepCallBack) := by
  have hmoved := moved_replayStep false stepCallBack hidle hadds
  unfold ttdStep
  generalize t.replayStep answers false stepOver stepCallBack = r at hmoved ⊢
  obtain ⟨u, succeeded⟩ := r
  cases succeeded with
  | true => exact hmoved
  | false =>
    cases stepCallBack with
    | none => exact hmoved
    | some callback => exact hmoved.then (.of_queued _ id)

theorem carried_parkAtExit (answer : ReplayAnswer) (t : TtdSession) :
    t.Carried (t.parkAtExit answer) := by
  rw [parkAtExit_eq]
  split
  · refine ⟨rfl, rfl, rfl, rfl, rfl, rfl, ?_, [], fun _ hmem => absurd hmem List.not_mem_nil, ?_⟩
    · simp [deliveries, TtdEntry.delivery?]
    · exact (List.append_nil _).symm
  · exact .of_timeline rfl

theorem carried_parkRun (answers : RunAnswers) (reverse : Bool) (stepCount : ULONG64)
    (event : Option ExceptionEvent) (t : TtdSession) :
    t.Carried (t.parkRun answers reverse stepCount event) := by
  have hpause := Carried.of_replayed (replayed_pauseSteps answers.requests.beforeParking t)
  unfold parkRun
  dsimp only
  split
  · exact hpause.trans (carried_parkAtExit _ _)
  · exact hpause

theorem stays_queueException (event : ExceptionEvent) (t : TtdSession) :
    t.Stays (t.queueException event) := by
  unfold queueException
  dsimp only
  split
  · exact .of_queued t id
  · exact .of_queued t id

theorem stays_reportRun (answers : RunAnswers) (reverse : Bool) (stepCount : ULONG64)
    (hit : Option TtdWatchHit) (event : Option ExceptionEvent) (t : TtdSession) :
    t.Stays (t.reportRun answers reverse stepCount hit event).1 := by
  have hexchange := Stays.of_pauseSteps answers.requests.beforeExchange t
  unfold reportRun
  split
  · exact .refl t
  dsimp only
  generalize t.pauseSteps answers.requests.beforeExchange = u at hexchange ⊢
  split
  · have hfetched : t.Stays { u with gTtdInterruptRequested := false } :=
      hexchange.trans ⟨.of_timeline rfl, rfl⟩
    have hcallback := hfetched.trans (.of_pauseSteps answers.requests.beforeCallback _)
    generalize pauseSteps answers.requests.beforeCallback _ = u' at hcallback ⊢
    have htaken : u'.Stays { u' with gPauseCallback := none } := .of_session rfl rfl
    exact hcallback.trans (htaken.trans (.of_queued _ id))
  · have hhit := hexchange.trans (stays_queueTtdWatchpointHit answers.base hit u)
    generalize u.queueTtdWatchpointHit answers.base hit = r at hhit ⊢
    obtain ⟨u', reported⟩ := r
    cases reported with
    | true => exact hhit
    | false =>
      cases event with
      | some event => exact hhit.trans (stays_queueException event _)
      | none =>
        refine hhit.trans (.of_queued _ ?_)
        cases reverse <;> exact id

theorem moved_runTtd (answers : RunAnswers) (reverse : Bool) (t : TtdSession) :
    t.Moved (t.runTtd answers reverse).1 := by
  have hrun := Carried.of_replayed (replayed_replayRun answers reverse t)
  unfold runTtd
  dsimp only
  generalize t.replayRun answers reverse = r at hrun ⊢
  have hparked := hrun.trans (carried_parkRun answers reverse r.2.1 r.2.2 r.1)
  generalize r.1.parkRun answers reverse r.2.1 r.2.2 = parked at hparked ⊢
  have hreport := stays_reportRun answers reverse r.2.1 parked.settleRun.2 r.2.2 parked.settleRun.1
  have hsettled : t.Carried
      { { parked with gPaused := true }.updateTtdCursorIdentity with gTtdWatchHit := none } :=
    hparked.trans (.of_timeline rfl)
  exact .arrives hsettled hreport

/-- A move that lands leaves the cursor where it is, or refreshes the timeline where it
leaves the cursor. -/
theorem moved_apply {move : TtdMove} {t : TtdSession} (h : move.Lands t) : t.Moved (move.apply t) := by
  cases move with
  | setPosition requested reached => exact moved_replaySetPosition t h
  | stepBack answers stepCallBack =>
    exact moved_replayStep true stepCallBack h fun hover => absurd hover Bool.false_ne_true
  | step answers stepOver stepCallBack => exact moved_ttdStep stepCallBack h.1 h.2
  | run answers =>
    have hstart : t.Carried { t with gTtdNextRunReverse := false } :=
      .of_timeline rfl
    cases moved_runTtd answers t.gTtdNextRunReverse { t with gTtdNextRunReverse := false } with
    | rests carried position => exact .rests (hstart.trans carried) position
    | arrives carried refreshed => exact .arrives (hstart.trans carried) refreshed

end TtdSession

end TitanEngine

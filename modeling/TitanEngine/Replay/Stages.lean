import TitanEngine.Replay.Hits

/-! What the stages of a run leave of a replay session: the replays move the cursor and
may leave an accepted hit, the refresh of the timeline queues events of the timeline. -/
namespace TitanEngine
namespace TtdSession

/-- A session with the same breakpoints answers for the same hits. -/
theorem answers_congr {t t' : TtdSession} (h : t'.bps = t.bps) (hit : TtdWatchHit) :
    t'.Answers hit ↔ t.Answers hit := by
  unfold Answers CodeAt DataAt
  rw [h]

/-- What replays and pause requests change: the cursor, the hit, and the pause state. -/
structure Replayed (t t' : TtdSession) : Prop where
  rest : { t' with cursor := t.cursor, gTtdWatchHit := t.gTtdWatchHit, gPaused := t.gPaused
                   gPauseCallback := t.gPauseCallback
                   gTtdInterruptRequested := t.gTtdInterruptRequested } = t
  sound : (∀ hit, t.gTtdWatchHit = some hit → t.Answers hit) →
    ∀ hit, t'.gTtdWatchHit = some hit → t.Answers hit

namespace Replayed
variable {t t' t'' : TtdSession}

theorem field_eq {α : Type*} (h : t.Replayed t') (f : TtdSession → α)
    (hf : ∀ (t : TtdSession) (cursor : TtdCursor) (hit : Option TtdWatchHit) (paused : Bool)
      (callback : Option Callback) (interrupt : Bool),
      f { t with cursor := cursor, gTtdWatchHit := hit, gPaused := paused
                 gPauseCallback := callback, gTtdInterruptRequested := interrupt } = f t) :
    f t' = f t := by
  have heq := congrArg f h.rest
  rwa [hf] at heq

theorem bps (h : t.Replayed t') : t'.bps = t.bps :=
  h.field_eq (fun t => t.bps) fun _ _ _ _ _ _ => rfl

theorem queue (h : t.Replayed t') : t'.queue = t.queue :=
  h.field_eq (fun t => t.queue) fun _ _ _ _ _ _ => rfl

theorem noted (h : t.Replayed t') : t'.noted = t.noted :=
  h.field_eq (fun t => t.noted) fun _ _ _ _ _ _ => rfl

theorem engine (h : t.Replayed t') : t'.gTtdEngine = t.gTtdEngine :=
  h.field_eq (fun t => t.gTtdEngine) fun _ _ _ _ _ _ => rfl

theorem stop (h : t.Replayed t') : t'.gTtdStopRequested = t.gTtdStopRequested :=
  h.field_eq (fun t => t.gTtdStopRequested) fun _ _ _ _ _ _ => rfl

theorem refl (t : TtdSession) : t.Replayed t := ⟨rfl, fun h => h⟩

theorem trans (h : t.Replayed t') (h' : t'.Replayed t'') : t.Replayed t'' := by
  constructor
  · have hrest := h.rest
    rw [← h'.rest] at hrest
    exact hrest
  · intro hsound hit hhit
    have hanswers := h'.sound (fun hit hhit => (answers_congr h.bps hit).mpr (h.sound hsound hit hhit))
    exact (answers_congr h.bps hit).mp (hanswers hit hhit)

theorem of_moved (t : TtdSession) (cursor : TtdCursor) : t.Replayed { t with cursor := cursor } :=
  ⟨rfl, fun h => h⟩

theorem of_cleared (t : TtdSession) : t.Replayed { t with gTtdWatchHit := none } := by
  refine ⟨rfl, fun _ hit hhit => ?_⟩
  cases hhit

theorem of_paused (t : TtdSession) (paused : Bool) : t.Replayed { t with gPaused := paused } :=
  ⟨rfl, fun h => h⟩

end Replayed

theorem replayed_callback (access : MemoryWatchpointResult) (view : Option ThreadView)
    (t : TtdSession) : t.Replayed (t.ttdMemoryWatchpointCallback access view).1 := by
  cases view with
  | none => exact .refl t
  | some view =>
    obtain ⟨hanswers, heq⟩ | ⟨_, heq⟩ := callback_view access view t
    · rw [heq]
      refine ⟨rfl, fun _ hit hhit => ?_⟩
      cases Option.some.inj hhit
      exact hanswers
    · rw [heq]
      exact .refl t

theorem replayed_ttdReplay (answer : ReplayAnswer) (t : TtdSession) :
    t.Replayed (t.ttdReplay answer) := by
  have hfold : ∀ (accesses : List (MemoryWatchpointResult × Option ThreadView)) (t : TtdSession),
      t.Replayed (accesses.foldl (fun t access => (t.ttdMemoryWatchpointCallback access.1 access.2).1) t) := by
    intro accesses
    induction accesses with
    | nil => exact .refl
    | cons access _ ih => exact fun t => (replayed_callback access.1 access.2 t).trans (ih _)
  exact (hfold answer.accesses t).trans (.of_moved _ _)

theorem replayed_replayAttempt (answer : ReplayAnswer)
    (setPositionOnThread : ULONG → TtdPosition → TtdCursor) (before : TtdPosition) (t : TtdSession) :
    t.Replayed (t.replayAttempt answer setPositionOnThread before).1 := by
  have hreplay := (Replayed.of_cleared t).trans (replayed_ttdReplay answer _)
  unfold replayAttempt
  dsimp only
  split
  · exact hreplay
  · split
    · exact hreplay
    · split
      · exact hreplay.trans (.of_moved _ _)
      · exact hreplay

theorem replayed_replayAttempts (answer : ℕ → ReplayAnswer)
    (setPositionOnThread : ULONG → TtdPosition → TtdCursor) (before : TtdPosition) (t : TtdSession) :
    t.Replayed (t.replayAttempts answer setPositionOnThread before).1 := by
  have hfirst := replayed_replayAttempt (answer 0) setPositionOnThread before t
  unfold replayAttempts
  split
  · rename_i heq
    rwa [heq] at hfirst
  · rename_i heq
    rw [heq] at hfirst
    exact hfirst.trans (replayed_replayAttempt _ _ _ _)

theorem replayed_pauseSteps (steps : List PauseStep) (t : TtdSession) :
    t.Replayed (t.pauseSteps steps) := by
  induction steps generalizing t with
  | nil => exact .refl t
  | cons step _ ih =>
    have hstep : t.Replayed (t.pauseStep step) := by
      cases step <;> exact ⟨rfl, fun h => h⟩
    exact hstep.trans (ih _)

theorem replayed_fallbackSteps (answers : RunAnswers) (limit : TtdPosition) (fuel i : ℕ)
    (total : ULONG64) (t : TtdSession) :
    t.Replayed (fallbackSteps answers limit fuel i total t).1 := by
  induction fuel generalizing i total t with
  | zero => exact .refl t
  | succ fuel ih =>
    have hpause := replayed_pauseSteps (answers.requests.beforeFallbackStep i) t
    have hstep := (hpause.trans (.of_cleared _)).trans
      (replayed_ttdReplay (answers.singleStep i limit) _)
    unfold fallbackSteps
    dsimp only
    split
    · exact hpause
    · split
      · exact hstep
      · split
        · exact hstep
        · exact hstep.trans (ih _ _ _)

theorem replayed_selectHit (setPositionOnThread : ULONG → TtdPosition → TtdCursor)
    (stepCount : ULONG64) (t : TtdSession) :
    t.Replayed (t.selectHit setPositionOnThread stepCount).1 := by
  unfold selectHit
  split
  · split
    · exact .of_moved _ _
    · exact .refl t
  · exact .refl t

theorem replayed_replayRun (answers : RunAnswers) (reverse : Bool) (t : TtdSession) :
    t.Replayed (t.replayRun answers reverse).1 := by
  unfold replayRun
  dsimp only
  have hstart : t.Replayed { t with gTtdWatchHit := none, gPaused := false } :=
    (Replayed.of_cleared t).trans (.of_paused _ _)
  generalize nearestException reverse _ _ _ = nearest
  have hattempts := hstart.trans
    (replayed_replayAttempts (fun i => answers.replay i nearest.1) answers.setPositionOnThread
      t.cursor.position _)
  split
  · exact (hattempts.trans (replayed_fallbackSteps _ _ _ _ _ _)).trans (replayed_selectHit _ _ _)
  · exact hattempts.trans (replayed_selectHit _ _ _)

end TtdSession

/-- Events of the timeline, as a refresh queues them. -/
def TtdWork.OfTimeline : TtdWork → Prop
  | .createThread .. | .exitThread .. | .loadModule .. | .unloadModule .. => True
  | _ => False

/-- The recorded exception that a piece of work reports. -/
def TtdWork.event? : TtdWork → Option ExceptionEvent
  | .exception _ _ event | .outputDebugString event => some event
  | _ => none

def TtdWork.hit? : TtdWork → Option TtdWatchHit
  | .breakpoint hit _ | .memoryBreakpoint hit _ => some hit
  | _ => none

namespace TtdSession

/-- What a refresh of the timeline changes: the registries of threads and modules, and
the queue, by events of the timeline. -/
structure Refreshed (t t' : TtdSession) : Prop where
  rest : { t' with gDebugIdMap := t.gDebugIdMap, gHandleRegistry := t.gHandleRegistry
                   gProcessTebCache := t.gProcessTebCache
                   gNextSyntheticHandle := t.gNextSyntheticHandle
                   gTtdActiveModules := t.gTtdActiveModules, queue := t.queue } = t
  queued : ∃ works : List TtdWork, (∀ work ∈ works, work.OfTimeline) ∧ t'.queue = t.queue ++ works

namespace Refreshed
variable {t t' t'' : TtdSession}

theorem field_eq {α : Type*} (h : t.Refreshed t') (f : TtdSession → α)
    (hf : ∀ (t : TtdSession) (ids : DebugIdMap) (registry : Map HANDLE TitanHandleEntry)
      (tebs : Map HANDLE ULONG64) (serial : ULONG_PTR) (modules : Map ULONG64 String)
      (queue : List TtdWork),
      f { t with gDebugIdMap := ids, gHandleRegistry := registry, gProcessTebCache := tebs
                 gNextSyntheticHandle := serial, gTtdActiveModules := modules, queue := queue } =
        f t) : f t' = f t := by
  have heq := congrArg f h.rest
  rwa [hf] at heq

theorem bps (h : t.Refreshed t') : t'.bps = t.bps :=
  h.field_eq (fun t => t.bps) fun _ _ _ _ _ _ _ => rfl

theorem noted (h : t.Refreshed t') : t'.noted = t.noted :=
  h.field_eq (fun t => t.noted) fun _ _ _ _ _ _ _ => rfl

theorem engine (h : t.Refreshed t') : t'.gTtdEngine = t.gTtdEngine :=
  h.field_eq (fun t => t.gTtdEngine) fun _ _ _ _ _ _ _ => rfl

theorem cursor (h : t.Refreshed t') : t'.cursor = t.cursor :=
  h.field_eq (fun t => t.cursor) fun _ _ _ _ _ _ _ => rfl

theorem stop (h : t.Refreshed t') : t'.gTtdStopRequested = t.gTtdStopRequested :=
  h.field_eq (fun t => t.gTtdStopRequested) fun _ _ _ _ _ _ _ => rfl

theorem interrupt (h : t.Refreshed t') : t'.gTtdInterruptRequested = t.gTtdInterruptRequested :=
  h.field_eq (fun t => t.gTtdInterruptRequested) fun _ _ _ _ _ _ _ => rfl

theorem refl (t : TtdSession) : t.Refreshed t :=
  ⟨rfl, [], fun _ h => absurd h List.not_mem_nil, (List.append_nil _).symm⟩

theorem trans (h : t.Refreshed t') (h' : t'.Refreshed t'') : t.Refreshed t'' := by
  constructor
  · have hrest := h.rest
    rw [← h'.rest] at hrest
    exact hrest
  · obtain ⟨works, hworks, hqueue⟩ := h.queued
    obtain ⟨works', hworks', hqueue'⟩ := h'.queued
    refine ⟨works ++ works', fun work hwork => ?_, ?_⟩
    · exact (List.mem_append.mp hwork).elim (hworks work) (hworks' work)
    · rw [hqueue', hqueue, List.append_assoc]

theorem foldl {α : Type*} {f : TtdSession → α → TtdSession}
    (hf : ∀ (t : TtdSession) a, t.Refreshed (f t a)) (as : List α) (t : TtdSession) : t.Refreshed (as.foldl f t) := by
  induction as generalizing t with
  | nil => exact .refl t
  | cons a _ ih => exact (hf t a).trans (ih _)

end Refreshed

theorem refreshed_enterThread (info : ThreadInfo) (t : TtdSession) :
    t.Refreshed (t.enterThread info) := by
  unfold enterThread
  split
  · exact .refl t
  · dsimp only [createSyntheticTitanHandle]
    unfold registerTitanHandle
    split
    · exact ⟨rfl, [_], by simp [TtdWork.OfTimeline], rfl⟩
    · exact ⟨rfl, [_], by simp [TtdWork.OfTimeline], rfl⟩

theorem refreshed_leaveThread (thread : ULONG × HANDLE × DWORD) (t : TtdSession) :
    t.Refreshed (t.leaveThread thread) :=
  ⟨rfl, [.exitThread thread.2.2 thread.1], by simp [TtdWork.OfTimeline], rfl⟩

theorem refreshed_refreshModules (t : TtdSession) : t.Refreshed t.refreshModules := by
  refine ⟨rfl, _, fun work hwork => ?_, rfl⟩
  rw [List.mem_append, List.mem_map, List.mem_map] at hwork
  obtain ⟨_, _, rfl⟩ | ⟨_, _, rfl⟩ := hwork
  · trivial
  · trivial

theorem refreshed_refreshThreads (t : TtdSession) : t.Refreshed t.refreshThreads := by
  have henter := Refreshed.foldl (fun t info => refreshed_enterThread info t) t.current.threads t
  have hleave := Refreshed.foldl (fun t thread => refreshed_leaveThread thread t)
    (terminatedThreads (t.current.threads.foldl (fun t info => t.enterThread info) t))
    (t.current.threads.foldl (fun t info => t.enterThread info) t)
  exact henter.trans hleave

theorem refreshed_refreshTtdTimeline (t : TtdSession) : t.Refreshed t.refreshTtdTimeline :=
  (refreshed_refreshThreads t).trans (refreshed_refreshModules _)

@[simp] theorem interrupt_pauseSteps (steps : List PauseStep) (t : TtdSession) :
    (t.pauseSteps steps).gTtdInterruptRequested =
      (t.gTtdInterruptRequested || decide (PauseStep.raise ∈ steps)) := by
  induction steps generalizing t with
  | nil => simp [pauseSteps]
  | cons step steps ih =>
    have hstep : (t.pauseSteps (step :: steps)) = (t.pauseStep step).pauseSteps steps := rfl
    rw [hstep, ih]
    cases step <;> simp [pauseStep]

/-- Apart from the pause state, pause requests change nothing. -/
theorem pauseSteps_eq (steps : List PauseStep) (t : TtdSession) :
    ∃ callback interrupt, t.pauseSteps steps =
      { t with gPauseCallback := callback, gTtdInterruptRequested := interrupt } := by
  induction steps generalizing t with
  | nil => exact ⟨_, _, rfl⟩
  | cons step steps ih =>
    obtain ⟨callback, interrupt, heq⟩ := ih (t.pauseStep step)
    have hstep : (t.pauseSteps (step :: steps)) = (t.pauseStep step).pauseSteps steps := rfl
    rw [hstep, heq]
    cases step <;> exact ⟨_, _, rfl⟩

theorem softwareBreakpointOf_congr {t t' : TtdSession} (h : t'.bps = t.bps) (hit : TtdWatchHit) :
    t'.softwareBreakpointOf hit = t.softwareBreakpointOf hit := by
  unfold softwareBreakpointOf
  rw [h]

theorem memoryBreakpointOf_congr {t t' : TtdSession} (h : t'.bps = t.bps) (hit : TtdWatchHit) :
    t'.memoryBreakpointOf hit = t.memoryBreakpointOf hit := by
  unfold memoryBreakpointOf
  rw [h]

/-- The callback of the breakpoint for a hit: of the first code breakpoint, else of the
first memory breakpoint. -/
inductive ReportedTo (hit : TtdWatchHit) (t : TtdSession) : TtdWork → Prop
  | code {id info} (found : t.softwareBreakpointOf hit = some (id, info)) :
      ReportedTo hit t (.breakpoint hit info.callback)
  | data {id info} (other : t.softwareBreakpointOf hit = none)
      (found : t.memoryBreakpointOf hit = some (id, info)) :
      ReportedTo hit t (.memoryBreakpoint hit info.callback)

theorem ReportedTo.congr {t t' : TtdSession} {hit : TtdWatchHit} {work : TtdWork}
    (hwork : t'.ReportedTo hit work) (h : t'.bps = t.bps) : t.ReportedTo hit work := by
  cases hwork with
  | code found => exact .code (softwareBreakpointOf_congr h hit ▸ found)
  | data other found =>
    exact .data (softwareBreakpointOf_congr h hit ▸ other) (memoryBreakpointOf_congr h hit ▸ found)

theorem consumeSoftware_eq (env : Env) (id : ULONG) (info : BreakpointInfo) (t : TtdSession) :
    ∃ s, t.consumeSoftware env id info = { t with toSession := s } := by
  unfold consumeSoftware
  split
  · exact ⟨_, rfl⟩
  · exact ⟨_, rfl⟩

theorem consumeMemory_eq (env : Env) (id : ULONG64) (info : MemoryBreakpointInfo) (t : TtdSession) :
    ∃ s, t.consumeMemory env id info = { t with toSession := s } := by
  unfold consumeMemory
  split
  · exact ⟨_, rfl⟩
  · exact ⟨_, rfl⟩

/-- A hit that some breakpoint answers for is reported. -/
theorem queueTtdWatchpointHit_answered {hit : TtdWatchHit} {t : TtdSession} (env : Env)
    (h : t.Answers hit) : ∃ s work, t.ReportedTo hit work ∧
      t.queueTtdWatchpointHit env (some hit) = ({ t with toSession := s }.queueCallback work, true) := by
  cases hcode : t.softwareBreakpointOf hit with
  | some entry =>
    obtain ⟨s, hs⟩ := consumeSoftware_eq env entry.1 entry.2 t
    rw [queueTtdWatchpointHit_code env hcode, hs]
    exact ⟨s, _, .code hcode, rfl⟩
  | none =>
    have hnone := (softwareBreakpointOf_eq_none_iff _ _).mp hcode
    cases hdata : t.memoryBreakpointOf hit with
    | none => exact absurd h (not_or.mpr ⟨hnone, (memoryBreakpointOf_eq_none_iff _ _).mp hdata⟩)
    | some entry =>
      obtain ⟨s, hs⟩ := consumeMemory_eq env entry.1 entry.2 t
      rw [queueTtdWatchpointHit_data env hcode hdata, hs]
      exact ⟨s, _, .data hcode hdata, rfl⟩

/-- What a run reports, by what it found and whether a pause was requested. -/
inductive Report (t : TtdSession) (reverse : Bool) (hit : Option TtdWatchHit)
    (event : Option ExceptionEvent) (interrupted : Bool) : TtdWork → Prop
  | pause (callback) (flag : interrupted = true) : Report t reverse hit event interrupted (.pause callback)
  | hit {found work} (flag : interrupted = false) (pending : hit = some found)
      (reported : t.ReportedTo found work) : Report t reverse hit event interrupted work
  | exception {found work} (flag : interrupted = false) (nothing : hit = none)
      (stands : event = some found) (reported : work.event? = some found) :
      Report t reverse hit event interrupted work
  | ending (flag : interrupted = false) (nothing : hit = none) (free : event = none) :
      Report t reverse hit event interrupted (if reverse then .boundary else .exitProcess)

theorem Report.congr {t t' : TtdSession} {reverse : Bool} {hit : Option TtdWatchHit}
    {event : Option ExceptionEvent} {interrupted : Bool} {work : TtdWork}
    (hwork : t'.Report reverse hit event interrupted work) (h : t'.bps = t.bps) :
    t.Report reverse hit event interrupted work := by
  cases hwork with
  | pause callback flag => exact .pause callback flag
  | hit flag pending reported => exact .hit flag pending (reported.congr h)
  | exception flag nothing stands reported => exact .exception flag nothing stands reported
  | ending flag nothing free => exact .ending flag nothing free

theorem queueException_eq (event : ExceptionEvent) (t : TtdSession) :
    ∃ work, work.event? = some event ∧ t.queueException event = t.queueCallback work := by
  unfold queueException
  dsimp only
  split
  · exact ⟨_, rfl, rfl⟩
  · exact ⟨_, rfl, rfl⟩

theorem reportRun_outcome (answers : RunAnswers) (reverse : Bool) (stepCount : ULONG64)
    {hit : Option TtdWatchHit} (event : Option ExceptionEvent) {t : TtdSession}
    (hstop : t.gTtdStopRequested = false) (hsound : ∀ found, hit = some found → t.Answers found) :
    ∃ s interrupt work,
      Report t reverse hit event
        (t.gTtdInterruptRequested || decide (PauseStep.raise ∈ answers.requests.beforeExchange)) work ∧
      (t.reportRun answers reverse stepCount hit event).1 =
        { t with toSession := s, gTtdInterruptRequested := interrupt, queue := t.queue ++ [work] } := by
  have hflag := interrupt_pauseSteps answers.requests.beforeExchange t
  obtain ⟨callback, interrupt, heq⟩ := pauseSteps_eq answers.requests.beforeExchange t
  have hrunning : ¬ t.gTtdStopRequested = true := by simp [hstop]
  unfold reportRun
  rw [if_neg hrunning]
  simp only [← hflag]
  rw [heq]
  dsimp only
  cases interrupt with
  | true =>
    obtain ⟨callback', interrupt', heq'⟩ :=
      pauseSteps_eq answers.requests.beforeCallback
        { t with gPauseCallback := callback, gTtdInterruptRequested := false }
    rw [if_pos rfl, heq']
    exact ⟨{ t.toSession with gPauseCallback := none }, interrupt', _, .pause callback' rfl, rfl⟩
  | false =>
    rw [if_neg Bool.false_ne_true]
    cases hit with
    | some found =>
      obtain ⟨s, work, hwork, hqueue⟩ := queueTtdWatchpointHit_answered
        (t := { t with gPauseCallback := callback, gTtdInterruptRequested := false })
        answers.base (hsound found rfl)
      have hwork' : t.ReportedTo found work := hwork.congr rfl
      rw [hqueue]
      exact ⟨s, _, work, .hit rfl rfl hwork', rfl⟩
    | none =>
      cases event with
      | some found =>
        obtain ⟨work, hwork, hqueue⟩ := queueException_eq found
          { t with gPauseCallback := callback, gTtdInterruptRequested := false }
        simp only [queueTtdWatchpointHit, hqueue]
        exact ⟨_, _, work, .exception rfl rfl rfl hwork, rfl⟩
      | none => exact ⟨_, _, _, .ending rfl rfl rfl, rfl⟩

theorem ttdReplay_eq (answer : ReplayAnswer) (t : TtdSession) :
    ∃ hit, t.ttdReplay answer = { t with gTtdWatchHit := hit, cursor := answer.cursor } := by
  have hfold : ∀ (accesses : List (MemoryWatchpointResult × Option ThreadView)) (t : TtdSession),
      ∃ hit, accesses.foldl (fun t access => (t.ttdMemoryWatchpointCallback access.1 access.2).1) t =
        { t with gTtdWatchHit := hit } := by
    intro accesses
    induction accesses with
    | nil => exact fun t => ⟨_, rfl⟩
    | cons access rest ih =>
      intro t
      have hcallback : ∃ hit, (t.ttdMemoryWatchpointCallback access.1 access.2).1 =
          { t with gTtdWatchHit := hit } := by
        obtain ⟨access, view⟩ := access
        cases view with
        | none => exact ⟨_, rfl⟩
        | some view =>
          obtain ⟨_, heq⟩ | ⟨_, heq⟩ := callback_view access view t
          · exact ⟨_, by rw [heq]⟩
          · exact ⟨_, by rw [heq]⟩
      obtain ⟨hit, heq⟩ := hcallback
      rw [List.foldl_cons, heq]
      exact ih _
  obtain ⟨hit, heq⟩ := hfold answer.accesses t
  exact ⟨hit, by rw [ttdReplay, heq]⟩

theorem parkAtExit_eq (answer : ReplayAnswer) (t : TtdSession) :
    t.parkAtExit answer =
      if answer.stepsExecuted ≠ 0 then
        { t with gTtdWatchHit := none, cursor := answer.cursor
                 gTtdProcessExitBoundary := some answer.cursor.position
                 noted := t.noted ++ [.published answer.cursor.position] }
      else { t with gTtdWatchHit := none, cursor := answer.cursor } := by
  obtain ⟨hit, heq⟩ := ttdReplay_eq answer { t with gTtdWatchHit := none }
  simp only [parkAtExit, heq]
  split <;> rfl

/-- The run takes its stop for the process exit. -/
def TakenForExit (answers : RunAnswers) (reverse : Bool) (stepCount : ULONG64)
    (event : Option ExceptionEvent) (t : TtdSession) : Prop :=
  reverse = false ∧ stepCount ≠ 0 ∧ t.gTtdWatchHit = none ∧ event = none ∧
    (t.gTtdInterruptRequested || decide (PauseStep.raise ∈ answers.requests.beforeParking)) = false

/-- The parking stage: which fields it changes, and what it makes of them. -/
structure ParkOutcome (answers : RunAnswers) (taken : Prop) (t t' : TtdSession) : Prop where
  hit : t'.gTtdWatchHit = t.gTtdWatchHit
  bps : t'.bps = t.bps
  queue : t'.queue = t.queue
  engine : t'.gTtdEngine = t.gTtdEngine
  stop : t'.gTtdStopRequested = t.gTtdStopRequested
  interrupt : t'.gTtdInterruptRequested =
    (t.gTtdInterruptRequested || decide (PauseStep.raise ∈ answers.requests.beforeParking))
  passed : ¬ taken → t'.cursor = t.cursor ∧ t'.noted = t.noted
  parked : taken → t'.cursor = answers.park.cursor ∧ t'.noted = t.noted ++
    if answers.park.stepsExecuted ≠ 0 then [.published answers.park.cursor.position] else []

theorem parkRun_outcome (answers : RunAnswers) (reverse : Bool) (stepCount : ULONG64)
    (event : Option ExceptionEvent) {t : TtdSession} (hstop : t.gTtdStopRequested = false) :
    ParkOutcome answers (TakenForExit answers reverse stepCount event t) t
      (t.parkRun answers reverse stepCount event) := by
  have hflag := interrupt_pauseSteps answers.requests.beforeParking t
  obtain ⟨callback, interrupt, heq⟩ := pauseSteps_eq answers.requests.beforeParking t
  unfold parkRun TakenForExit
  rw [← hflag]
  rw [heq] at hflag ⊢
  dsimp only at hflag ⊢
  have hrunning : ¬ t.gTtdStopRequested = true := by simp [hstop]
  split
  · rename_i hparks
    obtain ⟨hforward, hsteps, hhit, hevent, -, hinterrupt⟩ := hparks
    simp only [Bool.not_eq_true] at hforward hinterrupt
    rw [parkAtExit_eq]
    split
    · rename_i hexecuted
      exact ⟨hhit.symm, rfl, rfl, rfl, rfl, hflag,
        fun h => absurd ⟨hforward, hsteps, hhit, hevent, hinterrupt⟩ h,
        fun _ => ⟨rfl, by rw [if_pos hexecuted]⟩⟩
    · rename_i hexecuted
      exact ⟨hhit.symm, rfl, rfl, rfl, rfl, hflag,
        fun h => absurd ⟨hforward, hsteps, hhit, hevent, hinterrupt⟩ h,
        fun _ => ⟨rfl, by rw [if_neg hexecuted, List.append_nil]⟩⟩
  · rename_i hpasses
    refine ⟨rfl, rfl, rfl, rfl, rfl, hflag, fun _ => ⟨rfl, rfl⟩, ?_⟩
    rintro ⟨hforward, hsteps, hhit, hevent, hinterrupt⟩
    exact absurd ⟨by simp [hforward], hsteps, hhit, hevent, hrunning, by simp [hinterrupt]⟩ hpasses

/-- The cursor is handed back where it is, with the hit and events of the timeline. -/
structure SettleOutcome (t t' : TtdSession) : Prop where
  bps : t'.bps = t.bps
  noted : t'.noted = t.noted
  cursor : t'.cursor = t.cursor
  stop : t'.gTtdStopRequested = t.gTtdStopRequested
  interrupt : t'.gTtdInterruptRequested = t.gTtdInterruptRequested
  queued : ∃ works : List TtdWork, (∀ work ∈ works, work.OfTimeline) ∧ t'.queue = t.queue ++ works

theorem settleRun_outcome (t : TtdSession) : SettleOutcome t t.settleRun.1 := by
  have hrefresh := refreshed_refreshTtdTimeline
    { { t with gPaused := true }.updateTtdCursorIdentity with gTtdWatchHit := none }
  exact ⟨hrefresh.bps, hrefresh.noted, hrefresh.cursor, hrefresh.stop, hrefresh.interrupt,
    hrefresh.queued⟩

/-- The hit that the replays of a run leave is one that some breakpoint answers for. -/
theorem replayRun_sound (answers : RunAnswers) (reverse : Bool) (t : TtdSession) :
    ∀ hit, (t.replayRun answers reverse).1.gTtdWatchHit = some hit → t.Answers hit := by
  have hrun := replayed_replayRun answers reverse { t with gTtdWatchHit := none }
  refine hrun.sound fun hit hhit => ?_
  cases hhit

/-- A run queues events of the timeline and then its report; the cursor and the
observer's record are as the parking stage leaves them. -/
theorem runTtd_outcome (answers : RunAnswers) (reverse : Bool) {t : TtdSession}
    (hstop : t.gTtdStopRequested = false) :
    let run := t.replayRun answers reverse
    let parked := run.1.parkRun answers reverse run.2.1 run.2.2
    ∃ works work, (∀ work ∈ works, TtdWork.OfTimeline work) ∧
      Report t reverse run.1.gTtdWatchHit run.2.2 (run.1.gTtdInterruptRequested ||
        decide (PauseStep.raise ∈ answers.requests.beforeParking) ||
        decide (PauseStep.raise ∈ answers.requests.beforeExchange)) work ∧
      (t.runTtd answers reverse).1.queue = t.queue ++ (works ++ [work]) ∧
      (t.runTtd answers reverse).1.noted = parked.noted ∧
      (t.runTtd answers reverse).1.cursor = parked.cursor := by
  intro run parked
  have hrun : t.Replayed run.1 := replayed_replayRun answers reverse t
  have hstop' : run.1.gTtdStopRequested = false := hrun.stop.trans hstop
  have hpark : ParkOutcome answers (TakenForExit answers reverse run.2.1 run.2.2 run.1) run.1 parked :=
    parkRun_outcome answers reverse run.2.1 run.2.2 hstop'
  have hbps : parked.bps = t.bps := hpark.bps.trans hrun.bps
  have hsettle := settleRun_outcome parked
  have hsettled : parked.settleRun.1.bps = t.bps := hsettle.bps.trans hbps
  have hflag : parked.settleRun.1.gTtdInterruptRequested =
      (run.1.gTtdInterruptRequested || decide (PauseStep.raise ∈ answers.requests.beforeParking)) :=
    hsettle.interrupt.trans hpark.interrupt
  have hsound : ∀ hit, run.1.gTtdWatchHit = some hit → parked.settleRun.1.Answers hit :=
    fun hit hhit => (answers_congr hsettled hit).mpr (replayRun_sound answers reverse t hit hhit)
  obtain ⟨works, hworks, hqueue⟩ := hsettle.queued
  obtain ⟨s, interrupt, work, hreport, heq⟩ := reportRun_outcome answers reverse run.2.1 run.2.2
    (hsettle.stop.trans (hpark.stop.trans hstop')) hsound
  have hresult : (t.runTtd answers reverse).1 =
      (parked.settleRun.1.reportRun answers reverse run.2.1 run.1.gTtdWatchHit run.2.2).1 := by
    rw [← hpark.hit]
    rfl
  rw [heq] at hresult
  rw [hflag] at hreport
  refine ⟨works, work, hworks, hreport.congr hsettled, ?_, ?_, ?_⟩
  · rw [hresult, ← List.append_assoc, ← hrun.queue, ← hpark.queue, ← hqueue]
  · rw [hresult]
    exact hsettle.noted
  · rw [hresult]
    exact hsettle.cursor

end TtdSession

end TitanEngine

import TitanEngine.Effects.Course
import TitanEngine.Model.ReplayLoop
import TitanEngine.Replay.Failures

/-! What the loop of a replay goes by, and what the movements of the trace and the calls of the
client do to it: they add to the queue, and turn the direction of the next run. -/
namespace TitanEngine

/-- Work that reports where the replay stopped, rather than threads and modules. -/
def TtdWork.isStop : TtdWork → Bool
  | .createProcess .. | .createThread .. | .exitThread .. | .loadModule .. | .unloadModule .. => false
  | _ => true

theorem TtdWork.OfTimeline.not_isStop {work : TtdWork} (h : work.OfTimeline) : work.isStop = false := by
  cases work with
  | createThread | exitThread | loadModule | unloadModule => rfl
  | _ => exact absurd h id

/-- The part of the session that steers the loop, but for the queue. -/
def Session.helm (s : Session) : TitanSessionKind × Bool × Bool × ExecutionStatus × StepTables × Bool :=
  (s.gSessionKind, s.gIsDebugging, s.gPaused, s.gNextExecutionStatus, s.steps, s.gTtdCursor.isSome)

theorem Session.helm_eq {s s' : Session} (h : s'.course = s.course)
    (hcursor : s'.gTtdCursor.isSome = s.gTtdCursor.isSome) : s'.helm = s.helm := by
  have hcourse := course_field_eq (fun s => (s.gSessionKind, s.gIsDebugging, s.gPaused,
    s.gNextExecutionStatus, s.steps)) (fun _ => rfl) h
  simp only [Prod.mk.injEq] at hcourse
  simp only [helm, hcursor, hcourse]

theorem Session.helm_addMemoryWatchpoint (env : Env) (data : MemoryWatchpointData) (s : Session) :
    (s.addMemoryWatchpoint env data).1.helm = s.helm := by
  refine helm_eq (course_addMemoryWatchpoint env data s) ?_
  unfold addMemoryWatchpoint
  split
  · rename_i hsome
    split
    · simp [hsome]
    · rfl
  · rfl

theorem Session.helm_removeMemoryWatchpoint (env : Env) (data : MemoryWatchpointData) (s : Session) :
    (s.removeMemoryWatchpoint env data).1.helm = s.helm := by
  refine helm_eq (course_removeMemoryWatchpoint env data s) ?_
  unfold removeMemoryWatchpoint
  split
  · rename_i hsome
    split
    · simp [hsome]
    · rfl
  · rfl

theorem Session.helm_removeMemoryBreakpointById {s : Session} (h : s.gSessionKind = .ttd) (env : Env)
    (id : ULONG64) : (s.removeMemoryBreakpointById env id).1.helm = s.helm := by
  unfold removeMemoryBreakpointById
  split
  · rfl
  · rename_i breakpoint _
    have hremove := helm_removeMemoryWatchpoint env
      ⟨breakpoint.start, breakpoint.size, ttdMemoryWatchMask breakpoint.type⟩ s
    rw [if_pos h]
    split
    · rename_i heq
      rw [heq] at hremove
      exact hremove
    · rename_i heq
      rw [heq] at hremove
      exact hremove

theorem Session.helm_addTtdSoftwareBreakpoint (env : Env) (address : ULONG_PTR)
    (callback : Option Callback) (oneShot : Bool) (thread : ULONG) (s : Session) :
    (s.addTtdSoftwareBreakpoint env address callback oneShot thread).1.helm = s.helm := by
  have hadd := helm_addMemoryWatchpoint env ⟨address, 1, ACCESS_EXECUTE⟩ s
  unfold addTtdSoftwareBreakpoint
  split
  · rename_i heq
    rw [heq] at hadd
    exact hadd
  · rename_i heq
    rw [heq] at hadd
    exact hadd

namespace TtdSession

/-- The session's part, the direction of the next run, and whether a stop is requested. -/
def helm (t : TtdSession) :=
  (t.toSession.helm, t.gTtdNextRunReverse, t.gTtdStopRequested)

/-- From `t` to `t'` nothing that steers the loop changes, and at most `n` stops are queued. -/
structure Adds (n : ℕ) (t t' : TtdSession) : Prop where
  helm : t'.helm = t.helm
  queued : ∃ works : List TtdWork, works.countP TtdWork.isStop ≤ n ∧ t'.queue = t.queue ++ works

namespace Adds
variable {n m : ℕ} {t t' t'' : TtdSession}

theorem refl (t : TtdSession) : Adds 0 t t := ⟨rfl, [], by simp, by simp⟩

theorem trans (h : Adds n t t') (h' : Adds m t' t'') : Adds (n + m) t t'' := by
  obtain ⟨works, hworks, hqueue⟩ := h.queued
  obtain ⟨works', hworks', hqueue'⟩ := h'.queued
  refine ⟨h'.helm.trans h.helm, works ++ works', ?_, ?_⟩
  · rw [List.countP_append]
    omega
  · rw [hqueue', hqueue, List.append_assoc]

theorem mono (h : Adds n t t') (hnm : n ≤ m) : Adds m t t' := by
  obtain ⟨works, hworks, hqueue⟩ := h.queued
  exact ⟨h.helm, works, hworks.trans hnm, hqueue⟩

theorem of_helm (hhelm : t'.helm = t.helm) (hqueue : t'.queue = t.queue) : Adds 0 t t' :=
  ⟨hhelm, [], by simp, by simp [hqueue]⟩

theorem kept (h : Adds n t t') (hhelm : t''.helm = t'.helm) (hqueue : t''.queue = t'.queue) :
    Adds n t t'' := h.trans (.of_helm hhelm hqueue)

theorem of_refreshed (h : t.Refreshed t') : Adds 0 t t' := by
  obtain ⟨works, hworks, hqueue⟩ := h.queued
  refine ⟨h.field_eq TtdSession.helm fun _ _ _ _ _ _ _ => rfl, works, ?_, hqueue⟩
  rw [Nat.le_zero, List.countP_eq_zero]
  intro work hwork
  simp [(hworks work hwork).not_isStop]

theorem of_queued (work : TtdWork) (t : TtdSession) : Adds 1 t (t.queueCallback work) :=
  ⟨rfl, [work], List.countP_le_length, rfl⟩

end Adds

theorem replayAttempt_eq (answer : ReplayAnswer) (setPositionOnThread : ULONG → TtdPosition → TtdCursor)
    (before : TtdPosition) (t : TtdSession) :
    ∃ hit cursor, (t.replayAttempt answer setPositionOnThread before).1 =
      { t with gTtdWatchHit := hit, cursor := cursor } := by
  obtain ⟨hit, heq⟩ := ttdReplay_eq answer { t with gTtdWatchHit := none }
  unfold replayAttempt
  dsimp only
  rw [heq]
  split
  · exact ⟨_, _, rfl⟩
  split
  · exact ⟨_, _, rfl⟩
  split
  · exact ⟨_, _, rfl⟩
  · exact ⟨_, _, rfl⟩

theorem replayAttempts_eq (answer : ℕ → ReplayAnswer)
    (setPositionOnThread : ULONG → TtdPosition → TtdCursor) (before : TtdPosition) (t : TtdSession) :
    ∃ hit cursor, (t.replayAttempts answer setPositionOnThread before).1 =
      { t with gTtdWatchHit := hit, cursor := cursor } := by
  obtain ⟨hit, cursor, hfirst⟩ := replayAttempt_eq (answer 0) setPositionOnThread before t
  unfold replayAttempts
  split
  · rename_i heq
    rw [heq] at hfirst
    exact ⟨hit, cursor, hfirst⟩
  · rename_i again _ heq
    rw [heq] at hfirst
    obtain ⟨hit', cursor', hsecond⟩ := replayAttempt_eq (answer 1) setPositionOnThread before again
    have hfirst : again = { t with gTtdWatchHit := hit, cursor := cursor } := hfirst
    rw [hfirst] at hsecond
    exact ⟨hit', cursor', by rw [hfirst]; exact hsecond⟩

theorem helm_consumeSoftware (env : Env) (id : ULONG) (info : BreakpointInfo) (t : TtdSession) :
    (t.consumeSoftware env id info).helm = t.helm := by
  have hremove := Session.helm_removeMemoryWatchpoint env ⟨info.offset, 1, ACCESS_EXECUTE⟩ t.toSession
  unfold consumeSoftware
  split
  · exact congrArg (fun x => (x, t.gTtdNextRunReverse, t.gTtdStopRequested)) hremove
  · rfl

theorem helm_consumeMemory {t : TtdSession} (h : t.gSessionKind = .ttd) (env : Env) (id : ULONG64)
    (info : MemoryBreakpointInfo) : (t.consumeMemory env id info).helm = t.helm := by
  have hremove := Session.helm_removeMemoryBreakpointById h env id
  unfold consumeMemory
  split
  · rfl
  · exact congrArg (fun x => (x, t.gTtdNextRunReverse, t.gTtdStopRequested)) hremove

/-- A hit is reported once, or not at all. -/
theorem queueTtdWatchpointHit_cases {t : TtdSession} (h : t.gSessionKind = .ttd) (env : Env)
    (hit : Option TtdWatchHit) :
    t.queueTtdWatchpointHit env hit = (t, false) ∨
      ∃ (u : TtdSession) (work : TtdWork), u.helm = t.helm ∧ u.queue = t.queue ∧ work.isStop = true ∧
        t.queueTtdWatchpointHit env hit = (u.queueCallback work, true) := by
  unfold queueTtdWatchpointHit
  split
  · exact .inl rfl
  split
  · exact .inr ⟨_, _, helm_consumeSoftware .., queue_consumeSoftware .., rfl, rfl⟩
  split
  · exact .inr ⟨_, _, helm_consumeMemory h .., queue_consumeMemory .., rfl, rfl⟩
  · exact .inl rfl

theorem kind_of_helm {t t' : TtdSession} (hhelm : t'.helm = t.helm) (h : t.gSessionKind = .ttd) :
    t'.gSessionKind = .ttd := (congrArg (fun x => x.1.1) hhelm).trans h

theorem adds_finishStep {t : TtdSession} (h : t.gSessionKind = .ttd) (env : Env)
    (stepCallBack : Option Callback) : Adds 1 t (t.finishStep env stepCallBack).1 := by
  have hstart : Adds 0 t { t with gTtdWatchHit := none }.refreshTtdTimeline :=
    have hclear : Adds 0 t { t with gTtdWatchHit := none } := .of_helm rfl rfl
    hclear.trans (.of_refreshed (refreshed_refreshTtdTimeline _))
  unfold finishStep
  dsimp only
  generalize { t with gTtdWatchHit := none }.refreshTtdTimeline = u at hstart ⊢
  obtain heq | ⟨v, work, hhelm, hqueue, -, heq⟩ :=
    queueTtdWatchpointHit_cases (kind_of_helm hstart.helm h) env t.gTtdWatchHit
  · rw [heq]
    cases stepCallBack with
    | none => exact hstart.mono (Nat.zero_le 1)
    | some callback => exact hstart.trans (.of_queued _ u)
  · rw [heq]
    have hhit : Adds 0 u v := .of_helm hhelm hqueue
    cases stepCallBack <;> exact hstart.trans (hhit.trans (.of_queued work v))

/-- A step that succeeds queues at most one stop, one that fails none. A step over a call turns
the next run forward. -/
theorem adds_replayStep {t : TtdSession} (h : t.gSessionKind = .ttd) (answers : StepAnswers)
    (reverse stepOver : Bool) (stepCallBack : Option Callback) :
    ∃ turned, (turned = t.gTtdNextRunReverse ∨ stepOver = true ∧ turned = false) ∧
      Adds (if (t.replayStep answers reverse stepOver stepCallBack).2 then 1 else 0)
        { t with gTtdNextRunReverse := turned }
        (t.replayStep answers reverse stepOver stepCallBack).1 := by
  obtain ⟨hit, cursor, hattempts⟩ :=
    replayAttempts_eq answers.attempt answers.setPositionOnThread t.cursor.position t
  have hrefused (error : DWORD) (u : TtdSession) (hhelm : u.helm = t.helm) (hqueue : u.queue = t.queue) :
      ∃ turned, (turned = t.gTtdNextRunReverse ∨ stepOver = true ∧ turned = false) ∧
        Adds (if (u.fail error).2 then 1 else 0) { t with gTtdNextRunReverse := turned }
          (u.fail error).1 :=
    ⟨_, .inl rfl, .of_helm hhelm hqueue⟩
  unfold replayStep
  split
  · exact hrefused _ t rfl rfl
  split
  · exact hrefused _ t rfl rfl
  split
  · exact hrefused _ t rfl rfl
  split
  · exact hrefused _ t rfl rfl
  dsimp only
  generalize t.replayAttempts answers.attempt answers.setPositionOnThread t.cursor.position = r
    at hattempts ⊢
  have hhelm : r.1.updateTtdCursorIdentity.helm = t.helm := by rw [hattempts]; rfl
  have hqueue : r.1.updateTtdCursorIdentity.queue = t.queue := by rw [hattempts]; rfl
  split
  · exact hrefused _ _ hhelm hqueue
  generalize r.1.updateTtdCursorIdentity = u at hhelm hqueue ⊢
  have hkind := kind_of_helm hhelm h
  have hhere : Adds 0 t u := .of_helm hhelm hqueue
  have hfinish : ∃ turned, (turned = t.gTtdNextRunReverse ∨ stepOver = true ∧ turned = false) ∧
      Adds (if (u.finishStep answers.base stepCallBack).2 then 1 else 0)
        { t with gTtdNextRunReverse := turned } (u.finishStep answers.base stepCallBack).1 := by
    rw [finishStep_reports, if_pos rfl]
    exact ⟨_, .inl rfl, hhere.trans (adds_finishStep hkind answers.base stepCallBack)⟩
  cases stepOver with
  | false => simpa using hfinish
  | true =>
    rw [if_pos rfl]
    generalize stepOverProbe answers t.cursor.thread.uniqueId r.2.2 = returnAddress
    split
    · -- The step is a call: a breakpoint waits at its return, unless there is one.
      have hadd := Session.helm_addTtdSoftwareBreakpoint answers.base returnAddress stepCallBack true
        t.cursor.thread.uniqueId u.toSession
      generalize u.toSession.addTtdSoftwareBreakpoint answers.base returnAddress stepCallBack true
        t.cursor.thread.uniqueId = added at hadd ⊢
      have hwith : ({ u with toSession := added.1 } : TtdSession).helm = t.helm :=
        (congrArg (fun x => (x, u.gTtdNextRunReverse, u.gTtdStopRequested)) hadd).trans hhelm
      have hforward (v : TtdSession) (hv : v.helm = t.helm) (hw : v.queue = t.queue) :
          Adds 0 { t with gTtdNextRunReverse := false }
            { v with gTtdNextRunReverse := false, gTtdWatchHit := none }.refreshTtdTimeline := by
        have hturn : Adds 0 { t with gTtdNextRunReverse := false }
            { v with gTtdNextRunReverse := false, gTtdWatchHit := none } :=
          .of_helm (congrArg (fun x => (x.1, false, x.2.2)) hv) hw
        exact hturn.trans (.of_refreshed (refreshed_refreshTtdTimeline _))
      by_cases hthere : (u.findSoftware returnAddress).isSome = true
      · simp only [if_pos hthere, Bool.not_true, Bool.false_eq_true, if_false, if_true]
        exact ⟨false, .inr ⟨trivial, rfl⟩, (hforward u hhelm hqueue).mono (Nat.zero_le 1)⟩
      · rw [if_neg hthere]
        split
        · exact ⟨_, .inl rfl, .of_helm hwith hqueue⟩
        · exact ⟨false, .inr ⟨rfl, rfl⟩, (hforward _ hwith hqueue).mono (Nat.zero_le 1)⟩
    · exact hfinish

theorem adds_ttdStep {t : TtdSession} (h : t.gSessionKind = .ttd) (answers : StepAnswers)
    (stepOver : Bool) (stepCallBack : Option Callback) :
    ∃ turned, (turned = t.gTtdNextRunReverse ∨ stepOver = true ∧ turned = false) ∧
      Adds 1 { t with gTtdNextRunReverse := turned } (t.ttdStep answers stepOver stepCallBack) := by
  obtain ⟨turned, hturned, hadds⟩ := adds_replayStep h answers false stepOver stepCallBack
  refine ⟨turned, hturned, ?_⟩
  unfold ttdStep
  generalize t.replayStep answers false stepOver stepCallBack = r at hadds ⊢
  obtain ⟨u, succeeded⟩ := r
  cases succeeded with
  | true => cases stepCallBack <;> exact hadds
  | false =>
    cases stepCallBack with
    | none => exact hadds.mono (Nat.zero_le 1)
    | some callback => exact hadds.trans (.of_queued _ u)

/-- Calls that move the cursor are let through: a replay is open, and it stands still. -/
structure Steerable (t : TtdSession) : Prop where
  kind : t.gSessionKind = .ttd
  cursor : t.gTtdCursor.isSome = true
  rests : t.gIsDebugging = true → t.gPaused = true

theorem Steerable.of_helm {t t' : TtdSession} (h : t.Steerable)
    (hhelm : t'.toSession.helm = t.toSession.helm) : t'.Steerable := by
  simp only [Session.helm, Prod.mk.injEq] at hhelm
  obtain ⟨hkind, hdebugging, hpaused, -, -, hcursor⟩ := hhelm
  exact ⟨hkind.trans h.kind, hcursor.trans h.cursor, by rw [hdebugging, hpaused]; exact h.rests⟩

end TtdSession

/-- What a call may make of the direction of the next run. -/
def ReplayCall.Turns (call : ReplayCall) (before after : Bool) : Prop :=
  match call with
  | replayRunBack => after = true
  | step _ true _ => after = before ∨ after = false
  | _ => after = before

def ReplayCall.stops : ReplayCall → Bool
  | stopDebug => true
  | _ => false

namespace TtdSession

theorem adds_replaySetPosition (requested : TtdPosition) (reached : TtdCursor) (t : TtdSession) :
    Adds 0 t (t.replaySetPosition requested reached).1 := by
  unfold replaySetPosition
  split
  · exact .of_helm rfl rfl
  split
  · exact .of_helm rfl rfl
  dsimp only
  split
  · exact .of_helm rfl rfl
  · have harrives : Adds 0 t { t with cursor := reached }.updateTtdCursorIdentity := .of_helm rfl rfl
    exact harrives.trans (.of_refreshed (refreshed_refreshTtdTimeline _))

theorem adds_createSyntheticTitanHandle (type : TitanHandleType) (dbgengId : ULONG)
    (systemId : DWORD) (callerOwned : Bool) (t : TtdSession) :
    Adds 0 t (t.createSyntheticTitanHandle type dbgengId systemId callerOwned).1 := by
  dsimp only [createSyntheticTitanHandle]
  unfold registerTitanHandle
  split
  · exact .of_helm rfl rfl
  · exact .of_helm rfl rfl

/-- A call queues a stop only if it steps. -/
theorem adds_call (call : ReplayCall) {t : TtdSession} (h : t.Steerable) :
    ∃ turned, call.Turns t.gTtdNextRunReverse turned ∧
      Adds (if call.isStep then 1 else 0)
        { t with gTtdNextRunReverse := turned
                 gTtdStopRequested := t.gTtdStopRequested || call.stops } (call.run t) := by
  have hsame (hstops : call.stops = false) (n : ℕ) (h : Adds n t (call.run t)) :
      Adds n { t with gTtdStopRequested := t.gTtdStopRequested || call.stops } (call.run t) := by
    rwa [hstops, Bool.or_false]
  cases call with
  | replaySetPosition requested reached =>
    exact ⟨_, rfl, hsame rfl 0 (adds_replaySetPosition requested reached t)⟩
  | replayStepBack answers stepCallBack =>
    obtain ⟨turned, hturned, hadds⟩ := adds_replayStep h.kind answers true false stepCallBack
    obtain rfl : turned = t.gTtdNextRunReverse := hturned.resolve_right (by simp)
    refine ⟨_, rfl, hsame rfl 1 (hadds.mono ?_)⟩
    split <;> omega
  | step answers stepOver stepCallBack =>
    obtain ⟨turned, hturned, hadds⟩ := adds_ttdStep h.kind answers stepOver stepCallBack
    refine ⟨turned, ?_, ?_⟩
    · cases stepOver with
      | false => exact hturned.resolve_right (by simp)
      | true => exact hturned.imp_right And.right
    · have hstops : (ReplayCall.step answers stepOver stepCallBack).stops = false := rfl
      rw [hstops, Bool.or_false]
      exact hadds
  | replayRunBack =>
    refine ⟨true, rfl, ?_⟩
    have hbusy : ¬ (t.gIsDebugging = true ∧ ¬ t.gPaused = true) := fun hb => hb.2 (h.rests hb.1)
    have hopen : ¬ (t.gSessionKind ≠ .ttd ∨ t.gTtdCursor = none) := by
      have hcursor := h.cursor
      rintro (hkind | hnone)
      · exact hkind h.kind
      · simp [hnone] at hcursor
    simp only [ReplayCall.run, replayRunBack, if_neg hopen, if_neg hbusy, ReplayCall.stops,
      Bool.or_false]
    exact (Adds.of_helm rfl rfl).mono (Nat.zero_le _)
  | titanOpenProcess dwProcessId =>
    refine ⟨_, rfl, hsame rfl 0 ?_⟩
    simp only [ReplayCall.run, titanOpenProcess]
    split
    · exact .of_helm rfl rfl
    · exact (adds_createSyntheticTitanHandle ..).kept rfl rfl
  | titanOpenThread threads dwThreadId =>
    refine ⟨_, rfl, hsame rfl 0 ?_⟩
    simp only [ReplayCall.run, titanOpenThread]
    split
    · exact .refl t
    · exact .of_helm rfl rfl
    · exact (adds_createSyntheticTitanHandle ..).kept rfl rfl
  | titanCloseHandle hEngineHandle closed =>
    refine ⟨_, rfl, hsame rfl 0 ?_⟩
    simp only [ReplayCall.run, titanCloseHandle]
    split
    · exact .of_helm rfl rfl
    split
    · exact .of_helm rfl rfl
    split
    · exact .of_helm rfl rfl
    · exact .refl t
  | breakpoints bps watchpoints =>
    refine ⟨_, rfl, hsame rfl 0 (.of_helm ?_ rfl)⟩
    have hcursor := h.cursor
    simp [ReplayCall.run, helm, Session.helm, hcursor]
  | setNextDbgContinueStatus code =>
    refine ⟨_, rfl, hsame rfl 0 (.of_helm ?_ rfl)⟩
    simp only [ReplayCall.run, Session.setNextDbgContinueStatus]
    split <;> rfl
  | requestPause callback =>
    refine ⟨_, rfl, hsame rfl 0 ?_⟩
    simp only [ReplayCall.run, requestPause]
    split
    · exact .of_helm rfl rfl
    split
    · exact .refl t
    · obtain ⟨callback', interrupt, heq⟩ := pauseSteps_eq [.claim callback, .raise, .interruptReplay] t
      simp only [heq]
      exact .of_helm rfl rfl
  | stopDebug =>
    refine ⟨_, rfl, ?_⟩
    simp only [ReplayCall.run, ReplayCall.stops, Bool.or_true]
    exact .of_helm rfl rfl

theorem helm_makeCalls (calls : List ReplayCall) {t : TtdSession} (h : t.Steerable) :
    (t.makeCalls calls).toSession.helm = t.toSession.helm := by
  induction calls generalizing t with
  | nil => rfl
  | cons call calls ih =>
    obtain ⟨turned, -, hadds⟩ := adds_call call h
    have hcall : (call.run t).toSession.helm = t.toSession.helm := congrArg Prod.fst hadds.helm
    exact (ih (h.of_helm hcall)).trans hcall

/-- A call that does not move the cursor leaves the queue alone, and the thread at the cursor. -/
theorem still_call {call : ReplayCall} (h : call.isMove = false) (t : TtdSession) :
    ((call.run t).queue, (call.run t).gTtdCurrentThreadId) = (t.queue, t.gTtdCurrentThreadId) := by
  cases call with
  | replaySetPosition | replayStepBack | step => cases h
  | replayRunBack =>
    simp only [ReplayCall.run, replayRunBack]
    split
    · rfl
    · split <;> rfl
  | titanOpenProcess dwProcessId =>
    simp only [ReplayCall.run, titanOpenProcess, createSyntheticTitanHandle, registerTitanHandle]
    split
    · rfl
    · dsimp only
      split <;> rfl
  | titanOpenThread threads dwThreadId =>
    simp only [ReplayCall.run, titanOpenThread, createSyntheticTitanHandle, registerTitanHandle]
    split
    · rfl
    · rfl
    · dsimp only
      split <;> rfl
  | titanCloseHandle hEngineHandle closed =>
    simp only [ReplayCall.run, titanCloseHandle]
    split
    · rfl
    split
    · rfl
    split <;> rfl
  | breakpoints | setNextDbgContinueStatus | stopDebug => rfl
  | requestPause callback =>
    simp only [ReplayCall.run, requestPause]
    split
    · rfl
    split
    · rfl
    · rfl

theorem parkRun_steady (answers : RunAnswers) (reverse : Bool) (stepCount : ULONG64)
    (event : Option ExceptionEvent) (t : TtdSession) :
    (t.parkRun answers reverse stepCount event).helm = t.helm ∧
      (t.parkRun answers reverse stepCount event).queue = t.queue := by
  obtain ⟨callback, interrupt, heq⟩ := pauseSteps_eq answers.requests.beforeParking t
  unfold parkRun
  rw [heq]
  dsimp only
  split
  · rw [parkAtExit_eq]
    split <;> exact ⟨rfl, rfl⟩
  · exact ⟨rfl, rfl⟩

theorem settleRun_steady (t : TtdSession) :
    t.settleRun.1.helm = { t with gPaused := true }.helm ∧
      ∃ works : List TtdWork, (∀ work ∈ works, work.isStop = false) ∧
        t.settleRun.1.queue = t.queue ++ works := by
  have hrefresh := refreshed_refreshTtdTimeline
    { { t with gPaused := true }.updateTtdCursorIdentity with gTtdWatchHit := none }
  obtain ⟨works, hworks, hqueue⟩ := hrefresh.queued
  have hhelm := hrefresh.field_eq TtdSession.helm fun _ _ _ _ _ _ _ => rfl
  exact ⟨hhelm, works, fun work hwork => (hworks work hwork).not_isStop, hqueue⟩

/-- The last stage queues one stop, or none when a stop of the session is requested. -/
theorem reportRun_steady {t : TtdSession} (h : t.gSessionKind = .ttd) (answers : RunAnswers)
    (reverse : Bool) (stepCount : ULONG64) (hit : Option TtdWatchHit) (event : Option ExceptionEvent) :
    (t.reportRun answers reverse stepCount hit event).1.helm = t.helm ∧
      ∃ tail : List TtdWork, (t.reportRun answers reverse stepCount hit event).1.queue = t.queue ++ tail ∧
        (t.gTtdStopRequested = true ∧ tail = [] ∨
          t.gTtdStopRequested = false ∧ ∃ work : TtdWork, work.isStop = true ∧ tail = [work]) := by
  cases hstop : t.gTtdStopRequested with
  | true =>
    unfold reportRun
    rw [if_pos hstop]
    exact ⟨rfl, [], by simp, .inl ⟨rfl, rfl⟩⟩
  | false =>
    suffices hreport : (t.reportRun answers reverse stepCount hit event).1.helm = t.helm ∧
        ∃ work : TtdWork, work.isStop = true ∧
          (t.reportRun answers reverse stepCount hit event).1.queue = t.queue ++ [work] by
      obtain ⟨hhelm, work, hwork, hqueue⟩ := hreport
      exact ⟨hhelm, [work], hqueue, .inr ⟨rfl, work, hwork, rfl⟩⟩
    obtain ⟨callback, interrupt, heq⟩ := pauseSteps_eq answers.requests.beforeExchange t
    unfold reportRun
    rw [if_neg (by simp [hstop]), heq]
    dsimp only
    split
    · obtain ⟨callback', interrupt', heq'⟩ := pauseSteps_eq answers.requests.beforeCallback
        { t with gPauseCallback := callback, gTtdInterruptRequested := false }
      rw [heq']
      exact ⟨rfl, _, rfl, rfl⟩
    · generalize hu : { t with gPauseCallback := callback, gTtdInterruptRequested := interrupt } = u
      have hhelm : u.helm = t.helm := by rw [← hu]; rfl
      have hqueue : u.queue = t.queue := by rw [← hu]
      obtain hnone | ⟨v, work, hv, hw, hwork, hsome⟩ :=
        queueTtdWatchpointHit_cases (kind_of_helm hhelm h) answers.base hit
      · rw [hnone]
        cases event with
        | none => exact ⟨hhelm, if reverse then .boundary else .exitProcess, by cases reverse <;> rfl,
            by rw [← hqueue]; rfl⟩
        | some event =>
          obtain ⟨work, hwork, hqueued⟩ := queueException_eq event u
          dsimp only
          rw [hqueued]
          refine ⟨hhelm, work, ?_, by rw [← hqueue]; rfl⟩
          cases work <;> simp_all [TtdWork.event?, TtdWork.isStop]
      · rw [hsome]
        exact ⟨hv.trans hhelm, work, hwork, by rw [← hqueue, ← hw]; rfl⟩

/-- A run hands the cursor back paused. It queues what the timeline brings, and then one stop,
unless a stop of the session is requested by its end. -/
theorem runTtdUnder_steady {t : TtdSession} (h : t.gSessionKind = .ttd) (answers : RunAnswers)
    (reverse : Bool) (stop : Option StopPoint) :
    (t.runTtdUnder answers reverse stop).1.helm =
        { t with gPaused := true, gTtdStopRequested := t.gTtdStopRequested || stop.isSome }.helm ∧
      ∃ works tail : List TtdWork, (∀ work ∈ works, work.isStop = false) ∧
        (t.runTtdUnder answers reverse stop).1.queue = t.queue ++ (works ++ tail) ∧
        ((t.gTtdStopRequested || stop.isSome) = true ∧ tail = [] ∨
          (t.gTtdStopRequested || stop.isSome) = false ∧
            ∃ work : TtdWork, work.isStop = true ∧ tail = [work]) := by
  have hrun := replayed_replayRun answers reverse t
  have hmoved := hrun.field_eq (fun t => { t with gPaused := true }.helm) fun _ _ _ _ _ _ => rfl
  have hqueue := hrun.queue
  unfold runTtdUnder
  dsimp only
  generalize t.replayRun answers reverse = r at hmoved hqueue ⊢
  obtain ⟨hparked, hparkedQueue⟩ := parkRun_steady answers reverse r.2.1 r.2.2
    (r.1.stopIf (stop = some StopPoint.beforeParking))
  generalize (r.1.stopIf (stop = some StopPoint.beforeParking)).parkRun answers reverse r.2.1 r.2.2 =
    parked at hparked hparkedQueue ⊢
  obtain ⟨hsettled, works, hworks, hsettledQueue⟩ := settleRun_steady parked
  generalize parked.settleRun = settled at hsettled hsettledQueue ⊢
  have hhalted : (settled.1.stopIf (stop = some StopPoint.beforeReport)).helm =
      { t with gPaused := true, gTtdStopRequested := t.gTtdStopRequested || stop.isSome }.helm := by
    have hpaused := congrArg (fun x => ((x.1.1, x.1.2.1, true, x.1.2.2.2), x.2)) hparked
    simp only [helm, Session.helm, stopIf, Prod.mk.injEq] at hmoved hpaused hsettled ⊢
    cases stop with
    | none => simp_all
    | some point => cases point <;> simp_all
  obtain ⟨hreported, tail, htail, hcases⟩ := reportRun_steady
    (kind_of_helm (t := { t with gPaused := true
                                 gTtdStopRequested := t.gTtdStopRequested || stop.isSome }) hhalted h)
    answers reverse r.2.1 settled.2 r.2.2
  have hstop : (settled.1.stopIf (stop = some StopPoint.beforeReport)).gTtdStopRequested =
      (t.gTtdStopRequested || stop.isSome) := congrArg (fun x => x.2.2) hhalted
  refine ⟨hreported.trans hhalted, works, tail, hworks, ?_, ?_⟩
  · rw [htail, ← List.append_assoc, ← hqueue]
    exact congrArg (· ++ tail) (hsettledQueue.trans (congrArg (· ++ works) hparkedQueue))
  · rwa [hstop] at hcases

end TtdSession

end TitanEngine

import TitanEngine.Replay.Boundary
import TitanEngine.Replay.Handles
import TitanEngine.Replay.Modules

/-! What a movement that fails leaves behind: the engine has moved the cursor before the
adapter looks whether it got where it was to go. -/
namespace TitanEngine

/-- The same position on the same thread, as far as the client can tell. -/
def TtdCursor.SameAs (cursor cursor' : TtdCursor) : Prop :=
  cursor.position = cursor'.position ∧ cursor.thread.id = cursor'.thread.id

namespace TtdSession

/-- What a failed movement leaves as it was. -/
structure Unmoved (t t' : TtdSession) : Prop where
  position : t'.cursor.position = t.cursor.position
  identity : t'.gTtdCurrentThreadId = t.gTtdCurrentThreadId
  records : t'.bps = t.bps
  timeline : t'.timeline = t.timeline

/-- The published thread, threads and modules are those at the cursor. -/
structure Consistent (t : TtdSession) : Prop where
  identity : t.gTtdCurrentThreadId = t.cursor.thread.id
  threads : ∀ index, index ∈ t.gDebugIdMap.threadIndexToHandle ↔
    ∃ info ∈ t.current.threads, info.uniqueId = index
  modules : t.gTtdActiveModules = mapModules t.current.modules

/-- The cursor may be moved now. -/
structure MayMove (t : TtdSession) : Prop where
  kind : t.gSessionKind = .ttd
  watches : t.gTtdCursor ≠ none
  rests : ¬ (t.gIsDebugging ∧ ¬ t.gPaused)

/-- The answer that decides a step: the first one, or the second one if the first is a
hit at the start of the step with nothing executed. -/
def decidingStep (attempt : ℕ → ReplayAnswer) (t : TtdSession) : ReplayAnswer :=
  match t.hitAfter (attempt 0) with
  | some hit =>
    if (attempt 0).stepsExecuted = 0 ∧ hit.position = t.cursor.position then attempt 1 else attempt 0
  | none => attempt 0

/-- A step that asks the engine twice. -/
def AsksAgain (attempt : ℕ → ReplayAnswer) (t : TtdSession) : Bool :=
  (t.hitAfter (attempt 0)).any fun hit =>
    (attempt 0).stepsExecuted = 0 ∧ hit.position = t.cursor.position

/-- Nothing was executed, and no hit was found elsewhere. -/
def Stuck (answer : ReplayAnswer) (t : TtdSession) : Prop :=
  answer.stepsExecuted = 0 ∧ ∀ hit, t.hitAfter answer = some hit → hit.position = t.cursor.position

/-- The step went over a call whose return cannot be watched for. -/
def Unwatched (answers : StepAnswers) (t : TtdSession) : Prop :=
  let returnAddress :=
    stepOverProbe answers t.cursor.thread.uniqueId (t.AsksAgain answers.attempt)
  returnAddress ≠ 0 ∧ t.hitAfter (t.decidingStep answers.attempt) = none ∧
    t.findSoftware returnAddress = none ∧ answers.base.addMemoryWatchpoint = false

end TtdSession

/-- The session that a call leaves when it fails. A run reports to no caller. -/
def TtdMove.failed (move : TtdMove) (t : TtdSession) : Option TtdSession :=
  let outcome :=
    match move with
    | setPosition requested reached => t.replaySetPosition requested reached
    | stepBack answers stepCallBack => t.replayStepBack answers stepCallBack
    | step answers stepOver stepCallBack => t.replayStep answers false stepOver stepCallBack
    | run _ => (t, true)
  if outcome.2 then none else some outcome.1

/-- The engine does not get to the position asked for, executes nothing, or cannot watch
for the return of the call that the step went over. -/
def TtdMove.Misses (move : TtdMove) (t : TtdSession) : Prop :=
  match move with
  | setPosition requested reached =>
    t.MayMove ∧ t.gTtdEngine.firstPosition ≤ requested ∧ requested ≤ t.gTtdEngine.lastPosition ∧
      reached.position ≠ requested
  | stepBack answers _ => t.MayMove ∧ t.Stuck (t.decidingStep answers.attempt)
  | step answers stepOver _ =>
    t.MayMove ∧ t.gTtdProcessExitBoundary ≠ some t.cursor.position ∧
      (t.Stuck (t.decidingStep answers.attempt) ∨ stepOver = true ∧ t.Unwatched answers)
  | run _ => False

/-- Where the engine leaves the cursor then. -/
def TtdMove.left (move : TtdMove) (t : TtdSession) : TtdCursor :=
  match move with
  | setPosition _ reached => reached
  | stepBack answers _ | step answers _ _ => (t.decidingStep answers.attempt).cursor
  | run _ => t.cursor

def TtdMove.LeavesCursor (move : TtdMove) (t : TtdSession) : Prop :=
  move.Misses t → (move.left t).SameAs t.cursor

/-- A call that fails has changed nothing, and the session fits together. -/
def TtdMove.FailsClean (move : TtdMove) (t : TtdSession) : Prop :=
  ∀ t', move.failed t = some t' → t.Unmoved t' ∧ t'.Consistent

namespace TtdSession

/-- One attempt, told by the answer: it comes to no step where it is stuck, and only a
hit elsewhere puts the cursor anywhere but where the answer left it. -/
theorem replayAttempt_told (answer : ReplayAnswer) (setPositionOnThread : ULONG → TtdPosition → TtdCursor)
    {t u : TtdSession} (hbps : u.bps = t.bps) :
    ((u.replayAttempt answer setPositionOnThread t.cursor.position).2.1 = 0 ↔ t.Stuck answer) ∧
      (t.Stuck answer ∨ t.hitAfter answer = none →
        (u.replayAttempt answer setPositionOnThread t.cursor.position).1.cursor = answer.cursor) := by
  have hhit := hitAfter_congr hbps answer
  obtain ⟨hit, heq⟩ := ttdReplay_eq answer { u with gTtdWatchHit := none }
  have hafter : t.hitAfter answer = hit := by
    rw [← hhit, hitAfter, heq]
  unfold replayAttempt Stuck
  rw [heq, hafter]
  dsimp only
  clear heq hafter hhit
  cases hit with
  | none => simp
  | some hit =>
    by_cases hsteps : answer.stepsExecuted = 0
    · by_cases hposition : hit.position = t.cursor.position
      · simp [hsteps, hposition]
      · simp [hsteps, hposition]
    · dsimp only
      rw [if_pos hsteps]
      exact ⟨iff_of_false hsteps fun h => hsteps h.1, fun _ => rfl⟩

/-- The attempts of a step, told by the answer that decides it. -/
structure StepOutcome (attempt : ℕ → ReplayAnswer) (t : TtdSession)
    (r : TtdSession × ULONG64 × Bool) : Prop where
  stuck : r.2.1 = 0 ↔ t.Stuck (t.decidingStep attempt)
  pending : r.1.gTtdWatchHit = t.hitAfter (t.decidingStep attempt)
  again : r.2.2 = t.AsksAgain attempt
  cursor : t.Stuck (t.decidingStep attempt) ∨ t.hitAfter (t.decidingStep attempt) = none →
    r.1.cursor = (t.decidingStep attempt).cursor

theorem replayAttempts_told (attempt : ℕ → ReplayAnswer)
    (setPositionOnThread : ULONG → TtdPosition → TtdCursor) (t : TtdSession) :
    t.StepOutcome attempt (t.replayAttempts attempt setPositionOnThread t.cursor.position) := by
  have hfirst := @replayAttempt_told (attempt 0) setPositionOnThread t t rfl
  have hhit := hit_replayAttempt (attempt 0) setPositionOnThread t.cursor.position t
  have hmoved := replayed_replayAttempt (attempt 0) setPositionOnThread t.cursor.position t
  have hagain : (t.replayAttempt (attempt 0) setPositionOnThread t.cursor.position).2.2 =
      t.AsksAgain attempt := by
    unfold AsksAgain
    cases hafter : t.hitAfter (attempt 0) with
    | none => rw [(replayAttempt_free _ _ _ _ hafter).2]; rfl
    | some hit => exact replayAttempt_stale _ _ _ _ hafter
  unfold replayAttempts
  generalize t.replayAttempt (attempt 0) setPositionOnThread t.cursor.position = first
    at hfirst hhit hmoved hagain ⊢
  obtain ⟨u, stepCount, again⟩ := first
  cases again with
  | false =>
    have hdeciding : t.decidingStep attempt = attempt 0 := by
      unfold decidingStep
      unfold AsksAgain at hagain
      cases hafter : t.hitAfter (attempt 0) with
      | none => rfl
      | some hit =>
        rw [hafter] at hagain
        exact if_neg (of_decide_eq_false hagain.symm)
    constructor
    · rw [hdeciding]
      exact hfirst.1
    · rw [hdeciding]
      exact hhit
    · exact hagain
    · rw [hdeciding]
      exact hfirst.2
  | true =>
    have hdeciding : t.decidingStep attempt = attempt 1 := by
      unfold decidingStep
      unfold AsksAgain at hagain
      cases hafter : t.hitAfter (attempt 0) with
      | none =>
        rw [hafter] at hagain
        cases hagain
      | some hit =>
        rw [hafter] at hagain
        exact if_pos (of_decide_eq_true hagain.symm)
    have hsecond := @replayAttempt_told (attempt 1) setPositionOnThread t u hmoved.bps
    constructor
    · rw [hdeciding]
      exact hsecond.1
    · rw [hdeciding]
      exact (hit_replayAttempt _ _ _ _).trans (hitAfter_congr hmoved.bps _)
    · exact hagain
    · rw [hdeciding]
      exact hsecond.2

/-- A failure that leaves the cursor at a place. -/
structure StoppedAt (t t' : TtdSession) (cursor : TtdCursor) : Prop where
  left : t'.cursor = cursor
  identity : t'.gTtdCurrentThreadId = t.gTtdCurrentThreadId ∨ t'.gTtdCurrentThreadId = cursor.thread.id
  records : t'.bps = t.bps
  timeline : t'.timeline = t.timeline

theorem stoppedAt_fail (error : DWORD) (t : TtdSession) : t.StoppedAt (t.fail error).1 t.cursor :=
  ⟨rfl, .inl rfl, rfl, rfl⟩

/-- Nothing has changed but the cursor, so everything fits if the cursor is where it was. -/
theorem StoppedAt.clean_iff {t t' : TtdSession} {cursor : TtdCursor} (h : t.StoppedAt t' cursor)
    (hconsistent : t.Consistent) : t.Unmoved t' ∧ t'.Consistent ↔ cursor.SameAs t.cursor := by
  obtain ⟨hcursor, hidentity, hrecords, htimeline⟩ := h
  constructor
  · rintro ⟨hunmoved, hconsistent'⟩
    constructor
    · rw [← hcursor]
      exact hunmoved.position
    · rw [← hcursor, ← hconsistent'.identity, ← hconsistent.identity]
      exact hunmoved.identity
  · rintro ⟨hposition, hthread⟩
    have hidentity' : t'.gTtdCurrentThreadId = t.gTtdCurrentThreadId := by
      obtain hsame | hnew := hidentity
      · exact hsame
      · rw [hnew, hthread, hconsistent.identity]
    have hposition' : t'.cursor.position = t.cursor.position := by
      rw [hcursor, hposition]
    have hkept := Carried.of_timeline htimeline
    have hcurrent := current_congr hkept.engine hposition'
    refine ⟨⟨hposition', hidentity', hrecords, htimeline⟩, ?_, ?_, ?_⟩
    · rw [hidentity', hcursor, hthread]
      exact hconsistent.identity
    · rw [hkept.ids, hcurrent]
      exact hconsistent.threads
    · rw [hkept.modules, hcurrent]
      exact hconsistent.modules

/-- A step gets as far as asking the engine. -/
structure Steps (reverse stepOver : Bool) (t : TtdSession) : Prop extends t.MayMove where
  direction : ¬ (reverse = true ∧ stepOver = true)
  ahead : ¬ (¬ reverse = true ∧ t.gTtdProcessExitBoundary = some t.cursor.position)

theorem replayStep_refused {answers : StepAnswers} {reverse stepOver : Bool}
    {stepCallBack : Option Callback} {t : TtdSession} (h : ¬ t.Steps reverse stepOver) :
    ∃ error, t.replayStep answers reverse stepOver stepCallBack = t.fail error := by
  unfold replayStep
  split
  · exact ⟨_, rfl⟩
  rename_i hsession
  rw [not_or, not_not] at hsession
  split
  · exact ⟨_, rfl⟩
  rename_i hdirection
  split
  · exact ⟨_, rfl⟩
  rename_i hrests
  split
  · exact ⟨_, rfl⟩
  rename_i hahead
  exact absurd ⟨⟨hsession.1, hsession.2, hrests⟩, hdirection, hahead⟩ h

theorem addTtdSoftwareBreakpoint_refused {env : Env} (address : ULONG_PTR)
    (callback : Option Callback) (thread : ULONG) {t : TtdSession} (hcursor : t.gTtdCursor ≠ none)
    (hadds : env.addMemoryWatchpoint = false) :
    t.toSession.addTtdSoftwareBreakpoint env address callback true thread =
      t.toSession.fail ERROR_GEN_FAILURE := by
  obtain ⟨watchpoints, hsome⟩ := Option.ne_none_iff_exists'.mp hcursor
  unfold Session.addTtdSoftwareBreakpoint Session.addMemoryWatchpoint
  simp only [hsome, hadds, Bool.false_eq_true, if_false]

theorem finishStep_reports (env : Env) (stepCallBack : Option Callback) (t : TtdSession) :
    (t.finishStep env stepCallBack).2 = true := by
  unfold finishStep
  dsimp only
  split <;> rfl

/-- A step fails exactly where it misses, and then the cursor is where the deciding answer
left it. -/
theorem replayStep_told {answers : StepAnswers} {reverse stepOver : Bool}
    (stepCallBack : Option Callback) {t : TtdSession} (h : t.Steps reverse stepOver) :
    (t.replayStep answers reverse stepOver stepCallBack).2 = true ∧
        ¬ (t.Stuck (t.decidingStep answers.attempt) ∨ stepOver = true ∧ t.Unwatched answers) ∨
      (t.replayStep answers reverse stepOver stepCallBack).2 = false ∧
        (t.Stuck (t.decidingStep answers.attempt) ∨ stepOver = true ∧ t.Unwatched answers) ∧
        t.StoppedAt (t.replayStep answers reverse stepOver stepCallBack).1
          (t.decidingStep answers.attempt).cursor := by
  obtain ⟨⟨hkind, hwatches, hrests⟩, hdirection, hahead⟩ := h
  have hsession : ¬ (t.gSessionKind ≠ .ttd ∨ t.gTtdCursor = none) := by
    rw [not_or, not_not]
    exact ⟨hkind, hwatches⟩
  have htold := replayAttempts_told answers.attempt answers.setPositionOnThread t
  have hrun := replayed_replayAttempts answers.attempt answers.setPositionOnThread t.cursor.position t
  have hcursor := hrun.field_eq (fun t => t.gTtdCursor) fun _ _ _ _ _ _ => rfl
  have hthread := hrun.field_eq (fun t => t.gTtdCurrentThreadId) fun _ _ _ _ _ _ => rfl
  have htimeline := hrun.field_eq timeline fun _ _ _ _ _ _ => rfl
  have hbps := hrun.bps
  unfold replayStep
  rw [if_neg hsession, if_neg hdirection, if_neg hrests, if_neg hahead]
  dsimp only at hcursor hthread ⊢
  generalize t.replayAttempts answers.attempt answers.setPositionOnThread t.cursor.position = r
    at htold hcursor hthread htimeline hbps ⊢
  obtain ⟨hstuck, hpending, hagain, hleft⟩ := htold
  by_cases hzero : r.2.1 = 0
  · rw [if_pos hzero]
    have hstuck' := hstuck.mp hzero
    exact .inr ⟨rfl, .inl hstuck', hleft (.inl hstuck'), .inl hthread, hbps, htimeline⟩
  rw [if_neg hzero]
  have hmoves : ¬ t.Stuck (t.decidingStep answers.attempt) := fun h => hzero (hstuck.mpr h)
  cases stepOver with
  | false =>
    have hreports := finishStep_reports answers.base stepCallBack r.1.updateTtdCursorIdentity
    simp only [Bool.false_eq_true, if_false, ne_eq, not_true_eq_false, false_and, or_false]
    exact .inl ⟨hreports, hmoves⟩
  | true =>
    have hsame : r.1.updateTtdCursorIdentity.bps = t.bps := hbps
    have hcursor' : r.1.updateTtdCursorIdentity.gTtdCursor = t.gTtdCursor := hcursor
    have hpending' : r.1.updateTtdCursorIdentity.gTtdWatchHit = t.hitAfter (t.decidingStep answers.attempt) :=
      hpending
    have htimeline' : r.1.updateTtdCursorIdentity.timeline = t.timeline := htimeline
    have hidentity : r.1.updateTtdCursorIdentity.gTtdCurrentThreadId =
        r.1.updateTtdCursorIdentity.cursor.thread.id := rfl
    have hleft' : t.hitAfter (t.decidingStep answers.attempt) = none →
        r.1.updateTtdCursorIdentity.cursor = (t.decidingStep answers.attempt).cursor :=
      fun hnone => hleft (.inr hnone)
    unfold Unwatched
    rw [if_pos rfl, hagain]
    dsimp only
    generalize r.1.updateTtdCursorIdentity = u at hsame hcursor' hpending' htimeline' hidentity hleft' ⊢
    generalize stepOverProbe answers t.cursor.thread.uniqueId (t.AsksAgain answers.attempt) = returnAddress
    rw [← hpending'] at hleft' ⊢
    have hfound : u.findSoftware returnAddress = t.findSoftware returnAddress := by
      unfold Session.findSoftware
      rw [hsame]
    by_cases hcall : returnAddress ≠ 0 ∧ u.gTtdWatchHit = none
    · rw [if_pos hcall, hfound]
      cases hrecord : t.findSoftware returnAddress with
      | some record =>
        refine .inl ⟨rfl, ?_⟩
        rintro (hstuck' | ⟨-, -, -, hnone, -⟩)
        · exact hmoves hstuck'
        · cases hnone
      | none =>
        cases hadds : answers.base.addMemoryWatchpoint with
        | true =>
          have hadded := added_addTtdSoftwareBreakpoint returnAddress stepCallBack
            t.cursor.thread.uniqueId (hcursor'.symm ▸ hwatches : u.gTtdCursor ≠ none) hadds
          refine .inl ⟨?_, ?_⟩
          · simp [hadded]
          · rintro (hstuck' | ⟨-, -, -, -, hrefused⟩)
            · exact hmoves hstuck'
            · cases hrefused
        | false =>
          have hrefused := addTtdSoftwareBreakpoint_refused returnAddress stepCallBack
            t.cursor.thread.uniqueId (hcursor'.symm ▸ hwatches : u.gTtdCursor ≠ none) hadds
          refine .inr ⟨?_, .inr ⟨rfl, hcall.1, hcall.2, rfl, rfl⟩, ?_⟩
          · simp [hrefused, Session.fail]
          · simp only [Option.isSome_none, Bool.false_eq_true, if_false, hrefused, Session.fail,
              Bool.not_false, if_true]
            refine ⟨hleft' hcall.2, .inr ?_, hsame, htimeline'⟩
            rw [← hleft' hcall.2]
            exact hidentity
    · rw [if_neg hcall]
      refine .inl ⟨finishStep_reports _ _ u, ?_⟩
      rintro (hstuck' | ⟨-, hreturn, hnone, -⟩)
      · exact hmoves hstuck'
      · exact hcall ⟨hreturn, hnone⟩

/-- A seek, told the same way. -/
theorem replaySetPosition_told (requested : TtdPosition) (reached : TtdCursor) (t : TtdSession) :
    (t.replaySetPosition requested reached).2 = false ∧
        ¬ (TtdMove.setPosition requested reached).Misses t ∧
        t.StoppedAt (t.replaySetPosition requested reached).1 t.cursor ∨
      (t.replaySetPosition requested reached).2 = true ∧
        ¬ (TtdMove.setPosition requested reached).Misses t ∨
      (t.replaySetPosition requested reached).2 = false ∧
        (TtdMove.setPosition requested reached).Misses t ∧
        t.StoppedAt (t.replaySetPosition requested reached).1 reached := by
  unfold replaySetPosition
  split
  · rename_i hsession
    refine .inl ⟨rfl, fun h => ?_, stoppedAt_fail _ t⟩
    obtain ⟨⟨hkind, hwatches, -⟩, -⟩ := h
    exact hsession.elim (fun h => h hkind) hwatches
  rename_i hsession
  rw [not_or, not_not] at hsession
  split
  · rename_i hrange
    refine .inl ⟨rfl, fun h => ?_, stoppedAt_fail _ t⟩
    obtain ⟨⟨-, -, hrests⟩, hfirst, hlast, -⟩ := h
    obtain hrange | hrange | hrange := hrange
    · exact absurd hrange (not_lt.mpr hfirst)
    · exact absurd hrange (not_lt.mpr hlast)
    · exact hrests hrange
  rename_i hrange
  simp only [not_or, not_lt] at hrange
  dsimp only
  split
  · rename_i hmissed
    refine .inr (.inr ⟨rfl, ⟨⟨hsession.1, hsession.2, hrange.2.2⟩, hrange.1, hrange.2.1, hmissed⟩, ?_⟩)
    exact ⟨rfl, .inl rfl, rfl, rfl⟩
  · rename_i hreached
    exact .inr (.inl ⟨rfl, fun h => hreached h.2.2.2⟩)

theorem misses_stepBack_iff (answers : StepAnswers) (stepCallBack : Option Callback) (t : TtdSession) :
    (TtdMove.stepBack answers stepCallBack).Misses t ↔ t.Steps true false ∧
      (t.Stuck (t.decidingStep answers.attempt) ∨ false = true ∧ t.Unwatched answers) := by
  constructor
  · rintro ⟨hmay, hstuck⟩
    exact ⟨⟨hmay, fun h => Bool.false_ne_true h.2, fun h => h.1 rfl⟩, .inl hstuck⟩
  · rintro ⟨hsteps, hstuck | hover⟩
    · exact ⟨hsteps.toMayMove, hstuck⟩
    · exact absurd hover.1 Bool.false_ne_true

theorem misses_step_iff (answers : StepAnswers) (stepOver : Bool) (stepCallBack : Option Callback)
    (t : TtdSession) :
    (TtdMove.step answers stepOver stepCallBack).Misses t ↔ t.Steps false stepOver ∧
      (t.Stuck (t.decidingStep answers.attempt) ∨ stepOver = true ∧ t.Unwatched answers) := by
  constructor
  · rintro ⟨hmay, hboundary, hmisses⟩
    exact ⟨⟨hmay, fun h => Bool.false_ne_true h.1, fun h => hboundary h.2⟩, hmisses⟩
  · rintro ⟨hsteps, hmisses⟩
    exact ⟨hsteps.toMayMove, fun h => hsteps.ahead ⟨Bool.false_ne_true, h⟩, hmisses⟩

/-- A step that fails is refused, with the cursor where it was, or it misses. -/
theorem replayStep_failed {answers : StepAnswers} {reverse stepOver : Bool}
    {stepCallBack : Option Callback} {t : TtdSession}
    (h : (t.replayStep answers reverse stepOver stepCallBack).2 = false) :
    t.StoppedAt (t.replayStep answers reverse stepOver stepCallBack).1 t.cursor ∨
      (t.Steps reverse stepOver ∧
        (t.Stuck (t.decidingStep answers.attempt) ∨ stepOver = true ∧ t.Unwatched answers)) ∧
        t.StoppedAt (t.replayStep answers reverse stepOver stepCallBack).1
          (t.decidingStep answers.attempt).cursor := by
  by_cases hsteps : t.Steps reverse stepOver
  · obtain ⟨hreports, -⟩ | ⟨-, hmisses, hstopped⟩ := replayStep_told stepCallBack hsteps
    · exact absurd (h.symm.trans hreports) Bool.false_ne_true
    · exact .inr ⟨⟨hsteps, hmisses⟩, hstopped⟩
  · obtain ⟨error, heq⟩ := @replayStep_refused answers reverse stepOver stepCallBack t hsteps
    rw [heq]
    exact .inl (stoppedAt_fail error t)

theorem replayStep_of_misses {answers : StepAnswers} {reverse stepOver : Bool}
    (stepCallBack : Option Callback) {t : TtdSession} (hsteps : t.Steps reverse stepOver)
    (hmisses : t.Stuck (t.decidingStep answers.attempt) ∨ stepOver = true ∧ t.Unwatched answers) :
    (t.replayStep answers reverse stepOver stepCallBack).2 = false ∧
      t.StoppedAt (t.replayStep answers reverse stepOver stepCallBack).1
        (t.decidingStep answers.attempt).cursor := by
  obtain ⟨-, hgets⟩ | ⟨hfails, -, hstopped⟩ := replayStep_told stepCallBack hsteps
  · exact absurd hmisses hgets
  · exact ⟨hfails, hstopped⟩

end TtdSession

theorem TtdMove.failed_eq_some {move : TtdMove} {t t' : TtdSession} {outcome : TtdSession × Bool}
    (houtcome : move.failed t = if outcome.2 then none else some outcome.1) :
    move.failed t = some t' ↔ outcome.2 = false ∧ outcome.1 = t' := by
  rw [houtcome]
  cases outcome.2 <;> simp

namespace TtdSession

/-- A call that fails is refused, with the cursor where it was, or it misses. -/
theorem failed_cases {move : TtdMove} {t t' : TtdSession} (h : move.failed t = some t') :
    t.StoppedAt t' t.cursor ∨ move.Misses t ∧ t.StoppedAt t' (move.left t) := by
  cases move with
  | setPosition requested reached =>
    obtain ⟨hfails, rfl⟩ := (TtdMove.failed_eq_some rfl).mp h
    obtain ⟨-, -, hrefused⟩ | ⟨hreports, -⟩ | ⟨-, hmisses, hstopped⟩ :=
      replaySetPosition_told requested reached t
    · exact .inl hrefused
    · exact absurd (hfails.symm.trans hreports) Bool.false_ne_true
    · exact .inr ⟨hmisses, hstopped⟩
  | stepBack answers stepCallBack =>
    obtain ⟨hfails, rfl⟩ := (TtdMove.failed_eq_some rfl).mp h
    rw [misses_stepBack_iff]
    exact replayStep_failed hfails
  | step answers stepOver stepCallBack =>
    obtain ⟨hfails, rfl⟩ := (TtdMove.failed_eq_some rfl).mp h
    rw [misses_step_iff]
    exact replayStep_failed hfails
  | run answers => cases h

theorem failed_of_misses {move : TtdMove} {t : TtdSession} (h : move.Misses t) :
    ∃ t', move.failed t = some t' ∧ t.StoppedAt t' (move.left t) := by
  cases move with
  | setPosition requested reached =>
    obtain ⟨-, hrefused, -⟩ | ⟨-, hgets⟩ | ⟨hfails, -, hstopped⟩ :=
      replaySetPosition_told requested reached t
    · exact absurd h hrefused
    · exact absurd h hgets
    · exact ⟨_, (TtdMove.failed_eq_some rfl).mpr ⟨hfails, rfl⟩, hstopped⟩
  | stepBack answers stepCallBack =>
    rw [misses_stepBack_iff] at h
    obtain ⟨hfails, hstopped⟩ := replayStep_of_misses stepCallBack h.1 h.2
    exact ⟨_, (TtdMove.failed_eq_some rfl).mpr ⟨hfails, rfl⟩, hstopped⟩
  | step answers stepOver stepCallBack =>
    rw [misses_step_iff] at h
    obtain ⟨hfails, hstopped⟩ := replayStep_of_misses stepCallBack h.1 h.2
    exact ⟨_, (TtdMove.failed_eq_some rfl).mpr ⟨hfails, rfl⟩, hstopped⟩
  | run answers => exact absurd h id

/-- In a session that fits together, a call that fails has changed nothing exactly where it
has left the cursor alone. -/
theorem Consistent.failsClean_iff {t : TtdSession} (h : t.Consistent) (move : TtdMove) :
    move.FailsClean t ↔ move.LeavesCursor t := by
  constructor
  · intro hclean hmisses
    obtain ⟨t', hfailed, hstopped⟩ := failed_of_misses hmisses
    exact (hstopped.clean_iff h).mp (hclean t' hfailed)
  · intro hleaves t' hfailed
    obtain hrefused | ⟨hmisses, hstopped⟩ := failed_cases hfailed
    · exact (hrefused.clean_iff h).mpr ⟨rfl, rfl⟩
    · exact (hstopped.clean_iff h).mpr (hleaves hmisses)

/-- What consistency is about. -/
def published (t : TtdSession) : DWORD × TtdCursor × Trace × Map ULONG HANDLE × Map ULONG64 String :=
  (t.gTtdCurrentThreadId, t.cursor, t.gTtdEngine, t.gDebugIdMap.threadIndexToHandle, t.gTtdActiveModules)

theorem Consistent.congr {t t' : TtdSession} (h : t.Consistent) (heq : t'.published = t.published) :
    t'.Consistent := by
  simp only [published, Prod.mk.injEq] at heq
  obtain ⟨hidentity, hcursor, hengine, hthreads, hmodules⟩ := heq
  have hcurrent := current_congr hengine (congrArg TtdCursor.position hcursor)
  constructor
  · rw [hidentity, hcursor, h.identity]
  · rw [hthreads, hcurrent]
    exact h.threads
  · rw [hmodules, hcurrent, h.modules]

theorem Consistent.stays {t t' : TtdSession} (h : t.Consistent) (hstays : t.Stays t')
    (hidentity : t'.gTtdCurrentThreadId = t.gTtdCurrentThreadId) : t'.Consistent := by
  refine h.congr ?_
  simp only [published, hidentity, hstays.cursor, hstays.engine, hstays.ids, hstays.modules]

theorem mem_foldl_enterThread (threads : List ThreadInfo) (t : TtdSession) (index : ULONG) :
    index ∈ (threads.foldl (fun t info => t.enterThread info) t).gDebugIdMap.threadIndexToHandle ↔
      index ∈ t.gDebugIdMap.threadIndexToHandle ∨ ∃ info ∈ threads, info.uniqueId = index := by
  induction threads generalizing t with
  | nil => simp
  | cons first threads ih =>
    have hfirst : index ∈ (t.enterThread first).gDebugIdMap.threadIndexToHandle ↔
        index ∈ t.gDebugIdMap.threadIndexToHandle ∨ first.uniqueId = index := by
      rw [enterThread_eq]
      split
      · rename_i hknown
        refine (or_iff_left_of_imp fun heq => ?_).symm
        rw [← heq]
        exact Std.ExtTreeMap.contains_iff_mem.mp hknown
      · show index ∈ t.gDebugIdMap.threadIndexToHandle.insert first.uniqueId _ ↔ _
        rw [MapSums.mem_insert_iff, or_comm, eq_comm]
    rw [List.foldl_cons, ih, hfirst]
    simp [or_assoc]

theorem mem_foldl_leaveThread (leaving : List (ULONG × HANDLE × DWORD)) (t : TtdSession) (index : ULONG) :
    index ∈ (leaving.foldl (fun t thread => t.leaveThread thread) t).gDebugIdMap.threadIndexToHandle ↔
      index ∈ t.gDebugIdMap.threadIndexToHandle ∧ index ∉ leaving.map (·.1) := by
  induction leaving generalizing t with
  | nil => simp
  | cons first leaving ih =>
    have hfirst : index ∈ (t.leaveThread first).gDebugIdMap.threadIndexToHandle ↔
        index ≠ first.1 ∧ index ∈ t.gDebugIdMap.threadIndexToHandle := MapSums.mem_erase_iff
    rw [List.foldl_cons, ih, hfirst, List.map_cons, List.mem_cons, not_or]
    tauto

theorem mem_map_terminatedThreads (t : TtdSession) (index : ULONG) :
    index ∈ t.terminatedThreads.map (·.1) ↔
      index ∈ t.gDebugIdMap.threadIndexToHandle ∧ ¬ ∃ info ∈ t.current.threads, info.uniqueId = index := by
  have hkeys : t.terminatedThreads.map (·.1) =
      (t.gDebugIdMap.threadIndexToHandle.toList.map Prod.fst).filter
        fun index => index ∉ t.current.threads.map (·.uniqueId) := by
    unfold terminatedThreads
    rw [List.map_map, List.filter_map]
    rfl
  rw [hkeys, List.mem_filter, Std.ExtTreeMap.map_fst_toList_eq_keys, Std.ExtTreeMap.mem_keys]
  simp

/-- A refresh makes the known threads and modules those at the cursor. -/
theorem consistent_refresh {t : TtdSession} (h : t.gTtdCurrentThreadId = t.cursor.thread.id) :
    t.refreshTtdTimeline.Consistent := by
  have hrefreshed := refreshed_refreshTtdTimeline t
  have hidentity := hrefreshed.field_eq (fun t => t.gTtdCurrentThreadId) fun _ _ _ _ _ _ _ => rfl
  have hentered := Refreshed.foldl (fun t info => refreshed_enterThread info t) t.current.threads t
  have hcurrent := current_congr hentered.engine (congrArg TtdCursor.position hentered.cursor)
  have hthreads := refreshed_refreshThreads t
  have hcurrent' := current_congr hthreads.engine (congrArg TtdCursor.position hthreads.cursor)
  have hcurrent'' := current_congr hrefreshed.engine (congrArg TtdCursor.position hrefreshed.cursor)
  constructor
  · rw [hidentity, hrefreshed.cursor]
    exact h
  · intro index
    have hmem := mem_foldl_enterThread t.current.threads t index
    show index ∈ t.refreshThreads.gDebugIdMap.threadIndexToHandle ↔ _
    rw [hcurrent'']
    unfold refreshThreads
    rw [mem_foldl_leaveThread, mem_map_terminatedThreads, hcurrent, hmem]
    by_cases halive : ∃ info ∈ t.current.threads, info.uniqueId = index
    · exact iff_of_true ⟨.inr halive, fun h => h.2 halive⟩ halive
    · exact iff_of_false (fun h => h.2 ⟨h.1, halive⟩) halive
  · show mapModules t.refreshThreads.current.modules = _
    rw [hcurrent', hcurrent'']

theorem identity_pauseSteps (steps : List PauseStep) (t : TtdSession) :
    (t.pauseSteps steps).gTtdCurrentThreadId = t.gTtdCurrentThreadId := by
  obtain ⟨callback, interrupt, heq⟩ := pauseSteps_eq steps t
  rw [heq]

theorem identity_queueTtdWatchpointHit (env : Env) (hit : Option TtdWatchHit) (t : TtdSession) :
    (t.queueTtdWatchpointHit env hit).1.gTtdCurrentThreadId = t.gTtdCurrentThreadId := by
  unfold queueTtdWatchpointHit
  split
  · rfl
  · split
    · rename_i id info _
      obtain ⟨s, heq⟩ := consumeSoftware_eq env id info t
      rw [heq]
      rfl
    · split
      · rename_i id info _
        obtain ⟨s, heq⟩ := consumeMemory_eq env id info t
        rw [heq]
        rfl
      · rfl

theorem identity_reportRun (answers : RunAnswers) (reverse : Bool) (stepCount : ULONG64)
    (hit : Option TtdWatchHit) (event : Option ExceptionEvent) (t : TtdSession) :
    (t.reportRun answers reverse stepCount hit event).1.gTtdCurrentThreadId = t.gTtdCurrentThreadId := by
  have hexchange := identity_pauseSteps answers.requests.beforeExchange t
  unfold reportRun
  split
  · rfl
  dsimp only
  generalize t.pauseSteps answers.requests.beforeExchange = u at hexchange ⊢
  split
  · exact (identity_pauseSteps answers.requests.beforeCallback _).trans hexchange
  · have hhit := (identity_queueTtdWatchpointHit answers.base hit u).trans hexchange
    generalize u.queueTtdWatchpointHit answers.base hit = r at hhit ⊢
    obtain ⟨u', reported⟩ := r
    cases reported with
    | true => exact hhit
    | false =>
      cases event with
      | some event =>
        obtain ⟨work, -, heq⟩ := queueException_eq event u'
        dsimp only
        rw [heq]
        exact hhit
      | none => exact hhit

theorem consistent_finishStep (env : Env) (stepCallBack : Option Callback) {t : TtdSession}
    (h : t.gTtdCurrentThreadId = t.cursor.thread.id) : (t.finishStep env stepCallBack).1.Consistent := by
  have hrefreshed : { t with gTtdWatchHit := none }.refreshTtdTimeline.Consistent := consistent_refresh h
  have hstays := stays_queueTtdWatchpointHit env t.gTtdWatchHit
    { t with gTtdWatchHit := none }.refreshTtdTimeline
  have hidentity := identity_queueTtdWatchpointHit env t.gTtdWatchHit
    { t with gTtdWatchHit := none }.refreshTtdTimeline
  have hreported := hrefreshed.stays hstays hidentity
  unfold finishStep
  dsimp only
  generalize queueTtdWatchpointHit env _ _ = r at hreported ⊢
  obtain ⟨u, reported⟩ := r
  cases reported with
  | true => exact hreported
  | false =>
    cases stepCallBack with
    | none => exact hreported
    | some callback => exact hreported.congr rfl

theorem consistent_replayStep {answers : StepAnswers} {reverse stepOver : Bool}
    {stepCallBack : Option Callback} {t : TtdSession}
    (h : (t.replayStep answers reverse stepOver stepCallBack).2 = true) :
    (t.replayStep answers reverse stepOver stepCallBack).1.Consistent := by
  unfold replayStep at h ⊢
  split at h
  · cases h
  rename_i hsession
  rw [if_neg hsession]
  split at h
  · cases h
  rename_i hdirection
  rw [if_neg hdirection]
  split at h
  · cases h
  rename_i hrests
  rw [if_neg hrests]
  split at h
  · cases h
  rename_i hahead
  rw [if_neg hahead]
  dsimp only at h ⊢
  generalize t.replayAttempts answers.attempt answers.setPositionOnThread t.cursor.position = r at h ⊢
  split at h
  · cases h
  rename_i hmoves
  rw [if_neg hmoves]
  have hidentity : r.1.updateTtdCursorIdentity.gTtdCurrentThreadId =
      r.1.updateTtdCursorIdentity.cursor.thread.id := rfl
  generalize r.1.updateTtdCursorIdentity = u at h hidentity ⊢
  generalize (if stepOver = true then _ else (0 : ULONG64)) = returnAddress at h ⊢
  split at h
  · rename_i hcall
    rw [if_pos hcall]
    split
    · rename_i hrecord
      exact @consistent_refresh { u with gTtdNextRunReverse := false, gTtdWatchHit := none } hidentity
    · rename_i hrecord
      rw [if_neg hrecord] at h
      dsimp only at h ⊢
      generalize u.toSession.addTtdSoftwareBreakpoint answers.base returnAddress stepCallBack true
        t.cursor.thread.uniqueId = r at h ⊢
      obtain ⟨s, added⟩ := r
      cases added with
      | false => cases h
      | true =>
        exact @consistent_refresh
          { u with toSession := s, gTtdNextRunReverse := false, gTtdWatchHit := none } hidentity
  · rename_i hcall
    rw [if_neg hcall]
    exact consistent_finishStep _ _ hidentity

theorem consistent_replaySetPosition {requested : TtdPosition} {reached : TtdCursor} {t : TtdSession}
    (h : (t.replaySetPosition requested reached).2 = true) :
    (t.replaySetPosition requested reached).1.Consistent := by
  unfold replaySetPosition at h ⊢
  split at h
  · cases h
  rename_i hsession
  rw [if_neg hsession]
  split at h
  · cases h
  rename_i hrange
  rw [if_neg hrange]
  dsimp only at h ⊢
  split at h
  · cases h
  rename_i hreached
  rw [if_neg hreached]
  exact consistent_refresh rfl

theorem consistent_runTtd (answers : RunAnswers) (reverse : Bool) (t : TtdSession) :
    (t.runTtd answers reverse).1.Consistent := by
  unfold runTtd
  dsimp only
  generalize (t.replayRun answers reverse).1.parkRun answers reverse _ _ = parked
  have hsettled : parked.settleRun.1.Consistent := consistent_refresh rfl
  exact hsettled.stays (stays_reportRun _ _ _ _ _ _) (identity_reportRun _ _ _ _ _ _)

theorem Consistent.apply {t : TtdSession} {move : TtdMove} (h : t.Consistent)
    (hleaves : move.LeavesCursor t) : (move.apply t).Consistent := by
  have hclean := (h.failsClean_iff move).mpr hleaves
  cases move with
  | setPosition requested reached =>
    show (t.replaySetPosition requested reached).1.Consistent
    cases houtcome : (t.replaySetPosition requested reached).2 with
    | true => exact consistent_replaySetPosition houtcome
    | false => exact (hclean _ ((TtdMove.failed_eq_some rfl).mpr ⟨houtcome, rfl⟩)).2
  | stepBack answers stepCallBack =>
    show (t.replayStep answers true false stepCallBack).1.Consistent
    cases houtcome : (t.replayStep answers true false stepCallBack).2 with
    | true => exact consistent_replayStep houtcome
    | false => exact (hclean _ ((TtdMove.failed_eq_some rfl).mpr ⟨houtcome, rfl⟩)).2
  | step answers stepOver stepCallBack =>
    have hstep : (t.replayStep answers false stepOver stepCallBack).1.Consistent := by
      cases houtcome : (t.replayStep answers false stepOver stepCallBack).2 with
      | true => exact consistent_replayStep houtcome
      | false => exact (hclean _ ((TtdMove.failed_eq_some rfl).mpr ⟨houtcome, rfl⟩)).2
    show (t.ttdStep answers stepOver stepCallBack).Consistent
    unfold ttdStep
    generalize t.replayStep answers false stepOver stepCallBack = r at hstep ⊢
    obtain ⟨u, succeeded⟩ := r
    cases succeeded with
    | true => exact hstep
    | false =>
      cases stepCallBack with
      | none => exact hstep
      | some callback => exact hstep.congr rfl
  | run answers => exact consistent_runTtd answers t.gTtdNextRunReverse _

theorem Consistent.delivered {t : TtdSession} (h : t.Consistent) (work : TtdWork) (rest : List TtdWork) :
    ({ t with queue := rest }.deliver work).Consistent := by
  obtain ⟨tebs, event, threadId, heq⟩ := deliver_eq work { t with queue := rest }
  rw [heq]
  exact h.congr rfl

theorem published_createSyntheticTitanHandle (type : TitanHandleType) (dbgengId : ULONG)
    (systemId : DWORD) (callerOwned : Bool) (t : TtdSession) :
    (t.createSyntheticTitanHandle type dbgengId systemId callerOwned).1.published = t.published := by
  rw [createSyntheticTitanHandle_eq]
  rfl

theorem published_titanOpenProcess (dwProcessId : DWORD) (t : TtdSession) :
    (t.titanOpenProcess dwProcessId).1.published = t.published := by
  unfold titanOpenProcess
  split
  · rfl
  · exact published_createSyntheticTitanHandle _ _ _ _ t

theorem published_titanOpenThread (threads : List ThreadInfo) (dwThreadId : DWORD) (t : TtdSession) :
    (t.titanOpenThread threads dwThreadId).1.published = t.published := by
  unfold titanOpenThread
  split
  · rfl
  · rfl
  · exact published_createSyntheticTitanHandle _ _ _ _ t

theorem published_titanCloseHandle (hEngineHandle : HANDLE) (closed : Bool) (t : TtdSession) :
    (t.titanCloseHandle hEngineHandle closed).1.published = t.published := by
  unfold titanCloseHandle
  split
  · rfl
  · split
    · rfl
    · split
      · rfl
      · rfl

theorem consistent_step {delivers : TtdWork → TtdSession → Prop} {opens : TtdSession → Prop} :
    Runs.Preserves (TtdStep TtdMove.LeavesCursor delivers opens) Consistent := by
  intro t t' hstep h
  cases hstep with
  | move allow => exact h.apply allow
  | deliver _ _ => exact h.delivered _ _
  | openProcess _ => exact h.congr (published_titanOpenProcess _ t)
  | openThread _ => exact h.congr (published_titanOpenThread _ _ t)
  | closeHandle => exact h.congr (published_titanCloseHandle _ _ t)
  | breakpoints => exact h.congr rfl
  | @pause _ steps => exact h.stays (.of_pauseSteps steps t) (identity_pauseSteps steps t)
  | runBack =>
    refine h.congr ?_
    unfold replayRunBack
    split
    · rfl
    · split
      · rfl
      · rfl
  | loop => exact h.congr rfl

theorem mem_foldl_bootstrapThread (threadSystemId : DWORD) (threads : List ThreadInfo) (t : TtdSession)
    (index : ULONG) :
    index ∈ (threads.foldl (bootstrapThread threadSystemId) t).gDebugIdMap.threadIndexToHandle ↔
      index ∈ t.gDebugIdMap.threadIndexToHandle ∨
        ∃ info ∈ threads, info.id ≠ threadSystemId ∧ info.uniqueId = index := by
  induction threads generalizing t with
  | nil => simp
  | cons first threads ih =>
    have hfirst : index ∈ (t.bootstrapThread threadSystemId first).gDebugIdMap.threadIndexToHandle ↔
        index ∈ t.gDebugIdMap.threadIndexToHandle ∨ first.id ≠ threadSystemId ∧ first.uniqueId = index := by
      rw [bootstrapThread_eq]
      split
      · rename_i hinitial
        simp [hinitial]
      · rename_i hother
        show index ∈ t.gDebugIdMap.threadIndexToHandle.insert first.uniqueId _ ↔ _
        rw [MapSums.mem_insert_iff, or_comm, eq_comm]
        simp [hother]
    rw [List.foldl_cons, ih, hfirst]
    simp [or_assoc]

theorem published_bootstrapProcess (image : TtdModuleInfo) (t : TtdSession) :
    ∃ handle, (t.bootstrapProcess image).published =
      { t with gDebugIdMap.threadIndexToHandle :=
          t.gDebugIdMap.threadIndexToHandle.insert t.cursor.thread.uniqueId handle }.published := by
  unfold bootstrapProcess
  simp only [createSyntheticTitanHandle_eq]
  exact ⟨_, rfl⟩

theorem published_bootstrapHandles (t : TtdSession) : t.bootstrapHandles.published = t.published :=
  (published_createSyntheticTitanHandle _ _ _ _ _).trans (published_createSyntheticTitanHandle _ _ _ _ t)

theorem consistent_initReplay {trace : Trace} {thread : ThreadInfo} {serial : ULONG_PTR} {s : Session}
    {t : TtdSession} (h : initReplay trace thread serial s = some t)
    (hthread : thread ∈ (trace.snapshot trace.firstPosition).threads) : t.Consistent := by
  have hmodules := (modulesTold_initReplay h).active
  unfold initReplay at h
  dsimp only at h
  split at h
  · cases h
  · cases h
  · rename_i _ _ image himage _
    cases h
    obtain ⟨handle, hprocess⟩ := published_bootstrapProcess image (openReplay trace thread serial s)
    generalize (openReplay trace thread serial s).bootstrapProcess image = process at hprocess hmodules ⊢
    have hfold := Refreshed.foldl (refreshed_bootstrapThread thread.id)
      (trace.snapshot trace.firstPosition).threads process
    have hidentity := hfold.field_eq (fun t => t.gTtdCurrentThreadId) fun _ _ _ _ _ _ _ => rfl
    have hmem := mem_foldl_bootstrapThread thread.id (trace.snapshot trace.firstPosition).threads process
    simp only [published, Prod.mk.injEq] at hprocess
    obtain ⟨hidentity', hcursor, hengine, hthreads, -⟩ := hprocess
    generalize List.foldl (bootstrapThread thread.id) process
      (trace.snapshot trace.firstPosition).threads = threads at hfold hidentity hmem hmodules ⊢
    have hpublished : (threads.bootstrapModules
        (trace.snapshot trace.firstPosition).modules).bootstrapHandles.published = threads.published :=
      published_bootstrapHandles _
    generalize (threads.bootstrapModules (trace.snapshot trace.firstPosition).modules).bootstrapHandles = t
      at hpublished hmodules ⊢
    simp only [published, Prod.mk.injEq] at hpublished
    obtain ⟨hidentity'', hcursor', hengine', hthreads', -⟩ := hpublished
    have hatFirst : t.cursor = ⟨trace.firstPosition, thread⟩ := by
      rw [hcursor', hfold.cursor, hcursor]
      rfl
    have hcurrent : t.current = trace.snapshot trace.firstPosition := by
      unfold current
      rw [hatFirst, hengine', hfold.engine, hengine]
      rfl
    refine ⟨?_, fun index => ?_, hmodules⟩
    · rw [hidentity'', hidentity, hidentity', hatFirst]
      rfl
    · have hinitial : index ∈ process.gDebugIdMap.threadIndexToHandle ↔ index = thread.uniqueId := by
        rw [hthreads]
        show index ∈ (∅ : Map ULONG HANDLE).insert thread.uniqueId handle ↔ _
        rw [MapSums.mem_insert_iff]
        exact or_iff_left Std.ExtTreeMap.not_mem_empty
      rw [hthreads', hmem, hinitial, hcurrent]
      constructor
      · rintro (rfl | ⟨info, hinfo, -, hindex⟩)
        · exact ⟨thread, hthread, rfl⟩
        · exact ⟨info, hinfo, hindex⟩
      · rintro ⟨info, hinfo, rfl⟩
        by_cases hid : info.id = thread.id
        · rw [List.inj_on_of_nodup_map (Snapshot.nodup_id _) hinfo hthread hid]
          exact .inl rfl
        · exact .inr ⟨info, hinfo, hid, rfl⟩

end TtdSession

/-- In a session whose movements so far have left the cursor alone where they failed, one
more call that fails changes nothing exactly if it leaves the cursor alone as well. -/
theorem failed_move_clean_iff {trace : Trace} {thread : ThreadInfo} {serial : ULONG_PTR} {s : Session}
    {t₀ t : TtdSession} (hstart : TtdSession.initReplay trace thread serial s = some t₀)
    (hthread : thread ∈ (trace.snapshot trace.firstPosition).threads)
    (hrun : TtdRun TtdMove.LeavesCursor (fun _ _ => True) (fun _ => True) t₀ t) (move : TtdMove) :
    move.FailsClean t ↔ move.LeavesCursor t := by
  have hconsistent := TtdSession.consistent_step.run hrun (TtdSession.consistent_initReplay hstart hthread)
  exact hconsistent.failsClean_iff move

/-- The engine does not get to 6:0 and turns back. -/
def turnedBack : TtdMove := .setPosition ⟨6, 0⟩ loadingReplay.cursor

theorem failed_move_clean_turnedBack : turnedBack.FailsClean loadingReplay := by
  have hthread : mainThread ∈ (loadingTrace.snapshot loadingTrace.firstPosition).threads := by decide
  exact (failed_move_clean_iff (Option.some_get _).symm hthread .refl turnedBack).mpr fun _ => ⟨rfl, rfl⟩

/-- The engine rounds 6:0 up to 6:1. -/
def roundedUp : TtdMove := .setPosition ⟨6, 0⟩ ⟨⟨6, 1⟩, mainThread⟩

/-- The call fails, and the cursor is elsewhere. -/
theorem rounded_seek_moves : ∃ t₀, TtdSession.initReplay loadingTrace mainThread 1 {} = some t₀ ∧
    ¬ roundedUp.FailsClean t₀ := by
  refine ⟨loadingReplay, (Option.some_get _).symm, fun h => ?_⟩
  have hfailed : (roundedUp.failed loadingReplay).isSome := by decide
  obtain ⟨t', ht'⟩ := Option.isSome_iff_exists.mp hfailed
  have hposition := (h t' ht').1.position
  have hmoved : (roundedUp.failed loadingReplay).map (·.cursor.position) ≠
      some loadingReplay.cursor.position := by decide
  rw [ht'] at hmoved
  exact hmoved (congrArg some hposition)

end TitanEngine

import TitanEngine.Lib.Nearest
import TitanEngine.Replay.Stages

/-! What a run reports: a hit that it stopped on, unless a pause request came first, and
the process exit, for which it takes every stop that nothing else explains. -/
namespace TitanEngine
namespace TtdSession

/-- A pause request has raised its flag by the time the run looks whether to park. -/
def RaisedBeforeParking (answers : RunAnswers) (t : TtdSession) : Prop :=
  t.gTtdInterruptRequested = true ∨ PauseStep.raise ∈ answers.requests.beforeParking

/-- A pause request has raised its flag by the time the run fetches it. -/
def PauseRaised (answers : RunAnswers) (t : TtdSession) : Prop :=
  t.RaisedBeforeParking answers ∨ PauseStep.raise ∈ answers.requests.beforeExchange

/-- The replays of a run stop on a hit that the watchpoint callback accepted. -/
def StopsOn (answers : RunAnswers) (reverse : Bool) (hit : TtdWatchHit) (t : TtdSession) : Prop :=
  (t.replayRun answers reverse).1.gTtdWatchHit = some hit

theorem interrupt_ttdReplay (answer : ReplayAnswer) (t : TtdSession) :
    (t.ttdReplay answer).gTtdInterruptRequested = t.gTtdInterruptRequested := by
  obtain ⟨hit, heq⟩ := ttdReplay_eq answer t
  rw [heq]

theorem interrupt_replayAttempt (answer : ReplayAnswer)
    (setPositionOnThread : ULONG → TtdPosition → TtdCursor) (before : TtdPosition) (t : TtdSession) :
    (t.replayAttempt answer setPositionOnThread before).1.gTtdInterruptRequested =
      t.gTtdInterruptRequested := by
  have hreplay := interrupt_ttdReplay answer { t with gTtdWatchHit := none }
  unfold replayAttempt
  dsimp only
  split
  · exact hreplay
  · split
    · exact hreplay
    · split
      · exact hreplay
      · exact hreplay

theorem interrupt_replayAttempts (answer : ℕ → ReplayAnswer)
    (setPositionOnThread : ULONG → TtdPosition → TtdCursor) (before : TtdPosition) (t : TtdSession) :
    (t.replayAttempts answer setPositionOnThread before).1.gTtdInterruptRequested =
      t.gTtdInterruptRequested := by
  have hfirst := interrupt_replayAttempt (answer 0) setPositionOnThread before t
  unfold replayAttempts
  split
  · rename_i heq
    rwa [heq] at hfirst
  · rename_i heq
    rw [heq] at hfirst
    exact (interrupt_replayAttempt _ _ _ _).trans hfirst

theorem interrupt_selectHit (setPositionOnThread : ULONG → TtdPosition → TtdCursor)
    (stepCount : ULONG64) (t : TtdSession) :
    (t.selectHit setPositionOnThread stepCount).1.gTtdInterruptRequested =
      t.gTtdInterruptRequested := by
  unfold selectHit
  split
  · split <;> rfl
  · rfl

theorem hit_selectHit (setPositionOnThread : ULONG → TtdPosition → TtdCursor)
    (stepCount : ULONG64) (t : TtdSession) :
    (t.selectHit setPositionOnThread stepCount).1.gTtdWatchHit = t.gTtdWatchHit := by
  unfold selectHit
  split
  · split <;> rfl
  · rfl

/-- The fallback looks at the flag before every step, so it finds a hit only while no
request has raised it. -/
theorem interrupt_fallbackSteps (answers : RunAnswers) (limit : TtdPosition) (fuel i : ℕ)
    (total : ULONG64) (t : TtdSession) (hstart : t.gTtdWatchHit = none)
    (hfound : (fallbackSteps answers limit fuel i total t).1.gTtdWatchHit ≠ none) :
    (fallbackSteps answers limit fuel i total t).1.gTtdInterruptRequested =
      t.gTtdInterruptRequested := by
  induction fuel generalizing i total t with
  | zero => rfl
  | succ fuel ih =>
    obtain ⟨callback, interrupt, hpause⟩ := pauseSteps_eq (answers.requests.beforeFallbackStep i) t
    have hflag := interrupt_pauseSteps (answers.requests.beforeFallbackStep i) t
    unfold fallbackSteps at hfound ⊢
    rw [hpause] at hflag hfound ⊢
    dsimp only at hflag hfound ⊢
    split at hfound
    · exact absurd hstart hfound
    · rename_i hrequested
      rw [if_neg hrequested]
      have hclear : t.gTtdInterruptRequested = false := by
        have hinterrupt : interrupt = false := by simpa using (not_or.mp hrequested).2
        rw [hinterrupt] at hflag
        simpa using (Bool.or_eq_false_iff.mp hflag.symm).1
      have hreplay := interrupt_ttdReplay (answers.singleStep i limit)
        { t with gPauseCallback := callback, gTtdInterruptRequested := interrupt, gTtdWatchHit := none }
      have hinterrupt : interrupt = t.gTtdInterruptRequested := by
        rw [hclear]
        simpa using (not_or.mp hrequested).2
      split
      · exact hreplay.trans hinterrupt
      · rename_i hprogress
        rw [if_neg hprogress] at hfound
        split
        · exact hreplay.trans hinterrupt
        · rename_i hon
          rw [if_neg hon] at hfound
          have hnone := not_not.mp (not_or.mp hon).1
          exact (ih _ _ _ hnone hfound).trans (hreplay.trans hinterrupt)

theorem interrupt_of_stopsOn {answers : RunAnswers} {reverse : Bool} {hit : TtdWatchHit}
    {t : TtdSession} (h : t.StopsOn answers reverse hit) :
    (t.replayRun answers reverse).1.gTtdInterruptRequested = t.gTtdInterruptRequested := by
  unfold StopsOn replayRun at h
  unfold replayRun
  dsimp only at h ⊢
  rw [hit_selectHit] at h
  rw [interrupt_selectHit]
  generalize nearestException reverse _ _ _ = nearest at h ⊢
  have hattempts := interrupt_replayAttempts (fun i => answers.replay i nearest.1)
    answers.setPositionOnThread t.cursor.position { t with gTtdWatchHit := none, gPaused := false }
  split
  · rename_i hfallback
    rw [if_pos hfallback] at h
    have hfound := interrupt_fallbackSteps answers nearest.1 1000000 0 0 _ hfallback.2.2 (by rw [h]; simp)
    exact hfound.trans hattempts
  · exact hattempts

theorem queuedSince_append {t t' : TtdSession} {works : List TtdWork}
    (h : t'.queue = t.queue ++ works) : t'.queuedSince t = works := by
  rw [queuedSince, h, List.drop_left]

theorem ReportedTo.not_ofTimeline {hit : TtdWatchHit} {t : TtdSession} {work : TtdWork}
    (h : t.ReportedTo hit work) : ¬ work.OfTimeline := by
  cases h with
  | code found => exact id
  | data other found => exact id

theorem raised_iff (answers : RunAnswers) (t : TtdSession) :
    (t.gTtdInterruptRequested || decide (PauseStep.raise ∈ answers.requests.beforeParking) ||
      decide (PauseStep.raise ∈ answers.requests.beforeExchange)) = true ↔ t.PauseRaised answers := by
  simp [PauseRaised, RaisedBeforeParking]

theorem ReportedTo.hit?_eq {hit : TtdWatchHit} {t : TtdSession} {work : TtdWork}
    (h : t.ReportedTo hit work) : work.hit? = some hit := by
  cases h with
  | code found => rfl
  | data other found => rfl

section Reported
variable {answers : RunAnswers} {reverse : Bool} {hit : TtdWatchHit} {t : TtdSession}

/-- The callback of a breakpoint is queued for nothing but the hit that the replays stop on. -/
theorem stopsOn_of_reported {work : TtdWork} (hstop : t.gTtdStopRequested = false)
    (hreported : t.ReportedTo hit work) (hmem : work ∈ (t.runTtd answers reverse).1.queuedSince t) :
    t.StopsOn answers reverse hit ∧ ¬ t.PauseRaised answers := by
  obtain ⟨works, last, hworks, hreport, hqueue, -, -⟩ := runTtd_outcome answers reverse hstop
  rw [queuedSince_append hqueue] at hmem
  have hlast : work = last := by
    have hmem' := List.mem_append.mp hmem
    have hnot := hreported.not_ofTimeline
    exact List.mem_singleton.mp (hmem'.resolve_left fun h => hnot (hworks work h))
  subst hlast
  cases hreport with
  | pause callback flag => cases hreported
  | hit flag pending reported =>
    obtain rfl := Option.some.inj (hreported.hit?_eq.symm.trans reported.hit?_eq)
    have hstops : t.StopsOn answers reverse hit := pending
    rw [interrupt_of_stopsOn hstops] at flag
    exact ⟨hstops, by rw [← raised_iff, flag]; simp⟩
  | exception flag nothing stands reported =>
    cases hreported <;> cases reported
  | ending flag nothing free =>
    cases reverse <;> cases hreported

theorem reported_of_stopsOn (hstop : t.gTtdStopRequested = false) (hhit : t.StopsOn answers reverse hit)
    (hquiet : ¬ t.PauseRaised answers) :
    ∃ work, t.ReportedTo hit work ∧ work ∈ (t.runTtd answers reverse).1.queuedSince t := by
  obtain ⟨works, work, hworks, hreport, hqueue, -, -⟩ := runTtd_outcome answers reverse hstop
  rw [interrupt_of_stopsOn hhit] at hreport
  rw [← raised_iff, Bool.not_eq_true] at hquiet
  rw [queuedSince_append hqueue]
  have hlast : work ∈ works ++ [work] := List.mem_append_right _ List.mem_cons_self
  cases hreport with
  | pause callback flag =>
    rw [hquiet] at flag
    cases flag
  | hit flag pending reported =>
    have hsame := Option.some.inj (pending.symm.trans hhit)
    exact ⟨work, hsame ▸ reported, hlast⟩
  | exception flag nothing stands reported => cases nothing.symm.trans hhit
  | ending flag nothing free => cases nothing.symm.trans hhit

end Reported

/-- Once the flag is raised, a run reports the pause and nothing of its hit; the hit is
reported exactly when no request comes before the fetch. -/
theorem hit_reported_iff {answers : RunAnswers} {reverse : Bool} {hit : TtdWatchHit} {t : TtdSession}
    (hstop : t.gTtdStopRequested = false) (hhit : t.StopsOn answers reverse hit) :
    (∃ work, t.ReportedTo hit work ∧ work ∈ (t.runTtd answers reverse).1.queuedSince t) ↔
      ¬ t.PauseRaised answers := by
  constructor
  · rintro ⟨work, hreported, hmem⟩
    exact (stopsOn_of_reported hstop hreported hmem).2
  · intro hquiet
    exact reported_of_stopsOn hstop hhit hquiet

/-- The hit that a replay leaves. -/
def hitAfter (answer : ReplayAnswer) (t : TtdSession) : Option TtdWatchHit :=
  ({ t with gTtdWatchHit := none }.ttdReplay answer).gTtdWatchHit

/-- The limit of a forward run, and the recorded exception there. -/
def forwardLimit (t : TtdSession) : TtdPosition × Option ExceptionEvent :=
  nearestException false t.cursor.position t.gTtdEngine.lastPosition t.gTtdEngine.exceptionEvents

/-- The answer that decides a forward run: the first one, or the second one if the first
is a hit at the start of the run with nothing executed. -/
def decidingAnswer (answers : RunAnswers) (t : TtdSession) : ReplayAnswer :=
  let first := answers.replay 0 t.forwardLimit.1
  match t.hitAfter first with
  | some hit =>
    if first.stepsExecuted = 0 ∧ hit.position = t.cursor.position then
      answers.replay 1 t.forwardLimit.1
    else first
  | none => first

theorem hit_ttdReplay_congr {t t' : TtdSession} (hbps : t'.bps = t.bps)
    (hhit : t'.gTtdWatchHit = t.gTtdWatchHit) (answer : ReplayAnswer) :
    (t'.ttdReplay answer).gTtdWatchHit = (t.ttdReplay answer).gTtdWatchHit := by
  have hfold : ∀ (accesses : List (MemoryWatchpointResult × Option ThreadView)) (t t' : TtdSession),
      t'.bps = t.bps → t'.gTtdWatchHit = t.gTtdWatchHit →
      (accesses.foldl (fun t access =>
        (t.ttdMemoryWatchpointCallback access.1 access.2).1) t').gTtdWatchHit =
      (accesses.foldl (fun t access =>
        (t.ttdMemoryWatchpointCallback access.1 access.2).1) t).gTtdWatchHit := by
    intro accesses
    induction accesses with
    | nil => exact fun _ _ _ hhit => hhit
    | cons access rest ih =>
      intro t t' hbps hhit
      obtain ⟨access, view⟩ := access
      cases view with
      | none => exact ih t t' hbps hhit
      | some view =>
        have hanswers := answers_congr hbps (hitOf access view)
        rw [List.foldl_cons, List.foldl_cons]
        obtain ⟨h, heq⟩ | ⟨h, heq⟩ := callback_view access view t
        · obtain ⟨_, heq'⟩ | ⟨h', _⟩ := callback_view access view t'
          · rw [heq, heq']
            exact ih _ _ hbps rfl
          · exact absurd (hanswers.mpr h) h'
        · obtain ⟨h', _⟩ | ⟨_, heq'⟩ := callback_view access view t'
          · exact absurd (hanswers.mp h') h
          · rw [heq, heq']
            exact ih _ _ hbps hhit
  exact hfold answer.accesses t t' hbps hhit

theorem hitAfter_congr {t t' : TtdSession} (hbps : t'.bps = t.bps) (answer : ReplayAnswer) :
    t'.hitAfter answer = t.hitAfter answer :=
  @hit_ttdReplay_congr { t with gTtdWatchHit := none } { t' with gTtdWatchHit := none } hbps rfl answer

section Attempts
variable (answer : ReplayAnswer) (setPositionOnThread : ULONG → TtdPosition → TtdCursor)
  (before : TtdPosition) (t : TtdSession)

theorem hit_replayAttempt : (t.replayAttempt answer setPositionOnThread before).1.gTtdWatchHit =
    t.hitAfter answer := by
  unfold replayAttempt hitAfter
  dsimp only
  split
  · rfl
  · split
    · rfl
    · split <;> rfl

theorem replayAttempt_free (h : t.hitAfter answer = none) :
    (t.replayAttempt answer setPositionOnThread before).1.cursor = answer.cursor ∧
      (t.replayAttempt answer setPositionOnThread before).2 = (answer.stepsExecuted, false) := by
  unfold hitAfter at h
  unfold replayAttempt
  dsimp only
  rw [h]
  obtain ⟨hit, heq⟩ := ttdReplay_eq answer { t with gTtdWatchHit := none }
  rw [heq]
  exact ⟨rfl, rfl⟩

theorem replayAttempt_stale {hit : TtdWatchHit} (h : t.hitAfter answer = some hit) :
    (t.replayAttempt answer setPositionOnThread before).2.2 =
      decide (answer.stepsExecuted = 0 ∧ hit.position = before) := by
  unfold hitAfter at h
  unfold replayAttempt
  dsimp only
  rw [h]
  dsimp only
  split
  · rename_i hsteps
    exact (decide_eq_false fun h => hsteps h.1).symm
  · rename_i hsteps
    split
    · rename_i hposition
      exact (decide_eq_false fun h => hposition h.2).symm
    · rename_i hposition
      simp only [ne_eq, not_not] at hsteps hposition
      simp [hsteps, hposition]

end Attempts

/-- The two attempts come down to the deciding answer. -/
theorem replayAttempts_deciding (answers : RunAnswers) {t t' : TtdSession} (hbps : t'.bps = t.bps) :
    let r := t'.replayAttempts (fun i => answers.replay i t.forwardLimit.1)
      answers.setPositionOnThread t.cursor.position
    r.1.gTtdWatchHit = t.hitAfter (t.decidingAnswer answers) ∧
      (t.hitAfter (t.decidingAnswer answers) = none →
        r.1.cursor = (t.decidingAnswer answers).cursor ∧
          r.2.1 = (t.decidingAnswer answers).stepsExecuted) := by
  intro r
  generalize hfirst : t'.replayAttempt (answers.replay 0 t.forwardLimit.1)
    answers.setPositionOnThread t.cursor.position = first
  have hhit := hit_replayAttempt (answers.replay 0 t.forwardLimit.1) answers.setPositionOnThread
    t.cursor.position t'
  have hmoved := replayed_replayAttempt (answers.replay 0 t.forwardLimit.1)
    answers.setPositionOnThread t.cursor.position t'
  rw [hfirst] at hhit hmoved
  rw [hitAfter_congr hbps] at hhit
  -- Whether there is a second attempt is decided by the hit that the first one leaves.
  have hr : r = if first.2.2 then
      let second := first.1.replayAttempt (answers.replay 1 t.forwardLimit.1)
        answers.setPositionOnThread t.cursor.position
      (second.1, second.2.1, true) else first := by
    unfold r replayAttempts
    rw [hfirst]
    obtain ⟨t₁, stepCount, again⟩ := first
    cases again <;> rfl
  cases hzero : t.hitAfter (answers.replay 0 t.forwardLimit.1) with
  | none =>
    have hdeciding : t.decidingAnswer answers = answers.replay 0 t.forwardLimit.1 := by
      simp [decidingAnswer, hzero]
    obtain ⟨hcursor, hsteps⟩ := replayAttempt_free (answers.replay 0 t.forwardLimit.1)
      answers.setPositionOnThread t.cursor.position t' ((hitAfter_congr hbps _).trans hzero)
    rw [hfirst] at hcursor hsteps
    rw [hr, hsteps, if_neg Bool.false_ne_true, hdeciding]
    exact ⟨hhit, fun _ => ⟨hcursor, congrArg Prod.fst hsteps⟩⟩
  | some hit =>
    have hagain := replayAttempt_stale (answers.replay 0 t.forwardLimit.1)
      answers.setPositionOnThread t.cursor.position t' ((hitAfter_congr hbps _).trans hzero)
    rw [hfirst] at hagain
    by_cases hstale : (answers.replay 0 t.forwardLimit.1).stepsExecuted = 0 ∧
        hit.position = t.cursor.position
    · have hdeciding : t.decidingAnswer answers = answers.replay 1 t.forwardLimit.1 := by
        simp only [decidingAnswer, hzero]
        rw [if_pos hstale]
      have hbps' : first.1.bps = t.bps := hmoved.bps.trans hbps
      rw [decide_eq_true hstale] at hagain
      rw [hr, hagain, if_pos rfl, hdeciding]
      refine ⟨(hit_replayAttempt _ _ _ _).trans (hitAfter_congr hbps' _), fun hnone => ?_⟩
      obtain ⟨hcursor, hsteps⟩ := replayAttempt_free (answers.replay 1 t.forwardLimit.1)
        answers.setPositionOnThread t.cursor.position first.1 ((hitAfter_congr hbps' _).trans hnone)
      exact ⟨hcursor, congrArg Prod.fst hsteps⟩
    · have hdeciding : t.decidingAnswer answers = answers.replay 0 t.forwardLimit.1 := by
        simp only [decidingAnswer, hzero]
        rw [if_neg hstale]
      rw [decide_eq_false hstale] at hagain
      rw [hr, hagain, if_neg Bool.false_ne_true, hdeciding]
      refine ⟨hhit, fun hnone => ?_⟩
      rw [hzero] at hnone
      cases hnone

/-- The recorded exception at the limit of the run is where the cursor was left. -/
def StandsAtException (answers : RunAnswers) (t : TtdSession) : Prop :=
  ∃ event, t.forwardLimit.2 = some event ∧
    event.position = (t.decidingAnswer answers).cursor.position

/-- What the replays of a forward run leave, told by the deciding answer. -/
structure ForwardOutcome (answers : RunAnswers) (t : TtdSession)
    (r : TtdSession × ULONG64 × Option ExceptionEvent) : Prop where
  pending : r.1.gTtdWatchHit = t.hitAfter (t.decidingAnswer answers)
  interrupt : r.1.gTtdInterruptRequested = t.gTtdInterruptRequested
  onHit : ∀ hit, t.hitAfter (t.decidingAnswer answers) = some hit →
    r.1.cursor.position = hit.position
  free : t.hitAfter (t.decidingAnswer answers) = none →
    r.1.cursor = (t.decidingAnswer answers).cursor ∧
      r.2.1 = (t.decidingAnswer answers).stepsExecuted
  event : r.2.2 = t.forwardLimit.2.filter fun event => event.position = r.1.cursor.position

theorem selectHit_free (setPositionOnThread : ULONG → TtdPosition → TtdCursor) (stepCount : ULONG64)
    {t : TtdSession} (h : t.gTtdWatchHit = none) :
    t.selectHit setPositionOnThread stepCount = (t, stepCount) := by
  simp [selectHit, h]

theorem selectHit_pending {setPositionOnThread : ULONG → TtdPosition → TtdCursor}
    (hset : ∀ thread position, (setPositionOnThread thread position).position = position)
    (stepCount : ULONG64) {t : TtdSession} {hit : TtdWatchHit} (h : t.gTtdWatchHit = some hit) :
    (t.selectHit setPositionOnThread stepCount).1.cursor.position = hit.position := by
  simp only [selectHit, h]
  split
  · exact hset _ _
  · rename_i hat
    exact not_not.mp hat

theorem replayRun_forward {answers : RunAnswers} (t : TtdSession)
    (hset : ∀ thread position, (answers.setPositionOnThread thread position).position = position) :
    ForwardOutcome answers t (t.replayRun answers false) := by
  have hattempts := @replayAttempts_deciding answers t { t with gTtdWatchHit := none, gPaused := false } rfl
  have hinterrupt := interrupt_replayAttempts (fun i => answers.replay i t.forwardLimit.1)
    answers.setPositionOnThread t.cursor.position { t with gTtdWatchHit := none, gPaused := false }
  dsimp only at hattempts
  generalize ha : { t with gTtdWatchHit := none, gPaused := false }.replayAttempts
    (fun i => answers.replay i t.forwardLimit.1) answers.setPositionOnThread t.cursor.position = a
    at hattempts hinterrupt
  obtain ⟨hpending, hfree⟩ := hattempts
  have hrun : t.replayRun answers false =
      ((a.1.selectHit answers.setPositionOnThread a.2.1).1,
        (a.1.selectHit answers.setPositionOnThread a.2.1).2,
        t.forwardLimit.2.filter fun event =>
          event.position = (a.1.selectHit answers.setPositionOnThread a.2.1).1.cursor.position) := by
    rw [← ha]
    unfold replayRun
    dsimp only
    rw [if_neg (fun h => Bool.false_ne_true h.1)]
    rfl
  rw [hrun]
  refine ⟨?_, ?_, fun hit hhit => ?_, fun hnone => ?_, rfl⟩
  · exact (hit_selectHit _ _ _).trans hpending
  · exact (interrupt_selectHit _ _ _).trans hinterrupt
  · exact selectHit_pending hset _ (hpending.trans hhit)
  · rw [selectHit_free _ _ (hpending.trans hnone)]
    exact hfree hnone

theorem nearestException_forward (before limit : TtdPosition) (events : List ExceptionEvent) :
    nearestException false before limit events =
      Nearest.scan (fun event : ExceptionEvent => event.position) before limit events := by
  simp [nearestException, Nearest.scan]

/-- The limit of a forward run: the end of the trace with no recorded exception ahead of
it, or the nearest recorded exception. -/
theorem forwardLimit_cases (t : TtdSession) :
    (t.forwardLimit = (t.gTtdEngine.lastPosition, none) ∧
      ∀ event ∈ t.gTtdEngine.exceptionEvents, t.cursor.position < event.position →
        t.gTtdEngine.lastPosition ≤ event.position) ∨
    ∃ event ∈ t.gTtdEngine.exceptionEvents, t.forwardLimit = (event.position, some event) ∧
      t.cursor.position < event.position ∧ event.position < t.gTtdEngine.lastPosition ∧
      ∀ other ∈ t.gTtdEngine.exceptionEvents, t.cursor.position < other.position →
        event.position ≤ other.position := by
  have hscan := Nearest.scan_outcome (fun event : ExceptionEvent => event.position)
    t.cursor.position t.gTtdEngine.lastPosition t.gTtdEngine.exceptionEvents
  rw [← nearestException_forward] at hscan
  unfold forwardLimit
  generalize nearestException false _ _ _ = nearest at hscan
  cases hscan with
  | free beyond => exact .inl ⟨rfl, beyond⟩
  | @found event mem after within least => exact .inr ⟨event, mem, rfl, after, within, least⟩

theorem forwardLimit_some {t : TtdSession} {event : ExceptionEvent}
    (h : t.forwardLimit.2 = some event) : event.position < t.gTtdEngine.lastPosition := by
  obtain ⟨hlimit, -⟩ | ⟨found, -, hlimit, -, hwithin, -⟩ := t.forwardLimit_cases
  · rw [hlimit] at h
    cases h
  · rw [hlimit] at h
    exact Option.some.inj h ▸ hwithin

/-- The cursor reached the end of the trace, as the replays of a forward run leave it. -/
def ReachesEnd (answers : RunAnswers) (t : TtdSession) : Prop :=
  (t.replayRun answers false).1.cursor.position = t.gTtdEngine.lastPosition

/-- A forward run reports the process exit and publishes its boundary just if it reached
the end of the trace, and then it leaves the cursor one step before it. -/
structure ExitExact (answers : RunAnswers) (lastExecutable : TtdPosition) (t : TtdSession) : Prop where
  reported : TtdWork.exitProcess ∈ (t.runTtd answers false).1.queuedSince t ↔ t.ReachesEnd answers
  published : (∃ boundary, TtdEntry.published boundary ∈ (t.runTtd answers false).1.notedSince t) ↔
    t.ReachesEnd answers
  parked : t.ReachesEnd answers → (t.runTtd answers false).1.cursor.position = lastExecutable ∧
    (t.runTtd answers false).1.cursor.position ≠ t.gTtdEngine.lastPosition

/-- The stop of a forward run explains itself. At the end of the trace: no hit, something
executed, no pause request, and a step back that leads one step before the end. Short of
it: a hit, a recorded exception, or a pause request that came in time to prevent parking. -/
def ExitClear (answers : RunAnswers) (lastExecutable : TtdPosition) (t : TtdSession) : Prop :=
  match t.hitAfter (t.decidingAnswer answers) with
  | some hit => hit.position ≠ t.gTtdEngine.lastPosition
  | none =>
    ((t.decidingAnswer answers).cursor.position = t.gTtdEngine.lastPosition →
      (t.decidingAnswer answers).stepsExecuted ≠ 0 ∧ ¬ t.PauseRaised answers ∧
        answers.park.stepsExecuted ≠ 0 ∧ answers.park.cursor.position = lastExecutable) ∧
    ((t.decidingAnswer answers).cursor.position ≠ t.gTtdEngine.lastPosition →
      t.StandsAtException answers ∨ t.PauseRaised answers ∧
        ((t.decidingAnswer answers).stepsExecuted = 0 ∨ answers.park.stepsExecuted = 0 ∨
          t.RaisedBeforeParking answers))

theorem notedSince_append {t t' : TtdSession} {entries : List TtdEntry}
    (h : t'.noted = t.noted ++ entries) : t'.notedSince t = entries := by
  rw [notedSince, h, List.drop_left]

section Forward
variable {answers : RunAnswers} {t : TtdSession}

theorem exit_queued_iff (hstop : t.gTtdStopRequested = false) :
    TtdWork.exitProcess ∈ (t.runTtd answers false).1.queuedSince t ↔
      (t.replayRun answers false).1.gTtdWatchHit = none ∧ (t.replayRun answers false).2.2 = none ∧
        ((t.replayRun answers false).1.gTtdInterruptRequested ||
          decide (PauseStep.raise ∈ answers.requests.beforeParking) ||
          decide (PauseStep.raise ∈ answers.requests.beforeExchange)) = false := by
  obtain ⟨works, work, hworks, hreport, hqueue, -, -⟩ := runTtd_outcome answers false hstop
  have hlast : TtdWork.exitProcess ∈ works ++ [work] ↔ work = .exitProcess := by
    rw [List.mem_append, List.mem_singleton, eq_comm]
    exact or_iff_right fun h => hworks _ h
  rw [queuedSince_append hqueue, hlast]
  cases hreport with
  | pause callback flag => simp [flag]
  | hit flag pending reported =>
    rw [pending]
    cases reported <;> simp
  | @exception found _ flag nothing stands reported =>
    rw [stands]
    have hne : work ≠ .exitProcess := by
      rintro rfl
      cases reported
    simp [hne]
  | ending flag nothing free => simp [flag, nothing, free]

theorem published_iff (hstop : t.gTtdStopRequested = false) :
    (∃ boundary, TtdEntry.published boundary ∈ (t.runTtd answers false).1.notedSince t) ↔
      TakenForExit answers false (t.replayRun answers false).2.1 (t.replayRun answers false).2.2
        (t.replayRun answers false).1 ∧ answers.park.stepsExecuted ≠ 0 := by
  obtain ⟨works, work, -, -, -, hnoted, -⟩ := runTtd_outcome answers false hstop
  have hrun : t.Replayed (t.replayRun answers false).1 := replayed_replayRun answers false t
  have hpark := parkRun_outcome answers false (t.replayRun answers false).2.1
    (t.replayRun answers false).2.2 (hrun.stop.trans hstop)
  by_cases htaken : TakenForExit answers false (t.replayRun answers false).2.1
      (t.replayRun answers false).2.2 (t.replayRun answers false).1
  · have hparked := (hpark.parked htaken).2
    rw [← hnoted, hrun.noted] at hparked
    rw [notedSince_append hparked, and_iff_right htaken]
    by_cases hexecuted : answers.park.stepsExecuted ≠ 0
    · rw [if_pos hexecuted]
      exact ⟨fun _ => hexecuted, fun _ => ⟨_, List.mem_cons_self⟩⟩
    · rw [if_neg hexecuted]
      exact ⟨fun ⟨_, hmem⟩ => absurd hmem List.not_mem_nil, fun h => absurd h hexecuted⟩
  · have hpassed := (hpark.passed htaken).2
    rw [← hnoted, hrun.noted, ← List.append_nil t.noted] at hpassed
    rw [notedSince_append hpassed]
    simp [htaken]

theorem cursor_runTtd (hstop : t.gTtdStopRequested = false) :
    (TakenForExit answers false (t.replayRun answers false).2.1 (t.replayRun answers false).2.2
        (t.replayRun answers false).1 → (t.runTtd answers false).1.cursor = answers.park.cursor) ∧
      (¬ TakenForExit answers false (t.replayRun answers false).2.1 (t.replayRun answers false).2.2
        (t.replayRun answers false).1 →
          (t.runTtd answers false).1.cursor = (t.replayRun answers false).1.cursor) := by
  obtain ⟨works, work, -, -, -, -, hcursor⟩ := runTtd_outcome answers false hstop
  have hrun : t.Replayed (t.replayRun answers false).1 := replayed_replayRun answers false t
  have hpark := parkRun_outcome answers false (t.replayRun answers false).2.1
    (t.replayRun answers false).2.2 (hrun.stop.trans hstop)
  exact ⟨fun h => hcursor.trans (hpark.parked h).1, fun h => hcursor.trans (hpark.passed h).1⟩

theorem exit_exact_on_hit {lastExecutable : TtdPosition} {hit : TtdWatchHit}
    (hset : ∀ thread position, (answers.setPositionOnThread thread position).position = position)
    (hstop : t.gTtdStopRequested = false) (hhit : t.hitAfter (t.decidingAnswer answers) = some hit) :
    t.ExitExact answers lastExecutable ↔ hit.position ≠ t.gTtdEngine.lastPosition := by
  have hforward := replayRun_forward t hset
  have hpending := hforward.pending.trans hhit
  have hreaches : t.ReachesEnd answers ↔ hit.position = t.gTtdEngine.lastPosition := by
    unfold ReachesEnd
    rw [hforward.onHit hit hhit]
  have hqueued : TtdWork.exitProcess ∉ (t.runTtd answers false).1.queuedSince t := by
    rw [exit_queued_iff hstop, hpending]
    simp
  have hpublished :
      ¬ ∃ boundary, TtdEntry.published boundary ∈ (t.runTtd answers false).1.notedSince t := by
    rw [published_iff hstop]
    rintro ⟨⟨_, _, hnone, _⟩, _⟩
    cases hnone.symm.trans hpending
  constructor
  · intro h hend
    exact hqueued (h.reported.mpr (hreaches.mpr hend))
  · intro hshort
    have hnot : ¬ t.ReachesEnd answers := fun h => hshort (hreaches.mp h)
    exact ⟨iff_of_false hqueued hnot, iff_of_false hpublished hnot, fun h => absurd h hnot⟩

theorem taken_iff (hforward : ForwardOutcome answers t (t.replayRun answers false))
    (hfree : t.hitAfter (t.decidingAnswer answers) = none) :
    TakenForExit answers false (t.replayRun answers false).2.1 (t.replayRun answers false).2.2
      (t.replayRun answers false).1 ↔
        (t.decidingAnswer answers).stepsExecuted ≠ 0 ∧ ¬ t.StandsAtException answers ∧
          ¬ t.RaisedBeforeParking answers := by
  obtain ⟨hcursor, hsteps⟩ := hforward.free hfree
  have hpending := hforward.pending.trans hfree
  have hevent : (t.replayRun answers false).2.2 = none ↔ ¬ t.StandsAtException answers := by
    rw [hforward.event, hcursor, Option.filter_eq_none_iff]
    simp [StandsAtException]
  unfold TakenForExit
  rw [hsteps, hforward.interrupt, hevent]
  simp [hpending, RaisedBeforeParking]

theorem exit_queued_free_iff (hstop : t.gTtdStopRequested = false)
    (hforward : ForwardOutcome answers t (t.replayRun answers false))
    (hfree : t.hitAfter (t.decidingAnswer answers) = none) :
    TtdWork.exitProcess ∈ (t.runTtd answers false).1.queuedSince t ↔
      ¬ t.StandsAtException answers ∧ ¬ t.PauseRaised answers := by
  obtain ⟨hcursor, -⟩ := hforward.free hfree
  have hevent : (t.replayRun answers false).2.2 = none ↔ ¬ t.StandsAtException answers := by
    rw [hforward.event, hcursor, Option.filter_eq_none_iff]
    simp [StandsAtException]
  rw [exit_queued_iff hstop, hforward.interrupt, ← raised_iff, Bool.not_eq_true, hevent]
  exact and_iff_right (hforward.pending.trans hfree)

/-- Neither an exit nor a boundary: what it takes, besides a recorded exception. -/
private theorem silent_iff {raised parking : Prop} (stands idle stuck : Prop) (h : parking → raised) :
    (¬ (¬ stands ∧ ¬ raised) ∧ ¬ ((¬ idle ∧ ¬ stands ∧ ¬ parking) ∧ ¬ stuck)) ↔
      stands ∨ raised ∧ (idle ∨ stuck ∨ parking) := by
  tauto

/-- A forward run reports the exit as it should if and only if its stop explains itself. -/
theorem exit_exact_iff {lastExecutable : TtdPosition}
    (hset : ∀ thread position, (answers.setPositionOnThread thread position).position = position)
    (hstop : t.gTtdStopRequested = false) (hlast : lastExecutable ≠ t.gTtdEngine.lastPosition) :
    t.ExitExact answers lastExecutable ↔ t.ExitClear answers lastExecutable := by
  unfold ExitClear
  cases hhit : t.hitAfter (t.decidingAnswer answers) with
  | some hit => exact exit_exact_on_hit hset hstop hhit
  | none =>
    have hforward := replayRun_forward t hset
    have htaken := taken_iff hforward hhit
    have hqueued := exit_queued_free_iff hstop hforward hhit
    have hpublished := @published_iff answers t hstop
    obtain ⟨hparked, hpassed⟩ := @cursor_runTtd answers t hstop
    have hreaches : t.ReachesEnd answers ↔
        (t.decidingAnswer answers).cursor.position = t.gTtdEngine.lastPosition := by
      unfold ReachesEnd
      rw [(hforward.free hhit).1]
    rw [htaken] at hparked hpassed hpublished
    by_cases hend : (t.decidingAnswer answers).cursor.position = t.gTtdEngine.lastPosition
    · have hreached := hreaches.mpr hend
      -- No recorded exception stands at the end of the trace.
      have hstands : ¬ t.StandsAtException answers := by
        rintro ⟨event, hevent, hposition⟩
        exact (forwardLimit_some hevent).ne (hposition.trans hend)
      constructor
      · intro h
        have hquiet := (hqueued.mp (h.reported.mpr hreached)).2
        obtain ⟨⟨hsteps, _, hraised⟩, hexecuted⟩ := hpublished.mp (h.published.mpr hreached)
        have hposition := (h.parked hreached).1
        rw [hparked ⟨hsteps, hstands, hraised⟩] at hposition
        exact ⟨fun _ => ⟨hsteps, hquiet, hexecuted, hposition⟩, fun h => absurd hend h⟩
      · rintro ⟨hclear, -⟩
        obtain ⟨hsteps, hquiet, hexecuted, hposition⟩ := hclear hend
        have hraised : ¬ t.RaisedBeforeParking answers := fun h => hquiet (.inl h)
        have hcursor := hparked ⟨hsteps, hstands, hraised⟩
        refine ⟨iff_of_true (hqueued.mpr ⟨hstands, hquiet⟩) hreached,
          iff_of_true (hpublished.mpr ⟨⟨hsteps, hstands, hraised⟩, hexecuted⟩) hreached, fun _ => ?_⟩
        rw [hcursor, hposition]
        exact ⟨rfl, hlast⟩
    · have hnot : ¬ t.ReachesEnd answers := fun h => hend (hreaches.mp h)
      have hsilent := silent_iff (t.StandsAtException answers)
        ((t.decidingAnswer answers).stepsExecuted = 0) (answers.park.stepsExecuted = 0)
        (show t.RaisedBeforeParking answers → t.PauseRaised answers from Or.inl)
      constructor
      · intro h
        have hunqueued := mt h.reported.mp hnot
        have hunpublished := mt h.published.mp hnot
        rw [hqueued] at hunqueued
        rw [hpublished] at hunpublished
        exact ⟨fun h => absurd h hend, fun _ => hsilent.mp ⟨hunqueued, hunpublished⟩⟩
      · rintro ⟨-, hclear⟩
        obtain ⟨hunqueued, hunpublished⟩ := hsilent.mpr (hclear hend)
        rw [← hqueued] at hunqueued
        rw [← hpublished] at hunpublished
        exact ⟨iff_of_false hunqueued hnot, iff_of_false hunpublished hnot, fun h => absurd h hnot⟩

end Forward

end TtdSession

/-- A forward replay that stops at `position`, and the step back that parks the cursor. -/
def movedTo (stopReason : EventType) (position : TtdPosition) : ReplayAnswer where
  stopReason := stopReason
  stepsExecuted := 100
  cursor := ⟨position, mainThread⟩

def steppedBackTo (position : TtdPosition) : ReplayAnswer where
  stopReason := .stepCount
  stepsExecuted := 1
  cursor := ⟨position, mainThread⟩

def forwardAnswers (stop parked : ReplayAnswer) (requests : PauseRequests) : RunAnswers where
  replay _ _ := stop
  singleStep _ _ := parked
  park := parked
  setPositionOnThread _ position := ⟨position, mainThread⟩
  requests := requests

theorem exit_exact_at_end :
    shortReplay.ExitExact
      (forwardAnswers (movedTo .process ⟨9, 0⟩) (steppedBackTo ⟨8, 5⟩) {}) ⟨8, 5⟩ := by
  refine (TtdSession.exit_exact_iff (fun _ _ => rfl) rfl (by decide)).mpr ?_
  have hfree : shortReplay.hitAfter (shortReplay.decidingAnswer
      (forwardAnswers (movedTo .process ⟨9, 0⟩) (steppedBackTo ⟨8, 5⟩) {})) = none := rfl
  unfold TtdSession.ExitClear
  rw [hfree]
  refine ⟨fun _ => ⟨by decide, ?_, by decide, rfl⟩, fun hshort => absurd rfl hshort⟩
  unfold TtdSession.PauseRaised TtdSession.RaisedBeforeParking
  decide

/-- A request whose flag an earlier run has fetched interrupts the engine in this one. -/
def interruptedAnswers : RunAnswers :=
  forwardAnswers (movedTo .interrupted ⟨3, 0⟩) (steppedBackTo ⟨2, 9⟩)
    { beforeParking := [.interruptReplay] }

/-- A replay interrupted in the middle of the trace counts as the process exit. -/
theorem exit_reported_midway :
    shortReplay.gTtdStopRequested = false ∧ ¬ shortReplay.ExitExact interruptedAnswers ⟨8, 5⟩ := by
  refine ⟨rfl, fun h => ?_⟩
  have hreached : shortReplay.ReachesEnd interruptedAnswers := h.reported.mp (by decide)
  revert hreached
  unfold TtdSession.ReachesEnd
  decide

/-- A code breakpoint, and the execution that a forward run stops on. -/
def codeBreakpoint : BreakpointInfo :=
  { BreakpointInfo.blank with id := 7, offset := 0x401050, callback := some 3 }

def brokenReplay : TtdSession :=
  { shortReplay with bps := { gBreakpoints := {(7, codeBreakpoint)} }, gTtdCursor := some [] }

def execution : MemoryWatchpointResult := ⟨0x401050, 1, .execute⟩

def stoppedOnHit : ReplayAnswer where
  stopReason := .memoryWatchpoint
  stepsExecuted := 5
  cursor := ⟨⟨2, 0⟩, mainThread⟩
  accesses := [(execution, some mainView)]

def hitAnswers (requests : PauseRequests) : RunAnswers :=
  forwardAnswers stoppedOnHit (steppedBackTo ⟨8, 5⟩) requests

/-- A whole `RequestPause` between the stop and the fetch of its flag. -/
def lateRequest : PauseRequests := { beforeExchange := [.claim 9, .raise, .interruptReplay] }

theorem hit_reported_quiet :
    ∃ work, brokenReplay.ReportedTo (TtdSession.hitOf execution mainView) work ∧
      work ∈ (brokenReplay.runTtd (hitAnswers {}) false).1.queuedSince brokenReplay := by
  have hstops : brokenReplay.StopsOn (hitAnswers {}) false (TtdSession.hitOf execution mainView) := by
    unfold TtdSession.StopsOn
    decide
  refine (TtdSession.hit_reported_iff rfl hstops).mpr ?_
  unfold TtdSession.PauseRaised TtdSession.RaisedBeforeParking
  decide

/-- With a pause request after the stop, the run queues the pause and drops the hit. -/
theorem hit_dropped_by_pause :
    brokenReplay.StopsOn (hitAnswers lateRequest) false (TtdSession.hitOf execution mainView) ∧
      ¬ ∃ work, brokenReplay.ReportedTo (TtdSession.hitOf execution mainView) work ∧
        work ∈ (brokenReplay.runTtd (hitAnswers lateRequest) false).1.queuedSince brokenReplay := by
  refine ⟨by unfold TtdSession.StopsOn; decide, ?_⟩
  rintro ⟨work, hwork, hmem⟩
  have hqueued : (brokenReplay.runTtd (hitAnswers lateRequest) false).1.queuedSince brokenReplay =
      [.pause (some 9)] := by decide
  rw [hqueued] at hmem
  cases List.mem_singleton.mp hmem
  cases hwork

end TitanEngine

import TitanEngine.Replay.Failures

/-! Hits that the engine reports once more where a run starts, and whether the run passes them on. -/
namespace TitanEngine
namespace TtdSession

/-- The limit of a run, in either direction. -/
def runLimit (reverse : Bool) (t : TtdSession) : TtdPosition :=
  (nearestException reverse t.cursor.position
    (if reverse then t.gTtdEngine.firstPosition else t.gTtdEngine.lastPosition) t.gTtdEngine.exceptionEvents).1

/-- The answer that decides the two attempts of a run. -/
def attemptAnswer (answers : RunAnswers) (reverse : Bool) (t : TtdSession) : ReplayAnswer :=
  t.decidingStep fun i => answers.replay i (t.runLimit reverse)

/-- A replay leaves a hit at the position where the run starts. -/
def HitsStart (answer : ReplayAnswer) (t : TtdSession) : Prop :=
  ∃ hit, t.hitAfter answer = some hit ∧ hit.position = t.cursor.position

/-- The backward step `k` of the fallback goes on: it executes something, without a hit, and stays
above the limit. -/
structure Passes (answers : RunAnswers) (limit : TtdPosition) (t : TtdSession) (k : ℕ) : Prop where
  free : t.hitAfter (answers.singleStep k limit) = none
  executes : (answers.singleStep k limit).stepsExecuted ≠ 0
  above : ¬ (answers.singleStep k limit).cursor.position ≤ limit

/-- From its step `i` on, the fallback comes to the step `i + n`. -/
structure BacksTo (answers : RunAnswers) (limit : TtdPosition) (t : TtdSession) (i n : ℕ) : Prop where
  quiet : t.gTtdInterruptRequested = false
  unraised : ∀ j ≤ n, PauseStep.raise ∉ answers.requests.beforeFallbackStep (i + j)
  passes : ∀ j < n, Passes answers limit t (i + j)

/-- The last replay of a run leaves a hit at the start: the attempt that decides, or the step that
the fallback ends on. -/
def EndsAtStart (answers : RunAnswers) (reverse : Bool) (t : TtdSession) : Prop :=
  t.HitsStart (t.attemptAnswer answers reverse) ∨
    reverse = true ∧ (t.attemptAnswer answers reverse).stepsExecuted = 0 ∧
      t.hitAfter (t.attemptAnswer answers reverse) = none ∧
      ∃ n < 1000000, BacksTo answers (t.runLimit reverse) t 0 n ∧
        t.HitsStart (answers.singleStep n (t.runLimit reverse))

/-- A run queues the callback of a breakpoint for a hit at the position where it started, and the
cursor is still there. -/
def ReportsStale (answers : RunAnswers) (reverse : Bool) (t : TtdSession) : Prop :=
  ∃ hit work, t.ReportedTo hit work ∧ work ∈ (t.runTtd answers reverse).1.queuedSince t ∧
    hit.position = t.cursor.position ∧ (t.runTtd answers reverse).1.cursor.position = t.cursor.position

section Fallback
variable {answers : RunAnswers} {limit : TtdPosition} {t : TtdSession} {i n : ℕ}

theorem backsTo_zero_iff : BacksTo answers limit t i 0 ↔
    t.gTtdInterruptRequested = false ∧ PauseStep.raise ∉ answers.requests.beforeFallbackStep i := by
  constructor
  · intro h
    exact ⟨h.quiet, h.unraised 0 (Nat.le_refl 0)⟩
  · rintro ⟨hquiet, hraise⟩
    refine ⟨hquiet, fun j hj => ?_, fun j hj => absurd hj (Nat.not_lt_zero j)⟩
    obtain rfl : j = 0 := by omega
    exact hraise

theorem backsTo_succ_iff : BacksTo answers limit t i (n + 1) ↔
    PauseStep.raise ∉ answers.requests.beforeFallbackStep i ∧ Passes answers limit t i ∧
      BacksTo answers limit t (i + 1) n := by
  constructor
  · intro h
    refine ⟨h.unraised 0 (Nat.zero_le _), h.passes 0 (Nat.succ_pos n), h.quiet, fun j hj => ?_, fun j hj => ?_⟩
    · rw [Nat.add_assoc, Nat.add_comm 1 j]
      exact h.unraised (j + 1) (by omega)
    · rw [Nat.add_assoc, Nat.add_comm 1 j]
      exact h.passes (j + 1) (by omega)
  · rintro ⟨hraise, hpasses, hrest⟩
    refine ⟨hrest.quiet, fun j hj => ?_, fun j hj => ?_⟩
    · cases j with
      | zero => exact hraise
      | succ j =>
        have hlater := hrest.unraised j (by omega)
        rwa [Nat.add_assoc, Nat.add_comm 1 j] at hlater
    · cases j with
      | zero => exact hpasses
      | succ j =>
        have hlater := hrest.passes j (by omega)
        rwa [Nat.add_assoc, Nat.add_comm 1 j] at hlater

/-- Stepping back looks at the breakpoints and the flag, not at the cursor. -/
theorem backsTo_congr {t' : TtdSession} (hbps : t'.bps = t.bps)
    (hflag : t'.gTtdInterruptRequested = t.gTtdInterruptRequested) :
    BacksTo answers limit t' i n ↔ BacksTo answers limit t i n := by
  have hpasses : ∀ k, Passes answers limit t' k ↔ Passes answers limit t k := by
    intro k
    have hhit := hitAfter_congr hbps (answers.singleStep k limit)
    constructor
    · rintro ⟨hfree, hexecutes, habove⟩
      exact ⟨hhit.symm.trans hfree, hexecutes, habove⟩
    · rintro ⟨hfree, hexecutes, habove⟩
      exact ⟨hhit.trans hfree, hexecutes, habove⟩
  constructor
  · rintro ⟨hquiet, hunraised, hsteps⟩
    exact ⟨hflag.symm.trans hquiet, hunraised, fun j hj => (hpasses _).mp (hsteps j hj)⟩
  · rintro ⟨hquiet, hunraised, hsteps⟩
    exact ⟨hflag.trans hquiet, hunraised, fun j hj => (hpasses _).mpr (hsteps j hj)⟩

/-- A step that is no hit: the rest of the fallback decides. -/
theorem exists_later_iff {fuel : ℕ} {hit : TtdWatchHit} (hfree : t.hitAfter (answers.singleStep i limit) = none)
    (hraise : PauseStep.raise ∉ answers.requests.beforeFallbackStep i) :
    (∃ n < fuel + 1, BacksTo answers limit t i n ∧ t.hitAfter (answers.singleStep (i + n) limit) = some hit) ↔
      Passes answers limit t i ∧
        ∃ n < fuel, BacksTo answers limit t (i + 1) n ∧
          t.hitAfter (answers.singleStep (i + 1 + n) limit) = some hit := by
  constructor
  · rintro ⟨n, hn, hbacks, hhit⟩
    cases n with
    | zero =>
      rw [Nat.add_zero, hfree] at hhit
      cases hhit
    | succ n =>
      obtain ⟨-, hpasses, hrest⟩ := backsTo_succ_iff.mp hbacks
      rw [Nat.add_comm n 1, ← Nat.add_assoc] at hhit
      exact ⟨hpasses, n, by omega, hrest, hhit⟩
  · rintro ⟨hpasses, n, hn, hrest, hhit⟩
    rw [Nat.add_assoc, Nat.add_comm 1 n] at hhit
    exact ⟨n + 1, by omega, backsTo_succ_iff.mpr ⟨hraise, hpasses, hrest⟩, hhit⟩

/-- The fallback ends on a hit iff it comes to a step whose answer is one. -/
theorem hit_fallbackSteps_iff {fuel : ℕ} {total : ULONG64} {hit : TtdWatchHit} (hnone : t.gTtdWatchHit = none)
    (hstop : t.gTtdStopRequested = false) :
    (fallbackSteps answers limit fuel i total t).1.gTtdWatchHit = some hit ↔
      ∃ n < fuel, BacksTo answers limit t i n ∧ t.hitAfter (answers.singleStep (i + n) limit) = some hit := by
  induction fuel generalizing i total t with
  | zero => simp [fallbackSteps, hnone]
  | succ fuel ih =>
    obtain ⟨callback, interrupt, hpause⟩ := pauseSteps_eq (answers.requests.beforeFallbackStep i) t
    have hflag := interrupt_pauseSteps (answers.requests.beforeFallbackStep i) t
    unfold fallbackSteps
    rw [hpause] at hflag ⊢
    dsimp only at hflag ⊢
    by_cases hquiet : interrupt = true
    · -- A request has come: the fallback makes no step.
      rw [if_pos (.inr hquiet)]
      refine iff_of_false (by rw [hnone]; simp) ?_
      rintro ⟨n, -, hbacks, -⟩
      have hraise := hbacks.unraised 0 (Nat.zero_le n)
      rw [Nat.add_zero] at hraise
      rw [hquiet, hbacks.quiet] at hflag
      simp [hraise] at hflag
    · rw [Bool.not_eq_true] at hquiet
      have hclear : t.gTtdInterruptRequested = false ∧
          PauseStep.raise ∉ answers.requests.beforeFallbackStep i := by
        rw [hquiet] at hflag
        simpa using hflag.symm
      rw [if_neg (by simp [hstop, hquiet])]
      have hafter := @hitAfter_congr t
        { t with gPauseCallback := callback, gTtdInterruptRequested := interrupt } rfl
        (answers.singleStep i limit)
      unfold hitAfter at hafter
      obtain ⟨found, hreplay⟩ := ttdReplay_eq (answers.singleStep i limit)
        { t with gPauseCallback := callback, gTtdInterruptRequested := interrupt, gTtdWatchHit := none }
      rw [hreplay] at hafter ⊢
      change found = t.hitAfter (answers.singleStep i limit) at hafter
      dsimp only
      cases found with
      | some found =>
        -- The step is a hit, so the fallback ends here.
        rw [if_neg (by simp), if_pos (by simp)]
        constructor
        · intro heq
          refine ⟨0, Nat.succ_pos fuel, backsTo_zero_iff.mpr hclear, ?_⟩
          rw [Nat.add_zero, ← hafter]
          exact heq
        · rintro ⟨n, -, hbacks, hhit⟩
          cases n with
          | zero =>
            rw [Nat.add_zero, ← hafter] at hhit
            exact hhit
          | succ n =>
            have hfree := (backsTo_succ_iff.mp hbacks).2.1.free
            rw [← hafter] at hfree
            cases hfree
      | none =>
        rw [exists_later_iff hafter.symm hclear.2]
        by_cases hexecutes : (answers.singleStep i limit).stepsExecuted = 0
        · rw [if_pos ⟨hexecutes, rfl⟩]
          exact iff_of_false (by simp) fun h => h.1.executes hexecutes
        · rw [if_neg fun h => hexecutes h.1]
          by_cases habove : (answers.singleStep i limit).cursor.position ≤ limit
          · rw [if_pos (.inr habove)]
            exact iff_of_false (by simp) fun h => h.1.above habove
          · rw [if_neg (by simp [habove]), and_iff_right ⟨hafter.symm, hexecutes, habove⟩]
            refine Iff.trans (ih rfl ?_) (exists_congr fun n => and_congr_right fun _ => and_congr ?_ ?_)
            · exact hstop
            · exact backsTo_congr rfl (hquiet.trans hclear.1.symm)
            · exact Eq.congr_left (hitAfter_congr (by rfl) _)

end Fallback

section Runs
variable {answers : RunAnswers} {reverse : Bool} {t : TtdSession}

theorem decidingStep_congr {t' : TtdSession} (hbps : t'.bps = t.bps) (hcursor : t'.cursor = t.cursor)
    (attempt : ℕ → ReplayAnswer) : t'.decidingStep attempt = t.decidingStep attempt := by
  unfold decidingStep
  rw [hitAfter_congr hbps, hcursor]

/-- The two attempts of a run. -/
def runAttempts (answers : RunAnswers) (reverse : Bool) (t : TtdSession) : TtdSession × ULONG64 × Bool :=
  { t with gTtdWatchHit := none, gPaused := false }.replayAttempts
    (fun i => answers.replay i (t.runLimit reverse)) answers.setPositionOnThread t.cursor.position

theorem hit_replayRun : (t.replayRun answers reverse).1.gTtdWatchHit =
    if reverse = true ∧ (t.runAttempts answers reverse).2.1 = 0 ∧
        (t.runAttempts answers reverse).1.gTtdWatchHit = none then
      (fallbackSteps answers (t.runLimit reverse) 1000000 0 0 (t.runAttempts answers reverse).1).1.gTtdWatchHit
    else (t.runAttempts answers reverse).1.gTtdWatchHit := by
  unfold replayRun runAttempts runLimit
  dsimp only
  rw [hit_selectHit]
  generalize nearestException reverse _ _ _ = nearest
  split <;> rfl

theorem stopsOn_iff {hit : TtdWatchHit} (hstop : t.gTtdStopRequested = false) :
    t.StopsOn answers reverse hit ↔
      t.hitAfter (t.attemptAnswer answers reverse) = some hit ∨
        reverse = true ∧ (t.attemptAnswer answers reverse).stepsExecuted = 0 ∧
          t.hitAfter (t.attemptAnswer answers reverse) = none ∧
          ∃ n < 1000000, BacksTo answers (t.runLimit reverse) t 0 n ∧
            t.hitAfter (answers.singleStep n (t.runLimit reverse)) = some hit := by
  let started : TtdSession := { t with gTtdWatchHit := none, gPaused := false }
  let attempts := t.runAttempts answers reverse
  have htold : started.StepOutcome (fun i => answers.replay i (t.runLimit reverse)) attempts :=
    replayAttempts_told _ _ started
  have hmoved : started.Replayed attempts.1 := replayed_replayAttempts _ _ _ started
  have hbps : attempts.1.bps = t.bps := hmoved.bps
  have hflag : attempts.1.gTtdInterruptRequested = t.gTtdInterruptRequested :=
    interrupt_replayAttempts _ _ _ started
  have hsame : started.decidingStep (fun i => answers.replay i (t.runLimit reverse)) =
      t.attemptAnswer answers reverse := @decidingStep_congr t started rfl rfl _
  have hafter := @hitAfter_congr t started rfl (t.attemptAnswer answers reverse)
  have hpending : attempts.1.gTtdWatchHit = t.hitAfter (t.attemptAnswer answers reverse) := by
    rw [← hafter, ← hsame]
    exact htold.pending
  have hstuck : attempts.2.1 = 0 ↔ (t.attemptAnswer answers reverse).stepsExecuted = 0 ∧
      ∀ hit, t.hitAfter (t.attemptAnswer answers reverse) = some hit →
        hit.position = t.cursor.position := by
    rw [← hafter, ← hsame]
    exact htold.stuck
  rw [StopsOn, hit_replayRun]
  split
  · rename_i hfalls
    obtain ⟨hreverse, hzero, hnone⟩ := hfalls
    have hfree := hpending.symm.trans hnone
    have hfallback := @hit_fallbackSteps_iff answers (t.runLimit reverse) attempts.1 0 1000000 0 hit hnone
      (hmoved.stop.trans hstop)
    refine hfallback.trans ?_
    rw [hfree, or_iff_right (by simp), and_iff_right hreverse, and_iff_right (hstuck.mp hzero).1,
      and_iff_right rfl]
    refine exists_congr fun n => and_congr_right fun _ => and_congr ?_ ?_
    · exact backsTo_congr hbps hflag
    · rw [Nat.zero_add]
      exact Eq.congr_left (hitAfter_congr hbps _)
  · rename_i hfalls
    refine Iff.trans (Eq.congr_left hpending) (iff_self_or.mpr ?_)
    rintro ⟨hreverse, hzero, hnone, -⟩
    refine absurd ⟨hreverse, hstuck.mpr ⟨hzero, ?_⟩, hpending.trans hnone⟩ hfalls
    rw [hnone]
    intro hit hhit
    cases hhit

theorem cursor_of_stopsOn {hit : TtdWatchHit}
    (hset : ∀ thread position, (answers.setPositionOnThread thread position).position = position)
    (hstop : t.gTtdStopRequested = false) (hhit : t.StopsOn answers reverse hit) :
    (t.runTtd answers reverse).1.cursor.position = hit.position := by
  obtain ⟨-, -, -, -, -, -, hcursor⟩ := runTtd_outcome answers reverse hstop
  have hrun := replayed_replayRun answers reverse t
  have hpark := parkRun_outcome answers reverse (t.replayRun answers reverse).2.1
    (t.replayRun answers reverse).2.2 (hrun.stop.trans hstop)
  have hpending := hhit
  unfold StopsOn at hhit
  rw [hcursor, (hpark.passed fun htaken => ?_).1]
  · unfold StopsOn replayRun at hpending
    rw [hit_selectHit] at hpending
    exact selectHit_pending hset _ hpending
  · cases htaken.2.2.1.symm.trans hhit

theorem endsAtStart_iff (hstop : t.gTtdStopRequested = false) :
    t.EndsAtStart answers reverse ↔
      ∃ hit, t.StopsOn answers reverse hit ∧ hit.position = t.cursor.position := by
  simp only [stopsOn_iff hstop, or_and_right, exists_or]
  refine or_congr Iff.rfl ?_
  constructor
  · rintro ⟨hreverse, hzero, hfree, n, hn, hbacks, hit, hhit, hposition⟩
    exact ⟨hit, ⟨hreverse, hzero, hfree, n, hn, hbacks, hhit⟩, hposition⟩
  · rintro ⟨hit, ⟨hreverse, hzero, hfree, n, hn, hbacks, hhit⟩, hposition⟩
    exact ⟨hreverse, hzero, hfree, n, hn, hbacks, hit, hhit, hposition⟩

/-- A run that is to stop leaves its hit unreported. -/
theorem ofTimeline_of_stopped (hstop : t.gTtdStopRequested = true) :
    ∀ work ∈ (t.runTtd answers reverse).1.queuedSince t, work.OfTimeline := by
  have hrun := replayed_replayRun answers reverse t
  obtain ⟨callback, interrupt, hpause⟩ :=
    pauseSteps_eq answers.requests.beforeParking (t.replayRun answers reverse).1
  have hparked : (t.replayRun answers reverse).1.parkRun answers reverse (t.replayRun answers reverse).2.1
      (t.replayRun answers reverse).2.2 =
      { (t.replayRun answers reverse).1 with gPauseCallback := callback, gTtdInterruptRequested := interrupt } := by
    unfold parkRun
    rw [hpause]
    exact if_neg fun h => h.2.2.2.2.1 (hrun.stop.trans hstop)
  have hsettle := settleRun_outcome
    { (t.replayRun answers reverse).1 with gPauseCallback := callback, gTtdInterruptRequested := interrupt }
  obtain ⟨works, hworks, hqueue⟩ := hsettle.queued
  have hresult : (t.runTtd answers reverse).1.queue = t.queue ++ works := by
    unfold runTtd reportRun
    dsimp only
    rw [hparked, if_pos (hsettle.stop.trans (hrun.stop.trans hstop))]
    exact hqueue.trans (congrArg (· ++ works) hrun.queue)
  rw [queuedSince_append hresult]
  exact hworks

theorem reportsStale_iff (hstop : t.gTtdStopRequested = false)
    (hset : ∀ thread position, (answers.setPositionOnThread thread position).position = position) :
    t.ReportsStale answers reverse ↔ ¬ t.PauseRaised answers ∧ t.EndsAtStart answers reverse := by
  rw [endsAtStart_iff hstop]
  constructor
  · rintro ⟨hit, work, hreported, hmem, hposition, -⟩
    obtain ⟨hstops, hquiet⟩ := stopsOn_of_reported hstop hreported hmem
    exact ⟨hquiet, hit, hstops, hposition⟩
  · rintro ⟨hquiet, hit, hstops, hposition⟩
    obtain ⟨work, hreported, hmem⟩ := reported_of_stopsOn hstop hstops hquiet
    exact ⟨hit, work, hreported, hmem, hposition, (cursor_of_stopsOn hset hstop hstops).trans hposition⟩

/-- A run reports no hit where it started exactly when the replay that it ends on leaves
none there, or when something else keeps the hit from being reported. -/
theorem stale_unreported_iff
    (hset : ∀ thread position, (answers.setPositionOnThread thread position).position = position) :
    ¬ t.ReportsStale answers reverse ↔
      t.gTtdStopRequested = true ∨ t.PauseRaised answers ∨ ¬ t.EndsAtStart answers reverse := by
  by_cases hstop : t.gTtdStopRequested = true
  · refine iff_of_true ?_ (.inl hstop)
    rintro ⟨hit, work, hreported, hmem, -⟩
    exact hreported.not_ofTimeline (ofTimeline_of_stopped hstop work hmem)
  · rw [or_iff_right hstop, reportsStale_iff (Bool.not_eq_true _ ▸ hstop) hset, not_and_or, not_not]

end Runs

end TtdSession

theorem stale_unreported_elsewhere : ¬ brokenReplay.ReportsStale (hitAnswers {}) false := by
  refine (TtdSession.stale_unreported_iff fun _ _ => rfl).mpr (.inr (.inr ?_))
  have hhit : brokenReplay.hitAfter (brokenReplay.attemptAnswer (hitAnswers {}) false) =
      some (TtdSession.hitOf execution mainView) := by decide
  rintro (⟨hit, hleft, hposition⟩ | ⟨hreverse, -⟩)
  · rw [hhit] at hleft
    cases hleft
    exact absurd hposition (by decide)
  · cases hreverse

/-- The cursor stands at the breakpoint. -/
def standingReplay : TtdSession := { brokenReplay with cursor := ⟨⟨2, 0⟩, mainThread⟩ }

/-- The engine notifies of the breakpoint under the cursor, and executes nothing. -/
def renotified : ReplayAnswer := { stoppedOnHit with stepsExecuted := 0 }

/-- The second notification is as stale as the first, and the run reports it. -/
theorem stale_reported :
    standingReplay.ReportsStale (forwardAnswers renotified (steppedBackTo ⟨8, 5⟩) {}) false := by
  have hfound : standingReplay.softwareBreakpointOf (TtdSession.hitOf execution mainView) =
      some (7, codeBreakpoint) := rfl
  exact ⟨TtdSession.hitOf execution mainView, _, .code hfound, by decide, rfl, by decide⟩

end TitanEngine

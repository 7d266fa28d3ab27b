import Mathlib.Data.Finite.Prod
import TitanEngine.Replay.Boundary

/-! A traversal of the whole trace by forward runs, and which recorded exceptions it
delivers: one for each place that has any, and none at the end of the trace. -/
namespace TitanEngine

instance : Finite TtdPosition :=
  Finite.of_injective (fun p : TtdPosition => (p.sequence.toFin, p.steps.toFin)) fun p q h => by
    obtain ⟨hsequence, hsteps⟩ := Prod.mk.inj h
    cases p
    cases q
    exact congrArg₂ TtdPosition.mk (BitVec.eq_of_toFin_eq hsequence) (BitVec.eq_of_toFin_eq hsteps)

namespace TtdSession

/-- One replay from the cursor to a limit: it reaches the limit, and executes something
unless it is there already, or it stops at an accepted hit before the limit. -/
inductive Plays (t : TtdSession) (limit : TtdPosition) (answer : ReplayAnswer) : Prop
  | toLimit (free : t.hitAfter answer = none) (reached : answer.cursor.position = limit)
      (executed : answer.stepsExecuted ≠ 0 ↔ t.cursor.position < limit)
  | onHit {hit} (pending : t.hitAfter answer = some hit) (after : t.cursor.position < hit.position)
      (before : hit.position < limit)

/-- A replay that reports the hit the cursor stands at once more. -/
def Stale (answer : ReplayAnswer) (t : TtdSession) : Prop :=
  answer.stepsExecuted = 0 ∧ ∃ hit, t.hitAfter answer = some hit ∧ hit.position = t.cursor.position

/-- The engine during one forward run. A step back from the end of the trace does not
lead behind the position from which the end was reached. -/
structure PlaysForward (answers : RunAnswers) (t : TtdSession) : Prop where
  set : ∀ thread position, (answers.setPositionOnThread thread position).position = position
  replay : ∀ limit, t.cursor.position ≤ limit → t.Plays limit (answers.replay 0 limit) ∨
    t.Stale (answers.replay 0 limit) ∧ t.Plays limit (answers.replay 1 limit)
  park : t.cursor.position < t.gTtdEngine.lastPosition →
    t.cursor.position ≤ answers.park.cursor.position ∧
      answers.park.cursor.position ≤ t.gTtdEngine.lastPosition

/-- The recorded exceptions that a run queues. -/
def delivered (answers : RunAnswers) (t : TtdSession) : List ExceptionEvent :=
  ((t.runTtd answers false).1.queuedSince t).filterMap TtdWork.event?

def ReportsExit (answers : RunAnswers) (t : TtdSession) : Prop :=
  TtdWork.exitProcess ∈ (t.runTtd answers false).1.queuedSince t

/-- Forward runs one after the other from the first position, without a request to
pause or to stop. What happens between two runs leaves the cursor in place. -/
structure Traverses (trace : Trace) (start : ℕ → TtdSession) (answers : ℕ → RunAnswers) : Prop where
  engine : ∀ n, (start n).gTtdEngine = trace
  running : ∀ n, (start n).gTtdStopRequested = false
  quiet : ∀ n, ¬ (start n).PauseRaised (answers n)
  plays : ∀ n, (start n).PlaysForward (answers n)
  first : (start 0).cursor.position = trace.firstPosition
  next : ∀ n, (start (n + 1)).cursor = ((start n).runTtd (answers n) false).1.cursor

end TtdSession

/-- The recorded exceptions behind the first position. -/
def Trace.laterEvents (trace : Trace) : List ExceptionEvent :=
  trace.exceptionEvents.filter fun event => trace.firstPosition < event.position

/-- The recorded exceptions lie in the extent of the trace. -/
structure Trace.Extends (trace : Trace) : Prop where
  nonempty : trace.firstPosition ≤ trace.lastPosition
  within : ∀ event ∈ trace.exceptionEvents,
    trace.firstPosition ≤ event.position ∧ event.position ≤ trace.lastPosition

open TtdSession

/-- Some run is the first to report the exit; the runs up to it deliver each later event
once and in the order of the timeline, the runs after it deliver none. -/
def ReportsEvents (trace : Trace) (start : ℕ → TtdSession) (answers : ℕ → RunAnswers) : Prop :=
  ∃ n, (start n).ReportsExit (answers n) ∧ (∀ m < n, ¬ (start m).ReportsExit (answers m)) ∧
    ((List.range (n + 1)).flatMap fun m => (start m).delivered (answers m)).Perm trace.laterEvents ∧
    ((List.range (n + 1)).flatMap fun m => (start m).delivered (answers m)).Pairwise
      (fun a b => a.position ≤ b.position) ∧
    ∀ m > n, (start m).delivered (answers m) = []

/-- No two later events share a position, and none stands at the end of the trace. -/
structure Trace.Separated (trace : Trace) : Prop where
  distinct : (trace.laterEvents.map (·.position)).Nodup
  short : ∀ event ∈ trace.laterEvents, event.position ≠ trace.lastPosition

namespace TtdSession
section Run
variable {answers : RunAnswers} {t : TtdSession}

theorem plays_deciding (h : t.PlaysForward answers)
    (hlimit : t.cursor.position ≤ t.forwardLimit.1) :
    t.Plays t.forwardLimit.1 (t.decidingAnswer answers) := by
  obtain hplays | ⟨⟨hsteps, hit, hhit, hposition⟩, hplays⟩ := h.replay t.forwardLimit.1 hlimit
  · have hdeciding : t.decidingAnswer answers = answers.replay 0 t.forwardLimit.1 := by
      cases hplays with
      | toLimit free reached executed => simp [decidingAnswer, free]
      | onHit pending after before =>
        simp only [decidingAnswer, pending]
        rw [if_neg fun h => after.ne h.2.symm]
    rw [hdeciding]
    exact hplays
  · have hdeciding : t.decidingAnswer answers = answers.replay 1 t.forwardLimit.1 := by
      simp only [decidingAnswer, hhit]
      rw [if_pos ⟨hsteps, hposition⟩]
    rw [hdeciding]
    exact hplays

/-- A quiet run delivers the recorded exception that it stands at, unless it is on a hit. -/
theorem delivered_eq (hstop : t.gTtdStopRequested = false) (hquiet : ¬ t.PauseRaised answers)
    (hforward : ForwardOutcome answers t (t.replayRun answers false)) :
    t.delivered answers = if t.hitAfter (t.decidingAnswer answers) = none then
      (t.replayRun answers false).2.2.toList else [] := by
  obtain ⟨works, work, hworks, hreport, hqueue, -, -⟩ := runTtd_outcome answers false hstop
  have hnone : works.filterMap TtdWork.event? = [] := by
    rw [List.filterMap_eq_nil_iff]
    intro work hwork
    have htimeline := hworks work hwork
    cases work <;> first | rfl | exact htimeline.elim
  have hflag : (t.gTtdInterruptRequested ||
      decide (PauseStep.raise ∈ answers.requests.beforeParking) ||
      decide (PauseStep.raise ∈ answers.requests.beforeExchange)) = false := by
    rw [← raised_iff, Bool.not_eq_true] at hquiet
    exact hquiet
  rw [delivered, queuedSince_append hqueue, List.filterMap_append, hnone, List.nil_append,
    ← hforward.pending]
  rw [hforward.interrupt, hflag] at hreport
  cases hreport with
  | pause callback flag => cases flag
  | hit flag pending reported =>
    rw [pending]
    cases reported <;> rfl
  | exception flag nothing stands reported => simp [nothing, stands, reported]
  | ending flag nothing free => simp [nothing, free, TtdWork.event?]

/-- What a quiet forward run comes to: a hit with no recorded exception up to it, the
nearest recorded exception, or, with no more of them, the process exit. -/
inductive RunResult (answers : RunAnswers) (t : TtdSession) : Prop
  | hit (after : t.cursor.position < (t.runTtd answers false).1.cursor.position)
      (within : (t.runTtd answers false).1.cursor.position < t.gTtdEngine.lastPosition)
      (clear : ∀ event ∈ t.gTtdEngine.exceptionEvents, t.cursor.position < event.position →
        (t.runTtd answers false).1.cursor.position < event.position)
      (silent : t.delivered answers = []) (stays : ¬ t.ReportsExit answers)
  | exception {event} (mem : event ∈ t.gTtdEngine.exceptionEvents)
      (after : t.cursor.position < event.position)
      (within : event.position < t.gTtdEngine.lastPosition)
      (least : ∀ other ∈ t.gTtdEngine.exceptionEvents, t.cursor.position < other.position →
        event.position ≤ other.position)
      (stands : (t.runTtd answers false).1.cursor.position = event.position)
      (reported : t.delivered answers = [event]) (stays : ¬ t.ReportsExit answers)
  | ending (ahead : t.cursor.position ≤ (t.runTtd answers false).1.cursor.position)
      (within : (t.runTtd answers false).1.cursor.position ≤ t.gTtdEngine.lastPosition)
      (clear : ∀ event ∈ t.gTtdEngine.exceptionEvents, t.cursor.position < event.position →
        t.gTtdEngine.lastPosition ≤ event.position)
      (silent : t.delivered answers = []) (exits : t.ReportsExit answers)

theorem runResult (hstop : t.gTtdStopRequested = false) (hquiet : ¬ t.PauseRaised answers)
    (hplays : t.PlaysForward answers) (hwithin : t.cursor.position ≤ t.gTtdEngine.lastPosition) :
    t.RunResult answers := by
  have hforward := replayRun_forward t hplays.set
  have hdelivered := delivered_eq hstop hquiet hforward
  obtain ⟨hparked, hpassed⟩ := @cursor_runTtd answers t hstop
  have hlimit : t.cursor.position ≤ t.forwardLimit.1 := by
    obtain ⟨heq, -⟩ | ⟨event, -, heq, hafter, -⟩ := t.forwardLimit_cases
    · rw [heq]
      exact hwithin
    · rw [heq]
      exact hafter.le
  cases plays_deciding hplays hlimit with
  | @onHit hit pending after before =>
    have hnottaken : ¬ TakenForExit answers false (t.replayRun answers false).2.1
        (t.replayRun answers false).2.2 (t.replayRun answers false).1 := by
      rintro ⟨_, _, hnone, _⟩
      cases hnone.symm.trans (hforward.pending.trans pending)
    have hcursor : (t.runTtd answers false).1.cursor.position = hit.position := by
      rw [hpassed hnottaken, hforward.onHit hit pending]
    have hstays : ¬ t.ReportsExit answers := by
      unfold ReportsExit
      rw [exit_queued_iff hstop, hforward.pending, pending]
      simp
    rw [pending, if_neg (Option.some_ne_none _)] at hdelivered
    obtain ⟨heq, hbeyond⟩ | ⟨event, -, heq, -, hshort, hleast⟩ := t.forwardLimit_cases
    · rw [heq] at before
      refine .hit ?_ ?_ (fun event hmem hevent => ?_) hdelivered hstays
      · rwa [hcursor]
      · rwa [hcursor]
      · rw [hcursor]
        exact before.trans_le (hbeyond event hmem hevent)
    · rw [heq] at before
      refine .hit ?_ ?_ (fun other hmem hother => ?_) hdelivered hstays
      · rwa [hcursor]
      · rw [hcursor]
        exact before.trans hshort
      · rw [hcursor]
        exact before.trans_le (hleast other hmem hother)
  | toLimit free reached executed =>
    have htaken := taken_iff hforward free
    have hexit := exit_queued_free_iff hstop hforward free
    rw [if_pos free, hforward.event, (hforward.free free).1, reached] at hdelivered
    obtain ⟨heq, hbeyond⟩ | ⟨event, hmem, heq, hafter, hshort, hleast⟩ := t.forwardLimit_cases
    · have hstands : ¬ t.StandsAtException answers := by
        rintro ⟨event, hevent, -⟩
        rw [heq] at hevent
        cases hevent
      have hraised : ¬ t.RaisedBeforeParking answers := fun h => hquiet (.inl h)
      have hsilent : t.delivered answers = [] := by simp [hdelivered, heq]
      have hcursor : t.cursor.position ≤ (t.runTtd answers false).1.cursor.position ∧
          (t.runTtd answers false).1.cursor.position ≤ t.gTtdEngine.lastPosition := by
        rw [heq] at executed reached
        by_cases hsteps : (t.decidingAnswer answers).stepsExecuted ≠ 0
        · rw [hparked (htaken.mpr ⟨hsteps, hstands, hraised⟩)]
          exact hplays.park (executed.mp hsteps)
        · rw [hpassed fun h => hsteps (htaken.mp h).1, (hforward.free free).1, reached]
          exact ⟨hwithin, le_refl _⟩
      exact .ending hcursor.1 hcursor.2 hbeyond hsilent (hexit.mpr ⟨hstands, hquiet⟩)
    · rw [heq] at reached
      have hstands : t.StandsAtException answers := ⟨event, by rw [heq], reached.symm⟩
      have hcursor : (t.runTtd answers false).1.cursor.position = event.position := by
        rw [hpassed fun h => (htaken.mp h).2.1 hstands, (hforward.free free).1, reached]
      have hreported : t.delivered answers = [event] := by simp [hdelivered, heq]
      exact .exception hmem hafter hshort hleast hcursor hreported fun h => (hexit.mp h).1 hstands

end Run
end TtdSession

section Traversal
variable {trace : Trace} {start : ℕ → TtdSession} {answers : ℕ → RunAnswers}

/-- What the runs before run `n` have delivered, in order. -/
def deliveredBefore (start : ℕ → TtdSession) (answers : ℕ → RunAnswers) (n : ℕ) :
    List ExceptionEvent :=
  (List.range n).flatMap fun m => (start m).delivered (answers m)

theorem deliveredBefore_succ (start : ℕ → TtdSession) (answers : ℕ → RunAnswers) (n : ℕ) :
    deliveredBefore start answers (n + 1) =
      deliveredBefore start answers n ++ (start n).delivered (answers n) := by
  simp [deliveredBefore, List.range_succ]

/-- How far the traversal is before run `n`: each place up to the cursor that has later
events has been reported once, in order. -/
structure Progress (trace : Trace) (start : ℕ → TtdSession) (answers : ℕ → RunAnswers) (n : ℕ) :
    Prop where
  within : (start n).cursor.position ≤ trace.lastPosition
  behind : trace.firstPosition ≤ (start n).cursor.position
  sorted : (deliveredBefore start answers n).Pairwise fun a b => a.position < b.position
  later : ∀ event ∈ deliveredBefore start answers n, event ∈ trace.laterEvents ∧
    event.position ≤ (start n).cursor.position ∧ event.position < trace.lastPosition
  cover : ∀ event ∈ trace.laterEvents, event.position ≤ (start n).cursor.position →
    ∃ other ∈ deliveredBefore start answers n, other.position = event.position

theorem mem_laterEvents {event : ExceptionEvent} :
    event ∈ trace.laterEvents ↔
      event ∈ trace.exceptionEvents ∧ trace.firstPosition < event.position := by
  rw [Trace.laterEvents, List.mem_filter, decide_eq_true_iff]

theorem progress_zero (hextent : trace.Extends) (h : Traverses trace start answers) :
    Progress trace start answers 0 := by
  refine ⟨?_, h.first.ge, List.Pairwise.nil, fun _ hmem => absurd hmem List.not_mem_nil, ?_⟩
  · rw [h.first]
    exact hextent.nonempty
  · intro event hevent hle
    rw [h.first] at hle
    exact absurd (mem_laterEvents.mp hevent).2 (not_lt.mpr hle)

theorem result_of_within (h : Traverses trace start answers) {n : ℕ}
    (hwithin : (start n).cursor.position ≤ trace.lastPosition) :
    (start n).RunResult (answers n) :=
  runResult (h.running n) (h.quiet n) (h.plays n) (by rwa [h.engine n])

/-- A run that does not report the exit gets the traversal on. -/
theorem progress_succ (h : Traverses trace start answers) {n : ℕ}
    (hprogress : Progress trace start answers n) (hstays : ¬ (start n).ReportsExit (answers n)) :
    (start n).cursor.position < (start (n + 1)).cursor.position ∧
      Progress trace start answers (n + 1) := by
  have hresult := result_of_within h hprogress.within
  have hnext := congrArg TtdCursor.position (h.next n)
  have hengine := h.engine n
  cases hresult with
  | hit after within clear silent stays =>
    rw [hengine] at within clear
    rw [← hnext] at after within clear
    have hsame : deliveredBefore start answers (n + 1) = deliveredBefore start answers n := by
      rw [deliveredBefore_succ, silent, List.append_nil]
    refine ⟨after, within.le, hprogress.behind.trans after.le, ?_, ?_, ?_⟩
    · rw [hsame]
      exact hprogress.sorted
    · intro event hmem
      rw [hsame] at hmem
      obtain ⟨hlater, hle, hshort⟩ := hprogress.later event hmem
      exact ⟨hlater, hle.trans after.le, hshort⟩
    · intro event hmem hle
      rw [hsame]
      refine hprogress.cover event hmem (not_lt.mp fun hlt => ?_)
      exact absurd (clear event (mem_laterEvents.mp hmem).1 hlt) (not_lt.mpr hle)
  | @exception event mem after within least stands reported stays =>
    rw [hengine] at mem within least
    rw [← hnext] at stands
    have hmore : deliveredBefore start answers (n + 1) =
        deliveredBefore start answers n ++ [event] := by
      rw [deliveredBefore_succ, reported]
    have hahead : (start n).cursor.position < (start (n + 1)).cursor.position := by
      rwa [stands]
    refine ⟨hahead, ?_, hprogress.behind.trans hahead.le, ?_, ?_, ?_⟩
    · rw [stands]
      exact within.le
    · rw [hmore, List.pairwise_append]
      refine ⟨hprogress.sorted, List.pairwise_singleton _ _, fun other hmem found hfound => ?_⟩
      rw [List.mem_singleton.mp hfound]
      exact (hprogress.later other hmem).2.1.trans_lt after
    · intro other hmem
      rw [hmore, List.mem_append] at hmem
      obtain hmem | hmem := hmem
      · obtain ⟨hlater, hle, hshort⟩ := hprogress.later other hmem
        exact ⟨hlater, hle.trans hahead.le, hshort⟩
      · rw [List.mem_singleton.mp hmem]
        exact ⟨mem_laterEvents.mpr ⟨mem, hprogress.behind.trans_lt after⟩, stands.ge, within⟩
    · intro other hmem hle
      rw [hmore]
      by_cases hbehind : other.position ≤ (start n).cursor.position
      · obtain ⟨found, hfound, hsame⟩ := hprogress.cover other hmem hbehind
        exact ⟨found, List.mem_append_left _ hfound, hsame⟩
      · -- The only place in between is that of the exception just reported.
        have hge := least other (mem_laterEvents.mp hmem).1 (not_le.mp hbehind)
        rw [stands] at hle
        exact ⟨event, List.mem_append_right _ List.mem_cons_self, le_antisymm hge hle⟩
  | ending ahead within clear silent exits => exact absurd exits hstays

theorem progress_of_stays (hextent : trace.Extends) (h : Traverses trace start answers) {n : ℕ}
    (hstays : ∀ m < n, ¬ (start m).ReportsExit (answers m)) : Progress trace start answers n := by
  induction n with
  | zero => exact progress_zero hextent h
  | succ n ih =>
    have hprogress := ih fun m hm => hstays m (hm.trans n.lt_succ_self)
    exact (progress_succ h hprogress (hstays n n.lt_succ_self)).2

/-- Nothing is left to report beyond the cursor. -/
structure Exhausted (trace : Trace) (t : TtdSession) : Prop where
  within : t.cursor.position ≤ trace.lastPosition
  clear : ∀ event ∈ trace.exceptionEvents, t.cursor.position < event.position →
    trace.lastPosition ≤ event.position

theorem exhausted_succ (h : Traverses trace start answers) {n : ℕ}
    (hdone : Exhausted trace (start n)) :
    (start n).delivered (answers n) = [] ∧ Exhausted trace (start (n + 1)) := by
  have hresult := result_of_within h hdone.within
  have hnext := congrArg TtdCursor.position (h.next n)
  have hengine := h.engine n
  cases hresult with
  | hit after within clear silent stays =>
    rw [hengine] at within
    rw [← hnext] at after within
    exact ⟨silent, within.le, fun event hmem hlt => hdone.clear event hmem (after.trans hlt)⟩
  | exception mem after within least stands reported stays =>
    rw [hengine] at mem within
    exact absurd (hdone.clear _ mem after) (not_le.mpr within)
  | ending ahead within clear silent exits =>
    rw [hengine] at within
    rw [← hnext] at ahead within
    exact ⟨silent, within, fun event hmem hlt => hdone.clear event hmem (ahead.trans_lt hlt)⟩

/-- After the exit report no run delivers anything. -/
theorem delivered_after_exit (h : Traverses trace start answers) {n : ℕ}
    (hwithin : (start n).cursor.position ≤ trace.lastPosition)
    (hexit : (start n).ReportsExit (answers n)) :
    (∀ event ∈ trace.exceptionEvents, (start n).cursor.position < event.position →
      trace.lastPosition ≤ event.position) ∧
    ∀ m ≥ n, (start m).delivered (answers m) = [] := by
  have hresult := result_of_within h hwithin
  cases hresult with
  | hit after within clear silent stays => exact absurd hexit stays
  | exception mem after within least stands reported stays => exact absurd hexit stays
  | ending ahead within clear silent exits =>
    rw [h.engine n] at clear
    have hdone : ∀ m ≥ n, Exhausted trace (start m) := by
      intro m hm
      induction m, hm using Nat.le_induction with
      | base => exact ⟨hwithin, clear⟩
      | succ m _ ih => exact (exhausted_succ h ih).2
    exact ⟨clear, fun m hm => (exhausted_succ h (hdone m hm)).1⟩

/-- A traversal of the whole trace delivers every later recorded exception once and in
order if and only if these have places of their own short of the end of the trace. -/
theorem events_reported_iff (hextent : trace.Extends) (h : Traverses trace start answers) :
    ReportsEvents trace start answers ↔ trace.Separated := by
  constructor
  · rintro ⟨n, hexit, hstays, hperm, -, -⟩
    have hprogress := progress_of_stays hextent h hstays
    have hsilent := (delivered_after_exit h hprogress.within hexit).2 n le_rfl
    have hperm' : (deliveredBefore start answers n).Perm trace.laterEvents := by
      have hall := deliveredBefore_succ start answers n
      rw [hsilent, List.append_nil] at hall
      rw [← hall]
      exact hperm
    constructor
    · have hplaces : ((deliveredBefore start answers n).map (·.position)).Nodup :=
        List.pairwise_map.mpr (hprogress.sorted.imp fun hlt => ne_of_lt hlt)
      exact (hperm'.map _).nodup_iff.mp hplaces
    · intro event hmem
      exact (hprogress.later event (hperm'.mem_iff.mpr hmem)).2.2.ne
  · intro hseparated
    obtain ⟨n, hexit, hstays⟩ := Nearest.exists_first_of_climbs
      (fun n => (start n).cursor.position) (fun n => (start n).ReportsExit (answers n))
      fun n hstays => (progress_succ h
        (progress_of_stays hextent h fun m hm => hstays m hm.le) (hstays n le_rfl)).1
    have hprogress := progress_of_stays hextent h hstays
    obtain ⟨hclear, hsilent⟩ := delivered_after_exit h hprogress.within hexit
    have hall : deliveredBefore start answers (n + 1) = deliveredBefore start answers n := by
      rw [deliveredBefore_succ, hsilent n le_rfl, List.append_nil]
    have hcover : ∀ event ∈ trace.laterEvents,
        ∃ other ∈ deliveredBefore start answers n, other.position = event.position := by
      intro event hmem
      refine hprogress.cover event hmem (not_lt.mp fun hlt => ?_)
      have hevent := (mem_laterEvents.mp hmem).1
      exact hseparated.short event hmem
        (le_antisymm (hextent.within event hevent).2 (hclear event hevent hlt))
    refine ⟨n, hexit, hstays, ?_, ?_, fun m hm => hsilent m hm.le⟩
    · change (deliveredBefore start answers (n + 1)).Perm _
      rw [hall]
      exact (Nearest.perm_iff_nodup hprogress.sorted
        (fun event hmem => (hprogress.later event hmem).1) hcover).mpr hseparated.distinct
    · change (deliveredBefore start answers (n + 1)).Pairwise _
      rw [hall]
      exact hprogress.sorted.imp fun hlt => hlt.le

end Traversal

/-- Two access violations at one position in the middle of the trace. -/
def twinEvent (programCounter : ULONG64) : ExceptionEvent :=
  ⟨⟨4, 0⟩, EXCEPTION_ACCESS_VIOLATION, 0, programCounter, []⟩

def twinTrace : Trace :=
  { shortTrace with exceptionEvents := [twinEvent 0x401000, twinEvent 0x402000] }

/-- Where the runs of its traversal start: at the first position, at the exceptions, and
then one step before the end. -/
def twinStart : ℕ → TtdPosition
  | 0 => ⟨1, 0⟩
  | 1 => ⟨4, 0⟩
  | _ => ⟨8, 5⟩

def twinReplay (n : ℕ) : TtdSession :=
  { shortReplay with gTtdEngine := twinTrace, cursor := ⟨twinStart n, mainThread⟩ }

/-- Without breakpoints every replay reaches its limit. -/
def freeAnswers (position : TtdPosition) : RunAnswers where
  replay _ limit := ⟨.position, if position < limit then 5 else 0, ⟨limit, mainThread⟩, []⟩
  singleStep _ _ := steppedBackTo ⟨8, 5⟩
  park := steppedBackTo ⟨8, 5⟩
  setPositionOnThread _ position := ⟨position, mainThread⟩

def twinAnswers (n : ℕ) : RunAnswers := freeAnswers (twinStart n)

theorem twinTrace_extends : twinTrace.Extends :=
  ⟨by decide, by decide⟩

theorem freeAnswers_plays {t : TtdSession} (hbehind : t.cursor.position ≤ ⟨8, 5⟩)
    (hend : t.gTtdEngine.lastPosition = ⟨9, 0⟩) :
    t.PlaysForward (freeAnswers t.cursor.position) := by
  refine ⟨fun _ _ => rfl, fun limit _ => .inl (.toLimit rfl rfl ?_), fun _ => ⟨hbehind, ?_⟩⟩
  · simp [freeAnswers]
  · rw [hend]
    exact (by decide : (⟨8, 5⟩ : TtdPosition) ≤ ⟨9, 0⟩)

theorem twinReplay_traverses : Traverses twinTrace twinReplay twinAnswers where
  engine _ := rfl
  running _ := rfl
  quiet _ h := by simp [PauseRaised, RaisedBeforeParking, twinReplay, shortReplay, twinAnswers,
    freeAnswers] at h
  plays n := by
    refine freeAnswers_plays (t := twinReplay n) ?_ rfl
    obtain _ | _ | n := n
    · decide
    · decide
    · exact le_refl _
  first := rfl
  next n := by
    obtain _ | _ | n := n
    · decide
    · decide
    · have hrun : ((twinReplay 2).runTtd (twinAnswers 2) false).1.cursor = (twinReplay 3).cursor := by
        decide
      exact hrun.symm

theorem events_reported_twin :
    ReportsEvents twinTrace twinReplay twinAnswers ↔ twinTrace.Separated :=
  events_reported_iff twinTrace_extends twinReplay_traverses

/-- Of two recorded exceptions at one position only the first listed one is delivered. -/
theorem events_not_reported :
    twinTrace.Extends ∧ Traverses twinTrace twinReplay twinAnswers ∧
      ¬ ReportsEvents twinTrace twinReplay twinAnswers := by
  refine ⟨twinTrace_extends, twinReplay_traverses, ?_⟩
  rintro ⟨n, hexit, hstays, hperm, -, -⟩
  have hfirst : TtdWork.exitProcess ∉
      ((twinReplay 0).runTtd (twinAnswers 0) false).1.queuedSince (twinReplay 0) := by decide
  have hsecond : TtdWork.exitProcess ∈
      ((twinReplay 1).runTtd (twinAnswers 1) false).1.queuedSince (twinReplay 1) := by decide
  obtain _ | _ | n := n
  · exact hfirst hexit
  · have hlength := hperm.length_eq
    revert hlength
    decide
  · exact hstays 1 (by omega) hsecond

end TitanEngine

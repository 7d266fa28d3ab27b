import TitanEngine.Replay.StepOver

/-! The temporaries of steps over calls as the client sees them: in what its breakpoint calls
return at a stop, and in step callbacks that run after their movement. -/
namespace TitanEngine

/-- A replay with the temporary of the step that is going on, those whose movement has ended
elsewhere while they stayed, and the ones of these that were hit later. -/
structure SteppedReplay where
  session : TtdSession
  pending : Option ULONG := none
  left : List ULONG := []
  stale : List ULONG := []

/-- A one-shot record is under the id. -/
def Session.oneShotAt (s : Session) (id : ULONG) : Bool := (s.bps.gBreakpoints[id]?).any (·.oneShot)

namespace TtdSession

/-- A move adds no record but the temporary of a step over a call, a one-shot. -/
def temporaryAdded (t t' : TtdSession) : Option ULONG :=
  if t.bps.gNextNativeBreakpointId ∉ t.bps.gBreakpoints ∧
      t'.toSession.oneShotAt t.bps.gNextNativeBreakpointId then some t.bps.gNextNativeBreakpointId
  else none

/-- The records whose callbacks have been queued since. -/
def reportedRecords (t t' : TtdSession) : List ULONG :=
  (t'.queuedSince t).filterMap fun work =>
    match work with
    | .breakpoint hit _ => (t.softwareBreakpointOf hit).map (·.1)
    | _ => none

end TtdSession

def TtdMove.isRun : TtdMove → Bool
  | run _ => true
  | _ => false

namespace SteppedReplay

def temporaries (w : SteppedReplay) : List ULONG := w.pending.toList ++ w.left

/-- A step over a call goes on with the next run, and any other move ends it before that. -/
def move (m : TtdMove) (w : SteppedReplay) : SteppedReplay :=
  let t := m.apply w.session
  { session := t
    pending := w.session.temporaryAdded t
    left := w.temporaries.filter t.toSession.oneShotAt
    stale := w.stale ++ (w.session.reportedRecords t).filter
      (if m.isRun then w.left else w.temporaries).contains }

/-- The client may take temporaries off the table. -/
def client (t : TtdSession) (w : SteppedReplay) : SteppedReplay :=
  { w with session := t
           pending := w.pending.filter t.toSession.oneShotAt
           left := w.left.filter t.toSession.oneShotAt }

end SteppedReplay

/-- The calls that move the cursor of a replay. -/
def ApiCall.moves : ApiCall → Bool
  | stepInto _ | stepOver _ => true
  | _ => false

/-- Runs of a replay: moves, other calls of the client, and whatever leaves the tables of
breakpoints alone. -/
inductive SteppedStep (allowed : TtdMove → SteppedReplay → Prop) : SteppedReplay → SteppedReplay → Prop
  | move {m : TtdMove} {w : SteppedReplay} (allow : allowed m w) : SteppedStep allowed w (w.move m)
  | call {env : Env} {call : ApiCall} {w : SteppedReplay} (stays : call.moves = false) :
      SteppedStep allowed w (w.client { w.session with toSession := (call.run env w.session.toSession).1 })
  | other {w : SteppedReplay} {t : TtdSession} (same : t.watchTables = w.session.watchTables) :
      SteppedStep allowed w (w.client t)

/-- The table and the watchpoints without a record. -/
def Session.forget (s : Session) (id : ULONG) : Session :=
  match s.bps.gBreakpoints[id]? with
  | some info =>
    { s with bps.gBreakpoints := s.bps.gBreakpoints.erase id
             gTtdCursor := s.gTtdCursor.map fun watchpoints =>
               watchpoints.filter (· ≠ ⟨info.offset, 1, ACCESS_EXECUTE⟩) }
  | none => s

namespace SteppedReplay

/-- The session as it were without the temporaries. -/
def bare (w : SteppedReplay) : Session := w.temporaries.foldl Session.forget w.session.toSession

/-- What the client's breakpoint calls would return now does not depend on temporaries. -/
structure Unseen (w : SteppedReplay) : Prop where
  isBPXEnabled : ∀ address, w.session.toSession.isBPXEnabled address = w.bare.isBPXEnabled address
  setBPX : ∀ env address type callback, (w.session.toSession.setBPX env address type callback).2 =
    (w.bare.setBPX env address type callback).2
  deleteBPX : ∀ env address, (w.session.toSession.deleteBPX env address).2 =
    (w.bare.deleteBPX env address).2

end SteppedReplay

/-- A forward run ends with a hit that goes to the record, and no request to pause or to stop
comes before it. -/
structure TtdSession.EndsAt (answers : RunAnswers) (id : ULONG) (t : TtdSession) : Prop where
  forward : t.gTtdNextRunReverse = false
  hit : ∃ hit info, t.hitAfter (t.decidingAnswer answers) = some hit ∧
    t.softwareBreakpointOf hit = some (id, info)
  quiet : ¬ t.PauseRaised answers
  running : t.gTtdStopRequested = false

/-- After a step over a call comes the run that ends at its temporary. -/
def EndsAtTemporary (m : TtdMove) (w : SteppedReplay) : Prop :=
  ∀ id, w.pending = some id → ∃ answers, m = .run answers ∧ w.session.EndsAt answers id

namespace TtdSession

/-- The replays of a forward run leave the hit of the answer that decides them. -/
theorem hit_replayRun_forward (answers : RunAnswers) (t : TtdSession) :
    (t.replayRun answers false).1.gTtdWatchHit = t.hitAfter (t.decidingAnswer answers) := by
  have hattempts := @replayAttempts_deciding answers t { t with gTtdWatchHit := none, gPaused := false } rfl
  unfold replayRun
  dsimp only
  rw [if_neg (fun h => Bool.false_ne_true h.1), hit_selectHit]
  exact hattempts.1

/-- A run that stops on a hit, and is not told to pause or to stop, takes a one-shot record off. -/
theorem records_runTtd {answers : RunAnswers} {hit : TtdWatchHit} {id : ULONG} {info : BreakpointInfo}
    {t : TtdSession} (hhit : t.hitAfter (t.decidingAnswer answers) = some hit)
    (hrecord : t.softwareBreakpointOf hit = some (id, info)) (hquiet : ¬ t.PauseRaised answers)
    (hrunning : t.gTtdStopRequested = false) :
    (t.runTtd answers false).1.bps.gBreakpoints =
      if info.oneShot then t.bps.gBreakpoints.erase id else t.bps.gBreakpoints := by
  have hpending := (hit_replayRun_forward answers t).trans hhit
  have hrun := replayed_replayRun answers false t
  have hpark := parkRun_outcome answers false (t.replayRun answers false).2.1
    (t.replayRun answers false).2.2 (hrun.stop.trans hrunning)
  have hinterrupt := interrupt_of_stopsOn hpending
  unfold runTtd
  dsimp only
  generalize (t.replayRun answers false).1.parkRun answers false (t.replayRun answers false).2.1
    (t.replayRun answers false).2.2 = parked at hpark ⊢
  have hsettle := settleRun_outcome parked
  have hfound : parked.settleRun.2 = some hit := hpark.hit.trans hpending
  have hbps : parked.settleRun.1.bps = t.bps := hsettle.bps.trans (hpark.bps.trans hrun.bps)
  have hstop : parked.settleRun.1.gTtdStopRequested = false :=
    hsettle.stop.trans (hpark.stop.trans (hrun.stop.trans hrunning))
  have hraised := hsettle.interrupt.trans (hpark.interrupt.trans (congrArg (· || _) hinterrupt))
  rw [hfound]
  generalize parked.settleRun.1 = settled at hbps hstop hraised ⊢
  have hflag := interrupt_pauseSteps answers.requests.beforeExchange settled
  obtain ⟨callback, interrupt, hpause⟩ := pauseSteps_eq answers.requests.beforeExchange settled
  rw [← raised_iff, Bool.not_eq_true] at hquiet
  rw [hraised, hquiet, hpause] at hflag
  have hclear : interrupt = false := hflag
  unfold reportRun
  rw [if_neg (by simp [hstop]), hpause, hclear]
  dsimp only
  rw [if_neg Bool.false_ne_true]
  have hrecord' : { settled with gPauseCallback := callback, gTtdInterruptRequested := false }.softwareBreakpointOf
      hit = some (id, info) := (softwareBreakpointOf_congr hbps hit).trans hrecord
  rw [queueTtdWatchpointHit_code _ hrecord']
  dsimp only
  have htables := (consumeSoftware_tables answers.base id info
    { settled with gPauseCallback := callback, gTtdInterruptRequested := false }).1
  rw [← hbps]
  exact htables

/-- A run that ends at a one-shot record takes it off. -/
theorem oneShotAt_run {answers : RunAnswers} {id : ULONG} {t : TtdSession} (h : t.EndsAt answers id)
    (hshot : t.toSession.oneShotAt id = true) :
    ((TtdMove.run answers).apply t).toSession.oneShotAt id = false := by
  obtain ⟨hforward, ⟨hit, info, hhit, hrecord⟩, hquiet, hrunning⟩ := h
  obtain ⟨hinfo, -⟩ := softwareBreakpointOf_spec hrecord
  have hone : info.oneShot = true := by simpa [Session.oneShotAt, hinfo] using hshot
  have hrecords := records_runTtd hhit hrecord hquiet hrunning
  have hself : { t with gTtdNextRunReverse := false } = t := by rw [← hforward]
  show (({ t with gTtdNextRunReverse := false }.runTtd answers t.gTtdNextRunReverse).1).toSession.oneShotAt
    id = false
  rw [hforward, hself, Session.oneShotAt, hrecords, if_pos hone, Std.ExtTreeMap.getElem?_erase_self]
  rfl

end TtdSession

/-- Nothing is left of steps over calls but the temporary of the one that is going on. -/
structure SteppedReplay.Tidy (w : SteppedReplay) : Prop where
  left : w.left = []
  stale : w.stale = []
  pending : ∀ id, w.pending = some id → w.session.toSession.oneShotAt id = true

theorem tidy_client {w : SteppedReplay} (h : w.Tidy) (t : TtdSession) : (w.client t).Tidy := by
  refine ⟨?_, h.stale, fun id hid => (Option.filter_eq_some_iff.mp hid).2⟩
  show w.left.filter _ = []
  rw [h.left]
  rfl

theorem tidy_move {w : SteppedReplay} (h : w.Tidy) {m : TtdMove} (hends : EndsAtTemporary m w) :
    (w.move m).Tidy := by
  have hadded : ∀ id, w.session.temporaryAdded (m.apply w.session) = some id →
      (m.apply w.session).toSession.oneShotAt id = true := by
    intro id hid
    unfold TtdSession.temporaryAdded at hid
    split at hid
    · rename_i hnew
      cases hid
      exact hnew.2
    · cases hid
  have hstale : ∀ records : List ULONG, w.stale ++ records.filter ([] : List ULONG).contains = [] := by
    simp [h.stale]
  cases hpending : w.pending with
  | none =>
    have hnone : w.temporaries = [] := by rw [SteppedReplay.temporaries, hpending, h.left]; rfl
    refine ⟨?_, ?_, hadded⟩
    · show w.temporaries.filter _ = []
      rw [hnone]
      rfl
    · show w.stale ++ List.filter (if m.isRun then w.left else w.temporaries).contains _ = []
      rw [h.left, hnone, ite_self]
      exact hstale _
  | some id =>
    obtain ⟨answers, rfl, hat⟩ := hends id hpending
    have hone : w.temporaries = [id] := by rw [SteppedReplay.temporaries, hpending, h.left]; rfl
    have hgone := TtdSession.oneShotAt_run hat (h.pending id hpending)
    refine ⟨?_, ?_, hadded⟩
    · show w.temporaries.filter _ = []
      rw [hone]
      exact List.filter_cons_of_neg (by simp [hgone])
    · show w.stale ++ List.filter w.left.contains _ = []
      rw [h.left]
      exact hstale _

theorem tidy_step : Runs.Preserves (SteppedStep EndsAtTemporary) SteppedReplay.Tidy := by
  intro w w' hstep h
  cases hstep with
  | move allow => exact tidy_move h allow
  | call stays => exact tidy_client h _
  | other same => exact tidy_client h _

/-- Where every step over a call ends at its own temporary, no breakpoint call of the client
depends on temporaries once the movement has ended, and no callback of an earlier step is run. -/
theorem temporaries_unseen {t : TtdSession} {w : SteppedReplay}
    (hrun : Relation.ReflTransGen (SteppedStep EndsAtTemporary) { session := t } w) :
    (w.pending = none → w.Unseen) ∧ w.stale = [] := by
  have hstart : SteppedReplay.Tidy { session := t } :=
    ⟨rfl, rfl, fun id hid => by cases hid⟩
  have htidy := tidy_step.run hrun hstart
  refine ⟨fun hnone => ?_, htidy.stale⟩
  have hbare : w.bare = w.session.toSession := by
    unfold SteppedReplay.bare SteppedReplay.temporaries
    rw [hnone, htidy.left]
    rfl
  refine ⟨?_, ?_, ?_⟩
  · intro address
    rw [hbare]
  · intro env address type callback
    rw [hbare]
  · intro env address
    rw [hbare]

/-- The client has asked for a step over the call. -/
def calledReplay : SteppedReplay := SteppedReplay.move (.step callAnswers true (some 7)) { session := pausedReplay }

theorem temporaries_unseen_returned :
    let w := calledReplay.move (.run (stoppedAnswers [peeredCall.back] ⟨6, 0⟩))
    (w.pending = none → w.Unseen) ∧ w.stale = [] := by
  have hcall : SteppedStep EndsAtTemporary { session := pausedReplay } calledReplay :=
    .move fun id hid => by cases hid
  have hpending : calledReplay.pending = some 0x80000000 := by decide
  have hrecord : (calledReplay.session.softwareBreakpointOf peeredCall.back.hit).map (·.1) =
      some 0x80000000 := by decide
  have hends : calledReplay.session.EndsAt (stoppedAnswers [peeredCall.back] ⟨6, 0⟩) 0x80000000 := by
    refine ⟨by decide, ?_, ?_, by decide⟩
    · obtain ⟨⟨id, info⟩, hfound, rfl⟩ := Option.map_eq_some_iff.mp hrecord
      exact ⟨peeredCall.back.hit, info, by decide, hfound⟩
    · rw [← TtdSession.raised_iff]
      decide
  refine temporaries_unseen ((Relation.ReflTransGen.single hcall).tail (.move fun id hid => ?_))
  cases Option.some.inj (hpending.symm.trans hid)
  exact ⟨_, rfl, hends⟩

/-- The run is interrupted on its way. -/
def pausedAnswers : RunAnswers :=
  { stoppedAnswers [] ⟨3, 0⟩ with requests := { beforeParking := [.claim 9, .raise, .interruptReplay] } }

/-- After a pause the client sees the temporary, and the next run is ended by it. -/
theorem interrupted_temporary_seen :
    TtdSession.initReplay shortTrace mainThread 1 {} = some openedReplay ∧
    ∃ w w', Relation.ReflTransGen (SteppedStep fun _ _ => True) { session := pausedReplay } w ∧
      w.pending = none ∧ ¬ w.Unseen ∧ SteppedStep (fun _ _ => True) w w' ∧ w'.stale ≠ [] := by
  have hcall : SteppedStep (fun _ _ => True) { session := pausedReplay } calledReplay := .move trivial
  have hpaused : SteppedStep (fun _ _ => True) calledReplay (calledReplay.move (.run pausedAnswers)) :=
    .move trivial
  refine ⟨(Option.some_get _).symm, calledReplay.move (.run pausedAnswers),
    (calledReplay.move (.run pausedAnswers)).move (.run (stoppedAnswers [peeredCall.back] ⟨6, 0⟩)),
    (Relation.ReflTransGen.single hcall).tail hpaused, by decide, fun h => ?_, .move trivial, by decide⟩
  have hseen := h.isBPXEnabled 0x401005
  revert hseen
  decide

end TitanEngine

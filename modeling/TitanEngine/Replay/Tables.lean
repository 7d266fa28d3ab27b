import TitanEngine.Effects.Traversal
import TitanEngine.Patches.Tables
import TitanEngine.Patches.Undo
import TitanEngine.Replay.Watchpoints

/-! Runs of live sessions and of replays, and the two tables of breakpoints along them. -/
namespace TitanEngine

namespace Session
variable {s s' : Session}

/-- If the tables agree and have ids left, so it stays. -/
def KeepsNumbered (s s' : Session) : Prop := s.Numbered → s'.Numbered

theorem keepsNumbered_of_tables (h : s'.recordTables = s.recordTables) : KeepsNumbered s s' :=
  fun hs => hs.of_tables h

theorem recordTables_of_bps (h : s'.bps = s.bps) : s'.recordTables = s.recordTables := by
  unfold recordTables
  rw [h]

theorem memoryWriteSafe_tables (env : Env) (process : HANDLE) (address : ULONG_PTR) (buffer : List BYTE)
    (s : Session) : (s.memoryWriteSafe env process address buffer).1.recordTables = s.recordTables := by
  unfold memoryWriteSafe
  dsimp only
  repeat' split
  all_goals rfl

theorem keepsNumbered_call {env : Env} {call : ApiCall} (hids : HasIds env s) :
    KeepsNumbered s (call.run env s).1 := by
  intro h
  cases call with
  | setBPX address bpxType callback => exact h.step hids (setBPX_tables env address bpxType callback h.fresh)
  | deleteBPX address => exact h.step hids (deleteBPX_tables env address s)
  | setBPXOptions type => exact h.of_tables rfl
  | setHardwareBreakPoint address reg bpxType bpxSize callback =>
    exact h.step hids (setHardwareBreakPoint_tables env address reg bpxType bpxSize callback s)
  | deleteHardwareBreakPoint reg => exact h.step hids (deleteHardwareBreakPoint_tables env reg s)
  | removeAllBreakPoints => exact h.step hids (removeAllBreakPoints_tables env s)
  | setMemoryBPXEx => exact h.of_tables (recordTables_of_core (core_setMemoryBPXEx ..))
  | removeMemoryBPX => exact h.of_tables (recordTables_of_core (core_removeMemoryBPX ..))
  | memoryReadUnsafe => exact h.of_tables (recordTables_of_core (core_memoryReadUnsafe ..))
  | memoryReadSafe => exact h.of_tables (recordTables_of_core (core_memoryReadSafe ..))
  | memoryWriteSafe process address buffer =>
    exact h.of_tables (memoryWriteSafe_tables env process address buffer s)
  | memoryProtectSafe => exact h.of_tables (recordTables_of_core (core_memoryProtectSafe ..))
  | stepInto => exact h.of_tables (recordTables_of_image (image_debugStep ..))
  | stepOver => exact h.of_tables (recordTables_of_image (image_debugStep ..))
  | setNextDbgContinueStatus => exact h.of_tables (recordTables_of_core (core_setNextDbgContinueStatus ..))
  | requestPause => exact h.of_tables (recordTables_of_image (image_requestPause ..))

end Session

/-- An id is left for the next patch; the engine hands out low ids, and none that a record has. -/
def recordRules : Rules where
  call env _ s := s.HasIds env
  work _ _ _ := True
  target _ _ := True

open Session in
theorem closed_keepsNumbered : Closed recordRules KeepsNumbered where
  refl _ h := h
  trans hab hbc h := hbc (hab h)
  core h := keepsNumbered_of_tables (recordTables_of_core h)
  image h := keepsNumbered_of_tables (recordTables_of_image h)
  call h := keepsNumbered_call h
  lift _ _ := keepsNumbered_of_tables (recordTables_writeNativeBreakpointBytes ..)
  place _ _ := keepsNumbered_of_tables (recordTables_writeNativeBreakpointBytes ..)
  consume {id info s s'} hremoved hpaused hhardware hnext hshot h := by
    have hkind : info.kind = .software := by
      cases hk : info.kind with
      | software => rfl
      | hardware =>
        rw [h.lasting id info hremoved.present hk] at hshot
        cases hshot
    refine h.erased hremoved.present hkind ?_
    unfold recordTables
    rw [hremoved.breakpoints, hhardware, hnext]
  expire {env id offset bpInfo s s'} _ _ h := by
    unfold expireOneShot
    split
    · split
      · rename_i current hcurrent
        split
        · rename_i hmatch
          exact h.erased hcurrent hmatch.1 rfl
        · exact h
      · exact h
    · exact h
  target _ h := h.of_tables rfl
  stop env events s := by
    have hrecords := recordTables_of_image (image_recogniseStop env { s with gCallbackQueue := events })
    exact keepsNumbered_of_tables hrecords
  resume env s := by
    have hrecords := recordTables_of_image (image_applyExecutionStatus env s)
    exact keepsNumbered_of_tables hrecords

namespace TtdSession
variable {t t' : TtdSession}

theorem recordTables_replayed (h : t.Replayed t') : t'.recordTables = t.recordTables :=
  Session.recordTables_of_bps h.bps

theorem recordTables_refreshTtdTimeline (t : TtdSession) : t.refreshTtdTimeline.recordTables = t.recordTables :=
  (refreshed_refreshTtdTimeline t).field_eq (fun t => t.recordTables) fun _ _ _ _ _ _ _ => rfl

theorem numbered_consumeSoftware (env : Env) {id : ULONG} {info : BreakpointInfo} (h : t.Numbered)
    (hinfo : t.bps.gBreakpoints[id]? = some info) (hsoftware : info.kind = .software) :
    (t.consumeSoftware env id info).Numbered := by
  unfold consumeSoftware
  split
  · obtain ⟨hbps, -, -⟩ := Session.removeMemoryWatchpoint_told env ⟨info.offset, 1, ACCESS_EXECUTE⟩ t.toSession
    refine h.erased hinfo hsoftware ?_
    unfold Session.recordTables
    dsimp only
    rw [hbps]
  · exact h

theorem numbered_consumeMemory (env : Env) (id : ULONG64) (info : MemoryBreakpointInfo) (h : t.Numbered) :
    (t.consumeMemory env id info).Numbered := by
  unfold consumeMemory
  split
  · exact h
  · exact h.of_tables (Session.recordTables_of_core (Session.core_removeMemoryBreakpointById env id t.toSession))

theorem numbered_queueTtdWatchpointHit (env : Env) (hit : Option TtdWatchHit) (h : t.Numbered) :
    (t.queueTtdWatchpointHit env hit).1.Numbered := by
  unfold queueTtdWatchpointHit
  split
  · exact h
  · split
    · rename_i heq
      obtain ⟨hinfo, hsoftware, -⟩ := softwareBreakpointOf_spec heq
      exact numbered_consumeSoftware env h hinfo hsoftware
    · split
      · exact numbered_consumeMemory env _ _ h
      · exact h

theorem numbered_finishStep (env : Env) (stepCallBack : Option Callback) (h : t.Numbered) :
    (t.finishStep env stepCallBack).1.Numbered := by
  have hrefreshed : { t with gTtdWatchHit := none }.refreshTtdTimeline.Numbered :=
    h.of_tables (recordTables_refreshTtdTimeline _)
  have hhit := numbered_queueTtdWatchpointHit env t.gTtdWatchHit hrefreshed
  unfold finishStep
  dsimp only
  generalize queueTtdWatchpointHit env _ _ = r at hhit ⊢
  obtain ⟨u, reported⟩ := r
  cases reported with
  | true => exact hhit
  | false =>
    cases stepCallBack with
    | none => exact hhit
    | some callback => exact hhit

theorem numbered_replayStep {answers : StepAnswers} {reverse stepOver : Bool} (stepCallBack : Option Callback)
    (h : t.Numbered) (hroom : t.bps.gNextNativeBreakpointId.toNat + 1 < 2 ^ 32) :
    (t.replayStep answers reverse stepOver stepCallBack).1.Numbered := by
  have hrun := replayed_replayAttempts answers.attempt answers.setPositionOnThread t.cursor.position t
  have hattempts := h.of_tables (recordTables_replayed hrun)
  have hbps := hrun.bps
  unfold replayStep
  split
  · exact h.of_tables rfl
  split
  · exact h.of_tables rfl
  split
  · exact h.of_tables rfl
  split
  · exact h.of_tables rfl
  dsimp only
  generalize t.replayAttempts answers.attempt answers.setPositionOnThread t.cursor.position = r at hattempts hbps ⊢
  split
  · exact hattempts.of_tables rfl
  have hidentity : r.1.updateTtdCursorIdentity.Numbered := hattempts.of_tables rfl
  have hsame : r.1.updateTtdCursorIdentity.bps = t.bps := hbps
  generalize r.1.updateTtdCursorIdentity = u at hidentity hsame ⊢
  generalize (if stepOver = true then stepOverProbe answers t.cursor.thread.uniqueId r.2.2 else 0) = returnAddress
  split
  · split
    · exact hidentity.of_tables (recordTables_refreshTtdTimeline _)
    · rename_i hnone
      rw [Option.not_isSome_iff_eq_none] at hnone
      -- The engine of a replay hands out no ids.
      have hids : Session.HasIds {} u.toSession := by
        refine ⟨by rwa [hsame], fun id hid => ?_⟩
        cases hid
      have hadded := hidentity.step hids (Session.addTtdSoftwareBreakpoint_tables answers.base {} stepCallBack true
        t.cursor.thread.uniqueId hidentity.fresh hnone)
      generalize u.toSession.addTtdSoftwareBreakpoint answers.base returnAddress stepCallBack true
        t.cursor.thread.uniqueId = r at hadded ⊢
      obtain ⟨s, added⟩ := r
      cases added with
      | false => exact hadded
      | true => exact hadded.of_tables (recordTables_refreshTtdTimeline _)
  · exact numbered_finishStep answers.base stepCallBack hidentity

theorem numbered_reportRun (answers : RunAnswers) (reverse : Bool) (stepCount : ULONG64)
    (hit : Option TtdWatchHit) (event : Option ExceptionEvent) (h : t.Numbered) :
    (t.reportRun answers reverse stepCount hit event).1.Numbered := by
  have hexchange := h.of_tables (recordTables_replayed (replayed_pauseSteps answers.requests.beforeExchange t))
  unfold reportRun
  split
  · exact h
  dsimp only
  generalize t.pauseSteps answers.requests.beforeExchange = u at hexchange ⊢
  split
  · have hcallback := recordTables_replayed (replayed_pauseSteps answers.requests.beforeCallback
      { u with gTtdInterruptRequested := false })
    exact (hexchange.of_tables hcallback).of_tables rfl
  · have hhit := numbered_queueTtdWatchpointHit answers.base hit hexchange
    generalize u.queueTtdWatchpointHit answers.base hit = r at hhit ⊢
    obtain ⟨u', reported⟩ := r
    cases reported with
    | true => exact hhit
    | false =>
      cases event with
      | some event =>
        obtain ⟨work, -, heq⟩ := queueException_eq event u'
        dsimp only
        rw [heq]
        exact hhit
      | none => exact hhit

theorem numbered_parkRun (answers : RunAnswers) (reverse : Bool) (stepCount : ULONG64)
    (event : Option ExceptionEvent) (h : t.Numbered) : (t.parkRun answers reverse stepCount event).Numbered := by
  have hpause := h.of_tables (recordTables_replayed (replayed_pauseSteps answers.requests.beforeParking t))
  unfold parkRun
  dsimp only
  split
  · rw [parkAtExit_eq]
    split
    · exact hpause
    · exact hpause
  · exact hpause

theorem numbered_runTtd (answers : RunAnswers) (reverse : Bool) (h : t.Numbered) :
    (t.runTtd answers reverse).1.Numbered := by
  have hrun := h.of_tables (recordTables_replayed (replayed_replayRun answers reverse t))
  unfold runTtd
  dsimp only
  generalize t.replayRun answers reverse = r at hrun ⊢
  have hparked := numbered_parkRun answers reverse r.2.1 r.2.2 hrun
  generalize r.1.parkRun answers reverse r.2.1 r.2.2 = parked at hparked ⊢
  have hsettled : parked.settleRun.1.Numbered := hparked.of_tables (recordTables_refreshTtdTimeline _)
  exact numbered_reportRun answers reverse r.2.1 _ r.2.2 hsettled

/-- A movement of a replay takes at most one id. -/
theorem numbered_apply (move : TtdMove) (h : t.Numbered)
    (hroom : t.bps.gNextNativeBreakpointId.toNat + 1 < 2 ^ 32) : (move.apply t).Numbered := by
  cases move with
  | setPosition requested reached =>
    show (t.replaySetPosition requested reached).1.Numbered
    unfold replaySetPosition
    split
    · exact h.of_tables rfl
    split
    · exact h.of_tables rfl
    dsimp only
    split
    · exact h.of_tables rfl
    · exact h.of_tables (recordTables_refreshTtdTimeline _)
  | stepBack answers stepCallBack => exact numbered_replayStep stepCallBack h hroom
  | step answers stepOver stepCallBack =>
    have hstep := @numbered_replayStep t answers false stepOver stepCallBack h hroom
    show (t.ttdStep answers stepOver stepCallBack).Numbered
    unfold ttdStep
    generalize t.replayStep answers false stepOver stepCallBack = r at hstep ⊢
    obtain ⟨u, succeeded⟩ := r
    cases succeeded with
    | true => exact hstep
    | false =>
      cases stepCallBack with
      | none => exact hstep
      | some callback => exact hstep
  | run answers => exact @numbered_runTtd { t with gTtdNextRunReverse := false } answers t.gTtdNextRunReverse h

end TtdSession

/-- A call that sets or removes breakpoints of code or data. -/
def ApiCall.changesRecords : ApiCall → Bool
  | .setBPX .. | .deleteBPX .. | .setHardwareBreakPoint .. | .deleteHardwareBreakPoint ..
  | .removeAllBreakPoints => true
  | _ => false

/-- What may happen to the tables of a replay: calls of the client, movements with their steps over
calls and their hits, and whatever leaves the tables alone. -/
inductive TableStep (rules : Rules) : TtdSession → TtdSession → Prop
  | call {env call} {t : TtdSession} (records : call.changesRecords = true)
      (allowed : rules.call env call t.toSession) :
      TableStep rules t { t with toSession := (call.run env t.toSession).1 }
  | move {move : TtdMove} {t : TtdSession} (room : t.bps.gNextNativeBreakpointId.toNat + 1 < 2 ^ 32) :
      TableStep rules t (move.apply t)
  | other {t t' : TtdSession} (same : t'.recordTables = t.recordTables) : TableStep rules t t'

/-- No record, and ids as the adapter hands them out. -/
structure Session.Unrecorded (s : Session) : Prop where
  breakpoints : s.bps.gBreakpoints = ∅
  registers : s.bps.gHardwareBreakpointIds = ∅
  base : 0x80000000 ≤ s.bps.gNextNativeBreakpointId.toNat

/-- The sessions that are reached from one without records, live or in a replay. -/
inductive Recorded (rules : Rules) : Session → Prop
  | live {s s' : Session} (live : s.Live) (start : s.Unrecorded) (run : Run rules s s') : Recorded rules s'
  | replay {trace : Trace} {thread : ThreadInfo} {serial : ULONG_PTR} {s : Session} {t₀ t : TtdSession}
      (opened : TtdSession.initReplay trace thread serial s = some t₀) (start : s.Unrecorded)
      (run : Relation.ReflTransGen (TableStep rules) t₀ t) : Recorded rules t.toSession

theorem Session.Unrecorded.numbered {s : Session} (h : s.Unrecorded) : s.Numbered := by
  obtain ⟨hb, hh, hbase⟩ := h
  refine ⟨.of_state (.empty recordShape) ?_ ?_, fun id info hid => ?_, hbase, fun id info hid => ?_⟩
  · simp [hb]
  · simp [hh]
  · simp [hb] at hid
  · simp [hb] at hid

theorem numbered_tableStep : Runs.Preserves (TableStep recordRules) fun t => t.Numbered := by
  intro t t' hstep h
  cases hstep with
  | call records allowed => exact Session.keepsNumbered_call allowed h
  | move room => exact TtdSession.numbered_apply _ h room
  | other same => exact h.of_tables same

theorem TtdSession.recordTables_initReplay {trace : Trace} {thread : ThreadInfo} {serial : ULONG_PTR}
    {s : Session} {t : TtdSession} (h : initReplay trace thread serial s = some t) :
    t.recordTables = s.recordTables := by
  unfold initReplay at h
  dsimp only at h
  split at h
  · cases h
  · cases h
  · rename_i _ _ image himage _
    cases h
    have hsynthetic : ∀ type dbgengId systemId callerOwned (t : TtdSession),
        (t.createSyntheticTitanHandle type dbgengId systemId callerOwned).1.recordTables = t.recordTables := by
      intro type dbgengId systemId callerOwned t
      rw [createSyntheticTitanHandle_eq]
      rfl
    have hhandles : ∀ t : TtdSession, t.bootstrapHandles.recordTables = t.recordTables :=
      fun t => (hsynthetic _ _ _ _ _).trans (hsynthetic _ _ _ _ t)
    have hprocess : ((openReplay trace thread serial s).bootstrapProcess image).recordTables =
        (openReplay trace thread serial s).recordTables :=
      (hsynthetic _ _ _ _ _).trans (hsynthetic _ _ _ _ (openReplay trace thread serial s))
    have hfold := Refreshed.foldl (refreshed_bootstrapThread thread.id)
      (trace.snapshot trace.firstPosition).threads ((openReplay trace thread serial s).bootstrapProcess image)
    have hthreads := hfold.field_eq (fun t => t.recordTables) fun _ _ _ _ _ _ _ => rfl
    exact (hhandles _).trans (hthreads.trans hprocess)

/-- As long as the engine hands out no id that a record has, the tables of breakpoints agree. -/
theorem tables_agree {s : Session} (h : Recorded recordRules s) : s.TablesAgree := by
  cases h with
  | live live start run =>
    have hblind : recordRules.QueueBlind := fun _ _ _ _ _ => trivial
    exact (closed_keepsNumbered.run hblind run start.numbered).agree
  | replay opened start run =>
    have hopened := start.numbered.of_tables (TtdSession.recordTables_initReplay opened)
    exact (numbered_tableStep.run run hopened).agree

/-- The engine hands out low ids that none of its breakpoints has, and the adapter has ids left. -/
def engineRules : Rules where
  call env _ s := s.bps.gNextNativeBreakpointId.toNat + 1 < 2 ^ 32 ∧
    ∀ id, env.addBreakpoint = some id → id.toNat < 0x80000000 ∧ id ∉ s.target.engineBreakpoints
  work _ _ _ := True
  target _ _ := True

theorem freshSession_unrecorded : freshSession.Unrecorded := ⟨rfl, rfl, by decide⟩

/-- A write breakpoint with the first id of the engine. -/
def withDataBreakpoint (address : ULONG_PTR) (s : Session) : Session :=
  (ApiCall.run { addBreakpoint := some 0 } (.setHardwareBreakPoint address 0 5 7 (some 2)) s).1

theorem tables_agree_data : (withDataBreakpoint 0x402000 freshSession).TablesAgree := by
  have hset : CallStep recordRules freshSession (withDataBreakpoint 0x402000 freshSession) := by
    refine .call ⟨by decide, fun id hid => ?_⟩
    cases hid
    exact ⟨by decide, by decide⟩
  exact tables_agree (.live (show freshSession.Live from rfl) freshSession_unrecorded (.single (.call hset)))

/-- A removal that fails half way has the engine forget a breakpoint whose record stays. Its id goes
to the next breakpoint, and two registers lead to one record. -/
theorem tables_disagree : ¬ ∀ s, Recorded engineRules s → s.TablesAgree := by
  intro hclaim
  let s₁ := withDataBreakpoint 0x402000 freshSession
  let s₂ := (ApiCall.run {} (.setBPX 0x401000 0 (some 1)) s₁).1
  let s₃ := (ApiCall.run { writeProcessMemory := false } .removeAllBreakPoints s₂).1
  let s₄ := withDataBreakpoint 0x403000 s₃
  have hengine : ∀ s : Session, 0 ∉ s.target.engineBreakpoints →
      ∀ id, some (0 : ULONG) = some id → id.toNat < 0x80000000 ∧ id ∉ s.target.engineBreakpoints := by
    intro s hfree id hid
    cases hid
    exact ⟨by decide, hfree⟩
  have h₁ : CallStep engineRules freshSession s₁ := .call ⟨by decide, hengine _ (by decide)⟩
  have h₂ : CallStep engineRules s₁ s₂ := .call ⟨by decide, nofun⟩
  have h₃ : CallStep engineRules s₂ s₃ := .call ⟨by decide, nofun⟩
  have h₄ : CallStep engineRules s₃ s₄ := .call ⟨by decide, hengine _ (by decide)⟩
  have hrun : Run engineRules freshSession s₄ :=
    .tail (.tail (.tail (.single (.call h₁)) (.call h₂)) (.call h₃)) (.call h₄)
  have hagree := hclaim s₄ (.live (show freshSession.Live from rfl) freshSession_unrecorded hrun)
  have hslot : s₄.bps.gHardwareBreakpointIds[(11 : DWORD)]? = some 0 := by decide
  obtain ⟨info, hinfo, -, hregister⟩ := (hagree.index 11 0).mp hslot
  have hrecord : (s₄.bps.gBreakpoints[(0 : ULONG)]?.map (·.hardwareRegister)) = some 12 := by decide
  rw [hinfo, Option.map_some, hregister] at hrecord
  exact absurd hrecord (by decide)

end TitanEngine

import TitanEngine.Model.Attempts

/-! What one session leaves to the next. -/
namespace TitanEngine
open Relation

/-- The event callbacks that DbgEng makes while a live session is started. `InitDebugW` does
not wait for an event when it knows the process already. -/
def Launch.reported (launch : Launch) (debugs : Bool) : List Closure :=
  launch.created ++
    if launch.error.isSome || (debugs && launch.created.any fun c => c.createdProcess.isSome) then []
    else launch.waited

/-- Event callbacks of attempts that failed are still queued. -/
def EventsLeft : List Attempt → Prop
  | [] => False
  | .initDebugW named launch :: past => EventsLeft past ∨ named = true ∧ launch.reported true ≠ []
  | .attachDebugger given launch :: past =>
    EventsLeft past ∨ given = true ∧ launch.reported false ≠ []
  | .initReplayW given :: past => given = false ∧ EventsLeft past
  | .looped :: _ | .stopped _ :: _ => False

/-- The step tables or the breakpoint tables hold something. -/
def Host.Tabled (h : Host) : Prop := ∃ slot : Slot, slot.isClientTable = true ∧ h.entry slot ≠ none

/-- A replay was stopped before `DebugLoop` with entries in the step tables or the breakpoint
tables, and no `DebugLoop` has ended since. -/
def TablesLeft : List Attempt → Prop
  | [] | .looped :: _ => False
  | .stopped host :: _ => host.Tabled
  | .initDebugW .. :: past | .attachDebugger .. :: past | .initReplayW _ :: past => TablesLeft past

/-- The session has the process to itself: each event that `DebugLoop` has dispatched in it is
its own, and so is each entry of the tables. -/
structure Observed.Isolated (o : Observed) : Prop where
  events : ∀ run ∈ o.dispatched, run.1 = o.session → run.2 = o.session
  entries : ∀ slot, o.host.entry slot ≠ none → o.owner slot = o.session

/-- The globals by which a process between two sessions stands. -/
structure Standing where
  ttd : Option TtdSession
  kind : TitanSessionKind
  debugging : Bool
  idMap : DebugIdMap
  registry : Map HANDLE TitanHandleEntry
  steps : StepTables
  bps : BreakpointTables
  pebs : Map HANDLE ULONG64
  tebs : Map HANDLE ULONG64

namespace Host

def standing (h : Host) : Standing :=
  { ttd := h.ttd, kind := h.session.gSessionKind, debugging := h.session.gIsDebugging
    idMap := h.session.gDebugIdMap, registry := h.session.gHandleRegistry
    steps := h.session.steps, bps := h.session.bps
    pebs := h.gProcessPebCache, tebs := h.gProcessTebCache }

theorem entry_congr {h h' : Host} (heq : h'.standing = h.standing) (slot : Slot) :
    h'.entry slot = h.entry slot := by
  simp only [standing, Standing.mk.injEq] at heq
  obtain ⟨httd, -, -, hids, hregistry, hsteps, hbps, hpebs, htebs⟩ := heq
  cases hreplay : h.ttd with
  | none =>
    rw [hreplay] at httd
    cases slot <;> simp only [entry, globals, tebs, hreplay, httd, hids, hregistry, hsteps, hbps,
      hpebs, htebs]
  | some t =>
    rw [hreplay] at httd
    cases slot <;> simp only [entry, globals, tebs, hreplay, httd, hpebs]

/-- The tables of the client are the ones of the globals in force. -/
theorem entry_client {h h' : Host} (hsteps : h'.globals.steps = h.globals.steps)
    (hbps : h'.globals.bps = h.globals.bps) {slot : Slot} (hslot : slot.isClientTable = true) :
    h'.entry slot = h.entry slot := by
  cases slot <;> simp_all only [entry, Slot.isClientTable] <;> cases hslot

theorem tabled_congr {h h' : Host} (hsteps : h'.globals.steps = h.globals.steps)
    (hbps : h'.globals.bps = h.globals.bps) : h'.Tabled ↔ h.Tabled := by
  constructor
  · rintro ⟨slot, hslot, hentry⟩
    exact ⟨slot, hslot, by rwa [entry_client hsteps hbps hslot] at hentry⟩
  · rintro ⟨slot, hslot, hentry⟩
    exact ⟨slot, hslot, by rwa [entry_client hsteps hbps hslot]⟩

/-- No handle of a session is known. -/
structure NoHandles (h : Host) : Prop where
  idMap : h.globals.gDebugIdMap = {}
  registry : h.globals.gHandleRegistry = ∅
  pebs : h.gProcessPebCache = ∅
  tebs : h.tebs = ∅

theorem NoHandles.entry {h : Host} (hnone : h.NoHandles) {slot : Slot}
    (hslot : slot.isClientTable = false) : h.entry slot = none := by
  obtain ⟨hids, hregistry, hpebs, htebs⟩ := hnone
  cases slot <;> simp_all [Host.entry, Slot.isClientTable]

theorem not_tabled {h : Host} (bps : BreakpointTables) (hsteps : h.globals.steps = {})
    (hbps : h.globals.bps = bps.cleared) : ¬ h.Tabled := by
  rintro ⟨slot, hslot, hentry⟩
  apply hentry
  cases slot <;> simp_all [entry, Slot.isClientTable, BreakpointTables.cleared]

/-- A closure goes to the end of the queue, in the name of the attempt that is under way. -/
theorem queue_callback (closure : Closure) (h : Host) :
    (h.callback closure).gCallbackQueue = h.gCallbackQueue ++ [(h.gSessionGeneration, closure)] ∧
      (h.callback closure).gSessionGeneration = h.gSessionGeneration := by
  unfold callback
  cases closure.createdProcess with
  | none => exact ⟨rfl, rfl⟩
  | some info =>
    dsimp only
    split <;> exact ⟨rfl, rfl⟩

theorem standing_callback (closure : Closure) (h : Host) :
    (h.callback closure).standing = h.standing := by
  unfold callback
  cases closure.createdProcess with
  | none => rfl
  | some info =>
    dsimp only
    split <;> rfl

theorem queue_callbacks (closures : List Closure) (h : Host) :
    (h.callbacks closures).gCallbackQueue =
        h.gCallbackQueue ++ closures.map (Prod.mk h.gSessionGeneration) ∧
      (h.callbacks closures).gSessionGeneration = h.gSessionGeneration := by
  induction closures generalizing h with
  | nil => simp [callbacks]
  | cons closure closures ih =>
    obtain ⟨hqueue, hgeneration⟩ := queue_callback closure h
    obtain ⟨hrest, hrestGeneration⟩ := ih (h.callback closure)
    constructor
    · calc (h.callbacks (closure :: closures)).gCallbackQueue
        _ = (h.callback closure).gCallbackQueue ++
            closures.map (Prod.mk (h.callback closure).gSessionGeneration) := hrest
        _ = h.gCallbackQueue ++ (closure :: closures).map (Prod.mk h.gSessionGeneration) := by
          rw [hqueue, hgeneration, List.map_cons, List.append_assoc, List.singleton_append]
    · exact hrestGeneration.trans hgeneration

theorem standing_callbacks (closures : List Closure) (h : Host) :
    (h.callbacks closures).standing = h.standing := by
  induction closures generalizing h with
  | nil => rfl
  | cons closure closures ih => exact (ih (h.callback closure)).trans (standing_callback closure h)

theorem callbacks_append (first second : List Closure) (h : Host) :
    h.callbacks (first ++ second) = (h.callbacks first).callbacks second := List.foldl_append

/-- The event is set as soon as a process is known; until then the process information is empty. -/
theorem createdEvent_callbacks (closures : List Closure) {h : Host}
    (hknown : h.gProcessCreatedEvent = true ∨ h.gProcessInfo.dwProcessId = 0) :
    (h.callbacks closures).gProcessCreatedEvent =
      (h.gProcessCreatedEvent || closures.any fun c => c.createdProcess.isSome) := by
  induction closures generalizing h with
  | nil => simp [callbacks]
  | cons closure closures ih =>
    have hhead : (h.callback closure).gProcessCreatedEvent =
        (h.gProcessCreatedEvent || closure.createdProcess.isSome) ∧
        ((h.callback closure).gProcessCreatedEvent = true ∨
          (h.callback closure).gProcessInfo.dwProcessId = 0) := by
      unfold callback
      cases hcreated : closure.createdProcess with
      | none => simpa using hknown
      | some info =>
        by_cases hid : h.gProcessInfo.dwProcessId = 0
        · simp [hid]
        · have hevent := hknown.resolve_right hid
          dsimp only
          rw [if_neg hid]
          simp [hevent]
    calc (h.callbacks (closure :: closures)).gProcessCreatedEvent
      _ = ((h.callback closure).gProcessCreatedEvent ||
            closures.any fun c => c.createdProcess.isSome) := ih hhead.2
      _ = _ := by rw [hhead.1, List.any_cons, Bool.or_assoc]

/-- What the start of a live session leaves as it was. -/
structure Keeps (h h' : Host) : Prop where
  generation : h'.gSessionGeneration = h.gSessionGeneration
  queue : h'.gCallbackQueue = h.gCallbackQueue
  ttd : h'.ttd = h.ttd
  steps : h'.session.steps = h.session.steps
  bps : h'.session.bps = h.session.bps

/-- `InitDebugW` makes the event callbacks, and then it registers two handles or fails. -/
theorem initDebugW_outcome (launch : Launch) (h : Host) :
    (h.beginLive.callbacks (launch.reported true)).Keeps (h.initDebugW true launch).1 ∧
      ((h.initDebugW true launch).2 = none →
        (h.initDebugW true launch).1.standing =
          (h.beginLive.callbacks (launch.reported true)).standing) := by
  cases herror : launch.error with
  | some error =>
    have hreported : launch.reported true = launch.created := by
      simp [Launch.reported, herror]
    rw [hreported]
    simp only [initDebugW, herror, Bool.not_true, Bool.false_eq_true, if_false]
    exact ⟨⟨rfl, rfl, rfl, rfl, rfl⟩, fun _ => rfl⟩
  | none =>
    have hknown : (h.beginLive.callbacks launch.created).gProcessCreatedEvent =
        launch.created.any fun c => c.createdProcess.isSome := by
      rw [createdEvent_callbacks launch.created (.inr rfl)]
      exact Bool.false_or _
    have hreported : (if (h.beginLive.callbacks launch.created).gProcessCreatedEvent then
        h.beginLive.callbacks launch.created
        else (h.beginLive.callbacks launch.created).callbacks launch.waited) =
        h.beginLive.callbacks (launch.reported true) := by
      unfold Launch.reported
      rw [hknown, herror, Option.isSome_none, Bool.false_or, Bool.true_and]
      cases launch.created.any fun c => c.createdProcess.isSome with
      | true => rw [if_pos rfl, if_pos rfl, List.append_nil]
      | false =>
        rw [if_neg Bool.false_ne_true, if_neg Bool.false_ne_true, callbacks_append]
    simp only [initDebugW, herror, hreported, Bool.not_true, Bool.false_eq_true, if_false]
    split
    · exact ⟨⟨rfl, rfl, rfl, rfl, rfl⟩, fun _ => rfl⟩
    · split
      · refine ⟨⟨rfl, rfl, rfl, ?_, ?_⟩, fun hnone => by cases hnone⟩
        all_goals
          unfold Session.registerTitanHandle
          split <;> split <;> rfl
      · exact ⟨⟨rfl, rfl, rfl, rfl, rfl⟩, fun _ => rfl⟩

/-- `AttachDebugger` always waits; its callbacks of the client are no table. -/
theorem attachDebugger_outcome (CallBack : Option Callback) (launch : Launch) (h : Host) :
    ∃ base : Host, base.standing = h.standing ∧ base.gCallbackQueue = h.gCallbackQueue ∧
      base.gSessionGeneration = h.gSessionGeneration + 1 ∧
      (base.callbacks (launch.reported false)).Keeps (h.attachDebugger true CallBack launch).1 ∧
      ((h.attachDebugger true CallBack launch).2 = false →
        (h.attachDebugger true CallBack launch).1.standing =
          (base.callbacks (launch.reported false)).standing) := by
  refine ⟨{ h.beginLive with session.gAttachCallback := CallBack, session.gPauseCallback := none },
    rfl, rfl, rfl, ?_⟩
  generalize hbase : ({ h.beginLive with session.gAttachCallback := CallBack
                                         session.gPauseCallback := none } : Host) = base
  cases herror : launch.error with
  | some error =>
    have hreported : launch.reported false = launch.created := by
      simp [Launch.reported, herror]
    rw [hreported]
    simp only [attachDebugger, herror, hbase, Bool.not_true, Bool.false_eq_true, if_false]
    exact ⟨⟨rfl, rfl, rfl, rfl, rfl⟩, fun _ => rfl⟩
  | none =>
    have hreported : launch.reported false = launch.created ++ launch.waited := by
      simp [Launch.reported, herror]
    rw [hreported, callbacks_append]
    simp only [attachDebugger, herror, hbase, Bool.not_true, Bool.false_eq_true, if_false]
    split
    · exact ⟨⟨rfl, rfl, rfl, rfl, rfl⟩, fun _ => rfl⟩
    · exact ⟨⟨rfl, rfl, rfl, rfl, rfl⟩, fun hfailed => by cases hfailed⟩

/-- `h'` follows `h` in the same session attempt: whatever is new in the queue is its own. -/
structure Continues (h h' : Host) : Prop where
  generation : h'.gSessionGeneration = h.gSessionGeneration
  queue : ∀ c ∈ h'.gCallbackQueue, c ∈ h.gCallbackQueue ∨ c.1 = h.gSessionGeneration

theorem Continues.of_eq {h h' : Host} (hgeneration : h'.gSessionGeneration = h.gSessionGeneration)
    (hqueue : h'.gCallbackQueue = h.gCallbackQueue) : h.Continues h' :=
  ⟨hgeneration, fun _ hc => .inl (hqueue ▸ hc)⟩

theorem Continues.trans {h h' h'' : Host} (hfirst : h.Continues h') (hsecond : h'.Continues h'') :
    h.Continues h'' := by
  refine ⟨hsecond.generation.trans hfirst.generation, ?_⟩
  intro c hc
  rcases hsecond.queue c hc with hqueued | hown
  · exact hfirst.queue c hqueued
  · exact .inr (hown.trans hfirst.generation)

theorem continues_callbacks (closures : List Closure) (h : Host) :
    h.Continues (h.callbacks closures) := by
  obtain ⟨hqueue, hgeneration⟩ := queue_callbacks closures h
  refine ⟨hgeneration, ?_⟩
  intro c hc
  rw [hqueue, List.mem_append, List.mem_map] at hc
  rcases hc with hold | ⟨closure, -, rfl⟩
  · exact .inl hold
  · exact .inr rfl

/-- What the bootstrap of a dump goes through, with the tables of the client left alone. -/
structure Bootstraps (h h' : Host) : Prop extends h.Continues h' where
  ttd : h'.ttd = h.ttd
  steps : h'.session.steps = h.session.steps
  bps : h'.session.bps = h.session.bps

namespace Bootstraps

theorem trans {h h' h'' : Host} (hfirst : h.Bootstraps h') (hsecond : h'.Bootstraps h'') :
    h.Bootstraps h'' :=
  { toContinues := hfirst.toContinues.trans hsecond.toContinues
    ttd := hsecond.ttd.trans hfirst.ttd
    steps := hsecond.steps.trans hfirst.steps
    bps := hsecond.bps.trans hfirst.bps }

theorem refl (h : Host) : h.Bootstraps h := ⟨.of_eq rfl rfl, rfl, rfl, rfl⟩

theorem foldl {α : Type*} {f : Host → α → Host} (hf : ∀ (h : Host) a, h.Bootstraps (f h a))
    (as : List α) (h : Host) : h.Bootstraps (as.foldl f h) := by
  induction as generalizing h with
  | nil => exact refl h
  | cons a as ih => exact (hf h a).trans (ih (f h a))

theorem callback (closure : Closure) (h : Host) : h.Bootstraps (h.callback closure) := by
  have hstanding := standing_callback closure h
  simp only [standing, Standing.mk.injEq] at hstanding
  obtain ⟨httd, -, -, -, -, hsteps, hbps, -, -⟩ := hstanding
  exact ⟨continues_callbacks [closure] h, httd, hsteps, hbps⟩

theorem synthetic (type : TitanHandleType) (dbgengId : ULONG) (systemId : DWORD) (callerOwned : Bool)
    (h : Host) : h.Bootstraps (h.createSyntheticTitanHandle type dbgengId systemId callerOwned).1 :=
  ⟨.of_eq rfl rfl, rfl, rfl, rfl⟩

theorem dumpThread (dump : Dump) (h : Host) (thread : ULONG × DWORD × ULONG64) :
    h.Bootstraps (bootstrapDumpThread dump h thread) := by
  unfold bootstrapDumpThread
  split
  · exact refl h
  · dsimp only
    apply trans _ (callback _ _)
    exact ⟨.of_eq rfl rfl, rfl, rfl, rfl⟩

end Bootstraps

theorem dumpHandles_bootstraps (dump : Dump) (h : Host) : h.Bootstraps (h.dumpHandles dump).1 := by
  have hprocess := Bootstraps.synthetic .process dump.processIndex dump.processSystemId true h
  unfold dumpHandles
  generalize h.createSyntheticTitanHandle .process dump.processIndex dump.processSystemId true =
    initProcess at hprocess ⊢
  have hthread := Bootstraps.synthetic .thread dump.threadIndex dump.threadSystemId true initProcess.1
  dsimp only
  generalize initProcess.1.createSyntheticTitanHandle .thread dump.threadIndex dump.threadSystemId
    true = initThread at hthread ⊢
  apply (hprocess.trans hthread).trans
  exact ⟨.of_eq rfl rfl, rfl, rfl, rfl⟩

/-- The bootstrap of a dump starts with an empty queue. -/
theorem bootstraps_dump (dump : Dump) {h : Host} (hempty : h.gCallbackQueue = []) :
    h.Bootstraps ((h.bootstrapDump dump).dumpHandles dump).1 := by
  apply Bootstraps.trans _ (dumpHandles_bootstraps dump _)
  have hprocess := Bootstraps.synthetic .process dump.processIndex dump.processSystemId false h
  unfold bootstrapDump
  generalize h.createSyntheticTitanHandle .process dump.processIndex dump.processSystemId false =
    eventProcess at hprocess ⊢
  have hthread :=
    Bootstraps.synthetic .thread dump.threadIndex dump.threadSystemId false eventProcess.1
  dsimp only
  generalize eventProcess.1.createSyntheticTitanHandle .thread dump.threadIndex dump.threadSystemId
    false = eventThread at hthread ⊢
  apply Bootstraps.trans _ (.callback _ _)
  apply Bootstraps.trans _ (.foldl (fun h base => .callback _ h) _ _)
  apply Bootstraps.trans _ (.foldl (Bootstraps.dumpThread dump) _ _)
  apply Bootstraps.trans _ (.callback _ _)
  obtain ⟨⟨hgeneration, -⟩, httd, hsteps, hbps⟩ := hprocess.trans hthread
  exact ⟨.of_eq hgeneration hempty.symm, httd, hsteps, hbps⟩

end Host

namespace TtdSession

/-- The tables that the calls of the client fill. -/
def clientTables (t : TtdSession) : StepTables × BreakpointTables := (t.steps, t.bps)

theorem clientTables_createSyntheticTitanHandle (type : TitanHandleType) (dbgengId : ULONG)
    (systemId : DWORD) (callerOwned : Bool) (t : TtdSession) :
    (t.createSyntheticTitanHandle type dbgengId systemId callerOwned).1.clientTables =
      t.clientTables := by
  unfold createSyntheticTitanHandle TtdSession.registerTitanHandle
  dsimp only
  split <;> rfl

theorem clientTables_bootstrapThread (threadSystemId : DWORD) (t : TtdSession) (info : ThreadInfo) :
    (t.bootstrapThread threadSystemId info).clientTables = t.clientTables := by
  unfold bootstrapThread
  split
  · rfl
  · exact clientTables_createSyntheticTitanHandle ..

theorem clientTables_bootstrapProcess (image : TtdModuleInfo) (t : TtdSession) :
    (t.bootstrapProcess image).clientTables = t.clientTables :=
  (clientTables_createSyntheticTitanHandle ..).trans (clientTables_createSyntheticTitanHandle ..)

theorem clientTables_bootstrapHandles (t : TtdSession) :
    t.bootstrapHandles.clientTables = t.clientTables :=
  (clientTables_createSyntheticTitanHandle ..).trans (clientTables_createSyntheticTitanHandle ..)

/-- The bootstrap of a replay leaves the tables of the client alone. -/
theorem clientTables_initReplay {trace : Trace} {thread : ThreadInfo} {serial : ULONG_PTR}
    {s : Session} {t : TtdSession} (h : initReplay trace thread serial s = some t) :
    t.clientTables = (s.steps, s.bps) := by
  have hfold : ∀ (threads : List ThreadInfo) (t : TtdSession),
      (threads.foldl (bootstrapThread thread.id) t).clientTables = t.clientTables := by
    intro threads
    induction threads with
    | nil => exact fun t => rfl
    | cons info threads ih =>
      intro t
      exact (ih (t.bootstrapThread thread.id info)).trans (clientTables_bootstrapThread ..)
  unfold initReplay at h
  dsimp only at h
  split at h
  · cases h
  · cases h
  · rename_i image _ _
    cases h
    refine (clientTables_bootstrapHandles _).trans ?_
    refine Eq.trans (b := (List.foldl (bootstrapThread thread.id)
      ((openReplay trace thread serial s).bootstrapProcess image)
      (trace.snapshot trace.firstPosition).threads).clientTables) rfl ?_
    exact (hfold _ _).trans (clientTables_bootstrapProcess ..)

end TtdSession

namespace Host

theorem noHandles_clearHandles {h : Host} (httd : h.ttd = none) : h.clearHandles.NoHandles := by
  constructor <;> simp [clearHandles, globals, tebs, httd]

/-- An idle process: no session is known, and none of its handles. -/
structure Idle (h : Host) : Prop where
  kind : h.session.gSessionKind = .none
  debugging : h.session.gIsDebugging = false
  ttd : h.ttd = none
  handles : h.NoHandles

theorem Idle.globals {h : Host} (hidle : h.Idle) : h.globals = h.session := by
  unfold Host.globals
  rw [hidle.ttd]

theorem Idle.congr {h h' : Host} (hidle : h.Idle) (heq : h'.standing = h.standing) : h'.Idle := by
  obtain ⟨hkind, hdebugging, hnone, hids, hregistry, hpebs, htebs⟩ := hidle
  simp only [standing, Standing.mk.injEq] at heq
  obtain ⟨httd, hkind', hdebugging', hids', hregistry', -, -, hpebs', htebs'⟩ := heq
  have hnone' := httd.trans hnone
  simp only [Host.globals, Host.tebs, hnone] at hids hregistry htebs
  refine ⟨hkind'.trans hkind, hdebugging'.trans hdebugging, hnone', ?_, ?_, ?_, ?_⟩
  all_goals simp_all [Host.globals, Host.tebs]

/-- A replay is opened by an idle process only, so the check for a session that runs passes. -/
theorem initReplayW_eq {h : Host} (hidle : h.Idle) (artifact : Artifact) :
    h.initReplayW true artifact =
      match artifact with
      | .rejected error => (h.beginReplay.rejectReplay error, none)
      | .trace trace thread peb =>
        match TtdSession.initReplay trace thread h.gNextSyntheticHandle h.beginReplay.session with
        | some t =>
          let r := h.beginReplay.openTrace peb t
          (r.1, some r.2)
        | none => (h.beginReplay.rejectReplay ERROR_BAD_FORMAT, none)
      | .minidump dump =>
        let r := (h.beginReplay.bootstrapDump dump).dumpHandles dump
        (r.1, some r.2) := by
  unfold initReplayW
  rw [hidle.globals, hidle.kind, hidle.debugging]
  rfl

/-- A replay that is rejected leaves an idle process with an empty queue. -/
structure Rejected (h h' : Host) : Prop where
  idle : h'.Idle
  generation : h'.gSessionGeneration = h.gSessionGeneration + 1
  queue : h'.gCallbackQueue = []
  steps : h'.session.steps = h.session.steps
  bps : h'.session.bps = h.session.bps

theorem rejected {h : Host} (hidle : h.Idle) (error : DWORD) :
    h.Rejected (h.beginReplay.rejectReplay error) := by
  have httd : (h.beginReplay.rejectReplay error).ttd = none := hidle.ttd
  refine ⟨⟨rfl, hidle.debugging, httd, ?_⟩, rfl, rfl, rfl, rfl⟩
  constructor <;> simp [rejectReplay, beginReplay, clearHandles, fail, Host.globals, Host.tebs, hidle.ttd]

theorem initReplayW_rejected {h : Host} (hidle : h.Idle) {artifact : Artifact}
    (hfailed : (h.initReplayW true artifact).2 = none) :
    h.Rejected (h.initReplayW true artifact).1 := by
  rw [initReplayW_eq hidle] at hfailed ⊢
  cases artifact with
  | rejected error => exact rejected hidle error
  | minidump dump => cases hfailed
  | trace trace thread peb =>
    dsimp only at hfailed ⊢
    split
    · rename_i t hopen
      rw [hopen] at hfailed
      cases hfailed
    · exact rejected hidle _

/-- What the start of a session leaves as it was: the tables of the client, and in a live
session the head of the queue. -/
structure Started (live : Bool) (h h' : Host) : Prop where
  generation : h'.gSessionGeneration = h.gSessionGeneration + 1
  queue : ∃ own, h'.gCallbackQueue = (if live then h.gCallbackQueue else []) ++ own ∧
    ∀ c ∈ own, c.1 = h.gSessionGeneration + 1
  ttd : live = true → h'.ttd = none
  steps : h'.globals.steps = h.globals.steps
  bps : h'.globals.bps = h.globals.bps

/-- A live session is started with the process `m` that the event callbacks have made. -/
theorem Keeps.started {h h' : Host} {closures : List Closure} (base : Host) (hidle : h.Idle)
    (hstanding : base.standing = h.standing) (hqueue : base.gCallbackQueue = h.gCallbackQueue)
    (hgeneration : base.gSessionGeneration = h.gSessionGeneration + 1)
    (hkeeps : (base.callbacks closures).Keeps h') : h.Started true h' := by
  have hbase := (standing_callbacks closures base).trans hstanding
  simp only [standing, Standing.mk.injEq] at hbase
  obtain ⟨httd, -, -, -, -, hsteps, hbps, -, -⟩ := hbase
  obtain ⟨hcallbacks, hnumber⟩ := queue_callbacks closures base
  have hnone : h'.ttd = none := hkeeps.ttd.trans (httd.trans hidle.ttd)
  have hglobals : h'.globals = h'.session := by
    unfold Host.globals
    rw [hnone]
  refine ⟨hkeeps.generation.trans (hnumber.trans hgeneration),
    ⟨closures.map (Prod.mk base.gSessionGeneration), ?_, ?_⟩, fun _ => hnone, ?_, ?_⟩
  · exact hkeeps.queue.trans (hcallbacks.trans (congrArg (· ++ _) hqueue))
  · intro c hc
    obtain ⟨closure, -, rfl⟩ := List.mem_map.mp hc
    exact hgeneration
  · rw [hglobals, hidle.globals]
    exact hkeeps.steps.trans hsteps
  · rw [hglobals, hidle.globals]
    exact hkeeps.bps.trans hbps

theorem started_initDebugW {h : Host} (hidle : h.Idle) {named : Bool} {launch : Launch}
    (hstarted : (h.initDebugW named launch).2.isSome = true) :
    h.Started true (h.initDebugW named launch).1 := by
  cases named with
  | false => cases hstarted
  | true => exact (initDebugW_outcome launch h).1.started h.beginLive hidle rfl rfl rfl

theorem started_attachDebugger {h : Host} (hidle : h.Idle) {given : Bool}
    {CallBack : Option Callback} {launch : Launch}
    (hstarted : (h.attachDebugger given CallBack launch).2 = true) :
    h.Started true (h.attachDebugger given CallBack launch).1 := by
  cases given with
  | false => cases hstarted
  | true =>
    obtain ⟨base, hstanding, hqueue, hgeneration, hkeeps, -⟩ :=
      attachDebugger_outcome CallBack launch h
    exact hkeeps.started base hidle hstanding hqueue hgeneration

theorem started_initReplayW {h : Host} (hidle : h.Idle) {given : Bool} {artifact : Artifact}
    (hstarted : (h.initReplayW given artifact).2.isSome = true) :
    h.Started false (h.initReplayW given artifact).1 := by
  cases given with
  | false => cases hstarted
  | true =>
    rw [initReplayW_eq hidle] at hstarted ⊢
    cases artifact with
    | rejected error => cases hstarted
    | minidump dump =>
      obtain ⟨⟨hgeneration, hqueue⟩, httd, hsteps, hbps⟩ :=
        bootstraps_dump dump (h := h.beginReplay) rfl
      have hnone := httd.trans (show h.beginReplay.ttd = none from hidle.ttd)
      dsimp only
      generalize ((h.beginReplay.bootstrapDump dump).dumpHandles dump).1 = h'
        at hgeneration hqueue hsteps hbps hnone ⊢
      have hglobals : h'.globals = h'.session := by
        unfold Host.globals
        rw [hnone]
      refine ⟨hgeneration, ⟨_, rfl, ?_⟩, fun hlive => (Bool.false_ne_true hlive).elim, ?_, ?_⟩
      · intro c hc
        rcases hqueue c hc with hold | hown
        · cases hold
        · exact hown
      · rw [hglobals, hidle.globals]
        exact hsteps
      · rw [hglobals, hidle.globals]
        exact hbps
    | trace trace thread peb =>
      dsimp only at hstarted ⊢
      split
      · rename_i t hopen
        have htables := TtdSession.clientTables_initReplay hopen
        simp only [TtdSession.clientTables, Prod.mk.injEq] at htables
        refine ⟨rfl, ⟨[], rfl, fun c hc => by cases hc⟩, fun hlive => (Bool.false_ne_true hlive).elim, ?_, ?_⟩
        · rw [hidle.globals]
          exact htables.1
        · rw [hidle.globals]
          exact htables.2
      · rename_i hopen
        rw [hopen] at hstarted
        cases hstarted

theorem continues_enterLoop (h : Host) : h.Continues h.enterLoop := by
  unfold enterLoop
  split <;> exact .of_eq rfl rfl

theorem continues_wait (env : Env) (events : List Closure) (h : Host) :
    h.Continues (h.wait env events) := by
  have hcallbacks := continues_callbacks events h
  unfold wait
  split
  · refine ⟨hcallbacks.generation, ?_⟩
    intro c hc
    obtain ⟨work, -, rfl⟩ := List.mem_map.mp hc
    exact .inr hcallbacks.generation
  · exact hcallbacks.trans (.of_eq rfl rfl)

theorem continues_titanOpen (type : TitanHandleType) (systemId : DWORD) (opened : HANDLE)
    (dbgengId : ULONG) (address : ULONG64) (h : Host) :
    h.Continues (h.titanOpen type systemId opened dbgengId address) := by
  unfold titanOpen
  split
  · cases type <;> exact .of_eq rfl rfl
  · exact .of_eq rfl rfl

theorem continues_titanCloseHandle (hEngineHandle : HANDLE) (closed : Bool) (h : Host) :
    h.Continues (h.titanCloseHandle hEngineHandle closed) := by
  unfold titanCloseHandle
  split
  · exact .of_eq rfl rfl
  · split
    · exact .of_eq rfl rfl
    · split <;> exact .of_eq rfl rfl

end Host

namespace Observed
variable {o o' : Observed}

theorem owner_act_of_eq {attempt : ℕ} {host : Host} {slot : Slot}
    (h : host.entry slot = o.host.entry slot) : (o.act attempt host).owner slot = o.owner slot :=
  if_pos h

theorem owner_act_of_ne {attempt : ℕ} {host : Host} {slot : Slot}
    (h : host.entry slot ≠ o.host.entry slot) : (o.act attempt host).owner slot = attempt :=
  if_neg h

/-- Something happens on behalf of the session, or of the attempt that queued the closure
which runs. -/
def Acts (o o' : Observed) : Prop := ∃ attempt host, o.host.Continues host ∧
  (attempt = o.session ∨ ∃ c ∈ o.host.gCallbackQueue, c.1 = attempt) ∧
  (o' = o.act attempt host ∨ o' = (o.note attempt).act attempt host)

theorem Acts.own {host : Host} (hcontinues : o.host.Continues host) :
    o.Acts (o.act o.session host) := ⟨o.session, host, hcontinues, .inl rfl, .inl rfl⟩

theorem Step.acts (hstep : Step o o') : o.Acts o' := by
  cases hstep with
  | enterLoop => exact .own (Host.continues_enterLoop _)
  | wait => exact .own (Host.continues_wait ..)
  | @dispatch k attempt closure rest _ _ _ _ queue =>
    refine ⟨attempt, o.host.dispatch k closure rest, ⟨rfl, ?_⟩, .inr ⟨(attempt, closure), ?_, rfl⟩,
      .inr rfl⟩
    · intro c hc
      rw [queue]
      exact .inl (List.mem_cons_of_mem _ hc)
    · rw [queue]
      exact List.mem_cons_self
  | openHandle => exact .own (Host.continues_titanOpen ..)
  | closeHandle => exact .own (Host.continues_titanCloseHandle ..)
  | deliver =>
    refine ⟨o.session, _, ?_, .inl rfl, .inr rfl⟩
    exact .of_eq rfl rfl
  | queued | resume | failed | call | target | replay | openPeb | closePeb =>
    apply Acts.own
    exact .of_eq rfl rfl

/-- No attempt is later than the one under way. -/
structure Bounded (o : Observed) : Prop where
  owner : ∀ slot, o.owner slot ≤ o.session
  queue : ∀ c ∈ o.host.gCallbackQueue, c.1 ≤ o.session
  dispatched : ∀ run ∈ o.dispatched, run.1 ≤ o.session

theorem Bounded.act (h : o.Bounded) {attempt : ℕ} {host : Host}
    (hgeneration : o.session ≤ host.gSessionGeneration)
    (hattempt : (∃ slot, host.entry slot ≠ o.host.entry slot) → attempt ≤ host.gSessionGeneration)
    (hqueue : ∀ c ∈ host.gCallbackQueue, c.1 ≤ host.gSessionGeneration) :
    (o.act attempt host).Bounded := by
  refine ⟨?_, hqueue, fun run hrun => (h.dispatched run hrun).trans hgeneration⟩
  intro slot
  by_cases hsame : host.entry slot = o.host.entry slot
  · rw [owner_act_of_eq hsame]
    exact (h.owner slot).trans hgeneration
  · rw [owner_act_of_ne hsame]
    exact hattempt ⟨slot, hsame⟩

theorem Bounded.note (h : o.Bounded) (attempt : ℕ) : (o.note attempt).Bounded := by
  refine ⟨h.owner, h.queue, ?_⟩
  intro run hrun
  rcases List.mem_cons.mp hrun with rfl | hold
  · exact le_rfl
  · exact h.dispatched run hold

theorem Bounded.step (hstep : Step o o') (h : o.Bounded) : o'.Bounded := by
  obtain ⟨attempt, host, hcontinues, hattempt, hact⟩ := hstep.acts
  have hgeneration : o.session ≤ host.gSessionGeneration := hcontinues.generation.ge
  have hbound : attempt ≤ host.gSessionGeneration := by
    rw [hcontinues.generation]
    rcases hattempt with rfl | ⟨c, hc, rfl⟩
    · exact le_rfl
    · exact h.queue c hc
  have hqueue : ∀ c ∈ host.gCallbackQueue, c.1 ≤ host.gSessionGeneration := by
    intro c hc
    rw [hcontinues.generation]
    rcases hcontinues.queue c hc with hold | hown
    · exact h.queue c hold
    · exact hown.le
  rcases hact with rfl | rfl
  · exact h.act hgeneration (fun _ => hbound) hqueue
  · exact (h.note attempt).act hgeneration (fun _ => hbound) hqueue

/-- An isolated session in which no callback of an earlier attempt is queued. -/
structure Own (o : Observed) : Prop extends o.Isolated where
  queue : ∀ c ∈ o.host.gCallbackQueue, c.1 = o.session

theorem Own.act (h : o.Own) {host : Host} (hcontinues : o.host.Continues host) :
    (o.act o.session host).Own := by
  have hsession : (o.act o.session host).session = o.session := hcontinues.generation
  refine ⟨⟨?_, ?_⟩, ?_⟩
  · rw [hsession]
    exact h.events
  · intro slot hentry
    rw [hsession]
    by_cases hsame : host.entry slot = o.host.entry slot
    · rw [owner_act_of_eq hsame]
      apply h.entries slot
      rwa [← hsame]
    · exact owner_act_of_ne hsame
  · intro c hc
    rw [hsession]
    rcases hcontinues.queue c hc with hold | hown
    · exact h.queue c hold
    · exact hown

theorem Own.note (h : o.Own) : (o.note o.session).Own := by
  refine ⟨⟨?_, h.entries⟩, h.queue⟩
  intro run hrun heq
  rcases List.mem_cons.mp hrun with rfl | hold
  · rfl
  · exact h.events run hold heq

/-- What a session does stays its own. -/
theorem Own.step (hstep : Step o o') (h : o.Own) : o'.Own := by
  obtain ⟨attempt, host, hcontinues, hattempt, hact⟩ := hstep.acts
  have hown : attempt = o.session := by
    rcases hattempt with hown | ⟨c, hc, rfl⟩
    · exact hown
    · exact h.queue c hc
  subst hown
  rcases hact with rfl | rfl
  · exact h.act hcontinues
  · exact h.note.act hcontinues

theorem Own.run (hrun : Run o o') (h : o.Own) : o'.Own :=
  Runs.Preserves.run (r := Step) (p := Own) (fun _ _ hstep => Own.step hstep) hrun h

theorem Bounded.run (hrun : Run o o') (h : o.Bounded) : o'.Bounded :=
  Runs.Preserves.run (r := Step) (p := Bounded) (fun _ _ hstep => Bounded.step hstep) hrun h

end Observed

namespace Host

/-- A session is over: the process is idle, and its queue is empty. -/
structure Over (h h' : Host) : Prop where
  idle : h'.Idle
  queue : h'.gCallbackQueue = []
  generation : h'.gSessionGeneration = h.gSessionGeneration

theorem leaveLoop_over (h : Host) : h.Over h.leaveLoop ∧ ¬ h.leaveLoop.Tabled := by
  unfold leaveLoop
  split
  · rename_i t httd
    refine ⟨⟨⟨rfl, rfl, rfl, ?_⟩, rfl, rfl⟩, not_tabled t.bps rfl rfl⟩
    exact noHandles_clearHandles rfl
  · rename_i httd
    refine ⟨⟨⟨rfl, rfl, httd, ?_⟩, rfl, rfl⟩, ?_⟩
    · exact noHandles_clearHandles httd
    · apply not_tabled h.session.bps
      · simp [clearHandles, globals, httd]
      · simp [clearHandles, globals, httd]

/-- `StopDebug` before `DebugLoop` ends a replay, but it leaves the tables of the client. -/
theorem stopDebug_over {h : Host} {ended : Bool} (hearly : h.globals.gIsDebugging = false)
    (hreplay : h.globals.gSessionKind ≠ .live) (hstopped : (h.stopDebug ended).2 = true) :
    h.Over (h.stopDebug ended).1 ∧ ((h.stopDebug ended).1.Tabled ↔ h.Tabled) := by
  unfold stopDebug at hstopped ⊢
  cases httd : h.ttd with
  | some t =>
    have hglobals : h.globals = t.toSession := by
      unfold globals
      rw [httd]
    rw [hglobals] at hearly
    dsimp only
    rw [if_neg (by simp [hearly])]
    refine ⟨⟨⟨rfl, hearly, rfl, noHandles_clearHandles rfl⟩, rfl, rfl⟩, ?_⟩
    apply tabled_congr
    · rw [hglobals]
      rfl
    · rw [hglobals]
      rfl
  | none =>
    have hglobals : h.globals = h.session := by
      unfold globals
      rw [httd]
    rw [hglobals] at hearly hreplay
    rw [httd] at hstopped
    dsimp only at hstopped ⊢
    split
    · refine ⟨⟨⟨rfl, hearly, rfl, noHandles_clearHandles rfl⟩, rfl, rfl⟩, ?_⟩
      apply tabled_congr
      · rw [hglobals]
        simp [clearHandles, globals]
      · rw [hglobals]
        simp [clearHandles, globals]
    · rename_i hrefused
      rw [if_neg hrefused] at hstopped
      simp_all

end Host

namespace Observed
variable {o o' start : Observed} {live : Bool} {past : List Attempt}

/-- A process between two sessions. -/
structure Rested (past : List Attempt) (o : Observed) : Prop where
  idle : o.host.Idle
  bounded : o.Bounded
  queue : o.host.gCallbackQueue ≠ [] ↔ EventsLeft past
  tables : o.host.Tabled ↔ TablesLeft past

theorem Starts.started (hidle : o.host.Idle) (hstart : Starts live o start) :
    ∃ host, start = o.act (o.session + 1) host ∧ o.host.Started live host := by
  cases hstart with
  | initDebugW started => exact ⟨_, rfl, Host.started_initDebugW hidle started⟩
  | attachDebugger started => exact ⟨_, rfl, Host.started_attachDebugger hidle started⟩
  | initReplayW started => exact ⟨_, rfl, Host.started_initReplayW hidle started⟩

theorem Rested.bounded_start (hrested : Rested past o) (hstart : Starts live o start) :
    start.Bounded := by
  obtain ⟨host, rfl, hstarted⟩ := hstart.started hrested.idle
  have hgeneration : host.gSessionGeneration = o.session + 1 := hstarted.generation
  refine hrested.bounded.act (by omega) (fun _ => hgeneration.ge) ?_
  intro c hc
  obtain ⟨own, hqueue, hown⟩ := hstarted.queue
  rw [hqueue, List.mem_append] at hc
  rcases hc with hold | hnew
  · have hle : c.1 ≤ o.session := by
      cases live with
      | true => exact hrested.bounded.queue c hold
      | false => cases hold
    omega
  · rw [hown c hnew]
    exact hgeneration.ge

/-- The end of a session, after any run of it. -/
theorem rested_over {h' : Host} (hbounded : o'.Bounded) (hover : o'.host.Over h') {past : List Attempt}
    (hevents : ¬ EventsLeft past) (htables : h'.Tabled ↔ TablesLeft past) :
    Rested past (o'.act o'.session h') := by
  have hgeneration : h'.gSessionGeneration = o'.session := hover.generation
  refine ⟨hover.idle, hbounded.act hgeneration.ge (fun _ => hgeneration.ge) ?_, ?_, htables⟩
  · intro c hc
    rw [hover.queue] at hc
    cases hc
  · constructor
    · exact fun hqueue => (hqueue hover.queue).elim
    · exact fun hleft => (hevents hleft).elim

/-- A live attempt that fails leaves the process as it was, with its events in the queue. -/
theorem Rested.launch_failed (hrested : Rested past o) {host : Host}
    (events : List Closure) (hstanding : host.standing = o.host.standing)
    (hgeneration : host.gSessionGeneration = o.session + 1)
    (hqueue : host.gCallbackQueue = o.host.gCallbackQueue ++ events.map (Prod.mk (o.session + 1)))
    {attempt : Attempt} (hevents : EventsLeft (attempt :: past) ↔ EventsLeft past ∨ events ≠ [])
    (htables : TablesLeft (attempt :: past) ↔ TablesLeft past) :
    Rested (attempt :: past) (o.act (o.session + 1) host) := by
  have hidle := hrested.idle.congr hstanding
  refine ⟨hidle, ?_, ?_, ?_⟩
  · refine hrested.bounded.act (by omega) (fun _ => hgeneration.ge) ?_
    intro c hc
    rw [hqueue, List.mem_append] at hc
    rcases hc with hold | hnew
    · have hle := hrested.bounded.queue c hold
      omega
    · obtain ⟨closure, -, rfl⟩ := List.mem_map.mp hnew
      exact hgeneration.ge
  · show host.gCallbackQueue ≠ [] ↔ _
    rw [hqueue, hevents, ← hrested.queue]
    cases events <;> simp
  · rw [htables, ← hrested.tables]
    simp only [Host.standing, Standing.mk.injEq] at hstanding
    obtain ⟨-, -, -, -, -, hsteps, hbps, -, -⟩ := hstanding
    show host.Tabled ↔ _
    apply Host.tabled_congr
    · rw [hidle.globals, hrested.idle.globals]
      exact hsteps
    · rw [hidle.globals, hrested.idle.globals]
      exact hbps

/-- A call that is refused at once leaves the process as it was. -/
theorem Rested.refused (hrested : Rested past o) {error : DWORD} {attempt : Attempt}
    (hevents : EventsLeft (attempt :: past) ↔ EventsLeft past)
    (htables : TablesLeft (attempt :: past) ↔ TablesLeft past) :
    Rested (attempt :: past) (o.act (o.session + 1) (o.host.fail error)) := by
  have hstanding : (o.host.fail error).standing = o.host.standing := rfl
  have hidle := hrested.idle.congr hstanding
  refine ⟨hidle, ?_, hrested.queue.trans hevents.symm, ?_⟩
  · refine hrested.bounded.act le_rfl ?_ hrested.bounded.queue
    rintro ⟨slot, hchanged⟩
    exact (hchanged (Host.entry_congr hstanding slot)).elim
  · rw [htables, ← hrested.tables]
    show (o.host.fail error).Tabled ↔ _
    apply Host.tabled_congr
    · rw [hidle.globals, hrested.idle.globals]
      rfl
    · rw [hidle.globals, hrested.idle.globals]
      rfl

theorem rested_fresh : Rested [] {} := by
  have hglobals : ({} : Observed).host.globals = ({} : Host).session := rfl
  refine ⟨⟨rfl, rfl, rfl, ⟨rfl, rfl, rfl, rfl⟩⟩, ⟨fun _ => le_rfl, ?_, ?_⟩, ?_, ?_⟩
  · exact fun c hc => by cases hc
  · exact fun run hrun => by cases hrun
  · exact ⟨fun hqueue => hqueue rfl, False.elim⟩
  · constructor
    · exact Host.not_tabled {} rfl rfl
    · exact False.elim

/-- What each attempt leaves to the next one. -/
theorem rested_history (h : History past o) : Rested past o := by
  induction h with
  | fresh => exact rested_fresh
  | @initDebugW past o named launch before failed ih =>
    cases named with
    | false => exact ih.refused (by simp [EventsLeft]) Iff.rfl
    | true =>
      obtain ⟨hkeeps, hstanding⟩ := Host.initDebugW_outcome launch o.host
      obtain ⟨hqueue, hgeneration⟩ :=
        Host.queue_callbacks (launch.reported true) o.host.beginLive
      refine ih.launch_failed (launch.reported true) ?_ ?_ ?_ (by simp [EventsLeft]) Iff.rfl
      · exact (hstanding failed).trans (Host.standing_callbacks _ _)
      · exact hkeeps.generation.trans hgeneration
      · exact hkeeps.queue.trans hqueue
  | @attachDebugger past o given CallBack launch before failed ih =>
    cases given with
    | false => exact ih.refused (by simp [EventsLeft]) Iff.rfl
    | true =>
      obtain ⟨base, hbase, hold, hnumber, hkeeps, hstanding⟩ :=
        Host.attachDebugger_outcome CallBack launch o.host
      obtain ⟨hqueue, hgeneration⟩ := Host.queue_callbacks (launch.reported false) base
      refine ih.launch_failed (launch.reported false) ?_ ?_ ?_ (by simp [EventsLeft]) Iff.rfl
      · exact (hstanding failed).trans ((Host.standing_callbacks _ _).trans hbase)
      · exact hkeeps.generation.trans (hgeneration.trans hnumber)
      · rw [hkeeps.queue, hqueue, hold, hnumber]
        rfl
  | @initReplayW past o given artifact before failed ih =>
    cases given with
    | false => exact ih.refused (by simp [EventsLeft]) Iff.rfl
    | true =>
      obtain ⟨hidle, hgeneration, hqueue, hsteps, hbps⟩ := Host.initReplayW_rejected ih.idle failed
      have hnumber : (o.host.initReplayW true artifact).1.gSessionGeneration = o.session + 1 :=
        hgeneration
      refine ⟨hidle, ih.bounded.act (by omega) (fun _ => hnumber.ge) ?_, ?_, ?_⟩
      · intro c hc
        rw [hqueue] at hc
        cases hc
      · exact ⟨fun hne => (hne hqueue).elim, fun hleft => by cases hleft.1⟩
      · refine Iff.trans (Host.tabled_congr ?_ ?_) ih.tables
        · rw [ih.idle.globals]
          exact hidle.globals ▸ hsteps
        · rw [ih.idle.globals]
          exact hidle.globals ▸ hbps
  | @looped past live o start o' before starts run entered ih =>
    obtain ⟨hover, htables⟩ := Host.leaveLoop_over o'.host
    have hbounded := (ih.bounded_start starts).run run
    exact rested_over hbounded hover id ⟨fun htabled => htables htabled, False.elim⟩
  | @stopped past o start o' ended before starts run early replay stopped ih =>
    obtain ⟨hover, htables⟩ := Host.stopDebug_over early replay stopped
    have hbounded := (ih.bounded_start starts).run run
    exact rested_over hbounded hover id htables

/-- A session that is started when nothing is left over owns everything from the start. -/
theorem Rested.own_start (hrested : Rested past o) (hstart : Starts live o start)
    (hevents : live = true → ¬ EventsLeft past) (htables : ¬ TablesLeft past) : start.Own := by
  obtain ⟨host, rfl, hstarted⟩ := hstart.started hrested.idle
  have hgeneration : host.gSessionGeneration = o.session + 1 := hstarted.generation
  have hempty : ∀ slot, o.host.entry slot = none := by
    intro slot
    cases hslot : slot.isClientTable with
    | false => exact hrested.idle.handles.entry hslot
    | true =>
      by_contra hentry
      exact htables (hrested.tables.mp ⟨slot, hslot, hentry⟩)
  refine ⟨⟨?_, ?_⟩, ?_⟩
  · intro run hrun heq
    have hle := hrested.bounded.dispatched run hrun
    have hnow : run.1 = o.session + 1 := heq.trans hgeneration
    omega
  · intro slot hentry
    have hchanged : host.entry slot ≠ o.host.entry slot := by
      rw [hempty]
      exact hentry
    exact (owner_act_of_ne hchanged).trans hgeneration.symm
  · intro c hc
    obtain ⟨own, hqueue, hown⟩ := hstarted.queue
    rw [show (o.act (o.session + 1) host).host.gCallbackQueue = host.gCallbackQueue from rfl, hqueue,
      List.mem_append] at hc
    rcases hc with hold | hnew
    · cases live with
      | true =>
        have hdrained : o.host.gCallbackQueue = [] := by
          by_contra hqueued
          exact hevents rfl (hrested.queue.mp hqueued)
        rw [if_pos rfl, hdrained] at hold
        cases hold
      | false => cases hold
    · exact (hown c hnew).trans hgeneration.symm

/-- What an earlier session left in the tables is there when the next one starts. -/
theorem Rested.entries_left (hrested : Rested past o) (hstart : Starts live o start)
    (htables : TablesLeft past) : ¬ start.Isolated := by
  obtain ⟨host, rfl, hstarted⟩ := hstart.started hrested.idle
  obtain ⟨slot, hslot, hentry⟩ := hrested.tables.mpr htables
  have hsame : host.entry slot = o.host.entry slot :=
    Host.entry_client hstarted.steps hstarted.bps hslot
  intro hisolated
  have howner := hisolated.entries slot (show host.entry slot ≠ none by rwa [hsame])
  have hnow : o.owner slot = host.gSessionGeneration := (owner_act_of_eq hsame).symm.trans howner
  have hgeneration : host.gSessionGeneration = o.session + 1 := hstarted.generation
  have hle := hrested.bounded.owner slot
  omega

/-- `DebugLoop` runs the head of its queue, whoever queued it. -/
theorem dispatches_head {attempt : ℕ} {closure : Closure} {rest : List (ℕ × Closure)}
    (hnative : o.host.ttd = none) (hqueue : o.host.gCallbackQueue = (attempt, closure) :: rest) :
    ∃ o', Run o o' ∧ o'.session = o.session ∧ (o.session, attempt) ∈ o'.dispatched := by
  have henter : o.host.enterLoop = { o.host with session.gIsDebugging := true } := by
    unfold Host.enterLoop
    split
    · rename_i t httd
      rw [hnative] at httd
      cases httd
    · rfl
  have hentered : Step o (o.act o.session { o.host with session.gIsDebugging := true }) :=
    henter ▸ .enterLoop
  generalize ho₁ : o.act o.session { o.host with session.gIsDebugging := true } = o₁ at hentered
  have hwaiting : o₁.host.gCallbackQueue ≠ [] := by
    rw [← ho₁]
    exact fun hempty => List.cons_ne_nil _ _ (hqueue.symm.trans hempty)
  have hqueued : Step o₁ (o₁.act o₁.session { o₁.host with session.gPaused := true }) := by
    subst ho₁
    exact .queued hnative rfl hwaiting
  generalize ho₂ : o₁.act o₁.session { o₁.host with session.gPaused := true } = o₂ at hqueued
  have hdispatch : Step o₂ ((o₂.note attempt).act attempt (o₂.host.dispatch idle closure rest)) := by
    subst ho₂ ho₁
    exact .dispatch (idle_follows anyRules) hnative rfl rfl hqueue
  refine ⟨_, .tail (.tail (.single hentered) hqueued) hdispatch, ?_, ?_⟩
  · subst ho₂ ho₁
    rfl
  · subst ho₂ ho₁
    exact List.mem_cons_self

/-- What a failed attempt left in the queue is what `DebugLoop` runs first. -/
theorem Rested.events_left (hrested : Rested past o) (hstart : Starts true o start)
    (hevents : EventsLeft past) : ∃ o', Run start o' ∧ ¬ o'.Isolated := by
  obtain ⟨host, rfl, hstarted⟩ := hstart.started hrested.idle
  obtain ⟨own, hqueue, -⟩ := hstarted.queue
  cases hleft : o.host.gCallbackQueue with
  | nil => exact ((hrested.queue.mpr hevents) hleft).elim
  | cons head rest =>
    obtain ⟨attempt, closure⟩ := head
    have hmem : (attempt, closure) ∈ o.host.gCallbackQueue := by
      rw [hleft]
      exact List.mem_cons_self
    have hle : attempt ≤ o.session := hrested.bounded.queue _ hmem
    rw [if_pos rfl, hleft, List.cons_append] at hqueue
    obtain ⟨o', hrun, hsession, hran⟩ :=
      dispatches_head (o := o.act (o.session + 1) host) (hstarted.ttd rfl) hqueue
    refine ⟨o', hrun, ?_⟩
    intro hisolated
    have hown : attempt = o'.session := hisolated.events _ hran hsession.symm
    have hnow : o'.session = o.session + 1 := hsession.trans hstarted.generation
    omega

/-- A session has the process to itself just when nothing of earlier attempts is left over: no
event of a live attempt that failed, which only a replay drops, and no entry that a replay made
before it was stopped. -/
theorem isolated_iff (h : History past o) (hstart : Starts live o start) :
    (∀ o', Run start o' → o'.Isolated) ↔ (live = true → ¬ EventsLeft past) ∧ ¬ TablesLeft past := by
  have hrested := rested_history h
  constructor
  · intro hisolated
    constructor
    · rintro rfl hevents
      obtain ⟨o', hrun, hnot⟩ := hrested.events_left hstart hevents
      exact hnot (hisolated o' hrun)
    · exact fun htables => hrested.entries_left hstart htables (hisolated start .refl)
  · rintro ⟨hevents, htables⟩ o' hrun
    exact ((hrested.own_start hstart hevents htables).run hrun).toIsolated

end Observed

/-- The event of a process with the handle `handle`, whose thread has the next one. -/
def processCreated (handle : HANDLE) : Closure :=
  .event { currentProcessSystemId := 4, currentThreadSystemId := 8 } (.createProcess handle (handle + 4))
    0x7ff000 0x7fe000

/-- `CreateProcess2Wide` does not find the file. -/
def unfound : Launch := { error := some 2 }

/-- The process is created, but its handles are not duplicated. -/
def unduplicated : Launch := { waited := [processCreated 0x50], duplicateError := ERROR_INVALID_HANDLE }

def launched : Launch :=
  { waited := [processCreated 0x60], initProcess := some 0x70, initThread := some 0x74 }

/-- A process after one attempt to debug a program. -/
noncomputable def Observed.attempted (launch : Launch) : Observed :=
  ({} : Observed).act 1 (({} : Host).initDebugW true launch).1

/-- A process in which a session is started after that attempt. -/
noncomputable def Observed.retried (launch : Launch) : Observed :=
  (Observed.attempted launch).act 2 ((Observed.attempted launch).host.initDebugW true launched).1

/-- After an attempt that came to no event the next session is isolated. -/
theorem isolated_after_unfound :
    Observed.Starts true (.attempted unfound) (.retried unfound) ∧
      ∀ o', Observed.Run (.retried unfound) o' → o'.Isolated := by
  have hhistory : History [.initDebugW true unfound] (.attempted unfound) := .initDebugW .fresh rfl
  have hstart : Observed.Starts true (.attempted unfound) (.retried unfound) := .initDebugW rfl
  exact ⟨hstart, (Observed.isolated_iff hhistory hstart).mpr
    ⟨fun _ hleft => hleft.elim id fun hevents => hevents.2 rfl, id⟩⟩

/-- After a failure to duplicate the handles of the new process, the next session dispatches
the event of that process. -/
theorem unduplicated_dispatched :
    History [.initDebugW true unduplicated] (.attempted unduplicated) ∧
      Observed.Starts true (.attempted unduplicated) (.retried unduplicated) ∧
      ∃ o', Observed.Run (.retried unduplicated) o' ∧ ¬ o'.Isolated := by
  have hhistory : History [.initDebugW true unduplicated] (.attempted unduplicated) :=
    .initDebugW .fresh rfl
  have hstart : Observed.Starts true (.attempted unduplicated) (.retried unduplicated) :=
    .initDebugW rfl
  exact ⟨hhistory, hstart, (Observed.rested_history hhistory).events_left hstart
    (.inr ⟨rfl, List.cons_ne_nil _ _⟩)⟩

end TitanEngine

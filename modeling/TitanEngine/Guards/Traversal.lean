import TitanEngine.Suspension.Runs

/-! One walk through everything a session does, for properties of its memory breakpoints:
what holds of each elementary change holds of each piece of work. -/
namespace TitanEngine
open Relation

namespace Session

/-- What memory breakpoints depend on beside their own tables and the protections. -/
def setting (s : Session) :=
  (s.mode, (s.gPaused, s.gCallbackQueue, s.target.eflags), s.targetPageSize, s.roll)

def guards (s : Session) := (s.setting, s.watch)

variable {s s' : Session}

theorem setting_of_roster (h : s'.roster = s.roster) : s'.setting = s.setting :=
  roster_field_eq setting (fun _ => rfl) h

theorem guards_of_core (h : s'.core = s.core) (hwatch : s'.watch = s.watch) : s'.guards = s.guards :=
  Prod.ext (setting_of_roster (roster_of_core h)) hwatch

theorem guards_of_outline (h : s'.outline = s.outline) : s'.guards = s.guards := by
  have hroster : s'.roster = s.roster := roster_of_frame (congrArg Prod.fst h)
  have hwatch : s'.watch = s.watch := congrArg Prod.snd h
  exact Prod.ext (setting_of_roster hroster) hwatch

theorem guards_finishDebugEvent (u : Bool) (s : Session) : (s.finishDebugEvent u).guards = s.guards := by
  unfold finishDebugEvent
  split <;> rfl

theorem guards_writeNativeBreakpointBytes (env : Env) (info : BreakpointInfo) (install : Bool)
    (s : Session) : (s.writeNativeBreakpointBytes env info install).1.guards = s.guards :=
  Prod.ext (setting_of_roster (roster_of_frame (frame_writeNativeBreakpointBytes ..)))
    (watch_writeNativeBreakpointBytes ..)

theorem guards_enterNativeHit (env : Env) (id : ULONG) (bpInfo : BreakpointInfo) (s : Session) :
    (s.enterNativeHit env id bpInfo).guards = s.guards := by
  have hip : (s.setCurrentInstructionPointer env bpInfo.offset).guards = s.guards := by
    unfold setCurrentInstructionPointer
    split <;> rfl
  have hdisguise : ∀ s : Session, (s.disguiseHit bpInfo).guards = s.guards := by
    intro s
    unfold disguiseHit
    split <;> rfl
  have hconsume : ∀ s : Session, (s.consumeOneShot id bpInfo).guards = s.guards := by
    intro s
    unfold consumeOneShot
    split <;> rfl
  exact (hconsume _).trans ((hdisguise _).trans hip)

/-- The exception is one of an access to the page. -/
def Accesses (info : EXCEPTION_DEBUG_INFO) (page : ULONG_PTR) (s : Session) : Prop :=
  (info.code = STATUS_GUARD_PAGE_VIOLATION ∨ info.code = EXCEPTION_ACCESS_VIOLATION) ∧
    ∃ accessType accessAddress rest,
      info.parameters = accessType :: accessAddress :: rest ∧ page = s.pageAddress accessAddress

end Session

/-- The work that can be the end of an internal step. -/
def Work.completes : Work → Bool
  | .exception _ => true
  | .internalStep _ => true
  | _ => false

/-- The work that makes a thread or a process known. -/
def Work.enters : Work → Bool
  | .createThread _ => true
  | .createProcess .. => true
  | _ => false

/-- A relation between sessions that holds of everything a piece of work can do to pages. -/
structure WatchClosed (rules : Rules) (R : Session → Session → Prop) : Prop where
  trans : ∀ {a b c}, R a b → R b c → R a c
  same : ∀ {s s' : Session}, s'.guards = s.guards → R s s'
  call : ∀ {env call s}, rules.call env call s → call.watches = true → R s (call.run env s).1
  lose : ∀ {env : Env} {work : Work} {s s' : Session} (id : ULONG64), rules.work env work s →
    work.enters = false → s'.setting = s.setting → R s' (s'.removeMemoryBreakpointById env id).1
  expose : ∀ {env : Env} {info : EXCEPTION_DEBUG_INFO} {s s' : Session} (page : ULONG_PTR),
    rules.work env (.exception info) s → s'.setting = s.setting → s.Accesses info page →
      page ∈ s.bps.gMemoryBreakpointPages → R s' (s'.rearmWatchedPage env page)
  schedule : ∀ {env : Env} {info : EXCEPTION_DEBUG_INFO} {s s' : Session} (id : ULONG),
    rules.work env (.exception info) s → s'.setting = s.setting →
      R s' (s'.scheduleInternalStep env (.rearmBreakpoint id))
  complete : ∀ {k : Client} {env : Env} {work : Work} {threadIndex : ULONG} {s s' s'' : Session},
    k.Follows rules → rules.work env work s → work.completes = true → s'.setting = s.setting →
      s'.completeInternalStep k env threadIndex = some s'' → R s' s''
  enterThread : ∀ {env : Env} {handle : HANDLE} {s : Session},
    rules.work env (.createThread handle) s → R s (s.enterThread env handle)
  enterProcess : ∀ {env : Env} {handle initialThread : HANDLE} {s : Session},
    rules.work env (.createProcess handle initialThread) s → R s (s.enterProcess env handle initialThread)
  forgetThread : ∀ {env : Env} {code : DWORD} {s s' : Session}, rules.work env (.exitThread code) s →
    s'.setting = s.setting → R s' (s'.forgetThread (env.currentThreadId.getD (BitVec.allOnes 32))
      s.gDebugIdMap.threadIndexToHandle[env.currentThreadId.getD (BitVec.allOnes 32)]?)
  forgetProcess : ∀ {env : Env} {code : DWORD} {s s' : Session}, rules.work env (.exitProcess code) s →
    s'.setting = s.setting → R s' (s'.forgetProcess (env.currentProcessId.getD (BitVec.allOnes 32))
      s.gDebugIdMap.processIndexToHandle[env.currentProcessId.getD (BitVec.allOnes 32)]?)

namespace WatchClosed
open Session
variable {rules : Rules} {R : Session → Session → Prop} (hR : WatchClosed rules R) {s s' : Session}
include hR

theorem refl (s : Session) : R s s := hR.same rfl

theorem callStep (h : CallStep rules s s') : R s s' := by
  obtain @⟨env, call, _, allowed⟩ := h
  cases hwatches : call.watches with
  | true => exact hR.call allowed hwatches
  | false => exact hR.same (Prod.ext (setting_of_roster (roster_call ..)) (watch_call env hwatches s))

variable {k : Client} (hk : k.Follows rules)
include hk

theorem client (inv : Invocation) (s : Session) : R s (k.call inv s) := by
  have hlog : R s { s with log := .invoke inv :: s.log } := hR.same rfl
  have hcalls : ∀ {a b}, ReflTransGen (CallStep rules) a b → R a b := by
    intro a b hrun
    induction hrun with
    | refl => exact hR.refl _
    | tail _ hstep ih => exact hR.trans ih (hR.callStep hstep)
  exact hR.trans hlog (hcalls (hk inv _))

theorem dispatchDebugEvent (id : TitanCustomHandler) (u : Bool) (s : Session) :
    R s (s.dispatchDebugEvent k id u) := by
  have hbegin : R s (s.beginDebugEvent k u) := by
    have hstatus : R s { s with gNextContinueStatus :=
        if u then DBG_EXCEPTION_NOT_HANDLED else DBG_CONTINUE } := hR.same rfl
    exact hR.trans hstatus (hR.client hk _ _)
  exact hR.trans hbegin (hR.trans (hR.client hk _ _) (hR.same (guards_finishDebugEvent _ _)))

theorem effects {env : Env} {work : Work} {s₀ : Session} (hallowed : rules.work env work s₀)
    (henters : work.enters = false) (hs : s.setting = s₀.setting) (h : Effects k env s s') : R s s' := by
  induction h with
  | refl => exact hR.refl s
  | @tail b c hrun hstep ih =>
    have hb : b.setting = s₀.setting := (setting_of_roster (roster_effects hk env hrun)).trans hs
    refine hR.trans ih ?_
    cases hstep with
    | quiet same watch => exact hR.same (guards_of_core same watch)
    | lose id => exact hR.lose id hallowed henters hb
    | call inv => exact hR.client hk inv b
    | status => exact hR.same rfl
    | delivered => exact hR.same rfl

theorem nativeBreakpointHit {env : Env} {info : EXCEPTION_DEBUG_INFO} (id : ULONG)
    (bpInfo : BreakpointInfo) (hallowed : rules.work env (.exception info) s)
    (hs' : s'.setting = s.setting) : R s' (s'.nativeBreakpointHit k env id bpInfo).1 := by
  have hwrite := guards_writeNativeBreakpointBytes env bpInfo false s'
  unfold Session.nativeBreakpointHit
  split <;> rename_i s₁ heq <;> rw [heq] at hwrite
  · exact hR.same hwrite
  · have hreport : Effects k env (s₁.enterNativeHit env id bpInfo) (s₁.reportNativeHit k env id bpInfo) :=
      (Effects.beginDebugEvent _ _).trans (Effects.callBreakpoint _ _)
    have hentered := (guards_enterNativeHit env id bpInfo s₁).trans hwrite
    have hsetting : (s₁.enterNativeHit env id bpInfo).setting = s.setting :=
      (congrArg Prod.fst hentered).trans hs'
    refine hR.trans (hR.same hentered) (hR.trans (hR.effects hk hallowed rfl hsetting hreport) ?_)
    refine hR.trans ?_ (hR.same (guards_finishDebugEvent _ _))
    unfold rearmNative
    split
    · exact hR.schedule id hallowed
        ((setting_of_roster (roster_effects hk env hreport)).trans hsetting)
    · exact hR.refl _

theorem exceptionEvent {env : Env} {info : EXCEPTION_DEBUG_INFO}
    (hallowed : rules.work env (.exception info) s) : R s (s.exceptionEvent k env info).1 := by
  have hout := exceptionEvent_outcome k env info s
  have hfake : (s.setFakeDebugEvent env (.exception info)).guards = s.guards := rfl
  generalize s.exceptionEvent k env info = r at hout ⊢
  cases hout with
  | completed thread trap step =>
    exact hR.trans (hR.same hfake) (hR.complete hk hallowed rfl (congrArg Prod.fst hfake) step)
  | memory page access reported watched =>
    obtain ⟨accessType, accessAddress, rest, hparameters, hpage, hwatched⟩ := watched
    have hsetting := setting_of_roster (roster_effects hk env reported)
    have haccess : s.Accesses info page := ⟨access, accessType, accessAddress, rest, hparameters, hpage⟩
    refine hR.trans (hR.effects hk hallowed rfl rfl reported) ?_
    exact hR.trans (hR.expose page hallowed hsetting haccess hwatched)
      (hR.same (guards_finishDebugEvent _ _))
  | native code found =>
    exact hR.trans (hR.same hfake) (hR.nativeBreakpointHit hk _ _ hallowed (congrArg Prod.fst hfake))
  | dispatched effects => exact hR.effects hk hallowed rfl rfl effects

theorem work {env : Env} {work : Work} (hallowed : rules.work env work s) :
    R s (work.run k env s).1 := by
  cases work with
  | breakpoint id offset =>
    show R s (s.breakpointEvent k env id offset)
    obtain ⟨-, heffects⟩ | ⟨bpInfo, s', -, heffects, hevent⟩ :=
      Effects.breakpointEvent_outcome (k := k) env id offset s
    · exact hR.effects hk hallowed rfl rfl heffects
    · rw [hevent]
      refine hR.trans (hR.effects hk hallowed rfl rfl heffects) (hR.same ?_)
      refine (guards_finishDebugEvent _ _).trans ?_
      unfold expireOneShot
      repeat' split
      all_goals rfl
  | exception info => exact hR.exceptionEvent hk hallowed
  | createThread handle =>
    have henter : R s (if s.gSessionKind = .live then s.enterThread env handle else s) := by
      split
      · exact hR.enterThread hallowed
      · exact hR.refl s
    have hadopt : ∀ s : Session, ((s.setFakeDebugEvent env (.createThread handle)).adoptThreadId
        handle).guards = s.guards := by
      intro s
      unfold adoptThreadId
      split <;> rfl
    exact hR.trans henter (hR.trans (hR.same (hadopt _)) (hR.dispatchDebugEvent hk ..))
  | exitThread exitCode =>
    have hreport : Effects k env s
        ((s.setFakeDebugEvent env (.exitThread exitCode)).dispatchDebugEvent k .exitThread false) :=
      (Effects.fake ..).trans (Effects.dispatchDebugEvent ..)
    exact hR.trans (hR.effects hk hallowed rfl rfl hreport)
      (hR.forgetThread (s := s) hallowed (setting_of_roster (roster_effects hk env hreport)))
  | createProcess handle initialThread =>
    have hfake : ((s.enterProcess env handle initialThread).setFakeDebugEvent env
        (.createProcess handle)).guards = (s.enterProcess env handle initialThread).guards := rfl
    exact hR.trans (hR.enterProcess hallowed)
      (hR.trans (hR.same hfake) (hR.dispatchDebugEvent hk ..))
  | exitProcess exitCode =>
    have hreport : Effects k env s
        ((s.setFakeDebugEvent env (.exitProcess exitCode)).dispatchDebugEvent k .exitProcess false) :=
      (Effects.fake ..).trans (Effects.dispatchDebugEvent ..)
    exact hR.trans (hR.effects hk hallowed rfl rfl hreport)
      (hR.forgetProcess (s := s) hallowed (setting_of_roster (roster_effects hk env hreport)))
  | loadModule base => exact hR.effects hk hallowed rfl rfl (.moduleEvent ..)
  | unloadModule base => exact hR.effects hk hallowed rfl rfl (.moduleEvent ..)
  | outputDebugString => exact hR.effects hk hallowed rfl rfl (.moduleEvent ..)
  | pause callback => exact hR.effects hk hallowed rfl rfl (.pauseEvent ..)
  | internalStep threadIndex =>
    simp only [Work.run]
    split
    · rename_i s' hstep
      exact hR.complete hk hallowed rfl rfl hstep
    · exact hR.refl s
  | step threadIndex callback threadSystemId =>
    obtain ⟨s', hgo, heffects⟩ := Effects.stepEvent k env threadIndex callback threadSystemId s
    have hs' : s'.guards = s.guards := by
      rw [hgo]
      rfl
    exact hR.trans (hR.same hs') (hR.effects hk hallowed rfl (congrArg Prod.fst hs') heffects)

end WatchClosed

namespace Session

/-- Where a session is in its round. -/
def turn (s : Session) := (s.gPaused, s.gCallbackQueue, s.targetPageSize)

variable {s s' : Session}

theorem turn_of_setting (h : s'.setting = s.setting) : s'.turn = s.turn :=
  congrArg (fun x => (x.2.1.1, x.2.1.2.1, x.2.2.1)) h

theorem turn_of_roster (h : s'.roster = s.roster) : s'.turn = s.turn :=
  turn_of_setting (setting_of_roster h)

theorem turn_scheduleInternalStep (env : Env) (action : StepAction) (s : Session) :
    (s.scheduleInternalStep env action).turn = s.turn := by
  obtain ⟨steps, suspends, resumes, eflags, e, h⟩ := scheduleInternalStep_eq env action s
  rw [h]
  rfl

theorem turn_completeInternalStep {k : Client} {rules : Rules} (hk : k.Follows rules) {env : Env}
    {threadIndex : ULONG} (h : s.completeInternalStep k env threadIndex = some s') : s'.turn = s.turn := by
  unfold completeInternalStep at h
  split at h
  · cases h
  rename_i actions _
  cases h
  obtain ⟨eflags, e, hclear⟩ := clearTrapFlag_eq env threadIndex s
  rw [hclear]
  have hactions := turn_of_roster (roster_runActions hk env threadIndex actions
    ({ s with target.eflags := eflags, lastError := e }.forgetInternalStep threadIndex))
  obtain ⟨resumes, e', hreleased⟩ := releaseThreads_eq threadIndex
    (({ s with target.eflags := eflags, lastError := e }.forgetInternalStep threadIndex).runActions k env
      threadIndex actions)
  rw [hreleased]
  exact hactions

/-- A piece of work stays within its round. -/
theorem closed_turn (rules : Rules) : WatchClosed rules fun s s' => s'.turn = s.turn where
  trans hab hbc := hbc.trans hab
  same h := turn_of_setting (congrArg Prod.fst h)
  call _ _ := turn_of_roster (roster_call ..)
  lose id _ _ _ := turn_of_roster (roster_of_core (core_removeMemoryBreakpointById ..))
  expose page _ _ _ _ := by
    obtain ⟨s₁, hcore, he | he⟩ := core_rearmWatchedPage _ page _ <;> rw [he]
    · exact turn_of_roster (roster_of_core hcore)
    · exact (turn_scheduleInternalStep ..).trans (turn_of_roster (roster_of_core hcore))
  schedule id _ _ := turn_scheduleInternalStep ..
  complete hk _ _ _ h := turn_completeInternalStep hk h
  enterThread _ := by
    unfold Session.enterThread registerTitanHandle
    dsimp only
    split <;> rfl
  enterProcess {env handle initialThread s} _ := by
    unfold Session.enterProcess Session.enterThread registerTitanHandle
    dsimp only
    repeat' split
    all_goals rfl
  forgetThread _ _ := by
    unfold Session.forgetThread
    split
    · dsimp only
      split <;> rfl
    · rfl
  forgetProcess _ _ := by
    unfold Session.forgetProcess
    split
    · split <;> rfl
    · rfl

end Session

namespace Session

/-- What the tables of memory breakpoints and the protections of pages live in. -/
def tables (s : Session) := (s.mode, s.targetPageSize, s.watch)

variable {s s' : Session}

theorem tables_of_guards (h : s'.guards = s.guards) : s'.tables = s.tables :=
  congrArg (fun g => (g.1.1, g.1.2.2.1, g.2)) h

theorem tables_scheduleInternalStep (env : Env) (action : StepAction) (s : Session) :
    (s.scheduleInternalStep env action).tables = s.tables := by
  obtain ⟨steps, suspends, resumes, eflags, e, h⟩ := scheduleInternalStep_eq env action s
  rw [h]
  rfl

theorem tables_applyExecutionStatus (env : Env) (s : Session) :
    (s.applyExecutionStatus env).1.tables = s.tables := by
  unfold applyExecutionStatus
  dsimp only
  repeat' split
  all_goals rfl

theorem tables_stop (env : Env) (events : List (Env × Work)) (s : Session) :
    (s.stop env events).tables = s.tables := by
  unfold Session.stop recogniseStop
  repeat' split
  all_goals rfl

theorem tables_enterThread (env : Env) (handle : HANDLE) (s : Session) :
    (s.enterThread env handle).tables = s.tables := by
  unfold enterThread registerTitanHandle
  dsimp only
  split <;> rfl

theorem tables_enterProcess (env : Env) (handle initialThread : HANDLE) (s : Session) :
    (s.enterProcess env handle initialThread).tables = s.tables := by
  obtain he | ⟨processIndex, he⟩ | ⟨processIndex, he⟩ :=
    enterProcess_outcome env handle initialThread s <;> rw [he]
  · refine (tables_enterThread ..).trans ?_
    unfold registerProcess registerTitanHandle
    split <;> rfl
  · rfl

theorem tables_forgetThread (threadIndex : ULONG) (threadHandle : Option HANDLE) (s : Session) :
    (s.forgetThread threadIndex threadHandle).tables = s.tables := by
  unfold forgetThread
  split
  · dsimp only
    split <;> rfl
  · rfl

theorem tables_forgetProcess (processIndex : ULONG) (processHandle : Option HANDLE) (s : Session) :
    (s.forgetProcess processIndex processHandle).tables = s.tables := by
  unfold forgetProcess
  split
  · split <;> rfl
  · rfl

end Session

/-- A relation between sessions that holds of every change of the tables and protections. -/
structure TableClosed (rules : Rules) (R : Session → Session → Prop) : Prop where
  trans : ∀ {a b c}, R a b → R b c → R a c
  same : ∀ {s s' : Session}, s'.tables = s.tables → R s s'
  call : ∀ {env call s}, rules.call env call s → call.watches = true → R s (call.run env s).1
  lose : ∀ {env : Env} {work : Work} {s s' : Session} (id : ULONG64), rules.work env work s →
    work.enters = false → s'.gDebugIdMap = s.gDebugIdMap → R s' (s'.removeMemoryBreakpointById env id).1
  protect : ∀ {env : Env} {work : Work} {s s' : Session} (page : ULONG_PTR) (guarded : Bool),
    rules.work env work s → work.enters = false → s'.gDebugIdMap = s.gDebugIdMap →
      R s' (s'.protectMemoryBreakpointPage env page guarded).1
  target : ∀ {s : Session} {target}, rules.target s target → R s { s with target := target }

namespace TableClosed
open Session
variable {rules : Rules} {R : Session → Session → Prop} (hR : TableClosed rules R)
include hR

theorem client {k : Client} (hk : k.Follows rules) (inv : Invocation) (s : Session) :
    R s (k.call inv s) := by
  have hlog : R s { s with log := .invoke inv :: s.log } := hR.same rfl
  have hcalls : ∀ {a b}, ReflTransGen (CallStep rules) a b → R a b := by
    intro a b hrun
    induction hrun with
    | refl => exact hR.same rfl
    | @tail b _ _ hstep ih =>
      obtain @⟨env, call, _, allowed⟩ := hstep
      refine hR.trans ih ?_
      cases hwatches : call.watches with
      | true => exact hR.call allowed hwatches
      | false =>
        have hsetting := setting_of_roster (roster_call env call b)
        exact hR.same (tables_of_guards (Prod.ext hsetting (watch_call env hwatches b)))
  exact hR.trans hlog (hcalls (hk inv _))

theorem runActions {k : Client} (hk : k.Follows rules) {env : Env} {work : Work} {s₀ : Session}
    (hallowed : rules.work env work s₀) (henters : work.enters = false) (threadIndex : ULONG) (actions : List StepAction) {s : Session}
    (hs : s.gDebugIdMap = s₀.gDebugIdMap) : R s (s.runActions k env threadIndex actions) := by
  induction actions generalizing s with
  | nil => exact hR.same rfl
  | cons action actions ih =>
    have haction : R s (s.runAction k env threadIndex action) ∧
        (s.runAction k env threadIndex action).gDebugIdMap = s₀.gDebugIdMap := by
      refine ⟨?_, ?_⟩
      · cases action with
        | rearmBreakpoint id =>
          simp only [runAction]
          split
          · exact hR.same (tables_of_guards (guards_writeNativeBreakpointBytes ..))
          · exact hR.same rfl
        | rearmPage page =>
          simp only [runAction]
          split
          · exact hR.protect page true hallowed henters hs
          · exact hR.same rfl
        | userStep callback => exact hR.client hk _ s
      · have hroll := roll_runActions hk env threadIndex [action] s
        exact (congrArg Prod.fst hroll).trans hs
    exact hR.trans haction.1 (ih haction.2)

theorem toWatchClosed : WatchClosed rules R where
  trans := hR.trans
  same h := hR.same (tables_of_guards h)
  call := hR.call
  lose id hallowed henters hs := hR.lose id hallowed henters (congrArg (fun x => x.2.2.2.1) hs)
  expose {env info s s'} page hallowed hs _ _ := by
    have hidMap : s'.gDebugIdMap = s.gDebugIdMap := congrArg (fun x => x.2.2.2.1) hs
    unfold rearmWatchedPage scheduleMemoryBreakpointRearm
    split
    · exact hR.trans (hR.protect page false hallowed rfl hidMap)
        (hR.same (tables_scheduleInternalStep _ _ _))
    · exact hR.same rfl
  schedule id _ _ := hR.same (tables_scheduleInternalStep _ _ _)
  complete {k env work threadIndex s s' s''} hk hallowed hcompletes hs hstep := by
    unfold completeInternalStep at hstep
    split at hstep
    · cases hstep
    rename_i actions _
    cases hstep
    obtain ⟨eflags, e, hclear⟩ := clearTrapFlag_eq env threadIndex s'
    rw [hclear]
    have hforget : R s' ({ s' with target.eflags := eflags, lastError := e }.forgetInternalStep
        threadIndex) := hR.same rfl
    have hidMap : ({ s' with target.eflags := eflags, lastError := e }.forgetInternalStep
        threadIndex).gDebugIdMap = s.gDebugIdMap := congrArg (fun x => x.2.2.2.1) hs
    refine hR.trans hforget ?_
    generalize { s' with target.eflags := eflags, lastError := e }.forgetInternalStep threadIndex = s₁
      at hidMap ⊢
    have henters : work.enters = false := by
      cases work <;> first | rfl | cases hcompletes
    have hactions := hR.runActions hk hallowed henters threadIndex actions hidMap
    obtain ⟨resumes, e', hreleased⟩ :=
      releaseThreads_eq threadIndex (s₁.runActions k env threadIndex actions)
    rw [hreleased]
    exact hR.trans hactions (hR.same rfl)
  enterThread _ := hR.same (tables_enterThread ..)
  enterProcess _ := hR.same (tables_enterProcess ..)
  forgetThread _ _ := hR.same (tables_forgetThread ..)
  forgetProcess _ _ := hR.same (tables_forgetProcess ..)

omit hR in
/-- What rules allow holds of stricter ones. -/
theorem mono (hR : TableClosed rules R) {rules' : Rules}
    (hcall : ∀ {env call s}, rules'.call env call s → rules.call env call s)
    (hwork : ∀ {env work s}, rules'.work env work s → rules.work env work s)
    (htarget : ∀ {s target}, rules'.target s target → rules.target s target) : TableClosed rules' R where
  trans := hR.trans
  same := hR.same
  call allowed := hR.call (hcall allowed)
  lose id allowed := hR.lose id (hwork allowed)
  protect page guarded allowed := hR.protect page guarded (hwork allowed)
  target allowed := hR.target (htarget allowed)

theorem step (hblind : rules.QueueBlind) {s s' : Session} (h : SessionStep rules s s') : R s s' := by
  cases h with
  | call step => exact hR.toWatchClosed.callStep step
  | target allowed => exact hR.target allowed
  | stop running => exact hR.same (tables_stop ..)
  | @work k env work rest follows paused queued allowed done =>
    have hpop : R s (s.dequeue rest) := hR.same rfl
    exact hR.trans hpop (hR.toWatchClosed.work follows (hblind _ _ _ _ allowed))
  | @failed k env env' work rest follows paused queued allowed failed =>
    have hpop : R s (s.dequeue rest) := hR.same rfl
    exact hR.trans (hR.trans hpop (hR.toWatchClosed.work follows (hblind _ _ _ _ allowed)))
      (hR.same (tables_applyExecutionStatus ..))
  | resume paused drained => exact hR.same (tables_applyExecutionStatus _ s)

theorem run (hblind : rules.QueueBlind) {s s' : Session} (h : Run rules s s') : R s s' := by
  induction h with
  | refl => exact hR.same rfl
  | tail _ hstep ih => exact hR.trans ih (hR.step hblind hstep)

end TableClosed

end TitanEngine

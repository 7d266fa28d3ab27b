import TitanEngine.Effects.Course
import TitanEngine.Effects.Dispatch
import TitanEngine.Effects.Steps
import TitanEngine.Model.Callbacks

/-! The story of a session: whom the client has been told of, what it has asked for, and what
it is still to be told. Each piece of work adds to it in one of a few ways. -/
namespace TitanEngine

/-- The client is called, or asks for a step. -/
def Entry.speaks : Entry → Bool
  | .invoke _ | .stepRequested .. => true
  | _ => false

namespace Session

def story (s : Session) : Session :=
  { s.course with
    gFakeDebugEvent := {}
    gNextExecutionStatus := .noChange
    gHandleRegistry := ∅
    steps := { s.steps with gInternalStepSuspendedThreads := ∅, gStepStatuses := ∅ }
    log := s.log.filter Entry.speaks }

variable {s s' : Session}

theorem story_field_eq {α : Type*} (f : Session → α) (hf : ∀ s : Session, f s.story = f s)
    (h : s'.story = s.story) : f s' = f s := by
  rw [← hf s', h, hf]

theorem story_of_course (h : s'.course = s.course) : s'.story = s.story :=
  course_field_eq story (fun _ => rfl) h

theorem story_expects (h : s'.story = s.story) :
    s'.gExpectSystemBreakpoint = s.gExpectSystemBreakpoint :=
  story_field_eq (fun s => s.gExpectSystemBreakpoint) (fun _ => rfl) h

theorem story_attach (h : s'.story = s.story) : s'.gAttachCallback = s.gAttachCallback :=
  story_field_eq (fun s => s.gAttachCallback) (fun _ => rfl) h

theorem story_paused (h : s'.story = s.story) : s'.gPaused = s.gPaused :=
  story_field_eq (fun s => s.gPaused) (fun _ => rfl) h

theorem story_queue (h : s'.story = s.story) : s'.gCallbackQueue = s.gCallbackQueue :=
  story_field_eq (fun s => s.gCallbackQueue) (fun _ => rfl) h

theorem story_callbacks (h : s'.story = s.story) : s'.steps.gStepCallbacks = s.steps.gStepCallbacks :=
  story_field_eq (fun s => s.steps.gStepCallbacks) (fun _ => rfl) h

theorem story_internal (h : s'.story = s.story) :
    s'.steps.gInternalStepCallbacks = s.steps.gInternalStepCallbacks :=
  story_field_eq (fun s => s.steps.gInternalStepCallbacks) (fun _ => rfl) h

theorem story_log (h : s'.story = s.story) :
    s'.log.filter Entry.speaks = s.log.filter Entry.speaks :=
  congrArg (fun s => s.log) h

/-- The rearming actions of an internal step are none of the client's. -/
theorem story_runAction (k : Client) (env : Env) (threadIndex : ULONG) {action : StepAction}
    (plain : ∀ callback, action ≠ .userStep callback) (s : Session) :
    (s.runAction k env threadIndex action).story = s.story := by
  cases action with
  | rearmBreakpoint id =>
    unfold runAction
    dsimp only
    split
    · exact story_of_course (course_writeNativeBreakpointBytes ..)
    · rfl
  | rearmPage page =>
    unfold runAction
    dsimp only
    split
    · exact story_of_course (course_protectMemoryBreakpointPage ..)
    · rfl
  | userStep callback => exact absurd rfl (plain callback)

@[simp] theorem story_setFakeDebugEvent (env : Env) (info : DebugInfo) (s : Session) :
    (s.setFakeDebugEvent env info).story = s.story := rfl

@[simp] theorem story_finishDebugEvent (u : Bool) (s : Session) :
    (s.finishDebugEvent u).story = s.story := by
  unfold finishDebugEvent
  split <;> rfl

@[simp] theorem story_enterNativeHit (env : Env) (id : ULONG) (bpInfo : BreakpointInfo) (s : Session) :
    (s.enterNativeHit env id bpInfo).story = s.story := by
  have hip : (s.setCurrentInstructionPointer env bpInfo.offset).story = s.story := by
    unfold setCurrentInstructionPointer
    split <;> rfl
  have hdisguise : ∀ s : Session, (s.disguiseHit bpInfo).story = s.story := by
    intro s
    unfold disguiseHit
    split <;> rfl
  have hconsume : ∀ s : Session, (s.consumeOneShot id bpInfo).story = s.story := by
    intro s
    unfold consumeOneShot
    split <;> rfl
  have hnoted : (s.enterNativeHit env id bpInfo).story =
      (((s.setCurrentInstructionPointer env bpInfo.offset).disguiseHit bpInfo).consumeOneShot id
        bpInfo).story := rfl
  exact hnoted.trans ((hconsume _).trans ((hdisguise _).trans hip))

@[simp] theorem story_expireOneShot (id : ULONG) (bpInfo : BreakpointInfo) (s : Session) :
    (s.expireOneShot id bpInfo).story = s.story := by
  unfold expireOneShot
  repeat' split
  all_goals rfl

@[simp] theorem story_adoptThreadId (handle : HANDLE) (s : Session) :
    (s.adoptThreadId handle).story = s.story := by
  unfold adoptThreadId
  split <;> rfl

@[simp] theorem story_applyExecutionStatus (env : Env) (s : Session) :
    (s.applyExecutionStatus env).1.story = s.story := by
  unfold applyExecutionStatus
  dsimp only
  repeat' split
  all_goals rfl

/-- What the client is told of one event. -/
inductive Reports (k : Client) (s : Session) : Session → Prop
  | event {s₀ s' : Session} (entered : s₀.story = s.story)
      (told : s'.story = (k.call (.handler .debugEvent) s₀).story) : Reports k s s'
  | callback {inv : Invocation} {s₀ s₁ s' : Session} (report : inv.isReport = true)
      (entered : s₀.story = s.story) (told : s₁.story = (k.call (.handler .debugEvent) s₀).story)
      (called : s'.story = (k.call inv s₁).story) : Reports k s s'
  | attached {callback : Callback} {s₀ s' : Session} (expected : s.gExpectSystemBreakpoint = true)
      (entered : s₀.story = { s with gExpectSystemBreakpoint := false }.story)
      (given : (k.call (.handler .debugEvent) s₀).gAttachCallback = some callback)
      (called : s'.story = (k.call (.attach callback)
        { k.call (.handler .debugEvent) s₀ with gAttachCallback := none }).story) : Reports k s s'
  | stopped {s₀ s' : Session} (expected : s.gExpectSystemBreakpoint = true)
      (entered : s₀.story = { s with gExpectSystemBreakpoint := false }.story)
      (given : (k.call (.handler .debugEvent) s₀).gAttachCallback = none)
      (called : s'.story = (k.call (.handler .systemBreakpoint)
        (k.call (.handler .debugEvent) s₀)).story) : Reports k s s'

/-- What is left to do once the client has been told. -/
inductive Concludes (env : Env) (work : Work) (s : Session) : Session → Prop
  | same {s' : Session} (same : s'.story = s.story) : Concludes env work s s'
  | armed {info : EXCEPTION_DEBUG_INFO} {action : StepAction} {s₀ s' : Session}
      (exception : work = .exception info) (before : s₀.story = s.story)
      (armed : s'.story = (s₀.scheduleInternalStep env action).story)
      (plain : ∀ callback, action ≠ .userStep callback) : Concludes env work s s'
  | exited {code : DWORD} {handle : Option HANDLE} (exit : work = .exitThread code) :
      Concludes env work s (s.forgetThread (env.currentThreadId.getD (BitVec.allOnes 32)) handle)
  | unnamed {map : DebugIdMap} {s' : Session} (same : s'.story = { s with gDebugIdMap := map }.story) :
      Concludes env work s s'

/-- What a piece of work comes to. -/
inductive WorkShape (k : Client) (env : Env) (work : Work) (s : Session) : Session → Prop
  | silent {s' : Session} (quiet : ∀ thread callback, work.steps thread callback = false)
      (same : s'.story = s.story) : WorkShape k env work s s'
  | step {thread : ULONG} {callback : Callback} {id : DWORD} {s₀ : Session}
      (step : work = .step thread (some callback) id) (before : s₀.story = s.story) :
      WorkShape k env work s (s₀.callStep k thread callback)
  | completed {thread : ULONG} {actions : List StepAction} {s₀ s' : Session}
      (quiet : ∀ thread callback, work.steps thread callback = false)
      (pending : s.steps.gInternalStepCallbacks[thread]? = some actions)
      (forgotten : s₀.story = (s.forgetInternalStep thread).story)
      (ran : s'.story = (s₀.runActions k env thread actions).story) : WorkShape k env work s s'
  | event {map : DebugIdMap} {s₀ s₁ s' : Session}
      (quiet : ∀ thread callback, work.steps thread callback = false)
      (entered : s₀.story = { s with gDebugIdMap := map }.story)
      (kept : ∀ info, work = .exception info → map = s.gDebugIdMap)
      (reported : Reports k s₀ s₁) (left : Concludes env work s₁ s') : WorkShape k env work s s'

variable {k : Client} {env : Env}

theorem Reports.dispatchDebugEvent {id : TitanCustomHandler} (u : Bool)
    (h : (Invocation.handler id).isReport = true) (s : Session) :
    Reports k s (s.dispatchDebugEvent k id u) := by
  have hentered : { s with gNextContinueStatus :=
      if u then DBG_EXCEPTION_NOT_HANDLED else DBG_CONTINUE }.story = s.story := rfl
  exact .callback h hentered rfl (story_finishDebugEvent ..)

theorem Reports.of_story {s₁ : Session} (h : Reports k s₁ s') (hs : s₁.story = s.story) :
    Reports k s s' := by
  have hforgot : { s₁ with gExpectSystemBreakpoint := false }.story =
      { s with gExpectSystemBreakpoint := false }.story :=
    congrArg (fun s : Session => { s with gExpectSystemBreakpoint := false }) hs
  cases h with
  | event entered told => exact .event (entered.trans hs) told
  | callback report entered told called => exact .callback report (entered.trans hs) told called
  | attached expected entered given called =>
    exact .attached ((story_expects hs).symm.trans expected) (entered.trans hforgot) given called
  | stopped expected entered given called =>
    exact .stopped ((story_expects hs).symm.trans expected) (entered.trans hforgot) given called

theorem Reports.dispatchUnhandledException (env : Env) (info : EXCEPTION_DEBUG_INFO) (s : Session) :
    Reports k s (s.dispatchUnhandledException k env info) := by
  have hnoted : { s with log := .delivered env.currentThreadId info.address :: s.log }.story =
      s.story := rfl
  exact (dispatchDebugEvent true rfl _).of_story hnoted

theorem Reports.dispatchSystemBreakpoint (h : s.gExpectSystemBreakpoint = true) :
    Reports k s ({ s with gExpectSystemBreakpoint := false }.dispatchSystemBreakpoint k) := by
  have hentered : { s with gExpectSystemBreakpoint := false, gNextContinueStatus :=
      if false then DBG_EXCEPTION_NOT_HANDLED else DBG_CONTINUE }.story =
        { s with gExpectSystemBreakpoint := false }.story := rfl
  unfold Session.dispatchSystemBreakpoint
  dsimp only
  split <;> rename_i hattach
  · exact .attached h hentered hattach (story_finishDebugEvent ..)
  · exact .stopped h hentered hattach (story_finishDebugEvent ..)

/-- A callback of the client's, if it has given one, in a session that it has been told of. -/
theorem Reports.beginDebugEvent (call : Option Invocation) {s₁ : Session}
    (h : s₁.story = (s.beginDebugEvent k false).story)
    (hreport : ∀ inv ∈ call, inv.isReport = true) (hs' : s' =
      match call with
      | some inv => k.call inv s₁
      | none => s₁) : Reports k s s' := by
  have hentered : { s with gNextContinueStatus :=
      if false then DBG_EXCEPTION_NOT_HANDLED else DBG_CONTINUE }.story = s.story := rfl
  cases call with
  | none => exact .event hentered (hs' ▸ h)
  | some inv => exact .callback (hreport inv rfl) hentered h (congrArg story hs')

theorem Reports.callBreakpoint (bpInfo : BreakpointInfo) (s : Session) :
    Reports k s ((s.beginDebugEvent k false).callBreakpoint k bpInfo) := by
  refine beginDebugEvent bpInfo.invocation rfl ?_ ?_
  · unfold BreakpointInfo.invocation
    intro inv hinv
    split at hinv <;> rw [Option.mem_def, Option.map_eq_some_iff] at hinv <;>
      obtain ⟨callback, -, rfl⟩ := hinv <;> rfl
  · unfold Session.callBreakpoint BreakpointInfo.invocation
    cases bpInfo.kind with
    | hardware => cases bpInfo.hardwareCallback <;> rfl
    | software => cases bpInfo.callback <;> rfl

theorem Reports.reportMemoryHit (env : Env) (info : EXCEPTION_DEBUG_INFO)
    (hit : Option MemoryBreakpointInfo) (address : ULONG_PTR) (s : Session) :
    Reports k s (s.reportMemoryHit k env info hit address) := by
  suffices h : Reports k (s.setFakeDebugEvent env (.exception info))
      (s.reportMemoryHit k env info hit address) from h.of_story (story_setFakeDebugEvent ..)
  unfold Session.reportMemoryHit
  dsimp only
  cases hit with
  | none => exact beginDebugEvent none rfl (fun _ h => nomatch h) rfl
  | some bp =>
    dsimp only
    split
    · exact beginDebugEvent none rfl (fun _ h => nomatch h) rfl
    · generalize hlost : (if bp.restoreOnHit then
          (s.setFakeDebugEvent env (.exception info)).beginDebugEvent k false
        else (((s.setFakeDebugEvent env (.exception info)).beginDebugEvent k
          false).removeMemoryBreakpointById env bp.id).1) = s₁
      have hstory : s₁.story =
          ((s.setFakeDebugEvent env (.exception info)).beginDebugEvent k false).story := by
        rw [← hlost]
        split
        · rfl
        · exact story_of_course (course_removeMemoryBreakpointById ..)
      refine beginDebugEvent (bp.callback.map fun callback => .memoryBreakpoint callback address) hstory
        ?_ ?_
      · intro inv hinv
        obtain ⟨callback, -, rfl⟩ := Option.map_eq_some_iff.mp hinv
        rfl
      · cases bp.callback <;> rfl

theorem story_of_rearm (env : Env) (page : ULONG_PTR) (s : Session) :
    ∃ s₀, s₀.story = s.story ∧ (s.rearmWatchedPage env page = s₀ ∨
      s.rearmWatchedPage env page = s₀.scheduleInternalStep env (.rearmPage page)) := by
  unfold rearmWatchedPage scheduleMemoryBreakpointRearm
  split
  · exact ⟨_, story_of_course (course_protectMemoryBreakpointPage env page false s), .inr rfl⟩
  · exact ⟨s, rfl, .inl rfl⟩

theorem Concludes.rearmWatchedPage (info : EXCEPTION_DEBUG_INFO) (page : ULONG_PTR) (s : Session) :
    Concludes env (.exception info) s ((s.rearmWatchedPage env page).finishDebugEvent false) := by
  obtain ⟨s₀, hs₀, heq | heq⟩ := story_of_rearm env page s <;> rw [heq]
  · exact .same ((story_finishDebugEvent ..).trans hs₀)
  · exact .armed rfl hs₀ (story_finishDebugEvent ..) (fun _ h => nomatch h)

theorem Concludes.rearmNative (info : EXCEPTION_DEBUG_INFO) (id : ULONG) (bpInfo : BreakpointInfo)
    (s : Session) :
    Concludes env (.exception info) s ((s.rearmNative env id bpInfo).finishDebugEvent false) := by
  unfold Session.rearmNative
  split
  · exact .armed rfl rfl (story_finishDebugEvent ..) (fun _ h => nomatch h)
  · exact .same (story_finishDebugEvent ..)

namespace WorkShape

/-- An event that nothing is entered into the tables for. -/
theorem reports {work : Work} {s₁ : Session}
    (quiet : ∀ thread callback, work.steps thread callback = false) (h : Reports k s s₁)
    (hleft : Concludes env work s₁ s') : WorkShape k env work s s' := by
  have hentered : s.story = { s with gDebugIdMap := s.gDebugIdMap }.story := rfl
  exact .event quiet hentered (fun _ _ => rfl) h hleft

theorem completeInternalStep {work : Work} {s₁ : Session} {threadIndex : ULONG}
    (quiet : ∀ thread callback, work.steps thread callback = false) (hs₁ : s₁.story = s.story)
    (h : s₁.completeInternalStep k env threadIndex = some s') : WorkShape k env work s s' := by
  unfold Session.completeInternalStep at h
  split at h
  · cases h
  · rename_i actions hpending
    cases h
    rw [story_internal hs₁] at hpending
    obtain ⟨eflags, e, hclear⟩ := clearTrapFlag_eq env threadIndex s₁
    have hforgotten : ((s₁.clearTrapFlag env threadIndex).forgetInternalStep threadIndex).story =
        (s.forgetInternalStep threadIndex).story := by
      rw [hclear]
      exact congrArg (fun s : Session => { s.forgetInternalStep threadIndex with
        gNextExecutionStatus := .noChange, steps.gStepStatuses := ∅ }) hs₁
    obtain ⟨resumes, e', hrelease⟩ := releaseThreads_eq threadIndex
      (((s₁.clearTrapFlag env threadIndex).forgetInternalStep threadIndex).runActions k env threadIndex
        actions)
    refine .completed quiet hpending hforgotten ?_
    rw [hrelease]
    rfl

theorem nativeBreakpointHit {info : EXCEPTION_DEBUG_INFO} {s₁ : Session} (hs₁ : s₁.story = s.story)
    (id : ULONG) (bpInfo : BreakpointInfo) :
    WorkShape k env (.exception info) s (s₁.nativeBreakpointHit k env id bpInfo).1 := by
  have hwrite := story_of_course (course_writeNativeBreakpointBytes env bpInfo false s₁)
  unfold Session.nativeBreakpointHit
  split <;> rename_i s₂ heq <;> rw [heq] at hwrite
  · exact .silent (fun _ _ => rfl) (hwrite.trans hs₁)
  · have hentered : (s₂.enterNativeHit env id bpInfo).story = s.story :=
      (story_enterNativeHit ..).trans (hwrite.trans hs₁)
    exact reports (fun _ _ => rfl) ((Reports.callBreakpoint bpInfo _).of_story hentered)
      (Concludes.rearmNative info id bpInfo _)

theorem exceptionEvent (info : EXCEPTION_DEBUG_INFO) (s : Session) :
    WorkShape k env (.exception info) s (s.exceptionEvent k env info).1 := by
  have hquiet : ∀ thread callback, (Work.exception info).steps thread callback = false :=
    fun _ _ => rfl
  have hfake := story_setFakeDebugEvent env (.exception info) s
  unfold Session.exceptionEvent
  generalize hs₁ : s.setFakeDebugEvent env (.exception info) = s₁ at hfake
  dsimp only
  split
  · rename_i s₂ hstep
    unfold consumeSingleStep at hstep
    split at hstep
    · obtain ⟨threadIndex, -, hcomplete⟩ := Option.bind_eq_some_iff.mp hstep
      exact completeInternalStep hquiet hfake hcomplete
    · cases hstep
  split
  · rename_i s₂ haccess
    unfold consumeAccess at haccess
    split at haccess
    · unfold dispatchMemoryBreakpointException at haccess
      split at haccess
      · dsimp only at haccess
        split at haccess
        · cases haccess
        · cases haccess
          exact reports hquiet ((Reports.reportMemoryHit env info _ _ s₁).of_story hfake)
            (Concludes.rearmWatchedPage info _ _)
      · cases haccess
    · cases haccess
  split
  · rename_i hexpected
    exact reports hquiet ((Reports.dispatchSystemBreakpoint hexpected.2).of_story hfake) (.same rfl)
  split
  · unfold breakpointException
    split
    · exact nativeBreakpointHit hfake ..
    · split
      · have hentered : { s₁ with gNextContinueStatus :=
            if false then DBG_EXCEPTION_NOT_HANDLED else DBG_CONTINUE }.story = s₁.story := rfl
        exact reports hquiet (Reports.of_story (.event hentered rfl) hfake)
          (.same (story_finishDebugEvent ..))
      · exact reports hquiet ((Reports.dispatchUnhandledException env info s₁).of_story hfake) (.same rfl)
  · exact reports hquiet ((Reports.dispatchUnhandledException env info s₁).of_story hfake) (.same rfl)

theorem breakpointEvent (id : ULONG) (offset : ULONG64) (s : Session) :
    WorkShape k env (.breakpoint id offset) s (s.breakpointEvent k env id offset) := by
  have hquiet : ∀ thread callback, (Work.breakpoint id offset).steps thread callback = false :=
    fun _ _ => rfl
  unfold Session.breakpointEvent
  split
  · dsimp only
    split
    · rename_i hexpected
      exact reports hquiet ((Reports.dispatchSystemBreakpoint hexpected).of_story
        (story_setFakeDebugEvent ..)) (.same rfl)
    · exact reports hquiet ((Reports.dispatchUnhandledException env _ _).of_story
        (story_setFakeDebugEvent ..)) (.same rfl)
  · rename_i bpInfo _
    exact reports hquiet ((Reports.callBreakpoint bpInfo _).of_story (story_setFakeDebugEvent ..))
      (.same ((story_finishDebugEvent ..).trans (story_expireOneShot ..)))

theorem enterThread (env : Env) (handle : HANDLE) (s : Session) :
    ∃ map, (s.enterThread env handle).story = { s with gDebugIdMap := map }.story := by
  unfold Session.enterThread registerTitanHandle
  dsimp only
  split <;> exact ⟨_, rfl⟩

theorem enterProcess (env : Env) (handle initialThread : HANDLE) (s : Session) :
    ∃ map, (s.enterProcess env handle initialThread).story = { s with gDebugIdMap := map }.story := by
  unfold Session.enterProcess
  dsimp only
  split
  · exact ⟨s.gDebugIdMap, rfl⟩
  split
  · obtain ⟨map, hmap⟩ := enterThread env initialThread
      ((s.rememberProcess handle (env.currentProcessId.getD (BitVec.allOnes 32))).registerTitanHandle
        handle .process (env.currentProcessId.getD (BitVec.allOnes 32)) (debugProcessId env) false)
    refine ⟨map, hmap.trans ?_⟩
    unfold registerTitanHandle
    split <;> rfl
  · exact ⟨_, rfl⟩

theorem forgetProcess (processIndex : ULONG) (handle : Option HANDLE) (s : Session) :
    ∃ map, (s.forgetProcess processIndex handle).story = { s with gDebugIdMap := map }.story := by
  unfold Session.forgetProcess
  split
  · split
    · exact ⟨s.gDebugIdMap, rfl⟩
    · exact ⟨_, rfl⟩
  · exact ⟨s.gDebugIdMap, rfl⟩

/-- Every piece of work is of one of the shapes. -/
theorem run (k : Client) (env : Env) (work : Work) (s : Session) :
    WorkShape k env work s (work.run k env s).1 := by
  cases work with
  | breakpoint id offset => exact breakpointEvent id offset s
  | exception info => exact exceptionEvent info s
  | createThread handle =>
    obtain ⟨map, hmap⟩ : ∃ map, (if s.gSessionKind = .live then s.enterThread env handle else s).story =
        { s with gDebugIdMap := map }.story := by
      split
      · exact enterThread env handle s
      · exact ⟨s.gDebugIdMap, rfl⟩
    have hentered := (story_adoptThreadId handle _).trans
      ((story_setFakeDebugEvent env (.createThread handle) _).trans hmap)
    exact .event (fun _ _ => rfl) hentered (fun _ h => nomatch h)
      (Reports.dispatchDebugEvent false rfl _) (.same rfl)
  | exitThread code =>
    exact reports (fun _ _ => rfl)
      ((Reports.dispatchDebugEvent false rfl _).of_story
        (story_setFakeDebugEvent env (.exitThread code) s)) (.exited rfl)
  | createProcess handle initialThread =>
    obtain ⟨map, hmap⟩ := enterProcess env handle initialThread s
    exact .event (fun _ _ => rfl) ((story_setFakeDebugEvent ..).trans hmap) (fun _ h => nomatch h)
      (Reports.dispatchDebugEvent false rfl _) (.same rfl)
  | exitProcess code =>
    obtain ⟨map, hmap⟩ := forgetProcess (env.currentProcessId.getD (BitVec.allOnes 32))
      (s.setFakeDebugEvent env (.exitProcess code)).gDebugIdMap.processIndexToHandle[
        env.currentProcessId.getD (BitVec.allOnes 32)]?
      ((s.setFakeDebugEvent env (.exitProcess code)).dispatchDebugEvent k .exitProcess false)
    exact reports (fun _ _ => rfl) ((Reports.dispatchDebugEvent false rfl _).of_story
      (story_setFakeDebugEvent env (.exitProcess code) s)) (.unnamed hmap)
  | loadModule base =>
    exact reports (fun _ _ => rfl) ((Reports.dispatchDebugEvent false rfl _).of_story
      (story_setFakeDebugEvent ..)) (.same rfl)
  | unloadModule base =>
    exact reports (fun _ _ => rfl) ((Reports.dispatchDebugEvent false rfl _).of_story
      (story_setFakeDebugEvent ..)) (.same rfl)
  | outputDebugString =>
    exact reports (fun _ _ => rfl) ((Reports.dispatchDebugEvent false rfl _).of_story
      (story_setFakeDebugEvent ..)) (.same rfl)
  | pause callback =>
    have hids : { s.setEventIds (debugProcessId env) (debugThreadId env) with gNextContinueStatus :=
        if false then DBG_EXCEPTION_NOT_HANDLED else DBG_CONTINUE }.story = s.story := rfl
    have hreport : (Invocation.pause callback).isReport = true := rfl
    exact reports (fun _ _ => rfl) (.callback hreport hids rfl rfl) (.same (story_finishDebugEvent ..))
  | internalStep threadIndex =>
    simp only [Work.run]
    split
    · rename_i s' hstep
      exact completeInternalStep (fun _ _ => rfl) rfl hstep
    · exact .silent (fun _ _ => rfl) rfl
  | step threadIndex callback threadSystemId =>
    have hids : { s.setEventIds (debugProcessId env) threadSystemId with
        gNextExecutionStatus := .go }.story = s.story := rfl
    cases callback with
    | some callback => exact .step rfl hids
    | none => exact .silent (fun thread callback => by simp [Work.steps]) hids

end WorkShape

end Session

end TitanEngine

import TitanEngine.Resume.Rounds
import TitanEngine.Patches.Records
import TitanEngine.Patches.Undo

/-! Whether an exception that the client leaves unhandled reaches the target. -/
namespace TitanEngine
open Relation

namespace Session

/-- No internal step, watched page or breakpoint of the adapter accounts for the exception. -/
structure PassesOn (env : Env) (info : EXCEPTION_DEBUG_INFO) (s : Session) : Prop where
  step : info.code = EXCEPTION_SINGLE_STEP → ∀ threadIndex, env.currentThreadId = some threadIndex →
    threadIndex ∉ s.steps.gInternalStepCallbacks
  access : info.code = STATUS_GUARD_PAGE_VIOLATION ∨ info.code = EXCEPTION_ACCESS_VIOLATION →
    ∀ accessType accessAddress rest, info.parameters = accessType :: accessAddress :: rest →
      s.pageAddress accessAddress ∉ s.bps.gMemoryBreakpointPages
  system : ¬ (info.code = EXCEPTION_BREAKPOINT ∧ s.gExpectSystemBreakpoint = true)
  breakpoint : info.code = EXCEPTION_BREAKPOINT ∨ info.code = EXCEPTION_ILLEGAL_INSTRUCTION →
    s.findNative info.address = none ∧ s.isRetired info.address = false

/-- The session once the client's handler of unhandled exceptions has been called. -/
def afterHandler (k : Client) (env : Env) (info : EXCEPTION_DEBUG_INFO) (s : Session) : Session :=
  let s := s.setFakeDebugEvent env (.exception info)
  k.call (.handler .unhandledException)
    ({ s with log := .delivered env.currentThreadId info.address :: s.log }.beginDebugEvent k true)

theorem exceptionEvent_of_passesOn (k : Client) {env : Env} {info : EXCEPTION_DEBUG_INFO} {s : Session}
    (h : s.PassesOn env info) :
    s.exceptionEvent k env info = ((s.afterHandler k env info).finishDebugEvent true, true) := by
  have hstep : (s.setFakeDebugEvent env (.exception info)).consumeSingleStep k env info = none := by
    unfold consumeSingleStep
    split
    · rename_i htrap
      cases hthread : env.currentThreadId with
      | none => rfl
      | some threadIndex =>
        have hnone := h.step htrap threadIndex hthread
        rw [Option.bind_some]
        unfold completeInternalStep
        split
        · rfl
        · rename_i hactions
          have hsome : s.steps.gInternalStepCallbacks[threadIndex]? = some _ := hactions
          rw [Std.ExtTreeMap.getElem?_eq_none hnone] at hsome
          cases hsome
    · rfl
  have haccess : (s.setFakeDebugEvent env (.exception info)).consumeAccess k env info = none := by
    unfold consumeAccess
    split
    · rename_i hcode
      unfold dispatchMemoryBreakpointException
      split
      · rename_i accessType accessAddress rest hparameters
        have hpage := h.access hcode accessType accessAddress rest hparameters
        dsimp only
        split
        · rfl
        · rename_i hwatched
          have hsome : s.bps.gMemoryBreakpointPages[s.pageAddress accessAddress]? = some _ := hwatched
          rw [Std.ExtTreeMap.getElem?_eq_none hpage] at hsome
          cases hsome
      · rfl
    · rfl
  unfold exceptionEvent
  dsimp only
  rw [hstep, haccess]
  dsimp only
  have hsystem : ¬ (info.code = EXCEPTION_BREAKPOINT ∧
      (s.setFakeDebugEvent env (.exception info)).gExpectSystemBreakpoint = true) := h.system
  rw [if_neg hsystem]
  split
  · rename_i hcode
    obtain ⟨hnative, hretired⟩ := h.breakpoint hcode
    have hnative' : (s.setFakeDebugEvent env (.exception info)).findNative info.address = none := hnative
    have hretired' : (s.setFakeDebugEvent env (.exception info)).isRetired info.address = false :=
      hretired
    unfold breakpointException
    rw [hnative']
    dsimp only
    rw [hretired']
    rfl
  · rfl

/-- An unhandled exception asks for a status as such iff nothing has asked before and no
thread has a step status. -/
theorem finishDebugEvent_goNotHandled_iff {s : Session} (hkind : s.gSessionKind = .live)
    (hcontinue : s.gNextContinueStatus = DBG_EXCEPTION_NOT_HANDLED) :
    (s.finishDebugEvent true).gNextExecutionStatus = .goNotHandled ↔
      s.gNextExecutionStatus = .goNotHandled ∨
        s.gNextExecutionStatus = .noChange ∧ s.steps.gStepStatuses = ∅ := by
  unfold finishDebugEvent
  split
  · rename_i hopen
    show s.eventStatus true = .goNotHandled ↔ _
    rw [hopen, ← Map.first_eq_none_iff]
    unfold eventStatus
    rw [if_neg (by rw [hkind]; decide)]
    cases s.steps.gStepStatuses.first with
    | none => simp [hcontinue]
    | some entry =>
      obtain ⟨threadIndex, status⟩ := entry
      cases status <;> simp [StepStatus.toExecution]
  · rename_i hsettled
    simp [hsettled]

theorem finishDebugEvent_ne_noChange (u : Bool) (s : Session) :
    (s.finishDebugEvent u).gNextExecutionStatus ≠ .noChange := by
  unfold finishDebugEvent
  split
  · exact Effects.eventStatus_ne_noChange u s
  · assumption

end Session

/-- In a live session, an exception that the client leaves unhandled is passed to the target
as unhandled iff no status has been asked for before, no thread has a step status, and no
later work of the stop overwrites the status. -/
theorem unhandled_exception_reaches_target_iff {k : Client} (hk : k.Follows anyRules) {s s₁ : Session}
    (hlive : s.Live) {env env' : Env} {events rest : List (Env × Work)} {info : EXCEPTION_DEBUG_INFO}
    (hround : Round k env events s ((env', .exception info) :: rest) s₁)
    (hdebuggee : env.hasDebuggee = true) (hpasses : s₁.PassesOn env' info)
    (hcontinue : ((s₁.dequeue rest).afterHandler k env' info).gNextContinueStatus =
      DBG_EXCEPTION_NOT_HANDLED) :
    (s.debugLoop k env events).2 = .resumed .goNotHandled ↔
      (((s₁.dequeue rest).afterHandler k env' info).gNextExecutionStatus = .goNotHandled ∨
        ((s₁.dequeue rest).afterHandler k env' info).gNextExecutionStatus = .noChange ∧
          ((s₁.dequeue rest).afterHandler k env' info).steps.gStepStatuses = ∅) ∧
      Overwritten k rest (((s₁.dequeue rest).afterHandler k env' info).finishDebugEvent true) =
        false := by
  have hpasses' : (s₁.dequeue rest).PassesOn env' info :=
    ⟨hpasses.step, hpasses.access, hpasses.system, hpasses.breakpoint⟩
  have hevent := Session.exceptionEvent_of_passesOn k hpasses'
  have hdrain : Session.drain k ((env', .exception info) :: rest) s₁ =
      Session.drain k rest (((s₁.dequeue rest).afterHandler k env' info).finishDebugEvent true) := by
    rw [Session.drain_cons]
    have hrun : (Work.exception info).run k env' (s₁.dequeue rest) = _ := hevent
    rw [hrun]
    rfl
  have hmode₁ : s₁.mode = s.mode := mode_of_round hk hround
  have hmode := mode_work hk env' (.exception info) (s₁.dequeue rest)
  rw [show (Work.exception info).run k env' (s₁.dequeue rest) = _ from hevent] at hmode
  generalize (s₁.dequeue rest).afterHandler k env' info = u at *
  have hlive₁ : (s₁.dequeue rest).Live := hmode₁.trans hlive
  have hlive' : (u.finishDebugEvent true).Live := hmode.trans hlive₁
  have hkind : u.gSessionKind = .live := by
    have himage := congrArg Image.mode (Session.image_finishDebugEvent true u)
    exact Session.Live.kind (himage.symm.trans hlive')
  have hsettled := Session.finishDebugEvent_ne_noChange true u
  have hdrained := drain_status_iff hk .goNotHandled (by decide) (by decide) rest hsettled
  rw [restored_goNotHandled] at hdrained
  rw [Session.debugLoop_of_round hround, hdrain, resumed_iff hk hlive' hdebuggee hsettled, hdrained,
    Session.finishDebugEvent_goNotHandled_iff hkind hcontinue]
  simp

/-- A live session on a process with one thread. -/
def threadedSession : Session :=
  { gDebugIdMap := { processIndexToHandle := (∅ : Map ULONG HANDLE).insert 0 0x100
                     processHandleToIndex := (∅ : Map HANDLE ULONG).insert 0x100 0
                     threadIndexToHandle := (∅ : Map ULONG HANDLE).insert 0 0x10
                     threadHandleToIndex := (∅ : Map HANDLE ULONG).insert 0x10 0 } }

def accessViolation : EXCEPTION_DEBUG_INFO := { code := EXCEPTION_ACCESS_VIOLATION, address := 0x401000 }

theorem passesOn_accessViolation (env : Env) (s : Session) : s.PassesOn env accessViolation where
  step h := absurd h (by decide)
  access _ _ _ _ h := by cases h
  system h := absurd h.1 (by decide)
  breakpoint h := absurd h (by decide)

theorem unhandled_exception_reaches_target_plain :
    (threadedSession.debugLoop idle {} [({}, .exception accessViolation)]).2 =
      .resumed .goNotHandled :=
  (unhandled_exception_reaches_target_iff (idle_follows anyRules)
    (show threadedSession.Live from rfl) ⟨.inr rfl, ⟨rfl, rfl⟩, .refl⟩ rfl
    (passesOn_accessViolation _ _) rfl).mpr ⟨.inr ⟨rfl, rfl⟩, rfl⟩

def softwareThreadedSession : Session :=
  (ApiCall.run {} (.setBPX 0x401000 0 (some 1)) threadedSession).1

/-- The thread has hit a breakpoint and is about to step over it. -/
def hitSession : Session :=
  softwareThreadedSession.afterEvent idle {}
    (.exception { code := EXCEPTION_BREAKPOINT, address := 0x401000 })

theorem run_hitSession : Run anyRules threadedSession hitSession := by
  have hset : CallStep anyRules threadedSession softwareThreadedSession :=
    show CallStep anyRules threadedSession
      (ApiCall.run {} (.setBPX 0x401000 0 (some 1)) threadedSession).1 from .call trivial
  have hhit : Run anyRules softwareThreadedSession hitSession :=
    run_afterEvent (idle_follows anyRules) (by decide) (List.isEmpty_iff.mp (by decide)) trivial
      (by decide)
  exact .head (.call hset) hhit

def StepAction.isUserStep : StepAction → Bool
  | .userStep _ => true
  | _ => false

/-- No user step is pending, whether by itself or merged into an internal step. -/
def Session.noUserStep (s : Session) : Bool :=
  s.steps.gStepCallbacks.isEmpty &&
    s.steps.gInternalStepCallbacks.toList.all fun entry => !entry.2.any StepAction.isUserStep

/-- While a thread steps over a breakpoint, its own exceptions are resumed as handled. -/
theorem unhandled_exception_not_reaching_target :
    ¬ ∀ (k : Client) (s₀ s s₁ : Session) (env env' : Env) (events rest : List (Env × Work))
      (info : EXCEPTION_DEBUG_INFO), k.Follows anyRules → s₀.Live → s₀.bps.gBreakpoints = ∅ →
      Run anyRules s₀ s → s.noUserStep = true → Round k env events s ((env', .exception info) :: rest) s₁ →
      env.hasDebuggee = true → s₁.PassesOn env' info →
      ((s₁.dequeue rest).afterHandler k env' info).gNextContinueStatus = DBG_EXCEPTION_NOT_HANDLED →
      (s.debugLoop k env events).2 = .resumed .goNotHandled := by
  intro hclaim
  have hround : Round idle {} [({}, .exception accessViolation)] hitSession
      [({}, .exception accessViolation)]
      { hitSession.awaitEvent {} [({}, .exception accessViolation)] with gPaused := true } :=
    ⟨.inr rfl, ⟨rfl, rfl⟩, .refl⟩
  have hresumed := hclaim idle threadedSession hitSession _ {} {} _ _ accessViolation
    (idle_follows anyRules) (show threadedSession.Live from rfl) rfl run_hitSession
    (by decide) hround rfl (passesOn_accessViolation _ _) rfl
  exact absurd hresumed (by decide)

end TitanEngine

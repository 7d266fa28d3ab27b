import TitanEngine.Effects.Traversal
import TitanEngine.Suspension.Counts

/-! One walk through everything a session does, for properties of its threads, its handles
and its internal steps: what holds of each elementary change holds of each run. -/
namespace TitanEngine
open Relation

namespace Session

/-- The exception is a hit of a page or of a record that it does not use up, so that the
adapter may ask for an internal step. -/
inductive Arms (info : EXCEPTION_DEBUG_INFO) (s : Session) : Prop
  | page {accessType accessAddress : ULONG_PTR} {rest : List ULONG_PTR}
      (code : info.code = STATUS_GUARD_PAGE_VIOLATION ∨ info.code = EXCEPTION_ACCESS_VIOLATION)
      (parameters : info.parameters = accessType :: accessAddress :: rest)
      (watched : s.pageAddress accessAddress ∈ s.bps.gMemoryBreakpointPages)
  | native {id : ULONG} {bpInfo : BreakpointInfo}
      (code : info.code = EXCEPTION_BREAKPOINT ∨ info.code = EXCEPTION_ILLEGAL_INSTRUCTION)
      (found : s.findNative info.address = some (id, bpInfo)) (stays : bpInfo.oneShot = false)

variable {s s' : Session}

theorem roll_finishDebugEvent (u : Bool) (s : Session) : (s.finishDebugEvent u).roll = s.roll := by
  unfold finishDebugEvent
  split <;> rfl

theorem roll_enterNativeHit (env : Env) (id : ULONG) (bpInfo : BreakpointInfo) (s : Session) :
    (s.enterNativeHit env id bpInfo).roll = s.roll := by
  have hip : (s.setCurrentInstructionPointer env bpInfo.offset).roll = s.roll := by
    unfold setCurrentInstructionPointer
    split <;> rfl
  have hdisguise := roll_of_core (core_disguiseHit bpInfo
    (s.setCurrentInstructionPointer env bpInfo.offset))
  have hconsume : ∀ s : Session, (s.consumeOneShot id bpInfo).roll = s.roll := by
    intro s
    unfold consumeOneShot
    split <;> rfl
  exact (hconsume _).trans (hdisguise.trans hip)

theorem roll_applyExecutionStatus (env : Env) (s : Session) :
    (s.applyExecutionStatus env).1.roll = s.roll := by
  unfold applyExecutionStatus
  dsimp only
  repeat' split
  all_goals rfl

theorem roll_recogniseStop (env : Env) (s : Session) : (s.recogniseStop env).roll = s.roll := by
  unfold recogniseStop
  repeat' split
  all_goals rfl

end Session

/-- A relation between sessions that holds of everything a run can do to its threads. -/
structure RollClosed (rules : Rules) (R : Session → Session → Prop) : Prop where
  trans : ∀ {a b c}, R a b → R b c → R a c
  same : ∀ {s s' : Session}, s'.roll = s.roll → R s s'
  schedule : ∀ {env : Env} {info : EXCEPTION_DEBUG_INFO} {s s' : Session} (action : StepAction),
    rules.work env (.exception info) s → s.Arms info → s'.roll = s.roll →
      R s' (s'.scheduleInternalStep env action)
  complete : ∀ {k : Client} {env : Env} {threadIndex : ULONG} {s s' : Session}, k.Follows rules →
    s.completeInternalStep k env threadIndex = some s' → R s s'
  enterThread : ∀ {env : Env} {handle : HANDLE} {s : Session},
    rules.work env (.createThread handle) s → R s (s.enterThread env handle)
  enterProcess : ∀ {env : Env} {handle initialThread : HANDLE} {s : Session},
    rules.work env (.createProcess handle initialThread) s → R s (s.enterProcess env handle initialThread)
  forgetThread : ∀ {env : Env} {code : DWORD} {s s' : Session}, rules.work env (.exitThread code) s →
    s'.roll = s.roll → R s' (s'.forgetThread (env.currentThreadId.getD (BitVec.allOnes 32))
      s.gDebugIdMap.threadIndexToHandle[env.currentThreadId.getD (BitVec.allOnes 32)]?)
  forgetProcess : ∀ {env : Env} {code : DWORD} {s s' : Session}, rules.work env (.exitProcess code) s →
    s'.roll = s.roll → R s' (s'.forgetProcess (env.currentProcessId.getD (BitVec.allOnes 32))
      s.gDebugIdMap.processIndexToHandle[env.currentProcessId.getD (BitVec.allOnes 32)]?)
  target : ∀ {s : Session} {target}, rules.target s target → R s { s with target := target }

namespace RollClosed
open Session
variable {rules : Rules} {R : Session → Session → Prop} (hR : RollClosed rules R) {s s' : Session}
include hR

theorem refl (s : Session) : R s s := hR.same rfl

variable {k : Client} (hk : k.Follows rules)
include hk

theorem effects (env : Env) (h : Effects k env s s') : R s s' :=
  hR.same (roll_of_roster (roster_effects hk env h))

theorem nativeBreakpointHit {env : Env} {info : EXCEPTION_DEBUG_INFO} {id : ULONG}
    {bpInfo : BreakpointInfo} (hallowed : rules.work env (.exception info) s)
    (hcode : info.code = EXCEPTION_BREAKPOINT ∨ info.code = EXCEPTION_ILLEGAL_INSTRUCTION)
    (hfound : s.findNative info.address = some (id, bpInfo)) (hs' : s'.roll = s.roll) :
    R s' (s'.nativeBreakpointHit k env id bpInfo).1 := by
  have hwrite := roll_of_roster (roster_of_frame
    (frame_writeNativeBreakpointBytes env bpInfo false s'))
  unfold Session.nativeBreakpointHit
  split <;> rename_i s₁ heq <;> rw [heq] at hwrite
  · exact hR.same hwrite
  · have hreport : Effects k env (s₁.enterNativeHit env id bpInfo) (s₁.reportNativeHit k env id bpInfo) :=
      (Effects.beginDebugEvent _ _).trans (Effects.callBreakpoint _ _)
    have hreported : (s₁.reportNativeHit k env id bpInfo).roll = s'.roll :=
      (roll_of_roster (roster_effects hk env hreport)).trans
        ((roll_enterNativeHit env id bpInfo s₁).trans hwrite)
    refine hR.trans (hR.same hreported) ?_
    refine hR.trans ?_ (hR.same (roll_finishDebugEvent _ _))
    unfold rearmNative
    split
    · rename_i hstays
      rw [Bool.and_eq_true, Bool.not_eq_true'] at hstays
      exact hR.schedule _ hallowed (.native hcode hfound hstays.1) (hreported.trans hs')
    · exact hR.refl _

theorem exceptionEvent {env : Env} {info : EXCEPTION_DEBUG_INFO}
    (hallowed : rules.work env (.exception info) s) : R s (s.exceptionEvent k env info).1 := by
  have hout := exceptionEvent_outcome k env info s
  have hfake := roll_of_core (core_setFakeDebugEvent env (.exception info) s)
  generalize s.exceptionEvent k env info = r at hout ⊢
  cases hout with
  | completed thread trap step => exact hR.trans (hR.same hfake) (hR.complete hk step)
  | memory page access reported watched =>
    have hreported := roll_of_roster (roster_effects hk env reported)
    refine hR.trans (hR.same hreported) (hR.trans ?_ (hR.same (roll_finishDebugEvent _ _)))
    obtain ⟨accessType, accessAddress, rest, hparameters, rfl, hmem⟩ := watched
    obtain ⟨s₁, hcore, he | he⟩ := core_rearmWatchedPage env (s.pageAddress accessAddress) _
    · rw [he]
      exact hR.same (roll_of_core hcore)
    · rw [he]
      have hs₁ := roll_of_core hcore
      exact hR.trans (hR.same hs₁)
        (hR.schedule _ hallowed (.page access hparameters hmem) (hs₁.trans hreported))
  | native code found =>
    exact hR.trans (hR.same hfake) (hR.nativeBreakpointHit hk hallowed code found hfake)
  | dispatched effects => exact hR.effects hk env effects

theorem work {env : Env} {work : Work} (hallowed : rules.work env work s) :
    R s (work.run k env s).1 := by
  cases work with
  | breakpoint id offset =>
    show R s (s.breakpointEvent k env id offset)
    obtain ⟨-, heffects⟩ | ⟨bpInfo, s', -, heffects, hevent⟩ :=
      Effects.breakpointEvent_outcome (k := k) env id offset s
    · exact hR.effects hk env heffects
    · rw [hevent]
      refine hR.trans (hR.effects hk env heffects) (hR.same ((roll_finishDebugEvent _ _).trans ?_))
      unfold expireOneShot
      repeat' split
      all_goals rfl
  | exception info => exact hR.exceptionEvent hk hallowed
  | createThread handle =>
    have henter : R s (if s.gSessionKind = .live then s.enterThread env handle else s) := by
      split
      · exact hR.enterThread hallowed
      · exact hR.refl s
    have hcore := (core_adoptThreadId handle _).trans (core_setFakeDebugEvent env
      (.createThread handle) (if s.gSessionKind = .live then s.enterThread env handle else s))
    exact hR.trans henter (hR.trans (hR.same (roll_of_core hcore))
      (hR.effects hk env (.dispatchDebugEvent ..)))
  | exitThread exitCode =>
    have hreport : Effects k env s
        ((s.setFakeDebugEvent env (.exitThread exitCode)).dispatchDebugEvent k .exitThread false) :=
      (Effects.fake ..).trans (Effects.dispatchDebugEvent ..)
    exact hR.trans (hR.effects hk env hreport)
      (hR.forgetThread (s := s) hallowed (roll_of_roster (roster_effects hk env hreport)))
  | createProcess handle initialThread =>
    have hreport : Effects k env (s.enterProcess env handle initialThread)
        (s.createProcessEvent k env handle initialThread) :=
      (Effects.fake ..).trans (Effects.dispatchDebugEvent ..)
    exact hR.trans (hR.enterProcess hallowed) (hR.effects hk env hreport)
  | exitProcess exitCode =>
    have hreport : Effects k env s
        ((s.setFakeDebugEvent env (.exitProcess exitCode)).dispatchDebugEvent k .exitProcess false) :=
      (Effects.fake ..).trans (Effects.dispatchDebugEvent ..)
    exact hR.trans (hR.effects hk env hreport)
      (hR.forgetProcess (s := s) hallowed (roll_of_roster (roster_effects hk env hreport)))
  | loadModule base => exact hR.effects hk env (.moduleEvent ..)
  | unloadModule base => exact hR.effects hk env (.moduleEvent ..)
  | outputDebugString => exact hR.effects hk env (.moduleEvent ..)
  | pause callback => exact hR.effects hk env (.pauseEvent ..)
  | internalStep threadIndex =>
    simp only [Work.run]
    split
    · rename_i s' hstep
      exact hR.complete hk hstep
    · exact hR.refl s
  | step threadIndex callback threadSystemId =>
    obtain ⟨s', hgo, heffects⟩ := Effects.stepEvent k env threadIndex callback threadSystemId s
    have hs' : s'.roll = s.roll := by
      rw [hgo]
      rfl
    exact hR.trans (hR.same hs') (hR.effects hk env heffects)

omit hk in
theorem step (hblind : rules.QueueBlind) (h : SessionStep rules s s') : R s s' := by
  cases h with
  | call step =>
    obtain ⟨allowed⟩ := step
    exact hR.same (roll_of_roster (roster_call ..))
  | target allowed => exact hR.target allowed
  | @stop env events running =>
    have hstop := roll_recogniseStop env { s with gCallbackQueue := events }
    exact hR.same hstop
  | @work k env work rest follows paused queued allowed done =>
    have hpop : R s (s.dequeue rest) := hR.same rfl
    exact hR.trans hpop (hR.work follows (hblind _ _ _ _ allowed))
  | @failed k env env' work rest follows paused queued allowed failed =>
    have hpop : R s (s.dequeue rest) := hR.same rfl
    exact hR.trans (hR.trans hpop (hR.work follows (hblind _ _ _ _ allowed)))
      (hR.same (roll_applyExecutionStatus ..))
  | resume paused drained => exact hR.same (roll_applyExecutionStatus _ s)

omit hk in
theorem run (hblind : rules.QueueBlind) (h : Run rules s s') : R s s' := by
  induction h with
  | refl => exact hR.refl s
  | tail _ hstep ih => exact hR.trans ih (hR.step hblind hstep)

end RollClosed

end TitanEngine

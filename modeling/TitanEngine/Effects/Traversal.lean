import TitanEngine.Effects.Unhit

/-! One walk through everything a session does, for properties of its breakpoint records:
what holds of each elementary change holds of each run. -/
namespace TitanEngine
open Relation

theorem Session.findNative_eq_some {address : ULONG64} {s : Session} {id : ULONG}
    {info : BreakpointInfo} (h : s.findNative address = some (id, info)) :
    s.bps.gBreakpoints[id]? = some info ∧ info.nativePatch = true := by
  have hmem := List.mem_of_find?_eq_some h
  have hmatch := List.find?_some h
  simp only [BreakpointInfo.matchesException, Bool.and_eq_true] at hmatch
  exact ⟨Std.ExtTreeMap.mem_toList_iff_getElem?_eq_some.mp hmem, hmatch.1⟩

/-- The session without the record `id`, whose patch is out of the target. -/
structure Session.Removed (id : ULONG) (info : BreakpointInfo) (s s' : Session) : Prop where
  present : s.bps.gBreakpoints[id]? = some info
  mode : s'.mode = s.mode
  breakpoints : s'.bps.gBreakpoints = s.bps.gBreakpoints.erase id
  memory : s'.target.memory =
    if info.nativePatch then s.target.memory.write info.offset info.originals else s.target.memory

/-- A relation between sessions that holds of whatever happens beside records and patches. -/
structure EffectClosed (rules : Rules) (R : Session → Session → Prop) : Prop where
  refl : ∀ s, R s s
  trans : ∀ {a b c}, R a b → R b c → R a c
  core : ∀ {s s' : Session}, s'.core = s.core → R s s'
  image : ∀ {s s' : Session}, s'.image = s.image → Unhit s s' → R s s'
  call : ∀ {env call s}, rules.call env call s → R s (call.run env s).1

/-- A relation between sessions that holds of everything but hits. A patch is put back by the work
that completes an internal step. -/
structure UnhitClosed (rules : Rules) (R : Session → Session → Prop) : Prop
    extends EffectClosed rules R where
  place : ∀ {env : Env} {work : Work} {id : ULONG} {info : BreakpointInfo} {s₀ s : Session},
    rules.work env work s₀ → work.Rearms env id s₀ → R s₀ s → s.bps.gBreakpoints[id]? = some info →
      info.nativePatch = true → R s (s.writeNativeBreakpointBytes env info true).1
  expire : ∀ {env : Env} {id : ULONG} {offset : ULONG64} {bpInfo : BreakpointInfo}
    {s s' : Session}, rules.work env (.breakpoint id offset) s →
      s.bps.gBreakpoints[id]? = some bpInfo → R s' (s'.expireOneShot id bpInfo)
  stop : ∀ (env events) (s : Session), R s (s.stop env events)
  resume : ∀ (env) (s : Session), R s (s.resume env)

/-- A relation between sessions that holds of everything a reported hit can do. -/
structure HitClosed (rules : Rules) (R : Session → Session → Prop) : Prop where
  refl : ∀ s, R s s
  trans : ∀ {a b c}, R a b → R b c → R a c
  core : ∀ {s s' : Session}, s'.core = s.core → R s s'
  image : ∀ {s s' : Session}, s'.image = s.image → R s s'
  call : ∀ {env call s}, rules.call env call s → R s (call.run env s).1
  lift : ∀ {env : Env} {id : ULONG} {info : BreakpointInfo} {s : Session},
    s.bps.gBreakpoints[id]? = some info → info.nativePatch = true →
      R s (s.writeNativeBreakpointBytes env info false).1
  consume : ∀ {id : ULONG} {info : BreakpointInfo} {s s' : Session}, Session.Removed id info s s' →
    s'.gPaused = s.gPaused → s'.bps.gHardwareBreakpointIds = s.bps.gHardwareBreakpointIds →
      s'.bps.gNextNativeBreakpointId = s.bps.gNextNativeBreakpointId → info.oneShot = true → R s s'

/-- A relation between sessions that holds of everything a run can do. -/
structure Closed (rules : Rules) (R : Session → Session → Prop) : Prop
    extends HitClosed rules R where
  place : ∀ {env : Env} {id : ULONG} {info : BreakpointInfo} {s : Session},
    s.bps.gBreakpoints[id]? = some info → info.nativePatch = true →
      R s (s.writeNativeBreakpointBytes env info true).1
  expire : ∀ {env : Env} {id : ULONG} {offset : ULONG64} {bpInfo : BreakpointInfo}
    {s s' : Session}, rules.work env (.breakpoint id offset) s →
      s.bps.gBreakpoints[id]? = some bpInfo → R s' (s'.expireOneShot id bpInfo)
  target : ∀ {s : Session} {target}, rules.target s target → R s { s with target := target }
  stop : ∀ (env events) (s : Session), R s (s.stop env events)
  resume : ∀ (env) (s : Session), R s (s.resume env)

namespace EffectClosed
open Session
variable {rules : Rules} {R : Session → Session → Prop} (hR : EffectClosed rules R) {s s' : Session}
include hR

theorem reflTransGen {r : Session → Session → Prop} (h : ∀ ⦃a b⦄, r a b → R a b)
    (hrun : ReflTransGen r s s') : R s s' := by
  induction hrun with
  | refl => exact hR.refl s
  | tail _ hstep ih => exact hR.trans ih (h hstep)

theorem callStep (h : CallStep rules s s') : R s s' := by
  obtain ⟨allowed⟩ := h
  exact hR.call allowed

theorem effects {k : Client} (hk : k.Follows rules) (env : Env) (h : Effects k env s s') : R s s' := by
  refine hR.reflTransGen ?_ h
  intro a b hstep
  cases hstep with
  | quiet same => exact hR.core same
  | lose id => exact hR.core (core_removeMemoryBreakpointById env id a)
  | call inv s =>
    have hlog : R a { a with log := .invoke inv :: a.log } :=
      hR.image rfl (.note rfl rfl fun _ _ h => nomatch h)
    exact hR.trans hlog (hR.reflTransGen (fun _ _ => hR.callStep) (hk inv _))
  | status => exact hR.image rfl (.quiet rfl rfl)
  | delivered => exact hR.image rfl (.note rfl rfl fun _ _ h => nomatch h)

end EffectClosed

namespace UnhitClosed
open Session
variable {rules : Rules} {R : Session → Session → Prop} (hR : UnhitClosed rules R) {s₀ s s' : Session}
include hR

theorem within {rules' : Rules} (h : rules'.Within rules) : UnhitClosed rules' R where
  toEffectClosed := { hR.toEffectClosed with call := fun allowed => hR.call (h.call allowed) }
  place hwork := hR.place (h.work hwork)
  expire hwork := hR.expire (h.work hwork)
  stop := hR.stop
  resume := hR.resume

variable {k : Client} (hk : k.Follows rules)
include hk

/-- The actions are those of a step that the work completes in `s₀`. -/
theorem runActions {env : Env} {work : Work} {threadIndex : ULONG} {all : List StepAction}
    (hwork : rules.work env work s₀) (hstepped : work.stepped env = some threadIndex)
    (hall : s₀.steps.gInternalStepCallbacks[threadIndex]? = some all) {actions : List StepAction}
    (hsubset : actions ⊆ all) (h : R s₀ s) : R s₀ (s.runActions k env threadIndex actions) := by
  unfold Session.runActions
  induction actions generalizing s with
  | nil => exact h
  | cons action actions ih =>
    obtain ⟨haction, hrest⟩ := List.cons_subset.mp hsubset
    refine ih hrest (hR.trans h ?_)
    cases action with
    | rearmBreakpoint id =>
      simp only [runAction]
      split
      · rename_i current hpresent
        obtain hnative | hsize := current.patched
        · exact hR.place hwork ⟨threadIndex, all, hstepped, hall, haction⟩ h hpresent hnative
        · have hnothing : (s.writeNativeBreakpointBytes env current true).1 = s := by
            unfold writeNativeBreakpointBytes
            rw [if_pos (.inr hsize)]
          rw [hnothing]
          exact hR.refl s
      · exact hR.refl s
    | rearmPage page =>
      simp only [runAction]
      split
      · exact hR.core (core_protectMemoryBreakpointPage ..)
      · exact hR.refl s
    | userStep callback => exact hR.effects hk env (.callStep ..)

theorem completeInternalStep {env : Env} {work : Work} {threadIndex : ULONG} (hwork : rules.work env work s₀)
    (hstepped : work.stepped env = some threadIndex) (hsame : s.core = s₀.core)
    (h : s.completeInternalStep k env threadIndex = some s') : R s₀ s' := by
  have hsteps : s.steps = s₀.steps := field_eq (·.steps) (fun _ => rfl) hsame
  unfold Session.completeInternalStep at h
  split at h
  · cases h
  · rename_i actions hactions
    cases h
    obtain ⟨eflags, e, hclear⟩ := clearTrapFlag_eq env threadIndex s
    have hforget : R s ((s.clearTrapFlag env threadIndex).forgetInternalStep threadIndex) := by
      refine hR.image ((image_forgetInternalStep ..).trans (image_clearTrapFlag ..)) ?_
      rw [hclear]
      exact .quiet rfl rfl
    have hran := hR.runActions hk hwork hstepped (hsteps ▸ hactions) (List.Subset.refl actions)
      (hR.trans (hR.core hsame) hforget)
    refine hR.trans hran (hR.image (image_releaseThreads ..) ?_)
    obtain ⟨resumes, e', hrelease⟩ := releaseThreads_eq threadIndex
      (((s.clearTrapFlag env threadIndex).forgetInternalStep threadIndex).runActions k env threadIndex actions)
    rw [hrelease]
    exact .quiet rfl rfl

/-- The work of an exception is one of these things, or it is a hit. -/
theorem exceptionEvent {env : Env} {info : EXCEPTION_DEBUG_INFO} (hwork : rules.work env (.exception info) s) :
    R s (s.exceptionEvent k env info).1 ∨
      (info.code = EXCEPTION_BREAKPOINT ∨ info.code = EXCEPTION_ILLEGAL_INSTRUCTION) ∧
        ∃ id bpInfo, s.findNative info.address = some (id, bpInfo) ∧ s.exceptionEvent k env info =
          (s.setFakeDebugEvent env (.exception info)).nativeBreakpointHit k env id bpInfo := by
  have hout := exceptionEvent_outcome k env info s
  generalize s.exceptionEvent k env info = r at hout ⊢
  cases hout with
  | @completed threadIndex s' thread trap step =>
    have hstepped : (Work.exception info).stepped env = some threadIndex := (if_pos trap).trans thread
    exact .inl (hR.completeInternalStep hk hwork hstepped (core_setFakeDebugEvent ..) step)
  | @memory s' page access reported =>
    refine .inl (hR.trans (hR.effects hk env reported) ?_)
    refine hR.trans ?_ (hR.image (image_finishDebugEvent _ _) (.finishDebugEvent ..))
    obtain ⟨a, hcore, heq | heq⟩ := core_rearmWatchedPage env page s'
    · rw [heq]
      exact hR.core hcore
    · rw [heq]
      exact hR.trans (hR.core hcore) (hR.image (image_scheduleInternalStep ..) (.scheduleInternalStep ..))
  | @native id bpInfo code found => exact .inr ⟨code, id, bpInfo, found, rfl⟩
  | dispatched effects => exact .inl (hR.effects hk env effects)

theorem work {env : Env} {work : Work}
    (hexception : ∀ info, work = .exception info → R s (s.exceptionEvent k env info).1)
    (h : rules.work env work s) : R s (work.run k env s).1 := by
  cases work with
  | breakpoint id offset =>
    show R s (s.breakpointEvent k env id offset)
    obtain ⟨-, heffects⟩ | ⟨bpInfo, s', hrecord, heffects, hevent⟩ :=
      Effects.breakpointEvent_outcome env id offset s
    · exact hR.effects hk env heffects
    · rw [hevent]
      exact hR.trans (hR.effects hk env heffects)
        (hR.trans (hR.expire h hrecord) (hR.image (image_finishDebugEvent ..) (.finishDebugEvent ..)))
  | exception info => exact hexception info rfl
  | createThread handle =>
    have henter : R s (if s.gSessionKind = .live then s.enterThread env handle else s) := by
      split
      · exact hR.image (image_enterThread ..) (.enterThread ..)
      · exact hR.refl s
    refine hR.trans henter (hR.trans (hR.core ?_) (hR.effects hk env (.dispatchDebugEvent ..)))
    exact (core_adoptThreadId ..).trans (core_setFakeDebugEvent ..)
  | exitThread exitCode =>
    exact hR.trans (hR.trans (hR.core (core_setFakeDebugEvent ..))
      (hR.effects hk env (.dispatchDebugEvent ..))) (hR.image (image_forgetThread ..) (.forgetThread ..))
  | createProcess handle initialThread =>
    exact hR.trans (hR.trans (hR.image (image_enterProcess ..) (.enterProcess ..))
      (hR.core (core_setFakeDebugEvent ..))) (hR.effects hk env (.dispatchDebugEvent ..))
  | exitProcess exitCode =>
    exact hR.trans (hR.trans (hR.core (core_setFakeDebugEvent ..))
      (hR.effects hk env (.dispatchDebugEvent ..))) (hR.image (image_forgetProcess ..) (.forgetProcess ..))
  | loadModule base => exact hR.effects hk env (.moduleEvent ..)
  | unloadModule base => exact hR.effects hk env (.moduleEvent ..)
  | outputDebugString => exact hR.effects hk env (.moduleEvent ..)
  | pause callback => exact hR.effects hk env (.pauseEvent ..)
  | internalStep threadIndex =>
    simp only [Work.run]
    split
    · rename_i s' hstep
      exact hR.completeInternalStep hk h rfl rfl hstep
    · exact hR.refl s
  | step threadIndex callback threadSystemId =>
    obtain ⟨s', hgo, heffects⟩ := Effects.stepEvent k env threadIndex callback threadSystemId s
    have himage : s'.image = s.image := by rw [hgo]; rfl
    have hids : Unhit s s' := by
      rw [hgo]
      exact .quiet rfl rfl
    exact hR.trans (hR.image himage hids) (hR.effects hk env heffects)

end UnhitClosed

/-- The rule for a piece of work looks at nothing that taking it off the queue changes. -/
def Rules.QueueBlind (rules : Rules) : Prop :=
  ∀ env work s rest, rules.work env work s → rules.work env work (s.dequeue rest)

/-- A step, if the relation holds of what the target and the work of exceptions do, too. -/
theorem UnhitClosed.step {rules : Rules} {R : Session → Session → Prop} (hR : UnhitClosed rules R)
    (hblind : rules.QueueBlind)
    (htarget : ∀ {s : Session} {target}, rules.target s target → R s { s with target := target })
    (hexception : ∀ {k : Client} {env : Env} {info : EXCEPTION_DEBUG_INFO} {s : Session}, k.Follows rules →
      rules.work env (.exception info) s → R s (s.exceptionEvent k env info).1)
    {s s' : Session} (h : SessionStep rules s s') : R s s' := by
  have hwork : ∀ {k : Client} {env : Env} {work : Work} {rest : List (Env × Work)} {s : Session},
      k.Follows rules → rules.work env work s → R s (work.run k env (s.dequeue rest)).1 := by
    intro k env work rest s hk hallowed
    have hpop : R s (s.dequeue rest) := hR.image rfl (.quiet rfl rfl)
    have hallowed' := hblind _ _ _ rest hallowed
    refine hR.trans hpop (hR.work hk (fun info hinfo => ?_) hallowed')
    subst hinfo
    exact hexception hk hallowed'
  cases h with
  | call step => exact hR.callStep step
  | target allowed => exact htarget allowed
  | stop running => exact hR.stop ..
  | work follows paused queued allowed done => exact hwork follows allowed
  | failed follows paused queued allowed failed =>
    exact hR.trans (hwork follows allowed)
      (hR.image (Session.image_applyExecutionStatus ..) (.applyExecutionStatus ..))
  | resume paused drained => exact hR.resume ..

namespace HitClosed
open Session
variable {rules : Rules} {R : Session → Session → Prop} (hR : HitClosed rules R) {s s' : Session}
include hR

theorem effectClosed : EffectClosed rules R := ⟨hR.refl, hR.trans, hR.core, fun h _ => hR.image h, hR.call⟩

variable {k : Client} (hk : k.Follows rules)
include hk

omit hk in
/-- The patch of a hit goes out of the target, and a one-shot record with it. -/
theorem takenOut {env : Env} {id : ULONG} {bpInfo : BreakpointInfo} {s₁ : Session}
    (hpresent : s.bps.gBreakpoints[id]? = some bpInfo) (hnative : bpInfo.nativePatch = true)
    (hwrite : s.writeNativeBreakpointBytes env bpInfo false = (s₁, true)) :
    R s (s₁.enterNativeHit env id bpInfo) := by
  have himage : (s₁.setCurrentInstructionPointer env bpInfo.offset).image = s₁.image := by
    unfold setCurrentInstructionPointer
    split <;> rfl
  have hcore := core_disguiseHit bpInfo (s₁.setCurrentInstructionPointer env bpInfo.offset)
  have hlog : R (((s₁.setCurrentInstructionPointer env bpInfo.offset).disguiseHit
      bpInfo).consumeOneShot id bpInfo) (s₁.enterNativeHit env id bpInfo) := hR.image rfl
  refine hR.trans ?_ hlog
  unfold consumeOneShot
  split
  · rename_i hshot
    have hs₁ : s₁ = s.withBytes bpInfo false := by
      obtain h | ⟨h, -⟩ := writeNativeBreakpointBytes_outcome env bpInfo false s
      · exact congrArg Prod.fst (hwrite.symm.trans h)
      · rw [hwrite] at h
        cases h
    subst hs₁
    refine hR.consume ⟨hpresent, ?_, ?_, ?_⟩ ?_ ?_ ?_ hshot
    · exact (core_mode hcore).trans (congrArg Image.mode himage)
    · exact congrArg (fun m => m.erase id)
        ((core_breakpoints hcore).trans (congrArg (fun i => i.bps.gBreakpoints) himage))
    · rw [if_pos hnative]
      exact (core_memory hcore).trans (congrArg Image.memory himage)
    · exact (core_paused hcore).trans (congrArg Image.paused himage)
    · exact (core_hardware hcore).trans (congrArg (fun i => i.bps.gHardwareBreakpointIds) himage)
    · exact (core_nextId hcore).trans (congrArg (fun i => i.bps.gNextNativeBreakpointId) himage)
  · have hwritten : R s (s.writeNativeBreakpointBytes env bpInfo false).1 :=
      hR.lift hpresent hnative
    rw [hwrite] at hwritten
    exact hR.trans hwritten (hR.trans (hR.image himage) (hR.core hcore))

theorem nativeBreakpointHit (env : Env) {id : ULONG} {bpInfo : BreakpointInfo}
    (hpresent : s.bps.gBreakpoints[id]? = some bpInfo) (hnative : bpInfo.nativePatch = true) :
    R s (s.nativeBreakpointHit k env id bpInfo).1 := by
  unfold Session.nativeBreakpointHit
  split <;> rename_i s₁ hwrite
  · have hwritten : R s (s.writeNativeBreakpointBytes env bpInfo false).1 :=
      hR.lift hpresent hnative
    rwa [hwrite] at hwritten
  · refine hR.trans (hR.takenOut hpresent hnative hwrite) ?_
    have hreport : Effects k env (s₁.enterNativeHit env id bpInfo) (s₁.reportNativeHit k env id bpInfo) :=
      (Effects.beginDebugEvent _ _).trans (Effects.callBreakpoint _ _)
    refine hR.trans (hR.effectClosed.effects hk env hreport) ?_
    refine hR.image ((image_finishDebugEvent _ _).trans ?_)
    unfold rearmNative
    split
    · exact image_scheduleInternalStep _ _ _
    · rfl

/-- A breakpoint exception is a hit, or it is dispatched without touching a record. -/
theorem breakpointException (env : Env) {info : EXCEPTION_DEBUG_INFO}
    (hcode : info.code = EXCEPTION_BREAKPOINT ∨ info.code = EXCEPTION_ILLEGAL_INSTRUCTION)
    (s : Session) : R s (s.exceptionEvent k env info).1 := by
  have hout := exceptionEvent_outcome k env info s
  generalize s.exceptionEvent k env info = r at hout ⊢
  cases hout with
  | completed thread trap step =>
    rw [trap] at hcode
    exact absurd hcode (by decide)
  | memory page access reported =>
    obtain h | h := hcode <;> rw [h] at access <;> exact absurd access (by decide)
  | native _ found =>
    obtain ⟨hpresent, hnative⟩ := findNative_eq_some found
    exact hR.trans (hR.core (core_setFakeDebugEvent ..))
      (hR.nativeBreakpointHit hk env hpresent hnative)
  | dispatched effects => exact hR.effectClosed.effects hk env effects

end HitClosed

namespace Closed
open Session
variable {rules : Rules} {R : Session → Session → Prop} (hR : Closed rules R) {s s' : Session}
include hR

theorem unhitClosed : UnhitClosed rules R where
  toEffectClosed := hR.effectClosed
  place _ _ _ hpresent hnative := hR.place hpresent hnative
  expire := hR.expire
  stop := hR.stop
  resume := hR.resume

theorem exceptionEvent {k : Client} {env : Env} {info : EXCEPTION_DEBUG_INFO} (hk : k.Follows rules)
    (hwork : rules.work env (.exception info) s) : R s (s.exceptionEvent k env info).1 := by
  obtain h | ⟨-, id, bpInfo, found, heq⟩ := hR.unhitClosed.exceptionEvent hk hwork
  · exact h
  · obtain ⟨hpresent, hnative⟩ := findNative_eq_some found
    rw [heq]
    exact hR.trans (hR.core (core_setFakeDebugEvent ..)) (hR.nativeBreakpointHit hk env hpresent hnative)

theorem work {k : Client} {env : Env} {work : Work} (hk : k.Follows rules) (h : rules.work env work s) :
    R s (work.run k env s).1 := by
  refine hR.unhitClosed.work hk (fun info hinfo => ?_) h
  subst hinfo
  exact hR.exceptionEvent hk h

theorem step (hblind : rules.QueueBlind) (h : SessionStep rules s s') : R s s' :=
  hR.unhitClosed.step hblind hR.target hR.exceptionEvent h

theorem run (hblind : rules.QueueBlind) (h : Run rules s s') : R s s' :=
  hR.effectClosed.reflTransGen (fun _ _ => hR.step hblind) h

end Closed

end TitanEngine

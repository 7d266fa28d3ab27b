import TitanEngine.Effects.Traversal
import TitanEngine.Patches.Refinement
import TitanEngine.Resume.Status

/-! Rounds of `DebugLoop`: how the queue is worked off, and which status is applied. -/
namespace TitanEngine
open Relation

/-- The status that a piece of work writes by itself, because a step ends with it. -/
def Work.settles (env : Env) (s : Session) : Work → Option ExecutionStatus
  | .internalStep threadIndex =>
    if s.steps.gInternalStepCallbacks.contains threadIndex then some .goHandled else none
  | .step .. => some .go
  | .exception info =>
    if info.code = EXCEPTION_SINGLE_STEP ∧
        env.currentThreadId.any fun threadIndex => s.steps.gInternalStepCallbacks.contains threadIndex
    then some .goHandled else none
  | _ => none

namespace Session

theorem contains_of_completeInternalStep {k : Client} {env : Env} {threadIndex : ULONG}
    {s s' : Session} (h : s.completeInternalStep k env threadIndex = some s') :
    s.steps.gInternalStepCallbacks.contains threadIndex = true := by
  unfold completeInternalStep at h
  split at h
  · cases h
  · rename_i hactions
    rw [Std.ExtTreeMap.contains_eq_isSome_getElem?, hactions]
    rfl

theorem completeInternalStep_of_contains (k : Client) (env : Env) {threadIndex : ULONG}
    {s : Session} (h : s.steps.gInternalStepCallbacks.contains threadIndex = true) :
    ∃ s', s.completeInternalStep k env threadIndex = some s' := by
  rw [Std.ExtTreeMap.contains_eq_isSome_getElem?, Option.isSome_iff_exists] at h
  obtain ⟨actions, hactions⟩ := h
  unfold completeInternalStep
  rw [hactions]
  exact ⟨_, rfl⟩

end Session

namespace Settled
variable {s s' : Session} {k : Client} {rules : Rules}

theorem exceptionEvent (hk : k.Follows rules) (env : Env) (info : EXCEPTION_DEBUG_INFO) (s : Session) :
    Settled (((Work.exception info).settles env s).getD s.gNextExecutionStatus) s
      (s.exceptionEvent k env info).1 := by
  by_cases hends : info.code = EXCEPTION_SINGLE_STEP ∧
      (env.currentThreadId.any fun t => s.steps.gInternalStepCallbacks.contains t) = true
  · rw [Work.settles, if_pos hends, Option.getD_some]
    obtain ⟨htrap, hany⟩ := hends
    cases hthread : env.currentThreadId with
    | none =>
      rw [hthread] at hany
      cases hany
    | some threadIndex =>
      rw [hthread, Option.any_some] at hany
      obtain ⟨s', hs'⟩ := Session.completeInternalStep_of_contains k env
        (s := s.setFakeDebugEvent env (.exception info)) hany
      have hconsumed : (s.setFakeDebugEvent env (.exception info)).consumeSingleStep k env info =
          some s' := by
        unfold Session.consumeSingleStep
        rw [if_pos htrap, hthread]
        exact hs'
      unfold Session.exceptionEvent
      dsimp only
      rw [hconsumed]
      have hcomplete := completeInternalStep hk hs'
      exact ⟨hcomplete.requests, hcomplete.kept, hcomplete.asked⟩
  · rw [Work.settles, if_neg hends, Option.getD_none]
    have hout := Session.exceptionEvent_outcome k env info s
    generalize s.exceptionEvent k env info = r at hout ⊢
    cases hout with
    | completed thread trap step =>
      refine absurd ⟨trap, ?_⟩ hends
      rw [thread, Option.any_some]
      have hcontains := Session.contains_of_completeInternalStep step
      exact hcontains
    | memory page access reported =>
      exact ((effects hk env reported).trans (rearmWatchedPage ..)).trans (finishDebugEvent ..)
    | native code found =>
      exact (of_core (Session.core_setFakeDebugEvent env (.exception info) s)).trans
        (nativeBreakpointHit hk env _ _ _)
    | dispatched heffects => exact effects hk env heffects

theorem enterThread (env : Env) (handle : HANDLE) (s : Session) :
    Settled s.gNextExecutionStatus s (s.enterThread env handle) := by
  unfold Session.enterThread Session.registerTitanHandle
  split <;> exact of_eq rfl rfl

theorem enterProcess (env : Env) (handle initialThread : HANDLE) (s : Session) :
    Settled s.gNextExecutionStatus s (s.enterProcess env handle initialThread) := by
  unfold Session.enterProcess
  dsimp only
  split
  · exact .refl s
  split
  · have hregister : ∀ (index id : ULONG), Settled s.gNextExecutionStatus s
        ((s.rememberProcess handle index).registerTitanHandle handle .process index id false) := by
      intro index id
      unfold Session.registerTitanHandle
      split <;> exact of_eq rfl rfl
    exact (hregister _ _).trans (enterThread ..)
  · exact of_eq rfl rfl

theorem forgetThread (threadIndex : ULONG) (handle : Option HANDLE) (s : Session) :
    Settled s.gNextExecutionStatus s (s.forgetThread threadIndex handle) := by
  unfold Session.forgetThread
  cases handle with
  | none => exact of_eq rfl (by rw [stepRequests_cons]; rfl)
  | some handle =>
    dsimp only
    split <;> exact of_eq rfl (by rw [stepRequests_cons]; rfl)

theorem forgetProcess (processIndex : ULONG) (handle : Option HANDLE) (s : Session) :
    Settled s.gNextExecutionStatus s (s.forgetProcess processIndex handle) := by
  unfold Session.forgetProcess
  split
  · split <;> exact of_eq rfl rfl
  · exact .refl s

/-- One piece of work: it writes the status it settles, else it leaves a status alone, and
a request of the client comes on top. -/
theorem work (hk : k.Follows rules) (env : Env) (work : Work) (s : Session) :
    Settled ((work.settles env s).getD s.gNextExecutionStatus) s (work.run k env s).1 := by
  cases work with
  | breakpoint id offset =>
    show Settled s.gNextExecutionStatus s (s.breakpointEvent k env id offset)
    obtain ⟨-, heffects⟩ | ⟨bpInfo, s', -, heffects, hevent⟩ :=
      Effects.breakpointEvent_outcome (k := k) env id offset s
    · exact effects hk env heffects
    · rw [hevent]
      refine (effects hk env heffects).trans ((Settled.trans ?_ (finishDebugEvent ..)))
      unfold Session.expireOneShot
      split
      · split
        · split <;> exact of_eq rfl rfl
        · exact of_eq rfl rfl
      · exact of_eq rfl rfl
  | exception info => exact exceptionEvent hk env info s
  | createThread handle =>
    have henter : Settled s.gNextExecutionStatus s
        (if s.gSessionKind = .live then s.enterThread env handle else s) := by
      split
      · exact enterThread ..
      · exact .refl s
    refine henter.trans ((of_core ?_).trans (effects hk env (.dispatchDebugEvent ..)))
    exact (Session.core_adoptThreadId ..).trans (Session.core_setFakeDebugEvent ..)
  | exitThread exitCode =>
    exact ((of_core (Session.core_setFakeDebugEvent ..)).trans
      (effects hk env (.dispatchDebugEvent ..))).trans (forgetThread ..)
  | createProcess handle initialThread =>
    exact ((enterProcess ..).trans (of_core (Session.core_setFakeDebugEvent ..))).trans
      (effects hk env (.dispatchDebugEvent ..))
  | exitProcess exitCode =>
    exact ((of_core (Session.core_setFakeDebugEvent ..)).trans
      (effects hk env (.dispatchDebugEvent ..))).trans (forgetProcess ..)
  | loadModule base => exact effects hk env (.moduleEvent ..)
  | unloadModule base => exact effects hk env (.moduleEvent ..)
  | outputDebugString => exact effects hk env (.moduleEvent ..)
  | pause callback => exact effects hk env (.pauseEvent ..)
  | internalStep threadIndex =>
    by_cases hcontains : s.steps.gInternalStepCallbacks.contains threadIndex = true
    · obtain ⟨s', hs'⟩ := Session.completeInternalStep_of_contains k env hcontains
      rw [Work.settles, if_pos hcontains, Option.getD_some]
      simp only [Work.run, hs']
      exact completeInternalStep hk hs'
    · rw [Work.settles, if_neg hcontains, Option.getD_none]
      simp only [Work.run]
      split
      · rename_i hs'
        exact absurd (Session.contains_of_completeInternalStep hs') hcontains
      · exact .refl s
  | step threadIndex callback threadSystemId =>
    obtain ⟨s', hgo, heffects⟩ := Effects.stepEvent k env threadIndex callback threadSystemId s
    have hstatus : s'.gNextExecutionStatus = .go := by rw [hgo]
    have hlog : s'.log = s.log := by rw [hgo]; rfl
    exact (of_eq hstatus (congrArg stepRequests hlog)).trans (effects hk env heffects)

end Settled

/-- The session at the head of the queue is worked on, and the rest of it is next. -/
inductive DrainStep (k : Client) : List (Env × Work) × Session → List (Env × Work) × Session → Prop
  | work {env : Env} {work : Work} {rest : List (Env × Work)} {s : Session}
      (done : (work.run k env (s.dequeue rest)).2 = true) :
      DrainStep k ((env, work) :: rest, s) (rest, (work.run k env (s.dequeue rest)).1)

/-- A round of the loop has come to the session `s₁` with `rest` left in the queue. -/
structure Round (k : Client) (env : Env) (events : List (Env × Work)) (s : Session)
    (rest : List (Env × Work)) (s₁ : Session) : Prop where
  awaited : s.gCallbackQueue ≠ [] ∨ env.waitForEvent = true
  registers : env.readRegisters = true ∧ env.flushRegisters = true
  reached : ReflTransGen (DrainStep k)
    ((s.awaitEvent env events).gCallbackQueue, { s.awaitEvent env events with gPaused := true })
    (rest, s₁)

namespace Session
variable {k : Client} {s : Session}

theorem drain_cons (k : Client) (env : Env) (work : Work) (rest : List (Env × Work)) (s : Session) :
    drain k ((env, work) :: rest) s =
      if (work.run k env (s.dequeue rest)).2 then drain k rest (work.run k env (s.dequeue rest)).1
      else (work.run k env (s.dequeue rest)).1 := by
  rw [drain]
  split <;> rename_i heq <;> change work.run k env (s.dequeue rest) = _ at heq <;> rw [heq] <;> rfl

theorem drain_of_steps {q q' : List (Env × Work)} {s' : Session}
    (h : ReflTransGen (DrainStep k) (q, s) (q', s')) : drain k q s = drain k q' s' := by
  refine Runs.run_eq (f := fun p => drain k p.1 p.2) ?_ h |>.symm
  intro a b hstep
  cases hstep with
  | @work env work rest s done =>
    show drain k rest _ = drain k ((env, work) :: rest) s
    rw [drain_cons, if_pos done]

/-- What a round does from a session on that it has come to. -/
theorem debugLoop_of_round {env : Env} {events rest : List (Env × Work)} {s₁ : Session}
    (h : Round k env events s rest s₁) :
    s.debugLoop k env events = (drain k rest s₁).applyExecutionStatus env := by
  unfold debugLoop
  rw [if_neg, if_neg, if_neg, drain_of_steps h.reached]
  · exact not_not.mpr h.registers.2
  · exact not_not.mpr h.registers.1
  · rintro ⟨hempty, hwait⟩
    rcases h.awaited with hq | hw
    · exact hq hempty
    · exact hwait hw

end Session

/-- Nothing that happens in a session changes what it is. -/
theorem closed_mode (rules : Rules) : Closed rules fun s s' => s'.mode = s.mode where
  refl _ := rfl
  trans hab hbc := hbc.trans hab
  core := Session.core_mode
  image h := congrArg Image.mode h
  call {env call s} _ := Session.roster_mode (Session.roster_call env call s)
  lift _ _ := Session.roster_mode (Session.roster_of_frame (Session.frame_writeNativeBreakpointBytes ..))
  place _ _ := Session.roster_mode (Session.roster_of_frame (Session.frame_writeNativeBreakpointBytes ..))
  consume h _ _ _ _ := h.mode
  expire _ _ := by
    unfold Session.expireOneShot
    split
    · split
      · split <;> rfl
      · rfl
    · rfl
  target _ := rfl
  stop env events s := by
    have himage := Session.image_recogniseStop env { s with gCallbackQueue := events }
    exact congrArg Image.mode himage
  resume env s := by
    have himage := Session.image_applyExecutionStatus env s
    exact congrArg Image.mode himage

theorem mode_work {k : Client} {rules : Rules} (hk : k.Follows rules) (env : Env) (work : Work)
    (s : Session) : (work.run k env s).1.mode = s.mode := by
  have hany : k.Follows anyRules := by
    intro inv s
    have hstep : ∀ a b, CallStep rules a b → CallStep anyRules a b := by
      rintro a b ⟨allowed⟩
      exact .call trivial
    exact ReflTransGen.mono hstep _ _ (hk inv s)
  exact (closed_mode anyRules).work hany trivial

theorem mode_drain {k : Client} {rules : Rules} (hk : k.Follows rules) (q : List (Env × Work))
    (s : Session) : (Session.drain k q s).mode = s.mode := by
  induction q generalizing s with
  | nil => rfl
  | cons entry rest ih =>
    obtain ⟨env, work⟩ := entry
    have hwork := mode_work hk env work (s.dequeue rest)
    rw [Session.drain_cons]
    split
    · exact (ih _).trans hwork
    · exact hwork

theorem mode_of_round {k : Client} {rules : Rules} (hk : k.Follows rules) {env : Env}
    {events rest : List (Env × Work)} {s s₁ : Session} (h : Round k env events s rest s₁) :
    s₁.mode = s.mode := by
  have hawait : (s.awaitEvent env events).mode = s.mode := by
    unfold Session.awaitEvent
    split
    · rfl
    · have himage := Session.image_recogniseStop env { s with gPaused := false, gCallbackQueue := events }
      exact congrArg Image.mode himage
  refine (Runs.run_eq (f := fun p => p.2.mode) ?_ h.reached).trans hawait
  intro a b hstep
  cases hstep with
  | work done => exact mode_work hk _ _ _

/-- What a live round applies is the status that its queue has settled on. -/
theorem applyExecutionStatus_eq {env : Env} {s : Session} (hkind : s.gSessionKind = .live)
    (hdebuggee : env.hasDebuggee = true) (hsettled : s.gNextExecutionStatus ≠ .noChange) :
    (s.applyExecutionStatus env).2 = .resumed s.gNextExecutionStatus := by
  unfold Session.applyExecutionStatus
  dsimp only
  rw [if_neg hsettled, if_neg (by simp [hkind]), if_pos hdebuggee]

/-- Some piece of work writes a status on top of the one that is there, or lets the client
do it. -/
def Overwritten (k : Client) : List (Env × Work) → Session → Bool
  | [], _ => false
  | (env, work) :: rest, s =>
    let r := work.run k env (s.dequeue rest)
    (work.settles env s).isSome || decide (stepRequests s.log < stepRequests r.1.log) ||
      (r.2 && Overwritten k rest r.1)

/-- A step that ends with some piece of work writes `status`, and nothing overwrites it. -/
def Restored (k : Client) (status : ExecutionStatus) : List (Env × Work) → Session → Bool
  | [], _ => false
  | (env, work) :: rest, s =>
    let r := work.run k env (s.dequeue rest)
    decide (work.settles env s = some status) &&
        decide (stepRequests r.1.log = stepRequests s.log) && !(r.2 && Overwritten k rest r.1) ||
      (r.2 && Restored k status rest r.1)

theorem Work.settles_ne {work : Work} {env : Env} {s : Session} {status : ExecutionStatus}
    (h : work.settles env s = some status) : status = .goHandled ∨ status = .go := by
  unfold Work.settles at h
  split at h
  · split at h <;> cases h
    exact .inl rfl
  · cases h
    exact .inr rfl
  · split at h <;> cases h
    exact .inl rfl
  · cases h

theorem Work.settles_getD_ne (work : Work) (env : Env) {s : Session}
    (hsettled : s.gNextExecutionStatus ≠ .noChange) :
    (work.settles env s).getD s.gNextExecutionStatus ≠ .noChange := by
  cases h : work.settles env s with
  | none => exact hsettled
  | some settled =>
    rcases Work.settles_ne h with rfl | rfl <;> simp

theorem restored_goNotHandled (k : Client) (q : List (Env × Work)) (s : Session) :
    Restored k .goNotHandled q s = false := by
  induction q generalizing s with
  | nil => rfl
  | cons entry rest ih =>
    obtain ⟨env, work⟩ := entry
    have hne : work.settles env s ≠ some .goNotHandled := by
      intro h
      rcases Work.settles_ne h with h | h <;> cases h
    simp only [Restored, ih, Bool.and_false, Bool.or_false, decide_eq_false hne, Bool.false_and]

/-- Where a status is settled on, the drained queue leaves `status` iff it is that one and
nothing overwrites it, or a step that ends later restores it. -/
theorem drain_status_iff {k : Client} {rules : Rules} (hk : k.Follows rules)
    (status : ExecutionStatus) (hinto : status ≠ .stepInto) (hover : status ≠ .stepOver)
    (q : List (Env × Work)) {s : Session} (hsettled : s.gNextExecutionStatus ≠ .noChange) :
    (Session.drain k q s).gNextExecutionStatus = status ↔
      s.gNextExecutionStatus = status ∧ Overwritten k q s = false ∨ Restored k status q s = true := by
  induction q generalizing s with
  | nil => simp [Session.drain, Overwritten, Restored]
  | cons entry rest ih =>
    obtain ⟨env, work⟩ := entry
    have hwork := Settled.work hk env work (s.dequeue rest)
    have hsettles : work.settles env (s.dequeue rest) = work.settles env s := rfl
    have hstart : (s.dequeue rest).gNextExecutionStatus = s.gNextExecutionStatus := rfl
    have hlog : (s.dequeue rest).log = s.log := rfl
    rw [hsettles, hstart] at hwork
    obtain ⟨hle, hkept, hasked⟩ := hwork
    rw [hlog] at hle hkept hasked
    rw [Session.drain_cons]
    simp only [Overwritten, Restored]
    generalize work.run k env (s.dequeue rest) = r at hle hkept hasked ⊢
    obtain ⟨s', done⟩ := r
    dsimp only at hle hkept hasked ⊢
    -- What the head leaves is settled again, so the rest of the queue acts on it likewise.
    have hrest : s'.gNextExecutionStatus ≠ .noChange →
        ((if done = true then Session.drain k rest s' else s').gNextExecutionStatus = status ↔
          s'.gNextExecutionStatus = status ∧ (done && Overwritten k rest s') = false ∨
            (done && Restored k status rest s') = true) := by
      intro hs'
      cases done with
      | true => simpa using ih hs'
      | false => simp
    have hbase := work.settles_getD_ne env hsettled
    rcases Nat.eq_or_lt_of_le hle with heq | hlt
    · have hstatus := hkept hbase heq.symm
      have hs' : s'.gNextExecutionStatus ≠ .noChange := by rwa [hstatus]
      rw [hrest hs', hstatus]
      cases h : work.settles env s with
      | none => simp [heq]
      | some settled => cases done <;> simp [heq]
    · have hstatus : s'.gNextExecutionStatus ≠ status := by
        rcases hasked hbase hlt with h | h <;> rw [h]
        · exact hinto.symm
        · exact hover.symm
      have hs' : s'.gNextExecutionStatus ≠ .noChange := by
        rcases hasked hbase hlt with h | h <;> rw [h] <;> decide
      rw [hrest hs']
      simp [hstatus, hlt, (Nat.ne_of_lt hlt).symm]

/-- A settled status is never given up before it is applied. -/
theorem drain_ne_noChange {k : Client} {rules : Rules} (hk : k.Follows rules)
    (q : List (Env × Work)) {s : Session} (hsettled : s.gNextExecutionStatus ≠ .noChange) :
    (Session.drain k q s).gNextExecutionStatus ≠ .noChange := by
  induction q generalizing s with
  | nil => exact hsettled
  | cons entry rest ih =>
    obtain ⟨env, work⟩ := entry
    have hbase := work.settles_getD_ne env hsettled
    have hwork : Settled ((work.settles env s).getD s.gNextExecutionStatus) (s.dequeue rest)
        (work.run k env (s.dequeue rest)).1 := Settled.work hk env work (s.dequeue rest)
    have hrun : (work.run k env (s.dequeue rest)).1.gNextExecutionStatus ≠ .noChange := by
      rcases Nat.eq_or_lt_of_le hwork.requests with heq | hlt
      · rwa [hwork.kept hbase heq.symm]
      · rcases hwork.asked hbase hlt with h | h <;> rw [h] <;> decide
    rw [Session.drain_cons]
    split
    · exact ih hrun
    · exact hrun

/-- The status that a live round applies is the one its drained queue leaves. -/
theorem resumed_iff {k : Client} {rules : Rules} (hk : k.Follows rules) {env : Env}
    {q : List (Env × Work)} {s : Session} (hlive : s.Live) (hdebuggee : env.hasDebuggee = true)
    (hsettled : s.gNextExecutionStatus ≠ .noChange) (status : ExecutionStatus) :
    ((Session.drain k q s).applyExecutionStatus env).2 = .resumed status ↔
      (Session.drain k q s).gNextExecutionStatus = status := by
  have hkind : (Session.drain k q s).gSessionKind = .live :=
    Session.Live.kind ((mode_drain hk q s).trans hlive)
  rw [applyExecutionStatus_eq hkind hdebuggee (drain_ne_noChange hk q hsettled)]
  simp

end TitanEngine

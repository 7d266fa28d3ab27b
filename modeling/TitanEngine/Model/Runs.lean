import TitanEngine.Lib.Runs
import TitanEngine.Model.Api
import TitanEngine.Model.DebugLoop

/-! Runs of a session: calls of the client on any thread, the rounds of `DebugLoop` cut
into their steps, and what the target does while it runs. -/
namespace TitanEngine
open Relation

/-- Which calls, which queued work and which doings of the target a run may take. -/
structure Rules where
  call : Env → ApiCall → Session → Prop
  work : Env → Work → Session → Prop
  target : Session → Target → Prop

/-- Anything that the exports, the engine and the target can do. -/
def anyRules : Rules := ⟨fun _ _ _ => True, fun _ _ _ => True, fun _ _ => True⟩

/-- The thread whose internal step a piece of work completes, if it has one. -/
def Work.stepped (env : Env) : Work → Option ULONG
  | .exception info => if info.code = EXCEPTION_SINGLE_STEP then env.currentThreadId else none
  | .internalStep threadIndex => some threadIndex
  | _ => none

/-- The work completes an internal step that re-arms the record `id`. -/
def Work.Rearms (env : Env) (work : Work) (id : ULONG) (s : Session) : Prop :=
  ∃ threadIndex actions, work.stepped env = some threadIndex ∧
    s.steps.gInternalStepCallbacks[threadIndex]? = some actions ∧ .rearmBreakpoint id ∈ actions

inductive CallStep (rules : Rules) : Session → Session → Prop
  | call {env call s} (allowed : rules.call env call s) : CallStep rules s (call.run env s).1

/-- Whatever the client does when it is called, it does by calls that the rules allow. -/
def Client.Follows (k : Client) (rules : Rules) : Prop :=
  ∀ inv s, ReflTransGen (CallStep rules) s (k inv s)

/-- The stop that `events` report, up to the point where queued work is run. -/
def Session.stop (env : Env) (events : List (Env × Work)) (s : Session) : Session :=
  { { s with gCallbackQueue := events }.recogniseStop env with gPaused := true }

/-- The end of a round: the status is applied and the target runs. -/
def Session.resume (env : Env) (s : Session) : Session :=
  { (s.applyExecutionStatus env).1 with gPaused := false }

/-- The session with the head of its queue taken off. -/
def Session.dequeue (rest : List (Env × Work)) (s : Session) : Session :=
  { s with gCallbackQueue := rest }

inductive SessionStep (rules : Rules) : Session → Session → Prop
  | call {s s'} (step : CallStep rules s s') : SessionStep rules s s'
  | target {s : Session} {target} (allowed : rules.target s target) :
      SessionStep rules s { s with target := target }
  | stop {s : Session} {env events} (running : s.gPaused = false) :
      SessionStep rules s (s.stop env events)
  | work {s : Session} {k env work rest} (follows : k.Follows rules) (paused : s.gPaused = true)
      (queued : s.gCallbackQueue = (env, work) :: rest) (allowed : rules.work env work s)
      (done : (work.run k env (s.dequeue rest)).2 = true) :
      SessionStep rules s (work.run k env (s.dequeue rest)).1
  -- The status is applied after a piece of work that fails, and the rest of the queue is next.
  | failed {s : Session} {k env env' work rest} (follows : k.Follows rules)
      (paused : s.gPaused = true) (queued : s.gCallbackQueue = (env, work) :: rest)
      (allowed : rules.work env work s)
      (failed : (work.run k env (s.dequeue rest)).2 = false) :
      SessionStep rules s
        ((work.run k env (s.dequeue rest)).1.applyExecutionStatus env').1
  | resume {s : Session} {env} (paused : s.gPaused = true) (drained : s.gCallbackQueue = []) :
      SessionStep rules s (s.resume env)

abbrev Run (rules : Rules) : Session → Session → Prop := ReflTransGen (SessionStep rules)

/-- Whatever `rules` allows, `rules'` allows. -/
structure Rules.Within (rules rules' : Rules) : Prop where
  call : ∀ {env call s}, rules.call env call s → rules'.call env call s
  work : ∀ {env work s}, rules.work env work s → rules'.work env work s
  target : ∀ {s target}, rules.target s target → rules'.target s target

namespace Rules.Within
variable {rules rules' : Rules} (h : rules.Within rules')
include h

theorem callStep {s s' : Session} (hstep : CallStep rules s s') : CallStep rules' s s' := by
  obtain ⟨allowed⟩ := hstep
  exact .call (h.call allowed)

theorem follows {k : Client} (hk : k.Follows rules) : k.Follows rules' :=
  fun inv s => ReflTransGen.mono (fun _ _ hstep => h.callStep hstep) _ _ (hk inv s)

theorem step {s s' : Session} (hstep : SessionStep rules s s') : SessionStep rules' s s' := by
  cases hstep with
  | call step => exact .call (h.callStep step)
  | target allowed => exact .target (h.target allowed)
  | stop running => exact .stop running
  | work follows paused queued allowed done =>
    exact .work (h.follows follows) paused queued (h.work allowed) done
  | failed follows paused queued allowed failed =>
    exact .failed (h.follows follows) paused queued (h.work allowed) failed
  | resume paused drained => exact .resume paused drained

end Rules.Within

theorem Client.Follows.keeps {k : Client} {rules : Rules} {p : Session → Prop} (hk : k.Follows rules)
    (hp : Runs.Preserves (CallStep rules) p) (inv : Invocation) (s : Session) (hs : p s) :
    p (k inv s) := hp.run (hk inv s) hs

/-- A client that does nothing follows every rule. -/
theorem Client.follows_id (rules : Rules) : Client.Follows (fun _ s => s) rules :=
  fun _ _ => .refl

/-- A client whose callbacks do nothing. -/
def idle : Client := fun _ s => s

theorem idle_follows (rules : Rules) : idle.Follows rules := Client.follows_id rules

def breakpointHit : EXCEPTION_DEBUG_INFO := { code := EXCEPTION_BREAKPOINT, address := 0x401000 }

/-- A stop that comes with events queues just them. -/
theorem Session.queue_stop {env : Env} {events : List (Env × Work)} (s : Session)
    (hevents : events ≠ []) : (s.stop env events).gCallbackQueue = events := by
  unfold Session.stop Session.recogniseStop
  rw [if_pos hevents]

/-- A paused session after the next stop, which reports just one event. -/
def Session.afterEvent (k : Client) (env : Env) (work : Work) (s : Session) : Session :=
  (work.run k env (((s.resume env).stop env [(env, work)]).dequeue [])).1

theorem run_afterEvent {k : Client} {rules : Rules} (hk : k.Follows rules) {env : Env} {work : Work}
    {s : Session} (hpaused : s.gPaused = true) (hdrained : s.gCallbackQueue = [])
    (hallowed : rules.work env work ((s.resume env).stop env [(env, work)]))
    (hdone : (work.run k env (((s.resume env).stop env [(env, work)]).dequeue [])).2 = true) :
    Run rules s (s.afterEvent k env work) := by
  have hstop : SessionStep rules (s.resume env) ((s.resume env).stop env [(env, work)]) :=
    .stop rfl
  have hqueue : ((s.resume env).stop env [(env, work)]).gCallbackQueue = [(env, work)] :=
    Session.queue_stop _ (List.cons_ne_nil _ _)
  exact .tail (.tail (.single (.resume hpaused hdrained)) hstop)
    (.work hk rfl hqueue hallowed hdone)

end TitanEngine

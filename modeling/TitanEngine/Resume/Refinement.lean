import TitanEngine.Guards.Watching
import TitanEngine.Resume.Rounds

/-! The rounds of `DebugLoop` as the code runs them, and the steps that runs of a session are
made of: whatever the loop does is such a run. -/
namespace TitanEngine
open Relation

/-- A session between two rounds. The target runs, unless there is work left over. -/
def Session.between (s : Session) : Session := { s with gPaused := decide (s.gCallbackQueue ≠ []) }

/-- A round of the loop that does not leave it, in which the client follows the rules, and what
the client and the target do between two rounds. -/
inductive LoopStep (rules : Rules) : Session → Session → Prop
  | round {k : Client} {env : Env} {events : List (Env × Work)} {s : Session}
      (follows : k.Follows rules)
      (allowed : ∀ entry ∈ (s.awaitEvent env events).gCallbackQueue, ∀ t,
        rules.work entry.1 entry.2 t)
      (goesOn : (s.debugLoop k env events).2 ≠ .ended) :
      LoopStep rules s (s.debugLoop k env events).1
  -- Another thread of the client calls while the target runs.
  | call {s : Session} {env : Env} {call : ApiCall} (allowed : rules.call env call s.between) :
      LoopStep rules s (call.run env s.between).1
  | target {s : Session} {target : Target} (allowed : rules.target s.between target) :
      LoopStep rules s { s with target := target }

namespace Session

theorem between_of_turn {s s' : Session} (h : s'.turn = s.between.turn) : s'.between = s' := by
  have hqueue : s'.gCallbackQueue = s.gCallbackQueue := congrArg (fun x => x.2.1) h
  have hpaused : s'.gPaused = decide (s'.gCallbackQueue ≠ []) := by
    rw [hqueue]
    exact congrArg Prod.fst h
  rw [between, ← hpaused]

theorem applyExecutionStatus_idle {s : Session} (h : s.gNextExecutionStatus = .noChange) (env : Env) :
    (s.applyExecutionStatus env).1 = s := by
  unfold applyExecutionStatus
  rw [h, if_pos rfl, ← h]

theorem status_applyExecutionStatus (env : Env) (s : Session) :
    (s.applyExecutionStatus env).1.gNextExecutionStatus = .noChange := by
  unfold applyExecutionStatus
  dsimp only
  repeat' split
  all_goals rfl

section Drain
variable {k : Client} {rules : Rules} (hk : k.Follows rules)
include hk

theorem turn_work {env : Env} {work : Work} (rest : List (Env × Work)) {s : Session}
    (hallowed : rules.work env work (s.dequeue rest)) (hpaused : s.gPaused = true) :
    (work.run k env (s.dequeue rest)).1.gPaused = true ∧
      (work.run k env (s.dequeue rest)).1.gCallbackQueue = rest := by
  have hturn : (work.run k env (s.dequeue rest)).1.turn = (s.dequeue rest).turn :=
    (closed_turn rules).work hk hallowed
  exact ⟨(congrArg Prod.fst hturn).trans hpaused, congrArg (fun x => x.2.1) hturn⟩

/-- Working off the queue and applying the status is a run: it ends with the target running
when every piece is done, and with the rest of the queue when one fails. -/
theorem run_drain (env : Env) {q : List (Env × Work)} {s : Session} (hpaused : s.gPaused = true)
    (hqueue : s.gCallbackQueue = q) (hallowed : ∀ entry ∈ q, ∀ t, rules.work entry.1 entry.2 t) :
    Run rules s ((drain k q s).applyExecutionStatus env).1.between := by
  induction q generalizing s with
  | nil =>
    have hdrain : drain k [] s = s := by rw [drain, ← hqueue]
    have hturn := turn_applyExecutionStatus env s
    have hrest : (s.applyExecutionStatus env).1.gCallbackQueue = [] :=
      (congrArg (fun x => x.2.1) hturn).trans hqueue
    have hbetween : (s.applyExecutionStatus env).1.between = s.resume env := by
      simp only [between, resume, hrest, ne_eq, not_true_eq_false, decide_false]
    rw [hdrain, hbetween]
    exact .single (.resume hpaused hqueue)
  | cons entry rest ih =>
    obtain ⟨workEnv, work⟩ := entry
    have hwork := hallowed _ List.mem_cons_self
    obtain ⟨hpaused', hqueue'⟩ := turn_work hk rest (hwork (s.dequeue rest)) hpaused
    rw [drain_cons]
    cases hdone : (work.run k workEnv (s.dequeue rest)).2 with
    | true =>
      rw [if_pos rfl]
      have hstep : SessionStep rules s (work.run k workEnv (s.dequeue rest)).1 :=
        .work hk hpaused hqueue (hwork s) hdone
      exact .head hstep (ih hpaused' hqueue' fun e he => hallowed e (List.mem_cons_of_mem _ he))
    | false =>
      rw [if_neg Bool.false_ne_true]
      have hstep : SessionStep rules s ((work.run k workEnv (s.dequeue rest)).1.applyExecutionStatus env).1 :=
        .failed hk hpaused hqueue (hwork s) hdone
      generalize (work.run k workEnv (s.dequeue rest)).1 = failed at hpaused' hqueue' hstep ⊢
      have hturn := turn_applyExecutionStatus env failed
      have hstatus := status_applyExecutionStatus env failed
      generalize (failed.applyExecutionStatus env).1 = left at hstep hturn hstatus ⊢
      have hpaused'' : left.gPaused = true := (congrArg Prod.fst hturn).trans hpaused'
      have hqueue'' : left.gCallbackQueue = rest := (congrArg (fun x => x.2.1) hturn).trans hqueue'
      cases rest with
      | nil =>
        -- The failing piece was the last one, so nothing is left to hold the target.
        have hbetween : left.between = left.resume env := by
          simp only [between, resume, hqueue'', ne_eq, not_true_eq_false, decide_false,
            applyExecutionStatus_idle hstatus]
        rw [hbetween]
        exact .tail (.single hstep) (.resume hpaused'' hqueue'')
      | cons next rest =>
        have hholds : decide (left.gCallbackQueue ≠ []) = left.gPaused := by
          rw [hqueue'', hpaused'']
          rfl
        have hbetween : left.between = left := by rw [between, hholds]
        rw [hbetween]
        exact .single hstep

end Drain

end Session

theorem run_round {k : Client} {rules : Rules} (hk : k.Follows rules) {env : Env}
    {events : List (Env × Work)} {s : Session}
    (hallowed : ∀ entry ∈ (s.awaitEvent env events).gCallbackQueue, ∀ t, rules.work entry.1 entry.2 t)
    (hgoesOn : (s.debugLoop k env events).2 ≠ .ended) :
    Run rules s.between (s.debugLoop k env events).1.between := by
  have hstarts : Run rules s.between { s.awaitEvent env events with gPaused := true } := by
    by_cases hqueue : s.gCallbackQueue = []
    · have hawait : s.awaitEvent env events =
          { s with gPaused := false, gCallbackQueue := events }.recogniseStop env := by
        rw [Session.awaitEvent, if_neg (not_not.mpr hqueue)]
      have hruns : s.between = { s with gPaused := false } := by simp [Session.between, hqueue]
      rw [hawait, hruns]
      exact .single (.stop rfl)
    · have hawait : s.awaitEvent env events = s := by rw [Session.awaitEvent, if_pos hqueue]
      have hholds : s.between = { s with gPaused := true } := by simp [Session.between, hqueue]
      rw [hawait, hholds]
  unfold Session.debugLoop at hgoesOn ⊢
  split
  · rename_i hends
    simp [hends] at hgoesOn
  · rename_i hends
    rw [if_neg hends] at hgoesOn
    dsimp only at hgoesOn ⊢
    split
    · rename_i hfails
      simp [hfails] at hgoesOn
    · rename_i hreads
      rw [if_neg hreads] at hgoesOn
      split
      · rename_i hfails
        simp [hfails] at hgoesOn
      · exact hstarts.trans (Session.run_drain hk env rfl rfl hallowed)

/-- Every run of rounds of `DebugLoop` is a run of the steps of a session. -/
theorem loop_runs {rules : Rules} {s s' : Session} (run : ReflTransGen (LoopStep rules) s s') :
    Run rules s.between s'.between := by
  induction run with
  | refl => exact .refl
  | @tail before after _ hstep ih =>
    cases hstep with
    | round follows allowed goesOn => exact ih.trans (run_round follows allowed goesOn)
    | @call _ env call allowed =>
      have hturn : (call.run env before.between).1.turn = before.between.turn :=
        Session.turn_of_roster (Session.roster_call ..)
      rw [Session.between_of_turn hturn]
      exact ih.tail (.call (.call allowed))
    | target allowed => exact ih.tail (.target allowed)

theorem loop_runs_breakpoint :
    Run anyRules threadedSession.between
      ((ApiCall.run {} (.setBPX 0x401000 0 (some 1)) threadedSession.between).1.debugLoop idle {}
        [({}, .exception breakpointHit)]).1.between := by
  have hset : LoopStep anyRules threadedSession
      (ApiCall.run {} (.setBPX 0x401000 0 (some 1)) threadedSession.between).1 := .call trivial
  exact loop_runs (.tail (.single hset)
    (.round (idle_follows anyRules) (fun _ _ _ => trivial) (by decide)))

end TitanEngine

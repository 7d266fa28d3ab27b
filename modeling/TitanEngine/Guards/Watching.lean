import TitanEngine.Guards.Rearm

/-! Over whole runs in which accesses hit the guards: whether the target is ever resumed with a
watched page that has no guard and is not to get one. -/
namespace TitanEngine
open MapSums Relation

/-- A session that runs, or an access that hits the guard of a page in `hits`: the guard goes
off, and the target stops with the exception. -/
inductive WatchStep (rules : Rules) (hits : Session → Set ULONG_PTR) : Session → Session → Prop
  | session {s s'} (step : SessionStep rules s s') : WatchStep rules hits s s'
  | hit {s : Session} {env info page} (running : s.gPaused = false)
      (code : info.code = STATUS_GUARD_PAGE_VIOLATION) (access : s.Accesses info page)
      (guarded : s.target.protection page &&& PAGE_GUARD ≠ 0) (allowed : page ∈ hits s) :
      WatchStep rules hits s ((s.delivered page).stop env [(env, .exception info)])

abbrev WatchRun (rules : Rules) (hits : Session → Set ULONG_PTR) : Session → Session → Prop :=
  ReflTransGen (WatchStep rules hits)

/-- The target may reach any page that has a guard. -/
def anyPage : Session → Set ULONG_PTR := fun _ => Set.univ

namespace Session

/-- The pages of the exceptions that are queued. -/
def due (s : Session) : Set ULONG_PTR :=
  {page | ∃ env info, (env, Work.exception info) ∈ s.gCallbackQueue ∧ s.Accesses info page}

/-- Every watched page that no queued exception is about is kept, and the target runs only
with an empty queue. -/
structure Watching (s : Session) : Prop where
  guarded : s.Guarded s.due
  running : s.gPaused = false → s.gCallbackQueue = []

variable {s s' : Session} {k : Client} {env : Env} {work : Work} {rest : List (Env × Work)}

theorem accesses_of_size (h : s'.targetPageSize = s.targetPageSize) (info : EXCEPTION_DEBUG_INFO)
    (page : ULONG_PTR) : s'.Accesses info page ↔ s.Accesses info page := by
  unfold Accesses pageAddress
  rw [h]

theorem due_of_turn (h : s'.turn = s.turn) : s'.due = s.due := by
  have hqueue : s'.gCallbackQueue = s.gCallbackQueue := congrArg (fun t => t.2.1) h
  have hsize : s'.targetPageSize = s.targetPageSize := congrArg (fun t => t.2.2) h
  unfold due
  simp only [hqueue, accesses_of_size hsize]

theorem due_of_empty (h : s.gCallbackQueue = []) : s.due = ∅ := by
  rw [Set.eq_empty_iff_forall_notMem]
  rintro page ⟨env, info, hmem, -⟩
  rw [h] at hmem
  cases hmem

/-- An exception is about one page. -/
theorem Accesses.eq {info : EXCEPTION_DEBUG_INFO} {page page' : ULONG_PTR} (h : s.Accesses info page)
    (h' : s.Accesses info page') : page' = page := by
  obtain ⟨-, accessType, accessAddress, rest, hparameters, rfl⟩ := h
  obtain ⟨-, accessType', accessAddress', rest', hparameters', rfl⟩ := h'
  rw [hparameters] at hparameters'
  cases hparameters'
  rfl

theorem Guarded.exception (hk : k.Follows guardRules) {due : Set ULONG_PTR} {info : EXCEPTION_DEBUG_INFO}
    (hallowed : guardRules.work env (.exception info) s)
    (h : s.Guarded (due ∪ {page | s.Accesses info page})) :
    (s.exceptionEvent k env info).1.Guarded due := by
  by_cases hwatched : ∃ page, s.Accesses info page ∧ page ∈ s.bps.gMemoryBreakpointPages
  · obtain ⟨page, haccess, hmem⟩ := hwatched
    obtain ⟨reported, heffects, heq⟩ := exceptionEvent_of_access k env haccess hmem
    have hdue : due ∪ {page | s.Accesses info page} ⊆ due ∪ {page} := by
      rintro page' (hdue | haccess')
      · exact .inl hdue
      · exact .inr (haccess.eq haccess')
    have hreported := closed_guarded.effects hk hallowed rfl rfl heffects _ (h.mono hdue)
    have hsetting := setting_of_roster (roster_effects hk env heffects)
    have hstep := canStep_of_setting hsetting (hallowed.2.2 page haccess hmem)
    rw [heq]
    exact (hreported.rearm hstep).of_guards (guards_finishDebugEvent _ _)
  · refine closed_guarded.exceptionEvent hk hallowed due (h.drop fun page haccess hmem => ?_)
    exact absurd ⟨page, haccess, hmem⟩ hwatched

/-- The head of the queue settles the page that it is about. -/
theorem Guarded.head (hk : k.Follows guardRules) (hqueue : s.gCallbackQueue = (env, work) :: rest)
    (hallowed : guardRules.work env work (s.dequeue rest)) (h : s.Guarded s.due) :
    (work.run k env (s.dequeue rest)).1.Guarded (s.dequeue rest).due := by
  have hpop : (s.dequeue rest).Guarded s.due := h.of_roll rfl (.refl s) rfl
  cases work with
  | exception info =>
    refine Guarded.exception hk hallowed (hpop.mono ?_)
    rintro page ⟨env', info', hmem, haccess⟩
    rw [hqueue] at hmem
    obtain heq | hmem := List.mem_cons.mp hmem
    · cases heq
      exact .inr haccess
    · exact .inl ⟨env', info', hmem, haccess⟩
  | _ =>
    refine closed_guarded.work hk hallowed _ (hpop.mono ?_)
    rintro page ⟨env', info', hmem, haccess⟩
    rw [hqueue] at hmem
    obtain heq | hmem := List.mem_cons.mp hmem
    · cases heq
    · exact ⟨env', info', hmem, haccess⟩

/-- Stopping touches no page and no internal step. -/
theorem Guarded.stop {due : Set ULONG_PTR} (h : s.Guarded due) (env : Env)
    (events : List (Env × Work)) : (s.stop env events).Guarded due := by
  have hroll : (s.stop env events).roll = s.roll := by
    have hstop := roll_recogniseStop env { s with gCallbackQueue := events }
    exact hstop
  exact h.of_tables (tables_stop env events s) fun threadIndex page hrearm =>
    (rearms_of_roll hroll threadIndex page).mpr hrearm

theorem Guarded.settled {due : Set ULONG_PTR} (h : s.Guarded due) (env : Env) :
    (s.applyExecutionStatus env).1.Guarded due :=
  h.of_tables (tables_applyExecutionStatus env s) fun threadIndex page hrearm =>
    (rearms_of_roll (roll_applyExecutionStatus env s) threadIndex page).mpr hrearm

theorem turn_applyExecutionStatus (env : Env) (s : Session) :
    (s.applyExecutionStatus env).1.turn = s.turn := by
  unfold applyExecutionStatus
  dsimp only
  repeat' split
  all_goals rfl

namespace Watching

theorem of_turn (h : s.Watching) (hturn : s'.turn = s.turn) (hguarded : s'.Guarded s.due) :
    s'.Watching := by
  refine ⟨?_, fun hrunning => ?_⟩
  · rw [due_of_turn hturn]
    exact hguarded
  · have hpaused : s'.gPaused = s.gPaused := congrArg Prod.fst hturn
    have hqueue : s'.gCallbackQueue = s.gCallbackQueue := congrArg (fun t => t.2.1) hturn
    rw [hqueue]
    exact h.running (hpaused ▸ hrunning)

/-- A paused session has nothing to keep but its pages. -/
theorem of_paused (hpaused : s.gPaused = true) (hguarded : s.Guarded s.due) : s.Watching := by
  refine ⟨hguarded, fun hrunning => ?_⟩
  rw [hpaused] at hrunning
  cases hrunning

theorem session (h : s.Watching) (hstep : SessionStep guardRules s s') : s'.Watching := by
  cases hstep with
  | call step =>
    obtain @⟨env, call, _, allowed⟩ := step
    exact h.of_turn (turn_of_roster (roster_call env call s)) (h.guarded.callStep (.call allowed))
  | @target target allowed =>
    obtain ⟨hprotection, hrearms⟩ := allowed
    have hsame : target.protection = s.target.protection := hprotection
    refine h.of_turn rfl (h.guarded.of_leaves rfl (fun page hmem => ⟨hmem, ?_⟩) hrearms)
    exact congrFun hsame page
  | @stop env events running =>
    refine of_paused rfl ?_
    have hnone := due_of_empty (h.running running)
    have hguarded := h.guarded
    rw [hnone] at hguarded
    exact (hguarded.stop env events).mono (Set.empty_subset _)
  | @work k env work rest follows paused queued allowed done =>
    have hallowed := guardRules_queueBlind env work s rest allowed
    have hturn := (closed_turn guardRules).work follows hallowed
    refine of_paused ((congrArg Prod.fst hturn).trans paused) ?_
    rw [due_of_turn hturn]
    exact h.guarded.head follows queued hallowed
  | @failed k env env' work rest follows paused queued allowed failed =>
    have hallowed := guardRules_queueBlind env work s rest allowed
    have hturn := (turn_applyExecutionStatus env' _).trans
      ((closed_turn guardRules).work follows hallowed)
    refine of_paused ((congrArg Prod.fst hturn).trans paused) ?_
    rw [due_of_turn hturn]
    exact (h.guarded.head follows queued hallowed).settled env'
  | @resume env paused drained =>
    have hqueue : (s.resume env).gCallbackQueue = [] :=
      (congrArg (fun t => t.2.1) (turn_applyExecutionStatus env s)).trans drained
    refine ⟨?_, fun _ => hqueue⟩
    rw [due_of_empty hqueue]
    have hguarded := h.guarded
    rw [due_of_empty drained] at hguarded
    exact (hguarded.settled env).of_roll rfl (.refl _) rfl

theorem step (h : s.Watching) (hstep : WatchStep guardRules anyPage s s') : s'.Watching := by
  cases hstep with
  | session step => exact h.session step
  | @hit env info page running code access guarded allowed =>
    refine of_paused rfl ?_
    have hguarded := h.guarded
    rw [due_of_empty (h.running running)] at hguarded
    have hdelivered : (s.delivered page).Guarded {page} := by
      refine ⟨hguarded.live, fun p hmem hnot => ?_⟩
      have hp : p ≠ page := hnot
      obtain hguard | hrearm := hguarded.kept p hmem (Set.notMem_empty p)
      · left
        show Function.update s.target.protection page _ p &&& PAGE_GUARD ≠ 0
        rw [Function.update_of_ne hp]
        exact hguard
      · exact .inr hrearm
    refine (hdelivered.stop env _).mono fun p hp => ?_
    obtain rfl := Set.mem_singleton_iff.mp hp
    refine ⟨env, info, ?_, ?_⟩
    · rw [queue_stop _ (List.cons_ne_nil _ _)]
      exact List.mem_singleton_self _
    · have hsize := congrArg (fun t => t.2.1) (tables_stop env [(env, .exception info)] (s.delivered p))
      exact (accesses_of_size hsize info p).mpr access

end Watching

end Session

/-- Whenever the target is resumed, each watched page has its guard or is to get it back after
the internal step of a thread that is alive, in every run in which the client takes the guard off
no watched page, the thread of each hit can be stepped, and no thread that a page waits for
goes away. -/
theorem watched_pages_kept {s s' : Session} (hlive : s.gSessionKind = .live)
    (hpages : s.bps.gMemoryBreakpointPages = ∅) (hqueue : s.gCallbackQueue = [])
    (hrun : WatchRun guardRules anyPage s s') (hdrained : s'.gCallbackQueue = []) (env : Env) :
    ∀ page ∈ (s'.resume env).bps.gMemoryBreakpointPages, (s'.resume env).Kept page := by
  have hs : s.Watching := by
    refine ⟨⟨hlive, fun page hmem => ?_⟩, fun _ => hqueue⟩
    rw [hpages] at hmem
    exact absurd hmem Std.ExtTreeMap.not_mem_empty
  have hkeeps : Runs.Preserves (WatchStep guardRules anyPage) Session.Watching :=
    fun _ _ hstep h => h.step hstep
  have hs' : s'.Watching := hkeeps.run hrun hs
  have hguarded := hs'.guarded
  rw [Session.due_of_empty hdrained] at hguarded
  have hresumed : (s'.resume env).Guarded ∅ := (hguarded.settled env).of_roll rfl (.refl _) rfl
  exact fun page hmem => hresumed.kept page hmem (Set.notMem_empty page)

def guardHit : EXCEPTION_DEBUG_INFO :=
  { code := STATUS_GUARD_PAGE_VIOLATION, address := 0x401000, parameters := [0, 0x10000] }

/-- The target has stopped at a hit of the watched page. -/
def struckSession (env : Env) : Session :=
  ((firstIdSession.resume env).delivered 0x10000).stop env [(env, .exception guardHit)]

/-- The hit has been worked off. -/
def servedSession (env : Env) : Session :=
  ((Work.exception guardHit).run idle env ((struckSession env).dequeue [])).1

theorem run_servedSession {rules : Rules} {hits : Session → Set ULONG_PTR} {env : Env}
    (hcall : rules.call {} (.setMemoryBPXEx 0x10000 1 3 true (some 1)) twoThreadSession)
    (hwork : rules.work env (.exception guardHit) (struckSession env))
    (hguarded : (firstIdSession.resume env).target.protection 0x10000 &&& PAGE_GUARD ≠ 0)
    (hhits : 0x10000 ∈ hits (firstIdSession.resume env))
    (hdone : ((Work.exception guardHit).run idle env ((struckSession env).dequeue [])).2 = true) :
    WatchRun rules hits twoThreadSession (servedSession env) := by
  have hset : WatchStep rules hits twoThreadSession firstIdSession := by
    refine .session (.call ?_)
    exact .call hcall
  have hresume : WatchStep rules hits firstIdSession (firstIdSession.resume env) := by
    refine .session (.resume ?_ ?_)
    · decide
    · exact List.isEmpty_iff.mp (by decide)
  have haccess : (firstIdSession.resume env).Accesses guardHit 0x10000 := by
    have hsize := congrArg (fun t => t.2.1) (Session.tables_applyExecutionStatus env firstIdSession)
    have hfirst : firstIdSession.Accesses guardHit 0x10000 :=
      ⟨.inl rfl, 0, 0x10000, [], rfl, by decide⟩
    exact (Session.accesses_of_size hsize guardHit 0x10000).mpr hfirst
  have hhit : WatchStep rules hits (firstIdSession.resume env) (struckSession env) :=
    .hit rfl rfl haccess hguarded hhits
  have hserve : WatchStep rules hits (struckSession env) (servedSession env) := by
    refine .session (.work (idle_follows rules) rfl ?_ hwork hdone)
    exact Session.queue_stop _ (List.cons_ne_nil _ _)
  exact .tail (.tail (.tail (.single hset) hresume) hhit) hserve

theorem watched_pages_kept_served : ((servedSession {}).resume {}).Kept 0x10000 := by
  have hrun : WatchRun guardRules anyPage twoThreadSession (servedSession {}) := by
    refine run_servedSession ⟨fun _ _ => rfl, fun _ _ _ h => by cases h⟩
      ⟨fun _ _ => rfl, fun _ _ => by decide, fun _ _ _ => ?_⟩ (by decide) trivial (by decide)
    exact ⟨0, 0x10, 0, rfl, by decide, by decide, .inr (by decide)⟩
  exact watched_pages_kept rfl rfl rfl hrun (List.isEmpty_iff.mp (by decide)) {} 0x10000 (by decide)

/-- The thread of the hit cannot be reached, and the page is left without its guard. -/
theorem watched_pages_not_kept :
    ¬ ∀ s s' : Session, s.gSessionKind = .live → s.bps.gMemoryBreakpointPages = ∅ →
      s.gCallbackQueue = [] → WatchRun protectedRules anyPage s s' → s'.gCallbackQueue = [] → ∀ env : Env,
        ∀ page ∈ (s'.resume env).bps.gMemoryBreakpointPages, (s'.resume env).Kept page := by
  intro hclaim
  have hrun : WatchRun protectedRules anyPage twoThreadSession (servedSession { context := fun _ => false }) :=
    run_servedSession (fun _ _ => rfl) (fun _ _ => rfl) (by decide) trivial (by decide)
  have hkept := hclaim _ _ rfl rfl rfl hrun (List.isEmpty_iff.mp (by decide)) {} 0x10000 (by decide)
  obtain hguard | ⟨threadIndex, actions, hactions, -⟩ := hkept
  · exact hguard (by decide)
  · have hidle : ((servedSession { context := fun _ => false }).resume {}).steps.gInternalStepCallbacks =
        ∅ := Std.ExtTreeMap.isEmpty_iff.mp (by decide)
    rw [hidle] at hactions
    exact Std.ExtTreeMap.not_mem_empty (mem_of_getElem? hactions)

end TitanEngine

import TitanEngine.Effects.Offers
import TitanEngine.Lifecycle.Detach
import TitanEngine.Stepping.Answers

/-! Whose code the adapter runs: it calls back what the client has given and not taken back. -/
namespace TitanEngine
open Relation

/-- The client gives known callbacks only. -/
def givingRules (known : Callback → Prop) : Rules where
  call _ call _ := ∀ callback, call.callback = some callback → known callback
  work _ _ _ := True
  target _ _ := True

namespace Holdings

/-- A step, a pause, an attach or queued work has the callback. -/
inductive Owes (callback : Callback) (held : Holdings) : Prop
  | step {thread : ULONG} (step : held.gStepCallbacks[thread]? = some (some callback))
  | internal {thread : ULONG} {actions : List StepAction}
      (pending : held.gInternalStepCallbacks[thread]? = some actions) (mem : .userStep callback ∈ actions)
  | queued {entry : Env × Work} (mem : entry ∈ held.gCallbackQueue) (runs : entry.2.callback = some callback)
  | pause (pause : held.gPauseCallback = some callback)
  | attach (attach : held.gAttachCallback = some callback)

/-- Something that the session keeps has the callback. -/
inductive Keeps (callback : Callback) (held : Holdings) : Prop
  | record {id : ULONG} {info : BreakpointInfo} (record : held.gBreakpoints[id]? = some info)
      (runs : info.Runs callback)
  | watched {id : ULONG64} {info : MemoryBreakpointInfo} (watched : held.gMemoryBreakpoints[id]? = some info)
      (runs : info.callback = some callback)
  | owed (owed : held.Owes callback)

end Holdings

theorem Work.callback_of_isEvent {work : Work} (h : work.isEvent = true) : work.callback = none := by
  cases work with
  | pause | internalStep | step => cases h
  | _ => rfl

namespace Holdings.Given
variable {known : Callback → Prop} {past : List Invocation} {env : Env} {callback : Option Callback}
  {k : Client} {s s' : Session}

theorem of_keeps (h : ∀ callback, s.holdings.Keeps callback → known callback) :
    s.holdings.Given known (invocations s.log) where
  records hrecord callback hruns := h callback (.record hrecord hruns)
  watched hwatched callback hruns := h callback (.watched hwatched hruns)
  steps hstep := h _ (.owed (.step hstep))
  internal hpending callback hmem := h callback (.owed (.internal hpending hmem))
  queue _ hmem callback hruns := h callback (.owed (.queued hmem hruns))
  pause callback hpause := h callback (.owed (.pause hpause))
  attach callback hattach := h callback (.owed (.attach hattach))
  told := ⟨[], rfl, fun _ hmem => nomatch hmem⟩

theorem keeps (hs : s.holdings.Given known past) {callback : Callback}
    (h : s.holdings.Keeps callback) : known callback := by
  cases h with
  | record hrecord hruns => exact hs.records hrecord callback hruns
  | watched hwatched hruns => exact hs.watched hwatched callback hruns
  | owed h =>
    cases h with
    | step hstep => exact hs.steps hstep
    | internal hpending hmem => exact hs.internal hpending callback hmem
    | queued hmem hruns => exact hs.queue _ hmem callback hruns
    | pause hpause => exact hs.pause callback hpause
    | attach hattach => exact hs.attach callback hattach

theorem callTends (hs : s.holdings.Given known past)
    (hgiven : ∀ given, callback = some given → known given) (h : CallTends env callback s s') :
    s'.holdings.Given known past := by
  cases h with
  | same h =>
    rw [h]
    exact hs
  | skipped h | dangling _ _ h =>
    rw [h]
    exact ⟨hs.records, hs.watched, hs.steps, hs.internal, hs.queue, hs.pause, hs.attach, hs.told⟩
  | patch _ _ given entry _ _ h =>
    rw [h]
    refine ⟨fun hrecord given' hruns => ?_, hs.watched, hs.steps, hs.internal, hs.queue, hs.pause,
      hs.attach, hs.told⟩
    rcases entry hrecord with hold | rfl
    · exact hs.records hold given' hruns
    · exact hgiven _ (given given' hruns)
  | object _ _ _ _ _ given h =>
    rw [h]
    refine ⟨fun hrecord given' hruns => ?_, hs.watched, hs.steps, hs.internal, hs.queue, hs.pause,
      hs.attach, hs.told⟩
    rcases MapSums.getElem?_insert_cases hrecord with ⟨-, rfl⟩ | ⟨-, hold⟩
    · exact hgiven _ (given given' hruns)
    · exact hs.records hold given' hruns
  | erased _ _ _ _ h =>
    rw [h]
    exact ⟨fun hrecord => hs.records (MapSums.getElem?_of_erase hrecord), hs.watched, hs.steps, hs.internal,
      hs.queue, hs.pause, hs.attach, hs.told⟩
  | thinned _ within h =>
    rw [h]
    exact ⟨hs.records, fun hwatched => hs.watched (within hwatched), hs.steps, hs.internal, hs.queue,
      hs.pause, hs.attach, hs.told⟩
  | cleared within _ h =>
    rw [h]
    refine ⟨fun hrecord => ?_, fun hwatched => hs.watched (within hwatched), hs.steps, hs.internal, hs.queue,
      hs.pause, hs.attach, hs.told⟩
    simp at hrecord
  | abandoned _ h =>
    rw [h]
    refine ⟨fun hrecord => ?_, fun hwatched => ?_, hs.steps, hs.internal, hs.queue, hs.pause, hs.attach,
      hs.told⟩
    · simp at hrecord
    · simp at hwatched
  | watching entry h =>
    rw [h]
    refine ⟨hs.records, fun hwatched given hruns => ?_, hs.steps, hs.internal, hs.queue, hs.pause, hs.attach,
      hs.told⟩
    rcases entry hwatched with hold | hnew
    · exact hs.watched hold given hruns
    · exact hgiven given (hnew.symm.trans hruns)
  | stepping h =>
    rw [h]
    refine ⟨hs.records, hs.watched, fun hstep => ?_, hs.internal, hs.queue, hs.pause, hs.attach, hs.told⟩
    rcases MapSums.getElem?_insertIfNew_cases hstep with hold | ⟨-, hnew⟩
    · exact hs.steps hold
    · exact hgiven _ hnew.symm
  | pausing h =>
    rw [h]
    exact ⟨hs.records, hs.watched, hs.steps, hs.internal, hs.queue, hgiven, hs.attach, hs.told⟩

theorem callStep (hs : s.holdings.Given known past) (h : CallStep (givingRules known) s s') :
    s'.holdings.Given known past := by
  obtain ⟨allowed⟩ := h
  exact hs.callTends allowed (CallTends.run ..)

theorem client (hk : k.Follows (givingRules known)) {inv : Invocation}
    (hinv : ∀ callback, inv.callback = some callback → known callback) (hs : s.holdings.Given known past) :
    (k.call inv s).holdings.Given known past := by
  have hcalls : Runs.Preserves (CallStep (givingRules known)) fun s => s.holdings.Given known past :=
    fun _ _ hstep hs => hs.callStep hstep
  refine hk.keeps hcalls inv _ ?_
  obtain ⟨news, htold, hnews⟩ := hs.told
  refine ⟨hs.records, hs.watched, hs.steps, hs.internal, hs.queue, hs.pause, hs.attach, inv :: news, ?_, ?_⟩
  · show inv :: invocations s.log = _
    rw [show invocations s.log = _ from htold]
    rfl
  · intro inv' hmem
    rcases List.mem_cons.mp hmem with rfl | hmem
    · exact hinv
    · exact hnews inv' hmem

theorem tends (hk : k.Follows (givingRules known)) (hs : s.holdings.Given known past)
    (h : Tends known k s s') : s'.holdings.Given known past := by
  cases h with
  | same h =>
    rw [h]
    exact hs
  | call given => exact hs.client hk given
  | @attach callback _ given =>
    have htaken : { s with gAttachCallback := none }.holdings.Given known past :=
      ⟨hs.records, hs.watched, hs.steps, hs.internal, hs.queue, hs.pause, (fun _ h => nomatch h), hs.told⟩
    refine htaken.client hk fun given' hgiven => ?_
    cases hgiven
    exact hs.attach callback given
  | consume _ _ h =>
    rw [h]
    exact ⟨fun hrecord => hs.records (MapSums.getElem?_of_erase hrecord), hs.watched, hs.steps, hs.internal,
      hs.queue, hs.pause, hs.attach, hs.told⟩
  | lose h =>
    rw [h]
    exact ⟨hs.records, fun hwatched => hs.watched (MapSums.getElem?_of_erase hwatched), hs.steps,
      hs.internal, hs.queue, hs.pause, hs.attach, hs.told⟩
  | regroup within h =>
    rw [h]
    refine ⟨hs.records, hs.watched, fun hstep => hs.steps (within.steps hstep),
      fun hpending callback hmem => ?_, hs.queue, hs.pause, hs.attach, hs.told⟩
    rcases within.internal hpending hmem with hstep | ⟨previous, hprevious, hmem'⟩
    · exact hs.steps hstep
    · exact hs.internal hprevious callback hmem'

theorem recogniseStop (env : Env) (hs : s.holdings.Given known past) :
    (s.recogniseStop env).holdings.Given known past := by
  unfold Session.recogniseStop
  split
  · exact hs
  split
  · rename_i callback hpause
    refine ⟨hs.records, hs.watched, hs.steps, hs.internal, fun entry hmem given hgiven => ?_,
      (fun _ h => nomatch h), hs.attach, hs.told⟩
    rw [List.mem_singleton.mp hmem] at hgiven
    cases hgiven
    exact hs.pause callback hpause
  split
  · exact hs
  split
  · refine ⟨hs.records, hs.watched, hs.steps, hs.internal, fun entry hmem given hgiven => ?_, hs.pause,
      hs.attach, hs.told⟩
    rw [List.mem_singleton.mp hmem] at hgiven
    cases hgiven
  split
  · exact hs
  · rename_i callback hstep
    refine ⟨hs.records, hs.watched, fun h => hs.steps (MapSums.getElem?_of_erase h), hs.internal,
      fun entry hmem given hgiven => ?_, hs.pause, hs.attach, hs.told⟩
    rw [List.mem_singleton.mp hmem] at hgiven
    rw [show callback = some given from hgiven] at hstep
    exact hs.steps hstep

theorem tending (hk : k.Follows (givingRules known)) (hs : s.holdings.Given known past)
    (h : Tending known k s s') : s'.holdings.Given known past := by
  have hkeeps : Runs.Preserves (Tends known k) fun s => s.holdings.Given known past :=
    fun _ _ hstep hs => hs.tends hk hstep
  exact hkeeps.run h hs

theorem work (hk : k.Follows (givingRules known)) {work : Work} {rest : List (Env × Work)}
    (hs : s.holdings.Given known past) (hqueue : s.gCallbackQueue = (env, work) :: rest) :
    (work.run k env (s.dequeue rest)).1.holdings.Given known past := by
  have hmem : ∀ entry ∈ (env, work) :: rest, entry ∈ s.gCallbackQueue := by
    rw [hqueue]
    exact fun _ h => h
  have hrest : (s.dequeue rest).holdings.Given known past :=
    ⟨hs.records, hs.watched, hs.steps, hs.internal,
      fun entry h => hs.queue entry (hmem entry (List.mem_cons_of_mem _ h)), hs.pause, hs.attach, hs.told⟩
  exact hrest.tending hk (Tending.work env hrest (hs.queue _ (hmem _ List.mem_cons_self)))

/-- Each step of a session calls back with what has been given, and keeps nothing else. -/
theorem step (hs : s.holdings.Given known past) (h : EventStep (givingRules known) s s') :
    s'.holdings.Given known past := by
  cases h with
  | call hstep => exact hs.callStep hstep
  | target => exact ⟨hs.records, hs.watched, hs.steps, hs.internal, hs.queue, hs.pause, hs.attach, hs.told⟩
  | @stop env events _ reported =>
    have hqueued : { s with gCallbackQueue := events }.holdings.Given known past := by
      refine ⟨hs.records, hs.watched, hs.steps, hs.internal, fun entry hmem callback hruns => ?_, hs.pause,
        hs.attach, hs.told⟩
      rw [Work.callback_of_isEvent (reported entry hmem)] at hruns
      cases hruns
    exact hqueued.recogniseStop env
  | paused hpaused hstep =>
    cases hstep with
    | call hstep => exact hs.callStep hstep
    | target => exact ⟨hs.records, hs.watched, hs.steps, hs.internal, hs.queue, hs.pause, hs.attach, hs.told⟩
    | stop hrunning =>
      rw [hpaused] at hrunning
      cases hrunning
    | work hk _ hqueue _ _ => exact hs.work hk hqueue
    | failed hk _ hqueue _ _ =>
      rw [Session.holdings_applyExecutionStatus]
      exact hs.work hk hqueue
    | @resume env _ _ =>
      show (s.applyExecutionStatus env).1.holdings.Given known past
      rw [Session.holdings_applyExecutionStatus]
      exact hs

end Holdings.Given

namespace Session
variable {env : Env} {callback : Callback} {s s' : Session}

/-- A call that gives no callback leaves none owed that was not owed before. -/
theorem owes_of_callTends (htends : CallTends env none s s') (h : s'.holdings.Owes callback) :
    s.holdings.Owes callback := by
  cases htends with
  | same heq | skipped heq | patch _ _ _ _ _ _ heq | object _ _ _ _ _ _ heq | erased _ _ _ _ heq
  | dangling _ _ heq | thinned _ _ heq | cleared _ _ heq | abandoned _ heq | watching _ heq =>
    rw [heq] at h
    cases h with
    | step step => exact .step step
    | internal pending mem => exact .internal pending mem
    | queued mem runs => exact .queued mem runs
    | pause pause => exact .pause pause
    | attach attach => exact .attach attach
  | stepping heq =>
    rw [heq] at h
    cases h with
    | step step =>
      rcases MapSums.getElem?_insertIfNew_cases step with hold | ⟨-, hnew⟩
      · exact .step hold
      · cases hnew
    | internal pending mem => exact .internal pending mem
    | queued mem runs => exact .queued mem runs
    | pause pause => exact .pause pause
    | attach attach => exact .attach attach
  | pausing heq =>
    rw [heq] at h
    cases h with
    | step step => exact .step step
    | internal pending mem => exact .internal pending mem
    | queued mem runs => exact .queued mem runs
    | pause pause => cases pause
    | attach attach => exact .attach attach

/-- Once all breakpoints are removed, what is left of the callbacks is owed. -/
theorem owes_of_removeAllBreakPoints (hlive : s.Live) (hremoved : (s.removeAllBreakPoints env).2 = true)
    (h : (s.removeAllBreakPoints env).1.holdings.Keeps callback) : s.holdings.Owes callback := by
  have hmemory : (s.removeAllMemoryBreakpoints env).1.bps.gMemoryBreakpoints = ∅ :=
    removeMemoryBreakpoints_empty env hlive (Nat.le_refl s.bps.gMemoryBreakpoints.size)
  have htables : (s.removeAllBreakPoints env).1.holdings.gBreakpoints = ∅ ∧
      (s.removeAllBreakPoints env).1.holdings.gMemoryBreakpoints = ∅ := by
    obtain ⟨hfailed, -⟩ | ⟨-, hover⟩ | ⟨objects, -, hcleared⟩ :=
      CallTends.removeAllBreakPoints_outcome env s
    · rw [hfailed] at hremoved
      cases hremoved
    · rw [hover]
      exact ⟨rfl, rfl⟩
    · rw [hcleared]
      exact ⟨rfl, hmemory⟩
  cases h with
  | record record =>
    rw [htables.1] at record
    simp at record
  | watched watched =>
    rw [htables.2] at watched
    simp at watched
  | owed owed => exact owes_of_callTends (CallTends.removeAllBreakPoints env s) owed

end Session

/-- The adapter runs no other code of the client's than what the client gives it. If all callbacks
that a session keeps are known, and the client gives known ones only, then in every run only known
ones are called, and only known ones are kept. -/
theorem only_given_called {known : Callback → Prop} {s s' : Session}
    (hkept : ∀ callback, s.holdings.Keeps callback → known callback)
    (hrun : EventRun (givingRules known) s s') :
    (∃ news, invocations s'.log = news ++ invocations s.log ∧
        ∀ inv ∈ news, ∀ callback, inv.callback = some callback → known callback) ∧
      ∀ callback, s'.holdings.Keeps callback → known callback := by
  have hkeeps : Runs.Preserves (EventStep (givingRules known)) fun s' =>
      s'.holdings.Given known (invocations s.log) := fun _ _ hstep hs => hs.step hstep
  have hs' := hkeeps.run hrun (Holdings.Given.of_keeps hkept)
  exact ⟨hs'.told, fun callback => hs'.keeps⟩

/-- The breakpoint has been removed, and set again for another callback. -/
def rearmedSession : Session :=
  (ApiCall.run {} (.setBPX 0x401000 0 (some 2)) (softwareThreadedSession.removeAllBreakPoints {}).1).1

theorem eventRun_rearmedSession :
    EventRun (givingRules (· ≠ 1)) (softwareThreadedSession.removeAllBreakPoints {}).1
      (rearmedSession.afterEvent idle {} (.exception breakpointHit)) := by
  have hset : CallStep (givingRules (· ≠ 1)) (softwareThreadedSession.removeAllBreakPoints {}).1
      rearmedSession := by
    refine .call fun callback hcallback => ?_
    cases hcallback
    decide
  have hhit : EventRun (givingRules (· ≠ 1)) rearmedSession
      (rearmedSession.afterEvent idle {} (.exception breakpointHit)) :=
    eventRun_afterEvent (idle_follows _) rfl (by decide) (List.isEmpty_iff.mp (by decide)) trivial (by decide)
  exact .head (.call hset) hhit

theorem not_owes_softwareThreadedSession (callback : Callback) :
    ¬softwareThreadedSession.holdings.Owes callback := by
  intro h
  cases h with
  | step step => cases step
  | internal pending => cases pending
  | queued mem => cases mem
  | pause pause => cases pause
  | attach attach => cases attach

theorem only_given_called_rearmed :
    .softBreakpoint 2 ∈ invocations (rearmedSession.afterEvent idle {} (.exception breakpointHit)).log ∧
      (∃ news, invocations (rearmedSession.afterEvent idle {} (.exception breakpointHit)).log =
          news ++ invocations (softwareThreadedSession.removeAllBreakPoints {}).1.log ∧
        ∀ inv ∈ news, ∀ callback, inv.callback = some callback → callback ≠ 1) ∧
      ∀ callback, (rearmedSession.afterEvent idle {} (.exception breakpointHit)).holdings.Keeps callback →
        callback ≠ 1 := by
  refine ⟨by decide, only_given_called (fun callback hkeeps => ?_) eventRun_rearmedSession⟩
  have howes := Session.owes_of_removeAllBreakPoints (show softwareThreadedSession.Live from rfl)
    (by decide) hkeeps
  exact (not_owes_softwareThreadedSession callback howes).elim

end TitanEngine

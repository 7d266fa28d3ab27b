import TitanEngine.Effects.Story
import TitanEngine.Resume.Exceptions

/-! The order in which a client is called: every run of a session is one of callbacks for one
event or one step after the other, and the system breakpoint is among them once. -/
namespace TitanEngine
open Relation

theorem invocations_filter (log : List Entry) :
    invocations (log.filter Entry.speaks) = invocations log := by
  unfold invocations
  rw [List.filterMap_filter]
  apply List.filterMap_congr
  intro entry _
  cases entry <;> rfl

namespace Session
variable {k : Client} {rules : Rules} {env : Env} {s s' : Session}

theorem chronicle_of_story (h : s'.story = s.story) : s'.chronicle = s.chronicle := by
  unfold chronicle
  rw [← invocations_filter, story_log h, invocations_filter, story_expects h, story_attach h]

theorem chronicle_callStep (h : CallStep rules s s') : s'.chronicle = s.chronicle := by
  have hdebugStep : ∀ env kind callback, (s.debugStep env kind callback).chronicle = s.chronicle := by
    intro env kind callback
    obtain heq | ⟨thread, -, -, -, heq⟩ := debugStep_outcome env kind callback s <;> rw [heq]
    rfl
  obtain @⟨env, call, _, -⟩ := h
  cases hsteps : call.steps with
  | false => exact chronicle_of_story (story_of_course (course_call env hsteps s))
  | true =>
    cases call with
    | stepInto callback => exact hdebugStep env .into callback
    | stepOver callback => exact hdebugStep env .over callback
    | _ => cases hsteps

/-- Whatever the client does when it is called, it is called once. -/
theorem chronicle_call (hk : k.Follows rules) (inv : Invocation) (s : Session) :
    (k.call inv s).chronicle = { s.chronicle with told := inv :: s.chronicle.told } :=
  Runs.run_eq (fun _ _ h => chronicle_callStep h) (hk inv { s with log := .invoke inv :: s.log })

theorem chronicle_told (hk : k.Follows rules) (inv : Invocation) {s₀ : Session} (h : s₀.story = s.story) :
    (k.call inv s₀).chronicle = { s.chronicle with told := inv :: s.chronicle.told } := by
  rw [chronicle_call hk, chronicle_of_story h]

theorem chronicle_reports (hk : k.Follows rules) (h : Reports k s s') :
    Chronicle.Next s.chronicle s'.chronicle := by
  cases h with
  | event entered told =>
    rw [chronicle_of_story told, chronicle_told hk _ entered]
    exact .event
  | callback report entered told called =>
    rw [chronicle_of_story called, chronicle_call hk, chronicle_of_story told, chronicle_told hk _ entered]
    exact .report report
  | @attached callback s₀ s' expected entered given called =>
    have htold := chronicle_told hk (.handler .debugEvent) entered
    have hattach : s.chronicle.attach = some callback := (congrArg Chronicle.attach htold).symm.trans given
    have hcalled : s'.chronicle = ⟨.attach callback :: .handler .debugEvent :: s.chronicle.told,
        false, none⟩ := by
      rw [chronicle_of_story called, chronicle_call hk]
      have hlog : invocations (k.call (.handler .debugEvent) s₀).log =
          .handler .debugEvent :: s.chronicle.told := congrArg Chronicle.told htold
      have hexpected : (k.call (.handler .debugEvent) s₀).gExpectSystemBreakpoint = false :=
        congrArg Chronicle.expected htold
      simp only [chronicle, hlog, hexpected]
    rw [hcalled]
    have hnext := Chronicle.Next.announce (c := s.chronicle) expected
    unfold announcement at hnext
    rw [hattach] at hnext
    exact hnext
  | @stopped s₀ s' expected entered given called =>
    have htold := chronicle_told hk (.handler .debugEvent) entered
    have hattach : s.chronicle.attach = none := (congrArg Chronicle.attach htold).symm.trans given
    have hcalled : s'.chronicle =
        ⟨.handler .systemBreakpoint :: .handler .debugEvent :: s.chronicle.told, false, none⟩ := by
      rw [chronicle_of_story called, chronicle_call hk, htold]
      exact congrArg (Chronicle.mk _ false) hattach
    rw [hcalled]
    have hnext := Chronicle.Next.announce (c := s.chronicle) expected
    unfold announcement at hnext
    rw [hattach] at hnext
    exact hnext

theorem chronicle_callStep_next (hk : k.Follows rules) (thread : ULONG) (callback : Callback)
    (s : Session) : Chronicle.Next s.chronicle (s.callStep k thread callback).chronicle := by
  unfold callStep
  rw [chronicle_call hk]
  exact .step thread callback _ _

theorem chronicle_runActions (hk : k.Follows rules) (env : Env) (threadIndex : ULONG)
    (actions : List StepAction) (s : Session) :
    ReflTransGen Chronicle.Next s.chronicle (s.runActions k env threadIndex actions).chronicle := by
  unfold runActions
  induction actions generalizing s with
  | nil => exact .refl
  | cons action actions ih =>
    refine ReflTransGen.trans ?_ (ih _)
    cases action with
    | rearmBreakpoint | rearmPage =>
      rw [chronicle_of_story (story_runAction k env threadIndex (by simp) s)]
    | userStep callback => exact .single (chronicle_callStep_next hk threadIndex callback s)

theorem chronicle_scheduleInternalStep (env : Env) (action : StepAction) (s : Session) :
    (s.scheduleInternalStep env action).chronicle = s.chronicle := by
  obtain ⟨steps, suspends, resumes, eflags, e, heq⟩ := scheduleInternalStep_eq env action s
  rw [heq]
  rfl

theorem chronicle_work (hk : k.Follows rules) (env : Env) (work : Work) (s : Session) :
    ReflTransGen Chronicle.Next s.chronicle (work.run k env s).1.chronicle := by
  have hshape := WorkShape.run k env work s
  generalize (work.run k env s).1 = s' at hshape
  cases hshape with
  | silent quiet same => rw [chronicle_of_story same]
  | step step before =>
    rw [← chronicle_of_story before]
    exact .single (chronicle_callStep_next hk ..)
  | completed quiet pending forgotten ran =>
    rename_i thread actions s₀
    have hforgotten := chronicle_of_story forgotten
    have hran := chronicle_runActions hk env thread actions s₀
    rw [hforgotten] at hran
    rw [chronicle_of_story ran]
    exact hran
  | event quiet entered kept reported left =>
    rename_i map s₀ s₁
    have hentered := chronicle_of_story entered
    have hreported := chronicle_reports hk reported
    rw [hentered] at hreported
    have hleft : s'.chronicle = s₁.chronicle := by
      cases left with
      | same same => exact chronicle_of_story same
      | armed exception before armed plain =>
        rw [chronicle_of_story armed, chronicle_scheduleInternalStep, chronicle_of_story before]
      | exited exit =>
        unfold forgetThread
        repeat' split
        all_goals rfl
      | unnamed same =>
        have hsame := chronicle_of_story same
        exact hsame
    rw [hleft]
    exact .single hreported

theorem chronicle_stop (env : Env) (events : List (Env × Work)) (s : Session) :
    (s.stop env events).chronicle = s.chronicle := by
  unfold stop recogniseStop
  repeat' split
  all_goals rfl

theorem chronicle_step (h : SessionStep rules s s') :
    ReflTransGen Chronicle.Next s.chronicle s'.chronicle := by
  cases h with
  | call step => rw [chronicle_callStep step]
  | target allowed => exact .refl
  | stop running => rw [chronicle_stop]
  | @work k env work rest follows paused queued allowed done =>
    exact chronicle_work follows env work (s.dequeue rest)
  | @failed k env env' work rest follows paused queued allowed failed =>
    rw [chronicle_of_story (story_applyExecutionStatus env' _)]
    exact chronicle_work follows env work (s.dequeue rest)
  | @resume env paused drained =>
    have happly := chronicle_of_story (story_applyExecutionStatus env s)
    have hresume : (s.resume env).chronicle = s.chronicle := happly
    rw [hresume]

/-- What a client sees of a run is a run of callbacks for single events and steps. -/
theorem chronicle_run (h : Run rules s s') : ReflTransGen Chronicle.Next s.chronicle s'.chronicle := by
  induction h with
  | refl => exact .refl
  | tail _ hstep ih => exact ih.trans (chronicle_step hstep)

end Session

namespace Chronicle
variable {c c' : Chronicle}

theorem orderly_next (h : Next c c') (hc : Orderly c.told) : Orderly c'.told := by
  cases h with
  | step thread callback ip depth => exact .step hc
  | event => exact .event hc
  | report report => exact .report report hc
  | announce expected =>
    unfold announcement
    cases c.attach with
    | some callback => exact .attached hc
    | none => exact .stopped hc

theorem announces_of_isReport {inv : Invocation} (h : inv.isReport = true) : inv.announces = false := by
  cases inv with
  | handler id => cases id <;> first | rfl | cases h
  | attach callback => cases h
  | _ => rfl

/-- Either the announcement is still to come, or it has been made, and in the way asked for. -/
def Announces (attach : Option Callback) (c : Chronicle) : Prop :=
  (c.expected = true → c.attach = attach) ∧ c.told.filter Invocation.announces =
    if c.expected then [] else [announcement attach]

theorem announces_next {attach : Option Callback} (h : Next c c') (hc : Announces attach c) :
    Announces attach c' := by
  obtain ⟨hattach, htold⟩ := hc
  cases h with
  | step thread callback ip depth => exact ⟨hattach, htold⟩
  | event => exact ⟨hattach, htold⟩
  | report report =>
    refine ⟨hattach, ?_⟩
    rw [List.filter_cons_of_neg (by rw [announces_of_isReport report]; decide)]
    exact htold
  | announce expected =>
    refine ⟨fun h => (nomatch h), ?_⟩
    rw [expected] at htold
    have hannounces : (announcement c.attach).announces = true := by
      unfold announcement
      cases c.attach <;> rfl
    rw [List.filter_cons_of_pos hannounces, List.filter_cons_of_neg (by decide), htold,
      hattach expected]
    rfl

end Chronicle

variable {rules : Rules} {s s' : Session}

/-- Over every run, each callback of an event follows the one that announces the event. -/
theorem callbacks_orderly (hs : s.log = []) (hrun : Run rules s s') : Orderly (invocations s'.log) := by
  have hstart : Orderly s.chronicle.told := by
    unfold Session.chronicle
    rw [hs]
    exact .start
  have hkeeps : Runs.Preserves Chronicle.Next fun c => Orderly c.told :=
    fun _ _ h hc => Chronicle.orderly_next h hc
  exact hkeeps.run (Session.chronicle_run hrun) hstart

theorem callbacks_orderly_hitSession :
    invocations hitSession.log = [.softBreakpoint 1, .handler .debugEvent] ∧
      Orderly (invocations hitSession.log) :=
  ⟨by decide, callbacks_orderly rfl run_hitSession⟩

namespace Session

theorem expects_call {k : Client} (hk : k.Follows rules) (inv : Invocation) (s : Session) :
    (k.call inv s).gExpectSystemBreakpoint = s.gExpectSystemBreakpoint :=
  congrArg Chronicle.expected (chronicle_call hk inv s)

theorem expects_dispatchSystemBreakpoint {k : Client} (hk : k.Follows rules) (s : Session) :
    (s.dispatchSystemBreakpoint k).gExpectSystemBreakpoint = s.gExpectSystemBreakpoint := by
  have hbegin : (s.beginDebugEvent k false).gExpectSystemBreakpoint = s.gExpectSystemBreakpoint :=
    expects_call hk _ _
  unfold dispatchSystemBreakpoint
  dsimp only
  rw [story_expects (story_finishDebugEvent ..)]
  split
  · exact (expects_call hk _ _).trans hbegin
  · exact (expects_call hk _ _).trans hbegin

theorem expects_work {k : Client} (hk : k.Follows rules) (env : Env) (work : Work) {s : Session}
    (hs : s.gExpectSystemBreakpoint = false) :
    (work.run k env s).1.gExpectSystemBreakpoint = false := by
  have hkeeps : Runs.Preserves Chronicle.Next fun c => c.expected = false := by
    intro c c' h hc
    cases h with
    | announce expected => rfl
    | _ => exact hc
  exact hkeeps.run (chronicle_work hk env work s) hs

/-- A breakpoint exception leaves no system breakpoint to come. -/
theorem expects_exceptionEvent {k : Client} (hk : k.Follows rules) (env : Env)
    {info : EXCEPTION_DEBUG_INFO} (hcode : info.code = EXCEPTION_BREAKPOINT) (s : Session) :
    (s.exceptionEvent k env info).1.gExpectSystemBreakpoint = false := by
  by_cases hexpected : s.gExpectSystemBreakpoint = true
  · have hstep : (s.setFakeDebugEvent env (.exception info)).consumeSingleStep k env info = none := by
      unfold consumeSingleStep
      rw [hcode, if_neg (by decide)]
    have haccess : (s.setFakeDebugEvent env (.exception info)).consumeAccess k env info = none := by
      unfold consumeAccess
      rw [hcode, if_neg (by decide)]
    unfold exceptionEvent
    dsimp only
    rw [hstep, haccess]
    dsimp only
    rw [if_pos ⟨hcode, hexpected⟩]
    exact expects_dispatchSystemBreakpoint hk _
  · exact expects_work hk env (.exception info) (eq_false_of_ne_true hexpected)

end Session

/-- A session tells of its system breakpoint once, from the first breakpoint exception on, and
in the way in which its start has asked for. -/
theorem announced_once (hs : s.log = []) (hexpected : s.gExpectSystemBreakpoint = true)
    (hrun : Run rules s s') :
    (invocations s'.log).filter Invocation.announces =
        (if s'.gExpectSystemBreakpoint then [] else [announcement s.gAttachCallback]) ∧
      ∀ (k : Client) (env : Env) (info : EXCEPTION_DEBUG_INFO), k.Follows rules →
        info.code = EXCEPTION_BREAKPOINT →
          (invocations (s'.exceptionEvent k env info).1.log).filter Invocation.announces =
            [announcement s.gAttachCallback] := by
  have hstart : Chronicle.Announces s.gAttachCallback s.chronicle := by
    refine ⟨fun _ => rfl, ?_⟩
    simp only [Session.chronicle, hs, hexpected, if_true]
    rfl
  have hkeeps : Runs.Preserves Chronicle.Next (Chronicle.Announces s.gAttachCallback) :=
    fun _ _ h hc => Chronicle.announces_next h hc
  have hreached := hkeeps.run (Session.chronicle_run hrun) hstart
  refine ⟨hreached.2, fun k env info hk hcode => ?_⟩
  have hafter := hkeeps.run (Session.chronicle_work hk env (.exception info) s') hreached
  have hnone : (s'.exceptionEvent k env info).1.gExpectSystemBreakpoint = false :=
    Session.expects_exceptionEvent hk env hcode s'
  have htold := hafter.2
  change (invocations (s'.exceptionEvent k env info).1.log).filter Invocation.announces =
    (if (s'.exceptionEvent k env info).1.gExpectSystemBreakpoint then []
      else [announcement s.gAttachCallback]) at htold
  rw [htold, hnone]
  rfl

/-- A session that has just been attached to a process. -/
def attachingSession : Session :=
  { threadedSession with gExpectSystemBreakpoint := true, gAttachCallback := some 9 }

theorem announced_once_attachingSession :
    (invocations (attachingSession.afterEvent idle {} (.exception breakpointHit)).log).filter
        Invocation.announces = [.attach 9] := by
  have hrun : Run anyRules attachingSession
      (attachingSession.afterEvent idle {} (.exception breakpointHit)) :=
    run_afterEvent (idle_follows anyRules) (by decide) rfl trivial (by decide)
  have honce := (announced_once rfl rfl hrun).1
  have hannounced : (attachingSession.afterEvent idle {}
      (.exception breakpointHit)).gExpectSystemBreakpoint = false := by decide
  rw [hannounced] at honce
  exact honce

end TitanEngine

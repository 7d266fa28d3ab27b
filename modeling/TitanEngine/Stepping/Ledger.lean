import TitanEngine.Effects.Story
import TitanEngine.Guards.Rearm

/-! The steps that a client has asked for on a thread, as an account: what it has asked for has
been answered, waits to be answered, or is lost. -/
namespace TitanEngine
open Relation

theorem stepCalls_filter (thread : ULONG) (callback : Callback) (log : List Entry) :
    stepCalls thread callback (log.filter Entry.speaks) = stepCalls thread callback log := by
  unfold stepCalls
  rw [List.filterMap_filter]
  apply List.filterMap_congr
  intro entry _
  cases entry <;> rfl

theorem stepAsks_filter (thread : ULONG) (callback : Callback) (log : List Entry) :
    stepAsks thread callback (log.filter Entry.speaks) = stepAsks thread callback log :=
  List.count_filter rfl

/-- The invocation runs the step callback for the thread. -/
def Invocation.answers (thread : ULONG) (callback : Callback) : Invocation → Bool
  | .step thread' callback' _ _ => thread' = thread ∧ callback' = callback
  | _ => false

namespace Session
variable {k : Client} {rules : Rules} {env : Env} {thread : ULONG} {callback : Callback}
variable {s s' : Session}

/-- The steps that have been asked for, and neither were nor will be answered. -/
def lostSteps (thread : ULONG) (callback : Callback) (s : Session) : ℤ :=
  stepAsks thread callback s.log -
    ((stepCalls thread callback s.log).length + s.pendingSteps thread callback)

theorem pendingSteps_of_story (h : s'.story = s.story) :
    s'.pendingSteps thread callback = s.pendingSteps thread callback := by
  unfold pendingSteps
  rw [story_callbacks h, story_internal h, story_queue h]

theorem lostSteps_of_story (h : s'.story = s.story) :
    s'.lostSteps thread callback = s.lostSteps thread callback := by
  unfold lostSteps
  rw [pendingSteps_of_story h, ← stepAsks_filter, ← stepCalls_filter, story_log h, stepAsks_filter,
    stepCalls_filter]

/-- Being told answers a step, or nothing. -/
theorem lostSteps_invoke (inv : Invocation) (s : Session) :
    { s with log := .invoke inv :: s.log }.lostSteps thread callback =
      s.lostSteps thread callback - if inv.answers thread callback then 1 else 0 := by
  have hasks : stepAsks thread callback (.invoke inv :: s.log) = stepAsks thread callback s.log := by
    unfold stepAsks
    rw [List.count_cons]
    rfl
  have hcalls : (stepCalls thread callback (.invoke inv :: s.log)).length =
      (stepCalls thread callback s.log).length + if inv.answers thread callback then 1 else 0 := by
    unfold stepCalls
    rw [List.filterMap_cons]
    cases inv with
    | step thread' callback' ip depth =>
      by_cases h : thread' = thread ∧ callback' = callback
      · simp [Invocation.answers, h]
      · simp [Invocation.answers, h]
    | _ => rfl
  unfold lostSteps
  show (stepAsks thread callback (.invoke inv :: s.log) : ℤ) -
    ((stepCalls thread callback (.invoke inv :: s.log)).length + s.pendingSteps thread callback) = _
  rw [hasks, hcalls]
  split <;> push_cast <;> omega

/-- A request that is accepted waits to be answered. -/
theorem lostSteps_debugStep (env : Env) (kind : StepKind) (callback' : Option Callback) (s : Session) :
    (s.debugStep env kind callback').lostSteps thread callback = s.lostSteps thread callback := by
  obtain heq | ⟨thread', -, -, hfree, heq⟩ := debugStep_outcome env kind callback' s <;> rw [heq]
  have hcalls : stepCalls thread callback (s.stepAccepted env kind callback' thread').log =
      stepCalls thread callback s.log := rfl
  have hasks : stepAsks thread callback (s.stepAccepted env kind callback' thread').log =
      stepAsks thread callback s.log +
        if thread' = thread ∧ callback' = some callback then 1 else 0 := by
    show (Entry.stepRequested thread' callback' :: s.log).count _ = _
    rw [List.count_cons]
    simp [stepAsks]
  have hpending : (s.stepAccepted env kind callback' thread').pendingSteps thread callback =
      s.pendingSteps thread callback +
        if thread' = thread ∧ callback' = some callback then 1 else 0 := by
    unfold pendingSteps stepAccepted
    dsimp only
    rw [MapSums.insertIfNew_of_notMem hfree]
    by_cases hthread : thread' = thread
    · subst hthread
      have hnone : s.steps.gStepCallbacks[thread']? = none := Std.ExtTreeMap.getElem?_eq_none hfree
      rw [Std.ExtTreeMap.getElem?_insert_self, hnone]
      by_cases hcallback : callback' = some callback
      · simp [hcallback]
        omega
      · simp [hcallback]
    · rw [MapSums.getElem?_insert_of_ne (Ne.symm hthread)]
      simp [hthread]
  unfold lostSteps
  rw [hcalls, hasks, hpending]
  push_cast
  omega

theorem lostSteps_callStep (h : CallStep rules s s') :
    s'.lostSteps thread callback = s.lostSteps thread callback := by
  obtain @⟨env, call, _, -⟩ := h
  cases hsteps : call.steps with
  | false => exact lostSteps_of_story (story_of_course (course_call env hsteps s))
  | true =>
    cases call with
    | stepInto callback => exact lostSteps_debugStep env .into callback s
    | stepOver callback => exact lostSteps_debugStep env .over callback s
    | _ => cases hsteps

/-- What the client does at a callback is balanced; the callback itself answers a step. -/
theorem lostSteps_call (hk : k.Follows rules) (inv : Invocation) (s : Session) :
    (k.call inv s).lostSteps thread callback =
      s.lostSteps thread callback - if inv.answers thread callback then 1 else 0 := by
  rw [← lostSteps_invoke]
  exact Runs.run_eq (fun _ _ h => lostSteps_callStep h) (hk inv _)

theorem lostSteps_reports (hk : k.Follows rules) (h : Reports k s s') :
    s'.lostSteps thread callback = s.lostSteps thread callback := by
  have hcall : ∀ inv (s : Session), inv.answers thread callback = false →
      (k.call inv s).lostSteps thread callback = s.lostSteps thread callback := by
    intro inv s hinv
    rw [lostSteps_call hk, hinv]
    simp
  cases h with
  | event entered told =>
    rw [lostSteps_of_story told, hcall _ _ rfl, lostSteps_of_story entered]
  | callback report entered told called =>
    rename_i inv _ _
    have hinv : inv.answers thread callback = false := by
      cases inv <;> first | rfl | cases report
    rw [lostSteps_of_story called, hcall _ _ hinv, lostSteps_of_story told, hcall _ _ rfl,
      lostSteps_of_story entered]
  | attached expected entered given called =>
    have hentered : _ = _ := @lostSteps_of_story thread callback _ _ entered
    rw [lostSteps_of_story called, hcall _ _ rfl]
    exact (hcall _ _ rfl).trans hentered
  | stopped expected entered given called =>
    have hentered : _ = _ := @lostSteps_of_story thread callback _ _ entered
    rw [lostSteps_of_story called, hcall _ _ rfl, hcall _ _ rfl]
    exact hentered

/-- The end of an internal step answers what it has taken over. -/
theorem lostSteps_runActions (hk : k.Follows rules) (env : Env) (threadIndex : ULONG)
    (actions : List StepAction) (s : Session) :
    (s.runActions k env threadIndex actions).lostSteps thread callback = s.lostSteps thread callback -
      if threadIndex = thread then actions.count (.userStep callback) else 0 := by
  unfold runActions
  induction actions generalizing s with
  | nil => simp
  | cons action actions ih =>
    have haction : (s.runAction k env threadIndex action).lostSteps thread callback =
        s.lostSteps thread callback -
          if threadIndex = thread ∧ action = .userStep callback then 1 else 0 := by
      cases action with
      | rearmBreakpoint | rearmPage =>
        rw [lostSteps_of_story (story_runAction k env threadIndex (by simp) s)]
        simp
      | userStep callback' =>
        refine (lostSteps_call hk _ s).trans ?_
        simp [Invocation.answers]
    rw [List.foldl_cons, ih, haction, List.count_cons]
    by_cases hthread : threadIndex = thread
    · by_cases hcall : action = .userStep callback
      · simp [hthread, hcall]
        omega
      · simp [hthread, hcall]
    · simp [hthread]

theorem lostSteps_forgetInternalStep {threadIndex : ULONG} {actions : List StepAction}
    (hpending : s.steps.gInternalStepCallbacks[threadIndex]? = some actions) :
    (s.forgetInternalStep threadIndex).lostSteps thread callback = s.lostSteps thread callback +
      if threadIndex = thread then actions.count (.userStep callback) else 0 := by
  have hpendingSteps : s.pendingSteps thread callback =
      (s.forgetInternalStep threadIndex).pendingSteps thread callback +
        if threadIndex = thread then actions.count (.userStep callback) else 0 := by
    unfold pendingSteps forgetInternalStep
    dsimp only
    by_cases hthread : threadIndex = thread
    · subst hthread
      have hactions : s.steps.gInternalStepCallbacks.getD threadIndex [] = actions :=
        Std.ExtTreeMap.getD_eq_getD_getElem?.trans (congrArg (·.getD []) hpending)
      rw [hactions, Std.ExtTreeMap.getD_erase_self]
      simp
      omega
    · have hother : (s.steps.gInternalStepCallbacks.erase threadIndex).getD thread [] =
          s.steps.gInternalStepCallbacks.getD thread [] := by
        rw [Std.ExtTreeMap.getD_eq_getD_getElem?, Std.ExtTreeMap.getD_eq_getD_getElem?,
          MapSums.getElem?_erase_of_ne (Ne.symm hthread)]
      rw [hother]
      simp [hthread]
  unfold lostSteps
  show (stepAsks thread callback s.log : ℤ) - ((stepCalls thread callback s.log).length +
    (s.forgetInternalStep threadIndex).pendingSteps thread callback) = _
  rw [hpendingSteps]
  push_cast
  omega

/-- A thread that exits is not answered; the others are not concerned. -/
theorem lostSteps_forgetThread (thread : ULONG) (callback : Callback) (threadIndex : ULONG)
    (handle : Option HANDLE) (s : Session) :
    s.lostSteps thread callback ≤ (s.forgetThread threadIndex handle).lostSteps thread callback ∧
      (threadIndex ≠ thread → (s.forgetThread threadIndex handle).lostSteps thread callback =
        s.lostSteps thread callback) := by
  obtain ⟨map, hstory⟩ : ∃ map, (s.forgetThread threadIndex handle).story =
      { s with gDebugIdMap := map
               steps.gStepCallbacks := s.steps.gStepCallbacks.erase threadIndex
               steps.gStepThreadSystemIds := s.steps.gStepThreadSystemIds.erase threadIndex
               steps.gInternalStepCallbacks :=
                 s.steps.gInternalStepCallbacks.erase threadIndex }.story := by
    unfold forgetThread
    cases handle with
    | none => exact ⟨_, rfl⟩
    | some handle =>
      dsimp only
      split <;> exact ⟨_, rfl⟩
  rw [lostSteps_of_story hstory]
  unfold lostSteps pendingSteps
  dsimp only
  constructor
  · have hstored : (if (s.steps.gStepCallbacks.erase threadIndex)[thread]? = some (some callback) then 1
        else 0) ≤ if s.steps.gStepCallbacks[thread]? = some (some callback) then 1 else 0 := by
      split
      · rename_i herased
        rw [if_pos (MapSums.getElem?_of_erase herased)]
      · exact Nat.zero_le _
    have hcaptured : ((s.steps.gInternalStepCallbacks.erase threadIndex).getD thread []).count
        (.userStep callback) ≤ (s.steps.gInternalStepCallbacks.getD thread []).count
          (.userStep callback) := by
      rw [Std.ExtTreeMap.getD_erase]
      split
      · exact Nat.zero_le _
      · exact le_rfl
    omega
  · intro hne
    have hthread : thread ≠ threadIndex := hne.symm
    rw [MapSums.getElem?_erase_of_ne hthread, Std.ExtTreeMap.getD_eq_getD_getElem?,
      MapSums.getElem?_erase_of_ne hthread, ← Std.ExtTreeMap.getD_eq_getD_getElem?]


theorem armInternalStep_story (env : Env) (threadIndex : ULONG) (thread : HANDLE)
    (actions : List StepAction) (s : Session) :
    (s.armInternalStep env threadIndex thread actions).story =
      if (s.setCFlags env thread 0).2 then
        { s with steps.gInternalStepCallbacks :=
            s.steps.gInternalStepCallbacks.insert threadIndex actions }.story
      else s.story := by
  unfold armInternalStep
  obtain ⟨suspends, e, hheld⟩ := suspendThreads_eq env (s.peerHandles threadIndex) s
  dsimp only
  rw [hheld]
  generalize hflags : setCFlags env thread _ _ = r
  have hsnd : r.2 = (s.setCFlags env thread 0).2 :=
    (congrArg Prod.snd hflags).symm.trans (setCFlags_snd env thread 0 _ rfl rfl rfl)
  obtain ⟨eflags, e', hset⟩ := setCFlags_eq env thread _ _
  rw [hflags] at hset
  obtain ⟨s', ok⟩ := r
  rw [← hsnd]
  subst hset
  cases ok with
  | true => rfl
  | false =>
    obtain ⟨resumes, e'', hresumed⟩ := resumeThreads_eq
      (s.steps.gInternalStepSuspendedThreads.getD threadIndex [] ++
        (s.suspendThreads env (s.peerHandles threadIndex)).2) _
    dsimp only
    rw [hresumed]
    rfl

theorem Trappable.setCFlags (h : s.Trappable env thread) (hpaused : s.gPaused = true) {handle : HANDLE}
    (hhandle : s.gDebugIdMap.threadIndexToHandle[thread]? = some handle) (value : ULONG_PTR) :
    (s.setCFlags env handle value).2 = true := by
  obtain ⟨handle', index, hnamed, hindex, hcontext⟩ := h.named
  have heq : handle' = handle := Option.some.inj (hnamed.symm.trans hhandle)
  subst heq
  have hlock : s.pauseLock = true := by
    unfold pauseLock
    rw [hpaused, h.debugging]
    rfl
  unfold Session.setCFlags
  rw [h.live, hlock, hindex, hcontext]
  rfl

/-- Taking a user step over leaves it out of the tables. -/
theorem pendingSteps_takeUserStep (thread : ULONG) (callback : Callback) (threadIndex : ULONG)
    (s : Session) :
    (s.takeUserStep threadIndex).1.pendingSteps thread callback +
      (if threadIndex = thread ∧ (s.takeUserStep threadIndex).2 = some callback then 1 else 0) =
        s.pendingSteps thread callback := by
  unfold takeUserStep
  split <;> rename_i htaken
  · unfold pendingSteps
    dsimp only
    by_cases hthread : threadIndex = thread
    · subst hthread
      rw [Std.ExtTreeMap.getElem?_erase_self, htaken]
      simp
      omega
    · rw [MapSums.getElem?_erase_of_ne (Ne.symm hthread)]
      simp [hthread]
  · simp

/-- An internal step that can be had waits for its end with the user step it has taken over. -/
theorem pendingSteps_armInternalStep {threadIndex : ULONG} {handle : HANDLE} {action : StepAction}
    {userStep : Option Callback} {ok : Bool} (hplain : ∀ callback, action ≠ .userStep callback)
    (hfree : s.steps.gInternalStepCallbacks[threadIndex]? = none)
    (hok : (s.setCFlags env handle 0).2 = ok) :
    (s.armInternalStep env threadIndex handle (stepActions action userStep)).pendingSteps thread callback =
      s.pendingSteps thread callback +
        if ok = true ∧ threadIndex = thread ∧ userStep = some callback then 1 else 0 := by
  have hstory := armInternalStep_story env threadIndex handle (stepActions action userStep) s
  rw [hok] at hstory
  cases ok with
  | false =>
    rw [if_neg (by simp)] at hstory
    rw [pendingSteps_of_story hstory]
    simp
  | true =>
    rw [if_pos rfl] at hstory
    rw [pendingSteps_of_story hstory]
    unfold pendingSteps
    dsimp only
    by_cases hthread : threadIndex = thread
    · subst hthread
      have hempty : s.steps.gInternalStepCallbacks.getD threadIndex [] = [] :=
        Std.ExtTreeMap.getD_eq_getD_getElem?.trans (congrArg (·.getD []) hfree)
      have hcount : (stepActions action userStep).count (.userStep callback) =
          if userStep = some callback then 1 else 0 := by
        unfold stepActions
        rw [List.count_cons]
        cases userStep with
        | none => simp [hplain]
        | some callback' => simp [hplain, List.count_singleton]
      rw [Std.ExtTreeMap.getD_insert_self, hempty, hcount]
      simp
      omega
    · rw [Std.ExtTreeMap.getD_eq_getD_getElem?, MapSums.getElem?_insert_of_ne (Ne.symm hthread),
        ← Std.ExtTreeMap.getD_eq_getD_getElem?]
      simp [hthread]

/-- An internal step takes the step of its thread over, which is lost where the internal step
cannot be had. -/
theorem pendingSteps_scheduleInternalStep (env : Env) (thread : ULONG) (callback : Callback)
    {action : StepAction} (hplain : ∀ callback, action ≠ .userStep callback) (s : Session) :
    (s.scheduleInternalStep env action).pendingSteps thread callback ≤ s.pendingSteps thread callback ∧
      (s.gPaused = true → (env.currentThreadId = some thread → s.Trappable env thread) →
        (s.scheduleInternalStep env action).pendingSteps thread callback =
          s.pendingSteps thread callback) := by
  unfold scheduleInternalStep
  cases hcurrent : env.currentThreadId with
  | none => exact ⟨le_rfl, fun _ _ => rfl⟩
  | some threadIndex =>
  dsimp only
  split
  · rename_i previous hprevious
    have hsame : ({ s with steps.gInternalStepCallbacks :=
        s.steps.gInternalStepCallbacks.insert threadIndex (previous ++ [action]) }).pendingSteps thread
          callback = s.pendingSteps thread callback := by
      unfold pendingSteps
      dsimp only
      rw [Std.ExtTreeMap.getD_eq_getD_getElem?, Std.ExtTreeMap.getD_eq_getD_getElem?]
      by_cases hthread : thread = threadIndex
      · subst hthread
        rw [Std.ExtTreeMap.getElem?_insert_self, hprevious, Option.getD_some, Option.getD_some,
          List.count_append, List.count_singleton]
        simp [hplain]
      · rw [MapSums.getElem?_insert_of_ne hthread]
    exact ⟨hsame.le, fun _ _ => hsame⟩
  rename_i hfree
  have hdropped := pendingSteps_takeUserStep thread callback threadIndex s
  obtain ⟨callbacks, ids, hsession⟩ := takeUserStep_eq threadIndex s
  generalize s.takeUserStep threadIndex = r at hdropped hsession ⊢
  obtain ⟨s₁, userStep⟩ := r
  dsimp only at hdropped hsession ⊢
  rw [← hdropped]
  split
  · rename_i hunknown
    refine ⟨Nat.le_add_right _ _, fun hpaused htrappable => ?_⟩
    have hother : threadIndex ≠ thread := by
      rintro rfl
      obtain ⟨handle, index, hnamed, -⟩ := (htrappable rfl).named
      rw [hsession] at hunknown
      exact absurd (hnamed.symm.trans hunknown) (by simp)
    rw [if_neg (fun h => hother h.1), Nat.add_zero]
  · rename_i handle hhandle
    have hfree₁ : s₁.steps.gInternalStepCallbacks[threadIndex]? = none := by
      rw [hsession]
      exact hfree
    rw [pendingSteps_armInternalStep hplain hfree₁ rfl]
    refine ⟨?_, fun hpaused htrappable => ?_⟩
    · split
      · rename_i h
        rw [if_pos h.2]
      · exact Nat.add_le_add_left (Nat.zero_le _) _
    · by_cases hthread : threadIndex = thread
      · subst hthread
        have hset : (s₁.setCFlags env handle 0).2 = true := by
          have htrappable₁ : s₁.Trappable env threadIndex := by
            rw [hsession]
            exact ⟨(htrappable rfl).live, (htrappable rfl).debugging, (htrappable rfl).named⟩
          refine htrappable₁.setCFlags ?_ hhandle 0
          rw [hsession]
          exact hpaused
        rw [hset]
        simp
      · simp [hthread]

theorem lostSteps_scheduleInternalStep (env : Env) (thread : ULONG) (callback : Callback)
    {action : StepAction} (hplain : ∀ callback, action ≠ .userStep callback) (s : Session) :
    s.lostSteps thread callback ≤ (s.scheduleInternalStep env action).lostSteps thread callback ∧
      (s.gPaused = true → (env.currentThreadId = some thread → s.Trappable env thread) →
        (s.scheduleInternalStep env action).lostSteps thread callback =
          s.lostSteps thread callback) := by
  have hpending := pendingSteps_scheduleInternalStep env thread callback hplain s
  obtain ⟨steps, suspends, resumes, eflags, e, heq⟩ := scheduleInternalStep_eq env action s
  have hlog : (s.scheduleInternalStep env action).log = s.log := by
    rw [heq]
  unfold lostSteps
  rw [hlog]
  refine ⟨by omega, fun hpaused htrappable => ?_⟩
  rw [hpending.2 hpaused htrappable]

end Session

end TitanEngine

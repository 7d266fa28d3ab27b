import TitanEngine.Guards.Traversal
import TitanEngine.Guards.Watching

/-! Whose trap flag the adapter has set: only that of a thread with an internal step pending. -/
namespace TitanEngine
open MapSums Relation

namespace Session

/-- A known thread has its own handle, and its trap flag is set only while an internal step of
it is pending. -/
structure Trapped (s : Session) : Prop where
  live : s.Live
  named : ∀ {t : ULONG} {handle : HANDLE}, s.gDebugIdMap.threadIndexToHandle[t]? = some handle →
    s.gDebugIdMap.threadHandleToIndex[handle]? = some t
  valid : ∀ {t : ULONG}, s.gDebugIdMap.threadIndexToHandle[t]? ≠ some 0
  pending : ∀ {t : ULONG} {handle : HANDLE}, s.gDebugIdMap.threadIndexToHandle[t]? = some handle →
    s.target.eflags t &&& TRAP_FLAG ≠ 0 → t ∈ s.steps.gInternalStepCallbacks

/-- The thread of an event has an index and a handle of its own, and starts without a trap flag. -/
structure Untrapped (env : Env) (handle : HANDLE) (s : Session) : Prop where
  freshIndex : env.currentThreadId.getD (BitVec.allOnes 32) ∉ s.gDebugIdMap.threadIndexToHandle
  freshHandle : ∀ {t : ULONG}, s.gDebugIdMap.threadIndexToHandle[t]? ≠ some handle
  valid : handle ≠ 0
  clear : s.target.eflags (env.currentThreadId.getD (BitVec.allOnes 32)) &&& TRAP_FLAG = 0

end Session

/-- The flags of each thread can be read and written, a new thread is one of its own, and the
target sets no trap flag itself. -/
def trapRules : Rules where
  call _ _ _ := True
  work env work s := (∀ handle, env.context handle = true) ∧
    match work with
    | .createThread handle => s.Untrapped env handle
    | .createProcess _ initialThread => s.Untrapped env initialThread
    | _ => True
  target s t := ∀ i, t.eflags i &&& TRAP_FLAG ≠ 0 → s.target.eflags i &&& TRAP_FLAG ≠ 0

namespace Session
variable {s s' : Session} {env : Env}

section Flags

theorem setCFlags_eflags {thread : HANDLE} {index : ULONG} (value : ULONG_PTR)
    (hindex : s.gDebugIdMap.threadHandleToIndex[thread]? = some index) :
    (s.setCFlags env thread value).1.target.eflags =
      if (s.setCFlags env thread value).2 then Function.update s.target.eflags index value
      else s.target.eflags := by
  unfold setCFlags
  rw [hindex]
  split
  · rfl
  split
  · rfl
  dsimp only
  split <;> rfl

/-- A live paused session can write the flags of a thread that it knows. -/
theorem setCFlags_live (hlive : s.Live) (hpaused : s.gPaused = true)
    (hcontext : ∀ handle, env.context handle = true) {thread : HANDLE} {index : ULONG} (value : ULONG_PTR)
    (hindex : s.gDebugIdMap.threadHandleToIndex[thread]? = some index) :
    (s.setCFlags env thread value).1 =
      { s with target.eflags := Function.update s.target.eflags index value } := by
  have hlock : s.pauseLock = true := by
    unfold pauseLock
    rw [hpaused, hlive.debugging]
    rfl
  unfold setCFlags
  rw [hlive.kind, hlock, hindex, hcontext thread]
  rfl

/-- Holding the peers of a thread changes nobody's flags; its own trap flag is set with its step. -/
theorem armInternalStep_eflags (env : Env) (threadIndex : ULONG) {thread : HANDLE} {index : ULONG}
    (actions : List StepAction) (hindex : s.gDebugIdMap.threadHandleToIndex[thread]? = some index) :
    ∃ flags, (s.armInternalStep env threadIndex thread actions).target.eflags =
      if (s.setCFlags env thread 0).2 then Function.update s.target.eflags index (flags ||| TRAP_FLAG)
      else s.target.eflags := by
  unfold armInternalStep
  obtain ⟨suspends, e, hheld⟩ := suspendThreads_eq env (s.peerHandles threadIndex) s
  dsimp only
  rw [hheld]
  generalize getCFlags env thread _ = flags
  refine ⟨flags, ?_⟩
  generalize hflags : setCFlags env thread (flags ||| TRAP_FLAG) _ = r
  have hsnd : r.2 = (s.setCFlags env thread 0).2 :=
    (congrArg Prod.snd hflags).symm.trans (setCFlags_snd env thread 0 _ rfl rfl rfl)
  have heflags : r.1.target.eflags =
      if r.2 then Function.update s.target.eflags index (flags ||| TRAP_FLAG)
      else s.target.eflags := by
    rw [← hflags]
    exact setCFlags_eflags _ hindex
  obtain ⟨s', ok⟩ := r
  rw [← hsnd]
  cases ok with
  | true => exact heflags
  | false =>
    obtain ⟨resumes, e'', hresumed⟩ := resumeThreads_eq
      (s.steps.gInternalStepSuspendedThreads.getD threadIndex [] ++
        (s.suspendThreads env (s.peerHandles threadIndex)).2) s'
    dsimp only
    rw [hresumed]
    exact heflags

theorem setting_applyExecutionStatus (env : Env) (s : Session) :
    (s.applyExecutionStatus env).1.setting = s.setting := by
  unfold applyExecutionStatus
  dsimp only
  repeat' split
  all_goals rfl

theorem clear_and_trap (value : ULONG_PTR) : value &&& ~~~TRAP_FLAG &&& TRAP_FLAG = 0 := by
  rw [BitVec.and_assoc, BitVec.not_and_self]
  exact BitVec.and_zero

end Flags

namespace Trapped

/-- Nothing but the threads, their steps and their flags matters. -/
theorem of_parts (h : s.Trapped) (hmode : s'.mode = s.mode) (hidMap : s'.gDebugIdMap = s.gDebugIdMap)
    (heflags : s'.target.eflags = s.target.eflags)
    (hcallbacks : s'.steps.gInternalStepCallbacks = s.steps.gInternalStepCallbacks) : s'.Trapped := by
  constructor
  · exact hmode.trans h.live
  · rw [hidMap]
    exact h.named
  · rw [hidMap]
    exact h.valid
  · rw [hidMap, heflags, hcallbacks]
    exact h.pending

theorem of_setting (h : s.Trapped) (hsetting : s'.setting = s.setting) : s'.Trapped :=
  h.of_parts (congrArg (fun x => x.1) hsetting) (congrArg (fun x => x.2.2.2.1) hsetting)
    (congrArg (fun x => x.2.1.2.2) hsetting) (congrArg (fun x => x.2.2.2.2.1) hsetting)

/-- The flag that is set for an internal step comes with the step. -/
theorem arm (h : s.Trapped) (env : Env) {threadIndex : ULONG} {thread : HANDLE}
    (hthread : s.gDebugIdMap.threadIndexToHandle[threadIndex]? = some thread)
    (actions : List StepAction) : (s.armInternalStep env threadIndex thread actions).Trapped := by
  obtain ⟨flags, heflags⟩ := armInternalStep_eflags env threadIndex actions (h.named hthread)
  have hcallbacks := armInternalStep_callbacks env threadIndex thread actions s
  obtain ⟨steps, suspends, resumes, eflags, e, heq⟩ := armInternalStep_eq env threadIndex thread actions s
  rw [heq] at heflags hcallbacks ⊢
  refine ⟨h.live, h.named, h.valid, fun {t handle} hhandle hflag => ?_⟩
  change eflags = _ at heflags
  change steps.gInternalStepCallbacks = _ at hcallbacks
  change eflags t &&& TRAP_FLAG ≠ 0 at hflag
  show t ∈ steps.gInternalStepCallbacks
  rw [heflags] at hflag
  rw [hcallbacks]
  split at hflag
  · rw [if_pos (by assumption), Std.ExtTreeMap.mem_insert]
    by_cases he : t = threadIndex
    · exact .inl (by rw [he]; simp)
    · rw [Function.update_of_ne he] at hflag
      exact .inr (h.pending hhandle hflag)
  · rw [if_neg (by assumption)]
    exact h.pending hhandle hflag

theorem schedule (h : s.Trapped) (env : Env) (action : StepAction) :
    (s.scheduleInternalStep env action).Trapped := by
  unfold scheduleInternalStep
  split
  · exact h
  rename_i threadIndex _
  split
  · rename_i previous hprevious
    refine ⟨h.live, h.named, h.valid, fun hhandle hflag => ?_⟩
    exact Std.ExtTreeMap.mem_insert.mpr (.inr (h.pending hhandle hflag))
  · obtain ⟨callbacks, ids, htaken⟩ := takeUserStep_eq threadIndex s
    have htaken' : (s.takeUserStep threadIndex).1.Trapped := by
      rw [htaken]
      exact h.of_parts rfl rfl rfl rfl
    dsimp only
    split
    · exact htaken'
    · rename_i thread hthread
      exact htaken'.arm env hthread _

/-- The end of an internal step takes back the flag that was set for it. -/
theorem complete (h : s.Trapped) (hpaused : s.gPaused = true) (hcontext : ∀ handle, env.context handle = true)
    {k : Client} {rules : Rules} (hk : k.Follows rules) {threadIndex : ULONG}
    (hstep : s.completeInternalStep k env threadIndex = some s') : s'.Trapped := by
  unfold completeInternalStep at hstep
  split at hstep
  · cases hstep
  rename_i actions _
  cases hstep
  have hforgotten : ((s.clearTrapFlag env threadIndex).forgetInternalStep threadIndex).Trapped := by
    unfold clearTrapFlag
    split
    · rename_i thread hthread
      rw [setCFlags_live h.live hpaused hcontext _ (h.named hthread)]
      refine ⟨h.live, h.named, h.valid, fun {t handle} hhandle hflag => ?_⟩
      have hgot : s.getCFlags env thread = s.target.eflags threadIndex := by
        unfold getCFlags
        rw [h.named hthread]
        exact if_pos (hcontext thread)
      by_cases he : t = threadIndex
      · subst he
        change Function.update s.target.eflags t _ t &&& TRAP_FLAG ≠ 0 at hflag
        rw [Function.update_self] at hflag
        exact absurd (clear_and_trap _) hflag
      · change Function.update s.target.eflags threadIndex _ t &&& TRAP_FLAG ≠ 0 at hflag
        rw [Function.update_of_ne he] at hflag
        exact mem_erase_iff.mpr ⟨he, h.pending hhandle hflag⟩
    · rename_i hnone
      refine ⟨h.live, h.named, h.valid, fun {t handle} hhandle hflag => ?_⟩
      have he : t ≠ threadIndex := by
        rintro rfl
        cases hnone.symm.trans hhandle
      exact mem_erase_iff.mpr ⟨he, h.pending hhandle hflag⟩
  have hrun := hforgotten.of_setting (setting_of_roster (roster_runActions hk env threadIndex actions _))
  obtain ⟨resumes, e, hreleased⟩ := releaseThreads_eq threadIndex
    (((s.clearTrapFlag env threadIndex).forgetInternalStep threadIndex).runActions k env threadIndex actions)
  rw [hreleased]
  exact hrun.of_parts rfl rfl rfl rfl

/-- A new thread comes under its own index and handle, without a flag. -/
theorem remembered (h : s.Trapped) {handle : HANDLE} (hnew : s.Untrapped env handle) :
    (s.rememberThread handle (env.currentThreadId.getD (BitVec.allOnes 32))).Trapped := by
  obtain ⟨hindex, hhandle, hvalid, hclear⟩ := hnew
  generalize env.currentThreadId.getD (BitVec.allOnes 32) = new at hindex hclear ⊢
  refine ⟨h.live, fun {t other} hother => ?_, fun {t} hzero => ?_, fun {t other} hother hflag => ?_⟩
  · change (s.gDebugIdMap.threadIndexToHandle.insert new handle)[t]? = some other at hother
    show (s.gDebugIdMap.threadHandleToIndex.insert handle new)[other]? = some t
    by_cases he : t = new
    · subst he
      rw [Std.ExtTreeMap.getElem?_insert_self] at hother
      cases hother
      exact Std.ExtTreeMap.getElem?_insert_self
    · rw [getElem?_insert_of_ne he] at hother
      have hne : other ≠ handle := by
        rintro rfl
        exact hhandle hother
      rw [getElem?_insert_of_ne hne]
      exact h.named hother
  · change (s.gDebugIdMap.threadIndexToHandle.insert new handle)[t]? = some 0 at hzero
    by_cases he : t = new
    · subst he
      rw [Std.ExtTreeMap.getElem?_insert_self] at hzero
      exact hvalid (Option.some.inj hzero)
    · rw [getElem?_insert_of_ne he] at hzero
      exact h.valid hzero
  · change (s.gDebugIdMap.threadIndexToHandle.insert new handle)[t]? = some other at hother
    by_cases he : t = new
    · subst he
      exact absurd hclear hflag
    · rw [getElem?_insert_of_ne he] at hother
      exact h.pending hother hflag

theorem registered (h : s.Trapped) (handle : HANDLE) (type : TitanHandleType) (dbgengId systemId : ULONG)
    (callerOwned : Bool) : (s.registerTitanHandle handle type dbgengId systemId callerOwned).Trapped := by
  unfold registerTitanHandle
  split
  · exact h
  · exact h.of_parts rfl rfl rfl rfl

theorem enterThread (h : s.Trapped) {handle : HANDLE} (hnew : s.Untrapped env handle) :
    (s.enterThread env handle).Trapped :=
  (h.remembered hnew).registered ..

theorem enterProcess (h : s.Trapped) {handle initialThread : HANDLE} (hnew : s.Untrapped env initialThread) :
    (s.enterProcess env handle initialThread).Trapped := by
  unfold Session.enterProcess
  rw [if_neg (by rw [h.live.kind]; decide), if_pos h.live.kind]
  have hprocess : ((s.rememberProcess handle (env.currentProcessId.getD (BitVec.allOnes 32))).registerTitanHandle
      handle .process (env.currentProcessId.getD (BitVec.allOnes 32)) (debugProcessId env) false).Trapped := by
    refine registered ?_ ..
    exact ⟨h.live, h.named, h.valid, h.pending⟩
  refine hprocess.enterThread ?_
  obtain ⟨hindex, hhandle, hvalid, hclear⟩ := hnew
  unfold registerTitanHandle
  split <;> exact ⟨hindex, hhandle, hvalid, hclear⟩

/-- An exited thread is known no more. -/
theorem forgetThread (h : s.Trapped) (threadIndex : ULONG) :
    (s.forgetThread threadIndex s.gDebugIdMap.threadIndexToHandle[threadIndex]?).Trapped := by
  unfold Session.forgetThread
  cases hhandle : s.gDebugIdMap.threadIndexToHandle[threadIndex]? with
  | none =>
    refine ⟨h.live, h.named, h.valid, fun {t other} hother hflag => ?_⟩
    have he : t ≠ threadIndex := by
      rintro rfl
      cases hhandle.symm.trans hother
    exact mem_erase_iff.mpr ⟨he, h.pending hother hflag⟩
  | some handle =>
    dsimp only
    rw [if_neg fun hzero => h.valid (hzero ▸ hhandle)]
    refine ⟨h.live, fun {t other} hother => ?_, fun {t} hzero => ?_, fun {t other} hother hflag => ?_⟩
    · change (s.gDebugIdMap.threadIndexToHandle.erase threadIndex)[t]? = some other at hother
      show (s.gDebugIdMap.threadHandleToIndex.erase handle)[other]? = some t
      have hother' := getElem?_of_erase hother
      have hne : other ≠ handle := by
        rintro rfl
        have hsame := (h.named hhandle).symm.trans (h.named hother')
        cases hsame
        rw [Std.ExtTreeMap.getElem?_erase_self] at hother
        cases hother
      rw [getElem?_erase_of_ne hne]
      exact h.named hother'
    · exact h.valid (getElem?_of_erase hzero)
    · change (s.gDebugIdMap.threadIndexToHandle.erase threadIndex)[t]? = some other at hother
      have he : t ≠ threadIndex := by
        rintro rfl
        rw [Std.ExtTreeMap.getElem?_erase_self] at hother
        cases hother
      exact mem_erase_iff.mpr ⟨he, h.pending (getElem?_of_erase hother) hflag⟩

theorem forgetProcess (h : s.Trapped) (processIndex : ULONG) (processHandle : Option HANDLE) :
    (s.forgetProcess processIndex processHandle).Trapped := by
  unfold Session.forgetProcess
  split
  · split
    · exact h
    · exact ⟨h.live, h.named, h.valid, h.pending⟩
  · exact h

end Trapped

end Session

theorem trapRules_queueBlind : trapRules.QueueBlind := by
  intro env work s rest h
  cases work with
  | createThread handle =>
    obtain ⟨hcontext, hindex, hhandle, hvalid, hclear⟩ := h
    exact ⟨hcontext, hindex, hhandle, hvalid, hclear⟩
  | createProcess handle initialThread =>
    obtain ⟨hcontext, hindex, hhandle, hvalid, hclear⟩ := h
    exact ⟨hcontext, hindex, hhandle, hvalid, hclear⟩
  | _ => exact h

/-- Everything that a paused session does keeps the flags with their steps. -/
theorem closed_trapped : WatchClosed trapRules fun s s' =>
    s'.turn = s.turn ∧ (s.gPaused = true → s.Trapped → s'.Trapped) where
  trans {a b c} hab hbc := by
    refine ⟨hbc.1.trans hab.1, fun hpaused h => hbc.2 ?_ (hab.2 hpaused h)⟩
    exact (congrArg (fun x => x.1) hab.1).trans hpaused
  same h := ⟨(Session.closed_turn trapRules).same h, fun _ ht => ht.of_setting (congrArg Prod.fst h)⟩
  call hallowed hwatches := ⟨(Session.closed_turn trapRules).call hallowed hwatches,
    fun _ ht => ht.of_setting (Session.setting_of_roster (Session.roster_call ..))⟩
  lose id hallowed henters hs := ⟨(Session.closed_turn trapRules).lose id hallowed henters hs,
    fun _ ht => ht.of_setting (Session.setting_of_roster (Session.roster_of_core (Session.core_removeMemoryBreakpointById ..)))⟩
  expose page hallowed hs haccess hwatched := by
    refine ⟨(Session.closed_turn trapRules).expose page hallowed hs haccess hwatched, fun _ ht => ?_⟩
    obtain ⟨s₁, hcore, he | he⟩ := Session.core_rearmWatchedPage _ page _ <;> rw [he]
    · exact ht.of_setting (Session.setting_of_roster (Session.roster_of_core hcore))
    · exact (ht.of_setting (Session.setting_of_roster (Session.roster_of_core hcore))).schedule _ _
  schedule id hallowed hs := ⟨(Session.closed_turn trapRules).schedule id hallowed hs,
    fun _ ht => ht.schedule _ _⟩
  complete hk hallowed hcompletes hs hstep :=
    ⟨(Session.closed_turn trapRules).complete hk hallowed hcompletes hs hstep,
      fun hpaused ht => ht.complete hpaused hallowed.1 hk hstep⟩
  enterThread hallowed := ⟨(Session.closed_turn trapRules).enterThread hallowed,
    fun _ ht => ht.enterThread hallowed.2⟩
  enterProcess hallowed := ⟨(Session.closed_turn trapRules).enterProcess hallowed,
    fun _ ht => ht.enterProcess hallowed.2⟩
  forgetThread {env code s s'} hallowed hs := by
    refine ⟨(Session.closed_turn trapRules).forgetThread hallowed hs, fun _ ht => ?_⟩
    have hidMap : s'.gDebugIdMap = s.gDebugIdMap := congrArg (fun x => x.2.2.2.1) hs
    rw [← hidMap]
    exact ht.forgetThread _
  forgetProcess hallowed hs := ⟨(Session.closed_turn trapRules).forgetProcess hallowed hs,
    fun _ ht => ht.forgetProcess _ _⟩

theorem Session.Trapped.stop {s : Session} (h : s.Trapped) (env : Env) (events : List (Env × Work)) :
    (s.stop env events).Trapped := by
  refine of_parts (s := { s with gCallbackQueue := events }) ⟨h.live, h.named, h.valid, h.pending⟩ ?_ ?_ ?_ ?_
  all_goals
    unfold Session.stop recogniseStop
    repeat' split
    all_goals rfl

/-- One step of a session keeps the flags with their steps. -/
theorem Session.Trapped.step {s s' : Session} (h : s.Trapped) (hstep : SessionStep trapRules s s') :
    s'.Trapped := by
  cases hstep with
  | call step =>
    obtain ⟨allowed⟩ := step
    exact h.of_setting (setting_of_roster (Session.roster_call ..))
  | target allowed => exact ⟨h.live, h.named, h.valid, fun hhandle hflag => h.pending hhandle (allowed _ hflag)⟩
  | @stop env events running => exact h.stop env events
  | @work k env work rest follows paused queued allowed done =>
    have hpop : (s.dequeue rest).Trapped := ⟨h.live, h.named, h.valid, h.pending⟩
    exact (closed_trapped.work follows (trapRules_queueBlind env work s rest allowed)).2 paused hpop
  | @failed k env env' work rest follows paused queued allowed failed =>
    have hpop : (s.dequeue rest).Trapped := ⟨h.live, h.named, h.valid, h.pending⟩
    have hdone := (closed_trapped.work follows (trapRules_queueBlind env work s rest allowed)).2 paused hpop
    exact hdone.of_setting (setting_applyExecutionStatus ..)
  | @resume env paused drained =>
    have happlied := h.of_setting (setting_applyExecutionStatus env s)
    exact happlied.of_parts rfl rfl rfl rfl

end TitanEngine

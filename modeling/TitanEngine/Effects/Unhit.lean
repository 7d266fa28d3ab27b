import TitanEngine.Effects.Dispatch
import TitanEngine.Effects.Steps
import TitanEngine.Model.Causes

/-! What moves no thread and reports no hit. -/
namespace TitanEngine
open Relation

/-- From `s` to `s'` no thread moves, and `s'.log` has no hits that `s.log` has not. -/
structure Unhit (s s' : Session) : Prop where
  ip : s'.target.ip = s.target.ip
  log : ∃ added, s'.log = added ++ s.log ∧ ∀ thread address, .hit thread address ∉ added

namespace Unhit
variable {k : Client} {rules : Rules} {env : Env} {s s' s'' : Session}

theorem quiet (hip : s'.target.ip = s.target.ip) (hlog : s'.log = s.log) : Unhit s s' :=
  ⟨hip, [], hlog, fun _ _ => List.not_mem_nil⟩

theorem refl (s : Session) : Unhit s s := quiet rfl rfl

theorem note {entry : Entry} (hip : s'.target.ip = s.target.ip) (hlog : s'.log = entry :: s.log)
    (hentry : ∀ thread address, entry ≠ .hit thread address) : Unhit s s' := by
  refine ⟨hip, [entry], hlog, fun thread address hmem => ?_⟩
  exact hentry thread address (List.mem_singleton.mp hmem).symm

theorem trans (h : Unhit s s') (h' : Unhit s' s'') : Unhit s s'' := by
  obtain ⟨added, hlog, hnone⟩ := h.log
  obtain ⟨added', hlog', hnone'⟩ := h'.log
  refine ⟨h'.ip.trans h.ip, added' ++ added, ?_, fun thread address hmem => ?_⟩
  · rw [hlog', hlog, List.append_assoc]
  · obtain hmem | hmem := List.mem_append.mp hmem
    · exact hnone' thread address hmem
    · exact hnone thread address hmem

theorem of_frame (h : s'.frame = s.frame) : Unhit s s' :=
  quiet (Session.frame_field_eq (fun s => s.target.ip) (fun _ => rfl) h) (Session.frame_log h)

theorem of_core (h : s'.core = s.core) : Unhit s s' := of_frame (Session.frame_of_core h)

theorem debugStep (env : Env) (kind : StepKind) (callback : Option Callback) (s : Session) :
    Unhit s (s.debugStep env kind callback) := by
  obtain heq | ⟨thread, -, -, -, heq⟩ := Session.debugStep_outcome env kind callback s
  · rw [heq]
    exact refl s
  · rw [heq]
    exact note rfl rfl (fun _ _ h => nomatch h)

theorem callStep (h : CallStep rules s s') : Unhit s s' := by
  obtain @⟨env, call, _, -⟩ := h
  cases hsteps : call.steps with
  | false => exact of_frame (Session.frame_call env hsteps s)
  | true =>
    cases call with
    | stepInto callback => exact debugStep env .into callback s
    | stepOver callback => exact debugStep env .over callback s
    | _ => cases hsteps

theorem run {step : Session → Session → Prop} (hstep : ∀ ⦃a b⦄, step a b → Unhit a b)
    (h : ReflTransGen step s s') : Unhit s s' := by
  induction h with
  | refl => exact refl s
  | tail _ hlast ih => exact ih.trans (hstep hlast)

theorem finishDebugEvent (u : Bool) (s : Session) : Unhit s (s.finishDebugEvent u) := by
  unfold Session.finishDebugEvent
  split
  · exact quiet rfl rfl
  · exact refl s

theorem scheduleInternalStep (env : Env) (action : StepAction) (s : Session) :
    Unhit s (s.scheduleInternalStep env action) := by
  obtain ⟨steps, suspends, resumes, eflags, e, heq⟩ := Session.scheduleInternalStep_eq env action s
  rw [heq]
  exact quiet rfl rfl

theorem applyExecutionStatus (env : Env) (s : Session) : Unhit s (s.applyExecutionStatus env).1 := by
  unfold Session.applyExecutionStatus
  dsimp only
  split
  · exact quiet rfl rfl
  split
  · exact quiet rfl rfl
  split
  · exact note rfl rfl (fun _ _ h => nomatch h)
  · exact quiet rfl rfl

theorem stop (env : Env) (events : List (Env × Work)) (s : Session) : Unhit s (s.stop env events) := by
  unfold Session.stop Session.recogniseStop
  repeat' split
  all_goals exact quiet rfl rfl

theorem enterThread (env : Env) (handle : HANDLE) (s : Session) : Unhit s (s.enterThread env handle) := by
  unfold Session.enterThread Session.registerTitanHandle
  dsimp only
  split <;> exact quiet rfl rfl

theorem enterProcess (env : Env) (handle initialThread : HANDLE) (s : Session) :
    Unhit s (s.enterProcess env handle initialThread) := by
  have hregistered : ∀ (type : TitanHandleType) (i j : ULONG) (s : Session),
      Unhit s (s.registerTitanHandle handle type i j false) := by
    intro type i j s
    unfold Session.registerTitanHandle
    split <;> exact quiet rfl rfl
  have hremembered : ∀ i, Unhit s (s.rememberProcess handle i) := fun _ => quiet rfl rfl
  unfold Session.enterProcess
  dsimp only
  split
  · exact refl s
  split
  · exact (hremembered _).trans ((hregistered _ _ _ _).trans (enterThread ..))
  · exact quiet rfl rfl

theorem forgetThread (threadIndex : ULONG) (handle : Option HANDLE) (s : Session) :
    Unhit s (s.forgetThread threadIndex handle) := by
  have hexited : ∀ thread address, Entry.exited threadIndex ≠ .hit thread address :=
    fun _ _ h => nomatch h
  unfold Session.forgetThread
  cases handle with
  | none => exact note rfl rfl hexited
  | some handle =>
    dsimp only
    split <;> exact note rfl rfl hexited

theorem forgetProcess (processIndex : ULONG) (handle : Option HANDLE) (s : Session) :
    Unhit s (s.forgetProcess processIndex handle) := by
  unfold Session.forgetProcess
  repeat' split
  all_goals exact quiet rfl rfl

theorem expireOneShot (id : ULONG) (bpInfo : BreakpointInfo) (s : Session) :
    Unhit s (s.expireOneShot id bpInfo) := by
  unfold Session.expireOneShot
  repeat' split
  all_goals exact quiet rfl rfl

end Unhit

end TitanEngine

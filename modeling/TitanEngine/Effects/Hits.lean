import TitanEngine.Effects.Traversal

/-! The report of a hit, which moves one thread and is noted down first. All else that a session
does moves no thread and reports no hit. -/
namespace TitanEngine
open Relation

namespace Unhit
variable {k : Client} {rules : Rules} {env : Env} {s s' : Session}

theorem closed (rules : Rules) : UnhitClosed rules Unhit where
  refl := refl
  trans := trans
  core := of_core
  image _ h := h
  call {env call s} allowed := by
    have hcall : CallStep rules s (call.run env s).1 := .call allowed
    exact callStep hcall
  place _ _ _ _ _ := of_frame (Session.frame_writeNativeBreakpointBytes ..)
  expire _ _ := expireOneShot ..
  stop env events s := stop env events s
  resume env s := (applyExecutionStatus env s).trans (quiet rfl rfl)

theorem effects (hk : k.Follows rules) (env : Env) (h : Effects k env s s') : Unhit s s' :=
  (closed rules).effects hk env h

/-- Work on anything but a breakpoint exception reports no hit. -/
theorem work (hk : k.Follows rules) {work : Work} (hallowed : rules.work env work s)
    (h : otherWork.work env work s) : Unhit s (work.run k env s).1 := by
  refine (closed rules).work hk (fun info hinfo => ?_) hallowed
  subst hinfo
  obtain hunhit | ⟨hcode, -⟩ := (closed rules).exceptionEvent hk hallowed
  · exact hunhit
  · obtain ⟨hbreakpoint, hillegal⟩ := h info rfl
    exact absurd hcode (by simp [hbreakpoint, hillegal])

end Unhit

/-- From `s` to `s'` one hit is reported, of a thread that is moved to the address of it. -/
structure Struck (thread : ULONG) (address : ULONG64) (s s' : Session) : Prop where
  ip : s'.target.ip = Function.update s.target.ip thread address
  log : ∃ added, s'.log = added ++ .hit (some thread) address :: s.log ∧
    ∀ thread address, .hit thread address ∉ added

namespace Struck
variable {k : Client} {rules : Rules} {env : Env} {thread : ULONG} {address : ULONG64}
  {s s' s'' : Session}

theorem after (h : Unhit s s') (h' : Struck thread address s' s'') (hlog : s'.log = s.log) :
    Struck thread address s s'' := by
  obtain ⟨added, hadded, hnone⟩ := h'.log
  refine ⟨?_, added, ?_, hnone⟩
  · rw [h'.ip, h.ip]
  · rw [hadded, hlog]

theorem before (h : Struck thread address s s') (h' : Unhit s' s'') : Struck thread address s s'' := by
  obtain ⟨added, hlog, hnone⟩ := h.log
  obtain ⟨added', hlog', hnone'⟩ := h'.log
  refine ⟨h'.ip.trans h.ip, added' ++ added, ?_, fun thread address hmem => ?_⟩
  · rw [hlog', hlog, List.append_assoc]
  · obtain hmem | hmem := List.mem_append.mp hmem
    · exact hnone' thread address hmem
    · exact hnone thread address hmem

theorem enterNativeHit (hcurrent : env.currentThreadId = some thread) (id : ULONG)
    (bpInfo : BreakpointInfo) (s : Session) :
    Struck thread bpInfo.offset s (s.enterNativeHit env id bpInfo) := by
  have hrewound : s.setCurrentInstructionPointer env bpInfo.offset =
      { s with target.ip := Function.update s.target.ip thread bpInfo.offset } := by
    unfold Session.setCurrentInstructionPointer
    rw [hcurrent]
  have hdisguised := Session.frame_of_core (Session.core_disguiseHit bpInfo
    (s.setCurrentInstructionPointer env bpInfo.offset))
  have hconsumed : ∀ s : Session, (s.consumeOneShot id bpInfo).frame = s.frame := by
    intro s
    unfold Session.consumeOneShot
    split <;> rfl
  have hframe := (hconsumed _).trans hdisguised
  constructor
  · have hip := Session.frame_field_eq (fun s => s.target.ip) (fun _ => rfl) hframe
    rw [hrewound] at hip
    unfold Session.enterNativeHit
    rw [hrewound]
    exact hip
  · have hlog := Session.frame_log hframe
    rw [hrewound] at hlog
    refine ⟨[], ?_, fun _ _ => List.not_mem_nil⟩
    unfold Session.enterNativeHit
    rw [hcurrent, hrewound]
    exact congrArg (.hit (some thread) bpInfo.offset :: ·) hlog

/-- A hit is reported where the patch can be taken out of the target. -/
theorem nativeBreakpointHit (hk : k.Follows rules) (hcurrent : env.currentThreadId = some thread)
    (id : ULONG) (bpInfo : BreakpointInfo) (s : Session) :
    Unhit s (s.nativeBreakpointHit k env id bpInfo).1 ∨
      Struck thread bpInfo.offset s (s.nativeBreakpointHit k env id bpInfo).1 := by
  have hframe := Session.frame_writeNativeBreakpointBytes env bpInfo false s
  unfold Session.nativeBreakpointHit
  split <;> rename_i lifted hwrite <;> rw [hwrite] at hframe
  · exact .inl (.of_frame hframe)
  · have hstruck := after (.of_frame hframe) (enterNativeHit hcurrent id bpInfo lifted)
      (Session.frame_log hframe)
    have hreported : Effects k env (lifted.enterNativeHit env id bpInfo)
        (lifted.reportNativeHit k env id bpInfo) :=
      (Effects.beginDebugEvent _ _).trans (Effects.callBreakpoint _ _)
    have hrearmed : ∀ s : Session, Unhit s (s.rearmNative env id bpInfo) := by
      intro s
      unfold Session.rearmNative
      split
      · exact .scheduleInternalStep env _ s
      · exact .refl s
    exact .inr (((hstruck.before (.effects hk env hreported)).before (hrearmed _)).before
      (.finishDebugEvent false _))

/-- The work of an exception reports at most one hit. -/
theorem exceptionEvent (hk : k.Follows rules) (hcurrent : env.currentThreadId = some thread)
    {info : EXCEPTION_DEBUG_INFO} {s : Session} (hallowed : rules.work env (.exception info) s) :
    Unhit s (s.exceptionEvent k env info).1 ∨
      ∃ address, Struck thread address s (s.exceptionEvent k env info).1 := by
  obtain hunhit | ⟨-, id, bpInfo, -, heq⟩ := (Unhit.closed rules).exceptionEvent hk hallowed
  · exact .inl hunhit
  · have hfake : Unhit s (s.setFakeDebugEvent env (.exception info)) := .quiet rfl rfl
    rw [heq]
    obtain hunhit | hstruck := nativeBreakpointHit hk hcurrent id bpInfo
      (s.setFakeDebugEvent env (.exception info))
    · exact .inl (hfake.trans hunhit)
    · exact .inr ⟨bpInfo.offset, after hfake hstruck rfl⟩

end Struck

end TitanEngine

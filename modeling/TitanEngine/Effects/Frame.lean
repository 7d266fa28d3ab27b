import TitanEngine.Effects.Image

/-! What calls of exported functions leave alone: all calls the threads, the handles and
the internal steps of the session, and all but the two that request a step its log and
the user steps too. -/
namespace TitanEngine
open Relation

namespace Session
variable {s s' : Session}

/-- The session without its breakpoints and without a requested pause. -/
def frame (s : Session) : Session :=
  { s.core with gPauseCallback := none, bps := {}, target := { s.core.target with memory := fun _ => 0 } }

/-- The frame, and the memory breakpoints that it leaves out. -/
def outline (s : Session) : Session × Watch := (s.frame, s.watch)

/-- The frame without the user steps, the status they ask for, and the log. -/
def roster (s : Session) : Session :=
  { s.frame with
    gNextExecutionStatus := .noChange
    steps := { s.steps with gStepCallbacks := ∅, gStepThreadSystemIds := ∅, gStepStatuses := ∅ }
    log := [] }

theorem frame_of_core (h : s'.core = s.core) : s'.frame = s.frame :=
  field_eq frame (fun _ => rfl) h

/-- Sessions with the same frame agree on everything that it does not blank. -/
theorem frame_field_eq {α : Type*} (f : Session → α) (hf : ∀ s : Session, f s.frame = f s)
    (h : s'.frame = s.frame) : f s' = f s := by
  rw [← hf s', h, hf]

theorem frame_status (h : s'.frame = s.frame) : s'.gNextExecutionStatus = s.gNextExecutionStatus :=
  frame_field_eq (fun s => s.gNextExecutionStatus) (fun _ => rfl) h

theorem frame_log (h : s'.frame = s.frame) : s'.log = s.log :=
  frame_field_eq (fun s => s.log) (fun _ => rfl) h

theorem roster_of_frame (h : s'.frame = s.frame) : s'.roster = s.roster :=
  frame_field_eq roster (fun _ => rfl) h

theorem roster_of_core (h : s'.core = s.core) : s'.roster = s.roster :=
  roster_of_frame (frame_of_core h)

theorem roster_field_eq {α : Type*} (f : Session → α) (hf : ∀ s : Session, f s.roster = f s)
    (h : s'.roster = s.roster) : f s' = f s := by
  rw [← hf s', h, hf]

theorem roster_mode (h : s'.roster = s.roster) : s'.mode = s.mode :=
  roster_field_eq mode (fun _ => rfl) h

theorem roster_paused (h : s'.roster = s.roster) : s'.gPaused = s.gPaused :=
  roster_field_eq (fun s => s.gPaused) (fun _ => rfl) h

@[simp] theorem frame_withBytes (info : BreakpointInfo) (install : Bool) (s : Session) :
    (s.withBytes info install).frame = s.frame := rfl

@[simp] theorem frame_writeNativeBreakpointBytes (env : Env) (info : BreakpointInfo) (install : Bool)
    (s : Session) : (s.writeNativeBreakpointBytes env info install).1.frame = s.frame := by
  obtain h | ⟨-, ⟨h, -⟩ | h⟩ := writeNativeBreakpointBytes_outcome env info install s
  · rw [h]
    rfl
  · exact (frame_of_core h).trans (frame_withBytes info install s)
  · exact frame_of_core h

theorem watch_writeNativeBreakpointBytes (env : Env) (info : BreakpointInfo) (install : Bool)
    (s : Session) : (s.writeNativeBreakpointBytes env info install).1.watch = s.watch := by
  have hmemory : ∀ bytes, (s.writeProcessMemory env info.offset bytes).1.watch = s.watch := by
    intro bytes
    unfold writeProcessMemory
    split <;> rfl
  unfold writeNativeBreakpointBytes
  split
  · rfl
  · have hwrite := hmemory (if install then info.patch else info.originals)
    split <;> rename_i heq <;> rw [heq] at hwrite
    · split <;> exact hwrite
    · exact hwrite

@[simp] theorem outline_writeNativeBreakpointBytes (env : Env) (info : BreakpointInfo) (install : Bool)
    (s : Session) : (s.writeNativeBreakpointBytes env info install).1.outline = s.outline :=
  Prod.ext (frame_writeNativeBreakpointBytes ..) (watch_writeNativeBreakpointBytes ..)

theorem outline_addMemoryWatchpoint (env : Env) (data : MemoryWatchpointData) (s : Session) :
    (s.addMemoryWatchpoint env data).1.outline = s.outline := by
  unfold addMemoryWatchpoint
  split
  · split <;> rfl
  · rfl

theorem outline_removeMemoryWatchpoint (env : Env) (data : MemoryWatchpointData) (s : Session) :
    (s.removeMemoryWatchpoint env data).1.outline = s.outline := by
  unfold removeMemoryWatchpoint
  split
  · split <;> rfl
  · rfl

theorem outline_removeBreakpoint2 (env : Env) (bp : Option ULONG) (s : Session) :
    (s.removeBreakpoint2 env bp).1.outline = s.outline := by
  unfold removeBreakpoint2
  split
  · split <;> rfl
  · rfl

@[simp] theorem outline_addTtdSoftwareBreakpoint (env : Env) (address : ULONG_PTR)
    (callback : Option Callback) (oneShot : Bool) (affinity : ULONG) (s : Session) :
    (s.addTtdSoftwareBreakpoint env address callback oneShot affinity).1.outline = s.outline := by
  have hwatch := outline_addMemoryWatchpoint env ⟨address, 1, ACCESS_EXECUTE⟩ s
  unfold addTtdSoftwareBreakpoint
  split <;> rename_i heq <;> rw [heq] at hwatch <;> exact hwatch

@[simp] theorem outline_installNative (env : Env) (info : BreakpointInfo) (s : Session) :
    (s.installNative env info).1.outline = s.outline := by
  unfold installNative
  split
  · rfl
  split
  · rfl
  dsimp only
  split <;> rename_i heq <;> have hwrite := congrArg (fun r => r.1.outline) heq <;>
    exact hwrite.symm.trans (outline_writeNativeBreakpointBytes ..)

@[simp] theorem outline_setBPX (env : Env) (address : ULONG_PTR) (bpxType : DWORD)
    (callback : Option Callback) (s : Session) :
    (s.setBPX env address bpxType callback).1.outline = s.outline := by
  unfold setBPX
  split
  · rfl
  split
  · rfl
  split
  · rfl
  split
  · exact outline_addTtdSoftwareBreakpoint ..
  split
  · rfl
  dsimp only
  split <;> rename_i heq <;> have hinstall := congrArg (fun r => r.1.outline) heq <;>
    exact hinstall.symm.trans (outline_installNative ..)

theorem outline_removePatch (env : Env) (info : BreakpointInfo) (s : Session) :
    (if info.nativePatch then s.writeNativeBreakpointBytes env info false
      else s.removeBreakpoint2 env info.bp).1.outline = s.outline := by
  split
  · exact outline_writeNativeBreakpointBytes ..
  · exact outline_removeBreakpoint2 ..

@[simp] theorem outline_deleteBPX (env : Env) (address : ULONG_PTR) (s : Session) :
    (s.deleteBPX env address).1.outline = s.outline := by
  unfold deleteBPX
  split
  · rfl
  split
  · have hwatch := outline_removeMemoryWatchpoint env ⟨address, 1, ACCESS_EXECUTE⟩ s
    split <;> rename_i heq <;> rw [heq] at hwatch <;> exact hwatch
  · split <;> rename_i heq <;> have hremove := congrArg (fun r => r.1.outline) heq <;>
      exact hremove.symm.trans (outline_removePatch ..)

@[simp] theorem outline_setExecuteBreakPoint (env : Env) (address : ULONG_PTR) (reg : DWORD)
    (callback : Option Callback) (s : Session) :
    (s.setExecuteBreakPoint env address reg callback).1.outline = s.outline := by
  unfold setExecuteBreakPoint
  dsimp only
  split
  · rfl
  split
  · rfl
  split <;> rename_i heq <;> have hwrite := congrArg (fun r => r.1.outline) heq <;>
    exact hwrite.symm.trans (outline_writeNativeBreakpointBytes ..)

@[simp] theorem outline_setDataBreakPoint (env : Env) (address : ULONG_PTR) (reg : DWORD)
    (size : ULONG) (callback : Option Callback) (s : Session) :
    (s.setDataBreakPoint env address reg size callback).1.outline = s.outline := by
  unfold setDataBreakPoint
  repeat' split
  all_goals rfl

@[simp] theorem outline_setHardwareBreakPoint (env : Env) (address : ULONG_PTR) (index : DWORD)
    (bpxType bpxSize : ℕ) (callback : Option Callback) (s : Session) :
    (s.setHardwareBreakPoint env address index bpxType bpxSize callback).1.outline = s.outline := by
  unfold setHardwareBreakPoint
  generalize s.chooseRegister index = reg
  dsimp only
  repeat' split
  all_goals first | rfl | exact outline_setExecuteBreakPoint .. | exact outline_setDataBreakPoint ..

@[simp] theorem outline_removeHardware (env : Env) (info : BreakpointInfo) (s : Session) :
    (s.removeHardware env info).1.outline = s.outline := by
  unfold removeHardware
  split
  · split <;> rename_i heq <;> have hwrite := congrArg (fun r => r.1.outline) heq <;>
      exact hwrite.symm.trans (outline_writeNativeBreakpointBytes ..)
  · exact outline_removeBreakpoint2 ..

@[simp] theorem outline_deleteHardwareBreakPoint (env : Env) (index : DWORD) (s : Session) :
    (s.deleteHardwareBreakPoint env index).1.outline = s.outline := by
  unfold deleteHardwareBreakPoint
  split
  · rfl
  split
  · rfl
  split
  · rfl
  dsimp only
  split
  · rfl
  split <;> rename_i heq <;> have hremove := congrArg (fun r => r.1.outline) heq <;>
    exact hremove.symm.trans (outline_removeHardware ..)

@[simp] theorem outline_removeEach (env : Env) (entries : List (ULONG × BreakpointInfo)) (s : Session) :
    (removeEach env entries s).1.outline = s.outline := by
  induction entries generalizing s with
  | nil => rfl
  | cons entry entries ih =>
    obtain ⟨id, info⟩ := entry
    have hstep := outline_removePatch env info s
    simp only [removeEach]
    split <;> rename_i heq <;> rw [heq] at hstep
    · exact (ih _).trans hstep
    · exact hstep

@[simp] theorem frame_removeAllBreakPoints (env : Env) (s : Session) :
    (s.removeAllBreakPoints env).1.frame = s.frame := by
  have hall := frame_of_core (core_removeAllMemoryBreakpoints env s)
  unfold removeAllBreakPoints
  split
  · split <;> rfl
  split <;> rename_i s₁ heq <;> rw [heq] at hall
  · exact hall
  · have heach := congrArg Prod.fst (outline_removeEach env s₁.bps.gBreakpoints.toList s₁)
    split <;> rename_i heq' <;> rw [heq'] at heach <;> exact heach.trans hall

@[simp] theorem outline_memoryWriteSafe (env : Env) (process : HANDLE) (address : ULONG_PTR)
    (buffer : List BYTE) (s : Session) :
    (s.memoryWriteSafe env process address buffer).1.outline = s.outline := by
  unfold memoryWriteSafe
  dsimp only
  repeat' split
  all_goals rfl

/-- The session after a step request of the client that is accepted. -/
def stepAccepted (env : Env) (kind : StepKind) (callback : Option Callback) (threadIndex : ULONG)
    (s : Session) : Session :=
  { s with gNextExecutionStatus := kind.status.toExecution
           steps.gStepCallbacks := s.steps.gStepCallbacks.insertIfNew threadIndex callback
           steps.gStepThreadSystemIds :=
             s.steps.gStepThreadSystemIds.insert threadIndex env.currentThreadSystemId
           steps.gStepStatuses := s.steps.gStepStatuses.insertIfNew threadIndex kind.status
           log := .stepRequested threadIndex callback :: s.log }

theorem debugStep_outcome (env : Env) (kind : StepKind) (callback : Option Callback) (s : Session) :
    s.debugStep env kind callback = s ∨
      ∃ threadIndex, env.currentThreadId = some threadIndex ∧ s.pauseLock = true ∧
        threadIndex ∉ s.steps.gStepCallbacks ∧
        s.debugStep env kind callback = s.stepAccepted env kind callback threadIndex := by
  unfold debugStep
  split
  · exact .inl rfl
  rename_i hlock
  split
  · exact .inl rfl
  rename_i threadIndex hthread
  split
  · exact .inl rfl
  · rename_i hfree
    refine .inr ⟨threadIndex, hthread, ?_, ?_, rfl⟩
    · simpa using hlock
    · simpa using hfree

@[simp] theorem roster_debugStep (env : Env) (kind : StepKind) (callback : Option Callback)
    (s : Session) : (s.debugStep env kind callback).roster = s.roster := by
  obtain h | ⟨threadIndex, -, -, -, h⟩ := debugStep_outcome env kind callback s
  · rw [h]
  · rw [h]
    rfl

theorem watch_debugStep (env : Env) (kind : StepKind) (callback : Option Callback) (s : Session) :
    (s.debugStep env kind callback).watch = s.watch := by
  obtain h | ⟨threadIndex, -, -, -, h⟩ := debugStep_outcome env kind callback s
  · rw [h]
  · rw [h]
    rfl

@[simp] theorem outline_requestPause (env : Env) (callback : Option Callback) (s : Session) :
    (s.requestPause env callback).1.outline = s.outline := by
  unfold requestPause
  repeat' split
  all_goals rfl

end Session

/-- The calls that request a step. -/
def ApiCall.steps : ApiCall → Bool
  | .stepInto _ => true
  | .stepOver _ => true
  | _ => false

/-- The calls that reach the pages of memory breakpoints. -/
def ApiCall.watches : ApiCall → Bool
  | .removeAllBreakPoints => true
  | .setMemoryBPXEx .. => true
  | .removeMemoryBPX .. => true
  | .memoryReadUnsafe .. => true
  | .memoryReadSafe .. => true
  | .memoryProtectSafe .. => true
  | _ => false

namespace Session
variable {s s' : Session}

theorem outline_call (env : Env) {call : ApiCall} (hsteps : call.steps = false)
    (hwatches : call.watches = false) (s : Session) : (call.run env s).1.outline = s.outline := by
  cases call with
  | setBPX => exact outline_setBPX ..
  | deleteBPX => exact outline_deleteBPX ..
  | setBPXOptions => rfl
  | setHardwareBreakPoint => exact outline_setHardwareBreakPoint ..
  | deleteHardwareBreakPoint => exact outline_deleteHardwareBreakPoint ..
  | memoryWriteSafe => exact outline_memoryWriteSafe ..
  | setNextDbgContinueStatus =>
    show (setNextDbgContinueStatus _ s).1.outline = s.outline
    unfold setNextDbgContinueStatus
    split <;> rfl
  | requestPause => exact outline_requestPause ..
  | stepInto => cases hsteps
  | stepOver => cases hsteps
  | _ => cases hwatches

theorem frame_call (env : Env) {call : ApiCall} (h : call.steps = false) (s : Session) :
    (call.run env s).1.frame = s.frame := by
  cases hwatches : call.watches with
  | false => exact congrArg Prod.fst (outline_call env h hwatches s)
  | true =>
    cases call with
    | removeAllBreakPoints => exact frame_removeAllBreakPoints ..
    | setMemoryBPXEx => exact frame_of_core (core_setMemoryBPXEx ..)
    | removeMemoryBPX => exact frame_of_core (core_removeMemoryBPX ..)
    | memoryReadUnsafe => exact frame_of_core (core_memoryReadUnsafe ..)
    | memoryReadSafe => exact frame_of_core (core_memoryReadSafe ..)
    | memoryProtectSafe => exact frame_of_core (core_memoryProtectSafe ..)
    | _ => cases hwatches

/-- A call that does not reach the pages leaves them as they are. -/
theorem watch_call (env : Env) {call : ApiCall} (h : call.watches = false) (s : Session) :
    (call.run env s).1.watch = s.watch := by
  cases hsteps : call.steps with
  | false => exact congrArg Prod.snd (outline_call env hsteps h s)
  | true =>
    cases call with
    | stepInto callback => exact watch_debugStep env .into callback s
    | stepOver callback => exact watch_debugStep env .over callback s
    | _ => cases hsteps

theorem roster_call (env : Env) (call : ApiCall) (s : Session) :
    (call.run env s).1.roster = s.roster := by
  cases hsteps : call.steps with
  | false => exact roster_of_frame (frame_call env hsteps s)
  | true =>
    cases call with
    | stepInto => exact roster_debugStep ..
    | stepOver => exact roster_debugStep ..
    | _ => cases hsteps

/-- A client acts by calls. -/
theorem roster_client {k : Client} {rules : Rules} (hk : k.Follows rules) (inv : Invocation)
    (s : Session) : (k inv s).roster = s.roster := by
  refine Runs.run_eq ?_ (hk inv s)
  rintro a b ⟨allowed⟩
  exact roster_call ..

theorem roster_effects {k : Client} {rules : Rules} (hk : k.Follows rules) (env : Env)
    (h : Effects k env s s') : s'.roster = s.roster := by
  refine Runs.run_eq ?_ h
  intro a b hstep
  cases hstep with
  | quiet same => exact roster_of_core same
  | lose id => exact roster_of_core (core_removeMemoryBreakpointById env id a)
  | call inv s => exact roster_client hk inv _
  | status => rfl
  | delivered => rfl

end Session

end TitanEngine

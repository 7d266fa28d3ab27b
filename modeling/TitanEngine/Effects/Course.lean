import TitanEngine.Effects.Frame

/-! The course of a session: what is reported, expected, queued and stepped in it. The calls of
the client leave it alone, but for the step requests. -/
namespace TitanEngine
namespace Session
variable {s s' : Session}

/-- The session with its breakpoints, its target and its error codes blanked. -/
def course (s : Session) : Session :=
  { s with gPauseCallback := none, gNextContinueStatus := 0, gTtdCursor := none, lastError := 0
           bps := {}, target := {} }

/-- Sessions with the same course agree on everything that it does not blank. -/
theorem course_field_eq {α : Type*} (f : Session → α) (hf : ∀ s : Session, f s.course = f s)
    (h : s'.course = s.course) : f s' = f s := by
  rw [← hf s', h, hf]

@[simp] theorem course_writeProcessMemory (env : Env) (address : ULONG_PTR) (bytes : List BYTE)
    (s : Session) : (s.writeProcessMemory env address bytes).1.course = s.course := by
  unfold writeProcessMemory
  split <;> rfl

@[simp] theorem course_writeNativeBreakpointBytes (env : Env) (info : BreakpointInfo) (install : Bool)
    (s : Session) : (s.writeNativeBreakpointBytes env info install).1.course = s.course := by
  have hwrite := course_writeProcessMemory env info.offset
    (if install then info.patch else info.originals) s
  unfold writeNativeBreakpointBytes
  split
  · rfl
  split <;> rename_i heq <;> rw [heq] at hwrite
  · split
    · exact hwrite
    · exact hwrite
  · exact hwrite

@[simp] theorem course_addMemoryWatchpoint (env : Env) (data : MemoryWatchpointData) (s : Session) :
    (s.addMemoryWatchpoint env data).1.course = s.course := by
  unfold addMemoryWatchpoint
  split
  · split <;> rfl
  · rfl

@[simp] theorem course_removeMemoryWatchpoint (env : Env) (data : MemoryWatchpointData) (s : Session) :
    (s.removeMemoryWatchpoint env data).1.course = s.course := by
  unfold removeMemoryWatchpoint
  split
  · split <;> rfl
  · rfl

@[simp] theorem course_removeBreakpoint2 (env : Env) (bp : Option ULONG) (s : Session) :
    (s.removeBreakpoint2 env bp).1.course = s.course := by
  unfold removeBreakpoint2
  split
  · split <;> rfl
  · rfl

theorem course_removePatch (env : Env) (info : BreakpointInfo) (s : Session) :
    (if info.nativePatch then s.writeNativeBreakpointBytes env info false
      else s.removeBreakpoint2 env info.bp).1.course = s.course := by
  split
  · exact course_writeNativeBreakpointBytes ..
  · exact course_removeBreakpoint2 ..

@[simp] theorem course_setBPX (env : Env) (address : ULONG_PTR) (bpxType : DWORD)
    (callback : Option Callback) (s : Session) :
    (s.setBPX env address bpxType callback).1.course = s.course := by
  have hreplay : ∀ oneShot affinity,
      (s.addTtdSoftwareBreakpoint env address callback oneShot affinity).1.course = s.course := by
    intro oneShot affinity
    have hwatch := course_addMemoryWatchpoint env ⟨address, 1, ACCESS_EXECUTE⟩ s
    unfold addTtdSoftwareBreakpoint
    split <;> rename_i heq <;> rw [heq] at hwatch <;> exact hwatch
  have hnative : ∀ info, (s.installNative env info).1.course = s.course := by
    intro info
    unfold installNative
    split
    · rfl
    split
    · rfl
    dsimp only
    split <;> rename_i heq <;> have hwrite := congrArg (fun r => r.1.course) heq <;>
      exact hwrite.symm.trans (course_writeNativeBreakpointBytes ..)
  unfold setBPX
  split
  · rfl
  split
  · rfl
  split
  · rfl
  split
  · exact hreplay _ _
  split
  · rfl
  dsimp only
  split <;> rename_i heq <;> have hinstall := congrArg (fun r => r.1.course) heq <;>
    exact hinstall.symm.trans (hnative _)

@[simp] theorem course_deleteBPX (env : Env) (address : ULONG_PTR) (s : Session) :
    (s.deleteBPX env address).1.course = s.course := by
  unfold deleteBPX
  split
  · rfl
  split
  · have hwatch := course_removeMemoryWatchpoint env ⟨address, 1, ACCESS_EXECUTE⟩ s
    split <;> rename_i heq <;> rw [heq] at hwatch <;> exact hwatch
  · split <;> rename_i heq <;> have hremove := congrArg (fun r => r.1.course) heq <;>
      exact hremove.symm.trans (course_removePatch ..)

@[simp] theorem course_setExecuteBreakPoint (env : Env) (address : ULONG_PTR) (reg : DWORD)
    (callback : Option Callback) (s : Session) :
    (s.setExecuteBreakPoint env address reg callback).1.course = s.course := by
  unfold setExecuteBreakPoint
  dsimp only
  split
  · rfl
  split
  · rfl
  split <;> rename_i heq <;> have hwrite := congrArg (fun r => r.1.course) heq <;>
    exact hwrite.symm.trans (course_writeNativeBreakpointBytes ..)

@[simp] theorem course_setHardwareBreakPoint (env : Env) (address : ULONG_PTR) (index : DWORD)
    (bpxType bpxSize : ℕ) (callback : Option Callback) (s : Session) :
    (s.setHardwareBreakPoint env address index bpxType bpxSize callback).1.course = s.course := by
  have hdata : ∀ reg size, (s.setDataBreakPoint env address reg size callback).1.course = s.course := by
    intro reg size
    unfold setDataBreakPoint
    repeat' split
    all_goals rfl
  unfold setHardwareBreakPoint
  generalize s.chooseRegister index = reg
  dsimp only
  repeat' split
  all_goals first | rfl | exact course_setExecuteBreakPoint .. | exact hdata _ _

@[simp] theorem course_deleteHardwareBreakPoint (env : Env) (index : DWORD) (s : Session) :
    (s.deleteHardwareBreakPoint env index).1.course = s.course := by
  have hremoved : ∀ info, (s.removeHardware env info).1.course = s.course := by
    intro info
    unfold removeHardware
    split
    · split <;> rename_i heq <;> have hwrite := congrArg (fun r => r.1.course) heq <;>
        exact hwrite.symm.trans (course_writeNativeBreakpointBytes ..)
    · exact course_removeBreakpoint2 ..
  unfold deleteHardwareBreakPoint
  split
  · rfl
  split
  · rfl
  split
  · rfl
  dsimp only
  split
  · rfl
  split <;> rename_i heq <;> have hremove := congrArg (fun r => r.1.course) heq <;>
    exact hremove.symm.trans (hremoved _)

@[simp] theorem course_protectMemoryBreakpointPage (env : Env) (page : ULONG_PTR) (guarded : Bool)
    (s : Session) : (s.protectMemoryBreakpointPage env page guarded).1.course = s.course := by
  unfold protectMemoryBreakpointPage virtualProtectEx
  repeat' split
  all_goals rfl

@[simp] theorem course_leavePages (env : Env) (id : ULONG64) (pages : List ULONG_PTR) (s : Session) :
    (leavePages env id pages s).1.course = s.course := by
  have hleave : ∀ (page : ULONG_PTR) (s : Session), (s.leavePage env id page).1.course = s.course := by
    intro page s
    unfold leavePage
    split
    · rfl
    · dsimp only
      split
      · exact course_protectMemoryBreakpointPage env page false _
      · rfl
  induction pages generalizing s with
  | nil => rfl
  | cons page pages ih =>
    simp only [leavePages]
    rw [ih, hleave]

@[simp] theorem course_removeMemoryBreakpointById (env : Env) (id : ULONG64) (s : Session) :
    (s.removeMemoryBreakpointById env id).1.course = s.course := by
  unfold removeMemoryBreakpointById
  split
  · rfl
  · rename_i breakpoint _
    have hwatch := course_removeMemoryWatchpoint env
      ⟨breakpoint.start, breakpoint.size, ttdMemoryWatchMask breakpoint.type⟩ s
    split
    · split <;> rename_i heq <;> rw [heq] at hwatch <;> exact hwatch
    · exact course_leavePages env id _ s

@[simp] theorem course_removeMemoryBreakpoints (env : Env) (rounds : ℕ) (s : Session) :
    (removeMemoryBreakpoints env rounds s).1.course = s.course := by
  induction rounds generalizing s with
  | zero => rfl
  | succ rounds ih =>
    simp only [removeMemoryBreakpoints]
    split
    · rfl
    · simp only [ih, course_removeMemoryBreakpointById]

@[simp] theorem course_joinPages (env : Env) (id : ULONG64) (pages : List ULONG_PTR) (s : Session) :
    (joinPages env id pages s).1.course = s.course := by
  have hjoin : ∀ (page : ULONG_PTR) (s : Session), (s.joinPage env id page).1.course = s.course := by
    intro page s
    unfold joinPage
    split
    · rfl
    · split
      · rfl
      · exact course_protectMemoryBreakpointPage env page true _
  induction pages generalizing s with
  | nil => rfl
  | cons page pages ih =>
    have hpage := hjoin page s
    simp only [joinPages]
    split <;> rename_i heq <;> rw [heq] at hpage
    · exact (ih _).trans hpage
    · exact hpage

@[simp] theorem course_setMemoryBPXEx (env : Env) (start size : ULONG_PTR) (type : ℕ)
    (restoreOnHit : Bool) (callback : Option Callback) (s : Session) :
    (s.setMemoryBPXEx env start size type restoreOnHit callback).1.course = s.course := by
  unfold setMemoryBPXEx
  split
  · rfl
  split
  · rfl
  split
  · rfl
  split
  · rfl
  split
  · rfl
  dsimp only
  split
  · split <;> rename_i heq <;>
      exact (congrArg (·.1.course) heq).symm.trans (course_addMemoryWatchpoint env _ _)
  · split <;> rename_i heq
    · exact (congrArg (·.1.course) heq).symm.trans (course_joinPages env _ _ _)
    · exact (course_leavePages env _ _ _).trans
        ((congrArg (·.1.course) heq).symm.trans (course_joinPages env _ _ _))

@[simp] theorem course_removeMemoryBPX (env : Env) (start size : ULONG_PTR) (s : Session) :
    (s.removeMemoryBPX env start size).1.course = s.course := by
  unfold removeMemoryBPX
  split
  · rfl
  split
  · rfl
  split
  · exact course_removeMemoryBreakpointById env _ s
  · rfl

@[simp] theorem course_removeAllBreakPoints (env : Env) (s : Session) :
    (s.removeAllBreakPoints env).1.course = s.course := by
  have hall : (s.removeAllMemoryBreakpoints env).1.course = s.course :=
    course_removeMemoryBreakpoints env _ s
  have heach : ∀ (entries : List (ULONG × BreakpointInfo)) (s : Session),
      (removeEach env entries s).1.course = s.course := by
    intro entries
    induction entries with
    | nil => exact fun _ => rfl
    | cons entry entries ih =>
      intro s
      have hstep := course_removePatch env entry.2 s
      simp only [removeEach]
      split <;> rename_i heq <;> rw [heq] at hstep
      · exact (ih _).trans hstep
      · exact hstep
  unfold removeAllBreakPoints
  split
  · split <;> rfl
  split <;> rename_i s₁ heq <;> rw [heq] at hall
  · exact hall
  · have hrest := heach s₁.bps.gBreakpoints.toList s₁
    split <;> rename_i heq' <;> rw [heq'] at hrest <;> exact hrest.trans hall

@[simp] theorem course_memoryReadUnsafe (env : Env) (process : HANDLE) (address : ULONG_PTR) (n : ℕ)
    (s : Session) : (s.memoryReadUnsafe env process address n).1.course = s.course := by
  have hexpose : ∀ (pages : List ULONG_PTR) (s : Session),
      (exposePages env pages s).1.course = s.course := by
    intro pages
    induction pages with
    | nil => exact fun _ => rfl
    | cons page pages ih =>
      intro s
      simp only [exposePages]
      split
      · exact (ih _).trans (course_protectMemoryBreakpointPage env page false s)
      · exact ih s
  have hguard : ∀ (pages : List ULONG_PTR) (s : Session), (guardPages env pages s).course = s.course := by
    intro pages
    unfold guardPages
    induction pages with
    | nil => exact fun _ => rfl
    | cons page pages ih =>
      exact fun s => (ih _).trans (course_protectMemoryBreakpointPage env page true s)
  unfold memoryReadUnsafe
  dsimp only
  repeat' split
  all_goals first | rfl | exact (hguard _ _).trans (hexpose _ _)

@[simp] theorem course_memoryReadSafe (env : Env) (process : HANDLE) (address : ULONG_PTR) (n : ℕ)
    (s : Session) : (s.memoryReadSafe env process address n).1.course = s.course := by
  have hread := course_memoryReadUnsafe env process address n s
  unfold memoryReadSafe
  split <;> rename_i heq <;> rw [heq] at hread
  · exact hread
  · split <;> exact hread

@[simp] theorem course_memoryWriteSafe (env : Env) (process : HANDLE) (address : ULONG_PTR)
    (buffer : List BYTE) (s : Session) :
    (s.memoryWriteSafe env process address buffer).1.course = s.course := by
  unfold memoryWriteSafe
  dsimp only
  repeat' split
  all_goals rfl

@[simp] theorem course_requestPause (env : Env) (callback : Option Callback) (s : Session) :
    (s.requestPause env callback).1.course = s.course := by
  unfold requestPause
  repeat' split
  all_goals rfl

/-- The calls that ask for no step leave the course alone. -/
theorem course_call (env : Env) {call : ApiCall} (h : call.steps = false) (s : Session) :
    (call.run env s).1.course = s.course := by
  cases call with
  | setBPX address type callback => exact course_setBPX ..
  | deleteBPX address => exact course_deleteBPX ..
  | setBPXOptions type => rfl
  | setHardwareBreakPoint address reg type size callback => exact course_setHardwareBreakPoint ..
  | deleteHardwareBreakPoint reg => exact course_deleteHardwareBreakPoint ..
  | removeAllBreakPoints => exact course_removeAllBreakPoints ..
  | setMemoryBPXEx start size type restoreOnHit callback => exact course_setMemoryBPXEx ..
  | removeMemoryBPX start size => exact course_removeMemoryBPX ..
  | memoryReadUnsafe process address size => exact course_memoryReadUnsafe ..
  | memoryReadSafe process address size => exact course_memoryReadSafe ..
  | memoryWriteSafe process address buffer => exact course_memoryWriteSafe ..
  | memoryProtectSafe address size protection =>
    simp only [ApiCall.run, memoryProtectSafe]
    repeat' split
    all_goals rfl
  | stepInto callback => cases h
  | stepOver callback => cases h
  | setNextDbgContinueStatus code =>
    simp only [ApiCall.run, setNextDbgContinueStatus]
    split <;> rfl
  | requestPause callback => exact course_requestPause ..

end Session

end TitanEngine

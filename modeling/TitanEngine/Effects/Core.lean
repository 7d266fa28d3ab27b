import TitanEngine.Model.Runs

/-! The part of a session that patches, steps and the target share. What the adapter
keeps beside it (guarded pages, event snapshots, error codes) leaves it alone. -/
namespace TitanEngine

/-- What memory breakpoints live in. -/
structure Watch where
  breakpoints : Map ULONG64 MemoryBreakpointInfo
  pages : Map ULONG_PTR MemoryBreakpointPage
  nextId : ULONG64
  protection : ULONG_PTR → DWORD
  ownProtection : ULONG_PTR → DWORD

namespace Session

/-- The session with everything outside that part blanked. -/
def core (s : Session) : Session :=
  { s with
    gExpectSystemBreakpoint := false
    gAttachCallback := none
    gNextContinueStatus := 0
    gFakeDebugEvent := {}
    gTtdCursor := none
    lastError := 0
    bps := { s.bps with gDefaultBreakpointType := .int3, gRetiredBreakpointAddresses := ∅
                        gMemoryBreakpoints := ∅, gMemoryBreakpointPages := ∅
                        gNextMemoryBreakpointId := 0 }
    target := { s.target with protection := fun _ => 0, ownProtection := fun _ => 0
                              engineBreakpoints := ∅ } }

/-- What a session is at all: its kind, whether it is on, and the string that the target
prints through the engine, which a client can read only while the target runs. -/
def mode (s : Session) : TitanSessionKind × Bool × Option (ULONG_PTR × List BYTE) :=
  (s.gSessionKind, s.gIsDebugging, s.gSyntheticDebugString)

def watch (s : Session) : Watch :=
  ⟨s.bps.gMemoryBreakpoints, s.bps.gMemoryBreakpointPages, s.bps.gNextMemoryBreakpointId,
    s.target.protection, s.target.ownProtection⟩

section Fields
variable {s s' : Session}

/-- Sessions with the same core agree on everything that the core does not blank. -/
theorem field_eq {α : Type*} (f : Session → α) (hf : ∀ s : Session, f s.core = f s)
    (h : s'.core = s.core) : f s' = f s := by
  rw [← hf s', h, hf]

theorem core_mode (h : s'.core = s.core) : s'.mode = s.mode := field_eq mode (fun _ => rfl) h

theorem core_paused (h : s'.core = s.core) : s'.gPaused = s.gPaused :=
  field_eq (fun s => s.gPaused) (fun _ => rfl) h

theorem core_breakpoints (h : s'.core = s.core) : s'.bps.gBreakpoints = s.bps.gBreakpoints :=
  field_eq (fun s => s.bps.gBreakpoints) (fun _ => rfl) h

theorem core_hardware (h : s'.core = s.core) : s'.bps.gHardwareBreakpointIds = s.bps.gHardwareBreakpointIds :=
  field_eq (fun s => s.bps.gHardwareBreakpointIds) (fun _ => rfl) h

theorem core_nextId (h : s'.core = s.core) : s'.bps.gNextNativeBreakpointId = s.bps.gNextNativeBreakpointId :=
  field_eq (fun s => s.bps.gNextNativeBreakpointId) (fun _ => rfl) h

theorem core_memory (h : s'.core = s.core) : s'.target.memory = s.target.memory :=
  field_eq (fun s => s.target.memory) (fun _ => rfl) h

theorem core_registry (h : s'.core = s.core) : s'.gHandleRegistry = s.gHandleRegistry :=
  field_eq (fun s => s.gHandleRegistry) (fun _ => rfl) h

theorem core_idMap (h : s'.core = s.core) : s'.gDebugIdMap = s.gDebugIdMap :=
  field_eq (fun s => s.gDebugIdMap) (fun _ => rfl) h

theorem core_log (h : s'.core = s.core) : s'.log = s.log :=
  field_eq (fun s => s.log) (fun _ => rfl) h

end Fields

@[simp] theorem core_fail (s : Session) (error : DWORD) : (s.fail error).1.core = s.core := rfl

@[simp] theorem core_setFakeDebugEvent (env : Env) (info : DebugInfo) (s : Session) :
    (s.setFakeDebugEvent env info).core = s.core := rfl

@[simp] theorem core_setEventIds (p t : DWORD) (s : Session) : (s.setEventIds p t).core = s.core := rfl

@[simp] theorem core_setBPXOptions (type : TitanBreakpointType) (s : Session) :
    (s.setBPXOptions type).core = s.core := rfl

@[simp] theorem core_virtualProtectEx (env : Env) (page : ULONG_PTR) (protection : DWORD)
    (s : Session) : (s.virtualProtectEx env page protection).1.core = s.core := by
  unfold virtualProtectEx
  split <;> rfl

@[simp] theorem core_protectMemoryBreakpointPage (env : Env) (page : ULONG_PTR) (guarded : Bool)
    (s : Session) : (s.protectMemoryBreakpointPage env page guarded).1.core = s.core := by
  unfold protectMemoryBreakpointPage
  split
  · rfl
  · split
    · rfl
    · exact core_virtualProtectEx _ _ _ _

@[simp] theorem core_leavePage (env : Env) (id : ULONG64) (page : ULONG_PTR) (s : Session) :
    (s.leavePage env id page).1.core = s.core := by
  unfold leavePage
  split
  · rfl
  · dsimp only
    split
    · exact (core_protectMemoryBreakpointPage env page false _)
    · rfl

@[simp] theorem core_leavePages (env : Env) (id : ULONG64) (pages : List ULONG_PTR) (s : Session) :
    (leavePages env id pages s).1.core = s.core := by
  induction pages generalizing s with
  | nil => rfl
  | cons page pages ih =>
    simp only [leavePages]
    rw [ih, core_leavePage]

@[simp] theorem core_addMemoryWatchpoint (env : Env) (data : MemoryWatchpointData) (s : Session) :
    (s.addMemoryWatchpoint env data).1.core = s.core := by
  unfold addMemoryWatchpoint
  split
  · split <;> rfl
  · rfl

@[simp] theorem core_removeMemoryWatchpoint (env : Env) (data : MemoryWatchpointData) (s : Session) :
    (s.removeMemoryWatchpoint env data).1.core = s.core := by
  unfold removeMemoryWatchpoint
  split
  · split <;> rfl
  · rfl

@[simp] theorem core_removeBreakpoint2 (env : Env) (bp : Option ULONG) (s : Session) :
    (s.removeBreakpoint2 env bp).1.core = s.core := by
  unfold removeBreakpoint2
  split
  · split <;> rfl
  · rfl

@[simp] theorem core_removeMemoryBreakpointById (env : Env) (id : ULONG64) (s : Session) :
    (s.removeMemoryBreakpointById env id).1.core = s.core := by
  unfold removeMemoryBreakpointById
  split
  · rfl
  · rename_i breakpoint _
    have hwatch := core_removeMemoryWatchpoint env
      ⟨breakpoint.start, breakpoint.size, ttdMemoryWatchMask breakpoint.type⟩ s
    split
    · split
      · rename_i heq
        rw [heq] at hwatch
        exact hwatch
      · rename_i heq
        rw [heq] at hwatch
        exact hwatch
    · exact core_leavePages env id _ s

@[simp] theorem core_removeMemoryBreakpoints (env : Env) (rounds : ℕ) (s : Session) :
    (removeMemoryBreakpoints env rounds s).1.core = s.core := by
  induction rounds generalizing s with
  | zero => rfl
  | succ rounds ih =>
    simp only [removeMemoryBreakpoints]
    split
    · rfl
    · simp only [ih, core_removeMemoryBreakpointById]

@[simp] theorem core_removeAllMemoryBreakpoints (env : Env) (s : Session) :
    (s.removeAllMemoryBreakpoints env).1.core = s.core :=
  core_removeMemoryBreakpoints env _ s

@[simp] theorem core_joinPage (env : Env) (id : ULONG64) (page : ULONG_PTR) (s : Session) :
    (s.joinPage env id page).1.core = s.core := by
  unfold joinPage
  split
  · rfl
  · split
    · rfl
    · exact core_protectMemoryBreakpointPage env page true _

@[simp] theorem core_joinPages (env : Env) (id : ULONG64) (pages : List ULONG_PTR) (s : Session) :
    (joinPages env id pages s).1.core = s.core := by
  induction pages generalizing s with
  | nil => rfl
  | cons page pages ih =>
    have hjoin := core_joinPage env id page s
    simp only [joinPages]
    split
    · rename_i heq
      rw [heq] at hjoin
      exact (ih _).trans hjoin
    · rename_i heq
      rw [heq] at hjoin
      exact hjoin

@[simp] theorem core_exposePages (env : Env) (pages : List ULONG_PTR) (s : Session) :
    (exposePages env pages s).1.core = s.core := by
  induction pages generalizing s with
  | nil => rfl
  | cons page pages ih =>
    simp only [exposePages]
    split
    · exact (ih _).trans (core_protectMemoryBreakpointPage env page false s)
    · exact ih s

@[simp] theorem core_guardPages (env : Env) (pages : List ULONG_PTR) (s : Session) :
    (guardPages env pages s).core = s.core := by
  unfold guardPages
  induction pages generalizing s with
  | nil => rfl
  | cons page pages ih => exact (ih _).trans (core_protectMemoryBreakpointPage env page true s)

@[simp] theorem core_setMemoryBPXEx (env : Env) (start size : ULONG_PTR) (type : ℕ)
    (restoreOnHit : Bool) (callback : Option Callback) (s : Session) :
    (s.setMemoryBPXEx env start size type restoreOnHit callback).1.core = s.core := by
  unfold setMemoryBPXEx
  split
  · rfl
  split
  · rfl
  split
  · rfl
  split
  · rfl
  split
  · rfl
  rename_i type _ _ _ _
  dsimp only
  split
  · split <;> rename_i heq
    · exact (congrArg (·.1.core) heq).symm.trans (core_addMemoryWatchpoint env _ _)
    · exact (congrArg (·.1.core) heq).symm.trans (core_addMemoryWatchpoint env _ _)
  · split <;> rename_i heq
    · exact (congrArg (·.1.core) heq).symm.trans (core_joinPages env _ _ _)
    · exact (core_leavePages env _ _ _).trans
        ((congrArg (·.1.core) heq).symm.trans (core_joinPages env _ _ _))

@[simp] theorem core_removeMemoryBPX (env : Env) (start size : ULONG_PTR) (s : Session) :
    (s.removeMemoryBPX env start size).1.core = s.core := by
  unfold removeMemoryBPX
  split
  · rfl
  split
  · rfl
  split
  · exact core_removeMemoryBreakpointById env _ s
  · rfl

@[simp] theorem core_memoryReadUnsafe (env : Env) (process : HANDLE) (address : ULONG_PTR) (n : ℕ)
    (s : Session) : (s.memoryReadUnsafe env process address n).1.core = s.core := by
  unfold memoryReadUnsafe
  dsimp only
  repeat' split
  all_goals first | rfl | simp only [core_guardPages, core_exposePages]

@[simp] theorem core_memoryReadSafe (env : Env) (process : HANDLE) (address : ULONG_PTR) (n : ℕ)
    (s : Session) : (s.memoryReadSafe env process address n).1.core = s.core := by
  have hread := core_memoryReadUnsafe env process address n s
  unfold memoryReadSafe
  split <;> rename_i heq <;> rw [heq] at hread
  · exact hread
  · split <;> exact hread

@[simp] theorem core_memoryProtectSafe (env : Env) (address size : ULONG_PTR) (protection : DWORD)
    (s : Session) : (s.memoryProtectSafe env address size protection).1.core = s.core := by
  unfold memoryProtectSafe
  repeat' split
  all_goals rfl

@[simp] theorem core_setNextDbgContinueStatus (code : DWORD) (s : Session) :
    (s.setNextDbgContinueStatus code).1.core = s.core := by
  unfold setNextDbgContinueStatus
  split <;> rfl

@[simp] theorem core_disguiseHit (bpInfo : BreakpointInfo) (s : Session) :
    (s.disguiseHit bpInfo).core = s.core := by
  unfold disguiseHit
  split <;> rfl

@[simp] theorem core_adoptThreadId (handle : HANDLE) (s : Session) :
    (s.adoptThreadId handle).core = s.core := by
  unfold adoptThreadId
  split <;> rfl

end Session

end TitanEngine

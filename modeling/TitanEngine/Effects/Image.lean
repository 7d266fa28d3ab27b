import TitanEngine.Effects.Dispatch

/-! The breakpoint tables and the memory of the target, which internal steps and thread
bookkeeping leave alone. -/
namespace TitanEngine
open FlatMemory Relation

/-- What breakpoint patches live in. -/
structure Image where
  mode : TitanSessionKind × Bool × Option (ULONG_PTR × List BYTE)
  paused : Bool
  bps : BreakpointTables
  memory : Memory 64 BYTE

namespace Session

def image (s : Session) : Image := ⟨s.mode, s.gPaused, s.bps, s.target.memory⟩

@[simp] theorem image_fail (s : Session) (error : DWORD) : (s.fail error).1.image = s.image := rfl

@[simp] theorem image_titanSuspendThread (env : Env) (handle : HANDLE) (s : Session) :
    (s.titanSuspendThread env handle).1.image = s.image := by
  unfold titanSuspendThread
  repeat' split
  all_goals rfl

@[simp] theorem image_titanResumeThread (handle : HANDLE) (s : Session) :
    (s.titanResumeThread handle).image = s.image := by
  unfold titanResumeThread
  repeat' split
  all_goals rfl

@[simp] theorem image_suspendThreads (env : Env) (handles : List HANDLE) (s : Session) :
    (s.suspendThreads env handles).1.image = s.image := by
  induction handles generalizing s with
  | nil => rfl
  | cons handle handles ih => exact (ih _).trans (image_titanSuspendThread env handle s)

@[simp] theorem image_resumeThreads (handles : List HANDLE) (s : Session) :
    (s.resumeThreads handles).image = s.image := by
  unfold resumeThreads
  induction handles generalizing s with
  | nil => rfl
  | cons handle handles ih => exact (ih _).trans (image_titanResumeThread handle s)

@[simp] theorem image_setCFlags (env : Env) (thread : HANDLE) (value : ULONG_PTR) (s : Session) :
    (s.setCFlags env thread value).1.image = s.image := by
  unfold setCFlags
  repeat' split
  all_goals rfl

@[simp] theorem image_takeUserStep (threadIndex : ULONG) (s : Session) :
    (s.takeUserStep threadIndex).1.image = s.image := by
  unfold takeUserStep
  split <;> rfl

@[simp] theorem image_armInternalStep (env : Env) (threadIndex : ULONG) (thread : HANDLE)
    (actions : List StepAction) (s : Session) :
    (s.armInternalStep env threadIndex thread actions).image = s.image := by
  have hheld := image_suspendThreads env (s.peerHandles threadIndex) s
  unfold armInternalStep
  dsimp only
  split <;> rename_i heq
  · have hflags := congrArg (fun r => r.1.image) heq
    exact (image_resumeThreads _ _).trans (hflags.symm.trans ((image_setCFlags _ _ _ _).trans hheld))
  · have hflags := congrArg (fun r => r.1.image) heq
    exact hflags.symm.trans ((image_setCFlags _ _ _ _).trans hheld)

@[simp] theorem image_scheduleInternalStep (env : Env) (action : StepAction) (s : Session) :
    (s.scheduleInternalStep env action).image = s.image := by
  unfold scheduleInternalStep
  split
  · rfl
  split
  · rfl
  · dsimp only
    split
    · exact image_takeUserStep _ s
    · exact (image_armInternalStep _ _ _ _ _).trans (image_takeUserStep _ s)

@[simp] theorem image_clearTrapFlag (env : Env) (threadIndex : ULONG) (s : Session) :
    (s.clearTrapFlag env threadIndex).image = s.image := by
  unfold clearTrapFlag
  split
  · exact image_setCFlags _ _ _ _
  · rfl

@[simp] theorem image_forgetInternalStep (threadIndex : ULONG) (s : Session) :
    (s.forgetInternalStep threadIndex).image = s.image := rfl

@[simp] theorem image_releaseThreads (threadIndex : ULONG) (s : Session) :
    (s.releaseThreads threadIndex).image = s.image := by
  unfold releaseThreads
  split
  · exact image_resumeThreads _ s
  · rfl

@[simp] theorem image_registerTitanHandle (handle : HANDLE) (type : TitanHandleType)
    (dbgengId systemId : ULONG) (callerOwned : Bool) (s : Session) :
    (s.registerTitanHandle handle type dbgengId systemId callerOwned).image = s.image := by
  unfold registerTitanHandle
  split <;> rfl

@[simp] theorem image_rememberThread (handle : HANDLE) (threadIndex : ULONG) (s : Session) :
    (s.rememberThread handle threadIndex).image = s.image := rfl

@[simp] theorem image_rememberProcess (handle : HANDLE) (processIndex : ULONG) (s : Session) :
    (s.rememberProcess handle processIndex).image = s.image := rfl

@[simp] theorem image_enterThread (env : Env) (handle : HANDLE) (s : Session) :
    (s.enterThread env handle).image = s.image :=
  image_registerTitanHandle ..

@[simp] theorem image_enterProcess (env : Env) (handle initialThread : HANDLE) (s : Session) :
    (s.enterProcess env handle initialThread).image = s.image := by
  unfold enterProcess
  dsimp only
  split
  · rfl
  split
  · exact (image_enterThread ..).trans (image_registerTitanHandle ..)
  · rfl

@[simp] theorem image_forgetThread (threadIndex : ULONG) (handle : Option HANDLE) (s : Session) :
    (s.forgetThread threadIndex handle).image = s.image := by
  unfold forgetThread
  cases handle with
  | none => rfl
  | some handle =>
    dsimp only
    split <;> rfl

@[simp] theorem image_forgetProcess (processIndex : ULONG) (handle : Option HANDLE) (s : Session) :
    (s.forgetProcess processIndex handle).image = s.image := by
  unfold forgetProcess
  split
  · split <;> rfl
  · rfl

@[simp] theorem image_finishDebugEvent (u : Bool) (s : Session) :
    (s.finishDebugEvent u).image = s.image := by
  unfold finishDebugEvent
  split <;> rfl

@[simp] theorem image_recogniseStop (env : Env) (s : Session) :
    (s.recogniseStop env).image = s.image := by
  unfold recogniseStop
  repeat' split
  all_goals rfl

@[simp] theorem image_applyExecutionStatus (env : Env) (s : Session) :
    (s.applyExecutionStatus env).1.image = s.image := by
  unfold applyExecutionStatus
  dsimp only
  repeat' split
  all_goals rfl

@[simp] theorem image_debugStep (env : Env) (kind : StepKind) (callback : Option Callback)
    (s : Session) : (s.debugStep env kind callback).image = s.image := by
  unfold debugStep
  repeat' split
  all_goals rfl

@[simp] theorem image_requestPause (env : Env) (callback : Option Callback) (s : Session) :
    (s.requestPause env callback).1.image = s.image := by
  unfold requestPause
  repeat' split
  all_goals rfl

/-- The session once the bytes of a patch, or those under it, are in the target. -/
def withBytes (info : BreakpointInfo) (install : Bool) (s : Session) : Session :=
  { s with target.memory :=
      s.target.memory.write info.offset (if install then info.patch else info.originals) }

/-- How a write of breakpoint bytes can end: done, written but not flushed, or not
written at all. -/
theorem writeNativeBreakpointBytes_outcome (env : Env) (info : BreakpointInfo) (install : Bool)
    (s : Session) :
    s.writeNativeBreakpointBytes env info install = (s.withBytes info install, true) ∨
      (s.writeNativeBreakpointBytes env info install).2 = false ∧
        ((s.writeNativeBreakpointBytes env info install).1.core = (s.withBytes info install).core ∧
            env.flushInstructionCache = false ∨
          (s.writeNativeBreakpointBytes env info install).1.core = s.core) := by
  unfold writeNativeBreakpointBytes writeProcessMemory withBytes
  split
  · exact .inr ⟨rfl, .inr rfl⟩
  · generalize (if install = true then info.patch else info.originals) = bytes
    by_cases hwrite : (env.writeProcessMemory && userRange info.offset bytes.length) = true
    · by_cases hflush : env.flushInstructionCache = true
      · left
        simp only [hwrite, hflush, if_true]
      · right
        simp only [hwrite, hflush, if_true]
        exact ⟨rfl, .inl ⟨rfl, by simp⟩⟩
    · right
      simp only [hwrite]
      exact ⟨rfl, .inr rfl⟩

end Session

end TitanEngine

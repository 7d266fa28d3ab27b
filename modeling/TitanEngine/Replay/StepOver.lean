import TitanEngine.Replay.Watchpoints

/-! A step over a recorded call: what is recorded from the call on, where the movement of the
step ends, and when that is where the very call has returned. -/
namespace TitanEngine

/-- An access in the recording, with the call depth of its thread. -/
structure RecordedAccess where
  result : MemoryWatchpointResult
  view : ThreadView
  depth : ℕ

def RecordedAccess.hit (a : RecordedAccess) : TtdWatchHit := TtdSession.hitOf a.result a.view

/-- What all threads do from a call on: the accesses until the call has returned, and those
after the execution at the return address. -/
structure RecordedCall where
  thread : ThreadInfo
  returnAddress : ULONG64
  size : ULONG64
  depth : ℕ
  returned : TtdPosition
  inside : List RecordedAccess
  after : List RecordedAccess
  valid : thread.uniqueId ≠ 0
  address : returnAddress ≠ 0
  touches : size ≠ 0
  deeper : ∀ a ∈ inside, a.view.thread.uniqueId = thread.uniqueId → depth < a.depth
  before : ∀ a ∈ inside, a.view.position < returned
  behind : ∀ a ∈ after, returned ≤ a.view.position

namespace RecordedCall

/-- The thread is back at the depth of the call and executes at the return address. -/
def back (call : RecordedCall) : RecordedAccess :=
  ⟨⟨call.returnAddress, call.size, .execute⟩, ⟨call.thread, call.returned⟩, call.depth⟩

def ahead (call : RecordedCall) : List RecordedAccess := call.inside ++ call.back :: call.after

end RecordedCall

/-- A watchpoint asks for the kind of the access and for one of its bytes. -/
def MemoryWatchpointData.Covers (watchpoint : MemoryWatchpointData) (access : MemoryWatchpointResult) :
    Prop :=
  access.accessType.mask &&& watchpoint.accessMask ≠ 0 ∧
    watchpoint.address.toNat < access.address.toNat + access.size.toNat ∧
    access.address.toNat < watchpoint.address.toNat + watchpoint.size.toNat

instance (watchpoint : MemoryWatchpointData) (access : MemoryWatchpointResult) :
    Decidable (watchpoint.Covers access) :=
  inferInstanceAs (Decidable (_ ∧ _))

namespace TtdSession

def Watched (access : MemoryWatchpointResult) (t : TtdSession) : Prop :=
  ∃ watchpoint ∈ t.gTtdCursor.getD [], watchpoint.Covers access

/-- The access ends a replay: the engine reports it, and the callback accepts it. -/
def StopsAt (a : RecordedAccess) (t : TtdSession) : Prop := t.Watched a.result ∧ t.Answers a.hit

instance (access : MemoryWatchpointResult) (t : TtdSession) : Decidable (t.Watched access) :=
  inferInstanceAs (Decidable (∃ watchpoint ∈ t.gTtdCursor.getD [], watchpoint.Covers access))

instance (a : RecordedAccess) (t : TtdSession) : Decidable (t.Answers a.hit) :=
  decidable_of_iff _ (callback_accepts_iff a.result a.view t)

instance (a : RecordedAccess) (t : TtdSession) : Decidable (t.StopsAt a) :=
  inferInstanceAs (Decidable (_ ∧ _))

end TtdSession

/-- The work runs a callback of the client's. -/
def TtdWork.Calls (work : TtdWork) (callback : Callback) : Bool :=
  match work with
  | .breakpoint _ called | .memoryBreakpoint _ called | .pause called => called = some callback
  | .step called => called = callback
  | _ => false

namespace TtdSession

/-- A step over a call, and the delivery of some of what it has queued. -/
def beginStepOver (answers : StepAnswers) (callback : Callback) (deliveries : ℕ) (t : TtdSession) :
    TtdSession := (t.ttdStep answers true (some callback)).deliverQueued deliveries

/-- The movement ends where the very call has returned, and the callback is run for that once. -/
structure StepsOver (answers : StepAnswers) (runAnswers : RunAnswers) (call : RecordedCall)
    (callback : Callback) (deliveries : ℕ) (t : TtdSession) : Prop where
  ends : (((t.beginStepOver answers callback deliveries).runTtd runAnswers false).1).cursor.position =
    call.returned
  once : ((t.ttdStep answers true (some callback)).queuedSince t ++
      ((t.beginStepOver answers callback deliveries).runTtd runAnswers false).1.queuedSince
        (t.beginStepOver answers callback deliveries)).filter (·.Calls callback) =
    [.breakpoint call.back.hit (some callback)]

/-- The watchpoints while a step over a call goes on. -/
def watchpointsOver (call : RecordedCall) (t : TtdSession) : List MemoryWatchpointData :=
  if (t.findSoftware call.returnAddress).isSome then t.gTtdCursor.getD []
  else ⟨call.returnAddress, 1, ACCESS_EXECUTE⟩ :: t.gTtdCursor.getD []

/-- The record that a step over a call adds. -/
def temporary (call : RecordedCall) (callback : Callback) (t : TtdSession) : BreakpointInfo :=
  { BreakpointInfo.blank with
    id := t.bps.gNextNativeBreakpointId
    callback := some callback
    offset := call.returnAddress
    oneShot := true
    ttdThreadAffinity := call.thread.uniqueId }

/-- The tables while a step over a call goes on. -/
structure Armed (call : RecordedCall) (callback : Callback) (t u : TtdSession) : Prop where
  code : u.bps.gBreakpoints =
    if (t.findSoftware call.returnAddress).isSome then t.bps.gBreakpoints
    else t.bps.gBreakpoints.insertIfNew t.bps.gNextNativeBreakpointId (t.temporary call callback)
  data : u.bps.gMemoryBreakpoints = t.bps.gMemoryBreakpoints
  watched : ∀ watchpoint, watchpoint ∈ u.gTtdCursor.getD [] ↔ watchpoint ∈ t.watchpointsOver call

theorem Armed.congr {call : RecordedCall} {callback : Callback} {t u v : TtdSession}
    (h : t.Armed call callback u) (hbps : v.bps = u.bps) (hcursor : v.gTtdCursor = u.gTtdCursor) :
    t.Armed call callback v := by
  obtain ⟨hcode, hdata, hwatched⟩ := h
  rw [← hbps] at hcode hdata
  rw [← hcursor] at hwatched
  exact ⟨hcode, hdata, hwatched⟩

section Run
variable {answers : RunAnswers} {call : RecordedCall} {u : TtdSession}

end Run

section Armed
variable {call : RecordedCall} {callback : Callback} {t u : TtdSession}

end Armed

end TtdSession

/-- A call at the start of the short trace, in which a worker thread executes the return
address as well. -/
def peeredCall : RecordedCall where
  thread := mainThread
  returnAddress := 0x401005
  size := 3
  depth := 1
  returned := ⟨6, 0⟩
  inside := [⟨⟨0x401005, 3, .execute⟩, ⟨⟨2, 0x200⟩, ⟨4, 0⟩⟩, 1⟩]
  after := []
  valid := by decide
  address := by decide
  touches := by decide
  deeper := by decide
  before := by decide
  behind := by decide

/-- The engine executes the call. -/
def callAnswers : StepAnswers where
  attempt _ := ⟨.stepCount, 1, ⟨⟨2, 0⟩, mainThread⟩, []⟩
  calls _ := [(0x401005, some mainThread)]
  setPositionOnThread _ position := ⟨position, mainThread⟩

/-- The engine reports accesses and stops at the last of them. -/
def stoppedAnswers (accesses : List RecordedAccess) (stop : TtdPosition) : RunAnswers where
  replay _ _ := ⟨.memoryWatchpoint, 2, ⟨stop, mainThread⟩, accesses.map fun a => (a.result, some a.view)⟩
  singleStep _ _ := ⟨.stepCount, 0, ⟨stop, mainThread⟩, []⟩
  park := ⟨.stepCount, 0, ⟨stop, mainThread⟩, []⟩
  setPositionOnThread _ position := ⟨position, mainThread⟩

end TitanEngine

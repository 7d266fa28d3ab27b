import TitanEngine.Model.Runs

/-! A thread that stands at a call instruction: where the engine stops it next, and what a
step over the call comes to. -/
namespace TitanEngine
open Relation

/-- What a thread executes from a call on, instruction by instruction. -/
structure CallTrace where
  ip : ℕ → ULONG_PTR
  depth : ℕ → ℕ
  returned : ℕ
  called : depth 1 = depth 0 + 1
  inside : ∀ n, 0 < n → n < returned → depth 0 < depth n
  back : depth returned = depth 0
  later : 0 < returned

/-- The thread has stopped after `position` instructions, and the round of the loop is over. -/
structure CallStop where
  position : ℕ
  session : Session
  outcome : Outcome

namespace CallTrace

/-- A thread with its trap flag set traps after one instruction, whatever the status is. A
step over goes on to where the call depth is no greater than at its start. -/
inductive StopsAt (c : CallTrace) (n : ℕ) (status : ExecutionStatus) (flags : ULONG_PTR) : ℕ → Prop
  | trap (set : flags &&& TRAP_FLAG ≠ 0) : c.StopsAt n status flags (n + 1)
  | into (asked : status = .stepInto) : c.StopsAt n status flags (n + 1)
  | stepped {m : ℕ} (clear : flags &&& TRAP_FLAG = 0) (asked : status = .stepOver) (later : n < m)
      (level : c.depth m ≤ c.depth n) (deeper : ∀ i, n < i → i < m → c.depth n < c.depth i) :
      c.StopsAt n status flags m

end CallTrace

/-- The thread stands at an instruction. -/
def Session.standing (thread : ULONG) (ip : ULONG_PTR) (depth : ℕ) (s : Session) : Session :=
  { s with target.ip := Function.update s.target.ip thread ip
           target.depth := Function.update s.target.depth thread depth }

namespace CallTrace

/-- The next stop of the thread where nothing else stops the target. It comes with no event
callback or as a single-step exception. -/
inductive Next (c : CallTrace) (k : Client) (thread : ULONG) : CallStop → CallStop → Prop
  | stop {a : CallStop} {status : ExecutionStatus} {m : ℕ} {env : Env} {report : List (Env × Work)}
      (resumed : a.outcome = .resumed status)
      (stops : c.StopsAt a.position status (a.session.target.eflags thread) m)
      (current : env.currentThreadId = some thread)
      (reported : report = [] ∨ ∃ info : EXCEPTION_DEBUG_INFO, info.code = EXCEPTION_SINGLE_STEP ∧
        report = [(env, .exception info)]) :
      c.Next k thread a
        ⟨m, ((a.session.standing thread (c.ip m) (c.depth m)).debugLoop k env report).1,
          ((a.session.standing thread (c.ip m) (c.depth m)).debugLoop k env report).2⟩

end CallTrace

/-- Where the thread stood whenever a step callback was run for it, the latest run first. -/
def stepCalls (thread : ULONG) (callback : Callback) (log : List Entry) : List (ULONG_PTR × ℕ) :=
  log.filterMap fun
    | .invoke (.step thread' callback' ip depth) =>
      if thread' = thread ∧ callback' = callback then some (ip, depth) else none
    | _ => none

def stepAsks (thread : ULONG) (callback : Callback) (log : List Entry) : ℕ :=
  log.count (.stepRequested thread (some callback))

/-- What the observer has noted down since an earlier stop. -/
def CallStop.since (stop start : CallStop) : List Entry :=
  stop.session.log.take (stop.session.log.length - start.session.log.length)

/-- The callback of a step that has been asked for before `start` is run where the call has
returned, and once, unless it has been asked for again. -/
def CallTrace.SteppedOver (c : CallTrace) (k : Client) (thread : ULONG) (callback : Callback)
    (start : CallStop) : Prop :=
  ∀ stop, ReflTransGen (c.Next k thread) start stop →
    stepCalls thread callback (stop.since start) = [] ∧ (∃ stop', c.Next k thread stop stop') ∨
      (stepCalls thread callback (stop.since start)).getLast? = some (c.ip c.returned, c.depth 0) ∧
        (stepCalls thread callback (stop.since start)).length ≤
          stepAsks thread callback (stop.since start) + 1

/-- Calls that see the thread of the event as the current one. -/
def onThread (thread : ULONG) : Rules :=
  ⟨fun env _ _ => env.currentThreadId = some thread, fun _ _ _ => True, fun _ _ => True⟩

namespace Session

/-- What the adapter knows of a thread that it has been told of: its handle, and that it
traps while an internal step of it is pending. -/
structure Known (thread : ULONG) (s : Session) : Prop where
  named : ∃ handle, s.gDebugIdMap.threadIndexToHandle[thread]? = some handle ∧
    s.gDebugIdMap.threadHandleToIndex[handle]? = some thread
  traps : thread ∈ s.steps.gInternalStepCallbacks → s.target.eflags thread &&& TRAP_FLAG ≠ 0

end Session

/-- The callback of a breakpoint, where it has one. -/
def BreakpointInfo.invocation (info : BreakpointInfo) : Option Invocation :=
  match info.kind with
  | .hardware => info.hardwareCallback.map fun callback => .hardwareBreakpoint callback info.offset
  | .software => info.callback.map .softBreakpoint

/-- A hit of a breakpoint that stays armed: the client is called with `inv` in a session, and
the session at the end of the hit, where the re-arm has been asked for. -/
inductive ArmedHit (k : Client) (env : Env) (info : EXCEPTION_DEBUG_INFO) (s : Session) :
    Invocation → Session → Session → Prop
  | page {accessType accessAddress : ULONG_PTR} {rest : List ULONG_PTR}
      {pageInfo : MemoryBreakpointPage} {bp : MemoryBreakpointInfo} {callback : Callback}
      {called : Session}
      (code : info.code = STATUS_GUARD_PAGE_VIOLATION ∨ info.code = EXCEPTION_ACCESS_VIOLATION)
      (parameters : info.parameters = accessType :: accessAddress :: rest)
      (watched : s.bps.gMemoryBreakpointPages[s.pageAddress accessAddress]? = some pageInfo)
      (hit : s.hitMemoryBreakpoint accessType accessAddress pageInfo.breakpointIds.toList = some bp)
      (valid : bp.id ≠ 0) (given : bp.callback = some callback)
      (entered : called =
        if bp.restoreOnHit then (((s.setFakeDebugEvent env (.exception info)).setFakeDebugEvent env
          (.exception info)).beginDebugEvent k false)
        else ((((s.setFakeDebugEvent env (.exception info)).setFakeDebugEvent env
          (.exception info)).beginDebugEvent k false).removeMemoryBreakpointById env bp.id).1)
      (armed : s.pageAddress accessAddress ∈
        (k.call (.memoryBreakpoint callback accessAddress) called).bps.gMemoryBreakpointPages) :
      ArmedHit k env info s (.memoryBreakpoint callback accessAddress) called
        (((k.call (.memoryBreakpoint callback accessAddress) called).protectMemoryBreakpointPage env
          (s.pageAddress accessAddress) false).1.scheduleMemoryBreakpointRearm env
            (s.pageAddress accessAddress))
  | native {id : ULONG} {bpInfo : BreakpointInfo} {lifted : Session} {inv : Invocation}
      (code : info.code = EXCEPTION_BREAKPOINT ∨ info.code = EXCEPTION_ILLEGAL_INSTRUCTION)
      (own : ¬ (info.code = EXCEPTION_BREAKPOINT ∧ s.gExpectSystemBreakpoint = true))
      (found : s.findNative info.address = some (id, bpInfo))
      (written : (s.setFakeDebugEvent env (.exception info)).writeNativeBreakpointBytes env bpInfo
        false = (lifted, true))
      (given : bpInfo.invocation = some inv) (persistent : bpInfo.oneShot = false)
      (armed : id ∈
        (k.call inv ((lifted.enterNativeHit env id bpInfo).beginDebugEvent k false)).bps.gBreakpoints) :
      ArmedHit k env info s inv ((lifted.enterNativeHit env id bpInfo).beginDebugEvent k false)
        ((k.call inv ((lifted.enterNativeHit env id bpInfo).beginDebugEvent k false)).scheduleInternalStep
          env (.rearmBreakpoint id))

/-- Among what the client does at `inv` is a step over that the adapter accepts. -/
def Client.StepsOver (k : Client) (thread : ULONG) (callback : Callback) (inv : Invocation)
    (s : Session) : Prop :=
  ∃ (a : Session) (env : Env),
    ReflTransGen (CallStep (onThread thread)) { s with log := .invoke inv :: s.log } a ∧
      env.currentThreadId = some thread ∧ a.pauseLock = true ∧ thread ∉ a.steps.gStepCallbacks ∧
      ReflTransGen (CallStep (onThread thread)) (ApiCall.run env (.stepOver (some callback)) a).1
        (k.call inv s)

end TitanEngine

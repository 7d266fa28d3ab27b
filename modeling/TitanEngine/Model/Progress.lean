import TitanEngine.Model.Causes

/-! Threads that execute one instruction after the other, and the breakpoints that they have
to get past. -/
namespace TitanEngine
open FlatMemory

/-- What the processor makes of the bytes from an address on: how long the instruction is,
and whether they are one at all. Both are told by the bytes of the instruction itself. -/
structure Decoder where
  length : List BYTE → ℕ
  undefined : List BYTE → Prop
  pos : ∀ bytes, 0 < length bytes
  -- `INT n` and the two-byte opcodes.
  two : ∀ byte bytes, byte = 0xCD ∨ byte = 0x0F → 2 ≤ length (byte :: bytes)
  told : ∀ bytes bytes', bytes'.take (length bytes) = bytes.take (length bytes) →
    length bytes' = length bytes ∧ (undefined bytes' ↔ undefined bytes)

namespace Decoder
variable (d : Decoder)

/-- No instruction is longer. -/
def window (memory : Memory 64 BYTE) (address : ULONG_PTR) : List BYTE := memory.read address 15

/-- Where the bytes of the instruction at `address` lie. -/
def bytes (memory : Memory 64 BYTE) (address : ULONG_PTR) : Set ULONG_PTR :=
  {x | InRange address (d.length (window memory address)) x}

/-- The exceptions that look like the one of a patch. -/
inductive Traps (memory : Memory 64 BYTE) (address : ULONG_PTR) (info : EXCEPTION_DEBUG_INFO) : Prop
  | int3 (bytes : memory.read address 1 = [0xCC]) (code : info.code = EXCEPTION_BREAKPOINT)
      (address : info.address = address)
  | longInt3 (bytes : memory.read address 2 = [0xCD, 0x03]) (code : info.code = EXCEPTION_BREAKPOINT)
      (address : info.address = address ∨ info.address = address + 1)
  | ud2 (bytes : memory.read address 2 = [0x0F, 0x0B] ∨ d.undefined (window memory address))
      (code : info.code = EXCEPTION_ILLEGAL_INSTRUCTION) (address : info.address = address)

end Decoder

/-- No patch is among the `n` bytes from `address` on. -/
def Session.Unpatched (address : ULONG_PTR) (n : ℕ) (s : Session) : Prop :=
  ∀ (id : ULONG) (bp : BreakpointInfo), s.bps.gBreakpoints[id]? = some bp → bp.Installed s →
    ∀ x, InRange bp.offset bp.patchSize x → ¬ InRange address n x

/-- The instruction at `address` is the target's own, and raises nothing that looks like a patch. -/
structure Session.Clear (d : Decoder) (address : ULONG_PTR) (s : Session) : Prop where
  unpatched : s.Unpatched address (d.length (Decoder.window s.target.memory address))
  silent : ∀ info, ¬ d.Traps s.target.memory address info

/-- Whether a thread that is to get past an address has been hit there, or is past it. -/
def Entry.past (thread : ULONG) (address : ULONG_PTR) : Entry → Option Bool
  | .hit thread' address' =>
    if thread' = some thread ∧ address' = address then some false else none
  | .executed thread' address' =>
    if thread' = thread ∧ address' = address then some true else none
  -- An `INT 3` in its two-byte encoding is reported one byte past its start.
  | .delivered thread' address' =>
    if thread' = some thread ∧ (address' = address ∨ address' = address + 1) then some true else none
  | .exited thread' => if thread' = thread then some true else none
  | _ => none

/-- The thread has been hit at the address and has not got past it. -/
def Owes (thread : ULONG) (address : ULONG_PTR) (log : List Entry) : Prop :=
  log.findSome? (Entry.past thread address) = some false

instance (thread : ULONG) (address : ULONG_PTR) (log : List Entry) :
    Decidable (Owes thread address log) :=
  inferInstanceAs (Decidable (_ = _))

/-- Every hit is one of a thread that has got past the address since it was last hit there. -/
def Session.Progresses (s : Session) : Prop :=
  ∀ (thread : ULONG) (address : ULONG_PTR) (older : List Entry),
    .hit (some thread) address :: older <:+ s.log → ¬ Owes thread address older

/-- A session, and the breakpoint exceptions at which threads wait to be handled. -/
structure HaltedSession where
  session : Session
  halted : List (ULONG × EXCEPTION_DEBUG_INFO) := []

/-- What a session does under the rules beside its threads' instructions and breakpoint exceptions.
Nothing else gets a thread past a breakpoint that it has been hit at. -/
def Rules.betweenHits (rules : Rules) : Rules where
  call := rules.call
  work env work s := rules.work env work s ∧ otherWork.work env work s
  target s target := rules.target s target ∧ ∀ (thread : ULONG) (address : ULONG_PTR),
    Owes thread address s.log → target.ip thread = s.target.ip thread

/-- The thread has executed the instruction at which it stood, where that was the target's own. -/
inductive Session.Executes (d : Decoder) (thread : ULONG) (s : Session) : Target → Session → Prop
  | whole {target : Target}
      (own : s.Unpatched (s.target.ip thread)
        (d.length (Decoder.window s.target.memory (s.target.ip thread)))) :
      s.Executes d thread target
        { s with target := target, log := .executed thread (s.target.ip thread) :: s.log }
  | garbled {target : Target}
      (patched : ¬ s.Unpatched (s.target.ip thread)
        (d.length (Decoder.window s.target.memory (s.target.ip thread)))) :
      s.Executes d thread target { s with target := target }

/-- What happens in the session `s₀`, in all that the rules allow. -/
inductive HaltedRun (d : Decoder) (rules : Rules) (s₀ : Session) : HaltedSession → Prop
  | start : HaltedRun d rules s₀ { session := s₀ }
  | step {w : HaltedSession} {s : Session} (before : HaltedRun d rules s₀ w)
      (step : SessionStep rules.betweenHits w.session s) : HaltedRun d rules s₀ { w with session := s }
  | trap {w : HaltedSession} {thread : ULONG} {info : EXCEPTION_DEBUG_INFO}
      (before : HaltedRun d rules s₀ w) (running : w.session.gPaused = false)
      (free : ∀ halt ∈ w.halted, halt.1 ≠ thread)
      (traps : d.Traps w.session.target.memory (w.session.target.ip thread) info) :
      HaltedRun d rules s₀ { w with halted := (thread, info) :: w.halted }
  -- An instruction that is executed can end in an exception of any kind, as a call of
  -- `RaiseException` does.
  | execute {w : HaltedSession} {thread : ULONG} {target : Target} {s : Session}
      {raised : Option EXCEPTION_DEBUG_INFO} (before : HaltedRun d rules s₀ w)
      (running : w.session.gPaused = false) (free : ∀ halt ∈ w.halted, halt.1 ≠ thread)
      (silent : ∀ info, ¬ d.Traps w.session.target.memory (w.session.target.ip thread) info)
      (others : ∀ other, other ≠ thread → target.ip other = w.session.target.ip other)
      (allowed : rules.target w.session target) (executes : w.session.Executes d thread target s) :
      HaltedRun d rules s₀ ⟨s, (raised.map fun info => (thread, info)).toList ++ w.halted⟩
  | deliver {w : HaltedSession} {k : Client} {env env' : Env} {thread : ULONG}
      {info : EXCEPTION_DEBUG_INFO} {rest : List (Env × Work)}
      {earlier later : List (ULONG × EXCEPTION_DEBUG_INFO)} {s : Session} {done : Bool}
      (before : HaltedRun d rules s₀ w) (follows : k.Follows rules.betweenHits)
      (paused : w.session.gPaused = true) (current : env.currentThreadId = some thread)
      (queued : w.session.gCallbackQueue = (env, .exception info) :: rest)
      (waiting : w.halted = earlier ++ (thread, info) :: later)
      (allowed : rules.work env (.exception info) w.session)
      (handled : (Work.exception info).run k env (w.session.dequeue rest) = (s, done)) :
      HaltedRun d rules s₀ ⟨if done then s else (s.applyExecutionStatus env').1, earlier ++ later⟩

end TitanEngine

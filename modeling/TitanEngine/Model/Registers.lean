import Mathlib.Logic.Function.Basic
import TitanEngine.Lib.Lanes
import TitanEngine.Model.Types

/-! `RegisterCache`, `DebugThreadScope` and the register exports of a paused live session.
DbgEng lists sub-registers beside the registers they are part of, so its list is a list of
lanes over the bits of a thread. A call of DbgEng that fails changes nothing. -/
namespace TitanEngine
open Lanes

inductive DebugValueType
  | invalid | int8 | int16 | int32 | int64 | float32 | float64 | float80 | float82 | float128
  | vector64 | vector128
  deriving DecidableEq

/-- The bits that an integer of the type has. -/
def DebugValueType.integer : DebugValueType → Option ℕ
  | .int8 => some 8
  | .int16 => some 16
  | .int32 => some 32
  | .int64 => some 64
  | _ => none

structure DEBUG_VALUE where
  type : DebugValueType := .invalid
  bits : ℕ → Bool := fun _ => false

inductive TitanRegister
  | eax | ebx | ecx | edx | edi | esi | ebp | esp | eip | eflags
  | dr0 | dr1 | dr2 | dr3 | dr6 | dr7
  | rax | rbx | rcx | rdx | rdi | rsi | rbp | rsp | rip | rflags
  | r8 | r9 | r10 | r11 | r12 | r13 | r14 | r15
  | cip | csp
  | segGs | segFs | segEs | segDs | segCs | segSs
  | x87r (i : Fin 8)
  | x87StatusWord | x87ControlWord | x87TagWord | mxcsr
  | mmx (i : Fin 8) | xmm (i : Fin 16) | st (i : Fin 8) | ymm (i : Fin 16)
  deriving DecidableEq

/-- The names of DbgEng that `TitanRegNameMap` knows, whatever their case. -/
inductive RegisterName
  | eax | ebx | ecx | edx | edi | esi | ebp | esp | eip | efl
  | dr0 | dr1 | dr2 | dr3 | dr6 | dr7
  | rax | rbx | rcx | rdx | rdi | rsi | rbp | rsp | rip
  | r8 | r9 | r10 | r11 | r12 | r13 | r14 | r15
  | gs | fs | es | ds | cs | ss
  | st (i : Fin 8) | fpsw | fpcw | fptw | mxcsr
  | mm (i : Fin 8) | xmm (i : Fin 16) | ymm (i : Fin 16)
  | other
  deriving DecidableEq

/-- The registers that `TitanRegNameMap` and the aliases of `Read` give to a name. -/
def TitanRegNameMap : RegisterName → List TitanRegister
  | .eax => [.eax] | .ebx => [.ebx] | .ecx => [.ecx] | .edx => [.edx]
  | .edi => [.edi] | .esi => [.esi] | .ebp => [.ebp] | .esp => [.esp] | .eip => [.eip]
  | .efl => [.eflags, .rflags]
  | .dr0 => [.dr0] | .dr1 => [.dr1] | .dr2 => [.dr2] | .dr3 => [.dr3] | .dr6 => [.dr6] | .dr7 => [.dr7]
  | .rax => [.rax] | .rbx => [.rbx] | .rcx => [.rcx] | .rdx => [.rdx]
  | .rdi => [.rdi] | .rsi => [.rsi] | .rbp => [.rbp]
  | .rsp => [.rsp, .csp] | .rip => [.rip, .cip]
  | .r8 => [.r8] | .r9 => [.r9] | .r10 => [.r10] | .r11 => [.r11]
  | .r12 => [.r12] | .r13 => [.r13] | .r14 => [.r14] | .r15 => [.r15]
  | .gs => [.segGs] | .fs => [.segFs] | .es => [.segEs]
  | .ds => [.segDs] | .cs => [.segCs] | .ss => [.segSs]
  | .st i => [.x87r i, .st i]
  | .fpsw => [.x87StatusWord] | .fpcw => [.x87ControlWord] | .fptw => [.x87TagWord]
  | .mxcsr => [.mxcsr]
  | .mm i => [.mmx i] | .xmm i => [.xmm i] | .ymm i => [.ymm i]
  | .other => []

/-- What DbgEng tells about its registers. -/
structure RegisterEngine (Cell : Type*) where
  Names : List RegisterName
  lane : ℕ → Lane Cell
  type : ℕ → DebugValueType
  /-- An integer register has as many bits as its type. -/
  width_lane {i w : ℕ} : (type i).integer = some w → (lane i).width = w

namespace RegisterEngine
variable {Cell : Type*}

def Count (e : RegisterEngine Cell) : ℕ := e.Names.length

/-- The last of the registers with the name counts. -/
def TitanRegIndexMap (e : RegisterEngine Cell) (reg : TitanRegister) : Option ℕ :=
  (List.range e.Count).reverse.find? fun i => reg ∈ (e.Names[i]?.map TitanRegNameMap).getD []

theorem lt_Count {e : RegisterEngine Cell} {reg : TitanRegister} {i : ℕ}
    (h : e.TitanRegIndexMap reg = some i) : i < e.Count := by
  have hmem := List.mem_of_find?_eq_some h
  simpa using hmem

end RegisterEngine

/-- The registers that could be read, when `GetValues` does not fail with `E_UNEXPECTED`. -/
abbrev Readout := Option (ℕ → Bool)

def Readout.all : Readout := some fun _ => true

/-- How the engine answers while a `DebugThreadScope` is entered and left. -/
structure ScopeAnswers where
  currentThread : Bool := true
  flushBefore : Bool := true
  select : Bool := true
  readBefore : Readout := .all
  flushAfter : Bool := true
  restore : Bool := true
  readAfter : Readout := .all

structure RegisterSession (Cell Thread : Type*) where
  /-- The bits of each thread, as DbgEng and the system see them. -/
  threads : Thread → Cell → Bool
  current : Thread
  Values : ℕ → DEBUG_VALUE := fun _ => {}
  Changed : ℕ → Bool := fun _ => false
  threadHandleToIndex : HANDLE → Option Thread

/-- `mPreviousIndex` and the flags of a `DebugThreadScope`. -/
structure DebugThreadScope (Thread : Type*) where
  mPreviousIndex : Thread
  mSwitched : Bool := false
  mValid : Bool := false

namespace RegisterSession
variable {Cell Thread : Type*} [DecidableEq Thread] (e : RegisterEngine Cell)

def Read (answer : Readout) (s : RegisterSession Cell Thread) : RegisterSession Cell Thread × Bool :=
  match answer with
  | none => (s, false)
  | some readable =>
    ({ s with Values := fun i =>
        { type := if readable i then e.type i else .invalid,
          bits := (e.lane i).get (s.threads s.current) } }, true)

/-- The bits of the current thread once the changed registers are written. -/
def flushed (s : RegisterSession Cell Thread) : Cell → Bool :=
  storeMarked e.lane (fun i => (s.Values i).bits) s.Changed e.Count (s.threads s.current)

def Flush (ok : Bool) (s : RegisterSession Cell Thread) : RegisterSession Cell Thread × Bool :=
  if (List.range e.Count).filter s.Changed = [] then (s, true)
  else if ok then
    ({ s with threads := Function.update s.threads s.current (s.flushed e), Changed := fun _ => false },
      true)
  else (s, false)

/-- An integer, cut to the member of the union that the type of the value selects. -/
def integerBits {n : ℕ} (width : ℕ) (newValue : BitVec n) (k : ℕ) : Bool :=
  decide (k < width) && newValue.getLsbD k

/-- The cached register takes the value and waits to be written. -/
def mark (i : ℕ) (bits : ℕ → Bool) (s : RegisterSession Cell Thread) : RegisterSession Cell Thread :=
  { s with
    Values := Function.update s.Values i { s.Values i with bits := bits }
    Changed := Function.update s.Changed i true }

def SetValue (reg : TitanRegister) (newValue : ULONG_PTR) (s : RegisterSession Cell Thread) :
    RegisterSession Cell Thread × Bool :=
  match e.TitanRegIndexMap reg with
  | none => (s, false)
  | some i =>
    match (s.Values i).type.integer with
    | none => (s, false)
    | some width => (s.mark i (integerBits width newValue), true)

/-- The integer that a value holds, and zero for a value of another type. -/
def integerOf (v : DEBUG_VALUE) : ULONG_PTR :=
  match v.type.integer with
  | none => 0
  | some width => word 64 fun k => decide (k < width) && v.bits k

def GetValue (reg : TitanRegister) (s : RegisterSession Cell Thread) : ULONG_PTR :=
  match e.TitanRegIndexMap reg with
  | none => 0
  | some i => integerOf (s.Values i)

/-- It is written with the next flush of the current thread. -/
def setCurrentInstructionPointer (address : ULONG_PTR) (s : RegisterSession Cell Thread) :
    RegisterSession Cell Thread :=
  (s.SetValue e .cip address).1

/-- The constructor of `DebugThreadScope`, for a handle that is known. -/
def enterScope (a : ScopeAnswers) (requestedIndex : Thread) (s : RegisterSession Cell Thread) :
    RegisterSession Cell Thread × DebugThreadScope Thread :=
  let scope : DebugThreadScope Thread := { mPreviousIndex := s.current }
  if ¬ a.currentThread then (s, scope)
  else if requestedIndex = s.current then (s, { scope with mValid := true })
  else
    let (s, written) := s.Flush e a.flushBefore
    if ¬ written then (s, scope)
    else if ¬ a.select then (s, scope)
    else
      let (s, valid) := { s with current := requestedIndex }.Read e a.readBefore
      (s, { scope with mSwitched := true, mValid := valid })

def leaveScope (a : ScopeAnswers) (scope : DebugThreadScope Thread) (s : RegisterSession Cell Thread) :
    RegisterSession Cell Thread :=
  if ¬ scope.mSwitched then s
  else
    let s := (s.Flush e a.flushAfter).1
    if a.restore then ({ s with current := scope.mPreviousIndex }.Read e a.readAfter).1 else s

/-- The body of an export runs on the thread of the handle. -/
def inThread {α : Type*} (a : ScopeAnswers) (hThread : HANDLE) (failed : α)
    (body : Thread → RegisterSession Cell Thread → RegisterSession Cell Thread × α)
    (s : RegisterSession Cell Thread) : RegisterSession Cell Thread × α :=
  match s.threadHandleToIndex hThread with
  | none => (s, failed)
  | some thread =>
    let (s, scope) := s.enterScope e a thread
    if ¬ scope.mValid then (s.leaveScope e a scope, failed)
    else
      let (s, result) := body thread s
      (s.leaveScope e a scope, result)

def GetContextDataEx (a : ScopeAnswers) (hActiveThread : HANDLE) (IndexOfRegister : TitanRegister)
    (s : RegisterSession Cell Thread) : RegisterSession Cell Thread × ULONG_PTR :=
  s.inThread e a hActiveThread 0 fun _ s => (s, s.GetValue e IndexOfRegister)

def SetContextDataEx (a : ScopeAnswers) (flush : Bool) (hActiveThread : HANDLE)
    (IndexOfRegister : TitanRegister) (NewRegisterValue : ULONG_PTR) (s : RegisterSession Cell Thread) :
    RegisterSession Cell Thread × Bool :=
  s.inThread e a hActiveThread false fun _ s =>
    let assigned := s.SetValue e IndexOfRegister NewRegisterValue
    if ¬ assigned.2 then (assigned.1, false) else assigned.1.Flush e flush

end RegisterSession

end TitanEngine

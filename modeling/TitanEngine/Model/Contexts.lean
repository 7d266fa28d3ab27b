import Mathlib.Data.List.FinRange
import TitanEngine.Model.Registers

/-! The exports for whole thread contexts. General registers go through the register cache,
the extended state through `GetThreadContext` and `SetThreadContext` on a native buffer. -/
namespace TitanEngine
open Lanes

structure X87FPU where
  ControlWord : BitVec 16 := 0
  StatusWord : BitVec 16 := 0
  TagWord : BitVec 16 := 0
  ErrorOffset : DWORD := 0
  ErrorSelector : DWORD := 0
  DataOffset : DWORD := 0
  DataSelector : DWORD := 0

structure YmmRegister where
  Low : BitVec 128 := 0
  High : BitVec 128 := 0
  deriving DecidableEq

structure ZmmRegister where
  Low : YmmRegister := {}
  High : YmmRegister := {}
  deriving DecidableEq

structure TITAN_ENGINE_CONTEXT where
  cax : ULONG_PTR := 0
  ccx : ULONG_PTR := 0
  cdx : ULONG_PTR := 0
  cbx : ULONG_PTR := 0
  csp : ULONG_PTR := 0
  cbp : ULONG_PTR := 0
  csi : ULONG_PTR := 0
  cdi : ULONG_PTR := 0
  r8 : ULONG_PTR := 0
  r9 : ULONG_PTR := 0
  r10 : ULONG_PTR := 0
  r11 : ULONG_PTR := 0
  r12 : ULONG_PTR := 0
  r13 : ULONG_PTR := 0
  r14 : ULONG_PTR := 0
  r15 : ULONG_PTR := 0
  cip : ULONG_PTR := 0
  eflags : ULONG_PTR := 0
  gs : BitVec 16 := 0
  fs : BitVec 16 := 0
  es : BitVec 16 := 0
  ds : BitVec 16 := 0
  cs : BitVec 16 := 0
  ss : BitVec 16 := 0
  dr0 : ULONG_PTR := 0
  dr1 : ULONG_PTR := 0
  dr2 : ULONG_PTR := 0
  dr3 : ULONG_PTR := 0
  dr6 : ULONG_PTR := 0
  dr7 : ULONG_PTR := 0
  /-- Ten bytes for each of the eight registers. -/
  RegisterArea : Fin 8 → BitVec 80 := fun _ => 0
  x87fpu : X87FPU := {}
  MxCsr : DWORD := 0
  XmmRegisters : Fin 16 → BitVec 128 := fun _ => 0
  YmmRegisters : Fin 16 → YmmRegister := fun _ => {}

structure TITAN_ENGINE_CONTEXT_AVX512 where
  ZmmRegisters : Fin 32 → ZmmRegister := fun _ => {}
  Opmask : Fin 8 → ULONG64 := fun _ => 0

/-- The registers that both instruction sets have. -/
theorem sixteen_le_registers : 16 ≤ 32 := by decide

theorem sub_sixteen_lt {i : Fin 32} (h : ¬ i.val < 16) : i.val - 16 < 16 := by
  omega

/-- The context with the lower halves of the `zmm` registers as its `ymm` registers. -/
def TITAN_ENGINE_CONTEXT_AVX512.avx (titcontext : TITAN_ENGINE_CONTEXT_AVX512)
    (avx : TITAN_ENGINE_CONTEXT) : TITAN_ENGINE_CONTEXT :=
  { avx with YmmRegisters := fun i => (titcontext.ZmmRegisters (i.castLE sixteen_le_registers)).Low }

/-- What `SetFullContextDataEx` assigns, in its order. -/
def TITAN_ENGINE_CONTEXT.values (c : TITAN_ENGINE_CONTEXT) : List (TitanRegister × ULONG_PTR) :=
  [(.rax, c.cax), (.rbx, c.cbx), (.rcx, c.ccx),
    (.rdx, c.cdx), (.rsi, c.csi), (.rdi, c.cdi),
    (.rbp, c.cbp), (.rsp, c.csp), (.rip, c.cip),
    (.rflags, c.eflags), (.r8, c.r8), (.r9, c.r9),
    (.r10, c.r10), (.r11, c.r11), (.r12, c.r12),
    (.r13, c.r13), (.r14, c.r14), (.r15, c.r15),
    (.segCs, c.cs.setWidth 64), (.segSs, c.ss.setWidth 64), (.segDs, c.ds.setWidth 64),
    (.segEs, c.es.setWidth 64), (.segFs, c.fs.setWidth 64), (.segGs, c.gs.setWidth 64),
    (.dr0, c.dr0), (.dr1, c.dr1), (.dr2, c.dr2),
    (.dr3, c.dr3), (.dr6, c.dr6), (.dr7, c.dr7),
    (.mxcsr, c.MxCsr.setWidth 64)]

/-- The storage areas of a native context that the exports use. `avx i` is the upper half of
`ymm i`, `zmmHigh i` the upper half of `zmm i`. -/
inductive NativeField
  | controlWord | statusWord | tagWord | errorOffset | errorSelector | dataOffset | dataSelector
  | mxCsr
  | floatRegister (i : Fin 8)
  | xmmRegister (i : Fin 16)
  | avx (i : Fin 16)
  | opmask (i : Fin 8)
  | zmmHigh (i : Fin 16)
  | zmm16 (i : Fin 16)
  deriving DecidableEq

def NativeField.width : NativeField → ℕ
  | .controlWord | .statusWord | .errorSelector | .dataSelector => 16
  | .tagWord => 8
  | .errorOffset | .dataOffset | .mxCsr => 32
  | .floatRegister _ => 80
  | .xmmRegister _ | .avx _ => 128
  | .opmask _ => 64
  | .zmmHigh _ => 256
  | .zmm16 _ => 512

/-- Where the areas lie among the bits of a thread, and what `GetEnabledXStateFeatures` and
`LocateXStateFeature` answer on this machine. -/
structure NativeLayout (Cell : Type*) where
  lane : NativeField → Lane Cell
  width_lane (f : NativeField) : (lane f).width = f.width
  apart {f g : NativeField} : f ≠ g → (lane f).Apart (lane g)
  avxEnabled : Bool := true
  avx512Enabled : Bool := true
  avx512Located : Bool := true

/-- How the engine and the system answer to one export. -/
structure ContextAnswers where
  scope : ScopeAnswers := {}
  flush : Bool := true
  load : Bool := true
  setContext : Bool := true
  read : Readout := .all

section Extended
variable {Cell : Type*} (L : NativeLayout Cell)

def NativeLayout.field (native : Cell → Bool) (n : ℕ) (f : NativeField) : BitVec n :=
  word n ((L.lane f).get native)

/-- The upper halves of the `ymm` registers are left alone where the processor has none. -/
def readExtendedContext (native : Cell → Bool) (titan : TITAN_ENGINE_CONTEXT) : TITAN_ENGINE_CONTEXT :=
  { titan with
    x87fpu := {
      ControlWord := L.field native 16 .controlWord
      StatusWord := L.field native 16 .statusWord
      TagWord := L.field native 16 .tagWord
      ErrorOffset := L.field native 32 .errorOffset
      ErrorSelector := L.field native 32 .errorSelector
      DataOffset := L.field native 32 .dataOffset
      DataSelector := L.field native 32 .dataSelector }
    MxCsr := L.field native 32 .mxCsr
    RegisterArea := fun i => L.field native 80 (.floatRegister i)
    XmmRegisters := fun i => L.field native 128 (.xmmRegister i)
    YmmRegisters := fun i => {
      Low := L.field native 128 (.xmmRegister i)
      High := if L.avxEnabled then L.field native 128 (.avx i) else (titan.YmmRegisters i).High } }

/-- The areas that `writeExtendedContext` fills, in its order. -/
def extendedFields (avxEnabled : Bool) : List NativeField :=
  [.controlWord, .statusWord, .tagWord, .errorOffset, .errorSelector, .dataOffset, .dataSelector,
    .mxCsr] ++ (List.finRange 8).map .floatRegister ++ (List.finRange 16).map .xmmRegister ++
    if avxEnabled then (List.finRange 16).map .avx else []

/-- The legacy area takes the `xmm` registers, not the lower halves of the `ymm` registers. -/
def extendedValue (titan : TITAN_ENGINE_CONTEXT) : NativeField → ℕ → Bool
  | .controlWord => titan.x87fpu.ControlWord.getLsbD
  | .statusWord => titan.x87fpu.StatusWord.getLsbD
  | .tagWord => titan.x87fpu.TagWord.getLsbD
  | .errorOffset => titan.x87fpu.ErrorOffset.getLsbD
  | .errorSelector => titan.x87fpu.ErrorSelector.getLsbD
  | .dataOffset => titan.x87fpu.DataOffset.getLsbD
  | .dataSelector => titan.x87fpu.DataSelector.getLsbD
  | .mxCsr => titan.MxCsr.getLsbD
  | .floatRegister i => (titan.RegisterArea i).getLsbD
  | .xmmRegister i => (titan.XmmRegisters i).getLsbD
  | .avx i => (titan.YmmRegisters i).High.getLsbD
  | .opmask _ | .zmmHigh _ | .zmm16 _ => fun _ => false

def writeExtendedContext (titan : TITAN_ENGINE_CONTEXT) (native : Cell → Bool) : Cell → Bool :=
  storeAll L.lane (extendedValue titan) (extendedFields L.avxEnabled) native

/-- The areas of AVX-512. -/
def avx512Fields : List NativeField :=
  (List.finRange 8).map .opmask ++ (List.finRange 16).map .zmmHigh ++ (List.finRange 16).map .zmm16

def YmmRegister.bits (r : YmmRegister) : BitVec 256 := r.High ++ r.Low

def YmmRegister.ofBits (v : BitVec 256) : YmmRegister := ⟨v.setWidth 128, (v >>> 128).setWidth 128⟩

def ZmmRegister.bits (r : ZmmRegister) : BitVec 512 := r.High.bits ++ r.Low.bits

def ZmmRegister.ofBits (v : BitVec 512) : ZmmRegister :=
  ⟨.ofBits (v.setWidth 256), .ofBits ((v >>> 256).setWidth 256)⟩

def avx512Value (titan : TITAN_ENGINE_CONTEXT_AVX512) : NativeField → ℕ → Bool
  | .opmask i => (titan.Opmask i).getLsbD
  | .zmmHigh i => (titan.ZmmRegisters (i.castLE sixteen_le_registers)).High.bits.getLsbD
  | .zmm16 i => (titan.ZmmRegisters (i.natAdd 16)).bits.getLsbD
  | _ => fun _ => false

def writeAvx512 (titan : TITAN_ENGINE_CONTEXT_AVX512) (native : Cell → Bool) : Cell → Bool :=
  storeAll L.lane (avx512Value titan) avx512Fields native

end Extended

namespace RegisterSession
variable {Cell Thread : Type*} [DecidableEq Thread] (e : RegisterEngine Cell) (L : NativeLayout Cell)

/-- The values are assigned one after the other, up to the first that cannot be. -/
def SetValues (values : List (TitanRegister × ULONG_PTR)) (s : RegisterSession Cell Thread) :
    RegisterSession Cell Thread × Bool :=
  match values with
  | [] => (s, true)
  | (reg, value) :: rest =>
    let assigned := s.SetValue e reg value
    if ¬ assigned.2 then (assigned.1, false) else assigned.1.SetValues rest

def setContext (thread : Thread) (native : Cell → Bool) (s : RegisterSession Cell Thread) :
    RegisterSession Cell Thread :=
  { s with threads := Function.update s.threads thread native }

/-- The general registers, as the cache has them. -/
def generalContext (s : RegisterSession Cell Thread) : TITAN_ENGINE_CONTEXT where
  cax := s.GetValue e .rax
  cbx := s.GetValue e .rbx
  ccx := s.GetValue e .rcx
  cdx := s.GetValue e .rdx
  csi := s.GetValue e .rsi
  cdi := s.GetValue e .rdi
  cbp := s.GetValue e .rbp
  csp := s.GetValue e .rsp
  cip := s.GetValue e .rip
  eflags := s.GetValue e .rflags
  r8 := s.GetValue e .r8
  r9 := s.GetValue e .r9
  r10 := s.GetValue e .r10
  r11 := s.GetValue e .r11
  r12 := s.GetValue e .r12
  r13 := s.GetValue e .r13
  r14 := s.GetValue e .r14
  r15 := s.GetValue e .r15
  cs := (s.GetValue e .segCs).setWidth 16
  ss := (s.GetValue e .segSs).setWidth 16
  ds := (s.GetValue e .segDs).setWidth 16
  es := (s.GetValue e .segEs).setWidth 16
  fs := (s.GetValue e .segFs).setWidth 16
  gs := (s.GetValue e .segGs).setWidth 16
  dr0 := s.GetValue e .dr0
  dr1 := s.GetValue e .dr1
  dr2 := s.GetValue e .dr2
  dr3 := s.GetValue e .dr3
  dr6 := s.GetValue e .dr6
  dr7 := s.GetValue e .dr7
  MxCsr := (s.GetValue e .mxcsr).setWidth 32

def GetFullContextDataEx (a : ContextAnswers) (hActiveThread : HANDLE)
    (s : RegisterSession Cell Thread) : RegisterSession Cell Thread × TITAN_ENGINE_CONTEXT × Bool :=
  s.inThread e a.scope hActiveThread ({}, false) fun thread s =>
    if ¬ a.load then (s, s.generalContext e, false)
    else (s, readExtendedContext L (s.threads thread) (s.generalContext e), true)

def SetFullContextDataEx (a : ContextAnswers) (hActiveThread : HANDLE)
    (titcontext : TITAN_ENGINE_CONTEXT) (s : RegisterSession Cell Thread) :
    RegisterSession Cell Thread × Bool :=
  s.inThread e a.scope hActiveThread false fun thread s =>
    let assigned := s.SetValues e titcontext.values
    if ¬ assigned.2 then (assigned.1, false)
    else
      let flushed := assigned.1.Flush e a.flush
      if ¬ flushed.2 then (flushed.1, false)
      else if ¬ a.load then (flushed.1, false)
      else if ¬ a.setContext then (flushed.1, false)
      else
        (flushed.1.setContext thread
          (writeExtendedContext L titcontext (flushed.1.threads thread))).Read e a.read

def GetAVXContext (a : ContextAnswers) (hActiveThread : HANDLE) (s : RegisterSession Cell Thread) :
    RegisterSession Cell Thread × TITAN_ENGINE_CONTEXT × Bool :=
  s.GetFullContextDataEx e L a hActiveThread

def SetAVXContext (a : ContextAnswers) (hActiveThread : HANDLE) (titcontext : TITAN_ENGINE_CONTEXT)
    (s : RegisterSession Cell Thread) : RegisterSession Cell Thread × Bool :=
  s.SetFullContextDataEx e L a hActiveThread titcontext

/-- How the engine and the system answer to the three stages of the exports for AVX-512. -/
structure Avx512Answers where
  get : ContextAnswers := {}
  set : ContextAnswers := {}
  avx512 : ContextAnswers := {}

def GetAVX512Context (a : Avx512Answers) (hActiveThread : HANDLE) (s : RegisterSession Cell Thread) :
    RegisterSession Cell Thread × TITAN_ENGINE_CONTEXT_AVX512 × Bool :=
  let got := s.GetAVXContext e L a.get hActiveThread
  if ¬ got.2.2 then (got.1, {}, false)
  else
    let low : Fin 32 → ZmmRegister := fun i =>
      if h : i.val < 16 then { Low := got.2.1.YmmRegisters ⟨i, h⟩ } else {}
    got.1.inThread e a.avx512.scope hActiveThread ({ ZmmRegisters := low }, false) fun thread s =>
      if ¬ L.avx512Enabled then (s, { ZmmRegisters := low }, false)
      else if ¬ a.avx512.load then (s, { ZmmRegisters := low }, false)
      else if ¬ L.avx512Located then (s, { ZmmRegisters := low }, false)
      else
        (s, { ZmmRegisters := fun i =>
                if h : i.val < 16 then
                  { low i with High := .ofBits (L.field (s.threads thread) 256 (.zmmHigh ⟨i, h⟩)) }
                else .ofBits (L.field (s.threads thread) 512 (.zmm16 ⟨i - 16, sub_sixteen_lt h⟩))
              Opmask := fun i => L.field (s.threads thread) 64 (.opmask i) }, true)

def SetAVX512Context (a : Avx512Answers) (hActiveThread : HANDLE)
    (titcontext : TITAN_ENGINE_CONTEXT_AVX512) (s : RegisterSession Cell Thread) :
    RegisterSession Cell Thread × Bool :=
  let got := s.GetAVXContext e L a.get hActiveThread
  if ¬ got.2.2 then (got.1, false)
  else
    let set := got.1.SetAVXContext e L a.set hActiveThread (titcontext.avx got.2.1)
    if ¬ set.2 then (set.1, false)
    else
      set.1.inThread e a.avx512.scope hActiveThread false fun thread s =>
        if ¬ L.avx512Enabled then (s, false)
        else if ¬ a.avx512.load then (s, false)
        else if ¬ L.avx512Located then (s, false)
        else if ¬ a.avx512.setContext then (s, false)
        else (s.setContext thread (writeAvx512 L titcontext (s.threads thread))).Read e a.avx512.read

end RegisterSession

end TitanEngine

import TitanEngine.Lib.Loops
import TitanEngine.Lib.PartialMemory
import TitanEngine.Model.MemoryMap

/-! Reading the memory of a replay. The cursor stores what it finds in a buffer of the
process that the adapter runs in, and may do so in pieces of any length. -/
namespace TitanEngine

/-- The memory of the process that the adapter runs in. -/
abbrev HostMemory (b : Build) := FlatMemory.Memory b.bits BYTE

structure BufferView (b : Build) where
  BaseAddress : BitVec b.bits
  Size : BitVec b.bits

structure MemoryBuffer (b : Build) where
  Address : ULONG64
  Memory : BufferView b

/-- A cursor, as far as memory is read through it. `σ` is what it keeps between queries. -/
structure ICursorView (b : Build) (σ : Type) where
  queryMemoryBuffer : ULONG64 → BufferView b → σ → HostMemory b → MemoryBuffer b × σ × HostMemory b

/-- `buffer` points to `size` bytes of the process. -/
def IsBuffer (b : Build) (buffer size : BitVec b.bits) : Prop :=
  size = 0 ∨ buffer ≠ 0 ∧ buffer.toNat + size.toNat ≤ 2 ^ b.bits

namespace TTDReplay

/-- The loop of `ReadMemoryPartial` between two rounds. -/
structure Reading (b : Build) (σ : Type) where
  total : BitVec b.bits := 0
  cursor : σ
  host : HostMemory b

section
variable {b : Build} {σ : Type} (cursor : ICursorView b σ) (address : ULONG64) (buffer size : BitVec b.bits)

/-- The test of the loop and its body; on the right it has left the loop. -/
def readMemoryRound (reading : Reading b σ) : Reading b σ ⊕ Reading b σ :=
  if reading.total < size then
    let current := address + reading.total.setWidth 64
    let destination : BufferView b := ⟨buffer + reading.total, size - reading.total⟩
    let answer := cursor.queryMemoryBuffer current destination reading.cursor reading.host
    let result := answer.1
    if result.Memory.BaseAddress = 0 ∨ result.Address ≠ current ∨ result.Memory.Size = 0 then
      .inr ⟨reading.total, answer.2.1, answer.2.2⟩
    else
      let filled := if result.Memory.Size < size - reading.total then result.Memory.Size
        else size - reading.total
      .inl ⟨reading.total + filled, answer.2.1, answer.2.2⟩
  else .inr reading

/-- What the loop comes to in fewer than `fuel` rounds; it returns `total`. -/
def readMemoryPartial (fuel : ℕ) (state : σ) (host : HostMemory b) : Option (Reading b σ) :=
  Loops.run (readMemoryRound cursor address buffer size) fuel ⟨0, state, host⟩

def readMemory (fuel : ℕ) (state : σ) (host : HostMemory b) : Option (Bool × Reading b σ) :=
  (readMemoryPartial cursor address buffer size fuel state host).map fun reading =>
    (reading.total = size, reading)

/-- The bytes in the buffer once `ReadMemory` has returned true: what the other modules take
as the answer to a read from the trace. -/
def bytesRead (state : σ) (host : HostMemory b) : Option (List BYTE) :=
  match readMemory cursor address buffer size (size.toNat + 1) state host with
  | some (true, reading) => some (reading.host.read buffer size.toNat)
  | _ => none

end

end TTDReplay

/-- What `MemoryReadUnsafe` does in a replay: its answer, the last error that it sets and
the count that it stores for the caller. -/
structure ReplayRead (b : Build) (σ : Type) where
  result : Bool
  lastError : Option DWORD := none
  numberOfBytesRead : Option (BitVec b.bits) := none
  reading : TTDReplay.Reading b σ

/-- `MemoryReadUnsafe` once it has found that a trace is replayed; `known` tells whether the
process handle is in the tables. -/
def memoryReadReplay {b : Build} {σ : Type} (cursor : Option (ICursorView b σ)) (known : Bool)
    (lpBaseAddress lpBuffer nSize : BitVec b.bits) (fuel : ℕ) (state : σ) (host : HostMemory b) :
    Option (ReplayRead b σ) :=
  match cursor with
  | none => some ⟨false, some ERROR_INVALID_HANDLE, none, ⟨0, state, host⟩⟩
  | some cursor =>
    if !known ∨ 2 ^ 32 ≤ nSize.toNat then
      some ⟨false, some ERROR_INVALID_PARAMETER, none, ⟨0, state, host⟩⟩
    else
      (TTDReplay.readMemoryPartial cursor (lpBaseAddress.setWidth 64) lpBuffer nSize fuel state host).map
        fun reading =>
          ⟨reading.total = nSize, if reading.total = nSize then none else some ERROR_PARTIAL_COPY,
            some reading.total, reading⟩

/-- What the header says of `QueryMemoryBuffer`, for a cursor over `memory`: from the address
on it fills as much of the buffer as it likes to, at least a byte if that one is available,
and returns what it has filled. -/
structure ICursorView.Serves {b : Build} {σ : Type} (cursor : ICursorView b σ)
    (memory : PartialMemory.Memory 64 BYTE) : Prop where
  writes : ∀ address view state host x,
    ¬ FlatMemory.InRange view.BaseAddress view.Size.toNat x →
      (cursor.queryMemoryBuffer address view state host).2.2 x = host x
  fills : ∀ address view state host, view.BaseAddress ≠ 0 → view.Size ≠ 0 →
    (memory address).isSome = true →
      ∃ size : BitVec b.bits, size ≠ 0 ∧ size ≤ view.Size ∧
        (cursor.queryMemoryBuffer address view state host).1 = ⟨address, view.BaseAddress, size⟩ ∧
        PartialMemory.Copied memory address (cursor.queryMemoryBuffer address view state host).2.2
          view.BaseAddress size.toNat
  misses : ∀ address view state host, memory address = none →
    (cursor.queryMemoryBuffer address view state host).1.Memory.BaseAddress = 0 ∨
      (cursor.queryMemoryBuffer address view state host).1.Memory.Size = 0

/-- The cursor writes nothing but what it returns. -/
def ICursorView.Exact {b : Build} {σ : Type} (cursor : ICursorView b σ) : Prop :=
  ∀ address view state host x,
    ¬ ((cursor.queryMemoryBuffer address view state host).1.Memory.BaseAddress ≠ 0 ∧
      FlatMemory.InRange (cursor.queryMemoryBuffer address view state host).1.Memory.BaseAddress
        (cursor.queryMemoryBuffer address view state host).1.Memory.Size.toNat x) →
      (cursor.queryMemoryBuffer address view state host).2.2 x = host x

end TitanEngine

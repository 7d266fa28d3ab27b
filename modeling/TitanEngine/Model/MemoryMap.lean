import Mathlib.Data.List.Sort
import TitanEngine.Model.Timeline

/-! The memory map of a replay: `MemoryQuerySafe`, for both widths of a pointer. -/
namespace TitanEngine

def MEM_COMMIT : DWORD := 0x1000
def MEM_FREE : DWORD := 0x10000
def MEM_PRIVATE : DWORD := 0x20000
def MEM_IMAGE : DWORD := 0x1000000
def PAGE_NOACCESS : DWORD := 0x01
def PAGE_READWRITE : DWORD := 0x04
def PAGE_EXECUTE_READ : DWORD := 0x20

/-- The builds of the adapter. -/
inductive Build
  | x64 | x86
  deriving DecidableEq

namespace Build

/-- The width of a pointer, of `SIZE_T` and of `ULONG_PTR`. -/
def bits : Build → ℕ
  | x64 => 64
  | x86 => 32

def maximumAddress : Build → ULONG64
  | x64 => 0x0000800000000000
  | x86 => 0x80000000

end Build

structure MEMORY_BASIC_INFORMATION (b : Build) where
  BaseAddress : BitVec b.bits
  AllocationBase : BitVec b.bits
  AllocationProtect : DWORD := 0
  RegionSize : BitVec b.bits
  State : DWORD
  Protect : DWORD
  type : DWORD := 0
  deriving DecidableEq

/-- `sizeof(MEMORY_BASIC_INFORMATION)`. -/
def Build.sizeofInformation : Build → ℕ
  | x64 => 48
  | x86 => 28

/-- The ends of a known range, the upper one outside. -/
abbrev AddressRange := ULONG64 × ULONG64

/-- `address >= start && address < end`. -/
def AddressRange.contains (range : AddressRange) (address : ULONG64) : Bool :=
  range.1 ≤ address ∧ address < range.2

namespace MEMORY_BASIC_INFORMATION
variable (b : Build)

def image (range : AddressRange) : MEMORY_BASIC_INFORMATION b where
  BaseAddress := range.1.setWidth b.bits
  AllocationBase := range.1.setWidth b.bits
  AllocationProtect := PAGE_EXECUTE_READ
  RegionSize := (range.2 - range.1).setWidth b.bits
  State := MEM_COMMIT
  Protect := PAGE_EXECUTE_READ
  type := MEM_IMAGE

def stack (range : AddressRange) : MEMORY_BASIC_INFORMATION b where
  BaseAddress := range.1.setWidth b.bits
  AllocationBase := range.1.setWidth b.bits
  AllocationProtect := PAGE_READWRITE
  RegionSize := (range.2 - range.1).setWidth b.bits
  State := MEM_COMMIT
  Protect := PAGE_READWRITE
  type := MEM_PRIVATE

/-- The page of a TEB, or one with a byte that can be read. -/
def page (page : ULONG64) : MEMORY_BASIC_INFORMATION b where
  BaseAddress := page.setWidth b.bits
  AllocationBase := page.setWidth b.bits
  AllocationProtect := PAGE_READWRITE
  RegionSize := 0x1000
  State := MEM_COMMIT
  Protect := PAGE_READWRITE
  type := MEM_PRIVATE

/-- A gap from `page` on; the difference is taken in 64 bits and cut down to a `SIZE_T`. -/
def free (page next : ULONG64) : MEMORY_BASIC_INFORMATION b where
  BaseAddress := page.setWidth b.bits
  AllocationBase := 0
  RegionSize := (if next - page ≤ 0x1000 then (0x1000 : ULONG64) else next - page).setWidth b.bits
  State := MEM_FREE
  Protect := PAGE_NOACCESS

end MEMORY_BASIC_INFORMATION

/-- A number from its bytes, the lowest first. -/
def littleEndian (bytes : List BYTE) : ULONG64 :=
  BitVec.ofNat 64 (bytes.foldr (fun byte rest => byte.toNat + 256 * rest) 0)

/-- `tib[i]`, of an array of pointers. -/
def tibField (b : Build) (tib : List BYTE) (i : ℕ) : ULONG64 :=
  littleEndian ((tib.drop (i * (b.bits / 8))).take (b.bits / 8))

/-- The address of the page with `address`. -/
def pageStart (address : ULONG64) : ULONG64 := address &&& ~~~0xFFF

namespace MemoryMap
variable (b : Build) (readMemory : ULONG64 → ℕ → Option (List BYTE)) (address : ULONG64)

/-- The loop over the modules: it ends with the region of the one that has the address, or with
the ranges of all. -/
def queryModules : List TtdModuleInfo → List AddressRange →
    MEMORY_BASIC_INFORMATION b ⊕ List AddressRange
  | [], ranges => .inr ranges
  | module :: modules, ranges =>
    if module.size = 0 then queryModules modules ranges
    else
      let range : AddressRange := (module.base, module.base + module.size)
      if range.contains address then .inl (.image b range) else queryModules modules (ranges ++ [range])

/-- The stack of the thread with this TEB, from its `NT_TIB`. -/
def stackRange (teb : ULONG64) : Option AddressRange :=
  if teb = 0 then none
  else
    match readMemory teb (3 * (b.bits / 8)) with
    | none => none
    | some tib =>
      let stackBase := tibField b tib 1
      let stackLimit := tibField b tib 2
      if stackLimit ≠ 0 ∧ stackLimit < stackBase then some (stackLimit, stackBase) else none

def tebRange (teb : ULONG64) : Option AddressRange :=
  if teb = 0 then none else some (pageStart teb, pageStart teb + 0x1000)

/-- The loop over the threads, by their TEBs. -/
def queryThreads : List ULONG64 → List AddressRange → MEMORY_BASIC_INFORMATION b ⊕ List AddressRange
  | [], ranges => .inr ranges
  | teb :: tebs, ranges =>
    let stack := stackRange b readMemory teb
    let ranges := ranges ++ stack.toList
    match stack.filter fun range => range.contains address with
    | some range => .inl (.stack b range)
    | none =>
      let own := tebRange teb
      let ranges := ranges ++ own.toList
      match own.filter fun range => range.contains address with
      | some range => .inl (.page b range.1)
      | none => queryThreads tebs ranges

/-- The order of `std::pair`. -/
def rangeLe (range range' : AddressRange) : Prop :=
  range.1 < range'.1 ∨ range.1 = range'.1 ∧ range.2 ≤ range'.2

instance : DecidableRel rangeLe := fun _ _ => inferInstanceAs (Decidable (_ ∨ _))

/-- Where the gap with the address ends. -/
def nextRange (ranges : List AddressRange) : ULONG64 :=
  match (ranges.insertionSort rangeLe).find? fun range => address < range.1 with
  | some range => range.1
  | none => b.maximumAddress

def query (modules : List TtdModuleInfo) (tebs : List ULONG64) : MEMORY_BASIC_INFORMATION b :=
  match queryModules b address modules [] with
  | .inl region => region
  | .inr ranges =>
    match queryThreads b readMemory address tebs ranges with
    | .inl region => region
    | .inr ranges =>
      if (readMemory address 1).isSome then .page b (pageStart address)
      else .free b (pageStart address) (nextRange b address ranges)

end MemoryMap

/-- `MemoryQuerySafe` with a buffer, in a replay. -/
def TtdSession.memoryQuerySafe (b : Build) (env : Env) (hProcess : HANDLE) (lpAddress : BitVec b.bits)
    (dwLength : ℕ) (t : TtdSession) : TtdSession × Option (MEMORY_BASIC_INFORMATION b) :=
  if hProcess = 0 ∨ dwLength < b.sizeofInformation then ((t.fail ERROR_INVALID_PARAMETER).1, none)
  else if ¬ t.pauseLock then ((t.fail ERROR_BUSY).1, none)
  else if t.gTtdCursor = none ∨ ¬ t.gDebugIdMap.processHandleToIndex.contains hProcess then
    ((t.fail ERROR_INVALID_HANDLE).1, none)
  else
    let tebs := t.current.threads.map fun thread => t.ttdTebAddress thread.id
    (t, some (MemoryMap.query b env.replayRead (lpAddress.setWidth 64) t.current.modules tebs))

end TitanEngine

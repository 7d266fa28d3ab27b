import TitanEngine.Lib.Loops
import TitanEngine.Model.Breakpoints

/-! Page-guard memory breakpoints, and the memory operations of the client. -/
namespace TitanEngine
namespace Session

def pageAddress (address : ULONG_PTR) (s : Session) : ULONG_PTR :=
  address &&& ~~~(s.targetPageSize - 1)

/-- The pages that `for (page = start;; page += size)` visits up to `page == endPage`. -/
def pagesFrom (size endPage : ULONG_PTR) : ℕ → ULONG_PTR → List ULONG_PTR
  | 0, _ => []
  | fuel + 1, page =>
    page :: if page = endPage then [] else pagesFrom size endPage fuel (page + size)

/-- The pages touched by `size` bytes from `start`, in the order of the page loops. -/
def pagesOf (start size : ULONG_PTR) (s : Session) : List ULONG_PTR :=
  let startPage := s.pageAddress start
  let endPage := s.pageAddress (start + size - 1)
  pagesFrom s.targetPageSize endPage
    ((endPage - startPage).toNat / s.targetPageSize.toNat + 1) startPage

def virtualProtectEx (env : Env) (page : ULONG_PTR) (protection : DWORD) (s : Session) :
    Session × Bool :=
  if env.virtualProtectEx page protection then
    ({ s with target.protection := Function.update s.target.protection page protection }, true)
  else s.fail ERROR_INVALID_ADDRESS

def protectMemoryBreakpointPage (env : Env) (page : ULONG_PTR) (guarded : Bool) (s : Session) :
    Session × Bool :=
  match s.bps.gMemoryBreakpointPages[page]? with
  | none => (s, false)
  | some info =>
    if s.activeProcessHandle env = 0 then (s, false)
    else s.virtualProtectEx env page
      (if guarded then info.originalProtect ||| PAGE_GUARD else info.originalProtect)

def ttdMemoryWatchMask : TitanMemoryBreakpointType → BYTE
  | .read => ACCESS_READ
  | .write => ACCESS_WRITE
  | .execute => ACCESS_EXECUTE
  | .memory => ACCESS_READ ||| ACCESS_WRITE ||| ACCESS_EXECUTE

/-- Take breakpoint `id` off one page; a page without breakpoints is exposed and
forgotten. -/
def leavePage (env : Env) (id : ULONG64) (page : ULONG_PTR) (s : Session) : Session × Bool :=
  match s.bps.gMemoryBreakpointPages[page]? with
  | none => (s, true)
  | some info =>
    let ids := info.breakpointIds.erase id
    let left := { info with breakpointIds := ids }
    let s := { s with bps.gMemoryBreakpointPages := s.bps.gMemoryBreakpointPages.insert page left }
    if ids.isEmpty then
      let r := s.protectMemoryBreakpointPage env page false
      ({ r.1 with bps.gMemoryBreakpointPages := r.1.bps.gMemoryBreakpointPages.erase page }, r.2)
    else (s, true)

def leavePages (env : Env) (id : ULONG64) : List ULONG_PTR → Session → Session × Bool
  | [], s => (s, true)
  | page :: pages, s =>
    let r := s.leavePage env id page
    let r' := leavePages env id pages r.1
    (r'.1, r.2 && r'.2)

def removeMemoryBreakpointById (env : Env) (id : ULONG64) (s : Session) : Session × Bool :=
  match s.bps.gMemoryBreakpoints[id]? with
  | none => (s, false)
  | some breakpoint =>
    if s.gSessionKind = .ttd then
      match s.removeMemoryWatchpoint env
          ⟨breakpoint.start, breakpoint.size, ttdMemoryWatchMask breakpoint.type⟩ with
      | (s, true) => ({ s with bps.gMemoryBreakpoints := s.bps.gMemoryBreakpoints.erase id }, true)
      | (s, false) => (s, false)
    else
      let r := leavePages env id (s.pagesOf breakpoint.start breakpoint.size) s
      ({ r.1 with bps.gMemoryBreakpoints := r.1.bps.gMemoryBreakpoints.erase id }, r.2)

/-- `while (!gMemoryBreakpoints.empty())` for a number of rounds. In a live session
every round takes a record away, so one round for each record empties the map. -/
def removeMemoryBreakpoints (env : Env) : ℕ → Session → Session × Bool
  | 0, s => (s, true)
  | rounds + 1, s =>
    match s.bps.gMemoryBreakpoints.first with
    | none => (s, true)
    | some (id, _) =>
      let r := s.removeMemoryBreakpointById env id
      let r' := removeMemoryBreakpoints env rounds r.1
      (r'.1, r.2 && r'.2)

def removeAllMemoryBreakpoints (env : Env) (s : Session) : Session × Bool :=
  removeMemoryBreakpoints env s.bps.gMemoryBreakpoints.size s

def memoryAccessMatches : TitanMemoryBreakpointType → ULONG_PTR → Bool
  | .memory, _ => true
  | .read, accessType => accessType = 0
  | .write, accessType => accessType = 1
  | .execute, accessType => accessType = 8

/-- Join one page of a new breakpoint, guarding it when it was not watched yet. The
flag beside the success tells whether the page now carries the breakpoint's id. -/
def joinPage (env : Env) (id : ULONG64) (page : ULONG_PTR) (s : Session) :
    Session × Bool × Bool :=
  match s.bps.gMemoryBreakpointPages[page]? with
  | some info =>
    let info := { info with breakpointIds := info.breakpointIds.insert id }
    ({ s with bps.gMemoryBreakpointPages := s.bps.gMemoryBreakpointPages.insert page info }, true, true)
  | none =>
    if ¬ env.virtualQueryEx page ∨ s.target.protection page = 0 then
      ((s.fail ERROR_INVALID_ADDRESS).1, false, false)
    else
      let info : MemoryBreakpointPage := ⟨s.target.protection page, {id}⟩
      let s := { s with bps.gMemoryBreakpointPages := s.bps.gMemoryBreakpointPages.insert page info }
      let r := s.protectMemoryBreakpointPage env page true
      (r.1, r.2, true)

/-- Join the pages in order up to the first failure; returns the touched pages. -/
def joinPages (env : Env) (id : ULONG64) : List ULONG_PTR → Session → Session × List ULONG_PTR × Bool
  | [], s => (s, [], true)
  | page :: pages, s =>
    match s.joinPage env id page with
    | (s, true, _) =>
      let r := joinPages env id pages s
      (r.1, page :: r.2.1, r.2.2)
    | (s, false, touched) => (s, if touched then [page] else [], false)

def memoryBreakpointProcess (env : Env) (s : Session) : HANDLE :=
  if s.gSessionKind = .ttd then s.sessionProcessHandle else s.activeProcessHandle env

def setMemoryBPXEx (env : Env) (MemoryStart SizeOfMemory : ULONG_PTR) (BreakPointType : ℕ)
    (RestoreOnHit : Bool) (bpxCallBack : Option Callback) (s : Session) : Session × Bool :=
  if MemoryStart = 0 ∨ SizeOfMemory = 0 ∨ MemoryStart + SizeOfMemory ≤ MemoryStart ∨
      bpxCallBack = none then s.fail ERROR_INVALID_PARAMETER
  else
    match TitanMemoryBreakpointType.ofValue BreakPointType with
    | none => s.fail ERROR_INVALID_PARAMETER
    | some type =>
      if !s.pauseLock then s.fail (if s.gIsDebugging then ERROR_BUSY else ERROR_INVALID_HANDLE)
      else if s.memoryBreakpointProcess env = 0 then s.fail ERROR_INVALID_HANDLE
      else if s.bps.gMemoryBreakpoints.toList.any fun entry =>
          entry.2.start = MemoryStart ∧ entry.2.size = SizeOfMemory then s.fail ERROR_ALREADY_EXISTS
      else
        let info : MemoryBreakpointInfo :=
          ⟨s.bps.gNextMemoryBreakpointId, MemoryStart, SizeOfMemory, type, RestoreOnHit, bpxCallBack⟩
        let s := { s with bps.gNextMemoryBreakpointId := s.bps.gNextMemoryBreakpointId + 1 }
        if s.gSessionKind = .ttd then
          match s.addMemoryWatchpoint env ⟨MemoryStart, SizeOfMemory, ttdMemoryWatchMask type⟩ with
          | (s, false) => s.fail ERROR_GEN_FAILURE
          | (s, true) =>
            ({ s with bps.gMemoryBreakpoints :=
                 s.bps.gMemoryBreakpoints.insertIfNew info.id info }, true)
        else
          let s := { s with bps.gMemoryBreakpoints :=
                       s.bps.gMemoryBreakpoints.insertIfNew info.id info }
          match joinPages env info.id (s.pagesOf MemoryStart SizeOfMemory) s with
          | (s, _, true) => (s, true)
          | (s, touchedPages, false) =>
            let s := (leavePages env info.id touchedPages s).1
            ({ s with bps.gMemoryBreakpoints := s.bps.gMemoryBreakpoints.erase info.id }, false)

def removeMemoryBPX (env : Env) (MemoryStart SizeOfMemory : ULONG_PTR) (s : Session) :
    Session × Bool :=
  if MemoryStart = 0 ∨ SizeOfMemory = 0 then s.fail ERROR_INVALID_PARAMETER
  else if !s.pauseLock then s.fail (if s.gIsDebugging then ERROR_BUSY else ERROR_INVALID_HANDLE)
  else
    match s.bps.gMemoryBreakpoints.toList.find? fun entry =>
        entry.2.start = MemoryStart ∧ entry.2.size = SizeOfMemory with
    | some (id, _) => s.removeMemoryBreakpointById env id
    | none => s.fail ERROR_NOT_FOUND

/-- Remove the patch or the engine object of each record, stopping at a failure. -/
def removeEach (env : Env) : List (ULONG × BreakpointInfo) → Session → Session × Bool
  | [], s => (s, true)
  | (_, info) :: rest, s =>
    match (if info.nativePatch then s.writeNativeBreakpointBytes env info false
           else s.removeBreakpoint2 env info.bp) with
    | (s, true) => removeEach env rest s
    | (s, false) => (s, false)

def removeAllBreakPoints (env : Env) (s : Session) : Session × Bool :=
  if !s.pauseLock then
    if !s.gIsDebugging then
      ({ s with bps.gBreakpoints := ∅, bps.gHardwareBreakpointIds := ∅
                bps.gMemoryBreakpoints := ∅, bps.gMemoryBreakpointPages := ∅
                bps.gRetiredBreakpointAddresses := ∅ }, true)
    else (s, false)
  else
    match s.removeAllMemoryBreakpoints env with
    | (s, false) => (s, false)
    | (s, true) =>
      match removeEach env s.bps.gBreakpoints.toList s with
      | (s, false) => (s, false)
      | (s, true) =>
        ({ s with bps.gBreakpoints := ∅, bps.gHardwareBreakpointIds := ∅
                  bps.gRetiredBreakpointAddresses := ∅ }, true)

/-- Expose the watched pages among `pages`; returns those that were exposed. -/
def exposePages (env : Env) : List ULONG_PTR → Session → Session × List ULONG_PTR
  | [], s => (s, [])
  | page :: pages, s =>
    if s.bps.gMemoryBreakpointPages.contains page then
      let r := s.protectMemoryBreakpointPage env page false
      let r' := exposePages env pages r.1
      (r'.1, if r.2 then page :: r'.2 else r'.2)
    else exposePages env pages s

def guardPages (env : Env) (pages : List ULONG_PTR) (s : Session) : Session :=
  pages.foldl (fun s page => (s.protectMemoryBreakpointPage env page true).1) s

/-- The bytes that `MemoryReadUnsafe` stores when it returns true. -/
def memoryReadUnsafe (env : Env) (hProcess : HANDLE) (lpBaseAddress : ULONG_PTR) (nSize : ℕ)
    (s : Session) : Session × Option (List BYTE) :=
  let synthetic := s.gSyntheticDebugString.bind fun text =>
    if text.1 ≤ lpBaseAddress ∧ lpBaseAddress.toNat + nSize ≤ text.1.toNat + text.2.length then
      some ((text.2.drop (lpBaseAddress - text.1).toNat).take nSize)
    else none
  match synthetic with
  | some bytes => (s, some bytes)
  | none =>
    if hProcess = 0 ∨ lpBaseAddress < 0x10000 ∨ ¬ s.pauseLock then (s, none)
    else if s.gSessionKind = .ttd then
      if s.gTtdCursor = none then ((s.fail ERROR_INVALID_HANDLE).1, none)
      else if ¬ s.gDebugIdMap.processHandleToIndex.contains hProcess ∨ 2 ^ 32 ≤ nSize then
        ((s.fail ERROR_INVALID_PARAMETER).1, none)
      else
        match env.replayRead lpBaseAddress nSize with
        | some bytes => (s, some bytes)
        | none => ((s.fail ERROR_PARTIAL_COPY).1, none)
    else
      match s.gDebugIdMap.processHandleToIndex[hProcess]? with
      | none => (s, s.readProcessMemory env lpBaseAddress nSize)
      | some processIndex =>
        match env.currentProcessId with
        | none => (s, none)
        | some currentIndex =>
          if currentIndex ≠ processIndex then ((s.fail ERROR_NOT_SUPPORTED).1, none)
          else if s.gSessionKind = .minidump then
            if 2 ^ 32 ≤ nSize then ((s.fail ERROR_INVALID_PARAMETER).1, none)
            else
              match env.replayRead lpBaseAddress nSize with
              | some bytes => (s, some bytes)
              | none =>
                ((s.fail (if env.bytesRead = 0 then ERROR_READ_FAULT else ERROR_PARTIAL_COPY)).1, none)
          else
            -- Watched pages are exposed for the read and guarded again after it.
            let pages := if nSize ≠ 0 ∧ lpBaseAddress.toNat + nSize < 2 ^ 64 then
                s.pagesOf lpBaseAddress (BitVec.ofNat 64 nSize) else []
            let r := exposePages env pages s
            (guardPages env r.2 r.1, r.1.readProcessMemory env lpBaseAddress nSize)

/-- The `memcpy` of one record: its original bytes over its part of the buffer. -/
def overlay (readStart : ULONG_PTR) (info : BreakpointInfo) (buffer : List BYTE) : List BYTE :=
  if info.kind ≠ .software ∨ ¬ info.nativePatch ∨ info.patchSize = 0 then buffer
  else
    let readEnd := readStart + BitVec.ofNat 64 buffer.length
    let breakpointStart := info.offset
    let breakpointEnd := breakpointStart + BitVec.ofNat 64 info.patchSize
    let overlapStart := if readStart ≤ breakpointStart then breakpointStart else readStart
    let overlapEnd := if readEnd ≤ breakpointEnd then readEnd else breakpointEnd
    if overlapStart < overlapEnd then
      let destination := (overlapStart - readStart).toNat
      let source := (overlapStart - breakpointStart).toNat
      let count := (overlapEnd - overlapStart).toNat
      buffer.take destination ++ (info.originals.drop source).take count ++
        buffer.drop (destination + count)
    else buffer

def memoryReadSafe (env : Env) (hProcess : HANDLE) (lpBaseAddress : ULONG_PTR) (nSize : ℕ)
    (s : Session) : Session × Option (List BYTE) :=
  match s.memoryReadUnsafe env hProcess lpBaseAddress nSize with
  | (s, none) => (s, none)
  | (s, some buffer) =>
    if !s.pauseLock then (s, none)
    else (s, some (s.bps.gBreakpoints.toList.foldl
      (fun buffer entry => overlay lpBaseAddress entry.2 buffer) buffer))

/-- `MemoryWriteSafe` writes through the engine, past the breakpoint records. -/
def memoryWriteSafe (env : Env) (hProcess : HANDLE) (lpBaseAddress : ULONG_PTR) (buffer : List BYTE)
    (s : Session) : Session × Bool :=
  if hProcess = 0 ∨ lpBaseAddress = 0 ∨ buffer = [] ∨ 2 ^ 32 ≤ buffer.length then
    s.fail ERROR_INVALID_PARAMETER
  else if !s.pauseLock then s.fail ERROR_BUSY
  else if s.gSessionKind = .minidump ∨ s.gSessionKind = .ttd then s.fail ERROR_NOT_SUPPORTED
  else
    match env.writeVirtual buffer.length with
    | some written =>
      let bytes := buffer.take written
      if userRange lpBaseAddress bytes.length then
        ({ s with target.memory := s.target.memory.write lpBaseAddress bytes },
          bytes.length = buffer.length)
      else s.fail ERROR_WRITE_FAULT
    | none => s.fail ERROR_WRITE_FAULT

/-- A round of the loop of `Fill`, which writes at most 64 KiB. -/
def fillRound (writes : ℕ → Env) (process : HANDLE) (MemoryStart : ULONG_PTR) (size : ℕ) (value : BYTE) :
    Session × ℕ × ℕ → (Session × ℕ × ℕ) ⊕ (Session × Bool)
  | (s, offset, round) =>
    if offset < size then
      let count := min (min size (64 * 1024)) (size - offset)
      let r := s.memoryWriteSafe (writes round) process (MemoryStart + BitVec.ofNat 64 offset)
        (List.replicate count value)
      if r.2 then .inl (r.1, offset + count, round + 1) else .inr r
    else .inr (s, true)

/-- `Fill`, with the answers to its writes; without a byte it fills with NOPs. -/
def fill (env : Env) (writes : ℕ → Env) (MemoryStart : ULONG_PTR) (MemorySize : DWORD)
    (FillByte : Option BYTE) (s : Session) : Option (Session × Bool) :=
  if MemoryStart = 0 ∨ MemorySize = 0 then some (s.fail ERROR_INVALID_PARAMETER)
  else if !s.pauseLock then some (s.fail (if s.gIsDebugging then ERROR_BUSY else ERROR_INVALID_HANDLE))
  else if s.activeProcessHandle env = 0 then some (s.fail ERROR_INVALID_HANDLE)
  else
    Loops.run (fillRound writes (s.activeProcessHandle env) MemoryStart MemorySize.toNat
      (FillByte.getD 0x90)) (MemorySize.toNat + 1) (s, 0, 0)

/-- `MemoryProtectSafe` passes the request on, page by page, whatever is watched. The handle is one
of the target: pages of other processes are none of the session's. -/
def memoryProtectSafe (env : Env) (lpAddress dwSize : ULONG_PTR) (flNewProtect : DWORD)
    (s : Session) : Session × Bool :=
  if s.gSessionKind = .minidump ∨ s.gSessionKind = .ttd then s.fail ERROR_NOT_SUPPORTED
  else if env.virtualProtectEx lpAddress flNewProtect then
    let pages := s.pagesOf lpAddress dwSize
    let set := fun (protection : ULONG_PTR → DWORD) page =>
      if page ∈ pages then flNewProtect else protection page
    ({ s with target.protection := set s.target.protection
              target.ownProtection := set s.target.ownProtection }, true)
  else s.fail ERROR_INVALID_ADDRESS

end Session

end TitanEngine

import TitanEngine.Model.MemoryBreakpoints

/-! `RemoveAllBreakPoints`, with an answer of its own for each of the calls it makes. -/
namespace TitanEngine

/-- What DbgEng and the system answer while all breakpoints are removed. A page is unguarded at
most once; a watchpoint that is not removed is tried again in the next round. -/
structure RemovalAnswers where
  pages : Env := {}
  watchpoint : ℕ → Bool := fun _ => true
  record : ULONG → Env := fun _ => {}

namespace RemovalAnswers
variable (a : RemovalAnswers)

def round (n : ℕ) : Env := { a.pages with removeMemoryWatchpoint := a.watchpoint n }

/-- `while (!gMemoryBreakpoints.empty())`, from round `n` on; `none` where the rounds run out. -/
def removeAllMemoryBreakpoints : ℕ → ℕ → Session → Option (Session × Bool)
  | 0, _, s => if s.bps.gMemoryBreakpoints.first.isNone then some (s, true) else none
  | rounds + 1, n, s =>
    match s.bps.gMemoryBreakpoints.first with
    | none => some (s, true)
    | some (id, _) =>
      let r := s.removeMemoryBreakpointById (a.round n) id
      (removeAllMemoryBreakpoints rounds (n + 1) r.1).map fun r' => (r'.1, r.2 && r'.2)

/-- The loop over the other records, which returns at the first that is not removed. -/
def removeEach : List (ULONG × BreakpointInfo) → Session → Session × Bool
  | [], s => (s, true)
  | (id, info) :: rest, s =>
    match (if info.nativePatch then s.writeNativeBreakpointBytes (a.record id) info false
           else s.removeBreakpoint2 (a.record id) info.bp) with
    | (s, true) => removeEach rest s
    | (s, false) => (s, false)

def removeAllBreakPoints (rounds : ℕ) (s : Session) : Option (Session × Bool) :=
  if !s.pauseLock then
    if !s.gIsDebugging then
      some ({ s with bps.gBreakpoints := ∅, bps.gHardwareBreakpointIds := ∅
                     bps.gMemoryBreakpoints := ∅, bps.gMemoryBreakpointPages := ∅
                     bps.gRetiredBreakpointAddresses := ∅ }, true)
    else some (s, false)
  else
    match a.removeAllMemoryBreakpoints rounds 0 s with
    | none => none
    | some (s, false) => some (s, false)
    | some (s, true) =>
      match a.removeEach s.bps.gBreakpoints.toList s with
      | (s, false) => some (s, false)
      | (s, true) =>
        some ({ s with bps.gBreakpoints := ∅, bps.gHardwareBreakpointIds := ∅
                       bps.gRetiredBreakpointAddresses := ∅ }, true)

end RemovalAnswers

end TitanEngine

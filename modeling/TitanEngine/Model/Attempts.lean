import TitanEngine.Model.Host

/-! Session attempts of one process, one after the other: what runs between the start of a
session and its end, the two ways in which it ends, and the histories that come of it. -/
namespace TitanEngine

/-- What the end of `DebugLoop` leaves of the breakpoint tables: the counters and the type
that the client has chosen. -/
def BreakpointTables.cleared (bps : BreakpointTables) : BreakpointTables :=
  { bps with gBreakpoints := ∅, gHardwareBreakpointIds := ∅, gRetiredBreakpointAddresses := ∅
             gMemoryBreakpoints := ∅, gMemoryBreakpointPages := ∅ }

namespace Host

/-- `DebugLoop` begins. -/
def enterLoop (h : Host) : Host :=
  match h.ttd with
  | some t => { h with ttd := some { t with gIsDebugging := true, gPaused := true } }
  | none => { h with session.gIsDebugging := true }

/-- `WaitForEvent`, during which the event callbacks queue `events`, up to the point where
queued work is run. A stop without an event is one that the adapter asked for. -/
def wait (env : Env) (events : List Closure) (h : Host) : Host :=
  let h := h.callbacks events
  if events = [] then
    let s := { h.session with gPaused := false, gCallbackQueue := [] }.recogniseStop env
    { h with
      session := { s with gCallbackQueue := [], gPaused := true }
      gCallbackQueue :=
        s.gCallbackQueue.map fun work => (h.gSessionGeneration, .event work.1 work.2 0 0) }
  else { h with session.gPaused := true }

/-- Run the oldest closure of the queue. -/
def dispatch (k : Client) (closure : Closure) (rest : List (ℕ × Closure)) (h : Host) : Host :=
  { h with
    gCallbackQueue := rest
    session := (closure.run k h.session).1
    gProcessPebCache := closure.pebCache h.session h.gProcessPebCache
    gProcessTebCache := closure.tebCache h.session h.gProcessTebCache }

/-- `TitanOpenProcess` and `TitanOpenThread` outside a replay. `opened` is what Windows
answers, 0 where it fails; a dump has the object with its engine id and its PEB or TEB. -/
def titanOpen (type : TitanHandleType) (systemId : DWORD) (opened : HANDLE) (dbgengId : ULONG)
    (address : ULONG64) (h : Host) : Host :=
  if h.session.gSessionKind = .minidump then
    let r := h.createSyntheticTitanHandle type dbgengId systemId true
    match type with
    | .process =>
      { r.1 with
        session.gDebugIdMap.processHandleToIndex :=
          r.1.session.gDebugIdMap.processHandleToIndex.insert r.2 dbgengId
        gProcessPebCache := r.1.gProcessPebCache.insert r.2 address }
    | .thread =>
      { r.1 with
        session.gDebugIdMap.threadHandleToIndex :=
          r.1.session.gDebugIdMap.threadHandleToIndex.insert r.2 dbgengId
        gProcessTebCache := r.1.gProcessTebCache.insert r.2 address }
  else { h with session := h.session.registerTitanHandle opened type DEBUG_ANY_ID systemId true }

/-- `closed` is what `CloseHandle` answers. -/
def titanCloseHandle (hEngineHandle : HANDLE) (closed : Bool) (h : Host) : Host :=
  match h.session.gHandleRegistry[hEngineHandle]? with
  | none => h.fail ERROR_INVALID_HANDLE
  | some entry =>
    if !entry.callerOwned then h.fail ERROR_INVALID_HANDLE
    else if entry.nativeHandle = 0 ∨ closed then
      { h with
        session.gDebugIdMap.processHandleToIndex :=
          h.session.gDebugIdMap.processHandleToIndex.erase hEngineHandle
        session.gDebugIdMap.threadHandleToIndex :=
          h.session.gDebugIdMap.threadHandleToIndex.erase hEngineHandle
        session.gHandleRegistry := h.session.gHandleRegistry.erase hEngineHandle
        gProcessPebCache := h.gProcessPebCache.erase hEngineHandle
        gProcessTebCache := h.gProcessTebCache.erase hEngineHandle }
    else h

/-- What `resetTtdSession` leaves of the replay `t`, with the session globals `s`. -/
def closeTrace (t : TtdSession) (s : Session) (h : Host) : Host :=
  { h with
    ttd := none
    session := { s with gPauseCallback := none, gTtdCursor := none, gSessionKind := .none }
    gNextSyntheticHandle := t.gNextSyntheticHandle }.clearHandles

/-- What follows the loop of `DebugLoop`, in its two branches. -/
def leaveLoop (h : Host) : Host :=
  match h.ttd with
  | some t =>
    h.closeTrace t
      { t.toSession with
        gPaused := false, gIsDebugging := false, gFakeDebugEvent := {}, gAttachCallback := none
        bps := t.bps.cleared, steps := {} }
  | none =>
    { h with
      session := { h.session with
                   gIsDebugging := false, gFakeDebugEvent := {}, gAttachCallback := none
                   gPauseCallback := none, gSessionKind := .none
                   bps := h.session.bps.cleared, steps := {} } }.clearHandles

/-- `ended` tells whether `EndSession` succeeds. -/
def stopDebug (ended : Bool) (h : Host) : Host × Bool :=
  match h.ttd with
  | some t =>
    if t.gIsDebugging then ({ h with ttd := some { t with gTtdStopRequested := true } }, true)
    else (h.closeTrace t t.toSession, true)
  | none =>
    if ended && !h.session.gIsDebugging && h.session.gSessionKind ≠ .live then
      ({ h with session.gSessionKind := .none }.clearHandles, true)
    else (h, ended)

end Host

/-- A process under observation. `owner` tells of each entry which session attempt made it,
and `dispatched` lists the closures that `DebugLoop` has run, newest first: the session that
ran it and the attempt that queued it. -/
structure Observed where
  host : Host := {}
  owner : Slot → ℕ := fun _ => 0
  dispatched : List (ℕ × ℕ) := []

namespace Observed

def session (o : Observed) : ℕ := o.host.gSessionGeneration

open Classical in
/-- The process comes to be `h` on behalf of an attempt, which owns every entry that changes. -/
noncomputable def act (attempt : ℕ) (h : Host) (o : Observed) : Observed :=
  { o with host := h
           owner := fun slot => if h.entry slot = o.host.entry slot then o.owner slot else attempt }

def note (attempt : ℕ) (o : Observed) : Observed :=
  { o with dispatched := (o.session, attempt) :: o.dispatched }

/-- What happens from the start of a session to its end: `DebugLoop`, outside a replay and in
one, calls of the client, which can come before it, and what the target does. -/
inductive Step : Observed → Observed → Prop
  | enterLoop {o : Observed} : Step o (o.act o.session o.host.enterLoop)
  | queued {o : Observed} (native : o.host.ttd = none) (entered : o.host.session.gIsDebugging = true)
      (waiting : o.host.gCallbackQueue ≠ []) :
      Step o (o.act o.session { o.host with session.gPaused := true })
  | wait {o : Observed} {env events} (native : o.host.ttd = none)
      (entered : o.host.session.gIsDebugging = true) (drained : o.host.gCallbackQueue = []) :
      Step o (o.act o.session (o.host.wait env events))
  | dispatch {o : Observed} {k attempt closure rest} (follows : k.Follows anyRules)
      (native : o.host.ttd = none) (entered : o.host.session.gIsDebugging = true)
      (paused : o.host.session.gPaused = true)
      (queue : o.host.gCallbackQueue = (attempt, closure) :: rest) :
      Step o ((o.note attempt).act attempt (o.host.dispatch k closure rest))
  | resume {o : Observed} {env} (native : o.host.ttd = none) (drained : o.host.gCallbackQueue = []) :
      Step o (o.act o.session { o.host with session := o.host.session.resume env })
  -- The status is applied after a closure that fails, and the rest of the queue is next.
  | failed {o : Observed} {env} (native : o.host.ttd = none) :
      Step o (o.act o.session
        { o.host with session := (o.host.session.applyExecutionStatus env).1 })
  | call {o : Observed} {s} (native : o.host.ttd = none) (step : CallStep anyRules o.host.session s) :
      Step o (o.act o.session { o.host with session := s })
  | target {o : Observed} {target} (native : o.host.ttd = none) :
      Step o (o.act o.session { o.host with session.target := target })
  | openHandle {o : Observed} {type systemId opened dbgengId address} (native : o.host.ttd = none) :
      Step o (o.act o.session (o.host.titanOpen type systemId opened dbgengId address))
  | closeHandle {o : Observed} {hEngineHandle closed} (native : o.host.ttd = none) :
      Step o (o.act o.session (o.host.titanCloseHandle hEngineHandle closed))
  | deliver {o : Observed} {t work rest} (replay : o.host.ttd = some t) (queue : t.queue = work :: rest) :
      Step o ((o.note o.session).act o.session
        { o.host with ttd := some ({ t with queue := rest }.deliver work) })
  | replay {o : Observed} {t t'} (replay : o.host.ttd = some t)
      (step : TtdStep (fun _ _ => True) (fun _ _ => False) (fun _ => True) t t') :
      Step o (o.act o.session { o.host with ttd := some t' })
  -- The process handles of a replay have their PEB in a cache that `TtdSession` leaves out.
  | openPeb {o : Observed} {handle peb} (replay : o.host.ttd ≠ none) :
      Step o (o.act o.session
        { o.host with gProcessPebCache := o.host.gProcessPebCache.insert handle peb })
  | closePeb {o : Observed} {handle} (replay : o.host.ttd ≠ none) :
      Step o (o.act o.session
        { o.host with gProcessPebCache := o.host.gProcessPebCache.erase handle })

abbrev Run : Observed → Observed → Prop := Relation.ReflTransGen Step

/-- A session is started; `live` tells whether it is one of a running process. -/
inductive Starts : Bool → Observed → Observed → Prop
  | initDebugW {o : Observed} {named launch}
      (started : (o.host.initDebugW named launch).2.isSome = true) :
      Starts true o (o.act (o.session + 1) (o.host.initDebugW named launch).1)
  | attachDebugger {o : Observed} {given CallBack launch}
      (started : (o.host.attachDebugger given CallBack launch).2 = true) :
      Starts true o (o.act (o.session + 1) (o.host.attachDebugger given CallBack launch).1)
  | initReplayW {o : Observed} {given artifact}
      (started : (o.host.initReplayW given artifact).2.isSome = true) :
      Starts false o (o.act (o.session + 1) (o.host.initReplayW given artifact).1)

end Observed

/-- A session attempt that is over. -/
inductive Attempt
  | initDebugW (named : Bool) (launch : Launch)
  | attachDebugger (given : Bool) (launch : Launch)
  | initReplayW (given : Bool)
  | looped
  | stopped (host : Host)

/-- The attempts of a process, the latest first, and the process after them: those of the
first three kinds have failed, `looped` ended with `DebugLoop`, and `stopped` with a
`StopDebug` before `DebugLoop`, which finds the process it names. -/
inductive History : List Attempt → Observed → Prop
  | fresh : History [] {}
  | initDebugW {past : List Attempt} {o : Observed} {named launch} (before : History past o)
      (failed : (o.host.initDebugW named launch).2 = none) :
      History (.initDebugW named launch :: past)
        (o.act (o.session + 1) (o.host.initDebugW named launch).1)
  | attachDebugger {past : List Attempt} {o : Observed} {given CallBack launch}
      (before : History past o) (failed : (o.host.attachDebugger given CallBack launch).2 = false) :
      History (.attachDebugger given launch :: past)
        (o.act (o.session + 1) (o.host.attachDebugger given CallBack launch).1)
  | initReplayW {past : List Attempt} {o : Observed} {given artifact} (before : History past o)
      (failed : (o.host.initReplayW given artifact).2 = none) :
      History (.initReplayW given :: past)
        (o.act (o.session + 1) (o.host.initReplayW given artifact).1)
  | looped {past : List Attempt} {live} {o start o' : Observed} (before : History past o)
      (starts : Observed.Starts live o start) (run : Observed.Run start o')
      (entered : o'.host.globals.gIsDebugging = true) :
      History (.looped :: past) (o'.act o'.session o'.host.leaveLoop)
  | stopped {past : List Attempt} {o start o' : Observed} {ended} (before : History past o)
      (starts : Observed.Starts false o start) (run : Observed.Run start o')
      (early : o'.host.globals.gIsDebugging = false)
      (replay : o'.host.globals.gSessionKind ≠ .live)
      (stopped : (o'.host.stopDebug ended).2 = true) :
      History (.stopped o'.host :: past) (o'.act o'.session (o'.host.stopDebug ended).1)

end TitanEngine

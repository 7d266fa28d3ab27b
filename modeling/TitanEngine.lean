import TitanEngine.Model.Session
import TitanEngine.Model.Breakpoints
import TitanEngine.Model.MemoryBreakpoints
import TitanEngine.Model.Events
import TitanEngine.Model.Api
import TitanEngine.Model.DebugLoop
import TitanEngine.Lib.Runs
import TitanEngine.Model.Runs
import TitanEngine.Effects.Core
import TitanEngine.Effects.Dispatch
import TitanEngine.Lib.Patching
import TitanEngine.Effects.Image
import TitanEngine.Patches.Outcomes
import TitanEngine.Patches.Refinement
import TitanEngine.Patches.Runs
import TitanEngine.Patches.Undo
import TitanEngine.Patches.Records
import TitanEngine.Patches.Reads
import TitanEngine.Effects.Frame
import TitanEngine.Patches.Writes
import TitanEngine.Effects.Steps
import TitanEngine.Resume.Status
import TitanEngine.Resume.Rounds
import TitanEngine.Resume.Exceptions
import TitanEngine.Resume.Hits
import TitanEngine.Guards.Faults
import TitanEngine.Lib.MapSums
import TitanEngine.Suspension.Counts
import TitanEngine.Suspension.Balance
import TitanEngine.Suspension.Traversal
import TitanEngine.Suspension.Runs
import TitanEngine.Suspension.Deadlock
import TitanEngine.Lib.Pages
import TitanEngine.Guards.Traversal
import TitanEngine.Guards.Pages
import TitanEngine.Guards.Index
import TitanEngine.Guards.Rearm
import TitanEngine.Guards.Watching
import TitanEngine.Guards.Protection
import TitanEngine.Model.Replay
import TitanEngine.Model.Timeline
import TitanEngine.Model.ReplayRuns
import TitanEngine.Lib.Nearest
import TitanEngine.Replay.Hits
import TitanEngine.Replay.Stages
import TitanEngine.Replay.Boundary
import TitanEngine.Replay.Exceptions
import TitanEngine.Replay.Failures
import TitanEngine.Lib.Views
import TitanEngine.Lib.Ledger
import TitanEngine.Replay.Moves
import TitanEngine.Replay.Modules
import TitanEngine.Replay.Handles
import TitanEngine.Replay.Threads
import TitanEngine.Replay.Watchpoints
import TitanEngine.Lib.RecursiveMutex
import TitanEngine.Model.PauseLock
import TitanEngine.Paused.Overlap
import TitanEngine.Lib.Lanes
import TitanEngine.Model.Registers
import TitanEngine.Registers.Cache
import TitanEngine.Registers.Coherence
import TitanEngine.Model.Contexts
import TitanEngine.Registers.Scopes
import TitanEngine.Registers.Failures
import TitanEngine.Registers.RoundTrip
import TitanEngine.Model.Removal
import TitanEngine.Removal.Memory
import TitanEngine.Removal.Records
import TitanEngine.Removal.Honesty
import TitanEngine.Suspension.Atomicity
import TitanEngine.Guards.Reads
import TitanEngine.Guards.Release
import TitanEngine.Guards.Rollback
import TitanEngine.Lib.Tiling
import TitanEngine.Model.MemoryMap
import TitanEngine.MemoryMap.Queries
import TitanEngine.MemoryMap.Occupancy
import TitanEngine.MemoryMap.Walk
import TitanEngine.Patches.Interleaving
import TitanEngine.Lib.Indexed
import TitanEngine.Patches.Tables
import TitanEngine.Replay.Tables
import TitanEngine.Replay.Stale
import TitanEngine.Lifecycle.Detach
import TitanEngine.Lifecycle.TrapFlags
import TitanEngine.Model.Host
import TitanEngine.Model.Attempts
import TitanEngine.Lifecycle.Isolation
import TitanEngine.Lib.Loops
import TitanEngine.Lib.PartialMemory
import TitanEngine.Model.ReplayMemory
import TitanEngine.Replay.Fragments
import TitanEngine.Handles.Freshness
import TitanEngine.Lib.Serials
import TitanEngine.Model.Handles
import TitanEngine.Handles.Refinement
import TitanEngine.Model.Calls
import TitanEngine.Stepping.Calls
import TitanEngine.Model.Causes
import TitanEngine.Causes.Attribution
import TitanEngine.Replay.StepOver
import TitanEngine.Replay.Temporaries
import TitanEngine.Effects.Unhit
import TitanEngine.Effects.Hits
import TitanEngine.Model.Progress
import TitanEngine.Stepping.Progress
import TitanEngine.Effects.Course
import TitanEngine.Effects.Story
import TitanEngine.Model.Callbacks
import TitanEngine.Stepping.Ledger
import TitanEngine.Stepping.Answers
import TitanEngine.Callbacks.Order
import TitanEngine.Replay.Rounds
import TitanEngine.Resume.Refinement
import TitanEngine.Handles.Ownership
import TitanEngine.Replay.LoopViews
import TitanEngine.Patches.Fill
import TitanEngine.Paused.Progress
import TitanEngine.Effects.Holdings
import TitanEngine.Effects.Offers
import TitanEngine.Callbacks.Given
import TitanEngine.Removal.Objects

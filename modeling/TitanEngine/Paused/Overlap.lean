import TitanEngine.Lib.Runs
import TitanEngine.Model.PauseLock

/-! When the exports keep out of `WaitForEvent`. `PauseLock` tests the flags before it takes
the mutex, and `DebugLoop` clears `gPaused` without the mutex. -/
namespace TitanEngine.PauseState
open Relation
variable {Thread : Type*} [DecidableEq Thread] {s s' : PauseState Thread} {x y : Option Thread}

/-- How many successful `PauseLock` objects of the thread are alive. -/
def lockedCount (x : Option Thread) (s : PauseState Thread) : ℕ := (s.locks x).mLocked.count true

omit [DecidableEq Thread] in
theorem locked_iff : s.Locked x ↔ 0 < s.lockedCount x := List.count_pos_iff.symm

/-- The debug-loop thread holds the mutex for the register cache. -/
def loopHolds (x : Option Thread) (s : PauseState Thread) : ℕ :=
  if x = none ∧ (s.loop = .reading ∨ s.loop = .flushing) then 1 else 0

/-- What a step of the constructor does: it gets on or gives up, or it takes the mutex. -/
theorem pauseLock_cases (h : s.pauseLock x = some s') :
    (∃ locks : PauseLocks, s' = s.setLocks x locks ∧
      (∀ b, b = true → (b ∈ locks.mLocked ↔ b ∈ (s.locks x).mLocked)) ∧
      locks.mLocked.count true = s.lockedCount x ∧
      (locks.stage = .ready ∨ locks.stage = .pausedLoaded ∧ s.gPaused = true ∨
        locks.stage = .flagsLoaded ∧ (s.locks x).stage = .pausedLoaded ∧
          s.gIsDebugging = true)) ∨
    ∃ mutex, (s.locks x).stage = .flagsLoaded ∧ s.gMutexPaused.lock x = some mutex ∧
      s' = { s with gMutexPaused := mutex }.setLocks x
        { mLocked := true :: (s.locks x).mLocked } := by
  unfold pauseLock at h
  cases hstage : (s.locks x).stage with
  | ready =>
    simp only [hstage] at h
    split_ifs at h with hpaused
    · exact .inl ⟨_, (Option.some.inj h).symm, fun _ _ => .rfl, rfl, .inr (.inl ⟨rfl, hpaused⟩)⟩
    · exact .inl ⟨_, (Option.some.inj h).symm, by simp, by simp [lockedCount], .inl rfl⟩
  | pausedLoaded =>
    simp only [hstage] at h
    split_ifs at h with hdebugging
    · exact .inl ⟨_, (Option.some.inj h).symm, fun _ _ => .rfl, rfl,
        .inr (.inr ⟨rfl, rfl, hdebugging⟩)⟩
    · exact .inl ⟨_, (Option.some.inj h).symm, by simp, by simp [lockedCount], .inl rfl⟩
  | flagsLoaded =>
    simp only [hstage] at h
    obtain ⟨mutex, hlock, hs⟩ := Option.map_eq_some_iff.1 h
    exact .inr ⟨mutex, rfl, hlock, hs.symm⟩

theorem pauseUnlock_cases (h : s.pauseUnlock x = some s') :
    ∃ b rest, s.locks x = ⟨b :: rest, .ready⟩ ∧
      s' = { s with gMutexPaused := if b then s.gMutexPaused.unlock x else s.gMutexPaused }.setLocks
        x ⟨rest, .ready⟩ := by
  unfold pauseUnlock at h
  split at h
  · rename_i rest hlocks
    exact ⟨true, rest, hlocks, by simpa using (Option.some.inj h).symm⟩
  · rename_i rest hlocks
    exact ⟨false, rest, hlocks, by simpa using (Option.some.inj h).symm⟩
  · cases h

/-- What holds in any interleaving. -/
structure Orderly (s : PauseState Thread) : Prop where
  /-- Only the debug-loop thread stores the flag. -/
  debugging : s.loop ≠ .creating → s.loop ≠ .starting → s.loop ≠ .ended → s.gIsDebugging = true
  before : s.loop = .creating ∨ s.loop = .starting →
    s.gIsDebugging = false ∧ ∀ x, (s.locks x).stage ≠ .flagsLoaded ∧ ¬ s.Locked x
  held : ∀ x, s.gMutexPaused.heldBy x = s.lockedCount x + s.loopHolds x
  quiet : s.loop ≠ .callbacks → s.loop ≠ .waiting → s.loop ≠ .creating → s.locks none = {}

theorem Initial.orderly (h : s.Initial) : s.Orderly := by
  rw [h]
  constructor
  · intro hne
    exact absurd rfl hne
  · intro _
    exact ⟨rfl, fun x => ⟨by simp, by simp [Locked]⟩⟩
  · intro x
    simp [lockedCount, loopHolds]
  · intro _ _ hne
    exact absurd rfl hne

@[simp] theorem loopHolds_setLocks {locks : PauseLocks} :
    (s.setLocks x locks).loopHolds y = s.loopHolds y := rfl

@[simp] theorem lockedCount_setLocks_self {locks : PauseLocks} :
    (s.setLocks x locks).lockedCount x = locks.mLocked.count true := by
  simp [lockedCount]

@[simp] theorem lockedCount_setLocks_of_ne {locks : PauseLocks} (h : y ≠ x) :
    (s.setLocks x locks).lockedCount y = s.lockedCount y := by
  simp [lockedCount, h]

/-- The debug-loop thread works with `PauseLock` objects only where it calls exports. -/
theorem Calls.quiet {locks : PauseLocks} (hcalls : s.Calls x)
    (hs : s.loop ≠ .callbacks → s.loop ≠ .waiting → s.loop ≠ .creating → s.locks none = {})
    (hcall : s.loop ≠ .callbacks) (hwait : s.loop ≠ .waiting) (hcreate : s.loop ≠ .creating) :
    (s.setLocks x locks).locks none = {} := by
  have hx : x ≠ none := by
    rcases hcalls with hx | h | h | h
    · exact hx
    · exact absurd h hcall
    · exact absurd h hwait
    · exact absurd h hcreate
  rw [setLocks_of_ne hx.symm]
  exact hs hcall hwait hcreate

theorem Orderly.construct (hs : s.Orderly) (hcalls : s.Calls x) (h : s.pauseLock x = some s') :
    s'.Orderly := by
  rcases pauseLock_cases h with
    ⟨locks, rfl, hlocked, hcount, hstage⟩ | ⟨mutex, hstage, hlock, rfl⟩
  · constructor
    · exact hs.debugging
    · intro hloop
      obtain ⟨hdebugging, hfree⟩ := hs.before hloop
      refine ⟨hdebugging, fun y => ?_⟩
      by_cases hy : y = x
      · subst hy
        have hunlocked : true ∉ locks.mLocked := by
          rw [hlocked true rfl]
          exact (hfree y).2
        rw [Locked, setLocks_self]
        refine ⟨?_, hunlocked⟩
        rcases hstage with hstage | ⟨hstage, -⟩ | ⟨-, -, hset⟩
        · simp [hstage]
        · simp [hstage]
        · rw [hdebugging] at hset
          cases hset
      · simpa [Locked, hy] using hfree y
    · intro y
      by_cases hy : y = x
      · subst hy
        simpa [hcount] using hs.held y
      · simpa [hy] using hs.held y
    · exact hcalls.quiet hs.quiet
  · constructor
    · exact hs.debugging
    · intro hloop
      exact absurd hstage ((hs.before hloop).2 x).1
    · intro y
      have hheld := hs.held y
      have hmutex := RecursiveMutex.heldBy_lock (u := y) hlock
      by_cases hy : y = x
      · subst hy
        simp only [if_true] at hmutex
        have hone : (true :: (s.locks y).mLocked).count true = s.lockedCount y + 1 := by
          simp [lockedCount]
        rw [setLocks_gMutexPaused, lockedCount_setLocks_self, loopHolds_setLocks]
        show mutex.heldBy y = (true :: (s.locks y).mLocked).count true + s.loopHolds y
        omega
      · simp only [hy, if_false, Nat.add_zero] at hmutex
        rw [setLocks_gMutexPaused, lockedCount_setLocks_of_ne hy, hmutex]
        exact hheld
    · exact hcalls.quiet hs.quiet

theorem Orderly.destroy (hs : s.Orderly) (hcalls : s.Calls x) (h : s.pauseUnlock x = some s') :
    s'.Orderly := by
  obtain ⟨b, rest, hlocks, rfl⟩ := pauseUnlock_cases h
  have hcount : s.lockedCount x = rest.count true + if b then 1 else 0 := by
    cases b <;> simp [lockedCount, hlocks]
  constructor
  · exact hs.debugging
  · intro hloop
    obtain ⟨hdebugging, hfree⟩ := hs.before hloop
    refine ⟨hdebugging, fun y => ?_⟩
    by_cases hy : y = x
    · subst hy
      have hunlocked := (hfree y).2
      rw [Locked, hlocks] at hunlocked
      rw [Locked, setLocks_self]
      refine ⟨by simp, fun hmem => hunlocked ?_⟩
      exact List.mem_cons_of_mem _ hmem
    · rw [Locked, setLocks_of_ne hy]
      exact hfree y
  · intro y
    have hheld := hs.held y
    cases b with
    | false =>
      by_cases hy : y = x
      · subst hy
        simp only [Bool.false_eq_true, if_false, Nat.add_zero] at hcount
        rw [lockedCount_setLocks_self, ← hcount]
        exact hheld
      · rw [lockedCount_setLocks_of_ne hy]
        exact hheld
    | true =>
      have hpos : 0 < s.gMutexPaused.heldBy x := by
        have := hs.held x
        simp only [if_true] at hcount
        omega
      have hmutex := RecursiveMutex.heldBy_unlock (u := y) hpos
      by_cases hy : y = x
      · subst hy
        simp only [if_true] at hmutex hcount
        rw [setLocks_gMutexPaused, lockedCount_setLocks_self, loopHolds_setLocks, if_pos rfl]
        show (s.gMutexPaused.unlock y).heldBy y = rest.count true + s.loopHolds y
        omega
      · simp only [hy, if_false, Nat.sub_zero] at hmutex
        rw [setLocks_gMutexPaused, lockedCount_setLocks_of_ne hy, if_pos rfl, hmutex]
        exact hheld
  · exact hcalls.quiet hs.quiet

omit [DecidableEq Thread] in
theorem leave_eq_some {next : LoopPoint} (h : s.leave next = some s') :
    s.locks none = {} ∧ s' = { s with loop := next } := by
  unfold leave at h
  split_ifs at h with hlocks
  exact ⟨hlocks, (Option.some.inj h).symm⟩

/-- The debug-loop thread goes on to a point where it does not use the register cache. -/
theorem Orderly.goes {next : LoopPoint} {paused debugging : Bool} (hs : s.Orderly)
    (hnext : next ≠ .creating ∧ next ≠ .starting ∧ next ≠ .reading ∧ next ≠ .flushing)
    (hloop : s.loop ≠ .reading ∧ s.loop ≠ .flushing) (hquiet : s.locks none = {})
    (hdebugging : next ≠ .ended → debugging = true) :
    Orderly { s with gPaused := paused, gIsDebugging := debugging, loop := next } := by
  constructor
  · intro _ _ hne
    exact hdebugging hne
  · rintro (h | h)
    · exact absurd h hnext.1
    · exact absurd h hnext.2.1
  · intro y
    have hheld := hs.held y
    have hold : s.loopHolds y = 0 := by simp [loopHolds, hloop]
    have hnew : loopHolds y ({ s with gPaused := paused, gIsDebugging := debugging, loop := next } :
        PauseState Thread) = 0 := by simp [loopHolds, hnext]
    rw [hold] at hheld
    rw [hnew]
    exact hheld
  · intro _ _ _
    exact hquiet

theorem Orderly.takes {next : LoopPoint} {mutex : RecursiveMutex (Option Thread)} (hs : s.Orderly)
    (hnext : next = .reading ∨ next = .flushing) (hloop : s.loop = .waited ∨ s.loop = .flush)
    (hlock : s.gMutexPaused.lock none = some mutex) :
    Orderly { s with gMutexPaused := mutex, loop := next } := by
  have hquiet : s.locks none = {} := by
    rcases hloop with h | h <;> exact hs.quiet (by simp [h]) (by simp [h]) (by simp [h])
  have hset : s.gIsDebugging = true := by
    rcases hloop with h | h <;> exact hs.debugging (by simp [h]) (by simp [h]) (by simp [h])
  constructor
  · intro _ _ _
    exact hset
  · intro h
    rcases hnext with rfl | rfl <;> simp at h
  · intro y
    have hheld := hs.held y
    have hmutex := RecursiveMutex.heldBy_lock (u := y) hlock
    have hold : s.loopHolds y = 0 := by
      rcases hloop with h | h <;> simp [loopHolds, h]
    have hnew : loopHolds y ({ s with gMutexPaused := mutex, loop := next } : PauseState Thread) =
        if y = none then 1 else 0 := by
      simp [loopHolds, hnext]
    rw [hnew]
    show mutex.heldBy y = s.lockedCount y + _
    omega
  · intro _ _ _
    exact hquiet

theorem Orderly.gives {next : LoopPoint} (hs : s.Orderly)
    (hnext : next = .pause ∨ next = .checkQueue ∨ next = .stopping)
    (hloop : s.loop = .reading ∨ s.loop = .flushing) :
    Orderly { s with gMutexPaused := s.gMutexPaused.unlock none, loop := next } := by
  have hquiet : s.locks none = {} := by
    rcases hloop with h | h <;> exact hs.quiet (by simp [h]) (by simp [h]) (by simp [h])
  have hset : s.gIsDebugging = true := by
    rcases hloop with h | h <;> exact hs.debugging (by simp [h]) (by simp [h]) (by simp [h])
  have hown : s.gMutexPaused.heldBy none = s.lockedCount none + 1 := by
    simpa [loopHolds, hloop] using hs.held none
  constructor
  · intro _ _ _
    exact hset
  · intro h
    rcases hnext with rfl | rfl | rfl <;> simp at h
  · intro y
    have hheld := hs.held y
    have hpos : 0 < s.gMutexPaused.heldBy none := by omega
    have hmutex := RecursiveMutex.heldBy_unlock (u := y) hpos
    have hold : s.loopHolds y = if y = none then 1 else 0 := by simp [loopHolds, hloop]
    have hnew : loopHolds y ({ s with gMutexPaused := s.gMutexPaused.unlock none, loop := next } :
        PauseState Thread) = 0 := by
      rcases hnext with rfl | rfl | rfl <;> simp [loopHolds]
    rw [hnew]
    show (s.gMutexPaused.unlock none).heldBy y = s.lockedCount y + _
    split_ifs at hmutex hold with hy
    · subst hy
      omega
    · omega
  · intro _ _ _
    exact hquiet

theorem Orderly.debugLoop {ok : Bool} (hs : s.Orderly) (h : s.debugLoop ok = some s') :
    s'.Orderly := by
  unfold PauseState.debugLoop at h
  cases hloop : s.loop with
  | creating =>
    simp only [hloop] at h
    obtain ⟨hquiet, rfl⟩ := leave_eq_some h
    obtain ⟨hdebugging, hfree⟩ := hs.before (.inl hloop)
    constructor
    · intro _ hne
      exact absurd rfl hne
    · intro _
      exact ⟨hdebugging, hfree⟩
    · intro y
      simpa [loopHolds, hloop, lockedCount] using hs.held y
    · intro _ _ _
      exact hquiet
  | starting =>
    simp only [hloop] at h
    obtain rfl := Option.some.inj h
    exact hs.goes (by simp) (by simp [hloop])
      (hs.quiet (by simp [hloop]) (by simp [hloop]) (by simp [hloop])) (by simp)
  | waiting | callbacks =>
    simp only [hloop] at h
    obtain ⟨hquiet, rfl⟩ := leave_eq_some h
    exact hs.goes (by cases ok <;> simp) (by simp [hloop]) hquiet
      fun _ => hs.debugging (by simp [hloop]) (by simp [hloop]) (by simp [hloop])
  | checkQueue | unpause | statusBefore | pause =>
    simp only [hloop] at h
    obtain rfl := Option.some.inj h
    exact hs.goes (by cases ok <;> simp) (by simp [hloop])
      (hs.quiet (by simp [hloop]) (by simp [hloop]) (by simp [hloop]))
      fun _ => hs.debugging (by simp [hloop]) (by simp [hloop]) (by simp [hloop])
  | waited | flush =>
    simp only [hloop] at h
    obtain ⟨mutex, hlock, rfl⟩ := Option.map_eq_some_iff.1 h
    exact hs.takes (by simp) (by simp [hloop]) hlock
  | reading | flushing =>
    simp only [hloop] at h
    obtain rfl := Option.some.inj h
    exact hs.gives (by cases ok <;> simp) (by simp [hloop])
  | stopping =>
    simp only [hloop] at h
    obtain rfl := Option.some.inj h
    exact hs.goes (by simp) (by simp [hloop])
      (hs.quiet (by simp [hloop]) (by simp [hloop]) (by simp [hloop])) (fun hne => absurd rfl hne)
  | ended =>
    simp only [hloop] at h
    cases h

theorem Orderly.step {action : PauseAction Thread} (hs : s.Orderly)
    (h : s.step action = some s') : s'.Orderly := by
  cases action with
  | construct x =>
    simp only [PauseState.step] at h
    split_ifs at h with hcalls
    exact hs.construct hcalls h
  | destroy x =>
    simp only [PauseState.step] at h
    split_ifs at h with hcalls
    exact hs.destroy hcalls h
  | loop ok => exact hs.debugLoop h

theorem Initial.interleaved (h : s.Initial) (hrun : Interleaved s s') : s'.Orderly :=
  Runs.Preserves.run (fun _ _ ⟨_, hstep⟩ hs => hs.step hstep) hrun h.orderly

/-- `gPaused` is cleared only when no API thread has found it set and is not through yet. -/
def Careful (s : PauseState Thread) : PauseAction Thread → Prop
  | .loop _ => s.loop = .unpause → ∀ thread : Thread, ¬ s.Engaged (some thread)
  | _ => True

abbrev CarefullyInterleaved : PauseState Thread → PauseState Thread → Prop :=
  ReflTransGen fun s s' => ∃ action, s.Careful action ∧ s.step action = some s'

/-- From the store of `gPaused` on, no API thread gets past the flag. -/
def Apart (s : PauseState Thread) : Prop :=
  s.loop = .statusBefore ∨ s.loop = .waiting →
    s.gPaused = false ∧ ∀ thread : Thread, ¬ s.Engaged (some thread)

theorem not_engaged_setLocks {locks : PauseLocks} (hs : ∀ thread : Thread, ¬ s.Engaged (some thread))
    (hstage : locks.stage = .ready) (hlocked : true ∈ locks.mLocked → s.Locked x) (thread : Thread) :
    ¬ (s.setLocks x locks).Engaged (some thread) := by
  by_cases hx : some thread = x
  · subst hx
    rintro (h | h)
    · rw [setLocks_self] at h
      exact h hstage
    · rw [Locked, setLocks_self] at h
      exact hs thread (.inr (hlocked h))
  · have hthread := hs thread
    simpa [Engaged, Locked, hx] using hthread

theorem not_engaged_setLocks_none {locks : PauseLocks}
    (hs : ∀ thread : Thread, ¬ s.Engaged (some thread)) (thread : Thread) :
    ¬ (s.setLocks none locks).Engaged (some thread) := by
  have hthread := hs thread
  simpa [Engaged, Locked] using hthread

theorem Apart.construct (hs : s.Apart) (h : s.pauseLock x = some s') : s'.Apart := by
  rcases pauseLock_cases h with
    ⟨locks, rfl, hlocked, -, hstage⟩ | ⟨mutex, hstage, -, rfl⟩
  · intro hloop
    obtain ⟨hpaused, hfree⟩ := hs hloop
    refine ⟨hpaused, ?_⟩
    cases x with
    | none => exact not_engaged_setLocks_none hfree
    | some t =>
      have hready : (s.locks (some t)).stage = .ready := by
        by_contra hne
        exact hfree t (.inl hne)
      have hlocks : locks.stage = .ready := by
        rcases hstage with hstage | ⟨-, hset⟩ | ⟨-, hloaded, -⟩
        · exact hstage
        · rw [hpaused] at hset
          cases hset
        · rw [hready] at hloaded
          cases hloaded
      exact not_engaged_setLocks hfree hlocks (hlocked true rfl).1
  · intro hloop
    obtain ⟨hpaused, hfree⟩ := hs hloop
    refine ⟨hpaused, ?_⟩
    cases x with
    | none =>
      have hfree' : ∀ thread : Thread,
          ¬ ({ s with gMutexPaused := mutex } : PauseState Thread).Engaged (some thread) := hfree
      exact not_engaged_setLocks_none hfree'
    | some t =>
      have hengaged : s.Engaged (some t) := .inl (by simp [hstage])
      exact absurd hengaged (hfree t)

theorem Apart.destroy (hs : s.Apart) (h : s.pauseUnlock x = some s') : s'.Apart := by
  obtain ⟨b, rest, hlocks, rfl⟩ := pauseUnlock_cases h
  intro hloop
  obtain ⟨hpaused, hfree⟩ := hs hloop
  refine ⟨hpaused, not_engaged_setLocks (s := { s with gMutexPaused := _ }) hfree rfl ?_⟩
  intro hmem
  show true ∈ (s.locks x).mLocked
  rw [hlocks]
  exact List.mem_cons_of_mem _ hmem

/-- Only the store of `gPaused` leads to `WaitForEvent`. -/
theorem debugLoop_waits {ok : Bool} (h : s.debugLoop ok = some s')
    (hloop : s'.loop = .statusBefore ∨ s'.loop = .waiting) :
    s.loop = .unpause ∧ s' = { s with gPaused := false, loop := .statusBefore } ∨
      s.loop = .statusBefore ∧ s' = { s with loop := .waiting } := by
  unfold debugLoop at h
  cases hs : s.loop with
  | unpause =>
    simp only [hs] at h
    exact .inl ⟨rfl, (Option.some.inj h).symm⟩
  | statusBefore =>
    simp only [hs] at h
    exact .inr ⟨rfl, (Option.some.inj h).symm⟩
  | creating | waiting | callbacks =>
    simp only [hs] at h
    obtain ⟨-, rfl⟩ := leave_eq_some h
    cases ok <;> simp at hloop
  | waited | flush =>
    simp only [hs] at h
    obtain ⟨mutex, -, rfl⟩ := Option.map_eq_some_iff.1 h
    simp at hloop
  | starting | checkQueue | pause | reading | flushing | stopping =>
    simp only [hs] at h
    obtain rfl := Option.some.inj h
    cases ok <;> simp at hloop
  | ended =>
    simp only [hs] at h
    cases h

theorem Apart.step {action : PauseAction Thread} (hs : s.Apart) (hcareful : s.Careful action)
    (h : s.step action = some s') : s'.Apart := by
  cases action with
  | construct x =>
    simp only [PauseState.step] at h
    split_ifs at h
    exact hs.construct h
  | destroy x =>
    simp only [PauseState.step] at h
    split_ifs at h
    exact hs.destroy h
  | loop ok =>
    intro hloop
    rcases debugLoop_waits h hloop with ⟨hunpause, rfl⟩ | ⟨hbefore, rfl⟩
    · exact ⟨rfl, hcareful hunpause⟩
    · exact hs (.inl hbefore)

omit [DecidableEq Thread] in
theorem Initial.apart (h : s.Initial) : s.Apart := by
  rw [h]
  rintro (hloop | hloop) <;> cases hloop

theorem Orderly.not_overlaps (hs : s.Orderly) (hapart : s.Apart) : ¬ s.Overlaps := by
  rintro ⟨hloop | hloop, thread, hlocked⟩
  · exact (hapart (.inr hloop)).2 thread (.inr hlocked)
  · exact ((hs.before (.inl hloop)).2 (some thread)).2 hlocked

/-- A thread that has found both flags set takes the mutex during the wait, or waits for one
that is in its section. -/
theorem Orderly.overlaps_of_flagsLoaded (hs : s.Orderly) (hloop : s.loop = .waiting)
    (hquiet : s.locks none = {}) {thread : Thread}
    (hstage : (s.locks (some thread)).stage = .flagsLoaded) :
    ∃ s', Interleaved s s' ∧ s'.Overlaps := by
  cases hlock : s.gMutexPaused.lock (some thread) with
  | some mutex =>
    have hstep : s.step (.construct (some thread)) =
        some ({ s with gMutexPaused := mutex }.setLocks (some thread)
          { mLocked := true :: (s.locks (some thread)).mLocked }) := by
      simp [PauseState.step, Calls, pauseLock, hstage, hlock]
    exact ⟨_, .single ⟨_, hstep⟩, .inl hloop, thread, by simp [Locked]⟩
  | none =>
    obtain ⟨holder, -, hpos⟩ := RecursiveMutex.exists_heldBy_of_lock_eq_none hlock
    have hheld := hs.held holder
    have hcache : s.loopHolds holder = 0 := by simp [loopHolds, hloop]
    have hlocked : s.Locked holder := by
      rw [locked_iff]
      omega
    cases holder with
    | none => simp [Locked, hquiet] at hlocked
    | some other => exact ⟨s, .refl, .inl hloop, other, hlocked⟩

/-- A thread that is engaged when the wait begins gets into its section during the wait. -/
theorem Orderly.overlaps_of_engaged (hs : s.Orderly) (hloop : s.loop = .waiting)
    (hquiet : s.locks none = {}) {thread : Thread} (hengaged : s.Engaged (some thread)) :
    ∃ s', Interleaved s s' ∧ s'.Overlaps := by
  have hdebugging : s.gIsDebugging = true :=
    hs.debugging (by simp [hloop]) (by simp [hloop]) (by simp [hloop])
  rcases hengaged with hstage | hlocked
  · cases hplace : (s.locks (some thread)).stage with
    | ready => exact absurd hplace hstage
    | pausedLoaded =>
      have hstep : s.step (.construct (some thread)) = some (s.setLocks (some thread)
          { s.locks (some thread) with stage := .flagsLoaded }) := by
        simp [PauseState.step, Calls, pauseLock, hplace, hdebugging]
      have hloaded : ((s.setLocks (some thread)
          { s.locks (some thread) with stage := .flagsLoaded }).locks (some thread)).stage =
            .flagsLoaded := by simp
      obtain ⟨s', hrun, hoverlap⟩ := (hs.step hstep).overlaps_of_flagsLoaded hloop
        (by simpa using hquiet) hloaded
      exact ⟨s', hrun.head ⟨_, hstep⟩, hoverlap⟩
    | flagsLoaded => exact hs.overlaps_of_flagsLoaded hloop hquiet hplace
  · exact ⟨s, .refl, .inl hloop, thread, hlocked⟩

/-- No export works on the target during `WaitForEvent`, in every interleaving in which
`gPaused` is cleared while no API thread is between its load of the flag and the end of its
section. Any other store of the flag leads to an interleaving in which one does. -/
theorem sections_apart_from_wait (h : s.Initial) :
    (∀ s', CarefullyInterleaved s s' → ¬ s'.Overlaps) ∧
      ∀ s₁ s₂ action, Interleaved s s₁ → ¬ s₁.Careful action → s₁.step action = some s₂ →
        ∃ s', Interleaved s₂ s' ∧ s'.Overlaps := by
  constructor
  · intro s' hrun
    have hkeeps : Runs.Preserves (fun s s' : PauseState Thread =>
        ∃ action, s.Careful action ∧ s.step action = some s') fun s => s.Orderly ∧ s.Apart := by
      rintro s s' ⟨action, hcareful, hstep⟩ ⟨horderly, hapart⟩
      exact ⟨horderly.step hstep, hapart.step hcareful hstep⟩
    obtain ⟨horderly, hapart⟩ := hkeeps.run hrun ⟨h.orderly, h.apart⟩
    exact horderly.not_overlaps hapart
  · intro s₁ s₂ action hrun hcareless hstep
    have hs := h.interleaved hrun
    cases action with
    | construct | destroy => exact absurd trivial hcareless
    | loop ok =>
      simp only [Careful, not_forall, not_not] at hcareless
      obtain ⟨hunpause, thread, hengaged⟩ := hcareless
      have hs₂ : s₂ = { s₁ with gPaused := false, loop := .statusBefore } := by
        simpa [PauseState.step, debugLoop, hunpause] using hstep.symm
      subst hs₂
      have hwait : PauseState.step ({ s₁ with gPaused := false, loop := .statusBefore } :
          PauseState Thread) (.loop ok) =
            some { s₁ with gPaused := false, loop := .waiting } := rfl
      have hquiet : s₁.locks none = {} :=
        hs.quiet (by simp [hunpause]) (by simp [hunpause]) (by simp [hunpause])
      have hwaiting := (hs.step hstep).step hwait
      obtain ⟨s', hrun', hoverlap⟩ := hwaiting.overlaps_of_engaged rfl hquiet hengaged
      exact ⟨s', hrun'.head ⟨_, hwait⟩, hoverlap⟩

/-- The first round of the loop, up to its callbacks. The first event is already queued. -/
def firstRound : List (PauseAction Unit) :=
  [.loop true, .loop true, .loop true, .loop true, .loop true, .loop true]

/-- One thread calls an export from end to end, then the loop clears `gPaused` and waits. -/
def calledBetween : List (PauseAction Unit) :=
  firstRound ++ [.construct (some ()), .construct (some ()), .construct (some ()),
    .destroy (some ()), .loop true, .loop true, .loop true, .loop false, .loop true, .loop true]

/-- The thread has loaded the flags when the loop clears `gPaused`, and takes the mutex during
the wait. -/
def lockedLate : List (PauseAction Unit) :=
  firstRound ++ [.construct (some ()), .construct (some ()), .loop true, .loop true, .loop true,
    .loop false, .loop true, .loop true, .construct (some ())]

def unstarted : PauseState Unit := { gPaused := false }

instance (action : PauseAction Unit) (s : PauseState Unit) : Decidable (s.Careful action) :=
  match action with
  | .loop _ => inferInstanceAs (Decidable (_ → _))
  | .construct _ | .destroy _ => inferInstanceAs (Decidable True)

theorem sections_apart_from_wait_between : ∃ s, CarefullyInterleaved unstarted s ∧
    s.loop = .waiting ∧ s.gMutexPaused.heldBy none = 0 ∧ ¬ s.Overlaps := by
  have hrun : ((unstarted.runActions (fun a s => decide (s.Careful a)) calledBetween).any fun s =>
      s.loop = .waiting ∧ s.gMutexPaused.heldBy none = 0) = true := by decide
  obtain ⟨s, hs, hwait⟩ := (Option.any_eq_true _ _).1 hrun
  have hcareful : CarefullyInterleaved unstarted s := by
    refine ReflTransGen.mono ?_ _ _ (run_of_runActions hs)
    rintro s s' ⟨action, hallowed, hstep⟩
    exact ⟨action, of_decide_eq_true hallowed, hstep⟩
  simp only [decide_eq_true_eq] at hwait
  have hinitial : unstarted.Initial := rfl
  exact ⟨s, hcareful, hwait.1, hwait.2, (sections_apart_from_wait hinitial).1 s hcareful⟩

/-- The flags are tested before the mutex is taken. -/
theorem section_overlaps_wait :
    ¬ ∀ s s' : PauseState Unit, s.Initial → Interleaved s s' → ¬ s'.Overlaps := by
  intro hclaim
  have hrun : ((unstarted.runActions (fun _ _ => true) lockedLate).any fun s =>
      s.loop = .waiting ∧ s.Locked (some ())) = true := by decide
  obtain ⟨s, hs, hwait⟩ := (Option.any_eq_true _ _).1 hrun
  have hinterleaved : Interleaved unstarted s := by
    refine ReflTransGen.mono ?_ _ _ (run_of_runActions hs)
    rintro s s' ⟨action, -, hstep⟩
    exact ⟨action, hstep⟩
  simp only [decide_eq_true_eq] at hwait
  exact hclaim unstarted s rfl hinterleaved ⟨.inl hwait.1, (), hwait.2⟩

end TitanEngine.PauseState

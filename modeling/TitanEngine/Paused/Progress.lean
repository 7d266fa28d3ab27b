import TitanEngine.Paused.Overlap

/-! No thread waits for `gMutexPaused` for good: whoever holds it can let go of it without the
help of another thread. -/
namespace TitanEngine

/-- The thread that takes the step. -/
def PauseAction.thread {Thread : Type*} : PauseAction Thread → Option Thread
  | .construct x | .destroy x => x
  | .loop _ => none

namespace PauseState
open Relation
variable {Thread : Type*} [DecidableEq Thread] {s s' s'' : PauseState Thread} {x y : Option Thread}

/-- One thread goes on, and all others stand still. -/
abbrev Alone (x : Option Thread) : PauseState Thread → PauseState Thread → Prop :=
  ReflTransGen fun s s' => ∃ action : PauseAction Thread, action.thread = x ∧ s.step action = some s'

theorem interleaved_of_alone (h : Alone x s s') : Interleaved s s' :=
  ReflTransGen.mono (fun _ _ ⟨action, _, hstep⟩ => ⟨action, hstep⟩) _ _ h

theorem Orderly.run (hs : s.Orderly) (h : Interleaved s s') : s'.Orderly :=
  Runs.Preserves.run (fun _ _ ⟨_, hstep⟩ hs => hs.step hstep) h hs

/-- The thread is in a section that a `PauseLock` guards, or works on the register cache. -/
def Uses (x : Option Thread) (s : PauseState Thread) : Prop :=
  s.Locked x ∨ x = none ∧ (s.loop = .reading ∨ s.loop = .flushing)

/-- The next step of the thread is to lock the mutex. -/
def Acquires (s : PauseState Thread) : PauseAction Thread → Prop
  | .construct x => s.Calls x ∧ (s.locks x).stage = .flagsLoaded
  | .loop _ => s.loop = .waited ∨ s.loop = .flush
  | .destroy _ => False

theorem Orderly.uses_iff (hs : s.Orderly) : s.Uses x ↔ 0 < s.gMutexPaused.heldBy x := by
  rw [hs.held, Uses, locked_iff, loopHolds]
  split_ifs with h
  · simp [h]
  · simp only [h, or_false, add_zero]

/-- The others, and where the debug-loop thread is, stay as they are. -/
structure Apace (x : Option Thread) (s s' : PauseState Thread) : Prop where
  alone : Alone x s s'
  loop : s'.loop = s.loop
  locks : ∀ y, y ≠ x → s'.locks y = s.locks y

theorem Apace.refl (x : Option Thread) (s : PauseState Thread) : Apace x s s :=
  ⟨.refl, rfl, fun _ _ => rfl⟩

theorem Apace.trans (h : Apace x s s') (h' : Apace x s' s'') : Apace x s s'' :=
  ⟨h.alone.trans h'.alone, h'.loop.trans h.loop, fun y hy => (h'.locks y hy).trans (h.locks y hy)⟩

theorem Apace.calls (h : Apace x s s') (hcalls : s.Calls x) : s'.Calls x := by
  unfold Calls
  rwa [h.loop]

theorem Apace.construct (hcalls : s.Calls x) (h : s.pauseLock x = some s') : Apace x s s' := by
  have halone : Alone x s s' := by
    refine .single ⟨.construct x, rfl, ?_⟩
    rwa [step, if_pos hcalls]
  rcases pauseLock_cases h with ⟨locks, rfl, -⟩ | ⟨mutex, -, -, rfl⟩
  · exact ⟨halone, rfl, fun y hy => setLocks_of_ne hy⟩
  · exact ⟨halone, rfl, fun y hy => setLocks_of_ne hy⟩

/-- A thread gets its `PauseLock` constructed if no other one has the mutex. -/
theorem Apace.ready (hcalls : s.Calls x) (hmutex : ∀ y, y ≠ x → s.gMutexPaused.heldBy y = 0) :
    ∃ s', Apace x s s' ∧ (s'.locks x).stage = .ready := by
  have hloaded : ∀ {s : PauseState Thread}, s.Calls x →
      (∀ y, y ≠ x → s.gMutexPaused.heldBy y = 0) → (s.locks x).stage = .flagsLoaded →
        ∃ s', Apace x s s' ∧ (s'.locks x).stage = .ready := by
    intro s hcalls hmutex hstage
    obtain ⟨mutex, hlock⟩ := RecursiveMutex.lock_of_heldBy_eq_zero hmutex
    have hstep : s.pauseLock x = some ({ s with gMutexPaused := mutex }.setLocks x
        { mLocked := true :: (s.locks x).mLocked }) := by
      simp [pauseLock, hstage, hlock]
    exact ⟨_, construct hcalls hstep, by rw [setLocks_self]⟩
  cases hstage : (s.locks x).stage with
  | ready => exact ⟨s, .refl x s, hstage⟩
  | flagsLoaded => exact hloaded hcalls hmutex hstage
  | pausedLoaded =>
    cases hdebugging : s.gIsDebugging with
    | false =>
      have hstep : s.pauseLock x = some (s.setLocks x { mLocked := false :: (s.locks x).mLocked }) := by
        simp [pauseLock, hstage, hdebugging]
      exact ⟨_, construct hcalls hstep, by rw [setLocks_self]⟩
    | true =>
      have hstep : s.pauseLock x = some (s.setLocks x { s.locks x with stage := .flagsLoaded }) := by
        simp [pauseLock, hstage, hdebugging]
      have hfirst := construct hcalls hstep
      obtain ⟨s', hrest, hready⟩ := hloaded (hfirst.calls hcalls) hmutex (by rw [setLocks_self])
      exact ⟨s', hfirst.trans hrest, hready⟩

/-- A thread leaves its scopes, the innermost first. -/
theorem Apace.scopes {mLocked : List Bool} (hcalls : s.Calls x) (hlocks : s.locks x = ⟨mLocked, .ready⟩) :
    ∃ s', Apace x s s' ∧ s'.locks x = {} := by
  induction mLocked generalizing s with
  | nil => exact ⟨s, .refl x s, hlocks⟩
  | cons b rest ih =>
    have hstep : Apace x s ({ s with gMutexPaused := if b then s.gMutexPaused.unlock x
        else s.gMutexPaused }.setLocks x ⟨rest, .ready⟩) := by
      refine ⟨.single ⟨.destroy x, rfl, ?_⟩, rfl, fun y hy => setLocks_of_ne hy⟩
      rw [step, if_pos hcalls, pauseUnlock, hlocks]
      cases b <;> rfl
    obtain ⟨s', hrest, hempty⟩ := ih (hstep.calls hcalls) setLocks_self
    exact ⟨s', hstep.trans hrest, hempty⟩

theorem Apace.departs (hcalls : s.Calls x) (hmutex : ∀ y, y ≠ x → s.gMutexPaused.heldBy y = 0) :
    ∃ s', Apace x s s' ∧ s'.locks x = {} := by
  obtain ⟨s', hfirst, hready⟩ := Apace.ready hcalls hmutex
  have hlocks : s'.locks x = ⟨(s'.locks x).mLocked, .ready⟩ := by
    rw [← hready]
  obtain ⟨s'', hrest, hempty⟩ := Apace.scopes (hfirst.calls hcalls) hlocks
  exact ⟨s'', hfirst.trans hrest, hempty⟩

/-- Whoever uses the mutex gets it free on its own. -/
theorem Orderly.releases (hs : s.Orderly) (huses : s.Uses x) :
    ∃ s', Alone x s s' ∧ (∀ y, s'.gMutexPaused.heldBy y = 0) ∧
      (∀ y, y ≠ x → s'.locks y = s.locks y) ∧ (x ≠ none → s'.loop = s.loop) := by
  have hheld := hs.uses_iff.mp huses
  have hothers : ∀ y, y ≠ x → s.gMutexPaused.heldBy y = 0 := by
    intro y hy
    by_contra hne
    exact hy (RecursiveMutex.eq_of_heldBy (Nat.pos_of_ne_zero hne) hheld)
  by_cases hlocked : s.Locked x
  · have hplace : x = none → s.loop = .callbacks ∨ s.loop = .waiting ∨ s.loop = .creating := by
      rintro rfl
      by_contra hne
      rw [not_or, not_or] at hne
      rw [Locked, hs.quiet hne.1 hne.2.1 hne.2.2] at hlocked
      cases hlocked
    have hcalls : s.Calls x := by
      unfold Calls
      by_cases hx : x = none
      · exact .inr (hplace hx)
      · exact .inl hx
    obtain ⟨s', happart, hempty⟩ := Apace.departs hcalls hothers
    have hs' := hs.run (interleaved_of_alone happart.alone)
    refine ⟨s', happart.alone, fun y => ?_, happart.locks, fun _ => happart.loop⟩
    by_contra hne
    have huses' := hs'.uses_iff.mpr (Nat.pos_of_ne_zero hne)
    by_cases hy : y = x
    · subst hy
      rcases huses' with hin | ⟨hnone, hloop⟩
      · rw [Locked, hempty] at hin
        cases hin
      · rw [happart.loop] at hloop
        rcases hplace hnone with h | h | h <;> simp [h] at hloop
    · have hzero := hothers y hy
      have hpos : 0 < s.gMutexPaused.heldBy y := by
        rw [← hs.uses_iff]
        rwa [Uses, Locked, happart.locks y hy, happart.loop] at huses'
      omega
  · obtain ⟨rfl, hloop⟩ := huses.resolve_left hlocked
    have hquiet : s.locks none = {} := by
      refine hs.quiet ?_ ?_ ?_ <;> rcases hloop with h | h <;> simp [h]
    have hcount := hs.held none
    simp only [lockedCount, hquiet, List.count_nil, loopHolds, hloop, and_self, if_true] at hcount
    have hstep : ∃ next, s.step (.loop true) =
        some { s with gMutexPaused := s.gMutexPaused.unlock none, loop := next } := by
      rcases hloop with h | h
      · exact ⟨.pause, by simp [PauseState.step, PauseState.debugLoop, h]⟩
      · exact ⟨.checkQueue, by simp [PauseState.step, PauseState.debugLoop, h]⟩
    obtain ⟨next, hstep⟩ := hstep
    refine ⟨_, .single ⟨.loop true, rfl, hstep⟩, fun y => ?_, fun _ _ => rfl, fun h => absurd rfl h⟩
    dsimp only
    rw [RecursiveMutex.heldBy_unlock hheld]
    by_cases hy : y = none
    · rw [hy, if_pos rfl]
      omega
    · rw [hothers y hy, if_neg hy]

theorem step_of_acquires {action : PauseAction Thread} (h : s.Acquires action) :
    (s.step action).isSome = (s.gMutexPaused.lock action.thread).isSome := by
  cases action with
  | construct x =>
    obtain ⟨hcalls, hstage⟩ := h
    rw [step, if_pos hcalls, pauseLock]
    simp only [hstage, Option.isSome_map]
    rfl
  | destroy x => exact h.elim
  | loop ok =>
    rcases h with hloop | hloop <;> simp only [step, debugLoop, hloop, Option.isSome_map] <;> rfl

/-- A thread that cannot lock the mutex can do so once another one has let go of it. -/
theorem Orderly.acquires {action : PauseAction Thread} (hs : s.Orderly) (h : s.Acquires action)
    (hblocked : s.step action = none) :
    ∃ y, y ≠ action.thread ∧ s.Uses y ∧ ∃ s' s'', Alone y s s' ∧ s'.step action = some s'' ∧
      s'.locks action.thread = s.locks action.thread ∧ (action.thread = none → s'.loop = s.loop) := by
  have hlock : s.gMutexPaused.lock action.thread = none := by
    rw [← Option.not_isSome_iff_eq_none, ← step_of_acquires h, hblocked]
    exact Bool.false_ne_true
  obtain ⟨y, hy, hpos⟩ := RecursiveMutex.exists_heldBy_of_lock_eq_none hlock
  have huses := hs.uses_iff.mpr hpos
  obtain ⟨s', halone, hfree, hlocks, hloop⟩ := hs.releases huses
  have hplace : action.thread = none → s'.loop = s.loop := by
    intro hnone
    rw [hnone] at hy
    exact hloop hy
  have hacquires : s'.Acquires action := by
    cases action with
    | construct x =>
      refine ⟨?_, (congrArg PauseLocks.stage (hlocks x (Ne.symm hy))).trans h.2⟩
      by_cases hx : x = none
      · unfold Calls
        rw [hplace hx]
        exact h.1
      · exact .inl hx
    | destroy x => exact h.elim
    | loop ok =>
      unfold Acquires
      rw [hplace rfl]
      exact h
  obtain ⟨mutex, hmutex⟩ := RecursiveMutex.lock_of_heldBy_eq_zero
    (t := action.thread) fun u _ => hfree u
  have hstep : (s'.step action).isSome = true := by
    rw [step_of_acquires hacquires, hmutex]
    rfl
  obtain ⟨s'', hstep⟩ := Option.isSome_iff_exists.mp hstep
  exact ⟨y, hy, huses, s', s'', halone, hstep, hlocks _ (Ne.symm hy), hplace⟩

/-- The others let go of the mutex, and the thread is where it was. -/
theorem Orderly.clears (hs : s.Orderly) (x : Option Thread) :
    ∃ s', Interleaved s s' ∧ (∀ y, y ≠ x → s'.gMutexPaused.heldBy y = 0) ∧ s'.locks x = s.locks x ∧
      (x = none → s'.loop = s.loop) := by
  by_cases hother : ∃ y, y ≠ x ∧ s.Uses y
  · obtain ⟨y, hy, huses⟩ := hother
    obtain ⟨s', halone, hfree, hlocks, hloop⟩ := hs.releases huses
    refine ⟨s', interleaved_of_alone halone, fun y _ => hfree y, hlocks x (Ne.symm hy), fun hx => ?_⟩
    rw [hx] at hy
    exact hloop hy
  · refine ⟨s, .refl, fun y hy => ?_, rfl, fun _ => rfl⟩
    by_contra hne
    exact hother ⟨y, hy, hs.uses_iff.mpr (Nat.pos_of_ne_zero hne)⟩

theorem Orderly.leaves (hs : s.Orderly) (hcalls : s.Calls x) :
    ∃ s', Interleaved s s' ∧ s'.locks x = {} ∧ (x = none → s'.loop = s.loop) := by
  obtain ⟨s₁, hrun, hfree, -, hloop⟩ := hs.clears x
  have hcalls₁ : s₁.Calls x := by
    unfold Calls
    by_cases hx : x = none
    · rw [hloop hx]
      exact hcalls
    · exact .inl hx
  obtain ⟨s', happart, hempty⟩ := Apace.departs hcalls₁ hfree
  exact ⟨s', hrun.trans (interleaved_of_alone happart.alone), hempty,
    fun hx => happart.loop.trans (hloop hx)⟩

/-- The debug loop can come to its end. -/
def Ends (s : PauseState Thread) : Prop := ∃ s', Interleaved s s' ∧ s'.loop = .ended

theorem Ends.of_run (h : s'.Ends) (hrun : Interleaved s s') : s.Ends := by
  obtain ⟨s'', hrest, hended⟩ := h
  exact ⟨s'', hrun.trans hrest, hended⟩

theorem Ends.of_loop {ok : Bool} (h : s'.Ends) (hstep : s.debugLoop ok = some s') : s.Ends :=
  h.of_run (.single ⟨.loop ok, hstep⟩)

theorem ends_of_stopping (hloop : s.loop = .stopping) : s.Ends := by
  have hstep : s.debugLoop true = some { s with gIsDebugging := false, loop := .ended } := by
    simp only [debugLoop, hloop]
  exact ⟨_, .single ⟨.loop true, hstep⟩, rfl⟩

theorem ends_of_cache (hloop : s.loop = .reading ∨ s.loop = .flushing) : s.Ends := by
  have hstep : s.debugLoop false = some { s with
      gMutexPaused := s.gMutexPaused.unlock none, loop := .stopping } := by
    rcases hloop with h | h <;> simp [debugLoop, h]
  exact (ends_of_stopping rfl).of_loop hstep

theorem Orderly.ends_of_mutex (hs : s.Orderly) (hloop : s.loop = .waited ∨ s.loop = .flush) : s.Ends := by
  obtain ⟨s₁, hrun, hfree, -, hsame⟩ := hs.clears none
  obtain ⟨mutex, hlock⟩ := RecursiveMutex.lock_of_heldBy_eq_zero hfree
  refine Ends.of_run ?_ hrun
  rw [← hsame rfl] at hloop
  rcases hloop with h | h
  · have hstep : s₁.debugLoop true = some { s₁ with gMutexPaused := mutex, loop := .reading } := by
      simp [PauseState.debugLoop, h, hlock]
    exact (ends_of_cache (.inl rfl)).of_loop hstep
  · have hstep : s₁.debugLoop true = some { s₁ with gMutexPaused := mutex, loop := .flushing } := by
      simp [PauseState.debugLoop, h, hlock]
    exact (ends_of_cache (.inr rfl)).of_loop hstep

theorem Orderly.ends_of_checkQueue (hs : s.Orderly) (hloop : s.loop = .checkQueue) : s.Ends := by
  have hstep : s.debugLoop true = some { s with loop := .waited } := by
    simp [PauseState.debugLoop, hloop]
  exact ((hs.debugLoop hstep).ends_of_mutex (.inl rfl)).of_loop hstep

/-- Where the loop waits for exports to return, they do. -/
theorem Orderly.ends_of_leave (hs : s.Orderly) (ok : Bool) (next : LoopPoint) (hcalls : s.Calls none)
    (hleave : ∀ s' : PauseState Thread, s'.loop = s.loop → s'.debugLoop ok = s'.leave next)
    (hends : ∀ s' : PauseState Thread, s'.Orderly → s'.loop = next → s'.Ends) : s.Ends := by
  obtain ⟨s₁, hrun, hempty, hsame⟩ := hs.leaves hcalls
  have hstep : s₁.debugLoop ok = some { s₁ with loop := next } := by
    rw [hleave s₁ (hsame rfl), leave, if_pos hempty]
  exact ((hends _ ((hs.run hrun).debugLoop hstep) rfl).of_loop hstep).of_run hrun

theorem Orderly.ends (hs : s.Orderly) : s.Ends := by
  have hwaiting : ∀ s : PauseState Thread, s.Orderly → s.loop = .waiting → s.Ends := by
    intro s hs hloop
    refine hs.ends_of_leave false .stopping (.inr (.inr (.inl hloop))) ?_
      fun s' _ => ends_of_stopping
    intro s' hs'
    rw [PauseState.debugLoop, hs', hloop]
    rfl
  have hcallbacks : ∀ s : PauseState Thread, s.Orderly → s.loop = .callbacks → s.Ends := by
    intro s hs hloop
    refine hs.ends_of_leave true .flush (.inr (.inl hloop)) ?_
      fun s' hs' hloop' => hs'.ends_of_mutex (.inr hloop')
    intro s' hs'
    rw [PauseState.debugLoop, hs', hloop]
  have hstarting : ∀ s : PauseState Thread, s.Orderly → s.loop = .starting → s.Ends := by
    intro s hs hloop
    have hstep : s.debugLoop true = some { s with gIsDebugging := true, loop := .checkQueue } := by
      simp [PauseState.debugLoop, hloop]
    exact ((hs.debugLoop hstep).ends_of_checkQueue rfl).of_loop hstep
  have hbefore : ∀ s : PauseState Thread, s.Orderly → s.loop = .statusBefore → s.Ends := by
    intro s hs hloop
    have hstep : s.debugLoop true = some { s with loop := .waiting } := by
      simp [PauseState.debugLoop, hloop]
    exact (hwaiting _ (hs.debugLoop hstep) rfl).of_loop hstep
  cases hloop : s.loop with
  | creating =>
    refine hs.ends_of_leave true .starting (.inr (.inr (.inr hloop))) ?_ hstarting
    intro s' hs'
    rw [PauseState.debugLoop, hs', hloop]
  | starting => exact hstarting s hs hloop
  | checkQueue => exact hs.ends_of_checkQueue hloop
  | unpause =>
    have hstep : s.debugLoop true = some { s with gPaused := false, loop := .statusBefore } := by
      simp [PauseState.debugLoop, hloop]
    exact (hbefore _ (hs.debugLoop hstep) rfl).of_loop hstep
  | statusBefore => exact hbefore s hs hloop
  | waiting => exact hwaiting s hs hloop
  | waited => exact hs.ends_of_mutex (.inl hloop)
  | reading => exact ends_of_cache (.inl hloop)
  | pause =>
    have hstep : s.debugLoop true = some { s with gPaused := true, loop := .callbacks } := by
      simp [PauseState.debugLoop, hloop]
    exact (hcallbacks _ (hs.debugLoop hstep) rfl).of_loop hstep
  | callbacks => exact hcallbacks s hs hloop
  | flush => exact hs.ends_of_mutex (.inr hloop)
  | flushing => exact ends_of_cache (.inr hloop)
  | stopping => exact ends_of_stopping hloop
  | ended => exact ⟨s, .refl, hloop⟩

/-- `PauseLock` and `DebugLoop` exclude one another and never deadlock. In every interleaving at
most one thread is in a guarded section or at the register cache; a thread that waits for the
mutex waits for another one that can let go of it without anybody's help; and from everywhere
each thread can leave the exports, and the loop can come to its end. -/
theorem mutex_never_deadlocks (h : s.Initial) (hrun : Interleaved s s') :
    (∀ x y, s'.Uses x → s'.Uses y → x = y) ∧
      (∀ action, s'.Acquires action → s'.step action = none → ∃ y, y ≠ action.thread ∧ s'.Uses y ∧
        ∃ s₁ s₂, Alone y s' s₁ ∧ s₁.step action = some s₂ ∧
          s₁.locks action.thread = s'.locks action.thread ∧
            (action.thread = none → s₁.loop = s'.loop)) ∧
      (∀ x, s'.Calls x → ∃ s₁, Interleaved s' s₁ ∧ s₁.locks x = {} ∧ (x = none → s₁.loop = s'.loop)) ∧
      ∃ s₁, Interleaved s' s₁ ∧ s₁.loop = .ended := by
  have hs := h.interleaved hrun
  refine ⟨fun x y hx hy => ?_, fun action => hs.acquires, fun x => hs.leaves, hs.ends⟩
  exact RecursiveMutex.eq_of_heldBy (hs.uses_iff.mp hx) (hs.uses_iff.mp hy)

/-- An export is in its section when the loop comes to flush the register cache. -/
def lockedAtFlush : List (PauseAction Unit) :=
  firstRound ++ [.construct (some ()), .construct (some ()), .construct (some ()), .loop true]

theorem mutex_never_deadlocks_flush : ∃ s, Interleaved unstarted s ∧ s.step (.loop true) = none ∧
    ∃ y, y ≠ none ∧ s.Uses y ∧ ∃ s₁ s₂, Alone y s s₁ ∧ s₁.step (.loop true) = some s₂ := by
  have hrun : ((unstarted.runActions (fun _ _ => true) lockedAtFlush).any fun s =>
      s.loop = .flush ∧ (s.step (.loop true)).isNone) = true := by decide
  obtain ⟨s, hs, hblocked⟩ := (Option.any_eq_true _ _).1 hrun
  have hinterleaved : Interleaved unstarted s := by
    refine ReflTransGen.mono ?_ _ _ (run_of_runActions hs)
    rintro s s' ⟨action, -, hstep⟩
    exact ⟨action, hstep⟩
  simp only [decide_eq_true_eq, Option.isNone_iff_eq_none] at hblocked
  have hinitial : unstarted.Initial := rfl
  obtain ⟨-, hpasses, -⟩ := mutex_never_deadlocks hinitial hinterleaved
  obtain ⟨y, hy, huses, s₁, s₂, halone, hstep, -⟩ := hpasses (.loop true) (.inr hblocked.1) hblocked.2
  exact ⟨s, hinterleaved, hblocked.2, y, hy, huses, s₁, s₂, halone, hstep⟩

end PauseState

end TitanEngine

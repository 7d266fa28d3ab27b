import TitanEngine.Resume.Hits

/-! Whether the faults that the target raises by itself pass the memory breakpoints. -/
namespace TitanEngine
open Relation

/-- What an access raises. A guard comes before the other rights of the page, which
`allows` decides. -/
def Target.raises (allows : DWORD → ULONG_PTR → Bool) (page accessType : ULONG_PTR) (t : Target) :
    Option DWORD :=
  if t.protection page &&& PAGE_GUARD ≠ 0 then some STATUS_GUARD_PAGE_VIOLATION
  else if allows (t.protection page) accessType then none
  else some EXCEPTION_ACCESS_VIOLATION

namespace Session

/-- The guard on the page is there, and only because the adapter has put it there. -/
def GuardAdded (page : ULONG_PTR) (s : Session) : Prop :=
  s.target.protection page &&& PAGE_GUARD ≠ 0 ∧ s.target.ownProtection page &&& PAGE_GUARD = 0

/-- The exception goes to the client as one that the adapter has no part in. -/
def Passed (k : Client) (env : Env) (info : EXCEPTION_DEBUG_INFO) (s : Session) : Prop :=
  s.dispatchMemoryBreakpointException k env info = none ∧ s.exceptionEvent k env info =
    ((s.setFakeDebugEvent env (.exception info)).dispatchUnhandledException k env info, true)

/-- When the exception is delivered, a guard that has been hit is gone. -/
def delivered (page : ULONG_PTR) (s : Session) : Session :=
  let left := s.target.protection page &&& ~~~PAGE_GUARD
  { s with target.protection := Function.update s.target.protection page left }

variable {k : Client} {env : Env} {s : Session} {accessType accessAddress : ULONG_PTR}
  {rest : List ULONG_PTR} {info : EXCEPTION_DEBUG_INFO}

theorem dispatchMemoryBreakpointException_eq_none_iff
    (hparameters : info.parameters = accessType :: accessAddress :: rest) :
    s.dispatchMemoryBreakpointException k env info = none ↔
      s.pageAddress accessAddress ∉ s.bps.gMemoryBreakpointPages := by
  unfold dispatchMemoryBreakpointException
  rw [hparameters]
  dsimp only
  split
  · rename_i hnone
    refine iff_of_true rfl fun hmem => ?_
    rw [Std.ExtTreeMap.mem_iff_isSome_getElem?, hnone] at hmem
    cases hmem
  · rename_i pageInfo hsome
    have hmem : s.pageAddress accessAddress ∈ s.bps.gMemoryBreakpointPages := by
      rw [Std.ExtTreeMap.mem_iff_isSome_getElem?, hsome]
      rfl
    exact iff_of_false (by simp) (not_not.mpr hmem)

theorem passed_iff (hcode : info.code = STATUS_GUARD_PAGE_VIOLATION ∨
      info.code = EXCEPTION_ACCESS_VIOLATION)
    (hparameters : info.parameters = accessType :: accessAddress :: rest) :
    s.Passed k env info ↔ s.pageAddress accessAddress ∉ s.bps.gMemoryBreakpointPages := by
  constructor
  · rintro ⟨hnone, -⟩
    exact (dispatchMemoryBreakpointException_eq_none_iff hparameters).mp hnone
  · intro hpage
    have hpasses : s.PassesOn env info := by
      refine ⟨fun h => ?_, fun _ t a r h => ?_, fun h => ?_, fun h => ?_⟩
      · rcases hcode with hc | hc <;> rw [hc] at h <;> exact absurd h (by decide)
      · rw [hparameters] at h
        cases h
        exact hpage
      · rcases hcode with hc | hc <;> rw [hc] at h <;> exact absurd h.1 (by decide)
      · rcases hcode with hc | hc <;> rw [hc] at h <;> exact absurd h (by decide)
    exact ⟨(dispatchMemoryBreakpointException_eq_none_iff hparameters).mpr hpage,
      exceptionEvent_of_passesOn k hpasses⟩

end Session

/-- A fault of an access is consumed only if a guard of the adapter's causes it, and passed
if the page carries just its own protection, iff the page is not watched in the session `s'` that
it is delivered in, or a guard of the adapter's is on it in the session `s` that it is raised in. -/
theorem guards_transparent_iff (k : Client) (env : Env) (allows : DWORD → ULONG_PTR → Bool)
    {s s' : Session} {accessType accessAddress : ULONG_PTR} {info : EXCEPTION_DEBUG_INFO}
    {rest : List ULONG_PTR}
    (hraises : s.target.raises allows (s.pageAddress accessAddress) accessType = some info.code)
    (hparameters : info.parameters = accessType :: accessAddress :: rest) :
    ((s'.dispatchMemoryBreakpointException k env info).isSome →
        s.GuardAdded (s.pageAddress accessAddress)) ∧
      (s.target.protection (s.pageAddress accessAddress) =
          s.target.ownProtection (s.pageAddress accessAddress) → s'.Passed k env info) ↔
    s'.pageAddress accessAddress ∉ s'.bps.gMemoryBreakpointPages ∨
      s.GuardAdded (s.pageAddress accessAddress) := by
  have hcode : info.code = STATUS_GUARD_PAGE_VIOLATION ∨ info.code = EXCEPTION_ACCESS_VIOLATION := by
    unfold Target.raises at hraises
    split at hraises
    · exact .inl (Option.some.inj hraises).symm
    split at hraises
    · cases hraises
    · exact .inr (Option.some.inj hraises).symm
  have hconsumed : (s'.dispatchMemoryBreakpointException k env info).isSome ↔
      s'.pageAddress accessAddress ∈ s'.bps.gMemoryBreakpointPages := by
    rw [← not_iff_not, Bool.not_eq_true, Option.isSome_eq_false_iff, Option.isNone_iff_eq_none]
    exact Session.dispatchMemoryBreakpointException_eq_none_iff hparameters
  rw [Session.passed_iff hcode hparameters, hconsumed]
  constructor
  · rintro ⟨hguard, -⟩
    by_cases hmem : s'.pageAddress accessAddress ∈ s'.bps.gMemoryBreakpointPages
    · exact .inr (hguard hmem)
    · exact .inl hmem
  · rintro (hmem | hguard)
    · exact ⟨fun h => absurd h hmem, fun _ => hmem⟩
    · refine ⟨fun _ => hguard, fun hown => ?_⟩
      rw [Session.GuardAdded, hown] at hguard
      exact absurd hguard.2 hguard.1

/-- A live session whose only thread runs on read-only pages. -/
def readOnlySession : Session :=
  { threadedSession with target.protection := fun _ => 2, target.ownProtection := fun _ => 2 }

/-- Writes need a right that read-only pages do not give. -/
def allowsWrite (protection : DWORD) (accessType : ULONG_PTR) : Bool := protection ≠ 2 || accessType ≠ 1

def writeViolation : EXCEPTION_DEBUG_INFO :=
  { code := EXCEPTION_ACCESS_VIOLATION, address := 0x402000, parameters := [1, 0x401000] }

theorem guards_transparent_iff_unwatched :
    (((readOnlySession.delivered (readOnlySession.pageAddress 0x401000)).dispatchMemoryBreakpointException
        idle {} writeViolation).isSome → readOnlySession.GuardAdded
          (readOnlySession.pageAddress 0x401000)) ∧
      (readOnlySession.delivered (readOnlySession.pageAddress 0x401000)).Passed idle {} writeViolation := by
  have hraises : readOnlySession.target.raises allowsWrite (readOnlySession.pageAddress 0x401000) 1 =
      some writeViolation.code := by decide
  have hparameters : writeViolation.parameters = 1 :: 0x401000 :: [] := rfl
  have htransparent := (@guards_transparent_iff idle {} allowsWrite readOnlySession
    (readOnlySession.delivered (readOnlySession.pageAddress 0x401000)) _ _ _ _ hraises hparameters).mpr
    (.inl (by decide))
  exact ⟨htransparent.1, htransparent.2 rfl⟩

def watchedSession : Session := (ApiCall.run {} (.setMemoryBPXEx 0x401000 1 5 true (some 1)) readOnlySession).1

/-- The watched page is exposed while the thread repeats its access. -/
def exposedSession : Session :=
  watchedSession.afterEvent idle {}
    (.exception { code := STATUS_GUARD_PAGE_VIOLATION, address := 0x402000, parameters := [1, 0x401000] })

/-- A write to a read-only page faults even where the page is exposed, and is taken for a
hit of the watched page again. -/
theorem guards_not_transparent :
    ¬ ∀ (k : Client) (env : Env) (allows : DWORD → ULONG_PTR → Bool) (s₀ s : Session)
      (accessType accessAddress : ULONG_PTR) (info : EXCEPTION_DEBUG_INFO) (rest : List ULONG_PTR),
      s₀.Live → s₀.bps.gMemoryBreakpointPages = ∅ → Run anyRules s₀ s →
      s.target.raises allows (s.pageAddress accessAddress) accessType = some info.code →
      info.parameters = accessType :: accessAddress :: rest →
      s.target.protection (s.pageAddress accessAddress) =
          s.target.ownProtection (s.pageAddress accessAddress) →
        (s.delivered (s.pageAddress accessAddress)).Passed k env info := by
  intro hclaim
  have hset : CallStep anyRules readOnlySession watchedSession :=
    show CallStep anyRules readOnlySession
      (ApiCall.run {} (.setMemoryBPXEx 0x401000 1 5 true (some 1)) readOnlySession).1 from .call trivial
  have hhit : Run anyRules watchedSession exposedSession :=
    run_afterEvent (idle_follows anyRules) (by decide) (List.isEmpty_iff.mp (by decide)) trivial
      (by decide)
  have hpassed := hclaim idle {} allowsWrite readOnlySession exposedSession 1 0x401000 writeViolation []
    (show readOnlySession.Live from rfl) rfl (.head (.call hset) hhit) (by decide) rfl (by decide)
  have hpage := (Session.passed_iff (.inr rfl) rfl).mp hpassed
  exact absurd hpage (by decide)

end TitanEngine

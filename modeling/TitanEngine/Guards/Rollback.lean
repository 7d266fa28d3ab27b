import TitanEngine.Guards.Index
import TitanEngine.Guards.Release

/-! What is left of a memory breakpoint that could not be set. -/
namespace TitanEngine
open MapSums

namespace Session
variable {env : Env} {s s' : Session} {id : ULONG64} {page : ULONG_PTR}

/-- The page was not watched, and has got its guard for a new breakpoint. -/
structure NewlyGuarded (env : Env) (page : ULONG_PTR) (s s' : Session) : Prop where
  new : s.bps.gMemoryBreakpointPages[page]? = none
  process : s.activeProcessHandle env ≠ 0
  protectable : env.virtualProtectEx page (s.target.protection page ||| PAGE_GUARD) = true
  guarded : s'.target.protection page = s.target.protection page ||| PAGE_GUARD

theorem joinPage_protection (env : Env) (id : ULONG64) (page : ULONG_PTR) (s : Session) :
    (s.joinPage env id page).1.target.protection = s.target.protection ∨
      (s.joinPage env id page).2.2 = true ∧ s.NewlyGuarded env page (s.joinPage env id page).1 ∧
        (s.joinPage env id page).1.target.protection =
          Function.update s.target.protection page (s.target.protection page ||| PAGE_GUARD) := by
  unfold joinPage
  cases hpage : s.bps.gMemoryBreakpointPages[page]? with
  | some info => exact .inl rfl
  | none =>
    dsimp only
    split_ifs with hquery
    · exact .inl rfl
    · let s₁ : Session := { s with bps.gMemoryBreakpointPages :=
                              s.bps.gMemoryBreakpointPages.insert page ⟨s.target.protection page, {id}⟩ }
      have hentry : s₁.bps.gMemoryBreakpointPages[page]? = some ⟨s.target.protection page, {id}⟩ :=
        Std.ExtTreeMap.getElem?_insert_self
      show (s₁.protectMemoryBreakpointPage env page true).1.target.protection = s.target.protection ∨
        true = true ∧ s.NewlyGuarded env page (s₁.protectMemoryBreakpointPage env page true).1 ∧ _
      unfold protectMemoryBreakpointPage virtualProtectEx
      rw [hentry]
      simp only [if_true]
      split_ifs with hprocess hprotect
      · exact .inl rfl
      · exact .inr ⟨trivial, ⟨hpage, hprocess, hprotect, Function.update_self ..⟩, rfl⟩
      · exact .inl rfl

/-- Joining pages guards new ones among those it has touched, and changes no other protection. -/
theorem joinPages_protection (env : Env) (id : ULONG64) (list : List ULONG_PTR) (hnodup : list.Nodup)
    (s : Session) (p : ULONG_PTR) :
    (joinPages env id list s).1.target.protection p = s.target.protection p ∨
      p ∈ (joinPages env id list s).2.1 ∧ s.NewlyGuarded env p (joinPages env id list s).1 := by
  induction list generalizing s with
  | nil => exact .inl rfl
  | cons page list ih =>
    rw [List.nodup_cons] at hnodup
    obtain ⟨pages, protection, e, ok, touched, heq, -, htouched, hpages⟩ := joinPage_outcome env id page s
    have hfirst := joinPage_protection env id page s
    unfold joinPages
    rw [heq] at hfirst ⊢
    dsimp only at hfirst
    cases ok with
    | false =>
      dsimp only
      rcases hfirst with hsame | ⟨hyes, hnew, hprotection⟩
      · exact .inl (congrFun hsame p)
      · by_cases hp : p = page
        · subst hp
          refine .inr ⟨?_, hnew⟩
          rw [hyes]
          exact List.mem_singleton_self _
        · left
          rw [hprotection]
          exact Function.update_of_ne hp ..
    | true =>
      dsimp only
      let s₁ : Session :=
        { s with bps.gMemoryBreakpointPages := pages, target.protection := protection, lastError := e }
      have hrest := ih hnodup.2 s₁
      by_cases hp : p = page
      · subst hp
        have hkept : (joinPages env id list s₁).1.target.protection p = protection p := by
          obtain ⟨_, _, _, _, _, hrun, hother, -⟩ := joinPages_outcome env id list hnodup.2 s₁
          rw [hrun]
          exact hother p hnodup.1
        rcases hfirst with hsame | ⟨-, hnew, -⟩
        · left
          rw [hkept, hsame]
        · refine .inr ⟨List.mem_cons_self, hnew.new, hnew.process, hnew.protectable, ?_⟩
          rw [hkept]
          exact hnew.guarded
      · have hsame : protection p = s.target.protection p := by
          rcases hfirst with hsame | ⟨-, -, hprotection⟩
          · exact congrFun hsame p
          · rw [hprotection]
            exact Function.update_of_ne hp ..
        have hpage := hpages p
        rw [if_neg fun h => hp h.1] at hpage
        rcases hrest with hkept | ⟨hmem, hnew⟩
        · left
          rw [hkept]
          exact hsame
        · refine .inr ⟨List.mem_cons_of_mem _ hmem, ?_, hnew.process, ?_, ?_⟩
          · rw [← hpage]
            exact hnew.new
          · rw [← hsame]
            exact hnew.protectable
          · rw [← hsame]
            exact hnew.guarded

/-- The breakpoint is armed at the page. -/
def WatchesPage (id : ULONG64) (page : ULONG_PTR) (s : Session) : Prop :=
  ∃ info, s.bps.gMemoryBreakpointPages[page]? = some info ∧ id ∈ info.breakpointIds ∧
    s.target.protection page = info.originalProtect ||| PAGE_GUARD

/-- The memory breakpoints are as before, in the tables and in the target. -/
structure Unset (s s' : Session) : Prop where
  breakpoints : s'.bps.gMemoryBreakpoints = s.bps.gMemoryBreakpoints
  pages : s'.bps.gMemoryBreakpointPages = s.bps.gMemoryBreakpointPages
  protections : s'.target.protection = s.target.protection
  armed id page : s'.WatchesPage id page ↔ s.WatchesPage id page

theorem unset_of_eq (hbreakpoints : s'.bps.gMemoryBreakpoints = s.bps.gMemoryBreakpoints)
    (hpages : s'.bps.gMemoryBreakpointPages = s.bps.gMemoryBreakpointPages)
    (hprotections : s'.target.protection = s.target.protection) : s.Unset s' := by
  refine ⟨hbreakpoints, hpages, hprotections, fun id page => ?_⟩
  unfold WatchesPage
  rw [hpages, hprotections]

/-- A breakpoint that joins a page and leaves it again is forgotten there. -/
theorem strip_joined {protection : DWORD} {info? : Option MemoryBreakpointPage}
    (hnew : ∀ info, info? = some info → id ∉ info.breakpointIds)
    (hfilled : ∀ info, info? = some info → ∃ id', id' ∈ info.breakpointIds) :
    strip id (joined id protection info?) = info? := by
  cases info? with
  | none =>
    rw [strip_eq_none]
    intro id' hmem
    rcases (mem_joined protection none id').1 hmem with rfl | ⟨info, hinfo, -⟩
    · rfl
    · cases hinfo
  | some info =>
    obtain ⟨other, hother⟩ := hfilled info rfl
    have hne : other ≠ id := fun he => hnew info rfl (he ▸ hother)
    cases hstrip : strip id (joined id protection (some info)) with
    | none =>
      rw [strip_eq_none] at hstrip
      exact absurd (hstrip other ((mem_joined protection (some info) other).2 (.inr ⟨info, rfl, hother⟩))) hne
    | some left =>
      have hids : left.breakpointIds = info.breakpointIds := by
        ext1 id'
        rw [mem_strip hstrip, mem_joined]
        constructor
        · rintro ⟨hid', rfl | ⟨info', hinfo', hmem⟩⟩
          · exact absurd rfl hid'
          · cases hinfo'
            exact hmem
        · intro hmem
          exact ⟨fun he => hnew info rfl (he ▸ hmem), .inr ⟨info, rfl, hmem⟩⟩
      have hprotect : left.originalProtect = info.originalProtect := by
        unfold strip at hstrip
        split at hstrip
        · cases hstrip
        · cases hstrip
          rfl
      obtain ⟨_, _⟩ := left
      subst hids hprotect
      rfl

/-- A page that takes a guard gets its protection back when it is asked for. -/
def Restores (env : Env) (start size : ULONG_PTR) (s : Session) : Prop :=
  ∀ page ∈ s.pagesOf start size, s.bps.gMemoryBreakpointPages[page]? = none →
    env.virtualProtectEx page (s.target.protection page ||| PAGE_GUARD) = true →
      env.virtualProtectEx page (s.target.protection page) = true

/-- Leaving the pages that have been joined undoes the joining, page by page. -/
theorem leavePages_joinPages {list : List ULONG_PTR} {touched : List ULONG_PTR} {ok : Bool}
    (hnodup : list.Nodup) (hnew : ∀ page, ¬ Carries s.bps.gMemoryBreakpointPages id page)
    (hfilled : Filled s.bps.gMemoryBreakpointPages)
    (hrestores : ∀ page ∈ list, s.bps.gMemoryBreakpointPages[page]? = none →
      env.virtualProtectEx page (s.target.protection page ||| PAGE_GUARD) = true →
        env.virtualProtectEx page (s.target.protection page) = true)
    (hjoin : joinPages env id list s = (s', touched, ok)) :
    (leavePages env id touched s').1.bps.gMemoryBreakpointPages = s.bps.gMemoryBreakpointPages ∧
      (leavePages env id touched s').1.target.protection = s.target.protection := by
  have hprotection := joinPages_protection env id list hnodup s
  obtain ⟨pages, protection, e, touched', ok', hrun, -, hsub, -, hpages⟩ := joinPages_outcome env id list hnodup s
  rw [hrun] at hjoin hprotection
  cases hjoin
  have hstrip : ∀ p, strip id (joined id (s.target.protection p) s.bps.gMemoryBreakpointPages[p]?) =
      s.bps.gMemoryBreakpointPages[p]? := by
    intro p
    apply strip_joined
    · exact fun info hinfo hmem => hnew p ⟨info, hinfo, hmem⟩
    · exact fun info hinfo => hfilled p info hinfo
  have hleft := leavePages_outcome env id touched
    { s with bps.gMemoryBreakpointPages := pages, target.protection := protection, lastError := e }
  have hresult := leavePages_result env id touched
    { s with bps.gMemoryBreakpointPages := pages, target.protection := protection, lastError := e }
  generalize leavePages env id touched
    { s with bps.gMemoryBreakpointPages := pages, target.protection := protection, lastError := e } = r
    at hleft hresult ⊢
  constructor
  · obtain ⟨pages', protection', e', heq, -, hpages'⟩ := hleft
    rw [heq]
    dsimp only
    ext1 p
    rw [hpages']
    dsimp only
    rw [hpages]
    by_cases hp : p ∈ touched
    · rw [if_pos hp, if_pos hp, Option.bind_some, hstrip]
    · rw [if_neg hp, if_neg hp]
  · funext p
    obtain ⟨-, hmissing, hlisted⟩ := hresult
    dsimp only at hmissing hlisted
    have hentry := hpages p
    rcases hprotection p with hkept | ⟨hp, hguarded⟩
    · -- Whether or not the page is given its protection back, it has it.
      dsimp only at hkept
      cases hlist : pages[p]? with
      | none => rw [hmissing p hlist, hkept]
      | some info =>
        rw [hlisted p info hlist, hkept]
        split_ifs with hleave
        · rw [hlist, if_pos hleave.1] at hentry
          cases hold : s.bps.gMemoryBreakpointPages[p]? with
          | none =>
            rw [hold] at hentry
            obtain rfl := Option.some.inj hentry
            rfl
          | some old =>
            have hsome := hstrip p
            rw [← Option.some.inj hentry, hleave.2.1, hold] at hsome
            cases hsome
        · rfl
    · dsimp only at hp hguarded
      rw [if_pos hp, hguarded.new] at hentry
      have hstripped := hstrip p
      rw [hguarded.new] at hstripped
      have hunguards : ({ s with bps.gMemoryBreakpointPages := pages, target.protection := protection
                                 lastError := e } : Session).Unguards env p
          (joined id (s.target.protection p) none) :=
        ⟨hguarded.process, hrestores p (hsub p hp) hguarded.new hguarded.protectable⟩
      rw [hlisted p _ hentry, if_pos ⟨hp, hstripped, hunguards⟩]
      rfl

/-- A call that fails leaves the memory breakpoints as they were. -/
theorem Indexed.unset (hs : s.Indexed) {start size : ULONG_PTR} {type : ℕ} {restoreOnHit : Bool}
    {callback : Option Callback}
    (hfresh : s.bps.gNextMemoryBreakpointId ∉ s.bps.gMemoryBreakpoints) (hrestores : s.Restores env start size)
    (hfailed : (s.setMemoryBPXEx env start size type restoreOnHit callback).2 = false) :
    s.Unset (s.setMemoryBPXEx env start size type restoreOnHit callback).1 := by
  obtain ⟨e, heq⟩ | ⟨hrange, -, -, info, hid, -, -, s₁, s', touched, ok, hs₁, hjoin, heq⟩ :=
    setMemoryBPXEx_outcome env start size type restoreOnHit callback hs.live
  · rw [heq]
    exact unset_of_eq rfl rfl rfl
  rw [heq] at hfailed
  obtain rfl : ok = false := hfailed
  rw [← hid] at hfresh
  obtain ⟨k, hk, hpow⟩ := hs.size
  have hnew : ∀ page, ¬ Carries s₁.bps.gMemoryBreakpointPages info.id page := by
    intro page hcarries
    rw [hs₁] at hcarries
    obtain ⟨info', hinfo', -⟩ := (hs.index info.id page).1 hcarries
    exact hfresh (mem_of_getElem? hinfo')
  have hnodup : (s₁.pagesOf start size).Nodup := by
    rw [hs₁]
    exact nodup_pagesOf (s := s) hk hpow hrange
  have hfilled : Filled s₁.bps.gMemoryBreakpointPages := by
    rw [hs₁]
    exact hs.filled
  have hrestores₁ : s₁.Restores env start size := by
    rw [hs₁]
    exact hrestores
  obtain ⟨hpages, hprotection⟩ := leavePages_joinPages hnodup hnew hfilled hrestores₁ hjoin
  have hbreakpoints : (leavePages env info.id touched s').1.bps.gMemoryBreakpoints =
      s₁.bps.gMemoryBreakpoints := by
    obtain ⟨_, _, _, hleave, -⟩ := leavePages_outcome env info.id touched s'
    obtain ⟨_, _, _, _, _, hrun, -⟩ := joinPages_outcome env info.id _ hnodup s₁
    rw [hrun] at hjoin
    cases hjoin
    rw [hleave]
  rw [heq, if_neg (by decide)]
  refine unset_of_eq ?_ ?_ ?_
  · dsimp only
    rw [hbreakpoints, hs₁]
    dsimp only
    rw [insertIfNew_of_notMem hfresh, erase_insert_self hfresh]
  · dsimp only
    rw [hpages, hs₁]
  · dsimp only
    rw [hprotection, hs₁]

end Session

/-- A call of `SetMemoryBPXEx` that fails leaves no trace, in every run in which no memory
breakpoint takes an id that another one has. -/
theorem failed_set_undone {env : Env} {s₀ s : Session} {start size : ULONG_PTR} {type : ℕ}
    {restoreOnHit : Bool} {callback : Option Callback} (hlive : s₀.gSessionKind = .live)
    (hsize : ∃ k < 64, s₀.targetPageSize = BitVec.twoPow 64 k) (hmap : s₀.bps.gMemoryBreakpoints = ∅)
    (hpages : s₀.bps.gMemoryBreakpointPages = ∅) (hrun : Run freshIdRules s₀ s)
    (hfresh : s.bps.gNextMemoryBreakpointId ∉ s.bps.gMemoryBreakpoints) (hrestores : s.Restores env start size)
    (hfailed : (s.setMemoryBPXEx env start size type restoreOnHit callback).2 = false) :
    s.Unset (s.setMemoryBPXEx env start size type restoreOnHit callback).1 := by
  have hindexed : s.Indexed := closed_indexed.run freshIdRules_queueBlind hrun
    (Session.Indexed.of_empty hlive hsize hmap hpages)
  exact hindexed.unset hfresh hrestores hfailed

/-- The second page of the range cannot be guarded, the first one is shared. -/
def unguardable : Env := { virtualProtectEx := fun page protection => page ≠ 0x11000 || protection ≠ 0x104 }

theorem failed_set_undone_shared :
    firstIdSession.Unset (firstIdSession.setMemoryBPXEx unguardable 0x10800 0x1000 3 true (some 2)).1 := by
  have hset : CallStep freshIdRules twoThreadSession firstIdSession := by
    refine .call fun _ _ _ _ _ _ => ?_
    exact Std.ExtTreeMap.not_mem_empty
  have hpages : firstIdSession.pagesOf 0x10800 0x1000 = [0x10000, 0x11000] := by decide
  have hrestores : firstIdSession.Restores unguardable 0x10800 0x1000 := by
    intro page hpage _ _
    rw [hpages, List.mem_pair] at hpage
    rcases hpage with rfl | rfl <;> decide
  exact failed_set_undone rfl ⟨12, by decide, by decide⟩ rfl rfl (.single (.call hset)) (by decide)
    hrestores (by decide)

/-- The ids come round, and a call that fails takes away the breakpoint of its id. -/
theorem failed_set_not_undone :
    ¬ ∀ (env : Env) (s₀ s : Session) (start size : ULONG_PTR) (type : ℕ) (restoreOnHit : Bool)
      (callback : Option Callback), s₀.gSessionKind = .live →
      (∃ k < 64, s₀.targetPageSize = BitVec.twoPow 64 k) → s₀.bps.gMemoryBreakpoints = ∅ →
      s₀.bps.gMemoryBreakpointPages = ∅ → Run anyRules s₀ s → s.Restores env start size →
      (s.setMemoryBPXEx env start size type restoreOnHit callback).2 = false →
        s.Unset (s.setMemoryBPXEx env start size type restoreOnHit callback).1 := by
  intro hclaim
  have hset : Run anyRules twoThreadSession firstIdSession := by
    refine .single (.call ?_)
    exact .call trivial
  obtain ⟨s, hrun, hs⟩ := worn_reachable (2 ^ 64 - 1) (by omega)
  obtain ⟨info, e, heq⟩ := hs.unqueried
  have hone : s.bps.gNextMemoryBreakpointId = 1 := by
    rw [hs.nextId]
    decide
  have hunset := hclaim { virtualQueryEx := fun _ => false } twoThreadSession s 0x20000 1 3 true (some 1) rfl
    ⟨12, by decide, by decide⟩ rfl rfl (hset.trans hrun) (fun _ _ _ _ => rfl) (by rw [heq])
  have hbreakpoints := hunset.breakpoints
  rw [heq] at hbreakpoints
  dsimp only at hbreakpoints
  have hmem : (1 : ULONG64) ∈ s.bps.gMemoryBreakpoints := (hs.mem_iff 1).2 rfl
  rw [← hbreakpoints, hone] at hmem
  exact (mem_erase_iff.1 hmem).1 rfl

end TitanEngine

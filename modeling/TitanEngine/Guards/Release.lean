import TitanEngine.Guards.Pages

/-! Which pages are given back their protection when a breakpoint leaves them. -/
namespace TitanEngine
open MapSums

namespace Session
variable {env : Env} {s : Session} {id : ULONG64} {page : ULONG_PTR} {info : MemoryBreakpointPage}

/-- The page can be given back its protection. -/
def Unguards (env : Env) (s : Session) (page : ULONG_PTR) (info : MemoryBreakpointPage) : Prop :=
  s.activeProcessHandle env ≠ 0 ∧ env.virtualProtectEx page info.originalProtect = true

instance : Decidable (s.Unguards env page info) := inferInstanceAs (Decidable (_ ∧ _))

theorem unguard_outcome (env : Env) (hinfo : s.bps.gMemoryBreakpointPages[page]? = some info) :
    ∃ e, s.protectMemoryBreakpointPage env page false =
      ({ s with
          target.protection :=
            if s.Unguards env page info then
              Function.update s.target.protection page info.originalProtect
            else s.target.protection
          lastError := e }, decide (s.Unguards env page info)) := by
  unfold protectMemoryBreakpointPage virtualProtectEx
  rw [hinfo]
  dsimp only
  by_cases hprocess : s.activeProcessHandle env = 0
  · have hnot : ¬ s.Unguards env page info := fun h => h.1 hprocess
    rw [if_pos hprocess, if_neg hnot, decide_eq_false hnot]
    exact ⟨_, rfl⟩
  · rw [if_neg hprocess]
    by_cases hprotect : env.virtualProtectEx page info.originalProtect = true
    · have hyes : s.Unguards env page info := ⟨hprocess, hprotect⟩
      rw [if_pos hyes, decide_eq_true hyes]
      exact ⟨s.lastError, if_pos hprotect⟩
    · have hnot : ¬ s.Unguards env page info := fun h => hprotect h.2
      rw [if_neg hnot, decide_eq_false hnot]
      exact ⟨_, if_neg hprotect⟩

/-- The page is left without a breakpoint, and can be given back its protection. -/
def Yields (env : Env) (id : ULONG64) (page : ULONG_PTR) (s : Session) : Prop :=
  ∀ info, s.bps.gMemoryBreakpointPages[page]? = some info → strip id info = none →
    s.Unguards env page info

/-- What taking a breakpoint off one page does to the protections. -/
theorem leavePage_result (env : Env) (id : ULONG64) (page : ULONG_PTR) (s : Session) :
    ((s.leavePage env id page).2 = true ↔ s.Yields env id page) ∧
      (s.bps.gMemoryBreakpointPages[page]? = none →
        (s.leavePage env id page).1.target.protection = s.target.protection) ∧
      ∀ info, s.bps.gMemoryBreakpointPages[page]? = some info →
        (s.leavePage env id page).1.target.protection =
          if strip id info = none ∧ s.Unguards env page info then
            Function.update s.target.protection page info.originalProtect
          else s.target.protection := by
  unfold leavePage Yields
  cases hpage : s.bps.gMemoryBreakpointPages[page]? with
  | none => simp
  | some info =>
    by_cases hempty : (info.breakpointIds.erase id).isEmpty = true
    · have hstrip : strip id info = none := if_pos hempty
      let s₁ : Session := { s with bps.gMemoryBreakpointPages := s.bps.gMemoryBreakpointPages.insert page
                                     { info with breakpointIds := info.breakpointIds.erase id } }
      have hentry : s₁.bps.gMemoryBreakpointPages[page]? =
          some { info with breakpointIds := info.breakpointIds.erase id } :=
        Std.ExtTreeMap.getElem?_insert_self
      obtain ⟨e, hprotect⟩ := unguard_outcome env hentry
      have hsame : s₁.Unguards env page { info with breakpointIds := info.breakpointIds.erase id } =
          s.Unguards env page info := rfl
      simp only [hsame] at hprotect
      dsimp only
      rw [if_pos hempty, hprotect]
      refine ⟨?_, fun hnone => absurd hnone (by simp), fun info' hinfo' => ?_⟩
      · rw [decide_eq_true_iff]
        constructor
        · intro hunguards info' hinfo' _
          obtain rfl := Option.some.inj hinfo'
          exact hunguards
        · intro hall
          exact hall info rfl hstrip
      · obtain rfl := Option.some.inj hinfo'
        simp only [hstrip, true_and]
        rfl
    · have hstrip : strip id info ≠ none := by
        rw [strip, if_neg hempty]
        simp
      dsimp only
      rw [if_neg hempty]
      refine ⟨?_, fun hnone => absurd hnone (by simp), fun info' hinfo' => ?_⟩
      · simp only [true_iff]
        intro info' hinfo' hnone
        obtain rfl := Option.some.inj hinfo'
        exact absurd hnone hstrip
      · obtain rfl := Option.some.inj hinfo'
        rw [if_neg fun h => hstrip h.1]

/-- Leaving pages succeeds exactly where each page that is left without a breakpoint can be given
back its protection; these pages, and no others, are given it back. -/
theorem leavePages_result (env : Env) (id : ULONG64) (list : List ULONG_PTR) (s : Session) :
    ((leavePages env id list s).2 = true ↔ ∀ page ∈ list, s.Yields env id page) ∧
      (∀ page, s.bps.gMemoryBreakpointPages[page]? = none →
        (leavePages env id list s).1.target.protection page = s.target.protection page) ∧
      ∀ page info, s.bps.gMemoryBreakpointPages[page]? = some info →
        (leavePages env id list s).1.target.protection page =
          if page ∈ list ∧ strip id info = none ∧ s.Unguards env page info then info.originalProtect
          else s.target.protection page := by
  induction list generalizing s with
  | nil => simp [leavePages]
  | cons first list ih =>
    obtain ⟨hok, hmissing, hlisted⟩ := leavePage_result env id first s
    obtain ⟨pages, protection, e, heq, hother, hpages⟩ := leavePage_outcome env id first s
    obtain ⟨ihok, ihmissing, ihlisted⟩ := ih (s.leavePage env id first).1
    rw [heq] at hmissing hlisted ihok ihmissing ihlisted
    dsimp only at hmissing hlisted ihmissing ihlisted
    have hyields : ∀ page, ({ s with
        bps.gMemoryBreakpointPages := pages, target.protection := protection, lastError := e } :
          Session).Yields env id page ↔ page = first ∨ s.Yields env id page := by
      intro page
      unfold Yields
      dsimp only
      rw [hpages page]
      by_cases hpage : page = first
      · simp only [hpage, if_true, true_or, iff_true]
        intro info hinfo hnone
        cases hold : s.bps.gMemoryBreakpointPages[first]? with
        | none =>
          rw [hold] at hinfo
          cases hinfo
        | some old =>
          have hagain := strip_bind_strip id old
          rw [hold, Option.bind_some] at hinfo
          rw [hinfo, Option.bind_some, hnone] at hagain
          cases hagain
      · simp only [hpage, if_false, false_or]
        rfl
    refine ⟨?_, ?_, ?_⟩
    · simp only [leavePages, heq, Bool.and_eq_true, hok, ihok, hyields, List.forall_mem_cons]
      constructor
      · rintro ⟨hfirst, hrest⟩
        refine ⟨hfirst, fun page hpage => ?_⟩
        rcases hrest page hpage with rfl | hyield
        · exact hfirst
        · exact hyield
      · rintro ⟨hfirst, hrest⟩
        exact ⟨hfirst, fun page hpage => .inr (hrest page hpage)⟩
    · intro page hpage
      have hnone : pages[page]? = none := by
        rw [hpages page, hpage]
        split_ifs <;> rfl
      simp only [leavePages, heq, ihmissing page hnone]
      by_cases hfirst : page = first
      · subst hfirst
        rw [hmissing hpage]
      · exact hother page hfirst
    · intro page info hinfo
      simp only [leavePages, heq]
      by_cases hfirst : page = first
      · subst hfirst
        have hentry : pages[page]? = strip id info := by rw [hpages page, if_pos rfl, hinfo, Option.bind_some]
        have hown := congrFun (hlisted info hinfo) page
        cases hstrip : strip id info with
        | none =>
          rw [hstrip] at hentry
          rw [ihmissing page hentry, hown]
          simp only [hstrip, true_and, List.mem_cons, true_or]
          split_ifs
          · exact Function.update_self ..
          · rfl
        | some left =>
          rw [hstrip] at hentry
          have hagain := strip_bind_strip id info
          rw [hstrip, Option.bind_some] at hagain
          rw [ihlisted page left hentry, hagain, hown]
          simp [hstrip]
      · have hentry : pages[page]? = some info := by rw [hpages page, if_neg hfirst, hinfo]
        rw [ihlisted page info hentry, hother page hfirst]
        simp only [List.mem_cons, hfirst, false_or]
        rfl

end Session

end TitanEngine

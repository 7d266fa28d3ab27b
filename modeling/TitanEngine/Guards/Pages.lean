import TitanEngine.Lib.MapSums
import TitanEngine.Lib.Pages
import TitanEngine.Effects.Core

/-! The page loops, and what joining and leaving a page does to the table of pages. -/
namespace TitanEngine
open MapSums

namespace Session

theorem pageAddress_eq_floor (address : ULONG_PTR) (s : Session) :
    s.pageAddress address = Pages.floor s.targetPageSize address := rfl

theorem pagesFrom_eq_walk (size endPage : ULONG_PTR) (fuel : ℕ) (page : ULONG_PTR) :
    pagesFrom size endPage fuel page = Pages.walk size endPage fuel page := by
  induction fuel generalizing page with
  | zero => rfl
  | succ fuel ih =>
    simp only [pagesFrom, Pages.walk]
    rw [ih]

/-- Some byte of the range lies in the page. -/
def Touches (start size page : ULONG_PTR) (s : Session) : Prop :=
  ∃ address, start ≤ address ∧ address - start < size ∧ s.pageAddress address = page

section Range
variable {s : Session} {k : ℕ} (hk : k < 64) (hsize : s.targetPageSize = BitVec.twoPow 64 k)
variable {start size : ULONG_PTR} (hrange : start < start + size)

include hrange in
/-- A range that the adapter accepts does not wrap around. -/
theorem toNat_last : (start + size).toNat = start.toNat + size.toNat ∧ 0 < size.toNat ∧
    (start + size - 1).toNat = start.toNat + size.toNat - 1 := by
  have hlt := BitVec.lt_def.mp hrange
  rw [BitVec.toNat_add] at hlt
  have hbound := start.isLt
  have hbound' := size.isLt
  have hsum : (start + size).toNat = start.toNat + size.toNat := by
    rw [BitVec.toNat_add]
    omega
  refine ⟨hsum, by omega, ?_⟩
  have hone : (1 : ULONG_PTR) ≤ start + size := by
    rw [BitVec.le_def, hsum]
    show 1 ≤ start.toNat + size.toNat
    omega
  rw [BitVec.toNat_sub_of_le hone, hsum]
  rfl

include hrange in
theorem touches_iff {page : ULONG_PTR} : s.Touches start size page ↔
    ∃ address, start ≤ address ∧ address ≤ start + size - 1 ∧ s.pageAddress address = page := by
  obtain ⟨-, hpos, hlast⟩ := toNat_last hrange
  have hmem : ∀ address : ULONG_PTR, start ≤ address →
      (address - start < size ↔ address ≤ start + size - 1) := by
    intro address hle
    rw [BitVec.lt_def, BitVec.le_def, hlast, BitVec.toNat_sub_of_le hle]
    have hle' := BitVec.le_def.mp hle
    omega
  constructor
  · rintro ⟨address, hle, hlt, hpage⟩
    exact ⟨address, hle, (hmem address hle).mp hlt, hpage⟩
  · rintro ⟨address, hle, hle', hpage⟩
    exact ⟨address, hle, (hmem address hle).mpr hle', hpage⟩

include hrange in
theorem start_le_last : start ≤ start + size - 1 := by
  obtain ⟨-, hpos, hlast⟩ := toNat_last hrange
  rw [BitVec.le_def, hlast]
  omega

include hk hsize hrange

/-- How many steps the page loop of a range takes. -/
theorem pageSteps_eq : (s.pageAddress (start + size - 1) - s.pageAddress start).toNat /
    s.targetPageSize.toNat = (start + size - 1).toNat / 2 ^ k - start.toNat / 2 ^ k := by
  have hab := start_le_last hrange
  have hadd := Pages.floor_add_mul hk hab
  have hle : s.pageAddress start ≤ s.pageAddress (start + size - 1) := by
    rw [BitVec.le_def, pageAddress_eq_floor, pageAddress_eq_floor, hsize, ← hadd]
    exact Nat.le_add_right ..
  rw [BitVec.toNat_sub_of_le hle, pageAddress_eq_floor, pageAddress_eq_floor, hsize, ← hadd,
    Nat.add_sub_cancel_left, Pages.toNat_twoPow_of_lt hk, Nat.mul_div_cancel _ (Nat.two_pow_pos k)]

/-- The page loop ends: however long it may run, it visits the same pages. -/
theorem pagesFrom_eq_pagesOf {fuel : ℕ}
    (hfuel : (s.pageAddress (start + size - 1) - s.pageAddress start).toNat /
      s.targetPageSize.toNat < fuel) :
    pagesFrom s.targetPageSize (s.pageAddress (start + size - 1)) fuel (s.pageAddress start) =
      s.pagesOf start size := by
  have hab := start_le_last hrange
  rw [pageSteps_eq hk hsize hrange] at hfuel
  have hfuel' := Nat.lt_succ_self ((s.pageAddress (start + size - 1) - s.pageAddress start).toNat /
    s.targetPageSize.toNat)
  unfold pagesOf
  dsimp only
  rw [pagesFrom_eq_walk, pagesFrom_eq_walk, pageSteps_eq hk hsize hrange] at *
  rw [pageAddress_eq_floor, pageAddress_eq_floor, hsize, Pages.walk_range hk hab hfuel,
    Pages.walk_range hk hab (Nat.lt_succ_self _)]

/-- The page loop visits just the pages that the range touches. -/
theorem mem_pagesOf {page : ULONG_PTR} :
    page ∈ s.pagesOf start size ↔ s.Touches start size page := by
  have hab := start_le_last hrange
  rw [touches_iff hrange]
  unfold pagesOf
  dsimp only
  rw [pagesFrom_eq_walk, pageSteps_eq hk hsize hrange, pageAddress_eq_floor, pageAddress_eq_floor, hsize,
    Pages.mem_walk hk hab (Nat.lt_succ_self _)]
  simp only [pageAddress_eq_floor, hsize]

theorem nodup_pagesOf : (s.pagesOf start size).Nodup := by
  have hab := start_le_last hrange
  unfold pagesOf
  dsimp only
  rw [pagesFrom_eq_walk, pageSteps_eq hk hsize hrange, pageAddress_eq_floor, pageAddress_eq_floor, hsize]
  exact Pages.nodup_walk hk hab (Nat.lt_succ_self _)

end Range

/-- What protecting a page can do: nothing to the tables, and to no other page. -/
theorem protectMemoryBreakpointPage_outcome (env : Env) (page : ULONG_PTR) (guarded : Bool)
    (s : Session) : ∃ protection e, (s.protectMemoryBreakpointPage env page guarded).1 =
      { s with target.protection := protection, lastError := e } ∧
        ∀ p, p ≠ page → protection p = s.target.protection p := by
  unfold protectMemoryBreakpointPage
  split
  · exact ⟨_, _, rfl, fun _ _ => rfl⟩
  rename_i info _
  split
  · exact ⟨_, _, rfl, fun _ _ => rfl⟩
  generalize (if guarded then info.originalProtect ||| PAGE_GUARD else info.originalProtect) = value
  unfold virtualProtectEx
  split
  · exact ⟨Function.update s.target.protection page value, _, rfl,
      fun p hp => Function.update_of_ne hp ..⟩
  · exact ⟨_, _, rfl, fun _ _ => rfl⟩

/-- A page without the breakpoint `id`, if another one is left on it. -/
def strip (id : ULONG64) (info : MemoryBreakpointPage) : Option MemoryBreakpointPage :=
  if (info.breakpointIds.erase id).isEmpty then none
  else some { info with breakpointIds := info.breakpointIds.erase id }

theorem erase_erase_self (ids : OrderedSet ULONG64) (id : ULONG64) :
    (ids.erase id).erase id = ids.erase id := by
  ext1 other
  simp only [Std.ExtTreeSet.mem_erase]
  tauto

theorem strip_bind_strip (id : ULONG64) (info : MemoryBreakpointPage) :
    (strip id info).bind (strip id) = strip id info := by
  by_cases h : (info.breakpointIds.erase id).isEmpty = true
  · rw [strip, if_pos h]
    rfl
  · rw [strip, if_neg h, Option.bind_some, strip]
    dsimp only
    rw [erase_erase_self, if_neg h]

theorem leavePage_outcome (env : Env) (id : ULONG64) (page : ULONG_PTR) (s : Session) :
    ∃ pages protection e, (s.leavePage env id page).1 =
        { s with bps.gMemoryBreakpointPages := pages, target.protection := protection, lastError := e } ∧
      (∀ p, p ≠ page → protection p = s.target.protection p) ∧
      ∀ p, pages[p]? = if p = page then s.bps.gMemoryBreakpointPages[p]?.bind (strip id)
        else s.bps.gMemoryBreakpointPages[p]? := by
  unfold leavePage
  split
  · rename_i hnone
    refine ⟨_, _, _, rfl, fun _ _ => rfl, fun p => ?_⟩
    split
    · rename_i hp
      rw [hp, hnone]
      rfl
    · rfl
  rename_i info hinfo
  dsimp only
  split
  · rename_i hempty
    obtain ⟨protection, e, heq, hother⟩ := protectMemoryBreakpointPage_outcome env page false
      { s with bps.gMemoryBreakpointPages := s.bps.gMemoryBreakpointPages.insert page
                 { info with breakpointIds := info.breakpointIds.erase id } }
    rw [heq]
    refine ⟨_, protection, e, rfl, hother, fun p => ?_⟩
    split
    · rename_i hp
      rw [hp, hinfo, Option.bind_some, strip, if_pos hempty]
      exact Std.ExtTreeMap.getElem?_erase_self
    · rename_i hp
      exact (getElem?_erase_of_ne hp).trans (getElem?_insert_of_ne hp)
  · rename_i hempty
    refine ⟨_, _, _, rfl, fun _ _ => rfl, fun p => ?_⟩
    split
    · rename_i hp
      rw [hp, hinfo, Option.bind_some, strip, if_neg hempty]
      exact Std.ExtTreeMap.getElem?_insert_self
    · rename_i hp
      exact getElem?_insert_of_ne hp

/-- Leaving pages takes the breakpoint off each of them, and off no other. -/
theorem leavePages_outcome (env : Env) (id : ULONG64) (list : List ULONG_PTR) (s : Session) :
    ∃ pages protection e, (leavePages env id list s).1 =
        { s with bps.gMemoryBreakpointPages := pages, target.protection := protection, lastError := e } ∧
      (∀ p, p ∉ list → protection p = s.target.protection p) ∧
      ∀ p, pages[p]? = if p ∈ list then s.bps.gMemoryBreakpointPages[p]?.bind (strip id)
        else s.bps.gMemoryBreakpointPages[p]? := by
  induction list generalizing s with
  | nil => exact ⟨_, _, _, rfl, fun _ _ => rfl, fun _ => rfl⟩
  | cons page list ih =>
    obtain ⟨pages₁, protection₁, e₁, heq₁, hother₁, hpages₁⟩ := leavePage_outcome env id page s
    obtain ⟨pages, protection, e, heq, hother, hpages⟩ := ih (s.leavePage env id page).1
    rw [heq₁] at hother hpages
    refine ⟨pages, protection, e, ?_, fun p hp => ?_, fun p => ?_⟩
    · simp only [leavePages]
      rw [heq, heq₁]
    · rw [List.mem_cons, not_or] at hp
      exact (hother p hp.2).trans (hother₁ p hp.1)
    · rw [hpages]
      dsimp only
      rw [hpages₁]
      by_cases hp : p = page
      · subst hp
        by_cases hmem : p ∈ list
        · simp only [hmem, if_true, List.mem_cons, true_or]
          cases s.bps.gMemoryBreakpointPages[p]? with
          | none => rfl
          | some info => exact strip_bind_strip id info
        · simp [hmem]
      · simp [hp]

/-- A page with the breakpoint `id` added; it remembers the protection it had when the first
breakpoint came. -/
def joined (id : ULONG64) (protection : DWORD) : Option MemoryBreakpointPage → MemoryBreakpointPage
  | some info => { info with breakpointIds := info.breakpointIds.insert id }
  | none => ⟨protection, {id}⟩

theorem joinPage_outcome (env : Env) (id : ULONG64) (page : ULONG_PTR) (s : Session) :
    ∃ pages protection e ok touched, s.joinPage env id page =
        ({ s with bps.gMemoryBreakpointPages := pages, target.protection := protection, lastError := e },
          ok, touched) ∧
      (∀ p, p ≠ page → protection p = s.target.protection p) ∧ (ok = true → touched = true) ∧
      ∀ p, pages[p]? = if p = page ∧ touched = true then
          some (joined id (s.target.protection p) s.bps.gMemoryBreakpointPages[p]?)
        else s.bps.gMemoryBreakpointPages[p]? := by
  unfold joinPage
  split
  · rename_i info hinfo
    refine ⟨_, _, _, true, true, rfl, fun _ _ => rfl, fun _ => rfl, fun p => ?_⟩
    by_cases hp : p = page
    · subst hp
      rw [if_pos ⟨rfl, rfl⟩, hinfo]
      exact Std.ExtTreeMap.getElem?_insert_self
    · rw [if_neg fun h => hp h.1]
      exact getElem?_insert_of_ne hp
  rename_i hnone
  split
  · refine ⟨_, _, _, false, false, rfl, fun _ _ => rfl, fun h => h, fun p => ?_⟩
    rw [if_neg fun h => by cases h.2]
  · obtain ⟨protection, e, heq, hother⟩ := protectMemoryBreakpointPage_outcome env page true
      { s with bps.gMemoryBreakpointPages := s.bps.gMemoryBreakpointPages.insert page
                 ⟨s.target.protection page, {id}⟩ }
    dsimp only
    rw [heq]
    refine ⟨_, protection, e, _, true, rfl, hother, fun _ => rfl, fun p => ?_⟩
    by_cases hp : p = page
    · subst hp
      rw [if_pos ⟨rfl, rfl⟩, hnone]
      exact Std.ExtTreeMap.getElem?_insert_self
    · rw [if_neg fun h => hp h.1]
      exact getElem?_insert_of_ne hp

/-- Joining pages adds the breakpoint to the touched ones, which are all of them unless the
call fails. -/
theorem joinPages_outcome (env : Env) (id : ULONG64) (list : List ULONG_PTR) (hnodup : list.Nodup)
    (s : Session) : ∃ pages protection e touched ok, joinPages env id list s =
        ({ s with bps.gMemoryBreakpointPages := pages, target.protection := protection, lastError := e },
          touched, ok) ∧
      (∀ p, p ∉ list → protection p = s.target.protection p) ∧ (∀ p ∈ touched, p ∈ list) ∧
      (ok = true → touched = list) ∧
      ∀ p, pages[p]? = if p ∈ touched then
          some (joined id (s.target.protection p) s.bps.gMemoryBreakpointPages[p]?)
        else s.bps.gMemoryBreakpointPages[p]? := by
  induction list generalizing s with
  | nil => exact ⟨_, _, _, [], true, rfl, fun _ _ => rfl, fun _ h => h, fun _ => rfl, fun _ => rfl⟩
  | cons page list ih =>
    rw [List.nodup_cons] at hnodup
    obtain ⟨pages₁, protection₁, e₁, ok₁, touched₁, heq₁, hother₁, htouched₁, hpages₁⟩ :=
      joinPage_outcome env id page s
    simp only [joinPages]
    rw [heq₁]
    cases ok₁ with
    | true =>
      obtain ⟨pages, protection, e, touched, ok, heq, hother, hsub, hall, hpages⟩ := ih hnodup.2
        { s with bps.gMemoryBreakpointPages := pages₁, target.protection := protection₁, lastError := e₁ }
      rw [htouched₁ rfl] at hpages₁
      dsimp only
      rw [heq]
      refine ⟨pages, protection, e, page :: touched, ok, rfl, fun p hp => ?_, fun p hp => ?_,
        fun hok => ?_, fun p => ?_⟩
      · rw [List.mem_cons, not_or] at hp
        exact (hother p hp.2).trans (hother₁ p hp.1)
      · rcases List.mem_cons.mp hp with rfl | hp
        · exact List.mem_cons_self
        · exact List.mem_cons_of_mem _ (hsub p hp)
      · rw [hall hok]
      · rw [hpages]
        dsimp only
        by_cases hp : p = page
        · subst hp
          rw [if_neg fun h => hnodup.1 (hsub p h), hpages₁, if_pos ⟨rfl, rfl⟩, if_pos List.mem_cons_self]
        · have hother' := hother₁ p hp
          have hpages' := hpages₁ p
          rw [if_neg (fun h => hp h.1)] at hpages'
          rw [hpages', hother']
          simp only [List.mem_cons, hp, false_or]
    | false =>
      refine ⟨pages₁, protection₁, e₁, if touched₁ then [page] else [], false, rfl, fun p hp => ?_,
        fun p hp => ?_, fun hok => ?_, fun p => ?_⟩
      · exact hother₁ p fun h => hp (h ▸ List.mem_cons_self)
      · cases touched₁ with
        | true =>
          rw [if_pos rfl, List.mem_singleton] at hp
          exact hp ▸ List.mem_cons_self
        | false => cases hp
      · cases hok
      · rw [hpages₁]
        cases touched₁ <;> simp

end Session

end TitanEngine

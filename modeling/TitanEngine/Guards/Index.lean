import TitanEngine.Guards.Pages
import TitanEngine.Guards.Traversal

/-! The table of pages lists each memory breakpoint at the pages of its range, and nothing
else. -/
namespace TitanEngine
open MapSums

abbrev PageTable := Map ULONG_PTR MemoryBreakpointPage

/-- The breakpoint `id` is listed at the page. -/
def Carries (pages : PageTable) (id : ULONG64) (page : ULONG_PTR) : Prop :=
  ∃ info, pages[page]? = some info ∧ id ∈ info.breakpointIds

/-- Every page of the table has a breakpoint. -/
def Filled (pages : PageTable) : Prop :=
  ∀ (page : ULONG_PTR) (info : MemoryBreakpointPage), pages[page]? = some info → ∃ id, id ∈ info.breakpointIds

section Tables
open Session
variable {pages pages' : PageTable} {id : ULONG64} {list : List ULONG_PTR}

theorem mem_strip {info info' : MemoryBreakpointPage} (h : strip id info = some info') (id' : ULONG64) :
    id' ∈ info'.breakpointIds ↔ id' ≠ id ∧ id' ∈ info.breakpointIds := by
  unfold strip at h
  split at h
  · cases h
  · cases h
    rw [Std.ExtTreeSet.mem_erase, ne_eq, Std.LawfulEqCmp.compare_eq_iff_eq, ne_eq, eq_comm]

theorem strip_eq_none {info : MemoryBreakpointPage} :
    strip id info = none ↔ ∀ id', id' ∈ info.breakpointIds → id' = id := by
  unfold strip
  constructor
  · intro h id' hmem
    split at h
    · rename_i hempty
      by_contra hne
      have hmem' : id' ∈ info.breakpointIds.erase id := by
        rw [Std.ExtTreeSet.mem_erase, ne_eq, Std.LawfulEqCmp.compare_eq_iff_eq]
        exact ⟨fun he => hne he.symm, hmem⟩
      rw [Std.ExtTreeSet.isEmpty_iff] at hempty
      rw [hempty] at hmem'
      exact Std.ExtTreeSet.not_mem_empty hmem'
    · cases h
  · intro h
    rw [if_pos]
    rw [Std.ExtTreeSet.isEmpty_iff, Std.ExtTreeSet.eq_empty_iff_forall_not_mem]
    intro id' hmem
    rw [Std.ExtTreeSet.mem_erase, ne_eq, Std.LawfulEqCmp.compare_eq_iff_eq] at hmem
    exact hmem.1 (h id' hmem.2).symm

theorem carries_stripped
    (h : ∀ p, pages'[p]? = if p ∈ list then pages[p]?.bind (strip id) else pages[p]?)
    (id' : ULONG64) (p : ULONG_PTR) :
    Carries pages' id' p ↔ Carries pages id' p ∧ ¬ (id' = id ∧ p ∈ list) := by
  unfold Carries
  rw [h p]
  by_cases hp : p ∈ list
  · simp only [hp, if_true, and_true]
    constructor
    · rintro ⟨info', hinfo', hmem⟩
      obtain ⟨info, hinfo, hstrip⟩ := Option.bind_eq_some_iff.mp hinfo'
      obtain ⟨hne, hmem⟩ := (mem_strip hstrip id').mp hmem
      exact ⟨⟨info, hinfo, hmem⟩, hne⟩
    · rintro ⟨⟨info, hinfo, hmem⟩, hne⟩
      cases hstrip : strip id info with
      | none => exact absurd (strip_eq_none.mp hstrip id' hmem) hne
      | some info' =>
        refine ⟨info', ?_, (mem_strip hstrip id').mpr ⟨hne, hmem⟩⟩
        rw [hinfo, Option.bind_some, hstrip]
  · simp [hp]

theorem filled_stripped (hfilled : Filled pages)
    (h : ∀ p, pages'[p]? = if p ∈ list then pages[p]?.bind (strip id) else pages[p]?) :
    Filled pages' := by
  intro p info' hinfo'
  rw [h p] at hinfo'
  split at hinfo'
  · obtain ⟨info, hinfo, hstrip⟩ := Option.bind_eq_some_iff.mp hinfo'
    by_contra hnone
    have hall : ∀ id', id' ∈ info.breakpointIds → id' = id := by
      intro id' hmem
      by_contra hne
      exact hnone ⟨id', (mem_strip hstrip id').mpr ⟨hne, hmem⟩⟩
    rw [strip_eq_none.mpr hall] at hstrip
    cases hstrip
  · exact hfilled p info' hinfo'

theorem mem_joined (protection : DWORD) (info? : Option MemoryBreakpointPage) (id' : ULONG64) :
    id' ∈ (joined id protection info?).breakpointIds ↔
      id' = id ∨ ∃ info, info? = some info ∧ id' ∈ info.breakpointIds := by
  cases info? with
  | none =>
    have hcompare : Ordering.eq = compare id id' ↔ id = id' := by
      rw [eq_comm, Std.LawfulEqCmp.compare_eq_iff_eq]
    simp [joined, hcompare, eq_comm]
  | some info =>
    simp only [joined, Std.ExtTreeSet.mem_insert, Std.LawfulEqCmp.compare_eq_iff_eq]
    simp [eq_comm]

theorem carries_joined {protection : ULONG_PTR → DWORD}
    (h : ∀ p, pages'[p]? = if p ∈ list then some (joined id (protection p) pages[p]?) else pages[p]?)
    (id' : ULONG64) (p : ULONG_PTR) :
    Carries pages' id' p ↔ Carries pages id' p ∨ (id' = id ∧ p ∈ list) := by
  unfold Carries
  rw [h p]
  by_cases hp : p ∈ list
  · simp only [hp, if_true, and_true, Option.some.injEq, exists_eq_left']
    rw [mem_joined]
    exact or_comm
  · simp [hp]

theorem filled_joined {protection : ULONG_PTR → DWORD} (hfilled : Filled pages)
    (h : ∀ p, pages'[p]? = if p ∈ list then some (joined id (protection p) pages[p]?) else pages[p]?) :
    Filled pages' := by
  intro p info' hinfo'
  rw [h p] at hinfo'
  split at hinfo'
  · cases hinfo'
    exact ⟨id, (mem_joined _ _ _).mpr (.inl rfl)⟩
  · exact hfilled p info' hinfo'

end Tables

namespace Session

/-- The breakpoint `id` is there and its range touches the page. -/
def Covers (id : ULONG64) (page : ULONG_PTR) (s : Session) : Prop :=
  ∃ info, s.bps.gMemoryBreakpoints[id]? = some info ∧ s.Touches info.start info.size page

/-- What the agreement of the tables is about. -/
def catalogue (s : Session) :=
  (s.gSessionKind, s.targetPageSize, s.bps.gMemoryBreakpoints, s.bps.gMemoryBreakpointPages)

theorem catalogue_of_tables {s s' : Session} (h : s'.tables = s.tables) : s'.catalogue = s.catalogue :=
  congrArg (fun t => (t.1.1, t.2.1, t.2.2.breakpoints, t.2.2.pages)) h

theorem catalogue_of_outline {s s' : Session} (h : s'.outline = s.outline) :
    s'.catalogue = s.catalogue := catalogue_of_tables (tables_of_guards (guards_of_outline h))

theorem catalogue_protectMemoryBreakpointPage (env : Env) (page : ULONG_PTR) (guarded : Bool)
    (s : Session) : (s.protectMemoryBreakpointPage env page guarded).1.catalogue = s.catalogue := by
  obtain ⟨protection, e, h, -⟩ := protectMemoryBreakpointPage_outcome env page guarded s
  rw [h]
  rfl

theorem catalogue_exposePages (env : Env) (list : List ULONG_PTR) (s : Session) :
    (exposePages env list s).1.catalogue = s.catalogue := by
  induction list generalizing s with
  | nil => rfl
  | cons page list ih =>
    simp only [exposePages]
    split
    · exact (ih _).trans (catalogue_protectMemoryBreakpointPage ..)
    · exact ih s

theorem catalogue_guardPages (env : Env) (list : List ULONG_PTR) (s : Session) :
    (guardPages env list s).catalogue = s.catalogue := by
  induction list generalizing s with
  | nil => rfl
  | cons page list ih => exact (ih _).trans (catalogue_protectMemoryBreakpointPage ..)

theorem catalogue_memoryReadUnsafe (env : Env) (process : HANDLE) (address : ULONG_PTR) (n : ℕ)
    (s : Session) : (s.memoryReadUnsafe env process address n).1.catalogue = s.catalogue := by
  unfold memoryReadUnsafe
  dsimp only
  repeat' split
  all_goals first | rfl | exact (catalogue_guardPages ..).trans (catalogue_exposePages ..)

theorem catalogue_memoryReadSafe (env : Env) (process : HANDLE) (address : ULONG_PTR) (n : ℕ)
    (s : Session) : (s.memoryReadSafe env process address n).1.catalogue = s.catalogue := by
  have hread := catalogue_memoryReadUnsafe env process address n s
  unfold memoryReadSafe
  split <;> rename_i heq <;> rw [heq] at hread
  · exact hread
  · split <;> exact hread

/-- The tables of a live session agree. -/
structure Indexed (s : Session) : Prop where
  live : s.gSessionKind = .live
  size : ∃ k < 64, s.targetPageSize = BitVec.twoPow 64 k
  ranges : ∀ {id : ULONG64} {info : MemoryBreakpointInfo}, s.bps.gMemoryBreakpoints[id]? = some info →
    info.start < info.start + info.size
  index : ∀ id page, Carries s.bps.gMemoryBreakpointPages id page ↔ s.Covers id page
  filled : Filled s.bps.gMemoryBreakpointPages
  unique : ∀ {id id' : ULONG64} {info info' : MemoryBreakpointInfo},
    s.bps.gMemoryBreakpoints[id]? = some info → s.bps.gMemoryBreakpoints[id']? = some info' →
      info.start = info'.start → info.size = info'.size → id = id'

/-- What removing a breakpoint of a live session does. -/
theorem removeMemoryBreakpointById_outcome (env : Env) (id : ULONG64) {s : Session}
    (hlive : s.gSessionKind = .live) {info : MemoryBreakpointInfo}
    (hinfo : s.bps.gMemoryBreakpoints[id]? = some info) :
    ∃ pages protection e, (s.removeMemoryBreakpointById env id).1 =
        { s with bps.gMemoryBreakpoints := s.bps.gMemoryBreakpoints.erase id
                 bps.gMemoryBreakpointPages := pages, target.protection := protection, lastError := e } ∧
      (∀ p, p ∉ s.pagesOf info.start info.size → protection p = s.target.protection p) ∧
      ∀ p, pages[p]? = if p ∈ s.pagesOf info.start info.size then
          s.bps.gMemoryBreakpointPages[p]?.bind (strip id)
        else s.bps.gMemoryBreakpointPages[p]? := by
  obtain ⟨pages, protection, e, heq, hother, hpages⟩ :=
    leavePages_outcome env id (s.pagesOf info.start info.size) s
  refine ⟨pages, protection, e, ?_, hother, hpages⟩
  unfold removeMemoryBreakpointById
  rw [hinfo]
  dsimp only
  rw [if_neg (by rw [hlive]; decide), heq]

theorem removeMemoryBreakpointById_none (env : Env) {id : ULONG64} {s : Session}
    (hnone : s.bps.gMemoryBreakpoints[id]? = none) : (s.removeMemoryBreakpointById env id).1 = s := by
  unfold removeMemoryBreakpointById
  rw [hnone]

/-- What setting a breakpoint in a live session does: it is refused, or it joins the pages of
its range, all of them or those up to a failure. -/
theorem setMemoryBPXEx_outcome (env : Env) (start size : ULONG_PTR) (type : ℕ) (restoreOnHit : Bool)
    (callback : Option Callback) {s : Session} (hlive : s.gSessionKind = .live) :
    (∃ e, s.setMemoryBPXEx env start size type restoreOnHit callback = ({ s with lastError := e }, false)) ∨
    start < start + size ∧ s.activeProcessHandle env ≠ 0 ∧
    (∀ (id : ULONG64) (info : MemoryBreakpointInfo), s.bps.gMemoryBreakpoints[id]? = some info →
      info.start = start → info.size ≠ size) ∧
    ∃ info : MemoryBreakpointInfo, info.id = s.bps.gNextMemoryBreakpointId ∧ info.start = start ∧
      info.size = size ∧ ∃ s₁ s' touched ok,
      s₁ = { s with bps.gNextMemoryBreakpointId := s.bps.gNextMemoryBreakpointId + 1
                    bps.gMemoryBreakpoints := s.bps.gMemoryBreakpoints.insertIfNew info.id info } ∧
      joinPages env info.id (s₁.pagesOf start size) s₁ = (s', touched, ok) ∧
      s.setMemoryBPXEx env start size type restoreOnHit callback =
        (if ok then s' else
          { (leavePages env info.id touched s').1 with
            bps.gMemoryBreakpoints :=
              (leavePages env info.id touched s').1.bps.gMemoryBreakpoints.erase info.id }, ok) := by
  unfold setMemoryBPXEx
  split
  · exact .inl ⟨_, rfl⟩
  rename_i hargs
  split
  · exact .inl ⟨_, rfl⟩
  rename_i kind _
  split
  · exact .inl ⟨_, rfl⟩
  split
  · exact .inl ⟨_, rfl⟩
  rename_i hprocess
  split
  · exact .inl ⟨_, rfl⟩
  rename_i hknown
  right
  simp only [not_or, BitVec.not_le] at hargs
  unfold memoryBreakpointProcess at hprocess
  rw [if_neg (by rw [hlive]; decide)] at hprocess
  refine ⟨hargs.2.2.1, hprocess, ?_, ⟨s.bps.gNextMemoryBreakpointId, start, size, kind, restoreOnHit, callback⟩, rfl,
    rfl, rfl, ?_⟩
  · intro id info hinfo hstart hsize
    refine hknown (List.any_eq_true.mpr ⟨(id, info), ?_, ?_⟩)
    · exact Std.ExtTreeMap.mem_toList_iff_getElem?_eq_some.mpr hinfo
    · exact decide_eq_true ⟨hstart, hsize⟩
  · dsimp only
    rw [if_neg (by rw [hlive]; decide)]
    generalize hr : joinPages env _ _ _ = r
    obtain ⟨s', touched, ok⟩ := r
    refine ⟨_, s', touched, ok, rfl, hr, ?_⟩
    cases ok <;> rfl

namespace Indexed
variable {s s' : Session}

/-- Only what the pages list counts, not how the table of pages is made up. -/
theorem of_carries (hs : s.Indexed) (hkind : s'.gSessionKind = s.gSessionKind)
    (hsize : s'.targetPageSize = s.targetPageSize)
    (hmap : s'.bps.gMemoryBreakpoints = s.bps.gMemoryBreakpoints)
    (hcarries : ∀ id p, Carries s'.bps.gMemoryBreakpointPages id p ↔
      Carries s.bps.gMemoryBreakpointPages id p)
    (hfilled : Filled s'.bps.gMemoryBreakpointPages) : s'.Indexed := by
  have htouches : ∀ start size page, s'.Touches start size page ↔ s.Touches start size page := by
    intro start size page
    unfold Touches pageAddress
    rw [hsize]
  constructor
  · rw [hkind]
    exact hs.live
  · rw [hsize]
    exact hs.size
  · rw [hmap]
    exact hs.ranges
  · intro id page
    unfold Covers
    simp only [htouches]
    rw [hmap, hcarries]
    exact hs.index id page
  · exact hfilled
  · rw [hmap]
    exact hs.unique

theorem of_catalogue (hs : s.Indexed) (h : s'.catalogue = s.catalogue) : s'.Indexed := by
  have hpages : s'.bps.gMemoryBreakpointPages = s.bps.gMemoryBreakpointPages :=
    congrArg (fun t => t.2.2.2) h
  refine hs.of_carries (congrArg (fun t => t.1) h) (congrArg (fun t => t.2.1) h)
    (congrArg (fun t => t.2.2.1) h) ?_ ?_
  · intro id p
    rw [hpages]
  · rw [hpages]
    exact hs.filled

theorem removed (env : Env) (id : ULONG64) (hs : s.Indexed) :
    (s.removeMemoryBreakpointById env id).1.Indexed := by
  cases hinfo : s.bps.gMemoryBreakpoints[id]? with
  | none =>
    rw [removeMemoryBreakpointById_none env hinfo]
    exact hs
  | some info =>
    obtain ⟨pages, protection, e, heq, -, hpages⟩ :=
      removeMemoryBreakpointById_outcome env id hs.live hinfo
    obtain ⟨k, hk, hsize⟩ := hs.size
    rw [heq]
    constructor
    · exact hs.live
    · exact hs.size
    · intro id' info' hinfo'
      exact hs.ranges (getElem?_of_erase hinfo')
    · intro id' page
      rw [carries_stripped hpages, hs.index, mem_pagesOf hk hsize (hs.ranges hinfo)]
      unfold Covers
      dsimp only
      by_cases hid : id' = id
      · subst hid
        rw [hinfo, Std.ExtTreeMap.getElem?_erase_self]
        simp
      · rw [getElem?_erase_of_ne hid]
        simp only [hid, false_and, not_false_eq_true, and_true]
        rfl
    · exact filled_stripped hs.filled hpages
    · intro id₁ id₂ info₁ info₂ h₁ h₂
      exact hs.unique (getElem?_of_erase h₁) (getElem?_of_erase h₂)

/-- A breakpoint whose id is not taken joins the pages of its range. -/
theorem added (hs : s.Indexed) {info : MemoryBreakpointInfo} {pages : PageTable}
    {protection : ULONG_PTR → DWORD} {nextId : ULONG64} {e : DWORD}
    (hfresh : info.id ∉ s.bps.gMemoryBreakpoints) (hrange : info.start < info.start + info.size)
    (hnew : ∀ (id : ULONG64) (info' : MemoryBreakpointInfo), s.bps.gMemoryBreakpoints[id]? = some info' →
      info'.start = info.start → info'.size ≠ info.size)
    (hpages : ∀ p, pages[p]? = if p ∈ s.pagesOf info.start info.size then
        some (joined info.id (s.target.protection p) s.bps.gMemoryBreakpointPages[p]?)
      else s.bps.gMemoryBreakpointPages[p]?) :
    Indexed { s with bps.gNextMemoryBreakpointId := nextId
                     bps.gMemoryBreakpoints := s.bps.gMemoryBreakpoints.insertIfNew info.id info
                     bps.gMemoryBreakpointPages := pages
                     target.protection := protection, lastError := e } := by
  obtain ⟨k, hk, hsize⟩ := hs.size
  have hinsert : ∀ id, (s.bps.gMemoryBreakpoints.insertIfNew info.id info)[id]? =
      if id = info.id then some info else s.bps.gMemoryBreakpoints[id]? := by
    intro id
    rw [insertIfNew_of_notMem hfresh]
    by_cases hid : id = info.id
    · rw [if_pos hid, hid]
      exact Std.ExtTreeMap.getElem?_insert_self
    · rw [if_neg hid]
      exact getElem?_insert_of_ne hid
  constructor
  · exact hs.live
  · exact hs.size
  · intro id info' hinfo'
    dsimp only at hinfo'
    rw [hinsert] at hinfo'
    split at hinfo'
    · cases hinfo'
      exact hrange
    · exact hs.ranges hinfo'
  · intro id page
    rw [carries_joined hpages, hs.index, mem_pagesOf hk hsize hrange]
    unfold Covers
    dsimp only
    rw [hinsert]
    by_cases hid : id = info.id
    · subst hid
      rw [if_pos rfl, Std.ExtTreeMap.getElem?_eq_none hfresh]
      simp only [Option.some.injEq, exists_eq_left', true_and]
      simp
      rfl
    · rw [if_neg hid]
      simp only [hid, false_and, or_false]
      rfl
  · exact filled_joined hs.filled hpages
  · intro id₁ id₂ info₁ info₂ h₁ h₂ hstart hsize'
    dsimp only at h₁ h₂
    rw [hinsert] at h₁ h₂
    split at h₁ <;> split at h₂ <;> rename_i hid₁ hid₂
    · rw [hid₁, hid₂]
    · cases h₁
      exact absurd hsize'.symm (hnew _ _ h₂ hstart.symm)
    · cases h₂
      exact absurd hsize' (hnew _ _ h₁ hstart)
    · exact hs.unique h₁ h₂ hstart hsize'

theorem set (env : Env) (start size : ULONG_PTR) (type : ℕ) (restoreOnHit : Bool)
    (callback : Option Callback) (hs : s.Indexed)
    (hfresh : s.bps.gNextMemoryBreakpointId ∉ s.bps.gMemoryBreakpoints) :
    (s.setMemoryBPXEx env start size type restoreOnHit callback).1.Indexed := by
  obtain ⟨e, heq⟩ | ⟨hrange, -, hnew, info, hid, hstart, hsize, s₁, s', touched, ok, hs₁, hjoin, heq⟩ :=
    setMemoryBPXEx_outcome env start size type restoreOnHit callback hs.live
  · rw [heq]
    exact of_catalogue (s := s) hs rfl
  rw [heq]
  subst hstart hsize
  rw [← hid] at hfresh
  obtain ⟨k, hk, hpow⟩ := hs.size
  have hnodup : (s₁.pagesOf info.start info.size).Nodup := by
    rw [hs₁]
    exact nodup_pagesOf (s := s) hk hpow hrange
  obtain ⟨pages, protection, e, touched', ok', heq', -, hsub, hall, hpages⟩ :=
    joinPages_outcome env info.id _ hnodup s₁
  rw [heq'] at hjoin
  cases hjoin
  cases ok with
  | true =>
    rw [if_pos rfl]
    rw [hall rfl] at hpages
    rw [hs₁] at hpages ⊢
    exact hs.added hfresh hrange hnew hpages
  | false =>
    rw [if_neg (by decide)]
    obtain ⟨pages', protection', e', hleave, -, hpages'⟩ := leavePages_outcome env info.id touched
      { s₁ with bps.gMemoryBreakpointPages := pages, target.protection := protection, lastError := e }
    rw [hleave, hs₁]
    rw [hs₁] at hpages
    have hcarries := carries_joined hpages
    have hcarries' := carries_stripped hpages'
    refine hs.of_carries rfl rfl ?_ (fun id p => ?_) ?_
    · show (s.bps.gMemoryBreakpoints.insertIfNew info.id info).erase info.id = s.bps.gMemoryBreakpoints
      rw [insertIfNew_of_notMem hfresh, erase_insert_self hfresh]
    · have hnone : ¬ Carries s.bps.gMemoryBreakpointPages info.id p := by
        rw [hs.index]
        rintro ⟨info', hinfo', -⟩
        exact hfresh (mem_of_getElem? hinfo')
      refine (hcarries' id p).trans ?_
      rw [hcarries]
      constructor
      · rintro ⟨h | h, hnot⟩
        · exact h
        · exact absurd h hnot
      · intro h
        refine ⟨.inl h, fun hid => ?_⟩
        rw [hid.1] at h
        exact hnone h
    · exact filled_stripped (filled_joined hs.filled hpages) hpages'

theorem removedAll (env : Env) (rounds : ℕ) (hs : s.Indexed) :
    (removeMemoryBreakpoints env rounds s).1.Indexed := by
  induction rounds generalizing s with
  | zero => exact hs
  | succ rounds ih =>
    unfold removeMemoryBreakpoints
    split
    · exact hs
    · exact ih (hs.removed env _)

/-- Without breakpoints and pages there is nothing to disagree on. -/
theorem of_empty (hlive : s.gSessionKind = .live)
    (hsize : ∃ k < 64, s.targetPageSize = BitVec.twoPow 64 k) (hmap : s.bps.gMemoryBreakpoints = ∅)
    (hpages : s.bps.gMemoryBreakpointPages = ∅) : s.Indexed := by
  have hnone : ∀ {id : ULONG64} {info : MemoryBreakpointInfo},
      ¬ s.bps.gMemoryBreakpoints[id]? = some info := by
    intro id info hinfo
    rw [hmap] at hinfo
    exact Std.ExtTreeMap.not_mem_empty (mem_of_getElem? hinfo)
  have hfree : ∀ {page : ULONG_PTR} {info : MemoryBreakpointPage},
      ¬ s.bps.gMemoryBreakpointPages[page]? = some info := by
    intro page info hinfo
    rw [hpages] at hinfo
    exact Std.ExtTreeMap.not_mem_empty (mem_of_getElem? hinfo)
  constructor
  · exact hlive
  · exact hsize
  · intro id info hinfo
    exact absurd hinfo hnone
  · intro id page
    constructor
    · rintro ⟨info, hinfo, -⟩
      exact absurd hinfo hfree
    · rintro ⟨info, hinfo, -⟩
      exact absurd hinfo hnone
  · intro page info hinfo
    exact absurd hinfo hfree
  · intro id id' info info' hinfo
    exact absurd hinfo hnone

theorem removedAllBreakPoints (env : Env) (hs : s.Indexed) : (s.removeAllBreakPoints env).1.Indexed := by
  have hall : (s.removeAllMemoryBreakpoints env).1.Indexed := hs.removedAll env _
  unfold removeAllBreakPoints
  split
  · split
    · exact of_empty hs.live hs.size rfl rfl
    · exact hs
  split <;> rename_i s₁ heq <;> rw [heq] at hall
  · exact hall
  · have heach := hall.of_catalogue
      (catalogue_of_outline (outline_removeEach env s₁.bps.gBreakpoints.toList s₁))
    split <;> rename_i heq' <;> rw [heq'] at heach
    · exact heach
    · exact of_catalogue heach rfl

theorem run (env : Env) {call : ApiCall} (hs : s.Indexed)
    (hfresh : ∀ start size type restoreOnHit callback,
      call = .setMemoryBPXEx start size type restoreOnHit callback →
        s.bps.gNextMemoryBreakpointId ∉ s.bps.gMemoryBreakpoints)
    (hwatches : call.watches = true) : (call.run env s).1.Indexed := by
  cases call with
  | setMemoryBPXEx start size type restoreOnHit callback =>
    exact hs.set env start size type restoreOnHit callback (hfresh _ _ _ _ _ rfl)
  | removeMemoryBPX start size =>
    show (s.removeMemoryBPX env start size).1.Indexed
    unfold removeMemoryBPX
    split
    · exact of_catalogue (s := s) hs rfl
    split
    · exact of_catalogue (s := s) hs rfl
    split
    · exact hs.removed env _
    · exact of_catalogue (s := s) hs rfl
  | removeAllBreakPoints => exact hs.removedAllBreakPoints env
  | memoryReadUnsafe process address n =>
    exact hs.of_catalogue (catalogue_memoryReadUnsafe env process address n s)
  | memoryReadSafe process address n =>
    exact hs.of_catalogue (catalogue_memoryReadSafe env process address n s)
  | memoryProtectSafe address size protection =>
    show (s.memoryProtectSafe env address size protection).1.Indexed
    unfold memoryProtectSafe
    repeat' split
    all_goals exact of_catalogue (s := s) hs rfl
  | _ => cases hwatches

end Indexed

end Session

/-- Memory breakpoints take ids that no breakpoint has. -/
def freshIdRules : Rules where
  call _ call s := ∀ start size type restoreOnHit callback,
    call = .setMemoryBPXEx start size type restoreOnHit callback →
      s.bps.gNextMemoryBreakpointId ∉ s.bps.gMemoryBreakpoints
  work _ _ _ := True
  target _ _ := True

theorem closed_indexed : TableClosed freshIdRules fun s s' => s.Indexed → s'.Indexed where
  trans hab hbc h := hbc (hab h)
  same h hs := hs.of_catalogue (Session.catalogue_of_tables h)
  call allowed hwatches hs := hs.run _ allowed hwatches
  lose id _ _ _ hs := hs.removed _ id
  protect page guarded _ _ _ hs :=
    hs.of_catalogue (Session.catalogue_protectMemoryBreakpointPage _ page guarded _)
  target _ hs := Session.Indexed.of_catalogue hs rfl

theorem freshIdRules_queueBlind : freshIdRules.QueueBlind := fun _ _ _ _ _ => trivial

/-- The table of pages is exact in every run in which no memory breakpoint takes an id that
another one has: it lists each breakpoint at the pages that its range touches, which are the
pages that the loops visit. -/
theorem page_index_exact {s s' : Session} (hlive : s.gSessionKind = .live)
    (hsize : ∃ k < 64, s.targetPageSize = BitVec.twoPow 64 k) (hmap : s.bps.gMemoryBreakpoints = ∅)
    (hpages : s.bps.gMemoryBreakpointPages = ∅) (hrun : Run freshIdRules s s') :
    (∀ id page, Carries s'.bps.gMemoryBreakpointPages id page ↔ s'.Covers id page) ∧
    (∀ (page : ULONG_PTR) (info : MemoryBreakpointPage), s'.bps.gMemoryBreakpointPages[page]? = some info →
      ∃ id, id ∈ info.breakpointIds) ∧
    (∀ (id id' : ULONG64) (info info' : MemoryBreakpointInfo), s'.bps.gMemoryBreakpoints[id]? = some info →
      s'.bps.gMemoryBreakpoints[id']? = some info' → info.start = info'.start → info.size = info'.size →
        id = id') ∧
    ∀ start size, start < start + size → (s'.pagesOf start size).Nodup ∧
      (∀ page, page ∈ s'.pagesOf start size ↔ s'.Touches start size page) ∧
      ∃ steps, ∀ fuel, steps < fuel →
        Session.pagesFrom s'.targetPageSize (s'.pageAddress (start + size - 1)) fuel
          (s'.pageAddress start) = s'.pagesOf start size := by
  have hs' : s'.Indexed := closed_indexed.run freshIdRules_queueBlind hrun
    (Session.Indexed.of_empty hlive hsize hmap hpages)
  obtain ⟨k, hk, hpow⟩ := hs'.size
  refine ⟨hs'.index, hs'.filled, fun _ _ _ _ => hs'.unique, fun start size hrange => ?_⟩
  have hnodup := Session.nodup_pagesOf hk hpow hrange
  have hmem : ∀ page, page ∈ s'.pagesOf start size ↔ s'.Touches start size page :=
    fun _ => Session.mem_pagesOf hk hpow hrange
  exact ⟨hnodup, hmem, _, fun fuel hfuel => Session.pagesFrom_eq_pagesOf hk hpow hrange hfuel⟩

/-- One byte of a page is watched, and no id but the first has been used. -/
def firstIdSession : Session :=
  (ApiCall.run {} (.setMemoryBPXEx 0x10000 1 3 true (some 1)) twoThreadSession).1

theorem page_index_exact_first : Carries firstIdSession.bps.gMemoryBreakpointPages 1 0x10000 ↔
    firstIdSession.Covers 1 0x10000 := by
  have hset : CallStep freshIdRules twoThreadSession firstIdSession := by
    refine .call fun _ _ _ _ _ _ => ?_
    exact Std.ExtTreeMap.not_mem_empty
  have hrun : Run freshIdRules twoThreadSession firstIdSession := .single (.call hset)
  exact (page_index_exact rfl ⟨12, by decide, by decide⟩ rfl rfl hrun).1 1 0x10000

/-- A call of `SetMemoryBPXEx` that cannot query its page: all it does is use up an id. -/
theorem Session.setMemoryBPXEx_unqueried {s : Session} (hlive : s.gSessionKind = .live)
    (hpaused : s.pauseLock = true) (hprocess : s.activeProcessHandle { virtualQueryEx := fun _ => false } ≠ 0)
    (hsize : s.targetPageSize = 0x1000)
    (hknown : ∀ entry ∈ s.bps.gMemoryBreakpoints.toList, entry.2.start ≠ 0x20000)
    (hpage : s.bps.gMemoryBreakpointPages[(0x20000 : ULONG_PTR)]? = none) :
    ∃ info e, s.setMemoryBPXEx { virtualQueryEx := fun _ => false } 0x20000 1 3 true (some 1) =
      ({ s with lastError := e
                bps.gNextMemoryBreakpointId := s.bps.gNextMemoryBreakpointId + 1
                bps.gMemoryBreakpoints := (s.bps.gMemoryBreakpoints.insertIfNew
                  s.bps.gNextMemoryBreakpointId info).erase s.bps.gNextMemoryBreakpointId }, false) := by
  have hany : (s.bps.gMemoryBreakpoints.toList.any fun entry =>
      entry.2.start = 0x20000 ∧ entry.2.size = 1) = false := by
    rw [List.any_eq_false]
    intro entry hentry hmatch
    exact hknown entry hentry (of_decide_eq_true hmatch).1
  have hpages : ∀ bps, ({ s with bps := bps } : Session).pagesOf 0x20000 1 = [0x20000] := by
    intro bps
    unfold pagesOf pageAddress
    dsimp only
    rw [hsize]
    decide
  have hlive' : ¬ s.gSessionKind = .ttd := by
    rw [hlive]
    decide
  unfold setMemoryBPXEx memoryBreakpointProcess
  rw [if_neg (by decide)]
  simp only [TitanMemoryBreakpointType.ofValue, hpaused, hany, if_neg hlive', hpages, joinPages, joinPage, hpage]
  rw [if_neg (by decide), if_neg hprocess]
  exact ⟨_, _, rfl⟩

/-- A session like the first one, after `n` such calls. -/
structure Session.Worn (n : ℕ) (s : Session) : Prop where
  mode : s.mode = firstIdSession.mode
  paused : s.gPaused = true
  idMap : s.gDebugIdMap = firstIdSession.gDebugIdMap
  size : s.targetPageSize = 0x1000
  breakpoints : s.bps.gMemoryBreakpoints = firstIdSession.bps.gMemoryBreakpoints
  pages : s.bps.gMemoryBreakpointPages = firstIdSession.bps.gMemoryBreakpointPages
  nextId : s.bps.gNextMemoryBreakpointId = BitVec.ofNat 64 (n + 2)

theorem firstIdSession_breakpoints : firstIdSession.bps.gMemoryBreakpoints.toList =
    [(1, ⟨1, 0x10000, 1, .memory, true, some 1⟩)] := by
  decide

/-- The session after one more such call. -/
def Session.wear (s : Session) : Session :=
  (ApiCall.run { virtualQueryEx := fun _ => false } (.setMemoryBPXEx 0x20000 1 3 true (some 1)) s).1

namespace Session.Worn
variable {n : ℕ} {s : Session}

theorem unqueried (h : s.Worn n) : ∃ info e,
    s.setMemoryBPXEx { virtualQueryEx := fun _ => false } 0x20000 1 3 true (some 1) =
      ({ s with lastError := e
                bps.gNextMemoryBreakpointId := s.bps.gNextMemoryBreakpointId + 1
                bps.gMemoryBreakpoints := (s.bps.gMemoryBreakpoints.insertIfNew
                  s.bps.gNextMemoryBreakpointId info).erase s.bps.gNextMemoryBreakpointId }, false) := by
  have hkind : s.gSessionKind = .live := congrArg Prod.fst h.mode
  have hdebugging : s.gIsDebugging = true := congrArg (fun m => m.2.1) h.mode
  refine setMemoryBPXEx_unqueried hkind ?_ ?_ h.size ?_ ?_
  · unfold pauseLock
    rw [h.paused, hdebugging]
    rfl
  · unfold activeProcessHandle
    rw [h.idMap]
    decide
  · intro entry hentry
    rw [h.breakpoints, firstIdSession_breakpoints, List.mem_singleton] at hentry
    rw [hentry]
    decide
  · rw [h.pages]
    exact Option.isNone_iff_eq_none.mp (by decide)

theorem wear_eq (h : s.Worn n) : ∃ info e, s.wear =
    { s with lastError := e
             bps.gNextMemoryBreakpointId := s.bps.gNextMemoryBreakpointId + 1
             bps.gMemoryBreakpoints := (s.bps.gMemoryBreakpoints.insertIfNew
               s.bps.gNextMemoryBreakpointId info).erase s.bps.gNextMemoryBreakpointId } := by
  obtain ⟨info, e, heq⟩ := h.unqueried
  exact ⟨info, e, congrArg Prod.fst heq⟩

theorem mem_iff (h : s.Worn n) (id : ULONG64) : id ∈ s.bps.gMemoryBreakpoints ↔ id = 1 := by
  rw [h.breakpoints]
  constructor
  · intro hmem
    have hlist := Std.ExtTreeMap.mem_toList_iff_getElem?_eq_some.mpr
      (Std.ExtTreeMap.getElem?_eq_some_getElem hmem)
    rw [firstIdSession_breakpoints, List.mem_singleton] at hlist
    exact congrArg Prod.fst hlist
  · rintro rfl
    decide

/-- Until the ids come round, a call leaves the tables as they are. -/
theorem next (h : s.Worn n) (hn : n + 1 < 2 ^ 64) : s.wear.Worn (n + 1) := by
  obtain ⟨info, e, heq⟩ := h.wear_eq
  have hfresh : s.bps.gNextMemoryBreakpointId ∉ s.bps.gMemoryBreakpoints := by
    rw [h.mem_iff, h.nextId]
    intro hone
    have hone' := congrArg BitVec.toNat hone
    rw [BitVec.toNat_ofNat] at hone'
    change (n + 2) % 2 ^ 64 = 1 at hone'
    omega
  rw [heq]
  constructor
  · exact h.mode
  · exact h.paused
  · exact h.idMap
  · exact h.size
  · refine Eq.trans ?_ h.breakpoints
    dsimp only
    rw [insertIfNew_of_notMem hfresh, erase_insert_self hfresh]
  · exact h.pages
  · show s.bps.gNextMemoryBreakpointId + 1 = BitVec.ofNat 64 (n + 1 + 2)
    rw [h.nextId]
    apply BitVec.eq_of_toNat_eq
    rw [BitVec.toNat_add, BitVec.toNat_ofNat, BitVec.toNat_ofNat]
    change ((n + 2) % 2 ^ 64 + 1) % 2 ^ 64 = (n + 1 + 2) % 2 ^ 64
    omega

end Session.Worn

theorem run_wear (s : Session) : Run anyRules s s.wear := by
  refine .single (.call ?_)
  exact .call trivial

theorem worn_reachable (n : ℕ) (hn : n < 2 ^ 64) : ∃ s, Run anyRules firstIdSession s ∧ s.Worn n := by
  induction n with
  | zero =>
    refine ⟨firstIdSession, .refl, ?_⟩
    constructor <;> rfl
  | succ n ih =>
    obtain ⟨s, hrun, hs⟩ := ih (by omega)
    exact ⟨s.wear, hrun.trans (run_wear s), hs.next hn⟩

/-- The ids come round: a call that fails takes away the first breakpoint, and its page
still lists it. -/
theorem page_index_not_exact : ∃ s : Session, Run anyRules twoThreadSession s ∧
    Carries s.bps.gMemoryBreakpointPages 1 0x10000 ∧ ¬ s.Covers 1 0x10000 := by
  have hset : Run anyRules twoThreadSession firstIdSession := by
    refine .single (.call ?_)
    exact .call trivial
  obtain ⟨s, hrun, hs⟩ := worn_reachable (2 ^ 64 - 1) (by omega)
  obtain ⟨info, e, heq⟩ := hs.wear_eq
  have hone : s.bps.gNextMemoryBreakpointId = 1 := by
    rw [hs.nextId]
    decide
  refine ⟨s.wear, hset.trans (hrun.trans (run_wear s)), ?_, ?_⟩
  · have hpages : s.wear.bps.gMemoryBreakpointPages = firstIdSession.bps.gMemoryBreakpointPages := by
      rw [heq]
      exact hs.pages
    rw [hpages]
    have hlisted : firstIdSession.bps.gMemoryBreakpointPages[(0x10000 : ULONG_PTR)]?.any
        (fun page => page.breakpointIds.contains 1) = true := by
      decide
    obtain ⟨page, hpage, hmem⟩ := (Option.any_eq_true _ _).mp hlisted
    exact ⟨page, hpage, Std.ExtTreeSet.mem_iff_contains.mpr hmem⟩
  · rintro ⟨info', hinfo', -⟩
    rw [heq, hone] at hinfo'
    dsimp only at hinfo'
    rw [Std.ExtTreeMap.getElem?_erase_self] at hinfo'
    cases hinfo'

end TitanEngine

import TitanEngine.Guards.Faults
import TitanEngine.Guards.Index
import TitanEngine.Suspension.Deadlock

/-! Whether a watched page can be left without its guard while the target runs. -/
namespace TitanEngine
open MapSums Relation

namespace Session

/-- The internal step of a thread that is alive is to put the guard of the page back. -/
def Rearms (threadIndex : ULONG) (page : ULONG_PTR) (s : Session) : Prop :=
  ∃ actions, s.steps.gInternalStepCallbacks[threadIndex]? = some actions ∧
    StepAction.rearmPage page ∈ actions ∧ ∃ n, s.threadAt threadIndex = some n

/-- The page has its guard, or it is to get it back. -/
def Kept (page : ULONG_PTR) (s : Session) : Prop :=
  s.target.protection page &&& PAGE_GUARD ≠ 0 ∨ ∃ threadIndex, s.Rearms threadIndex page

/-- Every watched page outside `due` is kept. -/
structure Guarded (due : Set ULONG_PTR) (s : Session) : Prop where
  live : s.gSessionKind = .live
  kept : ∀ page ∈ s.bps.gMemoryBreakpointPages, page ∉ due → s.Kept page

/-- Nothing comes to be watched, and what stays watched keeps its protection. -/
def Leaves (s s' : Session) : Prop :=
  ∀ page ∈ s'.bps.gMemoryBreakpointPages,
    page ∈ s.bps.gMemoryBreakpointPages ∧ s'.target.protection page = s.target.protection page

variable {s s' s'' : Session} {due due' : Set ULONG_PTR}

theorem threadAt_of_roll (h : s'.roll = s.roll) (threadIndex : ULONG) :
    s'.threadAt threadIndex = s.threadAt threadIndex := by
  have hresolve := resolve_of_roll h
  have hidMap : s'.gDebugIdMap = s.gDebugIdMap := congrArg Prod.fst h
  unfold threadAt
  rw [hidMap]
  congr 1
  funext handle
  exact hresolve handle

theorem rearms_of_roll (h : s'.roll = s.roll) (threadIndex : ULONG) (page : ULONG_PTR) :
    s'.Rearms threadIndex page ↔ s.Rearms threadIndex page := by
  have hinternal : s'.steps.gInternalStepCallbacks = s.steps.gInternalStepCallbacks :=
    congrArg (fun r => r.2.1) h
  unfold Rearms
  rw [hinternal, threadAt_of_roll h]

theorem Leaves.refl (s : Session) : s.Leaves s := fun _ hmem => ⟨hmem, rfl⟩

theorem Leaves.trans (h : s.Leaves s') (h' : s'.Leaves s'') : s.Leaves s'' := by
  intro page hmem
  obtain ⟨hmem', heq'⟩ := h' page hmem
  obtain ⟨hmem'', heq⟩ := h page hmem'
  exact ⟨hmem'', heq'.trans heq⟩

theorem leaves_of_guards (h : s'.guards = s.guards) : s.Leaves s' := by
  have hwatch : s'.watch = s.watch := congrArg Prod.snd h
  have hpages : s'.bps.gMemoryBreakpointPages = s.bps.gMemoryBreakpointPages :=
    congrArg Watch.pages hwatch
  have hprotection : s'.target.protection = s.target.protection := congrArg Watch.protection hwatch
  intro page hmem
  rw [hpages] at hmem
  rw [hprotection]
  exact ⟨hmem, rfl⟩

namespace Guarded

theorem mono (h : s.Guarded due) (hdue : due ⊆ due') : s.Guarded due' :=
  ⟨h.live, fun page hmem hnot => h.kept page hmem fun hin => hnot (hdue hin)⟩

/-- It is enough that pending re-arms stay pending. -/
theorem of_leaves (h : s.Guarded due) (hkind : s'.gSessionKind = s.gSessionKind) (hleaves : s.Leaves s')
    (hrearms : ∀ threadIndex page, s.Rearms threadIndex page → s'.Rearms threadIndex page) :
    s'.Guarded due := by
  refine ⟨hkind.trans h.live, fun page hmem hnot => ?_⟩
  obtain ⟨hmem', heq⟩ := hleaves page hmem
  obtain hguard | ⟨threadIndex, hrearm⟩ := h.kept page hmem' hnot
  · left
    rw [heq]
    exact hguard
  · exact .inr ⟨threadIndex, hrearms _ _ hrearm⟩

theorem of_roll (h : s.Guarded due) (hkind : s'.gSessionKind = s.gSessionKind) (hleaves : s.Leaves s')
    (hroll : s'.roll = s.roll) : s'.Guarded due :=
  h.of_leaves hkind hleaves fun threadIndex page hrearm => (rearms_of_roll hroll threadIndex page).mpr hrearm

theorem of_guards (h : s.Guarded due) (hguards : s'.guards = s.guards) : s'.Guarded due := by
  have hsetting : s'.setting = s.setting := congrArg Prod.fst hguards
  exact h.of_roll (congrArg (fun x => x.1.1) hsetting) (leaves_of_guards hguards)
    (congrArg (fun x => x.2.2.2) hsetting)

theorem of_tables (h : s.Guarded due) (htables : s'.tables = s.tables)
    (hrearms : ∀ threadIndex page, s.Rearms threadIndex page → s'.Rearms threadIndex page) :
    s'.Guarded due := by
  have hpages : s'.bps.gMemoryBreakpointPages = s.bps.gMemoryBreakpointPages :=
    congrArg (fun t => t.2.2.pages) htables
  have hprotection : s'.target.protection = s.target.protection :=
    congrArg (fun t => t.2.2.protection) htables
  refine h.of_leaves (congrArg (fun t => t.1.1) htables) (fun page hmem => ?_) hrearms
  rw [hpages] at hmem
  rw [hprotection]
  exact ⟨hmem, rfl⟩

/-- A page that is no longer watched is not due. -/
theorem drop (h : s.Guarded (due ∪ due'))
    (hkept : ∀ page ∈ due', page ∈ s.bps.gMemoryBreakpointPages → s.Kept page) : s.Guarded due := by
  refine ⟨h.live, fun page hmem hnot => ?_⟩
  by_cases hin : page ∈ due'
  · exact hkept page hin hmem
  · exact h.kept page hmem fun hor => hor.elim hnot hin

end Guarded

section Pages
variable {env : Env} {id : ULONG64} {page : ULONG_PTR}

theorem or_guard_and_guard (protection : DWORD) : (protection ||| PAGE_GUARD) &&& PAGE_GUARD ≠ 0 := by
  intro hzero
  have hbit := congrArg (fun b : DWORD => b.getLsbD 8) hzero
  simp [PAGE_GUARD] at hbit

theorem leaves_leavePage (env : Env) (id : ULONG64) (page : ULONG_PTR) (s : Session) :
    s.Leaves (s.leavePage env id page).1 := by
  obtain ⟨pages, protection, e, heq, hother, hpages⟩ := leavePage_outcome env id page s
  intro p hmem
  by_cases hp : p = page
  · subst hp
    unfold leavePage at hmem ⊢
    cases hinfo : s.bps.gMemoryBreakpointPages[p]? with
    | none =>
      rw [hinfo] at hmem
      exact ⟨hmem, rfl⟩
    | some info =>
      rw [hinfo] at hmem
      dsimp only at hmem ⊢
      by_cases hids : (info.breakpointIds.erase id).isEmpty = true
      · rw [if_pos hids] at hmem
        exact absurd rfl (mem_erase_iff.mp hmem).1
      · rw [if_neg hids]
        exact ⟨mem_of_getElem? hinfo, rfl⟩
  · rw [heq] at hmem ⊢
    refine ⟨?_, hother p hp⟩
    have hsame := hpages p
    rw [if_neg hp] at hsame
    rw [Std.ExtTreeMap.mem_iff_isSome_getElem?] at hmem ⊢
    rwa [hsame] at hmem

theorem leaves_leavePages (env : Env) (id : ULONG64) (list : List ULONG_PTR) (s : Session) :
    s.Leaves (leavePages env id list s).1 := by
  induction list generalizing s with
  | nil => exact .refl s
  | cons page list ih => exact (leaves_leavePage env id page s).trans (ih _)

theorem leaves_removeMemoryBreakpointById (env : Env) (id : ULONG64) (s : Session) :
    s.Leaves (s.removeMemoryBreakpointById env id).1 := by
  unfold removeMemoryBreakpointById
  split
  · exact .refl s
  rename_i breakpoint _
  split
  · have houtline := outline_removeMemoryWatchpoint env
      ⟨breakpoint.start, breakpoint.size, ttdMemoryWatchMask breakpoint.type⟩ s
    split <;> rename_i heq <;> rw [heq] at houtline <;> have hleft := leaves_of_guards (guards_of_outline houtline)
    · exact hleft
    · exact hleft
  · exact leaves_leavePages env id _ s

/-- With every call of the system succeeding, protecting a watched page sets what it is to be. -/
theorem protectMemoryBreakpointPage_eq (henv : ∀ page value, env.virtualProtectEx page value = true)
    (hprocess : s.activeProcessHandle env ≠ 0) {info : MemoryBreakpointPage}
    (hinfo : s.bps.gMemoryBreakpointPages[page]? = some info) (guarded : Bool) :
    s.protectMemoryBreakpointPage env page guarded =
      ({ s with target.protection := Function.update s.target.protection page
                  (if guarded then info.originalProtect ||| PAGE_GUARD else info.originalProtect) }, true) := by
  unfold protectMemoryBreakpointPage
  rw [hinfo]
  dsimp only
  rw [if_neg hprocess]
  unfold virtualProtectEx
  rw [if_pos (henv _ _)]

theorem roll_protectMemoryBreakpointPage (env : Env) (page : ULONG_PTR) (guarded : Bool) (s : Session) :
    (s.protectMemoryBreakpointPage env page guarded).1.roll = s.roll :=
  roll_of_core (core_protectMemoryBreakpointPage env page guarded s)

theorem guards_of_protect_failed {guarded : Bool}
    (h : (s.protectMemoryBreakpointPage env page guarded).2 = false) :
    (s.protectMemoryBreakpointPage env page guarded).1.guards = s.guards := by
  unfold protectMemoryBreakpointPage at h ⊢
  split
  · rfl
  rename_i info hinfo
  rw [hinfo] at h
  dsimp only at h
  split
  · rfl
  rename_i hprocess
  rw [if_neg hprocess] at h
  generalize (if guarded then info.originalProtect ||| PAGE_GUARD else info.originalProtect) = value
    at h ⊢
  unfold virtualProtectEx at h ⊢
  split
  · rename_i hdone
    rw [if_pos hdone] at h
    cases h
  · rfl

theorem protect_of_no_process (hprocess : s.activeProcessHandle env = 0) (guarded : Bool) :
    s.protectMemoryBreakpointPage env page guarded = (s, false) := by
  unfold protectMemoryBreakpointPage
  split
  · rfl
  · rw [if_pos hprocess]

theorem exposePages_of_no_process (hprocess : s.activeProcessHandle env = 0) (list : List ULONG_PTR) :
    exposePages env list s = (s, []) := by
  induction list with
  | nil => rfl
  | cons page list ih =>
    simp only [exposePages]
    split
    · rw [protect_of_no_process hprocess, ih]
      rfl
    · exact ih

/-- Protecting a page leaves only that page open. -/
theorem Guarded.protect (h : s.Guarded due) (env : Env) (page : ULONG_PTR) (guarded : Bool) :
    (s.protectMemoryBreakpointPage env page guarded).1.Guarded (due ∪ {page}) := by
  obtain ⟨protection, e, heq, hother⟩ := protectMemoryBreakpointPage_outcome env page guarded s
  rw [heq]
  refine ⟨h.live, fun p hmem hnot => ?_⟩
  have hp : p ≠ page := fun hp => hnot (.inr hp)
  obtain hguard | hrearm := h.kept p hmem fun hin => hnot (.inl hin)
  · left
    show protection p &&& PAGE_GUARD ≠ 0
    rw [hother p hp]
    exact hguard
  · exact .inr hrearm

/-- Guarding a page settles it. -/
theorem Guarded.guard (h : s.Guarded (due ∪ {page}))
    (henv : ∀ page value, env.virtualProtectEx page value = true)
    (hprocess : s.activeProcessHandle env ≠ 0) :
    (s.protectMemoryBreakpointPage env page true).1.Guarded due := by
  have hopen := h.protect env page true
  rw [Set.union_assoc, Set.union_self] at hopen
  refine hopen.drop fun p hp hmem => ?_
  obtain rfl := Set.mem_singleton_iff.mp hp
  left
  have hmem' : p ∈ s.bps.gMemoryBreakpointPages := by
    obtain ⟨protection, e, heq, -⟩ := protectMemoryBreakpointPage_outcome env p true s
    rwa [heq] at hmem
  obtain ⟨info, hinfo⟩ := Option.isSome_iff_exists.mp (Std.ExtTreeMap.mem_iff_isSome_getElem?.mp hmem')
  rw [protectMemoryBreakpointPage_eq henv hprocess hinfo]
  show Function.update s.target.protection p (info.originalProtect ||| PAGE_GUARD) p &&& PAGE_GUARD ≠ 0
  rw [Function.update_self]
  exact or_guard_and_guard _

theorem activeProcessHandle_of_roll (env : Env) (h : s'.roll = s.roll) :
    s'.activeProcessHandle env = s.activeProcessHandle env := by
  have hidMap : s'.gDebugIdMap = s.gDebugIdMap := congrArg Prod.fst h
  unfold activeProcessHandle
  rw [hidMap]

namespace Guarded

theorem joinPage (h : s.Guarded due) (henv : ∀ page value, env.virtualProtectEx page value = true)
    (hprocess : s.activeProcessHandle env ≠ 0) (id : ULONG64) (page : ULONG_PTR) :
    (s.joinPage env id page).1.Guarded due := by
  unfold Session.joinPage
  split
  · rename_i info hinfo
    refine h.of_roll rfl (fun p hmem => ⟨?_, rfl⟩) rfl
    dsimp only at hmem
    rw [Std.ExtTreeMap.mem_insert, Std.LawfulEqCmp.compare_eq_iff_eq] at hmem
    obtain rfl | hmem := hmem
    · exact mem_of_getElem? hinfo
    · exact hmem
  · split
    · exact h.of_roll rfl (.refl s) rfl
    · dsimp only
      suffices hopen : Guarded (due ∪ {page}) _ from hopen.guard henv hprocess
      refine ⟨h.live, fun p hmem hnot => ?_⟩
      dsimp only at hmem
      rw [Std.ExtTreeMap.mem_insert, Std.LawfulEqCmp.compare_eq_iff_eq] at hmem
      obtain rfl | hmem := hmem
      · exact absurd (Set.mem_union_right due rfl) hnot
      · exact h.kept p hmem fun hin => hnot (.inl hin)

theorem joinPages (h : s.Guarded due) (henv : ∀ page value, env.virtualProtectEx page value = true)
    (hprocess : s.activeProcessHandle env ≠ 0) (id : ULONG64) (list : List ULONG_PTR) :
    (joinPages env id list s).1.Guarded due := by
  induction list generalizing s with
  | nil => exact h
  | cons page list ih =>
    have hjoin := h.joinPage henv hprocess id page
    have hroll : (s.joinPage env id page).1.roll = s.roll := by
      obtain ⟨pages, protection, e, ok, touched, heq, -⟩ := joinPage_outcome env id page s
      rw [heq]
      rfl
    simp only [Session.joinPages]
    split <;> rename_i heq <;> rw [heq] at hjoin hroll
    · refine ih hjoin ?_
      rw [activeProcessHandle_of_roll env hroll]
      exact hprocess
    · exact hjoin

theorem removed (h : s.Guarded due) (env : Env) (id : ULONG64) :
    (s.removeMemoryBreakpointById env id).1.Guarded due := by
  have hcore := core_removeMemoryBreakpointById env id s
  exact h.of_roll (congrArg Prod.fst (core_mode hcore)) (leaves_removeMemoryBreakpointById env id s)
    (roll_of_core hcore)

theorem removedAll (h : s.Guarded due) (env : Env) (rounds : ℕ) :
    (removeMemoryBreakpoints env rounds s).1.Guarded due := by
  induction rounds generalizing s with
  | zero => exact h
  | succ rounds ih =>
    unfold removeMemoryBreakpoints
    split
    · exact h
    · exact ih (h.removed env _)

theorem removedAllBreakPoints (h : s.Guarded due) (env : Env) :
    (s.removeAllBreakPoints env).1.Guarded due := by
  have hall : (s.removeAllMemoryBreakpoints env).1.Guarded due := h.removedAll env _
  unfold removeAllBreakPoints
  split
  · split
    · refine h.of_roll rfl (fun page hmem => ?_) rfl
      exact absurd hmem Std.ExtTreeMap.not_mem_empty
    · exact h
  split <;> rename_i s₁ heq <;> rw [heq] at hall
  · exact hall
  · have houtline := outline_removeEach env s₁.bps.gBreakpoints.toList s₁
    have heach := hall.of_guards (guards_of_outline houtline)
    split <;> rename_i heq' <;> rw [heq'] at heach
    · exact heach
    · exact heach.of_roll rfl (.refl _) rfl

theorem set (h : s.Guarded due) (henv : ∀ page value, env.virtualProtectEx page value = true)
    (start size : ULONG_PTR) (type : ℕ) (restoreOnHit : Bool) (callback : Option Callback) :
    (s.setMemoryBPXEx env start size type restoreOnHit callback).1.Guarded due := by
  obtain ⟨e, heq⟩ | ⟨-, hprocess, -, info, -, -, -, s₁, s', touched, ok, hs₁, hjoin, heq⟩ :=
    setMemoryBPXEx_outcome env start size type restoreOnHit callback h.live
  · rw [heq]
    exact h.of_roll rfl (.refl s) rfl
  have h₁ : s₁.Guarded due := by
    rw [hs₁]
    exact h.of_roll rfl (.refl s) rfl
  have hprocess₁ : s₁.activeProcessHandle env ≠ 0 := by
    rw [hs₁]
    exact hprocess
  have hjoined := h₁.joinPages henv hprocess₁ info.id (s₁.pagesOf start size)
  rw [hjoin] at hjoined
  rw [heq]
  cases ok with
  | true => exact hjoined
  | false =>
    have hcore := core_leavePages env info.id touched s'
    have hleft := hjoined.of_roll (congrArg Prod.fst (core_mode hcore))
      (leaves_leavePages env info.id touched s') (roll_of_core hcore)
    rw [if_neg (by decide)]
    exact hleft.of_roll rfl (.refl _) rfl

/-- The pages that a read exposes are due until they are guarded again. -/
theorem expose (h : s.Guarded due) (env : Env) (list : List ULONG_PTR) :
    (exposePages env list s).1.Guarded (due ∪ {page | page ∈ (exposePages env list s).2}) := by
  induction list generalizing s due with
  | nil => exact h.mono Set.subset_union_left
  | cons page list ih =>
    simp only [exposePages]
    split
    · cases hdone : (s.protectMemoryBreakpointPage env page false).2 with
      | true =>
        refine (ih (h.protect env page false)).mono ?_
        rintro p ((hp | hp) | hp)
        · exact .inl hp
        · exact .inr (hp ▸ List.mem_cons_self)
        · exact .inr (List.mem_cons_of_mem _ hp)
      | false => exact ih (h.of_guards (guards_of_protect_failed hdone))
    · exact ih h

theorem guardAll (henv : ∀ page value, env.virtualProtectEx page value = true)
    (hprocess : s.activeProcessHandle env ≠ 0) (list : List ULONG_PTR)
    (h : s.Guarded (due ∪ {page | page ∈ list})) : (guardPages env list s).Guarded due := by
  induction list generalizing s with
  | nil => exact h.mono (Set.union_subset subset_rfl fun page hmem => by cases hmem)
  | cons page list ih =>
    have hsplit : s.Guarded ((due ∪ {p | p ∈ list}) ∪ {page}) := by
      refine h.mono ?_
      rintro p (hp | hp)
      · exact .inl (.inl hp)
      · obtain rfl | hp := List.mem_cons.mp hp
        · exact .inr rfl
        · exact .inl (.inr hp)
    refine ih ?_ (hsplit.guard henv hprocess)
    rw [activeProcessHandle_of_roll env (roll_protectMemoryBreakpointPage env page true s)]
    exact hprocess

theorem read (h : s.Guarded due) (henv : ∀ page value, env.virtualProtectEx page value = true)
    (list : List ULONG_PTR) : (guardPages env (exposePages env list s).2 (exposePages env list s).1).Guarded due := by
  by_cases hprocess : s.activeProcessHandle env = 0
  · rw [exposePages_of_no_process hprocess]
    exact h
  · refine guardAll henv ?_ _ (h.expose env list)
    rw [activeProcessHandle_of_roll env (roll_of_core (core_exposePages env list s))]
    exact hprocess

theorem readUnsafe (h : s.Guarded due) (henv : ∀ page value, env.virtualProtectEx page value = true)
    (process : HANDLE) (address : ULONG_PTR) (n : ℕ) :
    (s.memoryReadUnsafe env process address n).1.Guarded due := by
  unfold memoryReadUnsafe
  dsimp only
  repeat' split
  all_goals first | exact h | exact h.read henv _ | exact h.of_roll rfl (.refl s) rfl

theorem readSafe (h : s.Guarded due) (henv : ∀ page value, env.virtualProtectEx page value = true)
    (process : HANDLE) (address : ULONG_PTR) (n : ℕ) :
    (s.memoryReadSafe env process address n).1.Guarded due := by
  have hread := h.readUnsafe henv process address n
  unfold memoryReadSafe
  split <;> rename_i heq <;> rw [heq] at hread
  · exact hread
  · split <;> exact hread

theorem protectSafe (h : s.Guarded due) (env : Env) (address size : ULONG_PTR) (protection : DWORD)
    (hguard : ∀ page ∈ s.pagesOf address size, page ∈ s.bps.gMemoryBreakpointPages →
      protection &&& PAGE_GUARD ≠ 0 ∨ ∃ threadIndex, s.Rearms threadIndex page) :
    (s.memoryProtectSafe env address size protection).1.Guarded due := by
  unfold memoryProtectSafe
  split
  · exact h.of_roll rfl (.refl s) rfl
  split
  · refine ⟨h.live, fun page hmem hnot => ?_⟩
    by_cases hpage : page ∈ s.pagesOf address size
    · obtain hguarded | hrearm := hguard page hpage hmem
      · left
        show (if page ∈ s.pagesOf address size then protection else s.target.protection page) &&&
          PAGE_GUARD ≠ 0
        rw [if_pos hpage]
        exact hguarded
      · exact .inr hrearm
    · obtain hkept | hrearm := h.kept page hmem hnot
      · left
        show (if page ∈ s.pagesOf address size then protection else s.target.protection page) &&&
          PAGE_GUARD ≠ 0
        rw [if_neg hpage]
        exact hkept
      · exact .inr hrearm
  · exact h.of_roll rfl (.refl s) rfl

end Guarded

end Pages

/-- An internal step of the event's thread can be had: the thread is known and alive, and it is
on one already or its trap flag can be set. -/
def CanStep (env : Env) (s : Session) : Prop :=
  ∃ threadIndex handle n, env.currentThreadId = some threadIndex ∧
    s.gDebugIdMap.threadIndexToHandle[threadIndex]? = some handle ∧
    s.threadAt threadIndex = some n ∧
    (threadIndex ∈ s.steps.gInternalStepCallbacks ∨ (s.setCFlags env handle 0).2 = true)

section Steps
variable {env : Env}

/-- Whether a trap flag can be set depends on the thread only. -/
theorem setCFlags_snd (env : Env) (thread : HANDLE) (value value' : ULONG_PTR)
    (hkind : s'.gSessionKind = s.gSessionKind) (hlock : s'.pauseLock = s.pauseLock)
    (hidMap : s'.gDebugIdMap = s.gDebugIdMap) :
    (s'.setCFlags env thread value').2 = (s.setCFlags env thread value).2 := by
  unfold setCFlags
  rw [hkind, hlock, hidMap]
  repeat' split
  all_goals rfl

theorem canStep_of_roll (hmode : s'.mode = s.mode) (hpaused : s'.gPaused = s.gPaused)
    (hroll : s'.roll = s.roll) (hstep : s.CanStep env) : s'.CanStep env := by
  obtain ⟨threadIndex, handle, n, hthread, hhandle, hlives, hcan⟩ := hstep
  have hidMap : s'.gDebugIdMap = s.gDebugIdMap := congrArg Prod.fst hroll
  have hinternal : s'.steps.gInternalStepCallbacks = s.steps.gInternalStepCallbacks :=
    congrArg (fun r => r.2.1) hroll
  have hlock : s'.pauseLock = s.pauseLock := by
    have hdebugging : s'.gIsDebugging = s.gIsDebugging := congrArg (fun m => m.2.1) hmode
    unfold pauseLock
    rw [hpaused, hdebugging]
  refine ⟨threadIndex, handle, n, hthread, ?_, ?_, ?_⟩
  · rw [hidMap]
    exact hhandle
  · rw [threadAt_of_roll hroll]
    exact hlives
  · rw [hinternal, setCFlags_snd env handle 0 0 (congrArg Prod.fst hmode) hlock hidMap]
    exact hcan

theorem canStep_of_setting (h : s'.setting = s.setting) (hstep : s.CanStep env) : s'.CanStep env :=
  canStep_of_roll (congrArg (fun x => x.1) h) (congrArg (fun x => x.2.1.1) h)
    (congrArg (fun x => x.2.2.2) h) hstep

theorem armInternalStep_callbacks (env : Env) (threadIndex : ULONG) (thread : HANDLE)
    (actions : List StepAction) (s : Session) :
    (s.armInternalStep env threadIndex thread actions).steps.gInternalStepCallbacks =
      if (s.setCFlags env thread 0).2 then s.steps.gInternalStepCallbacks.insert threadIndex actions
      else s.steps.gInternalStepCallbacks := by
  unfold armInternalStep
  obtain ⟨suspends, e, hheld⟩ := suspendThreads_eq env (s.peerHandles threadIndex) s
  dsimp only
  rw [hheld]
  generalize hflags : setCFlags env thread _ _ = r
  have hsnd : r.2 = (s.setCFlags env thread 0).2 :=
    (congrArg Prod.snd hflags).symm.trans (setCFlags_snd env thread 0 _ rfl rfl rfl)
  obtain ⟨eflags, e', hset⟩ := setCFlags_eq env thread _ _
  rw [hflags] at hset
  obtain ⟨s', ok⟩ := r
  rw [← hsnd]
  subst hset
  cases ok with
  | true => rfl
  | false =>
    obtain ⟨resumes, e'', hresumed⟩ := resumeThreads_eq
      (s.steps.gInternalStepSuspendedThreads.getD threadIndex [] ++
        (s.suspendThreads env (s.peerHandles threadIndex)).2) _
    dsimp only
    rw [hresumed]
    rfl

/-- What an internal step that is asked for adds: nothing, or the action to what the thread is
to do. -/
theorem scheduleInternalStep_callbacks (env : Env) (action : StepAction) (s : Session) :
    ((s.scheduleInternalStep env action).steps.gInternalStepCallbacks = s.steps.gInternalStepCallbacks ∧
        ¬ s.CanStep env) ∨
      ∃ threadIndex previous more, env.currentThreadId = some threadIndex ∧
        s.steps.gInternalStepCallbacks.getD threadIndex [] = previous ∧ action ∈ more ∧
        (s.scheduleInternalStep env action).steps.gInternalStepCallbacks =
          s.steps.gInternalStepCallbacks.insert threadIndex (previous ++ more) := by
  unfold scheduleInternalStep
  split
  · rename_i hnone
    refine .inl ⟨rfl, ?_⟩
    rintro ⟨threadIndex, -, -, hthread, -⟩
    rw [hnone] at hthread
    cases hthread
  rename_i threadIndex hthread
  split
  · rename_i previous hprevious
    refine .inr ⟨threadIndex, previous, [action], hthread, ?_, List.mem_singleton_self _, rfl⟩
    exact Std.ExtTreeMap.getD_eq_getD_getElem?.trans (congrArg (·.getD []) hprevious)
  rename_i hfree
  have hfree' : threadIndex ∉ s.steps.gInternalStepCallbacks := by
    rw [Std.ExtTreeMap.mem_iff_isSome_getElem?, hfree]
    decide
  obtain ⟨callbacks, ids, htaken⟩ := takeUserStep_eq threadIndex s
  dsimp only
  rw [htaken]
  dsimp only
  split
  · rename_i hunknown
    refine .inl ⟨rfl, ?_⟩
    rintro ⟨threadIndex', handle, -, hthread', hhandle, -⟩
    rw [hthread] at hthread'
    cases hthread'
    rw [hunknown] at hhandle
    cases hhandle
  rename_i handle hhandle
  rw [armInternalStep_callbacks]
  have hsnd : ({ s with steps.gStepCallbacks := callbacks, steps.gStepThreadSystemIds := ids }.setCFlags
      env handle 0).2 = (s.setCFlags env handle 0).2 := setCFlags_snd env handle 0 0 rfl rfl rfl
  rw [hsnd]
  split
  · refine .inr ⟨threadIndex, [], _, hthread, Std.ExtTreeMap.getD_eq_fallback hfree', ?_, rfl⟩
    exact List.mem_cons_self
  · rename_i hfails
    refine .inl ⟨rfl, ?_⟩
    rintro ⟨threadIndex', handle', -, hthread', hhandle', -, hcan⟩
    rw [hthread] at hthread'
    cases hthread'
    rw [hhandle] at hhandle'
    cases hhandle'
    exact hcan.elim hfree' hfails

theorem threadAt_scheduleInternalStep (env : Env) (action : StepAction) (threadIndex : ULONG)
    (s : Session) : (s.scheduleInternalStep env action).threadAt threadIndex = s.threadAt threadIndex := by
  obtain ⟨steps, suspends, resumes, eflags, e, h⟩ := scheduleInternalStep_eq env action s
  rw [h]
  rfl

theorem Rearms.schedule {threadIndex : ULONG} {page : ULONG_PTR} (h : s.Rearms threadIndex page) (env : Env)
    (action : StepAction) : (s.scheduleInternalStep env action).Rearms threadIndex page := by
  obtain ⟨actions, hactions, hmem, hlives⟩ := h
  rw [← threadAt_scheduleInternalStep env action] at hlives
  obtain ⟨hsame, -⟩ | ⟨threadIndex', previous, more, -, hprevious, -, heq⟩ :=
    scheduleInternalStep_callbacks env action s
  · refine ⟨actions, ?_, hmem, hlives⟩
    rw [hsame]
    exact hactions
  · by_cases hthread : threadIndex = threadIndex'
    · subst hthread
      rw [Std.ExtTreeMap.getD_eq_getD_getElem?, hactions] at hprevious
      refine ⟨previous ++ more, ?_, List.mem_append_left _ (hprevious ▸ hmem), hlives⟩
      rw [heq]
      exact Std.ExtTreeMap.getElem?_insert_self
    · refine ⟨actions, ?_, hmem, hlives⟩
      rw [heq, getElem?_insert_of_ne hthread]
      exact hactions

theorem rearms_scheduled (hstep : s.CanStep env) (page : ULONG_PTR) :
    ∃ threadIndex, (s.scheduleMemoryBreakpointRearm env page).Rearms threadIndex page := by
  obtain ⟨-, hnot⟩ | ⟨threadIndex, previous, more, hthread, -, hmem, heq⟩ :=
    scheduleInternalStep_callbacks env (.rearmPage page) s
  · exact absurd hstep hnot
  obtain ⟨threadIndex', -, n, hthread', -, hlives, -⟩ := hstep
  rw [hthread] at hthread'
  cases hthread'
  refine ⟨threadIndex, previous ++ more, ?_, List.mem_append_right _ hmem, n, ?_⟩
  · unfold scheduleMemoryBreakpointRearm
    rw [heq]
    exact Std.ExtTreeMap.getElem?_insert_self
  · unfold scheduleMemoryBreakpointRearm
    rw [threadAt_scheduleInternalStep]
    exact hlives

namespace Guarded

theorem schedule (h : s.Guarded due) (env : Env) (action : StepAction) :
    (s.scheduleInternalStep env action).Guarded due := by
  obtain ⟨steps, suspends, resumes, eflags, e, heq⟩ := scheduleInternalStep_eq env action s
  refine h.of_leaves ?_ ?_ fun _ _ hrearm => hrearm.schedule env action
  · rw [heq]
  · rw [heq]
    exact .refl s

/-- The page of a hit is exposed with its re-arm asked for. -/
theorem rearm {page : ULONG_PTR} (h : s.Guarded (due ∪ {page})) (hstep : s.CanStep env) :
    (s.rearmWatchedPage env page).Guarded due := by
  unfold rearmWatchedPage
  split
  · have hopen := h.protect env page false
    rw [Set.union_assoc, Set.union_self] at hopen
    have hsetting : (s.protectMemoryBreakpointPage env page false).1.setting = s.setting :=
      setting_of_roster (roster_of_core (core_protectMemoryBreakpointPage env page false s))
    refine (hopen.schedule env (.rearmPage page)).drop fun p hp _ => ?_
    obtain rfl := Set.mem_singleton_iff.mp hp
    exact .inr (rearms_scheduled (canStep_of_setting hsetting hstep) p)
  · rename_i hfree
    refine h.drop fun p hp hmem => ?_
    obtain rfl := Set.mem_singleton_iff.mp hp
    exact absurd (Std.ExtTreeMap.contains_iff_mem.mpr hmem) hfree

end Guarded

end Steps

/-- No page waits for the thread. -/
def ThreadFree (threadIndex : ULONG) (s : Session) : Prop := ∀ page, ¬ s.Rearms threadIndex page

/-- No page waits for a thread of the handle. -/
def HandleFree (handle : HANDLE) (s : Session) : Prop :=
  ∀ threadIndex page, s.Rearms threadIndex page →
    s.gDebugIdMap.threadIndexToHandle[threadIndex]? ≠ some handle

end Session

/-- The system serves every change of a protection, and the target makes none by itself. -/
def protectedRules : Rules where
  call env _ _ := ∀ page value, env.virtualProtectEx page value = true
  work env _ _ := ∀ page value, env.virtualProtectEx page value = true
  target s t := t.protection = s.target.protection

/-- The client takes the guard off no watched page, the thread of a hit can be stepped, and no
thread that a page waits for goes away. -/
def guardRules : Rules where
  call env call s := protectedRules.call env call s ∧ ∀ address size protection,
    call = .memoryProtectSafe address size protection → ∀ page ∈ s.pagesOf address size,
      page ∈ s.bps.gMemoryBreakpointPages →
        protection &&& PAGE_GUARD ≠ 0 ∨ ∃ threadIndex, s.Rearms threadIndex page
  work env work s := protectedRules.work env work s ∧
    (work.completes = true → (∃ threadIndex page, s.Rearms threadIndex page) →
      s.activeProcessHandle env ≠ 0) ∧
    let threadIndex := env.currentThreadId.getD (BitVec.allOnes 32)
    let processIndex := env.currentProcessId.getD (BitVec.allOnes 32)
    match work with
    | .exception info => ∀ page, s.Accesses info page → page ∈ s.bps.gMemoryBreakpointPages →
        s.CanStep env
    | .createThread handle => s.ThreadFree threadIndex ∧ s.HandleFree handle
    | .createProcess handle initialThread => s.ThreadFree threadIndex ∧ s.HandleFree handle ∧
        s.HandleFree initialThread
    | .exitThread _ => s.ThreadFree threadIndex ∧ ∀ handle,
        s.gDebugIdMap.threadIndexToHandle[threadIndex]? = some handle → s.HandleFree handle
    | .exitProcess _ => ∀ handle,
        s.gDebugIdMap.processIndexToHandle[processIndex]? = some handle → s.HandleFree handle
    | _ => True
  target s t := protectedRules.target s t ∧ ∀ threadIndex page, s.Rearms threadIndex page →
    Session.Rearms threadIndex page { s with target := t }

theorem guardRules_queueBlind : guardRules.QueueBlind := by
  intro env work s rest h
  cases work with
  | exception info =>
    obtain ⟨henv, hprocess, hstep⟩ := h
    refine ⟨henv, hprocess, fun page haccess hmem => ?_⟩
    exact Session.canStep_of_roll (s := s) rfl rfl rfl (hstep page haccess hmem)
  | _ => exact h

namespace Session
variable {s s' : Session} {due : Set ULONG_PTR} {env : Env} {k : Client}

theorem threadFree_of_roll (h : s'.roll = s.roll) (threadIndex : ULONG) :
    s'.ThreadFree threadIndex ↔ s.ThreadFree threadIndex := by
  unfold ThreadFree
  simp only [rearms_of_roll h]

theorem handleFree_of_roll (h : s'.roll = s.roll) (handle : HANDLE) :
    s'.HandleFree handle ↔ s.HandleFree handle := by
  have hidMap : s'.gDebugIdMap = s.gDebugIdMap := congrArg Prod.fst h
  unfold HandleFree
  simp only [rearms_of_roll h, hidMap]

/-- A thread with the same step and the same handle re-arms the same pages. -/
theorem Rearms.of_same {threadIndex : ULONG} {page : ULONG_PTR} (h : s.Rearms threadIndex page)
    (hcallbacks : s'.steps.gInternalStepCallbacks[threadIndex]? =
      s.steps.gInternalStepCallbacks[threadIndex]?)
    (hindex : s'.gDebugIdMap.threadIndexToHandle[threadIndex]? =
      s.gDebugIdMap.threadIndexToHandle[threadIndex]?)
    (hresolve : ∀ handle, s.gDebugIdMap.threadIndexToHandle[threadIndex]? = some handle →
      s'.resolve handle = s.resolve handle) : s'.Rearms threadIndex page := by
  obtain ⟨actions, hactions, hmem, n, hlives⟩ := h
  refine ⟨actions, hcallbacks.trans hactions, hmem, n, ?_⟩
  unfold threadAt at hlives ⊢
  rw [hindex]
  cases hhandle : s.gDebugIdMap.threadIndexToHandle[threadIndex]? with
  | none =>
    rw [hhandle] at hlives
    cases hlives
  | some handle =>
    rw [hhandle] at hlives
    exact (hresolve handle hhandle).trans hlives

namespace Guarded

theorem call (h : s.Guarded due) {call : ApiCall} (hallowed : guardRules.call env call s)
    (hwatches : call.watches = true) : (call.run env s).1.Guarded due := by
  obtain ⟨henv, hprotect⟩ := hallowed
  cases call with
  | setMemoryBPXEx start size type restoreOnHit callback =>
    exact h.set henv start size type restoreOnHit callback
  | removeMemoryBPX start size =>
    show (s.removeMemoryBPX env start size).1.Guarded due
    unfold removeMemoryBPX
    split
    · exact h.of_roll rfl (.refl s) rfl
    split
    · exact h.of_roll rfl (.refl s) rfl
    split
    · exact h.removed env _
    · exact h.of_roll rfl (.refl s) rfl
  | removeAllBreakPoints => exact h.removedAllBreakPoints env
  | memoryReadUnsafe process address n => exact h.readUnsafe henv process address n
  | memoryReadSafe process address n => exact h.readSafe henv process address n
  | memoryProtectSafe address size protection =>
    exact h.protectSafe env address size protection (hprotect address size protection rfl)
  | _ => cases hwatches

theorem callStep (h : s.Guarded due) (hstep : CallStep guardRules s s') : s'.Guarded due := by
  obtain @⟨env, call, _, allowed⟩ := hstep
  cases hwatches : call.watches with
  | true => exact h.call allowed hwatches
  | false =>
    exact h.of_guards (Prod.ext (setting_of_roster (roster_call ..)) (watch_call env hwatches s))

theorem client (hk : k.Follows guardRules) (inv : Invocation) (h : s.Guarded due) :
    (k.call inv s).Guarded due := by
  have hcalls : Runs.Preserves (CallStep guardRules) (Guarded due) := fun _ _ hstep hs => hs.callStep hstep
  have hlog : Guarded due { s with log := .invoke inv :: s.log } := h.of_guards rfl
  exact hk.keeps hcalls inv _ hlog

/-- The actions of an internal step put back the guards that they are for. -/
theorem runActions (hk : k.Follows guardRules)
    (henv : ∀ page value, env.virtualProtectEx page value = true) (threadIndex : ULONG)
    (actions : List StepAction) (hprocess : s.activeProcessHandle env ≠ 0)
    (h : s.Guarded (due ∪ {page | StepAction.rearmPage page ∈ actions})) :
    (s.runActions k env threadIndex actions).Guarded due := by
  induction actions generalizing s with
  | nil => exact h.mono (Set.union_subset subset_rfl fun page hmem => by cases hmem)
  | cons action actions ih =>
    have hroll : (s.runAction k env threadIndex action).roll = s.roll :=
      roll_runActions hk env threadIndex [action] s
    refine ih ?_ ?_
    · show (s.runAction k env threadIndex action).activeProcessHandle env ≠ 0
      rw [activeProcessHandle_of_roll env hroll]
      exact hprocess
    have hrest : ∀ page, action ≠ .rearmPage page →
        (StepAction.rearmPage page ∈ action :: actions ↔ StepAction.rearmPage page ∈ actions) := by
      intro page hne
      rw [List.mem_cons]
      exact ⟨fun hor => hor.resolve_left fun he => hne he.symm, .inr⟩
    cases action with
    | rearmBreakpoint id =>
      have h' : s.Guarded (due ∪ {page | StepAction.rearmPage page ∈ actions}) := by
        simpa [hrest] using h
      simp only [runAction]
      split
      · exact h'.of_guards (guards_writeNativeBreakpointBytes ..)
      · exact h'
    | userStep callback =>
      have h' : s.Guarded (due ∪ {page | StepAction.rearmPage page ∈ actions}) := by
        simpa [hrest] using h
      exact client hk _ h'
    | rearmPage page =>
      have h' : s.Guarded ((due ∪ {page | StepAction.rearmPage page ∈ actions}) ∪ {page}) := by
        refine h.mono ?_
        rintro p (hp | hp)
        · exact .inl (.inl hp)
        · obtain he | hp := List.mem_cons.mp hp
          · cases he
            exact .inr rfl
          · exact .inl (.inr hp)
      simp only [runAction]
      split
      · exact h'.guard henv hprocess
      · rename_i hfree
        refine h'.drop fun p hp hmem => ?_
        obtain rfl := Set.mem_singleton_iff.mp hp
        exact absurd (Std.ExtTreeMap.contains_iff_mem.mpr hmem) hfree

/-- Where the process of the event is unknown, no action of a step reaches a page. -/
theorem runActions_of_no_process (hk : k.Follows guardRules) (threadIndex : ULONG)
    (actions : List StepAction) (hprocess : s.activeProcessHandle env = 0) (h : s.Guarded due) :
    (s.runActions k env threadIndex actions).Guarded due := by
  induction actions generalizing s with
  | nil => exact h
  | cons action actions ih =>
    have hroll : (s.runAction k env threadIndex action).roll = s.roll :=
      roll_runActions hk env threadIndex [action] s
    refine ih ?_ ?_
    · show (s.runAction k env threadIndex action).activeProcessHandle env = 0
      rw [activeProcessHandle_of_roll env hroll]
      exact hprocess
    cases action with
    | rearmBreakpoint id =>
      simp only [runAction]
      split
      · exact h.of_guards (guards_writeNativeBreakpointBytes ..)
      · exact h
    | userStep callback => exact client hk _ h
    | rearmPage page =>
      simp only [runAction]
      split
      · rw [protect_of_no_process hprocess]
        exact h
      · exact h

/-- An internal step that completes does what the pages wait for. -/
theorem complete (h : s.Guarded due) (hk : k.Follows guardRules)
    (henv : ∀ page value, env.virtualProtectEx page value = true) {threadIndex : ULONG}
    (hprocess : (∃ threadIndex page, s.Rearms threadIndex page) → s.activeProcessHandle env ≠ 0)
    (hstep : s.completeInternalStep k env threadIndex = some s') : s'.Guarded due := by
  unfold completeInternalStep at hstep
  split at hstep
  · cases hstep
  rename_i actions hactions
  cases hstep
  obtain ⟨eflags, e, hclear⟩ := clearTrapFlag_eq env threadIndex s
  rw [hclear]
  have hopen : ∀ {due'}, (∀ page, s.Rearms threadIndex page → page ∈ due') →
      ({ s with target.eflags := eflags, lastError := e }.forgetInternalStep threadIndex).Guarded
        (due ∪ due') := by
    intro due' hdue
    refine ⟨h.live, fun page hmem hnot => ?_⟩
    obtain hguard | ⟨threadIndex', hrearm⟩ := h.kept page hmem fun hin => hnot (.inl hin)
    · exact .inl hguard
    · have hne : threadIndex' ≠ threadIndex := by
        rintro rfl
        exact hnot (.inr (hdue page hrearm))
      exact .inr ⟨threadIndex', hrearm.of_same (getElem?_erase_of_ne hne) rfl fun _ _ => rfl⟩
  have hrun : ((Session.forgetInternalStep threadIndex
      { s with target.eflags := eflags, lastError := e }).runActions k env threadIndex actions).Guarded due := by
    by_cases hnone : s.activeProcessHandle env = 0
    · refine runActions_of_no_process hk threadIndex actions hnone ((@hopen ∅ ?_).mono ?_)
      · intro page hrearm
        exact absurd hnone (hprocess ⟨threadIndex, page, hrearm⟩)
      · rw [Set.union_empty]
    · refine runActions hk henv threadIndex actions hnone (hopen fun page hrearm => ?_)
      obtain ⟨actions', hactions', hmem, -⟩ := hrearm
      rw [hactions] at hactions'
      cases hactions'
      exact hmem
  obtain ⟨resumes, e', hreleased⟩ := releaseThreads_eq threadIndex
    ((Session.forgetInternalStep threadIndex
      { s with target.eflags := eflags, lastError := e }).runActions k env threadIndex actions)
  rw [hreleased]
  exact hrun.of_leaves rfl (.refl _) fun _ _ hrearm => hrearm.of_same rfl rfl fun _ _ => rfl

end Guarded

namespace Rearms
variable {threadIndex : ULONG} {page : ULONG_PTR}

theorem enterThread (h : s.Rearms threadIndex page) (env : Env) {handle : HANDLE}
    (hne : threadIndex ≠ env.currentThreadId.getD (BitVec.allOnes 32))
    (hhandle : s.gDebugIdMap.threadIndexToHandle[threadIndex]? ≠ some handle) :
    (s.enterThread env handle).Rearms threadIndex page := by
  have hsteps : (s.enterThread env handle).steps = s.steps := by
    unfold Session.enterThread registerTitanHandle
    dsimp only
    split <;> rfl
  have hmap : (s.enterThread env handle).gDebugIdMap.threadIndexToHandle =
      s.gDebugIdMap.threadIndexToHandle.insert (env.currentThreadId.getD (BitVec.allOnes 32)) handle := by
    unfold Session.enterThread registerTitanHandle
    dsimp only
    split <;> rfl
  refine h.of_same ?_ ?_ fun other hother => ?_
  · rw [hsteps]
  · rw [hmap, getElem?_insert_of_ne hne]
  · unfold Session.enterThread
    dsimp only
    obtain hsame | ⟨rfl, -⟩ := resolve_registerTitanHandle handle other .thread
      (env.currentThreadId.getD (BitVec.allOnes 32)) (debugThreadId env) false
      (s.rememberThread handle (env.currentThreadId.getD (BitVec.allOnes 32)))
    · exact hsame
    · exact absurd hother hhandle

theorem registerProcess (h : s.Rearms threadIndex page) (env : Env) {handle : HANDLE}
    (hhandle : s.HandleFree handle) (processIndex : ULONG) :
    (s.registerProcess env handle processIndex).Rearms threadIndex page := by
  obtain ⟨hsteps, -, hmap⟩ := registerProcess_eq env handle processIndex s
  refine h.of_same ?_ ?_ fun other hother => ?_
  · rw [hsteps]
  · rw [hmap]
  · obtain hsame | ⟨rfl, -⟩ := resolve_registerProcess env handle other processIndex s
    · exact hsame
    · exact absurd hother (hhandle threadIndex page h)

theorem enterProcess (h : s.Rearms threadIndex page) (env : Env) {handle initialThread : HANDLE}
    (hne : threadIndex ≠ env.currentThreadId.getD (BitVec.allOnes 32)) (hhandle : s.HandleFree handle)
    (hthread : s.gDebugIdMap.threadIndexToHandle[threadIndex]? ≠ some initialThread) :
    (s.enterProcess env handle initialThread).Rearms threadIndex page := by
  obtain he | ⟨processIndex, he⟩ | ⟨processIndex, he⟩ :=
    enterProcess_outcome env handle initialThread s <;> rw [he]
  · exact h
  · refine (h.registerProcess env hhandle processIndex).enterThread env hne ?_
    obtain ⟨-, -, hmap⟩ := registerProcess_eq env handle processIndex s
    rw [hmap]
    exact hthread
  · exact h.of_same rfl (getElem?_insert_of_ne hne) fun _ _ => rfl

theorem unregister (h : s.Rearms threadIndex page) {handle : HANDLE} (hhandle : s.HandleFree handle) :
    (s.unregisterTitanHandle handle).Rearms threadIndex page := by
  refine h.of_same rfl rfl fun other hother => ?_
  rw [resolve_unregisterTitanHandle, if_neg]
  rintro rfl
  exact hhandle threadIndex page h hother

theorem ne_of_free (h : s.Rearms threadIndex page) {threadIndex' : ULONG}
    (hfree : s.ThreadFree threadIndex') : threadIndex ≠ threadIndex' := by
  rintro rfl
  exact hfree page h

theorem forgetProcess (h : s.Rearms threadIndex page) (processIndex : ULONG)
    {processHandle : Option HANDLE} (hfree : ∀ handle, processHandle = some handle → s.HandleFree handle) :
    (s.forgetProcess processIndex processHandle).Rearms threadIndex page := by
  unfold Session.forgetProcess
  split
  · rename_i handle
    split
    · exact h
    · exact (h.unregister (hfree handle rfl)).of_same rfl rfl fun _ _ => rfl
  · exact h

theorem forgetThread (h : s.Rearms threadIndex page) {threadIndex' : ULONG}
    {threadHandle : Option HANDLE} (hindex : s.ThreadFree threadIndex')
    (hfree : ∀ handle, threadHandle = some handle → s.HandleFree handle) :
    (s.forgetThread threadIndex' threadHandle).Rearms threadIndex page := by
  have hne := h.ne_of_free hindex
  have herase : ∀ {s₁ : Session}, s₁.Rearms threadIndex page →
      Rearms threadIndex page { s₁ with
        steps.gInternalStepCallbacks := s₁.steps.gInternalStepCallbacks.erase threadIndex' } := by
    intro s₁ h₁
    exact h₁.of_same (getElem?_erase_of_ne hne) rfl fun _ _ => rfl
  unfold Session.forgetThread
  cases threadHandle with
  | none => exact (herase h).of_same rfl rfl fun _ _ => rfl
  | some handle =>
    dsimp only
    split
    · exact (herase h).of_same rfl rfl fun _ _ => rfl
    · refine (herase (h.unregister (hfree handle rfl))).of_same rfl ?_ fun _ _ => rfl
      exact getElem?_erase_of_ne hne

end Rearms

/-- An access to a watched page is reported and the page re-armed. -/
theorem exceptionEvent_of_access (k : Client) (env : Env) {info : EXCEPTION_DEBUG_INFO} {page : ULONG_PTR}
    (haccess : s.Accesses info page) (hwatched : page ∈ s.bps.gMemoryBreakpointPages) :
    ∃ reported, Effects k env s reported ∧
      (s.exceptionEvent k env info).1 = (reported.rearmWatchedPage env page).finishDebugEvent false := by
  obtain ⟨hcode, accessType, accessAddress, rest, hparameters, rfl⟩ := haccess
  have htrap : info.code ≠ EXCEPTION_SINGLE_STEP := by
    rcases hcode with hcode | hcode <;> rw [hcode] <;> decide
  have hstep : (s.setFakeDebugEvent env (.exception info)).consumeSingleStep k env info = none := by
    unfold consumeSingleStep
    rw [if_neg htrap]
  cases hconsumed : (s.setFakeDebugEvent env (.exception info)).dispatchMemoryBreakpointException k env info with
  | none =>
    rw [dispatchMemoryBreakpointException_eq_none_iff hparameters] at hconsumed
    exact absurd hwatched hconsumed
  | some s' =>
    obtain ⟨page, reported, heffects, hpage, rfl⟩ :=
      dispatchMemoryBreakpointException_outcome k env info _ _ hconsumed
    obtain ⟨accessType', accessAddress', rest', hparameters', rfl, -⟩ := hpage
    rw [hparameters] at hparameters'
    cases hparameters'
    refine ⟨reported, (Effects.fake (.exception info) s).trans heffects, ?_⟩
    unfold exceptionEvent consumeAccess
    dsimp only
    rw [hstep, if_pos hcode, hconsumed]
    rfl

end Session

theorem closed_guarded : WatchClosed guardRules fun s s' => ∀ due, s.Guarded due → s'.Guarded due where
  trans hab hbc due h := hbc due (hab due h)
  same hguards _ h := h.of_guards hguards
  call hallowed hwatches _ h := h.call hallowed hwatches
  lose id _ _ _ _ h := h.removed _ id
  expose page hallowed hs haccess hwatched _ h :=
    (h.mono Set.subset_union_left).rearm
      (Session.canStep_of_setting hs (hallowed.2.2 page haccess hwatched))
  schedule id _ _ _ h := h.schedule _ _
  complete {k env work threadIndex s s' s''} hk hallowed hcompletes hs hstep due h := by
    have hroll : s'.roll = s.roll := congrArg (fun x => x.2.2.2) hs
    refine h.complete hk hallowed.1 (fun hwaits => ?_) hstep
    simp only [Session.rearms_of_roll hroll] at hwaits
    rw [Session.activeProcessHandle_of_roll env hroll]
    exact hallowed.2.1 hcompletes hwaits
  enterThread {env handle s} hallowed due h := by
    refine h.of_tables (Session.tables_enterThread ..) fun threadIndex page hrearm => ?_
    exact hrearm.enterThread env (hrearm.ne_of_free hallowed.2.2.1) (hallowed.2.2.2 _ _ hrearm)
  enterProcess {env handle initialThread s} hallowed due h := by
    refine h.of_tables (Session.tables_enterProcess ..) fun threadIndex page hrearm => ?_
    obtain ⟨hindex, hhandle, hthread⟩ := hallowed.2.2
    exact hrearm.enterProcess env (hrearm.ne_of_free hindex) hhandle (hthread _ _ hrearm)
  forgetThread {env code s s'} hallowed hs due h := by
    have hroll : s'.roll = s.roll := congrArg (fun x => x.2.2.2) hs
    refine h.of_tables (Session.tables_forgetThread ..) fun threadIndex page hrearm => ?_
    obtain ⟨hindex, hhandle⟩ := hallowed.2.2
    refine hrearm.forgetThread ((Session.threadFree_of_roll hroll _).mpr hindex) fun handle hfound => ?_
    exact (Session.handleFree_of_roll hroll _).mpr (hhandle handle hfound)
  forgetProcess {env code s s'} hallowed hs due h := by
    have hroll : s'.roll = s.roll := congrArg (fun x => x.2.2.2) hs
    refine h.of_tables (Session.tables_forgetProcess ..) fun threadIndex page hrearm => ?_
    refine hrearm.forgetProcess _ fun handle hfound => ?_
    exact (Session.handleFree_of_roll hroll _).mpr (hallowed.2.2 handle hfound)

end TitanEngine

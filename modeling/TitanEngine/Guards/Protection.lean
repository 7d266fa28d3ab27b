import TitanEngine.Guards.Watching
import TitanEngine.Patches.Refinement

/-! Which protection a page has once no memory breakpoint is on it. -/
namespace TitanEngine
open MapSums Relation

/-- The target may reach the guards of watched pages only. -/
def watchedPages : Session → Set ULONG_PTR := fun s => {page | page ∈ s.bps.gMemoryBreakpointPages}

namespace Session

/-- A watched page remembers its own protection, and any other has it. -/
structure Restoring (s : Session) : Prop where
  live : s.Live
  saved : ∀ {page : ULONG_PTR} {info : MemoryBreakpointPage},
    s.bps.gMemoryBreakpointPages[page]? = some info → info.originalProtect = s.target.ownProtection page
  own : ∀ {page : ULONG_PTR}, page ∉ s.bps.gMemoryBreakpointPages →
    s.target.protection page = s.target.ownProtection page

variable {s s' : Session} {env : Env} {page : ULONG_PTR}

/-- A page that could be protected is set to what it is to be. -/
theorem protectMemoryBreakpointPage_of_true {info : MemoryBreakpointPage} {guarded : Bool}
    (hinfo : s.bps.gMemoryBreakpointPages[page]? = some info)
    (hok : (s.protectMemoryBreakpointPage env page guarded).2 = true) :
    s.protectMemoryBreakpointPage env page guarded =
      ({ s with target.protection := Function.update s.target.protection page
                  (if guarded then info.originalProtect ||| PAGE_GUARD else info.originalProtect) }, true) := by
  unfold protectMemoryBreakpointPage virtualProtectEx at hok ⊢
  rw [hinfo] at hok ⊢
  dsimp only at hok ⊢
  split at hok
  · cases hok
  rw [if_neg (by assumption)]
  generalize (if guarded = true then info.originalProtect ||| PAGE_GUARD else info.originalProtect) = value
    at hok ⊢
  split at hok
  · rw [if_pos (by assumption)]
  · cases hok

namespace Restoring

theorem of_tables (h : s.Restoring) (htables : s'.tables = s.tables) : s'.Restoring := by
  have hmode : s'.mode = s.mode := congrArg (fun t => t.1) htables
  have hpages : s'.bps.gMemoryBreakpointPages = s.bps.gMemoryBreakpointPages :=
    congrArg (fun t => t.2.2.pages) htables
  have hprotection : s'.target.protection = s.target.protection :=
    congrArg (fun t => t.2.2.protection) htables
  have hown : s'.target.ownProtection = s.target.ownProtection :=
    congrArg (fun t => t.2.2.ownProtection) htables
  constructor
  · exact hmode.trans h.live
  · rw [hpages, hown]
    exact h.saved
  · rw [hpages, hprotection, hown]
    exact h.own

/-- Protecting a page concerns it only while it is watched. -/
theorem protect (h : s.Restoring) (env : Env) (page : ULONG_PTR) (guarded : Bool) :
    (s.protectMemoryBreakpointPage env page guarded).1.Restoring := by
  by_cases hmem : page ∈ s.bps.gMemoryBreakpointPages
  · obtain ⟨protection, e, heq, hother⟩ := protectMemoryBreakpointPage_outcome env page guarded s
    rw [heq]
    refine ⟨h.live, h.saved, fun {p} hp => ?_⟩
    have hne : p ≠ page := by
      rintro rfl
      exact hp hmem
    exact (hother p hne).trans (h.own hp)
  · have hnone : s.bps.gMemoryBreakpointPages[page]? = none := Std.ExtTreeMap.getElem?_eq_none hmem
    unfold protectMemoryBreakpointPage
    rw [hnone]
    exact h

theorem entered (h : s.Restoring) {info : MemoryBreakpointPage}
    (hinfo : info.originalProtect = s.target.ownProtection page) :
    Restoring { s with
      bps.gMemoryBreakpointPages := s.bps.gMemoryBreakpointPages.insert page info } := by
  refine ⟨h.live, fun {p info'} hinfo' => ?_, fun {p} hp => ?_⟩
  · by_cases he : p = page
    · subst he
      dsimp only at hinfo'
      rw [Std.ExtTreeMap.getElem?_insert_self] at hinfo'
      cases hinfo'
      exact hinfo
    · exact h.saved ((getElem?_insert_of_ne he).symm.trans hinfo')
  · exact h.own fun hmem => hp (Std.ExtTreeMap.mem_insert.mpr (.inr hmem))

theorem joinPage (h : s.Restoring) (env : Env) (id : ULONG64) (page : ULONG_PTR) :
    (s.joinPage env id page).1.Restoring := by
  unfold Session.joinPage
  split
  · rename_i info hinfo
    have hsaved := h.saved hinfo
    exact h.entered hsaved
  · rename_i hnone
    split
    · exact h.of_tables rfl
    · have hfree : page ∉ s.bps.gMemoryBreakpointPages := by
        rw [Std.ExtTreeMap.mem_iff_isSome_getElem?, hnone]
        decide
      dsimp only
      exact (h.entered (h.own hfree)).protect env page true

theorem joinPages (h : s.Restoring) (env : Env) (id : ULONG64) (list : List ULONG_PTR) :
    (joinPages env id list s).1.Restoring := by
  induction list generalizing s with
  | nil => exact h
  | cons page list ih =>
    have hjoin := h.joinPage env id page
    simp only [Session.joinPages]
    split <;> rename_i heq <;> rw [heq] at hjoin
    · exact ih hjoin
    · exact hjoin

/-- The last breakpoint of a page gives it its own protection back. -/
theorem leavePage_of_true (h : s.Restoring) {id : ULONG64} {page : ULONG_PTR}
    (hok : (s.leavePage env id page).2 = true) : (s.leavePage env id page).1.Restoring := by
  unfold Session.leavePage at hok ⊢
  split at hok
  · exact h
  rename_i info hinfo
  have hsaved := h.saved hinfo
  have hleft := h.entered
    (show { info with breakpointIds := info.breakpointIds.erase id }.originalProtect = _ from hsaved)
  dsimp only at hok ⊢
  split at hok
  · rw [if_pos (by assumption)]
    have hpage := protectMemoryBreakpointPage_of_true (s := { s with
        bps.gMemoryBreakpointPages := s.bps.gMemoryBreakpointPages.insert page
          { info with breakpointIds := info.breakpointIds.erase id } })
      Std.ExtTreeMap.getElem?_insert_self hok
    rw [hpage]
    refine ⟨h.live, fun {p info'} hinfo' => ?_, fun {p} hp => ?_⟩
    · exact hleft.saved (getElem?_of_erase hinfo')
    · show Function.update s.target.protection page info.originalProtect p = s.target.ownProtection p
      by_cases he : p = page
      · rw [he, Function.update_self]
        exact h.saved hinfo
      · rw [Function.update_of_ne he]
        exact hleft.own fun hmem => hp (mem_erase_iff.mpr ⟨he, hmem⟩)
  · rw [if_neg (by assumption)]
    exact hleft

theorem leavePages_of_true (h : s.Restoring) {id : ULONG64} {list : List ULONG_PTR}
    (hok : (leavePages env id list s).2 = true) : (leavePages env id list s).1.Restoring := by
  induction list generalizing s with
  | nil => exact h
  | cons page list ih =>
    obtain ⟨hpage, hrest⟩ := Bool.and_eq_true_iff.mp hok
    exact ih (h.leavePage_of_true hpage) hrest

theorem removed_of_true (h : s.Restoring) {id : ULONG64}
    (hok : (s.removeMemoryBreakpointById env id).2 = true) :
    (s.removeMemoryBreakpointById env id).1.Restoring := by
  unfold removeMemoryBreakpointById at hok ⊢
  split at hok
  · exact h
  · rw [if_neg (by rw [h.live.kind]; decide)] at hok ⊢
    have hleft := h.leavePages_of_true hok
    exact ⟨hleft.live, hleft.saved, hleft.own⟩

/-- When every memory breakpoint could be removed, each page has its own protection or is
watched still. -/
theorem removedAll_of_true (h : s.Restoring) {rounds : ℕ}
    (hok : (removeMemoryBreakpoints env rounds s).2 = true) :
    (removeMemoryBreakpoints env rounds s).1.Restoring := by
  induction rounds generalizing s with
  | zero => exact h
  | succ rounds ih =>
    unfold removeMemoryBreakpoints at hok ⊢
    split at hok
    · exact h
    · obtain ⟨hfirst, hrest⟩ := Bool.and_eq_true_iff.mp hok
      exact ih (h.removed_of_true hfirst) hrest

theorem leavePage (h : s.Restoring) (henv : ∀ page value, env.virtualProtectEx page value = true)
    (hprocess : s.activeProcessHandle env ≠ 0) (id : ULONG64) (page : ULONG_PTR) :
    (s.leavePage env id page).1.Restoring := by
  refine h.leavePage_of_true ?_
  unfold Session.leavePage
  split
  · rfl
  rename_i info _
  dsimp only
  split
  · have hpage := protectMemoryBreakpointPage_eq (s := { s with
        bps.gMemoryBreakpointPages := s.bps.gMemoryBreakpointPages.insert page
          { info with breakpointIds := info.breakpointIds.erase id } })
      henv hprocess Std.ExtTreeMap.getElem?_insert_self false
    rw [hpage]
  · rfl

theorem leavePages (h : s.Restoring) (henv : ∀ page value, env.virtualProtectEx page value = true)
    (hprocess : s.activeProcessHandle env ≠ 0) (id : ULONG64) (list : List ULONG_PTR) :
    (leavePages env id list s).1.Restoring := by
  induction list generalizing s with
  | nil => exact h
  | cons page list ih =>
    refine ih (h.leavePage henv hprocess id page) ?_
    rw [activeProcessHandle_of_roll env (roll_of_core (core_leavePage env id page s))]
    exact hprocess

theorem removed (h : s.Restoring) (henv : ∀ page value, env.virtualProtectEx page value = true)
    (hprocess : s.activeProcessHandle env ≠ 0) (id : ULONG64) :
    (s.removeMemoryBreakpointById env id).1.Restoring := by
  unfold removeMemoryBreakpointById
  split
  · exact h
  · rename_i breakpoint _
    rw [if_neg (by rw [h.live.kind]; decide)]
    have hleft := h.leavePages henv hprocess id (s.pagesOf breakpoint.start breakpoint.size)
    exact ⟨hleft.live, hleft.saved, hleft.own⟩

theorem removedAll (h : s.Restoring) (henv : ∀ page value, env.virtualProtectEx page value = true)
    (hprocess : s.activeProcessHandle env ≠ 0) (rounds : ℕ) :
    (removeMemoryBreakpoints env rounds s).1.Restoring := by
  induction rounds generalizing s with
  | zero => exact h
  | succ rounds ih =>
    unfold removeMemoryBreakpoints
    split
    · exact h
    · refine ih (h.removed henv hprocess _) ?_
      rw [activeProcessHandle_of_roll env (roll_of_core (core_removeMemoryBreakpointById env _ s))]
      exact hprocess

theorem removedAllBreakPoints (h : s.Restoring)
    (henv : ∀ page value, env.virtualProtectEx page value = true)
    (hprocess : s.activeProcessHandle env ≠ 0) : (s.removeAllBreakPoints env).1.Restoring := by
  have hall : (s.removeAllMemoryBreakpoints env).1.Restoring := h.removedAll henv hprocess _
  unfold removeAllBreakPoints
  split
  · rw [if_neg (by rw [h.live.debugging]; decide)]
    exact h
  split <;> rename_i s₁ heq <;> rw [heq] at hall
  · exact hall
  · have heach := hall.of_tables
      (tables_of_guards (guards_of_outline (outline_removeEach env s₁.bps.gBreakpoints.toList s₁)))
    split <;> rename_i heq' <;> rw [heq'] at heach
    · exact heach
    · exact heach.of_tables rfl

theorem set (h : s.Restoring) (henv : ∀ page value, env.virtualProtectEx page value = true)
    (start size : ULONG_PTR) (type : ℕ) (restoreOnHit : Bool) (callback : Option Callback) :
    (s.setMemoryBPXEx env start size type restoreOnHit callback).1.Restoring := by
  obtain ⟨e, heq⟩ | ⟨-, hprocess, -, info, -, -, -, s₁, s', touched, ok, hs₁, hjoin, heq⟩ :=
    setMemoryBPXEx_outcome env start size type restoreOnHit callback h.live.kind
  · rw [heq]
    exact ⟨h.live, h.saved, h.own⟩
  have h₁ : s₁.Restoring := by
    rw [hs₁]
    exact ⟨h.live, h.saved, h.own⟩
  have hjoined := h₁.joinPages env info.id (s₁.pagesOf start size)
  have hroll := roll_of_core (core_joinPages env info.id (s₁.pagesOf start size) s₁)
  rw [hjoin] at hjoined hroll
  rw [heq]
  cases ok with
  | true => exact hjoined
  | false =>
    have hprocess' : s'.activeProcessHandle env ≠ 0 := by
      rw [activeProcessHandle_of_roll env hroll, hs₁]
      exact hprocess
    have hleft := hjoined.leavePages henv hprocess' info.id touched
    rw [if_neg (by decide)]
    exact ⟨hleft.live, hleft.saved, hleft.own⟩

theorem exposed (h : s.Restoring) (env : Env) (list : List ULONG_PTR) :
    (exposePages env list s).1.Restoring := by
  induction list generalizing s with
  | nil => exact h
  | cons page list ih =>
    simp only [exposePages]
    split
    · exact ih (h.protect env page false)
    · exact ih h

theorem guarded (h : s.Restoring) (env : Env) (list : List ULONG_PTR) :
    (guardPages env list s).Restoring := by
  induction list generalizing s with
  | nil => exact h
  | cons page list ih => exact ih (h.protect env page true)

theorem readUnsafe (h : s.Restoring) (env : Env) (process : HANDLE) (address : ULONG_PTR) (n : ℕ) :
    (s.memoryReadUnsafe env process address n).1.Restoring := by
  unfold memoryReadUnsafe
  dsimp only
  repeat' split
  all_goals first | exact h | exact (h.exposed env _).guarded env _ | exact h.of_tables rfl

theorem readSafe (h : s.Restoring) (env : Env) (process : HANDLE) (address : ULONG_PTR) (n : ℕ) :
    (s.memoryReadSafe env process address n).1.Restoring := by
  have hread := h.readUnsafe env process address n
  unfold memoryReadSafe
  split <;> rename_i heq <;> rw [heq] at hread
  · exact hread
  · split <;> exact hread

/-- The client may give a watched page the protection that the page remembers. -/
theorem protectSafe (h : s.Restoring) (env : Env) (address size : ULONG_PTR) (protection : DWORD)
    (hsaved : ∀ page ∈ s.pagesOf address size, ∀ info : MemoryBreakpointPage,
      s.bps.gMemoryBreakpointPages[page]? = some info → info.originalProtect = protection) :
    (s.memoryProtectSafe env address size protection).1.Restoring := by
  unfold memoryProtectSafe
  split
  · exact h.of_tables rfl
  split
  · refine ⟨h.live, fun {page info} hinfo => ?_, fun {page} hfree => ?_⟩
    · show info.originalProtect =
        if page ∈ s.pagesOf address size then protection else s.target.ownProtection page
      split
      · rename_i hmem
        exact hsaved page hmem info hinfo
      · exact h.saved hinfo
    · show (if page ∈ s.pagesOf address size then protection else s.target.protection page) =
        if page ∈ s.pagesOf address size then protection else s.target.ownProtection page
      rw [h.own hfree]
  · exact h.of_tables rfl

end Restoring

end Session

/-- The system serves every request, and only the client and the adapter change protections. -/
def servedRules : Rules where
  call env _ _ := (∀ page value, env.virtualProtectEx page value = true) ∧
    ∀ page, env.virtualQueryEx page = true
  work env _ _ := (∀ page value, env.virtualProtectEx page value = true) ∧
    ∀ page, env.virtualQueryEx page = true
  target s t := t.protection = s.target.protection ∧ t.ownProtection = s.target.ownProtection

/-- The client gives no watched page another protection, the process of every other call and
event is known, and no breakpoint takes an id that another one has. -/
def protectionRules : Rules where
  call env call s := freshIdRules.call env call s ∧
    (∀ page value, env.virtualProtectEx page value = true) ∧
    (call.watches = true → s.activeProcessHandle env ≠ 0) ∧
    ∀ address size protection, call = .memoryProtectSafe address size protection →
      ∀ page ∈ s.pagesOf address size, ∀ info : MemoryBreakpointPage,
        s.bps.gMemoryBreakpointPages[page]? = some info → info.originalProtect = protection
  work env work s := (∀ page value, env.virtualProtectEx page value = true) ∧
    (work.enters = false → s.activeProcessHandle env ≠ 0)
  target s t := t.protection = s.target.protection ∧ t.ownProtection = s.target.ownProtection

theorem protectionRules_queueBlind : protectionRules.QueueBlind := fun _ _ _ _ h => h

theorem Session.Restoring.call {env : Env} {call : ApiCall} {s : Session} (h : s.Restoring)
    (hallowed : protectionRules.call env call s) (hwatches : call.watches = true) :
    (call.run env s).1.Restoring := by
  obtain ⟨-, henv, hprocess, hsaved⟩ := hallowed
  cases call with
  | setMemoryBPXEx start size type restoreOnHit callback =>
    exact h.set henv start size type restoreOnHit callback
  | removeMemoryBPX start size =>
    show (s.removeMemoryBPX env start size).1.Restoring
    unfold Session.removeMemoryBPX
    split
    · exact h.of_tables rfl
    split
    · exact h.of_tables rfl
    split
    · exact h.removed henv (hprocess rfl) _
    · exact h.of_tables rfl
  | removeAllBreakPoints => exact h.removedAllBreakPoints henv (hprocess rfl)
  | memoryReadUnsafe process address n => exact h.readUnsafe env process address n
  | memoryReadSafe process address n => exact h.readSafe env process address n
  | memoryProtectSafe address size protection =>
    exact h.protectSafe env address size protection (hsaved address size protection rfl)
  | _ => cases hwatches

theorem closed_restoring : TableClosed protectionRules fun s s' => s.Restoring → s'.Restoring where
  trans hab hbc h := hbc (hab h)
  same htables h := h.of_tables htables
  call allowed hwatches h := h.call allowed hwatches
  lose {env work s s'} id allowed henters hs h := by
    refine h.removed allowed.1 ?_ id
    unfold Session.activeProcessHandle
    rw [hs]
    exact allowed.2 henters
  protect page guarded _ _ _ h := h.protect _ page guarded
  target {s target} allowed h := by
    obtain ⟨hprotection, hown⟩ := allowed
    refine ⟨h.live, fun {page info} hinfo => ?_, fun {page} hfree => ?_⟩
    · exact (h.saved hinfo).trans (congrFun hown page).symm
    · exact (congrFun hprotection page).trans ((h.own hfree).trans (congrFun hown page).symm)

theorem closed_indexed_protection : TableClosed protectionRules fun s s' => s.Indexed → s'.Indexed :=
  closed_indexed.mono (fun allowed => allowed.1) (fun _ => trivial) (fun _ => trivial)

/-- A hit of a watched page takes the guard off that page only. -/
theorem Session.Restoring.hit {s : Session} (h : s.Restoring) (env : Env) (events : List (Env × Work))
    {page : ULONG_PTR} (hpage : page ∈ watchedPages s) : ((s.delivered page).stop env events).Restoring := by
  refine of_tables (s := s.delivered page) ⟨h.live, h.saved, fun {p} hfree => ?_⟩ (tables_stop ..)
  have hne : p ≠ page := by
    rintro rfl
    exact hfree hpage
  show Function.update s.target.protection page _ p = s.target.ownProtection p
  rw [Function.update_of_ne hne]
  exact h.own hfree

/-- A page that no memory breakpoint touches has the protection that the client gave it last, or
had at first, in every run in which the client gives no watched page another protection, the
process of each call and event is known, and no breakpoint takes an id that another one has. -/
theorem protections_restored {s s' : Session} (hlive : s.Live)
    (hsize : ∃ k < 64, s.targetPageSize = BitVec.twoPow 64 k) (hmap : s.bps.gMemoryBreakpoints = ∅)
    (hpages : s.bps.gMemoryBreakpointPages = ∅) (hown : s.target.protection = s.target.ownProtection)
    (hrun : WatchRun protectionRules watchedPages s s') {page : ULONG_PTR}
    (huncovered : ∀ id, ¬ s'.Covers id page) : s'.target.protection page = s'.target.ownProtection page := by
  have hindexed : s.Indexed := .of_empty hlive.kind hsize hmap hpages
  have hrestoring : s.Restoring := by
    refine ⟨hlive, fun {p info} hinfo => ?_, fun {p} _ => congrFun hown p⟩
    rw [hpages] at hinfo
    exact absurd (mem_of_getElem? hinfo) Std.ExtTreeMap.not_mem_empty
  have hkeeps : Runs.Preserves (WatchStep protectionRules watchedPages) fun s => s.Indexed ∧ s.Restoring := by
    rintro a b hstep ⟨hi, hr⟩
    cases hstep with
    | session step =>
      exact ⟨closed_indexed_protection.step protectionRules_queueBlind step hi,
        closed_restoring.step protectionRules_queueBlind step hr⟩
    | hit running code access guarded allowed =>
      refine ⟨hi.of_catalogue ?_, hr.hit _ _ allowed⟩
      exact (Session.catalogue_of_tables (Session.tables_stop ..)).trans rfl
  obtain ⟨hi', hr'⟩ := hkeeps.run hrun ⟨hindexed, hrestoring⟩
  refine hr'.own fun hmem => ?_
  obtain ⟨info, hinfo⟩ := Option.isSome_iff_exists.mp (Std.ExtTreeMap.mem_iff_isSome_getElem?.mp hmem)
  obtain ⟨id, hid⟩ := hi'.filled page info hinfo
  exact huncovered id ((hi'.index id page).mp ⟨info, hinfo, hid⟩)

/-- The breakpoint of the first session has been removed again. -/
def removedSession : Session := (ApiCall.run {} (.removeMemoryBPX 0x10000 1) firstIdSession).1

theorem uncovered_of_isEmpty {s : Session} (h : s.bps.gMemoryBreakpoints.isEmpty = true) (id : ULONG64)
    (page : ULONG_PTR) : ¬ s.Covers id page := by
  rintro ⟨info, hinfo, -⟩
  rw [Std.ExtTreeMap.isEmpty_iff.mp h] at hinfo
  exact Std.ExtTreeMap.not_mem_empty (mem_of_getElem? hinfo)

theorem protections_restored_removed :
    removedSession.target.protection 0x10000 = removedSession.target.ownProtection 0x10000 := by
  have hset : CallStep protectionRules twoThreadSession firstIdSession := by
    refine .call ⟨fun _ _ _ _ _ _ => Std.ExtTreeMap.not_mem_empty, fun _ _ => rfl, fun _ => by decide, ?_⟩
    intro _ _ _ h
    cases h
  have hallowed : protectionRules.call {} (.removeMemoryBPX 0x10000 1) firstIdSession := by
    refine ⟨?_, fun _ _ => rfl, fun _ => by decide, ?_⟩
    · intro _ _ _ _ _ h
      cases h
    · intro _ _ _ h
      cases h
  have hremove : CallStep protectionRules firstIdSession removedSession := .call hallowed
  have hlive : twoThreadSession.Live := rfl
  have hrun : WatchRun protectionRules watchedPages twoThreadSession removedSession :=
    .tail (.single (.session (.call hset))) (.session (.call hremove))
  exact protections_restored hlive ⟨12, by decide, by decide⟩ rfl rfl rfl hrun
    fun id => uncovered_of_isEmpty (by decide) id 0x10000

/-- The client has made the watched page executable, and removed the breakpoint then. -/
def reprotectedSession : Session :=
  (ApiCall.run {} (.memoryProtectSafe 0x10000 1 0x20) firstIdSession).1

def staleSession : Session := (ApiCall.run {} (.removeMemoryBPX 0x10000 1) reprotectedSession).1

/-- Removing the breakpoint undoes what the client has set in the meantime. -/
theorem protections_not_restored :
    ¬ ∀ s s' : Session, s.Live → s.bps.gMemoryBreakpoints = ∅ → s.bps.gMemoryBreakpointPages = ∅ →
      s.target.protection = s.target.ownProtection → WatchRun servedRules watchedPages s s' →
        ∀ page, (∀ id, ¬ s'.Covers id page) →
          s'.target.protection page = s'.target.ownProtection page := by
  intro hclaim
  have hserved : (∀ page value, ({} : Env).virtualProtectEx page value = true) ∧
      ∀ page, ({} : Env).virtualQueryEx page = true := ⟨fun _ _ => rfl, fun _ => rfl⟩
  have hset : CallStep servedRules twoThreadSession firstIdSession := .call hserved
  have hprotect : CallStep servedRules firstIdSession reprotectedSession := .call hserved
  have hremove : CallStep servedRules reprotectedSession staleSession := .call hserved
  have hrun : WatchRun servedRules watchedPages twoThreadSession staleSession :=
    .tail (.tail (.single (.session (.call hset))) (.session (.call hprotect))) (.session (.call hremove))
  have hlive : twoThreadSession.Live := rfl
  have hrestored := hclaim _ _ hlive rfl rfl rfl hrun 0x10000
    fun id => uncovered_of_isEmpty (by decide) id 0x10000
  exact absurd hrestored (by decide)

end TitanEngine

import TitanEngine.Guards.Rearm

/-! Which protections a debugger read leaves behind. -/
namespace TitanEngine
open MapSums

namespace Session
variable {env : Env} {s : Session} {page : ULONG_PTR} {info : MemoryBreakpointPage} {list : List ULONG_PTR}

/-- The session with other protections, and nothing else changed. -/
def reprotect (protection : ULONG_PTR → DWORD) (s : Session) : Session :=
  { s with target.protection := protection }

@[simp] theorem protection_reprotect (protection : ULONG_PTR → DWORD) (s : Session) :
    (s.reprotect protection).target.protection = protection := rfl

@[simp] theorem bps_reprotect (protection : ULONG_PTR → DWORD) (s : Session) :
    (s.reprotect protection).bps = s.bps := rfl

theorem process_reprotect (hprocess : s.activeProcessHandle env ≠ 0) (protection : ULONG_PTR → DWORD) :
    (s.reprotect protection).activeProcessHandle env ≠ 0 := hprocess

@[simp] theorem reprotect_reprotect (protection protection' : ULONG_PTR → DWORD) (s : Session) :
    (s.reprotect protection).reprotect protection' = s.reprotect protection' := rfl

@[simp] theorem reprotect_self (s : Session) : s.reprotect s.target.protection = s := rfl

/-- What a watched page carries while it is guarded, or exposed. -/
def pageProtection (guarded : Bool) (info : MemoryBreakpointPage) : DWORD :=
  if guarded then info.originalProtect ||| PAGE_GUARD else info.originalProtect

/-- The protections once the watched pages of `list` are guarded, or exposed. -/
def protectedAs (guarded : Bool) (list : List ULONG_PTR) (s : Session) (page : ULONG_PTR) : DWORD :=
  match s.bps.gMemoryBreakpointPages[page]? with
  | some info => if page ∈ list then pageProtection guarded info else s.target.protection page
  | none => s.target.protection page

theorem protect_of_watched (henv : ∀ page value, env.virtualProtectEx page value = true)
    (hprocess : s.activeProcessHandle env ≠ 0) (hinfo : s.bps.gMemoryBreakpointPages[page]? = some info)
    (guarded : Bool) : s.protectMemoryBreakpointPage env page guarded =
      (s.reprotect (Function.update s.target.protection page (pageProtection guarded info)), true) := by
  unfold protectMemoryBreakpointPage virtualProtectEx
  rw [hinfo]
  dsimp only
  rw [if_neg hprocess, if_pos (henv _ _)]
  rfl

theorem protect_of_unwatched (hnone : s.bps.gMemoryBreakpointPages[page]? = none) (guarded : Bool) :
    s.protectMemoryBreakpointPage env page guarded = (s, false) := by
  unfold protectMemoryBreakpointPage
  rw [hnone]

theorem protectedAs_nil (guarded : Bool) (s : Session) : s.protectedAs guarded [] = s.target.protection := by
  funext other
  unfold protectedAs
  split <;> simp

theorem protectedAs_cons_watched (hinfo : s.bps.gMemoryBreakpointPages[page]? = some info) (guarded : Bool)
    (list : List ULONG_PTR) :
    (s.reprotect (Function.update s.target.protection page (pageProtection guarded info))).protectedAs
      guarded list = s.protectedAs guarded (page :: list) := by
  funext other
  unfold protectedAs
  by_cases he : other = page
  · subst he
    simp [hinfo]
  · simp [he]

theorem protectedAs_cons_unwatched (hnone : s.bps.gMemoryBreakpointPages[page]? = none) (guarded : Bool)
    (list : List ULONG_PTR) : s.protectedAs guarded list = s.protectedAs guarded (page :: list) := by
  funext other
  unfold protectedAs
  by_cases he : other = page
  · subst he
    rw [hnone]
  · simp [he]

theorem guardPages_result (henv : ∀ page value, env.virtualProtectEx page value = true)
    (hprocess : s.activeProcessHandle env ≠ 0) (list : List ULONG_PTR) :
    guardPages env list s = s.reprotect (s.protectedAs true list) := by
  induction list generalizing s with
  | nil =>
    rw [protectedAs_nil]
    rfl
  | cons page list ih =>
    show guardPages env list (s.protectMemoryBreakpointPage env page true).1 = _
    cases hinfo : s.bps.gMemoryBreakpointPages[page]? with
    | none => rw [protect_of_unwatched hinfo, ih hprocess, protectedAs_cons_unwatched hinfo]
    | some info =>
      rw [protect_of_watched henv hprocess hinfo]
      dsimp only
      rw [ih (process_reprotect hprocess _), protectedAs_cons_watched hinfo, reprotect_reprotect]

/-- Exposing pages opens the watched ones, and reports just these. -/
theorem exposePages_result (henv : ∀ page value, env.virtualProtectEx page value = true)
    (hprocess : s.activeProcessHandle env ≠ 0) (list : List ULONG_PTR) :
    exposePages env list s = (s.reprotect (s.protectedAs false list),
      list.filter fun page => s.bps.gMemoryBreakpointPages.contains page) := by
  induction list generalizing s with
  | nil =>
    rw [protectedAs_nil]
    rfl
  | cons page list ih =>
    unfold exposePages
    cases hinfo : s.bps.gMemoryBreakpointPages[page]? with
    | none =>
      have hout : ¬ s.bps.gMemoryBreakpointPages.contains page = true := by
        rw [Std.ExtTreeMap.contains_eq_isSome_getElem?, hinfo]
        exact Bool.false_ne_true
      rw [if_neg hout, ih hprocess, List.filter_cons_of_neg hout, protectedAs_cons_unwatched hinfo]
    | some info =>
      have hin : s.bps.gMemoryBreakpointPages.contains page = true := by
        rw [Std.ExtTreeMap.contains_eq_isSome_getElem?, hinfo]
        rfl
      rw [if_pos hin, protect_of_watched henv hprocess hinfo, List.filter_cons_of_pos hin]
      dsimp only
      rw [ih (process_reprotect hprocess _), protectedAs_cons_watched hinfo]
      rfl

/-- After the read every watched page of the range is guarded, however it was before. -/
theorem guardPages_exposePages (henv : ∀ page value, env.virtualProtectEx page value = true)
    (hprocess : s.activeProcessHandle env ≠ 0) (list : List ULONG_PTR) :
    guardPages env (exposePages env list s).2 (exposePages env list s).1 =
      s.reprotect (s.protectedAs true list) := by
  rw [exposePages_result henv hprocess]
  dsimp only
  rw [guardPages_result henv (process_reprotect hprocess _), reprotect_reprotect]
  congr 1
  funext page
  unfold protectedAs
  rw [bps_reprotect]
  cases hinfo : s.bps.gMemoryBreakpointPages[page]? with
  | none => simp [hinfo]
  | some info =>
    have hin : s.bps.gMemoryBreakpointPages.contains page = true := by
      rw [Std.ExtTreeMap.contains_eq_isSome_getElem?, hinfo]
      rfl
    by_cases hmem : page ∈ list
    · have hfiltered : page ∈ list.filter fun page => s.bps.gMemoryBreakpointPages.contains page :=
        List.mem_filter.2 ⟨hmem, hin⟩
      simp [hmem, hfiltered]
    · have hfiltered : page ∉ list.filter fun page => s.bps.gMemoryBreakpointPages.contains page :=
        fun h => hmem (List.mem_filter.1 h).1
      simp [hmem, hfiltered, hinfo]

/-- The read goes to the target itself, and gets hold of its process. -/
structure OpensTarget (env : Env) (hProcess : HANDLE) (lpBaseAddress : ULONG_PTR) (nSize : ℕ) (s : Session) :
    Prop where
  synthetic : ∀ text, s.gSyntheticDebugString = some text →
    ¬ (text.1 ≤ lpBaseAddress ∧ lpBaseAddress.toNat + nSize ≤ text.1.toNat + text.2.length)
  handle : hProcess ≠ 0
  address : 0x10000 ≤ lpBaseAddress
  paused : s.pauseLock = true
  kind : s.gSessionKind ≠ .ttd ∧ s.gSessionKind ≠ .minidump
  current : ∃ processIndex, s.gDebugIdMap.processHandleToIndex[hProcess]? = some processIndex ∧
    env.currentProcessId = some processIndex
  process : s.activeProcessHandle env ≠ 0
  range : nSize ≠ 0 ∧ lpBaseAddress.toNat + nSize < 2 ^ 64

variable {hProcess : HANDLE} {lpBaseAddress : ULONG_PTR} {nSize : ℕ}

theorem memoryReadUnsafe_of_opens (henv : ∀ page value, env.virtualProtectEx page value = true)
    (h : s.OpensTarget env hProcess lpBaseAddress nSize) :
    (s.memoryReadUnsafe env hProcess lpBaseAddress nSize).1 =
      s.reprotect (s.protectedAs true (s.pagesOf lpBaseAddress (BitVec.ofNat 64 nSize))) := by
  have hsynthetic : (s.gSyntheticDebugString.bind fun text =>
      if text.1 ≤ lpBaseAddress ∧ lpBaseAddress.toNat + nSize ≤ text.1.toNat + text.2.length then
        some ((text.2.drop (lpBaseAddress - text.1).toNat).take nSize)
      else none) = none := by
    rw [Option.bind_eq_none_iff]
    intro text htext
    exact if_neg (h.synthetic text htext)
  have hstart : ¬ (hProcess = 0 ∨ lpBaseAddress < 0x10000 ∨ ¬ s.pauseLock = true) := by
    rintro (hhandle | haddress | hpaused)
    · exact h.handle hhandle
    · exact absurd h.address (BitVec.not_le.2 haddress)
    · exact hpaused h.paused
  obtain ⟨processIndex, hindex, hcurrent⟩ := h.current
  unfold memoryReadUnsafe
  simp only [hsynthetic, if_neg hstart, if_neg h.kind.1, hindex, hcurrent, ne_eq, not_true_eq_false,
    if_false, if_neg h.kind.2, if_pos h.range]
  exact guardPages_exposePages henv h.process _

/-- Otherwise the read touches no page of the target. -/
theorem protection_of_not_opens (h : ¬ s.OpensTarget env hProcess lpBaseAddress nSize) :
    (s.memoryReadUnsafe env hProcess lpBaseAddress nSize).1.target.protection = s.target.protection := by
  unfold memoryReadUnsafe
  dsimp only
  split
  · rfl
  rename_i hsynthetic
  split
  · rfl
  rename_i hstart
  split
  · split
    · rfl
    · split
      · rfl
      · split <;> rfl
  rename_i httd
  split
  · rfl
  rename_i processIndex hindex
  split
  · rfl
  rename_i currentIndex hcurrent
  split
  · rfl
  rename_i hsame
  split
  · split
    · rfl
    · split <;> rfl
  rename_i hminidump
  by_cases hprocess : s.activeProcessHandle env = 0
  · rw [exposePages_of_no_process hprocess]
    rfl
  by_cases hrange : nSize ≠ 0 ∧ lpBaseAddress.toNat + nSize < 2 ^ 64
  · push Not at hstart hsame
    refine absurd ⟨?_, hstart.1, BitVec.not_lt.1 (by simpa using hstart.2.1), hstart.2.2,
      ⟨httd, hminidump⟩, ⟨processIndex, hindex, by rw [hcurrent, hsame]⟩, hprocess, hrange⟩ h
    intro text htext hin
    rw [htext, Option.bind_some, if_pos hin] at hsynthetic
    cases hsynthetic
  · rw [if_neg hrange]
    rfl

theorem memoryReadSafe_fst : (s.memoryReadSafe env hProcess lpBaseAddress nSize).1 =
    (s.memoryReadUnsafe env hProcess lpBaseAddress nSize).1 := by
  unfold memoryReadSafe
  split <;> rename_i heq
  · rw [heq]
  · split <;> rw [heq]

/-- Neither way of reading changes the protection of a page. -/
structure UndisturbedBy (env : Env) (hProcess : HANDLE) (lpBaseAddress : ULONG_PTR) (nSize : ℕ)
    (s : Session) : Prop where
  raw : (s.memoryReadUnsafe env hProcess lpBaseAddress nSize).1.target.protection = s.target.protection
  repaired : (s.memoryReadSafe env hProcess lpBaseAddress nSize).1.target.protection = s.target.protection

/-- A read leaves the guards as they are exactly where no watched page of its range is exposed. -/
theorem read_undisturbing_iff (henv : ∀ page value, env.virtualProtectEx page value = true) :
    s.UndisturbedBy env hProcess lpBaseAddress nSize ↔
      (s.OpensTarget env hProcess lpBaseAddress nSize →
        ∀ page ∈ s.pagesOf lpBaseAddress (BitVec.ofNat 64 nSize), ∀ info,
          s.bps.gMemoryBreakpointPages[page]? = some info →
            s.target.protection page = info.originalProtect ||| PAGE_GUARD) := by
  have hboth : s.UndisturbedBy env hProcess lpBaseAddress nSize ↔
      (s.memoryReadUnsafe env hProcess lpBaseAddress nSize).1.target.protection = s.target.protection := by
    constructor
    · exact fun h => h.raw
    · intro hraw
      exact ⟨hraw, by rw [memoryReadSafe_fst, hraw]⟩
  rw [hboth]
  by_cases hopens : s.OpensTarget env hProcess lpBaseAddress nSize
  · rw [memoryReadUnsafe_of_opens henv hopens, protection_reprotect]
    constructor
    · intro hsame _ page hmem info hinfo
      have hpage := congrFun hsame page
      unfold protectedAs at hpage
      rw [hinfo] at hpage
      dsimp only at hpage
      rw [if_pos hmem] at hpage
      exact hpage.symm
    · intro hguarded
      funext page
      unfold protectedAs
      split
      · rename_i info hinfo
        split
        · rename_i hmem
          exact (hguarded hopens page hmem info hinfo).symm
        · rfl
      · rfl
  · rw [protection_of_not_opens hopens]
    exact ⟨fun _ hin => absurd hin hopens, fun _ => rfl⟩

end Session

theorem read_undisturbing_guarded : watchedSession.UndisturbedBy {} 0x100 0x401000 4 := by
  have hpages : watchedSession.pagesOf 0x401000 (BitVec.ofNat 64 4) = [0x401000] := by decide
  have hprotection : watchedSession.target.protection 0x401000 = 2 ||| PAGE_GUARD := by decide
  refine (Session.read_undisturbing_iff (fun _ _ => rfl)).2 fun _ page hmem info hinfo => ?_
  rw [hpages, List.mem_singleton] at hmem
  subst hmem
  have horiginal : (watchedSession.bps.gMemoryBreakpointPages[(0x401000 : ULONG_PTR)]?).map
      (·.originalProtect) = some 2 := by decide
  rw [hinfo] at horiginal
  have hvalue : info.originalProtect = 2 := Option.some.inj horiginal
  rw [hvalue]
  exact hprotection

/-- The page that the stepping thread is to get at is guarded again before the target resumes. -/
theorem read_disturbs_exposed :
    ¬ ∀ (env : Env) (s₀ s : Session) (hProcess : HANDLE) (lpBaseAddress : ULONG_PTR) (nSize : ℕ),
      s₀.Live → s₀.bps.gMemoryBreakpointPages = ∅ → Run anyRules s₀ s → s.gPaused = true →
        (∀ page value, env.virtualProtectEx page value = true) →
          s.UndisturbedBy env hProcess lpBaseAddress nSize := by
  intro hclaim
  have hset : CallStep anyRules readOnlySession watchedSession :=
    show CallStep anyRules readOnlySession
      (ApiCall.run {} (.setMemoryBPXEx 0x401000 1 5 true (some 1)) readOnlySession).1 from .call trivial
  have hhit : Run anyRules watchedSession exposedSession :=
    run_afterEvent (idle_follows anyRules) (by decide) (List.isEmpty_iff.mp (by decide)) trivial
      (by decide)
  have hraw := (hclaim {} readOnlySession exposedSession 0x100 0x401000 4
    (show readOnlySession.Live from rfl) rfl (.head (.call hset) hhit) (by decide) (fun _ _ => rfl)).raw
  exact absurd (congrFun hraw 0x401000) (by decide)

end TitanEngine

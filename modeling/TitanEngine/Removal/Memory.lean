import TitanEngine.Guards.Index
import TitanEngine.Guards.Release
import TitanEngine.Model.Removal
import TitanEngine.Replay.Watchpoints

/-! The loop of `RemoveAllBreakPoints` over the memory breakpoints: what is left of the pages of
a live session, and of the watchpoints of a replay. -/
namespace TitanEngine
open MapSums

namespace Session
variable {env : Env} {s s' : Session} {id : ULONG64} {page : ULONG_PTR} {info : MemoryBreakpointPage}

/-- The loop over the pages of the breakpoint `id` comes to the page. -/
def Visits (id : ULONG64) (page : ULONG_PTR) (s : Session) : Prop :=
  ∃ info, s.bps.gMemoryBreakpoints[id]? = some info ∧ page ∈ s.pagesOf info.start info.size

/-- Every breakpoint of the page is one of a range with the page. -/
def Released (page : ULONG_PTR) (info : MemoryBreakpointPage) (s : Session) : Prop :=
  (∃ id, s.Visits id page) ∧ ∀ id ∈ info.breakpointIds, s.Visits id page

/-- What is left of the pages once all memory breakpoints of a live session are removed. -/
structure Unwatched (env : Env) (s s' : Session) (ok : Bool) : Prop where
  frame : ∃ pages protection e, s' =
    { s with bps.gMemoryBreakpoints := ∅, bps.gMemoryBreakpointPages := pages
             target.protection := protection, lastError := e }
  missing : ∀ page, s.bps.gMemoryBreakpointPages[page]? = none →
    s'.bps.gMemoryBreakpointPages[page]? = none ∧
      s'.target.protection page = s.target.protection page
  released : ∀ page info, s.bps.gMemoryBreakpointPages[page]? = some info →
    (s'.bps.gMemoryBreakpointPages[page]? = none ↔ s.Released page info)
  restored : ∀ page info, s.bps.gMemoryBreakpointPages[page]? = some info → s.Released page info →
    s.Unguards env page info → s'.target.protection page = info.originalProtect
  result : ok = true ↔ ∀ page info, s.bps.gMemoryBreakpointPages[page]? = some info →
    s.Released page info → s.Unguards env page info

theorem unwatched_empty (h : s.bps.gMemoryBreakpoints = ∅) : Unwatched env s s true := by
  have hnot : ∀ page info, ¬ s.Released page info := by
    rintro page info ⟨⟨id, bp, hbp, -⟩, -⟩
    rw [h, Std.ExtTreeMap.getElem?_empty] at hbp
    cases hbp
  constructor
  · exact ⟨_, _, _, by rw [← h]⟩
  · exact fun page hnone => ⟨hnone, rfl⟩
  · intro page info hinfo
    simp [hinfo, hnot page info]
  · exact fun page info _ hreleased => absurd hreleased (hnot page info)
  · simp only [true_iff]
    exact fun page info _ hreleased => absurd hreleased (hnot page info)

/-- Removing one breakpoint and then the others. -/
theorem Unwatched.removed {bp : MemoryBreakpointInfo} {ok : Bool} (hlive : s.gSessionKind = .live)
    (hbp : s.bps.gMemoryBreakpoints[id]? = some bp)
    (h : Unwatched env (s.removeMemoryBreakpointById env id).1 s' ok) :
    Unwatched env s s' ((s.removeMemoryBreakpointById env id).2 && ok) := by
  obtain ⟨hyields, hmissing, hlisted⟩ := leavePages_result env id (s.pagesOf bp.start bp.size) s
  obtain ⟨pages, protection, e, heq, hother, hpages⟩ :=
    leavePages_outcome env id (s.pagesOf bp.start bp.size) s
  have hremove : s.removeMemoryBreakpointById env id =
      ({ s with bps.gMemoryBreakpoints := s.bps.gMemoryBreakpoints.erase id
                bps.gMemoryBreakpointPages := pages, target.protection := protection, lastError := e },
        (leavePages env id (s.pagesOf bp.start bp.size) s).2) := by
    unfold removeMemoryBreakpointById
    rw [hbp]
    dsimp only
    rw [if_neg (by rw [hlive]; decide), heq]
  rw [heq] at hmissing hlisted
  rw [hremove] at h ⊢
  -- the others visit the pages that they visited before
  have hvisits : ∀ id' page, ({ s with
      bps.gMemoryBreakpoints := s.bps.gMemoryBreakpoints.erase id
      bps.gMemoryBreakpointPages := pages, target.protection := protection, lastError := e } :
        Session).Visits id' page ↔ id' ≠ id ∧ s.Visits id' page := by
    intro id' page
    by_cases hid : id' = id
    · subst hid
      simp only [Visits, Std.ExtTreeMap.getElem?_erase_self]
      simp
    · simp only [Visits, getElem?_erase_of_ne hid]
      simp only [ne_eq, hid, not_false_eq_true, true_and]
      rfl
  have hown : ∀ page, s.Visits id page ↔ page ∈ s.pagesOf bp.start bp.size := by
    intro page
    constructor
    · rintro ⟨info, hinfo, hpage⟩
      rw [hbp] at hinfo
      obtain rfl := Option.some.inj hinfo
      exact hpage
    · exact fun hpage => ⟨bp, hbp, hpage⟩
  have hcases : ∀ page info, s.bps.gMemoryBreakpointPages[page]? = some info →
      (pages[page]? = none ∧ page ∈ s.pagesOf bp.start bp.size ∧ strip id info = none ∧
          s.Released page info) ∨
        ∃ left, pages[page]? = some left ∧ left.originalProtect = info.originalProtect ∧
          ¬ (page ∈ s.pagesOf bp.start bp.size ∧ strip id info = none) ∧
          (({ s with bps.gMemoryBreakpoints := s.bps.gMemoryBreakpoints.erase id
                     bps.gMemoryBreakpointPages := pages, target.protection := protection
                     lastError := e } : Session).Released page left ↔ s.Released page info) := by
    intro page info hinfo
    have hentry := hpages page
    rw [hinfo] at hentry
    by_cases hpage : page ∈ s.pagesOf bp.start bp.size
    · rw [if_pos hpage, Option.bind_some] at hentry
      cases hstrip : strip id info with
      | none =>
        rw [hstrip] at hentry
        refine .inl ⟨hentry, hpage, rfl, ⟨id, (hown page).2 hpage⟩, fun id' hid' => ?_⟩
        rw [strip_eq_none.1 hstrip id' hid']
        exact (hown page).2 hpage
      | some left =>
        rw [hstrip] at hentry
        have hprotect : left.originalProtect = info.originalProtect := by
          unfold strip at hstrip
          split_ifs at hstrip
          obtain rfl := Option.some.inj hstrip
          rfl
        have hother : ∃ id' ∈ info.breakpointIds, id' ≠ id := by
          by_contra hnone
          push Not at hnone
          rw [strip_eq_none.2 hnone] at hstrip
          cases hstrip
        refine .inr ⟨left, hentry, hprotect, by simp, ?_⟩
        simp only [Released, hvisits, mem_strip hstrip]
        constructor
        · rintro ⟨-, hall⟩
          refine ⟨⟨id, (hown page).2 hpage⟩, fun id' hid' => ?_⟩
          by_cases hid : id' = id
          · rw [hid]
            exact (hown page).2 hpage
          · exact (hall id' ⟨hid, hid'⟩).2
        · rintro ⟨-, hall⟩
          obtain ⟨id', hid', hne⟩ := hother
          exact ⟨⟨id', hne, hall id' hid'⟩, fun id' hid' => ⟨hid'.1, hall id' hid'.2⟩⟩
    · rw [if_neg hpage] at hentry
      have hnot : ∀ id', s.Visits id' page → id' ≠ id := by
        rintro id' hvisit rfl
        exact hpage ((hown page).1 hvisit)
      refine .inr ⟨info, hentry, rfl, fun h => hpage h.1, ?_⟩
      simp only [Released, hvisits]
      constructor
      · rintro ⟨⟨id', -, hvisit⟩, hall⟩
        exact ⟨⟨id', hvisit⟩, fun id' hid' => (hall id' hid').2⟩
      · rintro ⟨⟨id', hvisit⟩, hall⟩
        exact ⟨⟨id', hnot id' hvisit, hvisit⟩, fun id' hid' => ⟨hnot id' (hall id' hid'), hall id' hid'⟩⟩
  have hmiss : ∀ page : ULONG_PTR, s.bps.gMemoryBreakpointPages[page]? = none → pages[page]? = none := by
    intro page hnone
    rw [hpages page, hnone]
    split_ifs <;> rfl
  have hunguards : ∀ {page info left}, left.originalProtect = info.originalProtect →
      (({ s with bps.gMemoryBreakpoints := s.bps.gMemoryBreakpoints.erase id
                 bps.gMemoryBreakpointPages := pages, target.protection := protection
                 lastError := e } : Session).Unguards env page left ↔ s.Unguards env page info) := by
    intro page info left hprotect
    unfold Unguards
    rw [hprotect]
    rfl
  constructor
  · obtain ⟨pages', protection', e', hframe⟩ := h.frame
    exact ⟨pages', protection', e', hframe⟩
  · intro page hnone
    obtain ⟨hgone, hsame⟩ := h.missing page (hmiss page hnone)
    exact ⟨hgone, hsame.trans (hmissing page hnone)⟩
  · intro page info hinfo
    rcases hcases page info hinfo with ⟨hnone, -, -, hreleased⟩ | ⟨left, hleft, -, -, hiff⟩
    · exact ⟨fun _ => hreleased, fun _ => (h.missing page hnone).1⟩
    · rw [← hiff]
      exact h.released page left hleft
  · intro page info hinfo hreleased hyield
    rcases hcases page info hinfo with ⟨hnone, hpage, hstrip, -⟩ | ⟨left, hleft, hprotect, -, hiff⟩
    · rw [(h.missing page hnone).2]
      have hset := hlisted page info hinfo
      rwa [if_pos ⟨hpage, hstrip, hyield⟩] at hset
    · rw [h.restored page left hleft (hiff.2 hreleased) ((hunguards hprotect).2 hyield), hprotect]
  · rw [Bool.and_eq_true, hyields, h.result]
    constructor
    · rintro ⟨hlist, hrest⟩ page info hinfo hreleased
      rcases hcases page info hinfo with ⟨-, hpage, hstrip, -⟩ | ⟨left, hleft, hprotect, -, hiff⟩
      · exact hlist page hpage info hinfo hstrip
      · exact (hunguards hprotect).1 (hrest page left hleft (hiff.2 hreleased))
    · intro hall
      constructor
      · intro page hpage info hinfo hstrip
        rcases hcases page info hinfo with ⟨-, -, -, hreleased⟩ | ⟨left, -, -, hkept, -⟩
        · exact hall page info hinfo hreleased
        · exact absurd ⟨hpage, hstrip⟩ hkept
      · intro page left hleft hreleased
        cases hinfo : s.bps.gMemoryBreakpointPages[page]? with
        | none =>
          rw [hmiss page hinfo] at hleft
          cases hleft
        | some info =>
          rcases hcases page info hinfo with ⟨hnone, -⟩ | ⟨left', hleft', hprotect, -, hiff⟩
          · rw [hnone] at hleft
            cases hleft
          · rw [hleft'] at hleft
            obtain rfl := Option.some.inj hleft
            exact (hunguards hprotect).2 (hall page info hinfo (hiff.1 hreleased))

/-- The loop ends in a live session, where each round takes a breakpoint away. -/
theorem unwatched_of_live {a : RemovalAnswers} (rounds n : ℕ) (hlive : s.gSessionKind = .live)
    (hrounds : s.bps.gMemoryBreakpoints.size ≤ rounds) :
    ∃ s' ok, a.removeAllMemoryBreakpoints rounds n s = some (s', ok) ∧ Unwatched a.pages s s' ok := by
  induction rounds generalizing s n with
  | zero =>
    have hempty : s.bps.gMemoryBreakpoints = ∅ := by
      rw [← Std.ExtTreeMap.isEmpty_iff, Std.ExtTreeMap.isEmpty_eq_size_beq_zero, beq_iff_eq]
      omega
    refine ⟨s, true, ?_, unwatched_empty hempty⟩
    unfold RemovalAnswers.removeAllMemoryBreakpoints
    rw [hempty]
    rfl
  | succ rounds ih =>
    unfold RemovalAnswers.removeAllMemoryBreakpoints
    cases hfirst : s.bps.gMemoryBreakpoints.first with
    | none => exact ⟨s, true, rfl, unwatched_empty (Map.first_eq_none_iff.mp hfirst)⟩
    | some entry =>
      obtain ⟨id, bp⟩ := entry
      have hbp := Map.getElem?_of_first hfirst
      obtain ⟨pages, protection, e, heq, -, -⟩ :=
        removeMemoryBreakpointById_outcome (a.round n) id hlive hbp
      have hlive' : (s.removeMemoryBreakpointById (a.round n) id).1.gSessionKind = .live := by
        rw [heq]
        exact hlive
      have hsize : (s.removeMemoryBreakpointById (a.round n) id).1.bps.gMemoryBreakpoints.size ≤
          rounds := by
        rw [heq]
        show (s.bps.gMemoryBreakpoints.erase id).size ≤ rounds
        rw [Std.ExtTreeMap.size_erase, if_pos (Std.ExtTreeMap.contains_iff_mem.2 (mem_of_getElem? hbp))]
        omega
      obtain ⟨s', ok, hrun, hunwatched⟩ := ih (n + 1) hlive' hsize
      have hround : Unwatched (a.round n) (s.removeMemoryBreakpointById (a.round n) id).1 s' ok :=
        ⟨hunwatched.frame, hunwatched.missing, hunwatched.released, hunwatched.restored,
          hunwatched.result⟩
      have hall := hround.removed hlive hbp
      refine ⟨s', _, ?_, hall.frame, hall.missing, hall.released, hall.restored, hall.result⟩
      dsimp only
      rw [hrun]
      rfl

end Session

/-- From number `n` on there are as many answers that let a watchpoint be removed. -/
def Enough (answers : ℕ → Bool) : ℕ → ℕ → Prop
  | 0, _ => True
  | k + 1, n => ∃ m, n ≤ m ∧ answers m = true ∧ Enough answers k (m + 1)

theorem Enough.mono {answers : ℕ → Bool} {k n n' : ℕ} (h : Enough answers k n) (hn : n' ≤ n) :
    Enough answers k n' := by
  cases k with
  | zero => trivial
  | succ k =>
    obtain ⟨m, hm, hanswer, hrest⟩ := h
    exact ⟨m, by omega, hanswer, hrest⟩

namespace Session
variable {a : RemovalAnswers} {s s' : Session} {id : ULONG64} {n : ℕ}

/-- Each memory breakpoint has a watchpoint of its own in the cursor. -/
structure Retrievable (s : Session) : Prop where
  watched {id : ULONG64} {bp : MemoryBreakpointInfo} : s.bps.gMemoryBreakpoints[id]? = some bp →
    s.HasWatchpoint bp.watchpoint
  distinct {id id' : ULONG64} {bp bp' : MemoryBreakpointInfo} :
    s.bps.gMemoryBreakpoints[id]? = some bp → s.bps.gMemoryBreakpoints[id']? = some bp' →
      bp.watchpoint = bp'.watchpoint → id = id'

theorem retrievable_empty (h : s.bps.gMemoryBreakpoints = ∅) : s.Retrievable := by
  constructor
  · intro id bp hbp
    rw [h, Std.ExtTreeMap.getElem?_empty] at hbp
    cases hbp
  · intro id id' bp bp' hbp
    rw [h, Std.ExtTreeMap.getElem?_empty] at hbp
    cases hbp

/-- A round of a replay removes the first breakpoint, or leaves everything as it is. -/
theorem removeMemoryBreakpointById_ttd (env : Env) {bp : MemoryBreakpointInfo}
    (httd : s.gSessionKind = .ttd) (hbp : s.bps.gMemoryBreakpoints[id]? = some bp) :
    (s.HasWatchpoint bp.watchpoint ∧ env.removeMemoryWatchpoint = true ∧
        ∃ watchpoints, s.gTtdCursor = some watchpoints ∧ s.removeMemoryBreakpointById env id =
          ({ s with bps.gMemoryBreakpoints := s.bps.gMemoryBreakpoints.erase id
                    gTtdCursor := some (watchpoints.filter (· ≠ bp.watchpoint)) }, true)) ∨
      ¬ (s.HasWatchpoint bp.watchpoint ∧ env.removeMemoryWatchpoint = true) ∧
        s.removeMemoryBreakpointById env id = (s, false) := by
  unfold removeMemoryBreakpointById removeMemoryWatchpoint
  rw [hbp]
  dsimp only
  rw [if_pos httd]
  cases hcursor : s.gTtdCursor with
  | none =>
    refine .inr ⟨?_, rfl⟩
    rintro ⟨⟨watchpoints, hsome, -⟩, -⟩
    rw [hcursor] at hsome
    cases hsome
  | some watchpoints =>
    have hwatched : s.HasWatchpoint bp.watchpoint ↔ bp.watchpoint ∈ watchpoints := by
      constructor
      · rintro ⟨watchpoints', hsome, hmem⟩
        rw [hcursor] at hsome
        obtain rfl := Option.some.inj hsome
        exact hmem
      · exact fun hmem => ⟨watchpoints, hcursor, hmem⟩
    by_cases hremove : env.removeMemoryWatchpoint = true ∧ bp.watchpoint ∈ watchpoints
    · refine .inl ⟨hwatched.2 hremove.2, hremove.1, watchpoints, rfl, ?_⟩
      dsimp only
      have hremove' : env.removeMemoryWatchpoint = true ∧
          (⟨bp.start, bp.size, ttdMemoryWatchMask bp.type⟩ : MemoryWatchpointData) ∈ watchpoints := hremove
      rw [if_pos hremove']
      rfl
    · refine .inr ⟨fun h => hremove ⟨h.2, hwatched.1 h.1⟩, ?_⟩
      dsimp only
      have hremove' : ¬ (env.removeMemoryWatchpoint = true ∧
          (⟨bp.start, bp.size, ttdMemoryWatchMask bp.type⟩ : MemoryWatchpointData) ∈ watchpoints) :=
        hremove
      rw [if_neg hremove']

/-- What is left of the watchpoints once all memory breakpoints of a replay are removed. -/
structure Unhooked (answers : ℕ → Bool) (n : ℕ) (s s' : Session) (ok : Bool) : Prop where
  frame : ∃ cursor, s' = { s with bps.gMemoryBreakpoints := ∅, gTtdCursor := cursor }
  watched w : s'.HasWatchpoint w ↔ s.HasWatchpoint w ∧
    ∀ (id : ULONG64) (bp : MemoryBreakpointInfo),
      s.bps.gMemoryBreakpoints[id]? = some bp → bp.watchpoint ≠ w
  result : ok = true ↔ ∀ k < s.bps.gMemoryBreakpoints.size, answers (n + k) = true

theorem unhooked_empty {answers : ℕ → Bool} (h : s.bps.gMemoryBreakpoints = ∅) :
    Unhooked answers n s s true := by
  constructor
  · exact ⟨_, by rw [← h]⟩
  · intro w
    rw [iff_self_and]
    intro _ id bp hbp
    rw [h, Std.ExtTreeMap.getElem?_empty] at hbp
    cases hbp
  · simp [h]

/-- The loop ends in a replay only where each watchpoint can be removed in its turn. -/
theorem unhooked_of_ttd (rounds : ℕ) (httd : s.gSessionKind = .ttd) {ok : Bool}
    (hrun : a.removeAllMemoryBreakpoints rounds n s = some (s', ok)) :
    s.Retrievable ∧ Enough a.watchpoint s.bps.gMemoryBreakpoints.size n ∧
      Unhooked a.watchpoint n s s' ok := by
  induction rounds generalizing s n ok with
  | zero =>
    unfold RemovalAnswers.removeAllMemoryBreakpoints at hrun
    split_ifs at hrun with hnone
    obtain ⟨rfl, rfl⟩ := Prod.mk.inj (Option.some.inj hrun)
    have hempty := Map.first_eq_none_iff.mp (Option.isNone_iff_eq_none.1 hnone)
    refine ⟨retrievable_empty hempty, ?_, unhooked_empty hempty⟩
    rw [hempty]
    trivial
  | succ rounds ih =>
    unfold RemovalAnswers.removeAllMemoryBreakpoints at hrun
    cases hfirst : s.bps.gMemoryBreakpoints.first with
    | none =>
      rw [hfirst] at hrun
      obtain ⟨rfl, rfl⟩ := Prod.mk.inj (Option.some.inj hrun)
      have hempty := Map.first_eq_none_iff.mp hfirst
      refine ⟨retrievable_empty hempty, ?_, unhooked_empty hempty⟩
      rw [hempty]
      trivial
    | some entry =>
      obtain ⟨id, bp⟩ := entry
      have hbp := Map.getElem?_of_first hfirst
      rw [hfirst] at hrun
      dsimp only at hrun
      obtain ⟨⟨s'', ok'⟩, hrest, hresult⟩ := Option.map_eq_some_iff.1 hrun
      obtain ⟨rfl, rfl⟩ := Prod.mk.inj hresult
      have hsize : s.bps.gMemoryBreakpoints.size = (s.bps.gMemoryBreakpoints.erase id).size + 1 := by
        have hpos : s.bps.gMemoryBreakpoints.size ≠ 0 := by
          intro hzero
          rw [Std.ExtTreeMap.eq_empty_iff_size_eq_zero.2 hzero, Std.ExtTreeMap.getElem?_empty] at hbp
          cases hbp
        rw [Std.ExtTreeMap.size_erase,
          if_pos (Std.ExtTreeMap.contains_iff_mem.2 (mem_of_getElem? hbp))]
        omega
      rcases removeMemoryBreakpointById_ttd (a.round n) httd hbp with
        ⟨hwatched, hanswer, watchpoints, hcursor, hremove⟩ | ⟨hnot, hremove⟩
      · rw [hremove] at hrest ⊢
        obtain ⟨hretrievable, henough, hunhooked⟩ := ih (s := { s with
          bps.gMemoryBreakpoints := s.bps.gMemoryBreakpoints.erase id
          gTtdCursor := some (watchpoints.filter (· ≠ bp.watchpoint)) }) httd hrest
        have hleft : ∀ w, ({ s with
            bps.gMemoryBreakpoints := s.bps.gMemoryBreakpoints.erase id
            gTtdCursor := some (watchpoints.filter (· ≠ bp.watchpoint)) } : Session).HasWatchpoint w ↔
              s.HasWatchpoint w ∧ bp.watchpoint ≠ w := by
          intro w
          constructor
          · rintro ⟨left, hsome, hmem⟩
            obtain rfl := Option.some.inj hsome
            obtain ⟨hin, hne⟩ := List.mem_filter.1 hmem
            exact ⟨⟨watchpoints, hcursor, hin⟩, fun heq => of_decide_eq_true hne heq.symm⟩
          · rintro ⟨⟨watchpoints', hsome, hmem⟩, hne⟩
            rw [hcursor] at hsome
            obtain rfl := Option.some.inj hsome
            exact ⟨_, rfl, List.mem_filter.2 ⟨hmem, decide_eq_true (Ne.symm hne)⟩⟩
        have hother : ∀ {id' : ULONG64} {bp' : MemoryBreakpointInfo}, id' ≠ id →
            s.bps.gMemoryBreakpoints[id']? = some bp' →
              s.HasWatchpoint bp'.watchpoint ∧ bp.watchpoint ≠ bp'.watchpoint := by
          intro id' bp' hne hbp'
          have herase : (s.bps.gMemoryBreakpoints.erase id)[id']? = some bp' := by
            rw [getElem?_erase_of_ne hne, hbp']
          exact (hleft _).1 (hretrievable.watched herase)
        refine ⟨⟨?_, ?_⟩, ?_, ?_, ?_, ?_⟩
        · intro id' bp' hbp'
          by_cases hid : id' = id
          · subst hid
            rw [hbp] at hbp'
            obtain rfl := Option.some.inj hbp'
            exact hwatched
          · exact (hother hid hbp').1
        · intro id₁ id₂ bp₁ bp₂ hbp₁ hbp₂ heq
          by_cases hid₁ : id₁ = id
          · by_contra hne
            rw [hid₁, hbp] at hbp₁
            obtain rfl := Option.some.inj hbp₁
            have hid₂ : id₂ ≠ id := fun h => hne (hid₁.trans h.symm)
            exact (hother hid₂ hbp₂).2 heq
          · by_cases hid₂ : id₂ = id
            · rw [hid₂, hbp] at hbp₂
              obtain rfl := Option.some.inj hbp₂
              exact absurd heq.symm (hother hid₁ hbp₁).2
            · have herase₁ : (s.bps.gMemoryBreakpoints.erase id)[id₁]? = some bp₁ := by
                rw [getElem?_erase_of_ne hid₁, hbp₁]
              have herase₂ : (s.bps.gMemoryBreakpoints.erase id)[id₂]? = some bp₂ := by
                rw [getElem?_erase_of_ne hid₂, hbp₂]
              exact hretrievable.distinct herase₁ herase₂ heq
        · rw [hsize]
          exact ⟨n, le_rfl, hanswer, henough⟩
        · obtain ⟨cursor, hframe⟩ := hunhooked.frame
          exact ⟨cursor, hframe⟩
        · intro w
          rw [hunhooked.watched, hleft]
          constructor
          · rintro ⟨⟨hw, hne⟩, hrest'⟩
            refine ⟨hw, fun id' bp' hbp' => ?_⟩
            by_cases hid : id' = id
            · rw [hid, hbp] at hbp'
              obtain rfl := Option.some.inj hbp'
              exact hne
            · exact hrest' id' bp' (by rw [getElem?_erase_of_ne hid, hbp'])
          · rintro ⟨hw, hall⟩
            refine ⟨⟨hw, hall id bp hbp⟩, fun id' bp' hbp' => ?_⟩
            exact hall id' bp' (getElem?_of_erase hbp')
        · rw [Bool.true_and, hunhooked.result, hsize]
          constructor
          · intro hall k hk
            cases k with
            | zero => exact hanswer
            | succ k =>
              rw [show n + (k + 1) = n + 1 + k by omega]
              exact hall k (Nat.lt_of_succ_lt_succ hk)
          · intro hall k hk
            rw [show n + 1 + k = n + (k + 1) by omega]
            exact hall (k + 1) (Nat.succ_lt_succ hk)
      · rw [hremove] at hrest
        obtain ⟨hretrievable, henough, hunhooked⟩ := ih (s := s) httd hrest
        have hanswer : a.watchpoint n = false := by
          by_contra htrue
          exact hnot ⟨hretrievable.watched hbp, by simpa [RemovalAnswers.round] using htrue⟩
        refine ⟨hretrievable, henough.mono (by omega), hunhooked.frame, hunhooked.watched, ?_⟩
        rw [hremove, Bool.false_and]
        constructor
        · intro h
          cases h
        · intro hall
          have hfalse := hall 0 (by omega)
          rw [Nat.add_zero, hanswer] at hfalse
          cases hfalse

theorem Retrievable.erased (h : s.Retrievable) {bp : MemoryBreakpointInfo}
    {watchpoints : List MemoryWatchpointData} (hbp : s.bps.gMemoryBreakpoints[id]? = some bp)
    (hcursor : s.gTtdCursor = some watchpoints) :
    ({ s with bps.gMemoryBreakpoints := s.bps.gMemoryBreakpoints.erase id
              gTtdCursor := some (watchpoints.filter (· ≠ bp.watchpoint)) } : Session).Retrievable := by
  constructor
  · intro id' bp' hbp'
    have hne : id' ≠ id := by
      rintro rfl
      rw [Std.ExtTreeMap.getElem?_erase_self] at hbp'
      cases hbp'
    have hold := getElem?_of_erase hbp'
    obtain ⟨watchpoints', hsome, hmem⟩ := h.watched hold
    rw [hcursor] at hsome
    obtain rfl := Option.some.inj hsome
    refine ⟨_, rfl, List.mem_filter.2 ⟨hmem, decide_eq_true fun heq => ?_⟩⟩
    exact hne (h.distinct hold hbp heq)
  · intro id₁ id₂ bp₁ bp₂ hbp₁ hbp₂
    exact h.distinct (getElem?_of_erase hbp₁) (getElem?_of_erase hbp₂)

theorem returns_of_retrievable (httd : s.gSessionKind = .ttd) (h : s.Retrievable)
    (henough : Enough a.watchpoint s.bps.gMemoryBreakpoints.size n) :
    ∃ rounds r, a.removeAllMemoryBreakpoints rounds n s = some r := by
  generalize hsize : s.bps.gMemoryBreakpoints.size = k at henough
  induction k generalizing s n with
  | zero =>
    have hempty := Std.ExtTreeMap.eq_empty_iff_size_eq_zero.2 hsize
    refine ⟨0, (s, true), ?_⟩
    unfold RemovalAnswers.removeAllMemoryBreakpoints
    rw [hempty]
    rfl
  | succ k ih =>
    cases hfirst : s.bps.gMemoryBreakpoints.first with
    | none =>
      rw [Map.first_eq_none_iff.mp hfirst] at hsize
      cases hsize
    | some entry =>
    obtain ⟨id, bp⟩ := entry
    have hbp := Map.getElem?_of_first hfirst
    obtain ⟨m, hm, hanswer, hrest⟩ := henough
    have hround : ∀ n, a.watchpoint n = true → Enough a.watchpoint k (n + 1) →
        ∃ rounds r, a.removeAllMemoryBreakpoints rounds n s = some r := by
      intro n hanswer hrest
      rcases removeMemoryBreakpointById_ttd (a.round n) httd hbp with
        ⟨-, -, watchpoints, hcursor, hremove⟩ | ⟨hnot, -⟩
      · have hsize' : (s.bps.gMemoryBreakpoints.erase id).size = k := by
          rw [Std.ExtTreeMap.size_erase,
            if_pos (Std.ExtTreeMap.contains_iff_mem.2 (mem_of_getElem? hbp))]
          omega
        obtain ⟨rounds, r, hrun⟩ := ih (s := { s with
          bps.gMemoryBreakpoints := s.bps.gMemoryBreakpoints.erase id
          gTtdCursor := some (watchpoints.filter (· ≠ bp.watchpoint)) }) httd (h.erased hbp hcursor)
          hsize' hrest
        refine ⟨rounds + 1, (r.1, true && r.2), ?_⟩
        unfold RemovalAnswers.removeAllMemoryBreakpoints
        rw [hfirst]
        dsimp only
        rw [hremove, hrun]
        rfl
      · exact absurd ⟨h.watched hbp, hanswer⟩ hnot
    -- the rounds up to `m` that fail leave the session as it is
    generalize hd : m - n = d
    induction d generalizing n with
    | zero =>
      obtain rfl : m = n := by omega
      exact hround m hanswer hrest
    | succ d ihd =>
      by_cases hnow : a.watchpoint n = true
      · exact hround n hnow (hrest.mono (by omega))
      · obtain ⟨rounds, r, hrun⟩ := ihd (n := n + 1) (by omega) (by omega)
        rcases removeMemoryBreakpointById_ttd (a.round n) httd hbp with
          ⟨-, hremoved, -⟩ | ⟨-, hremove⟩
        · exact absurd hremoved hnow
        · refine ⟨rounds + 1, (r.1, false && r.2), ?_⟩
          unfold RemovalAnswers.removeAllMemoryBreakpoints
          rw [hfirst]
          dsimp only
          rw [hremove, hrun]
          rfl

end Session

/-- More rounds than are needed change nothing. -/
theorem RemovalAnswers.removeAllMemoryBreakpoints_mono {a : RemovalAnswers} {rounds rounds' n : ℕ}
    {s : Session} {r : Session × Bool} (h : a.removeAllMemoryBreakpoints rounds n s = some r)
    (hrounds : rounds ≤ rounds') : a.removeAllMemoryBreakpoints rounds' n s = some r := by
  induction rounds' generalizing rounds n s r with
  | zero =>
    obtain rfl : rounds = 0 := by omega
    exact h
  | succ rounds' ih =>
    cases rounds with
    | zero =>
      unfold RemovalAnswers.removeAllMemoryBreakpoints at h ⊢
      split_ifs at h with hnone
      rw [Option.isNone_iff_eq_none.1 hnone]
      exact h
    | succ rounds =>
      unfold RemovalAnswers.removeAllMemoryBreakpoints at h ⊢
      cases hfirst : s.bps.gMemoryBreakpoints.first with
      | none =>
        rw [hfirst] at h
        exact h
      | some entry =>
        rw [hfirst] at h
        dsimp only at h ⊢
        obtain ⟨r', hrest, hr⟩ := Option.map_eq_some_iff.1 h
        rw [ih hrest (by omega)]
        exact congrArg some hr

end TitanEngine

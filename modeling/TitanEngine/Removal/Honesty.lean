import TitanEngine.Removal.Memory
import TitanEngine.Removal.Records

/-! What `RemoveAllBreakPoints` promises by its result, and when it keeps the promise. -/
namespace TitanEngine
open FlatMemory MapSums

namespace Session
variable {s s' : Session}

/-- What the record stands for is in the target. -/
def Armed (info : BreakpointInfo) (s : Session) : Prop :=
  if info.nativePatch then s.target.memory.read info.offset info.patchSize = info.patch
  else
    match info.bp with
    | some bp => bp ∈ s.target.engineBreakpoints
    | none => s.HasWatchpoint info.watchpoint

def ArmedMemory (id : ULONG64) (info : MemoryBreakpointInfo) (s : Session) : Prop :=
  if s.gSessionKind = .ttd then s.HasWatchpoint info.watchpoint
  else ∀ page ∈ s.pagesOf info.start info.size, ∃ entry, s.bps.gMemoryBreakpointPages[page]? = some entry ∧
    id ∈ entry.breakpointIds ∧ s.target.protection page = entry.originalProtect ||| PAGE_GUARD

/-- Nothing of the breakpoints of `s` is left in `s'`, where `own` is the memory of the target
without them. -/
structure Cleared (own : Memory 64 BYTE) (s s' : Session) : Prop where
  records : s'.bps.gBreakpoints = ∅
  registers : s'.bps.gHardwareBreakpointIds = ∅
  memoryBreakpoints : s'.bps.gMemoryBreakpoints = ∅
  pages : s'.bps.gMemoryBreakpointPages = ∅
  patches : ∀ entry ∈ s.bps.gBreakpoints.toList, entry.2.nativePatch = true →
    ∀ x, InRange entry.2.offset entry.2.patchSize x → s'.target.memory x = own x
  guards : ∀ page info, s.bps.gMemoryBreakpointPages[page]? = some info →
    s'.target.protection page = info.originalProtect
  objects : ∀ entry ∈ s.bps.gBreakpoints.toList, entry.2.nativePatch = false →
    ∀ bp, entry.2.bp = some bp → bp ∉ s'.target.engineBreakpoints
  codeWatchpoints : ∀ entry ∈ s.bps.gBreakpoints.toList, entry.2.nativePatch = false →
    entry.2.bp = none → ¬ s'.HasWatchpoint entry.2.watchpoint
  dataWatchpoints : s.gSessionKind = .ttd → ∀ (id : ULONG64) info,
    s.bps.gMemoryBreakpoints[id]? = some info → ¬ s'.HasWatchpoint info.watchpoint

/-- Every record that is left and was armed is armed still. -/
structure StillArmed (s s' : Session) : Prop where
  records : ∀ entry ∈ s'.bps.gBreakpoints.toList, s.Armed entry.2 → s'.Armed entry.2
  memory : ∀ (id : ULONG64) info, s'.bps.gMemoryBreakpoints[id]? = some info →
    s.ArmedMemory id info → s'.ArmedMemory id info

end Session

namespace RemovalAnswers
variable (a : RemovalAnswers) (own : Memory 64 BYTE) {s s' : Session} {entry : ULONG × BreakpointInfo}

/-- The cursor would give up the watchpoint of the record. -/
def Unhooks (s : Session) (entry : ULONG × BreakpointInfo) : Prop :=
  s.gSessionKind = .ttd ∧ entry.2.nativePatch = false ∧ entry.2.bp = none ∧
    s.HasWatchpoint entry.2.watchpoint ∧ (a.record entry.1).removeMemoryWatchpoint = true

/-- Each breakpoint could be removed by itself. -/
structure AllSucceed (s : Session) : Prop where
  pages : s.gSessionKind = .live → ∀ page info, s.bps.gMemoryBreakpointPages[page]? = some info →
    s.Unguards a.pages page info
  watched : s.gSessionKind = .ttd → ∀ (id : ULONG64) info, s.bps.gMemoryBreakpoints[id]? = some info →
    s.HasWatchpoint info.watchpoint
  answered : s.gSessionKind = .ttd → ∀ k < s.bps.gMemoryBreakpoints.size, a.watchpoint k = true
  records : ∀ entry ∈ s.bps.gBreakpoints.toList,
    a.Removes s.sessionProcessHandle entry ∨ a.Unhooks s entry

/-- What a result of `RemoveAllBreakPoints` promises. -/
structure Promise (s : Session) (r : Session × Bool) : Prop where
  cleared : r.2 = true → s.Cleared own r.1
  armed : r.2 = false → s.StillArmed r.1
  succeeds : a.AllSucceed s → r.2 = true

/-- `RemoveAllBreakPoints` returns, and keeps what its result promises. -/
def Honest (s : Session) : Prop :=
  ∃ rounds r, a.removeAllBreakPoints rounds s = some r ∧ a.Promise own s r

/-- No call fails on the way through the memory breakpoints. -/
structure SweepsMemory (s : Session) : Prop where
  pages : s.gSessionKind = .live → ∀ page info, s.bps.gMemoryBreakpointPages[page]? = some info →
    s.Released page info → s.Unguards a.pages page info
  answered : s.gSessionKind = .ttd → ∀ k < s.bps.gMemoryBreakpoints.size, a.watchpoint k = true

/-- The loop over the records comes to its end. -/
def RemovesAll (s : Session) : Prop :=
  ∀ entry ∈ s.bps.gBreakpoints.toList, a.Removes s.sessionProcessHandle entry

/-- Where the promise is kept. -/
structure Dependable (s : Session) : Prop where
  /-- Each watchpoint of a memory breakpoint of a replay can be removed sooner or later. -/
  ends : s.gSessionKind = .ttd →
    s.Retrievable ∧ Enough a.watchpoint s.bps.gMemoryBreakpoints.size 0
  /-- With everything removed, the pages belong to the breakpoints that list them, -/
  pages : a.SweepsMemory s → a.RemovesAll s → ∀ page info,
    s.bps.gMemoryBreakpointPages[page]? = some info → s.gSessionKind = .live ∧ s.Released page info
  /-- and the byte that is put back last is the target's own. -/
  bytes : a.SweepsMemory s → a.RemovesAll s → ∀ entry ∈ s.bps.gBreakpoints.toList,
    entry.2.nativePatch = true → ∀ x, InRange entry.2.offset entry.2.patchSize x → ∀ b,
      a.restoredByte s.sessionProcessHandle x s.bps.gBreakpoints.toList = some b → b = own x
  /-- Before a record that is not removed, no byte is put back over a patch in place, -/
  patches : a.SweepsMemory s → ¬ a.RemovesAll s → ∀ entry ∈ s.bps.gBreakpoints.toList,
    entry.2.nativePatch = true → s.Armed entry.2 → ∀ x b b',
      cell entry.2.offset entry.2.patch x = some b → a.restoredByte s.sessionProcessHandle x
        (a.reached s.sessionProcessHandle s.bps.gBreakpoints.toList) = some b' → b' = b
  /-- and no object is removed. -/
  objects : a.SweepsMemory s → ¬ a.RemovesAll s → ∀ entry ∈ s.bps.gBreakpoints.toList,
    entry.2.nativePatch = false → ∀ bp, entry.2.bp = some bp → bp ∈ s.target.engineBreakpoints →
      ∀ entry' ∈ a.reached s.sessionProcessHandle s.bps.gBreakpoints.toList,
        a.Drops entry' → entry'.2.bp ≠ some bp
  /-- No record that is left shares its watchpoint with a memory breakpoint. -/
  watchpoints : s.gSessionKind = .ttd → ¬ (a.SweepsMemory s ∧ a.RemovesAll s) →
    ∀ entry ∈ s.bps.gBreakpoints.toList, entry.2.nativePatch = false → entry.2.bp = none →
      s.HasWatchpoint entry.2.watchpoint → ∀ (id : ULONG64) info,
        s.bps.gMemoryBreakpoints[id]? = some info → info.watchpoint ≠ entry.2.watchpoint
  /-- A record that is not removed could not be removed by itself either. -/
  refused : a.SweepsMemory s → ¬ a.RemovesAll s → ∃ entry ∈ s.bps.gBreakpoints.toList,
    ¬ a.Removes s.sessionProcessHandle entry ∧ ¬ a.Unhooks s entry

/-- The session once the memory breakpoints are removed. -/
structure Swept (s s' : Session) (ok : Bool) : Prop where
  records : s'.bps.gBreakpoints = s.bps.gBreakpoints
  process : s'.sessionProcessHandle = s.sessionProcessHandle
  memory : s'.target.memory = s.target.memory
  objects : s'.target.engineBreakpoints = s.target.engineBreakpoints
  emptied : s'.bps.gMemoryBreakpoints = ∅
  pages : s'.bps.gMemoryBreakpointPages = ∅ ↔ ∀ page info,
    s.bps.gMemoryBreakpointPages[page]? = some info → s.gSessionKind = .live ∧ s.Released page info
  guards : s'.bps.gMemoryBreakpointPages = ∅ → ok = true → ∀ page info,
    s.bps.gMemoryBreakpointPages[page]? = some info → s'.target.protection page = info.originalProtect
  watched : s.gSessionKind = .ttd → ∀ (id : ULONG64) info, s.bps.gMemoryBreakpoints[id]? = some info →
    s.HasWatchpoint info.watchpoint
  watchpoints w : s'.HasWatchpoint w ↔ s.HasWatchpoint w ∧ (s.gSessionKind = .ttd →
    ∀ (id : ULONG64) info, s.bps.gMemoryBreakpoints[id]? = some info → info.watchpoint ≠ w)
  result : ok = true ↔ a.SweepsMemory s

variable {a} {own}

theorem swept_of_unwatched {ok : Bool} (hlive : s.gSessionKind = .live)
    (h : s.Unwatched a.pages s' ok) : a.Swept s s' ok := by
  have hnot : s.gSessionKind ≠ .ttd := by
    rw [hlive]
    decide
  have hpages : s'.bps.gMemoryBreakpointPages = ∅ ↔ ∀ page info,
      s.bps.gMemoryBreakpointPages[page]? = some info → s.gSessionKind = .live ∧ s.Released page info := by
    constructor
    · intro hempty page info hinfo
      refine ⟨hlive, (h.released page info hinfo).1 ?_⟩
      rw [hempty, Std.ExtTreeMap.getElem?_empty]
    · intro hall
      apply Std.ExtTreeMap.ext_getElem?
      intro page
      rw [Std.ExtTreeMap.getElem?_empty]
      cases hinfo : s.bps.gMemoryBreakpointPages[page]? with
      | none => exact (h.missing page hinfo).1
      | some info => exact (h.released page info hinfo).2 (hall page info hinfo).2
  have hsweeps : ok = true ↔ a.SweepsMemory s := by
    rw [h.result]
    constructor
    · intro hall
      exact ⟨fun _ => hall, fun httd => absurd httd hnot⟩
    · exact fun hall => hall.pages hlive
  obtain ⟨pages, protection, e, hframe⟩ := h.frame
  constructor
  · rw [hframe]
  · rw [hframe]
    rfl
  · rw [hframe]
  · rw [hframe]
  · rw [hframe]
  · exact hpages
  · intro hempty hok page info hinfo
    have hreleased := (hpages.1 hempty page info hinfo).2
    exact h.restored page info hinfo hreleased (h.result.1 hok page info hinfo hreleased)
  · exact fun httd => absurd httd hnot
  · intro w
    rw [hframe]
    exact ⟨fun hw => ⟨hw, fun httd => absurd httd hnot⟩, fun hw => hw.1⟩
  · exact hsweeps

theorem swept_of_unhooked {ok : Bool} (httd : s.gSessionKind = .ttd) (hretrievable : s.Retrievable)
    (h : Session.Unhooked a.watchpoint 0 s s' ok) : a.Swept s s' ok := by
  have hnot : s.gSessionKind ≠ .live := by
    rw [httd]
    decide
  obtain ⟨cursor, hframe⟩ := h.frame
  have hsame : s'.bps.gMemoryBreakpointPages = s.bps.gMemoryBreakpointPages := by rw [hframe]
  have hpages : s'.bps.gMemoryBreakpointPages = ∅ ↔ ∀ page info,
      s.bps.gMemoryBreakpointPages[page]? = some info → s.gSessionKind = .live ∧ s.Released page info := by
    rw [hsame]
    constructor
    · intro hempty page info hinfo
      rw [hempty, Std.ExtTreeMap.getElem?_empty] at hinfo
      cases hinfo
    · intro hall
      apply Std.ExtTreeMap.ext_getElem?
      intro page
      rw [Std.ExtTreeMap.getElem?_empty]
      cases hinfo : s.bps.gMemoryBreakpointPages[page]? with
      | none => rfl
      | some info => exact absurd (hall page info hinfo).1 hnot
  constructor
  · rw [hframe]
  · rw [hframe]
    rfl
  · rw [hframe]
  · rw [hframe]
  · rw [hframe]
  · exact hpages
  · intro hempty _ page info hinfo
    exact absurd (hpages.1 hempty page info hinfo).1 hnot
  · exact fun _ id info hinfo => hretrievable.watched hinfo
  · intro w
    rw [h.watched w]
    constructor
    · exact fun hw => ⟨hw.1, fun _ => hw.2⟩
    · exact fun hw => ⟨hw.1, hw.2 httd⟩
  · rw [h.result]
    simp only [Nat.zero_add]
    constructor
    · exact fun hall => ⟨fun hlive => absurd hlive hnot, fun _ => hall⟩
    · exact fun hall => hall.answered httd

theorem swept_of_run {rounds : ℕ} {ok : Bool} (hkind : s.gSessionKind = .live ∨ s.gSessionKind = .ttd)
    (hrun : a.removeAllMemoryBreakpoints rounds 0 s = some (s', ok)) : a.Swept s s' ok := by
  rcases hkind with hlive | httd
  · obtain ⟨s₁, ok₁, hrun₁, hunwatched⟩ := Session.unwatched_of_live (a := a)
      (max rounds s.bps.gMemoryBreakpoints.size) 0 hlive (le_max_right _ _)
    rw [removeAllMemoryBreakpoints_mono hrun (le_max_left _ _)] at hrun₁
    obtain ⟨rfl, rfl⟩ := Prod.mk.inj (Option.some.inj hrun₁)
    exact swept_of_unwatched hlive hunwatched
  · obtain ⟨hretrievable, -, hunhooked⟩ := Session.unhooked_of_ttd rounds httd hrun
    exact swept_of_unhooked httd hretrievable hunhooked

theorem ends_iff (hkind : s.gSessionKind = .live ∨ s.gSessionKind = .ttd) :
    (∃ rounds r, a.removeAllMemoryBreakpoints rounds 0 s = some r) ↔
      (s.gSessionKind = .ttd →
        s.Retrievable ∧ Enough a.watchpoint s.bps.gMemoryBreakpoints.size 0) := by
  constructor
  · rintro ⟨rounds, ⟨s', ok⟩, hrun⟩ httd
    obtain ⟨hretrievable, henough, -⟩ := Session.unhooked_of_ttd rounds httd hrun
    exact ⟨hretrievable, henough⟩
  · intro hends
    rcases hkind with hlive | httd
    · obtain ⟨s', ok, hrun, -⟩ := Session.unwatched_of_live (a := a)
        s.bps.gMemoryBreakpoints.size 0 hlive le_rfl
      exact ⟨_, _, hrun⟩
    · exact Session.returns_of_retrievable httd (hends httd).1 (hends httd).2

/-- What comes after the loop over the memory breakpoints. -/
def finish (a : RemovalAnswers) (r : Session × Bool) : Session × Bool :=
  if ¬ r.2 then (r.1, false)
  else
    let r := a.removeEach r.1.bps.gBreakpoints.toList r.1
    if ¬ r.2 then (r.1, false)
    else
      ({ r.1 with bps.gBreakpoints := ∅, bps.gHardwareBreakpointIds := ∅
                  bps.gRetiredBreakpointAddresses := ∅ }, true)

theorem removeAllBreakPoints_eq (hpaused : s.pauseLock = true) (rounds : ℕ) :
    a.removeAllBreakPoints rounds s = (a.removeAllMemoryBreakpoints rounds 0 s).map a.finish := by
  unfold removeAllBreakPoints
  rw [hpaused]
  simp only [Bool.not_true, Bool.false_eq_true, if_false]
  rcases a.removeAllMemoryBreakpoints rounds 0 s with _ | ⟨s₁, ok⟩
  · rfl
  · cases ok with
    | false => rfl
    | true =>
      simp only [finish, Option.map_some, not_true_eq_false, if_false]
      rcases a.removeEach s₁.bps.gBreakpoints.toList s₁ with ⟨s₂, ok⟩
      cases ok <;> rfl

theorem restoredByte_isSome {process : HANDLE} {entries : Entries} {x : ULONG_PTR}
    (hmem : entry ∈ entries) (hwrites : a.Writes process entry)
    (hx : InRange entry.2.offset entry.2.patchSize x) :
    ∃ b, a.restoredByte process x entries = some b := by
  induction entries with
  | nil => cases hmem
  | cons first rest ih =>
    rw [restoredByte]
    cases hlater : a.restoredByte process x rest with
    | some b => exact ⟨b, rfl⟩
    | none =>
      have hfirst : entry = first := by
        rcases List.mem_cons.1 hmem with h | h
        · exact h
        · obtain ⟨b, hb⟩ := ih h
          rw [hlater] at hb
          cases hb
      subst hfirst
      rw [if_pos hwrites, Option.none_or, ← Option.isSome_iff_exists, isSome_cell_iff,
        BreakpointInfo.length_originals]
      exact hx

theorem reached_of_all {process : HANDLE} {entries : Entries}
    (h : ∀ entry ∈ entries, a.Removes process entry) : a.reached process entries = entries := by
  induction entries with
  | nil => rfl
  | cons first rest ih =>
    rw [reached, if_pos (h first List.mem_cons_self),
      ih fun entry hentry => h entry (List.mem_cons_of_mem first hentry)]

/-- A patch is in place byte by byte. -/
theorem armed_native (hnative : entry.2.nativePatch = true) :
    s.Armed entry.2 ↔ ∀ x b, cell entry.2.offset entry.2.patch x = some b → s.target.memory x = b := by
  have hlength : entry.2.patch.length ≤ 2 ^ 64 := by
    rw [BreakpointInfo.length_patch]
    exact entry.2.patchSize_le.trans (by omega)
  rw [Session.Armed, if_pos hnative]
  have hread := read_eq_list_iff s.target.memory entry.2.offset hlength
  rwa [BreakpointInfo.length_patch] at hread

theorem armed_object {bp : ULONG} (hnative : entry.2.nativePatch = false) (hbp : entry.2.bp = some bp) :
    s.Armed entry.2 ↔ bp ∈ s.target.engineBreakpoints := by
  simp [Session.Armed, hnative, hbp]

theorem armed_watchpoint (hnative : entry.2.nativePatch = false) (hbp : entry.2.bp = none) :
    s.Armed entry.2 ↔ s.HasWatchpoint entry.2.watchpoint := by
  simp [Session.Armed, hnative, hbp]

theorem AllSucceed.sweeps (h : a.AllSucceed s) : a.SweepsMemory s :=
  ⟨fun hlive page info hinfo _ => h.pages hlive page info hinfo, h.answered⟩

/-- After a failure on the way through the memory breakpoints the records are as they were. -/
theorem promise_iff_of_failed (h : a.Swept s s' false) (hends : s.gSessionKind = .ttd →
      s.Retrievable ∧ Enough a.watchpoint s.bps.gMemoryBreakpoints.size 0) :
    a.Promise own s (a.finish (s', false)) ↔ a.Dependable own s := by
  have hnot : ¬ a.SweepsMemory s := fun hsweeps => by
    have hfalse := h.result.2 hsweeps
    cases hfalse
  have hfinish : a.finish (s', false) = (s', false) := by simp [finish]
  rw [hfinish]
  constructor
  · intro hpromise
    refine ⟨hends, fun hsweeps => absurd hsweeps hnot, fun hsweeps => absurd hsweeps hnot,
      fun hsweeps => absurd hsweeps hnot, fun hsweeps => absurd hsweeps hnot, ?_,
      fun hsweeps => absurd hsweeps hnot⟩
    intro httd _ entry hentry hnative hbp hwatched id info hinfo
    have harmed := (hpromise.armed rfl).records entry (by rwa [h.records])
      ((armed_watchpoint hnative hbp).2 hwatched)
    exact ((h.watchpoints _).1 ((armed_watchpoint hnative hbp).1 harmed)).2 httd id info hinfo
  · intro hdependable
    constructor
    · intro hok
      cases hok
    · intro _
      constructor
      · intro entry hentry harmed
        rw [h.records] at hentry
        cases hnative : entry.2.nativePatch with
        | true =>
          rw [armed_native hnative] at harmed ⊢
          rwa [h.memory]
        | false =>
          cases hbp : entry.2.bp with
          | some bp =>
            rw [armed_object hnative hbp] at harmed ⊢
            rwa [h.objects]
          | none =>
            rw [armed_watchpoint hnative hbp] at harmed ⊢
            refine (h.watchpoints _).2 ⟨harmed, fun httd id info hinfo => ?_⟩
            exact hdependable.watchpoints httd (fun hboth => hnot hboth.1) entry hentry hnative hbp
              harmed id info hinfo
      · intro id info hinfo
        rw [h.emptied, Std.ExtTreeMap.getElem?_empty] at hinfo
        cases hinfo
    · exact fun hall => absurd hall.sweeps hnot

/-- With everything removed, it remains to be seen what is left of the patches and the pages. -/
theorem promise_iff_of_removed (h : a.Swept s s' true) (hremoves : a.RemovesAll s)
    (hends : s.gSessionKind = .ttd →
      s.Retrievable ∧ Enough a.watchpoint s.bps.gMemoryBreakpoints.size 0) :
    a.Promise own s (a.finish (s', true)) ↔ a.Dependable own s := by
  have hsweeps : a.SweepsMemory s := h.result.1 rfl
  obtain ⟨target, e, heach, htried⟩ := removeEach_outcome (a := a) (s := s') s'.bps.gBreakpoints.toList
  rw [h.records, h.process] at heach htried
  rw [reached_of_all hremoves] at htried
  have hall : (s.bps.gBreakpoints.toList.all fun entry =>
      decide (a.Removes s.sessionProcessHandle entry)) = true := by
    rw [List.all_eq_true]
    exact fun entry hentry => decide_eq_true (hremoves entry hentry)
  rw [hall] at heach
  have hfinish : a.finish (s', true) = ({ s' with
      target := target, lastError := e, bps.gBreakpoints := ∅, bps.gHardwareBreakpointIds := ∅
      bps.gRetiredBreakpointAddresses := ∅ }, true) := by
    simp [finish, h.records, heach]
  obtain ⟨memory, objects, hrest⟩ := htried.rest
  have hwrites : ∀ entry ∈ s.bps.gBreakpoints.toList, entry.2.nativePatch = true →
      a.Writes s.sessionProcessHandle entry := by
    intro entry hentry hnative
    rcases hremoves entry hentry with hwrites | hdrops
    · exact hwrites.1
    · rw [hdrops.1] at hnative
      cases hnative
  have hdrops : ∀ entry ∈ s.bps.gBreakpoints.toList, entry.2.nativePatch = false → a.Drops entry := by
    intro entry hentry hnative
    rcases hremoves entry hentry with hwrites | hdrops
    · rw [hwrites.1.1] at hnative
      cases hnative
    · exact hdrops
  rw [hfinish]
  constructor
  · intro hpromise
    have hcleared := hpromise.cleared rfl
    refine ⟨hends, fun _ _ => h.pages.1 hcleared.pages, ?_, fun _ hnot => absurd hremoves hnot,
      fun _ hnot => absurd hremoves hnot, fun _ hnot => absurd ⟨hsweeps, hremoves⟩ hnot,
      fun _ hnot => absurd hremoves hnot⟩
    intro _ _ entry hentry hnative x hx b hb
    have hbyte := hcleared.patches entry hentry hnative x hx
    rw [← hbyte]
    show b = target.memory x
    rw [htried.memory x, hb, Option.getD_some]
  · intro hdependable
    have hpages := hdependable.pages hsweeps hremoves
    have hempty := h.pages.2 hpages
    constructor
    · intro _
      constructor
      · rfl
      · rfl
      · exact h.emptied
      · exact hempty
      · intro entry hentry hnative x hx
        obtain ⟨b, hb⟩ := restoredByte_isSome hentry (hwrites entry hentry hnative) hx
        show target.memory x = own x
        rw [htried.memory x, hb, Option.getD_some]
        exact hdependable.bytes hsweeps hremoves entry hentry hnative x hx b hb
      · intro page info hinfo
        have hguard := h.guards hempty rfl page info hinfo
        show target.protection page = _
        rw [hrest]
        exact hguard
      · intro entry hentry hnative bp hbp hmem
        exact ((htried.objects bp).1 hmem).2 entry hentry (hdrops entry hentry hnative) hbp
      · intro entry hentry hnative hbp
        have hdrop := (hdrops entry hentry hnative).2
        rw [hbp] at hdrop
        cases hdrop
      · intro httd id info hinfo hwatched
        have hleft : s'.HasWatchpoint info.watchpoint := hwatched
        exact ((h.watchpoints _).1 hleft).2 httd id info hinfo rfl
    · intro hfail
      cases hfail
    · exact fun _ => rfl

/-- A record that is not removed ends the call; what has been put back by then stays so. -/
theorem promise_iff_of_stopped (h : a.Swept s s' true) (hstops : ¬ a.RemovesAll s)
    (hends : s.gSessionKind = .ttd →
      s.Retrievable ∧ Enough a.watchpoint s.bps.gMemoryBreakpoints.size 0) :
    a.Promise own s (a.finish (s', true)) ↔ a.Dependable own s := by
  have hsweeps : a.SweepsMemory s := h.result.1 rfl
  obtain ⟨target, e, heach, htried⟩ := removeEach_outcome (a := a) (s := s') s'.bps.gBreakpoints.toList
  rw [h.records, h.process] at heach htried
  have hall : (s.bps.gBreakpoints.toList.all fun entry =>
      decide (a.Removes s.sessionProcessHandle entry)) = false := by
    rw [← Bool.not_eq_true, List.all_eq_true]
    exact fun hall => hstops fun entry hentry => of_decide_eq_true (hall entry hentry)
  rw [hall] at heach
  have hfinish : a.finish (s', true) = ({ s' with target := target, lastError := e }, false) := by
    simp [finish, h.records, heach]
  have hrefused : (∃ entry ∈ s.bps.gBreakpoints.toList, ¬ a.Removes s.sessionProcessHandle entry ∧
      ¬ a.Unhooks s entry) ↔ ¬ a.AllSucceed s := by
    constructor
    · rintro ⟨entry, hentry, hnot, hnot'⟩ hall
      exact (hall.records entry hentry).elim hnot hnot'
    · intro hnot
      by_contra hnone
      push Not at hnone
      have hrecords : ∀ entry ∈ s.bps.gBreakpoints.toList,
          a.Removes s.sessionProcessHandle entry ∨ a.Unhooks s entry := by
        intro entry hentry
        by_cases hremoves : a.Removes s.sessionProcessHandle entry
        · exact .inl hremoves
        · exact .inr (hnone entry hentry hremoves)
      have httd : s.gSessionKind = .ttd := by
        by_contra hkind
        refine hstops fun entry hentry => (hrecords entry hentry).resolve_right fun hunhooks => ?_
        exact hkind hunhooks.1
      refine hnot ⟨fun hlive => ?_, h.watched, hsweeps.answered, hrecords⟩
      rw [httd] at hlive
      cases hlive
  rw [hfinish]
  constructor
  · intro hpromise
    have harmed := hpromise.armed rfl
    refine ⟨hends, fun _ hremoves => absurd hremoves hstops, fun _ hremoves => absurd hremoves hstops,
      ?_, ?_, ?_, fun _ _ => hrefused.2 fun hall => ?_⟩
    · intro _ _ entry hentry hnative hbefore x b b' hb hb'
      have hafter := harmed.records entry (by rwa [h.records]) hbefore
      rw [armed_native hnative] at hafter
      have hbyte : target.memory x = b := hafter x b hb
      rw [htried.memory x, hb', Option.getD_some] at hbyte
      exact hbyte
    · intro _ _ entry hentry hnative bp hbp hmem
      have hafter := harmed.records entry (by rwa [h.records]) ((armed_object hnative hbp).2 hmem)
      rw [armed_object hnative hbp] at hafter
      exact ((htried.objects bp).1 hafter).2
    · intro httd _ entry hentry hnative hbp hwatched id info hinfo
      have hafter := harmed.records entry (by rwa [h.records])
        ((armed_watchpoint hnative hbp).2 hwatched)
      rw [armed_watchpoint hnative hbp] at hafter
      have hleft : s'.HasWatchpoint entry.2.watchpoint := hafter
      exact ((h.watchpoints _).1 hleft).2 httd id info hinfo
    · have hfail := hpromise.succeeds hall
      cases hfail
  · intro hdependable
    constructor
    · intro hok
      cases hok
    · intro _
      constructor
      · intro entry hentry harmed
        have hentry' : entry ∈ s.bps.gBreakpoints.toList := by rwa [← h.records]
        cases hnative : entry.2.nativePatch with
        | true =>
          have hpatches := hdependable.patches hsweeps hstops entry hentry' hnative harmed
          rw [armed_native hnative] at harmed ⊢
          intro x b hb
          show target.memory x = b
          rw [htried.memory x]
          cases hbyte : a.restoredByte s.sessionProcessHandle x
              (a.reached s.sessionProcessHandle s.bps.gBreakpoints.toList) with
          | none =>
            rw [Option.getD_none, h.memory]
            exact harmed x b hb
          | some b' => exact hpatches x b b' hb hbyte
        | false =>
          cases hbp : entry.2.bp with
          | some bp =>
            rw [armed_object hnative hbp] at harmed ⊢
            refine (htried.objects bp).2 ⟨by rwa [h.objects], ?_⟩
            exact hdependable.objects hsweeps hstops entry hentry' hnative bp hbp harmed
          | none =>
            rw [armed_watchpoint hnative hbp] at harmed ⊢
            have hleft : s'.HasWatchpoint entry.2.watchpoint := by
              refine (h.watchpoints _).2 ⟨harmed, fun httd id info hinfo => ?_⟩
              exact hdependable.watchpoints httd (fun hboth => hstops hboth.2) entry hentry' hnative
                hbp harmed id info hinfo
            exact hleft
      · intro id info hinfo
        have hgone : s'.bps.gMemoryBreakpoints[id]? = some info := hinfo
        rw [h.emptied, Std.ExtTreeMap.getElem?_empty] at hgone
        cases hgone
    · intro hsucceed
      exact absurd hsucceed (hrefused.1 (hdependable.refused hsweeps hstops))

/-- `RemoveAllBreakPoints` returns and keeps what its result promises exactly under the conditions
that `Dependable` lists. -/
theorem remove_all_honest_iff (hpaused : s.pauseLock = true)
    (hkind : s.gSessionKind = .live ∨ s.gSessionKind = .ttd) :
    a.Honest own s ↔ a.Dependable own s := by
  have hpromise : ∀ {rounds s' ok}, a.removeAllMemoryBreakpoints rounds 0 s = some (s', ok) →
      (a.Promise own s (a.finish (s', ok)) ↔ a.Dependable own s) := by
    intro rounds s' ok hrun
    have hends := (ends_iff hkind).1 ⟨rounds, _, hrun⟩
    have hswept := swept_of_run hkind hrun
    cases ok with
    | false => exact promise_iff_of_failed hswept hends
    | true =>
      by_cases hremoves : a.RemovesAll s
      · exact promise_iff_of_removed hswept hremoves hends
      · exact promise_iff_of_stopped hswept hremoves hends
  constructor
  · rintro ⟨rounds, r, hrun, hkept⟩
    rw [removeAllBreakPoints_eq hpaused] at hrun
    obtain ⟨⟨s', ok⟩, hmemory, rfl⟩ := Option.map_eq_some_iff.1 hrun
    exact (hpromise hmemory).1 hkept
  · intro hdependable
    obtain ⟨rounds, ⟨s', ok⟩, hrun⟩ := (ends_iff hkind).2 hdependable.ends
    refine ⟨rounds, a.finish (s', ok), ?_, (hpromise hrun).2 hdependable⟩
    rw [removeAllBreakPoints_eq hpaused, hrun, Option.map_some]

/-- One breakpoint of the client's, and nothing else. -/
def clearableSession : Session :=
  (Session.setBPX {} 0x401000 0 (some 1)
    { gDebugIdMap := { processIndexToHandle := (∅ : Map ULONG HANDLE).insert 0 0x100 } }).1

def clearableRecord : BreakpointInfo :=
  (clearableSession.bps.gBreakpoints[(0x80000000 : ULONG)]?).getD .blank

theorem remove_all_honest_clearable :
    clearableSession.pauseLock = true ∧ RemovalAnswers.Honest {} (fun _ => 0) clearableSession := by
  have hrecords : clearableSession.bps.gBreakpoints.toList = [(0x80000000, clearableRecord)] := rfl
  have hkind : clearableSession.gSessionKind ≠ .ttd := by decide
  have hremoves : RemovalAnswers.RemovesAll {} clearableSession := by
    intro entry hentry
    rw [hrecords, List.mem_singleton] at hentry
    subst hentry
    decide
  refine ⟨by decide, (remove_all_honest_iff (by decide) (.inl (by decide))).2 ?_⟩
  constructor
  case ends => exact fun httd => absurd httd hkind
  case pages =>
    intro _ _ page info hinfo
    have hnone : clearableSession.bps.gMemoryBreakpointPages = ∅ := rfl
    rw [hnone, Std.ExtTreeMap.getElem?_empty] at hinfo
    cases hinfo
  case bytes =>
    intro _ _ entry hentry _ x hx b hb
    rw [hrecords] at hb hentry
    rw [List.mem_singleton] at hentry
    subst hentry
    have hzero : (x - 0x401000).toNat = 0 := Nat.lt_one_iff.1 hx
    have hx : x = 0x401000 := sub_eq_zero.1 (BitVec.eq_of_toNat_eq hzero)
    subst hx
    have hput : some b = some 0 := hb.symm.trans (by decide)
    exact Option.some.inj hput
  case patches => exact fun _ hnot => absurd hremoves hnot
  case objects => exact fun _ hnot => absurd hremoves hnot
  case watchpoints => exact fun httd => absurd httd hkind
  case refused => exact fun _ hnot => absurd hremoves hnot

/-- A replay with one breakpoint of the client's. -/
def replayedSession : Session :=
  (Session.setBPX {} 0x401000 0 (some 1) { gSessionKind := .ttd, gTtdCursor := some [] }).1

/-- The record of a breakpoint of a replay has no object that the engine could remove. -/
theorem remove_all_refused_in_replay :
    ¬ ∀ (a : RemovalAnswers) (own : Memory 64 BYTE) (s : Session), s.pauseLock = true →
      s.gSessionKind = .live ∨ s.gSessionKind = .ttd → a.Honest own s := by
  intro hall
  obtain ⟨rounds, r, hrun, hkept⟩ := hall {} (fun _ => 0) replayedSession (by decide) (.inr (by decide))
  have hrefused : (RemovalAnswers.removeAllBreakPoints {} 0 replayedSession).map Prod.snd = some false := by
    decide
  have hnone : replayedSession.bps.gMemoryBreakpoints = ∅ := rfl
  have hmemory : ∀ rounds, RemovalAnswers.removeAllMemoryBreakpoints {} rounds 0 replayedSession =
      some (replayedSession, true) := by
    intro rounds
    cases rounds <;> rfl
  have hsame : RemovalAnswers.removeAllBreakPoints {} rounds replayedSession =
      RemovalAnswers.removeAllBreakPoints {} 0 replayedSession := by
    rw [removeAllBreakPoints_eq (by decide), removeAllBreakPoints_eq (by decide), hmemory, hmemory]
  rw [← hsame, hrun, Option.map_some] at hrefused
  have hfailed : r.2 = false := Option.some.inj hrefused
  have hsucceeds : r.2 = true := by
    apply hkept.succeeds
    constructor
    case pages => exact fun hlive => absurd hlive (by decide)
    case watched =>
      intro _ id info hinfo
      rw [hnone, Std.ExtTreeMap.getElem?_empty] at hinfo
      cases hinfo
    case answered => exact fun _ _ _ => rfl
    case records =>
      intro entry hentry
      have hrecords : replayedSession.bps.gBreakpoints.toList = [(0x80000000,
        { id := 0x80000000, offset := 0x401000, callback := some 1 })] := rfl
      rw [hrecords, List.mem_singleton] at hentry
      subst hentry
      exact .inr ⟨by decide, rfl, rfl, ⟨[⟨0x401000, 1, ACCESS_EXECUTE⟩], rfl, by decide⟩, rfl⟩
  rw [hfailed] at hsucceeds
  cases hsucceeds

end RemovalAnswers

end TitanEngine

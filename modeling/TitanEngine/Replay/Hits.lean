import TitanEngine.Model.ReplayRuns

/-! Which accesses stop a replay, which breakpoint a stop is reported to, and when these
are the breakpoints that ask for the access. -/
namespace TitanEngine

/-- `ConvertDataAccessTypeToMask`. -/
def DataAccessType.mask (type : DataAccessType) : BYTE := 1 <<< type.value.toNat

/-- Every watchpoint of the adapter asks for reads, writes or executions, so no other
access is reported to it, and an access touches at least one byte. -/
structure MemoryWatchpointResult.Reported (access : MemoryWatchpointResult) : Prop where
  covered : access.accessType.mask &&& (ACCESS_READ ||| ACCESS_WRITE ||| ACCESS_EXECUTE) ≠ 0
  touches : access.size ≠ 0

def TitanMemoryBreakpointType.Admits : TitanMemoryBreakpointType → DataAccessType → Prop
  | .memory, _ => True
  | .read, type => type = .read
  | .write, type => type = .write
  | .execute, type => type = .execute

/-- A code breakpoint asks for executions at its address by the threads it admits. -/
structure BreakpointInfo.Asks (info : BreakpointInfo) (access : MemoryWatchpointResult)
    (thread : ULONG) : Prop where
  kind : info.kind = .software
  offset : info.offset = access.address
  admits : info.admitsThread thread = true
  executes : access.accessType = .execute

/-- A memory breakpoint asks for the accesses of its type to any of its bytes. -/
structure MemoryBreakpointInfo.Asks (info : MemoryBreakpointInfo) (access : MemoryWatchpointResult) :
    Prop where
  admits : info.type.Admits access.accessType
  starts : info.start.toNat < access.address.toNat + access.size.toNat
  ends : access.address.toNat < info.start.toNat + info.size.toNat

theorem DataAccessType.covered {type : DataAccessType}
    (h : type.mask &&& (ACCESS_READ ||| ACCESS_WRITE ||| ACCESS_EXECUTE) ≠ 0) :
    type = .read ∨ type = .write ∨ type = .execute := by
  revert h
  cases type <;> decide

/-- The range test of the adapter, which looks at the first byte of an access only. -/
theorem inRange_iff (start size address : ULONG64) :
    ¬ (address < start ∨ size ≤ address - start) ↔
      start.toNat ≤ address.toNat ∧ address.toNat < start.toNat + size.toNat := by
  rw [not_or, BitVec.not_lt, BitVec.not_le, BitVec.le_def, BitVec.lt_def, BitVec.toNat_sub]
  have hstart := start.isLt
  have haddress := address.isLt
  constructor
  · rintro ⟨hle, hlt⟩
    have hmod : (2 ^ 64 - start.toNat + address.toNat) % 2 ^ 64 = address.toNat - start.toNat := by
      omega
    omega
  · rintro ⟨hle, hlt⟩
    have hmod : (2 ^ 64 - start.toNat + address.toNat) % 2 ^ 64 = address.toNat - start.toNat := by
      omega
    omega

theorem matches_iff (info : MemoryBreakpointInfo) {access : MemoryWatchpointResult}
    (hreported : access.Reported) :
    ttdMemoryBreakpointMatches info access.address access.accessType.value = true ↔
      info.type.Admits access.accessType ∧ info.start.toNat ≤ access.address.toNat ∧
        access.address.toNat < info.start.toNat + info.size.toNat := by
  rw [← inRange_iff]
  unfold ttdMemoryBreakpointMatches
  split
  · rename_i hout
    simp [hout]
  · rename_i hin
    rw [and_iff_left hin]
    obtain h | h | h := DataAccessType.covered hreported.covered <;> rw [h] <;>
      cases info.type <;> simp [TitanMemoryBreakpointType.Admits, DataAccessType.value]

namespace TtdSession

/-- A code breakpoint is set at the address and admits the thread. -/
def CodeAt (address : ULONG64) (thread : ULONG) (t : TtdSession) : Prop :=
  ∃ id info, t.bps.gBreakpoints[(id : ULONG)]? = some info ∧ info.kind = .software ∧
    info.offset = address ∧ info.admitsThread thread = true

/-- A memory breakpoint matches as far as the adapter looks. -/
def DataAt (address accessType : ULONG64) (t : TtdSession) : Prop :=
  ∃ id info, t.bps.gMemoryBreakpoints[(id : ULONG64)]? = some info ∧
    ttdMemoryBreakpointMatches info address accessType = true

/-- Some breakpoint answers for the hit. -/
def Answers (hit : TtdWatchHit) (t : TtdSession) : Prop :=
  t.CodeAt hit.address hit.uniqueThreadId ∨ t.DataAt hit.address hit.flags

theorem any_code_iff (address : ULONG64) (thread : ULONG) (t : TtdSession) :
    ((t.bps.gBreakpoints.toList.filter fun entry =>
      entry.2.kind = .software ∧ entry.2.offset = address).any fun entry =>
        entry.2.admitsThread thread) = true ↔ t.CodeAt address thread := by
  rw [List.any_eq_true]
  constructor
  · rintro ⟨⟨id, info⟩, hmem, hthread⟩
    rw [List.mem_filter, Std.ExtTreeMap.mem_toList_iff_getElem?_eq_some] at hmem
    obtain ⟨hkind, hoffset⟩ := of_decide_eq_true hmem.2
    exact ⟨id, info, hmem.1, hkind, hoffset, hthread⟩
  · rintro ⟨id, info, hinfo, hkind, hoffset, hthread⟩
    have hmem := Std.ExtTreeMap.mem_toList_iff_getElem?_eq_some.mpr hinfo
    exact ⟨(id, info), List.mem_filter.mpr ⟨hmem, decide_eq_true ⟨hkind, hoffset⟩⟩, hthread⟩

theorem filter_data_iff (address accessType : ULONG64) (t : TtdSession) :
    (!(t.bps.gMemoryBreakpoints.toList.filter fun entry =>
      ttdMemoryBreakpointMatches entry.2 address accessType).isEmpty) = true ↔
        t.DataAt address accessType := by
  rw [Bool.not_eq_true', List.isEmpty_eq_false_iff_exists_mem]
  constructor
  · rintro ⟨⟨id, info⟩, hmem⟩
    rw [List.mem_filter, Std.ExtTreeMap.mem_toList_iff_getElem?_eq_some] at hmem
    exact ⟨id, info, hmem⟩
  · rintro ⟨id, info, hinfo, hmatches⟩
    have hmem := Std.ExtTreeMap.mem_toList_iff_getElem?_eq_some.mpr hinfo
    exact ⟨(id, info), List.mem_filter.mpr ⟨hmem, hmatches⟩⟩

/-- The hit that an accepted access leaves. -/
def hitOf (access : MemoryWatchpointResult) (view : ThreadView) : TtdWatchHit :=
  ⟨access.address, access.size, access.accessType.value, view.position, view.thread.uniqueId,
    view.thread.id⟩

theorem callback_view (access : MemoryWatchpointResult) (view : ThreadView) (t : TtdSession) :
    (t.Answers (hitOf access view) ∧ t.ttdMemoryWatchpointCallback access (some view) =
      ({ t with gTtdWatchHit := some (hitOf access view) }, true)) ∨
    (¬ t.Answers (hitOf access view) ∧
      t.ttdMemoryWatchpointCallback access (some view) = (t, false)) := by
  have hcode := any_code_iff access.address view.thread.uniqueId t
  have hdata := filter_data_iff access.address access.accessType.value t
  simp only [ttdMemoryWatchpointCallback]
  generalize t.bps.gBreakpoints.toList.filter _ = software at hcode ⊢
  generalize t.bps.gMemoryBreakpoints.toList.filter _ = memory at hdata ⊢
  have hanswers : ((software.any fun entry => entry.2.admitsThread view.thread.uniqueId) ||
      !memory.isEmpty) = true ↔ t.Answers (hitOf access view) := by
    rw [Bool.or_eq_true, hcode, hdata]
    rfl
  have hregistered : ((software.any fun entry => entry.2.admitsThread view.thread.uniqueId) ||
      !memory.isEmpty) = true → (!software.isEmpty || !memory.isEmpty) = true := by
    intro h
    cases software with
    | nil => simpa using h
    | cons _ _ => rfl
  split
  · rename_i hrefused
    refine .inr ⟨fun h => ?_, rfl⟩
    have haccepted := hanswers.mpr h
    simp [hregistered haccepted, haccepted] at hrefused
  · rename_i haccepted
    refine .inl ⟨hanswers.mp ?_, rfl⟩
    simp only [Bool.or_eq_true, Bool.not_eq_true', not_or, Bool.not_eq_false] at haccepted
    simpa using haccepted.2

theorem callback_accepts_iff (access : MemoryWatchpointResult) (view : ThreadView) (t : TtdSession) :
    (t.ttdMemoryWatchpointCallback access (some view)).2 = true ↔ t.Answers (hitOf access view) := by
  obtain ⟨hanswers, heq⟩ | ⟨hanswers, heq⟩ := callback_view access view t
  · simp [heq, hanswers]
  · simp [heq, hanswers]

theorem softwareBreakpointOf_eq_none_iff (hit : TtdWatchHit) (t : TtdSession) :
    t.softwareBreakpointOf hit = none ↔ ¬ t.CodeAt hit.address hit.uniqueThreadId := by
  simp only [softwareBreakpointOf, List.find?_eq_none]
  constructor
  · rintro hnone ⟨id, info, hinfo, hmatches⟩
    have hmem := Std.ExtTreeMap.mem_toList_iff_getElem?_eq_some.mpr hinfo
    exact hnone _ hmem (decide_eq_true hmatches)
  · rintro hcode ⟨id, info⟩ hmem hmatches
    rw [Std.ExtTreeMap.mem_toList_iff_getElem?_eq_some] at hmem
    exact hcode ⟨id, info, hmem, of_decide_eq_true hmatches⟩

theorem memoryBreakpointOf_eq_none_iff (hit : TtdWatchHit) (t : TtdSession) :
    t.memoryBreakpointOf hit = none ↔ ¬ t.DataAt hit.address hit.flags := by
  simp only [memoryBreakpointOf, List.find?_eq_none]
  constructor
  · rintro hnone ⟨id, info, hinfo, hmatches⟩
    have hmem := Std.ExtTreeMap.mem_toList_iff_getElem?_eq_some.mpr hinfo
    exact hnone _ hmem hmatches
  · rintro hdata ⟨id, info⟩ hmem hmatches
    rw [Std.ExtTreeMap.mem_toList_iff_getElem?_eq_some] at hmem
    exact hdata ⟨id, info, hmem, hmatches⟩

theorem softwareBreakpointOf_spec {hit : TtdWatchHit} {t : TtdSession} {id : ULONG}
    {info : BreakpointInfo} (h : t.softwareBreakpointOf hit = some (id, info)) :
    t.bps.gBreakpoints[id]? = some info ∧ info.kind = .software ∧ info.offset = hit.address ∧
      info.admitsThread hit.uniqueThreadId = true := by
  unfold softwareBreakpointOf at h
  have hmatches := List.find?_some h
  exact ⟨Std.ExtTreeMap.mem_toList_iff_getElem?_eq_some.mp (List.mem_of_find?_eq_some h),
    of_decide_eq_true hmatches⟩

theorem memoryBreakpointOf_spec {hit : TtdWatchHit} {t : TtdSession} {id : ULONG64}
    {info : MemoryBreakpointInfo} (h : t.memoryBreakpointOf hit = some (id, info)) :
    t.bps.gMemoryBreakpoints[id]? = some info ∧
      ttdMemoryBreakpointMatches info hit.address hit.flags = true := by
  unfold memoryBreakpointOf at h
  have hmatches := List.find?_some h
  exact ⟨Std.ExtTreeMap.mem_toList_iff_getElem?_eq_some.mp (List.mem_of_find?_eq_some h), hmatches⟩

theorem removeMemoryWatchpoint_bps (env : Env) (data : MemoryWatchpointData) (s : Session) :
    (s.removeMemoryWatchpoint env data).1.bps = s.bps := by
  unfold Session.removeMemoryWatchpoint
  split
  · split <;> rfl
  · rfl

theorem consumeSoftware_tables (env : Env) (id : ULONG) (info : BreakpointInfo) (t : TtdSession) :
    (t.consumeSoftware env id info).bps.gBreakpoints =
        (if info.oneShot then t.bps.gBreakpoints.erase id else t.bps.gBreakpoints) ∧
      (t.consumeSoftware env id info).bps.gMemoryBreakpoints = t.bps.gMemoryBreakpoints := by
  unfold consumeSoftware
  split
  · simp only [removeMemoryWatchpoint_bps, and_self]
  · exact ⟨rfl, rfl⟩

theorem consumeMemory_tables {t : TtdSession} (hkind : t.gSessionKind = .ttd) (env : Env)
    (id : ULONG64) (info : MemoryBreakpointInfo) :
    (t.consumeMemory env id info).bps.gBreakpoints = t.bps.gBreakpoints ∧
      ((t.consumeMemory env id info).bps.gMemoryBreakpoints = t.bps.gMemoryBreakpoints ∨
        info.restoreOnHit = false ∧ (t.consumeMemory env id info).bps.gMemoryBreakpoints =
          t.bps.gMemoryBreakpoints.erase id) := by
  unfold consumeMemory
  split
  · exact ⟨rfl, .inl rfl⟩
  · rename_i hrestore
    simp only [Bool.not_eq_true] at hrestore
    unfold Session.removeMemoryBreakpointById
    cases t.bps.gMemoryBreakpoints[id]? with
    | none => exact ⟨rfl, .inl rfl⟩
    | some breakpoint =>
      have hbps := removeMemoryWatchpoint_bps env
        ⟨breakpoint.start, breakpoint.size, Session.ttdMemoryWatchMask breakpoint.type⟩ t.toSession
      simp only [hkind, if_true]
      split
      · rename_i heq
        rw [heq] at hbps
        have hbps : _ = t.bps := hbps
        exact ⟨by rw [hbps], .inr ⟨hrestore, by rw [hbps]⟩⟩
      · rename_i heq
        rw [heq] at hbps
        have hbps : _ = t.bps := hbps
        exact ⟨by rw [hbps], .inl (by rw [hbps])⟩

theorem queueTtdWatchpointHit_code {hit : TtdWatchHit} {t : TtdSession} {id : ULONG}
    {info : BreakpointInfo} (env : Env) (h : t.softwareBreakpointOf hit = some (id, info)) :
    t.queueTtdWatchpointHit env (some hit) =
      ((t.consumeSoftware env id info).queueCallback (.breakpoint hit info.callback), true) := by
  simp [queueTtdWatchpointHit, h]

theorem queueTtdWatchpointHit_data {hit : TtdWatchHit} {t : TtdSession} {id : ULONG64}
    {info : MemoryBreakpointInfo} (env : Env) (hcode : t.softwareBreakpointOf hit = none)
    (h : t.memoryBreakpointOf hit = some (id, info)) :
    t.queueTtdWatchpointHit env (some hit) =
      ((t.consumeMemory env id info).queueCallback (.memoryBreakpoint hit info.callback), true) := by
  simp [queueTtdWatchpointHit, hcode, h]

@[simp] theorem queue_consumeSoftware (env : Env) (id : ULONG) (info : BreakpointInfo)
    (t : TtdSession) : (t.consumeSoftware env id info).queue = t.queue := by
  unfold consumeSoftware
  split <;> rfl

@[simp] theorem queue_consumeMemory (env : Env) (id : ULONG64) (info : MemoryBreakpointInfo)
    (t : TtdSession) : (t.consumeMemory env id info).queue = t.queue := by
  unfold consumeMemory
  split <;> rfl

/-- Some breakpoint asks for the access. -/
def Wanted (access : MemoryWatchpointResult) (thread : ULONG) (t : TtdSession) : Prop :=
  (∃ id info, t.bps.gBreakpoints[(id : ULONG)]? = some info ∧ info.Asks access thread) ∨
    ∃ id info, t.bps.gMemoryBreakpoints[(id : ULONG64)]? = some info ∧ info.Asks access

/-- From `t` to `t'` one callback is queued, that of a breakpoint asking for the access,
and no other record is taken off, nor this one unless it is a one-shot. -/
inductive ReportsAsked (access : MemoryWatchpointResult) (view : ThreadView) (t t' : TtdSession) : Prop
  | code {id : ULONG} {info : BreakpointInfo} (found : t.bps.gBreakpoints[id]? = some info)
      (asks : info.Asks access view.thread.uniqueId)
      (queue : t'.queue = t.queue ++ [.breakpoint (hitOf access view) info.callback])
      (codeKept : t'.bps.gBreakpoints =
        if info.oneShot then t.bps.gBreakpoints.erase id else t.bps.gBreakpoints)
      (dataKept : t'.bps.gMemoryBreakpoints = t.bps.gMemoryBreakpoints)
  | data {id : ULONG64} {info : MemoryBreakpointInfo}
      (found : t.bps.gMemoryBreakpoints[id]? = some info) (asks : info.Asks access)
      (queue : t'.queue = t.queue ++ [.memoryBreakpoint (hitOf access view) info.callback])
      (codeKept : t'.bps.gBreakpoints = t.bps.gBreakpoints)
      (dataKept : t'.bps.gMemoryBreakpoints = t.bps.gMemoryBreakpoints ∨
        info.restoreOnHit = false ∧
          t'.bps.gMemoryBreakpoints = t.bps.gMemoryBreakpoints.erase id)

/-- An access stops the replay just if a breakpoint asks for it, and is then reported
to one that does. -/
structure Answered (env : Env) (access : MemoryWatchpointResult) (view : ThreadView)
    (t : TtdSession) : Prop where
  accepts : (t.ttdMemoryWatchpointCallback access (some view)).2 = true ↔
    t.Wanted access view.thread.uniqueId
  reports : (t.ttdMemoryWatchpointCallback access (some view)).2 = true →
    let stopped := (t.ttdMemoryWatchpointCallback access (some view)).1
    ReportsAsked access view t (stopped.queueTtdWatchpointHit env stopped.gTtdWatchHit).1

/-- A code breakpoint at the address meets executions only; without one, if a memory
breakpoint asks for the access, one matches it by its first byte. -/
structure Aligned (access : MemoryWatchpointResult) (thread : ULONG) (t : TtdSession) : Prop where
  code : t.CodeAt access.address thread → access.accessType = .execute
  data : ¬ t.CodeAt access.address thread → ∀ id info,
    t.bps.gMemoryBreakpoints[(id : ULONG64)]? = some info → info.Asks access →
      t.DataAt access.address access.accessType.value

section Access
variable {t : TtdSession} {access : MemoryWatchpointResult} {view : ThreadView}

theorem asks_of_matches (hreported : access.Reported) {info : MemoryBreakpointInfo}
    (h : ttdMemoryBreakpointMatches info access.address access.accessType.value = true) :
    info.Asks access := by
  obtain ⟨hadmits, hstart, hend⟩ := (matches_iff info hreported).mp h
  have hsize : access.size.toNat ≠ 0 := fun h0 => hreported.touches (BitVec.eq_of_toNat_eq h0)
  exact ⟨hadmits, by omega, hend⟩

theorem wanted_of_answers (hreported : access.Reported)
    (haligned : t.CodeAt access.address view.thread.uniqueId → access.accessType = .execute)
    (h : t.Answers (hitOf access view)) : t.Wanted access view.thread.uniqueId := by
  obtain hcode | ⟨id, info, hinfo, hmatches⟩ := h
  · obtain ⟨id, info, hinfo, hkind, hoffset, hthread⟩ := hcode
    have hexecute := haligned ⟨id, info, hinfo, hkind, hoffset, hthread⟩
    exact .inl ⟨id, info, hinfo, hkind, hoffset, hthread, hexecute⟩
  · exact .inr ⟨id, info, hinfo, asks_of_matches hreported hmatches⟩

theorem answers_of_wanted (haligned : t.Aligned access view.thread.uniqueId)
    (h : t.Wanted access view.thread.uniqueId) : t.Answers (hitOf access view) := by
  by_cases hcode : t.CodeAt access.address view.thread.uniqueId
  · exact .inl hcode
  · obtain ⟨id, info, hinfo, hasks⟩ | ⟨id, info, hinfo, hasks⟩ := h
    · exact absurd ⟨id, info, hinfo, hasks.kind, hasks.offset, hasks.admits⟩ hcode
    · exact .inr (haligned.data hcode id info hinfo hasks)

/-- With the breakpoints aligned, the report goes to a breakpoint that asks. -/
theorem reportsAsked_of_aligned (hkind : t.gSessionKind = .ttd) (hreported : access.Reported)
    (haligned : t.Aligned access view.thread.uniqueId) (env : Env)
    (hanswers : t.Answers (hitOf access view)) :
    ReportsAsked access view t
      (({ t with gTtdWatchHit := some (hitOf access view) }).queueTtdWatchpointHit env
        (some (hitOf access view))).1 := by
  generalize hstopped : { t with gTtdWatchHit := some (hitOf access view) } = stopped
  have hbps : stopped.bps = t.bps := by rw [← hstopped]
  have hqueue : stopped.queue = t.queue := by rw [← hstopped]
  have hkind' : stopped.gSessionKind = .ttd := by rw [← hstopped]; exact hkind
  have hanswers' : stopped.Answers (hitOf access view) := by rw [← hstopped]; exact hanswers
  cases hcode : stopped.softwareBreakpointOf (hitOf access view) with
  | some entry =>
    obtain ⟨id, info⟩ := entry
    obtain ⟨hinfo, hsoftware, hoffset, hthread⟩ := softwareBreakpointOf_spec hcode
    obtain ⟨hcodeKept, hdataKept⟩ := consumeSoftware_tables env id info stopped
    rw [hbps] at hinfo hcodeKept hdataKept
    have hexecute := haligned.code ⟨id, info, hinfo, hsoftware, hoffset, hthread⟩
    rw [queueTtdWatchpointHit_code env hcode]
    refine .code hinfo ⟨hsoftware, hoffset, hthread, hexecute⟩ ?_ hcodeKept hdataKept
    simp [queueCallback, hqueue]
  | none =>
    have hnone := (softwareBreakpointOf_eq_none_iff _ _).mp hcode
    cases hdata : stopped.memoryBreakpointOf (hitOf access view) with
    | none =>
      have hnone' := (memoryBreakpointOf_eq_none_iff _ _).mp hdata
      exact absurd hanswers' (not_or.mpr ⟨hnone, hnone'⟩)
    | some entry =>
      obtain ⟨id, info⟩ := entry
      obtain ⟨hinfo, hmatches⟩ := memoryBreakpointOf_spec hdata
      obtain ⟨hcodeKept, hdataKept⟩ := consumeMemory_tables hkind' env id info
      rw [hbps] at hinfo hcodeKept hdataKept
      rw [queueTtdWatchpointHit_data env hcode hdata]
      refine .data hinfo (asks_of_matches hreported hmatches) ?_ hcodeKept hdataKept
      simp [queueCallback, hqueue]

/-- If the report goes to a breakpoint that asks, a code breakpoint at the address was
executed: it comes before every memory breakpoint. -/
theorem execute_of_reportsAsked (env : Env)
    (hcode : t.CodeAt access.address view.thread.uniqueId)
    (h : ReportsAsked access view t
      (({ t with gTtdWatchHit := some (hitOf access view) }).queueTtdWatchpointHit env
        (some (hitOf access view))).1) : access.accessType = .execute := by
  generalize hstopped : { t with gTtdWatchHit := some (hitOf access view) } = stopped at h
  have hqueue : stopped.queue = t.queue := by rw [← hstopped]
  have hcode' : stopped.CodeAt access.address view.thread.uniqueId := by rw [← hstopped]; exact hcode
  cases hfound : stopped.softwareBreakpointOf (hitOf access view) with
  | none => exact absurd hcode' ((softwareBreakpointOf_eq_none_iff _ _).mp hfound)
  | some entry =>
    rw [queueTtdWatchpointHit_code env hfound] at h
    cases h with
    | code found asks queue codeKept dataKept => exact asks.executes
    | data found asks queue codeKept dataKept =>
      simp [queueCallback, hqueue] at queue

/-- The two scans of the adapter answer an access as its breakpoints ask, if and only if
the breakpoints around its address are aligned with it. -/
theorem access_answered_iff (hkind : t.gSessionKind = .ttd) (hreported : access.Reported)
    (env : Env) : Answered env access view t ↔ t.Aligned access view.thread.uniqueId := by
  have hiff := callback_accepts_iff access view t
  have hreport : t.Answers (hitOf access view) →
      (t.ttdMemoryWatchpointCallback access (some view)).1 =
        { t with gTtdWatchHit := some (hitOf access view) } := by
    intro hanswers
    obtain ⟨_, heq⟩ | ⟨hnot, _⟩ := callback_view access view t
    · rw [heq]
    · exact absurd hanswers hnot
  constructor
  · intro h
    constructor
    · intro hcode
      have hanswers : t.Answers (hitOf access view) := .inl hcode
      have hasked := h.reports (hiff.mpr hanswers)
      simp only [hreport hanswers] at hasked
      exact execute_of_reportsAsked env hcode hasked
    · intro hcode id info hinfo hasks
      have hanswers := hiff.mp (h.accepts.mpr (.inr ⟨id, info, hinfo, hasks⟩))
      exact hanswers.resolve_left hcode
  · intro haligned
    constructor
    · rw [hiff]
      exact ⟨wanted_of_answers hreported haligned.code, answers_of_wanted haligned⟩
    · intro haccepted
      have hanswers := hiff.mp haccepted
      simp only [hreport hanswers]
      exact reportsAsked_of_aligned hkind hreported haligned env hanswers

end Access

end TtdSession

/-- The only thread and the only module of a short trace. -/
def mainThread : ThreadInfo := ⟨1, 0x100⟩

def mainImage : TtdModuleInfo := ⟨0x400000, 0x1000, 0, "a.exe"⟩

def mainSnapshot : Snapshot := ⟨[mainThread], [mainImage], by decide, by decide, by decide⟩

def shortTrace : Trace where
  firstPosition := ⟨1, 0⟩
  lastPosition := ⟨9, 0⟩
  exceptionEvents := []
  snapshot _ := mainSnapshot
  tebAddress _ _ := 0x7000
  programCounter _ := 0x401000

def shortReplay : TtdSession where
  gTtdEngine := shortTrace
  cursor := ⟨⟨1, 0⟩, mainThread⟩
  gTtdCurrentThreadId := 0x100
  gTtdCursor := some []
  gDebugIdMap :=
    { threadIndexToHandle := {(1, TtdSession.syntheticHandle 2)}
      threadHandleToIndex := {(TtdSession.syntheticHandle 2, 1)} }
  gHandleRegistry := {(TtdSession.syntheticHandle 2, ⟨.thread, 1, 0x100, 0, false⟩)}
  gTtdActiveModules := {(0x400000, "a.exe")}

/-- A write breakpoint on one byte. -/
def byteWatch : MemoryBreakpointInfo := ⟨1, 0x2000, 1, .write, true, some 5⟩

def watchedReplay : TtdSession :=
  { shortReplay with bps := { gMemoryBreakpoints := {(1, byteWatch)} } }

def mainView : ThreadView := ⟨mainThread, ⟨2, 0⟩⟩

def byteWrite : MemoryWatchpointResult := ⟨0x2000, 1, .write⟩

/-- Eight bytes of which the watched one is the fifth. -/
def wideWrite : MemoryWatchpointResult := ⟨0x1FFC, 8, .write⟩

theorem access_answered_byte :
    TtdSession.Answered {} byteWrite mainView watchedReplay ↔ watchedReplay.Aligned byteWrite 1 :=
  TtdSession.access_answered_iff (t := watchedReplay) rfl ⟨by decide, by decide⟩ {}

/-- A write that covers a watched byte passes when it starts below it. -/
theorem access_not_answered :
    wideWrite.Reported ∧ ¬ TtdSession.Answered {} wideWrite mainView watchedReplay := by
  have hreported : wideWrite.Reported := ⟨by decide, by decide⟩
  have hfound : watchedReplay.bps.gMemoryBreakpoints[(1 : ULONG64)]? = some byteWatch := by decide
  have hwanted : watchedReplay.Wanted wideWrite mainView.thread.uniqueId :=
    .inr ⟨1, byteWatch, hfound, rfl, by decide, by decide⟩
  refine ⟨hreported, fun h => ?_⟩
  have haccepted := h.accepts.mpr hwanted
  revert haccepted
  decide

end TitanEngine

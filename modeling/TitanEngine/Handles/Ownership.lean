import TitanEngine.Handles.Refinement
import TitanEngine.Lib.Custody
import TitanEngine.Lib.Runs
import TitanEngine.Model.NativeHandles

/-! The handles that the exports had Windows open for the client: each is closed once at most,
nothing else is closed, and none is left when the registry is cleared. -/
namespace TitanEngine

namespace HandleTables
variable {b : Build} {s : HandleTables b}

theorem closes_insert (handle other : BitVec b.bits) (entry : RegistryEntry b) :
    ({ s with gHandleRegistry := s.gHandleRegistry.insert handle entry }).closes other =
      if other = handle then entry.closes else s.closes other := by
  unfold closes
  dsimp only
  by_cases hother : other = handle
  · rw [if_pos hother, hother, Std.ExtTreeMap.getElem?_insert_self, Option.bind_some]
  · rw [if_neg hother, MapSums.getElem?_insert_of_ne hother]

theorem closes_erase (handle other : BitVec b.bits) :
    (s.unregisterTitanHandle handle).closes other =
      if other = handle then none else s.closes other := by
  unfold closes unregisterTitanHandle
  dsimp only
  by_cases hother : other = handle
  · rw [if_pos hother, hother, Std.ExtTreeMap.getElem?_erase_self, Option.bind_none]
  · rw [if_neg hother, MapSums.getElem?_erase_of_ne hother]

theorem closes_of_eq {s' : HandleTables b} (h : s'.gHandleRegistry = s.gHandleRegistry)
    (handle : BitVec b.bits) : s'.closes handle = s.closes handle := by
  rw [closes, closes, h]

theorem closes_of_empty (h : s.gHandleRegistry = ∅) (handle : BitVec b.bits) :
    s.closes handle = none := by
  rw [closes, h, Std.ExtTreeMap.getElem?_empty, Option.bind_none]

theorem gHandleRegistry_index (type : TitanHandleType) (handle : BitVec b.bits) (dbgengId : ULONG)
    (address : ULONG64) (s : HandleTables b) :
    (s.index type handle dbgengId address).gHandleRegistry = s.gHandleRegistry := by
  cases type <;> rfl

theorem gHandleRegistry_registeredNativeHandle (handle : BitVec b.bits) (type : TitanHandleType)
    (s : HandleTables b) :
    (s.registeredNativeHandle handle type).1.gHandleRegistry = s.gHandleRegistry := by
  unfold registeredNativeHandle
  split
  · split <;> rfl
  · rfl

theorem closes_registerTitanHandle {handle : BitVec b.bits} (hzero : handle ≠ 0)
    (hinvalid : handle ≠ b.invalidHandleValue) (other : BitVec b.bits) (entry : RegistryEntry b) :
    (s.registerTitanHandle handle entry).closes other =
      if other = handle then entry.closes else s.closes other := by
  unfold registerTitanHandle
  rw [if_neg (not_or.mpr ⟨hzero, hinvalid⟩), closes_insert]

/-- An entry that is nobody's leaves what is to be closed as it was, on a handle that was not to
be closed. -/
theorem closes_registerTitanHandle_none {handle : BitVec b.bits} (hfree : s.closes handle = none)
    {entry : RegistryEntry b} (hentry : entry.closes = none) (other : BitVec b.bits) :
    (s.registerTitanHandle handle entry).closes other = s.closes other := by
  unfold registerTitanHandle
  split
  · rfl
  · rw [closes_insert]
    by_cases hother : other = handle
    · rw [if_pos hother, hentry, hother, hfree]
    · rw [if_neg hother]

theorem closes_unregisterTitanHandle_none {handle : BitVec b.bits} (hfree : s.closes handle = none)
    (other : BitVec b.bits) : (s.unregisterTitanHandle handle).closes other = s.closes other := by
  rw [closes_erase]
  by_cases hother : other = handle
  · rw [if_pos hother, hother, hfree]
  · rw [if_neg hother]

theorem closes_titanCloseHandle_none {hEngineHandle : BitVec b.bits}
    (hfree : s.closes hEngineHandle = none) (closed : Bool) (other : BitVec b.bits) :
    (s.titanCloseHandle hEngineHandle closed).1.closes other = s.closes other := by
  rcases gHandleRegistry_titanCloseHandle hEngineHandle closed s with hsame | herased
  · exact closes_of_eq hsame other
  · rw [closes_of_eq (s := s.unregisterTitanHandle hEngineHandle) herased]
    exact closes_unregisterTitanHandle_none hfree other

theorem closes_titanCloseHandle_some {hEngineHandle handle : BitVec b.bits}
    (hcloses : s.closes hEngineHandle = some handle) (other : BitVec b.bits) :
    (s.titanCloseHandle hEngineHandle true).1.closes other =
      if other = hEngineHandle then none else s.closes other := by
  unfold closes at hcloses
  obtain ⟨entry, hfound, hentry⟩ := Option.bind_eq_some_iff.mp hcloses
  unfold RegistryEntry.closes at hentry
  split at hentry
  · rename_i howned
    have hregistry := gHandleRegistry_titanCloseHandle_of_some hfound true
    rw [if_pos ⟨howned.1, .inr rfl⟩] at hregistry
    rw [closes_of_eq (s := s.unregisterTitanHandle hEngineHandle) hregistry]
    exact closes_erase hEngineHandle other
  · cases hentry

theorem mem_callerOwnedNativeHandles {handle : BitVec b.bits} :
    handle ∈ s.callerOwnedNativeHandles ↔ ∃ key, s.closes key = some handle := by
  unfold callerOwnedNativeHandles closes
  rw [List.mem_filterMap]
  constructor
  · rintro ⟨⟨key, entry⟩, hmem, hentry⟩
    have hfound := Std.ExtTreeMap.mem_toList_iff_getElem?_eq_some.mp hmem
    exact ⟨key, by rw [hfound, Option.bind_some]; exact hentry⟩
  · rintro ⟨key, hcloses⟩
    obtain ⟨entry, hfound, hentry⟩ := Option.bind_eq_some_iff.mp hcloses
    exact ⟨(key, entry), Std.ExtTreeMap.mem_toList_iff_getElem?_eq_some.mpr hfound, hentry⟩

/-- What is closed under its own value is closed once. -/
theorem nodup_callerOwnedNativeHandles
    (hkeys : ∀ key handle, s.closes key = some handle → handle = key) :
    s.callerOwnedNativeHandles.Nodup := by
  unfold callerOwnedNativeHandles
  rw [List.Nodup, List.pairwise_filterMap]
  refine List.Pairwise.imp_of_mem ?_ s.gHandleRegistry.distinct_keys_toList
  intro first second hfirst hsecond hdistinct handle hhandle other hother
  have hkey : ∀ entry ∈ s.gHandleRegistry.toList, ∀ n, entry.2.closes = some n → n = entry.1 := by
    intro entry hmem n hn
    have hfound := Std.ExtTreeMap.mem_toList_iff_getElem?_eq_some.mp hmem
    exact hkeys entry.1 n (by rw [closes, hfound, Option.bind_some]; exact hn)
  rw [hkey first hfirst handle hhandle, hkey second hsecond other hother]
  intro heq
  exact hdistinct (by rw [heq]; exact Std.ReflCmp.compare_self)

end HandleTables

namespace HandleWorld
variable {b : Build} {w : HandleWorld b} {handle : BitVec b.bits}

/-- The handles that the client has from the exports. -/
def callers (w : HandleWorld b) : Set (BitVec b.bits) := {handle | w.owner handle = some .caller}

theorem receive_tables (s : HandleTables b) :
    ({ w with tables := s } : HandleWorld b).receive handle = { w.receive handle with tables := s } := by
  unfold receive
  split <;> rfl

theorem mem_callers_of_update {w' : HandleWorld b} {next : Option HandleOwner}
    (h : w'.owner = Function.update w.owner handle next) (other : BitVec b.bits) :
    other ∈ w'.callers ↔ if other = handle then next = some .caller else other ∈ w.callers := by
  change w'.owner other = some .caller ↔ _
  rw [h, Function.update_apply]
  split <;> rfl

theorem callers_receive (hzero : handle ≠ 0) : (w.receive handle).callers = insert handle w.callers := by
  ext other
  have howner : (w.receive handle).owner = Function.update w.owner handle (some .caller) := by
    rw [receive, if_neg hzero]
  rw [mem_callers_of_update howner, Set.mem_insert_iff]
  by_cases hother : other = handle <;> simp [hother]

theorem callers_closeHandle : (w.closeHandle handle).callers = w.callers \ {handle} := by
  ext other
  rw [mem_callers_of_update rfl, Set.mem_sdiff, Set.mem_singleton_iff]
  by_cases hother : other = handle <;> simp [hother]

theorem callers_elsewhere {next : Option HandleOwner} (hbefore : w.owner handle ≠ some .caller)
    (hafter : next ≠ some .caller) :
    ({ w with owner := Function.update w.owner handle next } : HandleWorld b).callers = w.callers := by
  ext other
  rw [mem_callers_of_update rfl]
  by_cases hother : other = handle
  · rw [if_pos hother, hother]
    exact iff_of_false hafter hbefore
  · rw [if_neg hother]

/-- What the adapter has opened and closed, whatever the registry says. -/
structure Kept (w : HandleWorld b) : Prop where
  native : ∀ handle ∈ w.callers, handle ≠ 0 ∧ 4 ∣ handle.toNat
  balanced : Custody.Balanced w.callers w.opened (w.closed.map Prod.fst)
  own : ∀ entry ∈ w.closed, entry.2 = some .caller

theorem Kept.receive (h : w.Kept) (hanswer : w.Answers handle) : (w.receive handle).Kept := by
  by_cases hzero : handle = 0
  · rw [HandleWorld.receive, if_pos hzero]
    exact h
  have hfresh := hanswer.resolve_left hzero
  have hcallers := callers_receive (w := w) hzero
  have hfree : handle ∉ w.callers := by simp [callers, hfresh.2]
  have hopened : (w.receive handle).opened = handle :: w.opened := by rw [HandleWorld.receive, if_neg hzero]
  have hclosed : (w.receive handle).closed = w.closed := by rw [HandleWorld.receive, if_neg hzero]
  constructor
  · intro other hother
    rw [hcallers] at hother
    rcases hother with rfl | hother
    · exact ⟨hzero, hfresh.1⟩
    · exact h.native other hother
  · rw [hcallers, hopened, hclosed]
    exact h.balanced.take hfree
  · rw [hclosed]
    exact h.own

theorem Kept.closeHandle (h : w.Kept) (howner : handle ∈ w.callers) : (w.closeHandle handle).Kept := by
  constructor
  · intro other hother
    rw [callers_closeHandle] at hother
    exact h.native other hother.1
  · rw [callers_closeHandle]
    exact h.balanced.give howner
  · intro entry hmem
    rcases List.mem_cons.mp hmem with rfl | hmem
    · exact howner
    · exact h.own entry hmem

/-- Closing distinct handles of the caller one after the other. -/
theorem Kept.closeAll {handles : List (BitVec b.bits)} (h : w.Kept) (hnodup : handles.Nodup)
    (howner : ∀ handle ∈ handles, handle ∈ w.callers) :
    (handles.foldl (fun w handle => w.closeHandle handle) w).Kept ∧
      (handles.foldl (fun w handle => w.closeHandle handle) w).callers =
        w.callers \ {handle | handle ∈ handles} := by
  induction handles generalizing w with
  | nil => exact ⟨h, by simp⟩
  | cons head rest ih =>
    obtain ⟨hhead, hrest⟩ := List.nodup_cons.mp hnodup
    have hclosed := h.closeHandle (howner head List.mem_cons_self)
    have hremain : ∀ handle ∈ rest, handle ∈ (w.closeHandle head).callers := by
      intro handle hmem
      rw [callers_closeHandle]
      exact ⟨howner handle (List.mem_cons_of_mem _ hmem), fun heq => hhead (heq ▸ hmem)⟩
    obtain ⟨hkept, hcallers⟩ := ih hclosed hrest hremain
    refine ⟨hkept, hcallers.trans ?_⟩
    rw [callers_closeHandle]
    ext other
    simp only [Set.mem_sdiff, Set.mem_singleton_iff, Set.mem_ofPred_eq, List.mem_cons, not_or,
      and_assoc]

/-- The registry has each handle of the caller under its own value, and no other to be closed. -/
structure Sound (w : HandleWorld b) : Prop where
  kept : w.Kept
  exact : ∀ key handle, w.tables.closes key = some handle ↔ key = handle ∧ handle ∈ w.callers

theorem Kept.tables (h : w.Kept) (s : HandleTables b) : ({ w with tables := s } : HandleWorld b).Kept :=
  ⟨h.native, h.balanced, h.own⟩

namespace Sound

theorem closes_none (h : w.Sound) (hfree : handle ∉ w.callers) : w.tables.closes handle = none := by
  cases hcloses : w.tables.closes handle with
  | none => rfl
  | some native =>
    obtain ⟨rfl, hmem⟩ := (h.exact handle native).mp hcloses
    exact absurd hmem hfree

theorem not_mem_callers_of_answers (hfresh : w.owner handle = none) : handle ∉ w.callers := by
  simp [callers, hfresh]

/-- The registry is changed, but not in what is to be closed. -/
theorem tables (h : w.Sound) {s : HandleTables b}
    (hcloses : ∀ key, s.closes key = w.tables.closes key) :
    ({ w with tables := s } : HandleWorld b).Sound := by
  refine ⟨h.kept.tables s, fun key handle => ?_⟩
  rw [hcloses]
  exact h.exact key handle

/-- The client gets a handle, which is registered as its own. -/
theorem takes (h : w.Sound) (hanswer : w.Answers handle) (type : TitanHandleType) (dbgengId : ULONG)
    (systemId : DWORD) :
    ({ w.receive handle with
       tables := w.tables.registerTitanHandle handle ⟨type, dbgengId, systemId, handle, true⟩ } :
      HandleWorld b).Sound := by
  by_cases hzero : handle = 0
  · have hregister : w.tables.registerTitanHandle handle ⟨type, dbgengId, systemId, handle, true⟩ =
        w.tables := by
      rw [HandleTables.registerTitanHandle, if_pos (.inl hzero)]
    have hreceive : w.receive handle = w := by rw [receive, if_pos hzero]
    rw [hregister, hreceive]
    exact h
  have hfresh := hanswer.resolve_left hzero
  have hinvalid : handle ≠ b.invalidHandleValue := by
    rintro rfl
    have hdvd := hfresh.1
    revert hdvd
    cases b <;> decide
  refine ⟨(h.kept.receive hanswer).tables _, fun key native => ?_⟩
  change _ ↔ key = native ∧ native ∈ (w.receive handle).callers
  rw [callers_receive hzero, HandleTables.closes_registerTitanHandle hzero hinvalid,
    Set.mem_insert_iff]
  by_cases hkey : key = handle
  · rw [if_pos hkey, RegistryEntry.closes, if_pos ⟨rfl, hzero⟩, Option.some_inj, hkey]
    constructor
    · rintro rfl
      exact ⟨rfl, .inl rfl⟩
    · exact fun hboth => hboth.1
  · rw [if_neg hkey, h.exact]
    constructor
    · exact fun hboth => ⟨hboth.1, .inr hboth.2⟩
    · rintro ⟨rfl, heq | hmem⟩
      · exact absurd heq hkey
      · exact ⟨rfl, hmem⟩

/-- The handle that the client has under a key is closed, and the key is free. -/
theorem gives (h : w.Sound) (howner : handle ∈ w.callers) {s : HandleTables b}
    (hcloses : ∀ key, s.closes key = if key = handle then none else w.tables.closes key) :
    ({ w.closeHandle handle with tables := s } : HandleWorld b).Sound := by
  refine ⟨(h.kept.closeHandle howner).tables s, fun key native => ?_⟩
  change _ ↔ key = native ∧ native ∈ (w.closeHandle handle).callers
  rw [callers_closeHandle, hcloses, Set.mem_sdiff, Set.mem_singleton_iff]
  by_cases hkey : key = handle
  · rw [if_pos hkey, hkey]
    constructor
    · exact fun hnone => absurd hnone (Option.some_ne_none native).symm
    · rintro ⟨heq, -, hne⟩
      exact absurd heq.symm hne
  · rw [if_neg hkey, h.exact]
    constructor
    · rintro ⟨rfl, hmem⟩
      exact ⟨rfl, hmem, hkey⟩
    · exact fun hall => ⟨hall.1, hall.2.1⟩

theorem closes_createSyntheticTitanHandle (h : w.Sound) (type : TitanHandleType) (dbgengId : ULONG)
    (systemId : DWORD) (callerOwned : Bool) (key : BitVec b.bits) :
    (w.tables.createSyntheticTitanHandle type dbgengId systemId callerOwned).1.closes key =
      w.tables.closes key := by
  have hfree : b.syntheticHandle w.tables.gNextSyntheticHandle ∉ w.callers := fun hmem =>
    b.not_dvd_syntheticHandle _ (h.kept.native _ hmem).2
  have hcloses := h.closes_none hfree
  unfold HandleTables.createSyntheticTitanHandle
  dsimp only
  have hentry : RegistryEntry.closes (⟨type, dbgengId, systemId, 0, callerOwned⟩ : RegistryEntry b) =
      none := by
    rw [RegistryEntry.closes, if_neg fun hboth => hboth.2 rfl]
  rw [HandleTables.closes_registerTitanHandle_none _ hentry]
  · exact HandleTables.closes_of_eq rfl key
  · rw [← hcloses]
    exact HandleTables.closes_of_eq rfl _

theorem titanOpen (h : w.Sound) {opened : BitVec b.bits} (hanswer : w.Answers opened)
    (kind : TitanSessionKind) (type : TitanHandleType) (systemId : DWORD)
    (found : Option (ULONG × ULONG64)) : (w.titanOpen kind type systemId found opened).Sound := by
  unfold HandleWorld.titanOpen HandleTables.titanOpen
  dsimp only
  by_cases hkind : kind = .ttd ∨ kind = .minidump
  · rw [if_pos hkind, if_pos hkind]
    cases found with
    | none => exact h.tables fun _ => HandleTables.closes_of_eq rfl _
    | some object =>
      refine h.tables fun key => ?_
      dsimp only
      rw [HandleTables.closes_of_eq (HandleTables.gHandleRegistry_index ..)]
      exact h.closes_createSyntheticTitanHandle type object.1 systemId true key
  · rw [if_neg hkind, if_neg hkind]
    exact h.takes hanswer type DEBUG_ANY_ID systemId

theorem titanCreateRemoteThread (h : w.Sound) {created : BitVec b.bits}
    (hanswer : w.Answers created) (hProcess : BitVec b.bits) (threadId : DWORD) :
    (w.titanCreateRemoteThread hProcess threadId created).Sound := by
  have hregistry := HandleTables.gHandleRegistry_registeredNativeHandle hProcess .process w.tables
  unfold HandleWorld.titanCreateRemoteThread HandleTables.titanCreateRemoteThread
  dsimp only
  generalize w.tables.registeredNativeHandle hProcess .process = r at hregistry ⊢
  have hlooked : ({ w with tables := r.1 } : HandleWorld b).Sound :=
    h.tables fun _ => HandleTables.closes_of_eq hregistry _
  by_cases hprocess : r.2 = 0
  · rw [if_pos hprocess, if_pos hprocess]
    exact hlooked
  · rw [if_neg hprocess, if_neg hprocess]
    have htakes := @takes b _ created hlooked hanswer .thread DEBUG_ANY_ID threadId
    rw [receive_tables] at htakes
    exact htakes

theorem initDebugW (h : w.Sound) {process thread : BitVec b.bits} (hanswer : w.Answers process)
    (hsecond : (w.receive process).Answers thread) (dwProcessId dwThreadId : DWORD) :
    (w.initDebugW process thread dwProcessId dwThreadId).1.Sound := by
  unfold HandleWorld.initDebugW
  split
  · exact h
  · rename_i hprocess
    split
    · -- The first duplicate is closed again, and was never registered.
      have hmem : process ∈ (w.receive process).callers := by
        rw [callers_receive hprocess]
        exact Set.mem_insert _ _
      refine ⟨(h.kept.receive hanswer).closeHandle hmem, fun key handle => ?_⟩
      have hfresh := not_mem_callers_of_answers (hanswer.resolve_left hprocess).2
      have htables : ((w.receive process).closeHandle process).tables = w.tables := by
        rw [receive, if_neg hprocess]
        rfl
      rw [htables, h.exact, callers_closeHandle, callers_receive hprocess,
        Set.insert_sdiff_self_of_notMem hfresh]
    · have hfirst := h.takes hanswer .process DEBUG_ANY_ID dwProcessId
      have hboth := @takes b _ thread hfirst hsecond .thread DEBUG_ANY_ID dwThreadId
      rw [receive_tables] at hboth
      exact hboth

theorem titanCloseHandle (h : w.Sound) (hEngineHandle : BitVec b.bits) :
    (w.titanCloseHandle hEngineHandle).1.Sound := by
  unfold HandleWorld.titanCloseHandle
  cases hcloses : w.tables.closes hEngineHandle with
  | none => exact h.tables (HandleTables.closes_titanCloseHandle_none hcloses true)
  | some native =>
    obtain ⟨rfl, howner⟩ := (h.exact hEngineHandle native).mp hcloses
    have hopen : (w.owner hEngineHandle).isSome = true := by
      have hcaller : w.owner hEngineHandle = some .caller := howner
      rw [hcaller]
      rfl
    refine h.gives howner ?_
    rw [hopen]
    exact HandleTables.closes_titanCloseHandle_some hcloses

theorem closeCallerOwnedTitanHandles (h : w.Sound) : w.closeCallerOwnedTitanHandles.Sound := by
  have hmem : ∀ handle, handle ∈ w.tables.callerOwnedNativeHandles ↔ handle ∈ w.callers := by
    intro handle
    rw [HandleTables.mem_callerOwnedNativeHandles]
    constructor
    · rintro ⟨key, hcloses⟩
      exact ((h.exact key handle).mp hcloses).2
    · exact fun howner => ⟨handle, (h.exact handle handle).mpr ⟨rfl, howner⟩⟩
  have hnodup := HandleTables.nodup_callerOwnedNativeHandles fun key handle hcloses =>
    ((h.exact key handle).mp hcloses).1.symm
  obtain ⟨hkept, hcallers⟩ := h.kept.closeAll hnodup fun handle => (hmem handle).mp
  refine ⟨hkept.tables _, fun key handle => ?_⟩
  have hnone : w.tables.closeCallerOwnedTitanHandles.closes key = none :=
    HandleTables.closes_of_empty rfl key
  have hgone : handle ∉ w.closeCallerOwnedTitanHandles.callers := by
    change handle ∉ (w.tables.callerOwnedNativeHandles.foldl (fun w handle => w.closeHandle handle)
      w).callers
    rw [hcallers]
    exact fun hremains => hremains.2 ((hmem handle).mpr hremains.1)
  change w.tables.closeCallerOwnedTitanHandles.closes key = some handle ↔ _
  rw [hnone]
  exact iff_of_false (Option.some_ne_none handle).symm fun hboth => hgone hboth.2

end Sound

theorem sound_step : Runs.Preserves Step (Sound : HandleWorld b → Prop) := by
  intro w w' hstep h
  cases hstep with
  | titanOpen answer => exact h.titanOpen answer ..
  | titanCreateRemoteThread answer => exact h.titanCreateRemoteThread answer ..
  | initDebugW answer second => exact h.initDebugW answer second ..
  | titanCloseHandle => exact h.titanCloseHandle _
  | closeCallerOwnedTitanHandles => exact h.closeCallerOwnedTitanHandles
  | createSyntheticTitanHandle => exact h.tables (h.closes_createSyntheticTitanHandle _ _ _ _)
  | @register handle type dbgengId systemId _ engines =>
    have hfree : handle ∉ w.callers := by simp [callers, engines]
    have hentry : RegistryEntry.closes ⟨type, dbgengId, systemId, handle, false⟩ = none := by
      simp [RegistryEntry.closes]
    exact h.tables (HandleTables.closes_registerTitanHandle_none (h.closes_none hfree) hentry)
  | @unregister handle _ engines =>
    have hfree : handle ∉ w.callers := by
      intro hmem
      have hcaller : w.owner handle = some .caller := hmem
      rcases engines with hengine | hsynthetic
      · rw [hcaller] at hengine
        cases hengine
      · exact hsynthetic (h.kept.native handle hmem).2
    exact h.tables (HandleTables.closes_unregisterTitanHandle_none (h.closes_none hfree))
  | elsewhere before after =>
    have hcallers := callers_elsewhere before after
    refine ⟨⟨?_, ?_, h.kept.own⟩, ?_⟩
    · rw [hcallers]
      exact h.kept.native
    · rw [hcallers]
      exact h.kept.balanced
    · rw [hcallers]
      exact h.exact
  | tables registry => exact h.tables (HandleTables.closes_of_eq registry)

/-- A world in which the exports have opened nothing yet. -/
theorem sound_start {owner : BitVec b.bits → Option HandleOwner}
    (hnone : ∀ handle, owner handle ≠ some .caller) : (⟨{}, owner, [], []⟩ : HandleWorld b).Sound := by
  have hcallers : (⟨{}, owner, [], []⟩ : HandleWorld b).callers = ∅ := by
    ext handle
    exact iff_of_false (hnone handle) (Set.notMem_empty handle)
  refine ⟨⟨?_, ?_, ?_⟩, fun key handle => ?_⟩
  · rw [hcallers]
    exact fun _ hmem => absurd hmem (Set.notMem_empty _)
  · rw [hcallers]
    exact Custody.balanced_empty
  · exact fun _ hmem => absurd hmem List.not_mem_nil
  · rw [hcallers]
    have hcloses : ({} : HandleTables b).closes key = none := HandleTables.closes_of_empty rfl key
    rw [hcloses]
    exact iff_of_false (Option.some_ne_none handle).symm fun hboth => Set.notMem_empty handle hboth.2

end HandleWorld

section Accounts
variable {b : Build} {owner : BitVec b.bits → Option HandleOwner} {w : HandleWorld b}

/-- Every handle that the adapter closes is one that it has open for the client, it is closed
as often as it was opened unless it is open, and the registry knows exactly those that are. -/
theorem handles_accounted (hnone : ∀ handle, owner handle ≠ some .caller)
    (run : HandleWorld.Run ⟨{}, owner, [], []⟩ w) :
    (∀ entry ∈ w.closed, entry.2 = some .caller) ∧
      (∀ handle, w.opened.count handle = (w.closed.map Prod.fst).count handle +
        if w.owner handle = some .caller then 1 else 0) ∧
      (∀ key handle, w.tables.closes key = some handle ↔ key = handle ∧ w.owner handle = some .caller) ∧
      ∀ handle, w.closeCallerOwnedTitanHandles.owner handle ≠ some .caller := by
  have hsound := HandleWorld.sound_step.run run (HandleWorld.sound_start hnone)
  refine ⟨hsound.kept.own, fun handle => ?_, hsound.exact, fun handle hopen => ?_⟩
  · by_cases hopen : w.owner handle = some .caller
    · rw [if_pos hopen]
      exact hsound.kept.balanced.out handle hopen
    · rw [if_neg hopen]
      exact hsound.kept.balanced.back handle hopen
  · have hleft := (hsound.closeCallerOwnedTitanHandles.exact handle handle).mpr ⟨rfl, hopen⟩
    have hcleared : w.closeCallerOwnedTitanHandles.tables.closes handle = none :=
      HandleTables.closes_of_empty rfl handle
    rw [hcleared] at hleft
    cases hleft

/-- A session of which the client opens a third handle and closes it twice. -/
def closedTwice : HandleWorld .x64 :=
  (((HandleWorld.initDebugW 0x100 0x104 7 8 {}).1.titanOpen .live .thread 9 none 0x108).titanCloseHandle
    0x108).1.titanCloseHandle 0x108 |>.1

theorem handles_accounted_closedTwice :
    closedTwice.opened.count 0x108 = 1 ∧ (closedTwice.closed.map Prod.fst).count 0x108 = 1 ∧
      closedTwice.closeCallerOwnedTitanHandles.owner 0x100 ≠ some .caller := by
  have hfirst : HandleWorld.Step {} (HandleWorld.initDebugW (b := .x64) 0x100 0x104 7 8 {}).1 :=
    .initDebugW (.inr (by decide)) (.inr (by decide))
  have hopen : HandleWorld.Step _ ((HandleWorld.initDebugW (b := .x64) 0x100 0x104 7 8 {}).1.titanOpen
      .live .thread 9 none 0x108) := .titanOpen (.inr (by decide))
  have hrun : HandleWorld.Run {} closedTwice :=
    .tail (.tail (.tail (.single hfirst) hopen) .titanCloseHandle) .titanCloseHandle
  obtain ⟨-, hcount, -, hleft⟩ := handles_accounted (fun _ => by simp) hrun
  have hone : closedTwice.opened.count 0x108 = 1 := by decide
  have hclosed : closedTwice.owner 0x108 ≠ some .caller := by decide
  have hbalance := hcount 0x108
  rw [hone, if_neg hclosed] at hbalance
  exact ⟨hone, hbalance.symm, hleft 0x100⟩

end Accounts

end TitanEngine

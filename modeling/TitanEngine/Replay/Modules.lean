import TitanEngine.Lib.Views
import TitanEngine.Replay.Moves

/-! The modules that a client knows from the events it was told, and when they are those
mapped at the cursor. -/
namespace TitanEngine
open Views

/-- What an event tells about modules; CREATE_PROCESS tells the main module. -/
def TtdWork.moduleChange : TtdWork → Option (Change ULONG64 String)
  | .createProcess _ _ module _ _ | .loadModule module => some (.put module.base module.path)
  | .unloadModule _ base => some (.drop base)
  | _ => none

/-- No base is mapped with one path at the first position and another at the second. -/
def Trace.SameImages (trace : Trace) (p q : TtdPosition) : Prop :=
  ∀ module ∈ (trace.snapshot p).modules, ∀ module' ∈ (trace.snapshot q).modules,
    module.base = module'.base → module.path = module'.path

/-- The move lands, at a position where no base has got another image. -/
def TtdMove.KeepsImages (move : TtdMove) (t : TtdSession) : Prop :=
  move.Lands t ∧ t.gTtdEngine.SameImages t.cursor.position (move.apply t).cursor.position

theorem mapModules_eq_replay (modules : List TtdModuleInfo) :
    mapModules modules = replay
      ((modules.map fun module => (module.base, module.path)).map fun entry => .put entry.1 entry.2) ∅ := by
  unfold mapModules replay
  rw [List.map_map, List.foldl_map]
  rfl

theorem mem_mapModules_iff {modules : List TtdModuleInfo} (h : (modules.map (·.base)).Nodup)
    {base : ULONG64} {path : String} :
    (mapModules modules)[base]? = some path ↔ ∃ module ∈ modules, module.base = base ∧ module.path = path := by
  rw [mapModules_eq_replay, getElem?_replay_puts_iff]
  · simp [Prod.ext_iff]
  · intro k v v' hmem hmem'
    obtain ⟨module, hmodule, heq⟩ := List.mem_map.mp hmem
    obtain ⟨module', hmodule', heq'⟩ := List.mem_map.mp hmem'
    obtain ⟨rfl, rfl⟩ := Prod.mk.inj heq
    obtain ⟨hbase, rfl⟩ := Prod.mk.inj heq'
    rw [List.inj_on_of_nodup_map h hmodule hmodule' hbase.symm]

theorem mapModules_perm {modules modules' : List TtdModuleInfo} (h : modules'.Perm modules)
    (hnodup : (modules.map (·.base)).Nodup) : mapModules modules' = mapModules modules := by
  have hnodup' : (modules'.map (·.base)).Nodup := (h.map (·.base)).nodup_iff.mpr hnodup
  ext1 base
  apply Option.ext
  intro path
  simp only [mem_mapModules_iff hnodup, mem_mapModules_iff hnodup', h.mem_iff]

theorem moduleChange_loads (modules : List TtdModuleInfo) :
    (modules.map TtdWork.loadModule).filterMap TtdWork.moduleChange =
      (modules.map fun module => (module.base, module.path)).map fun entry => .put entry.1 entry.2 := by
  rw [List.filterMap_map, List.map_map, ← List.filterMap_eq_map]
  rfl

namespace TtdSession

/-- The client's view: the delivered events, folded in the order of delivery. -/
def moduleView (t : TtdSession) : Map ULONG64 String :=
  replay (t.deliveries.filterMap fun delivery => delivery.1.moduleChange) ∅

/-- Once the queue is empty, the client knows exactly the modules mapped at the cursor. -/
def ModulesFollowed (t : TtdSession) : Prop :=
  t.queue = [] → ∀ base path, t.moduleView[base]? = some path ↔
    ∃ module ∈ t.current.modules, module.base = base ∧ module.path = path

/-- What the client has been told about modules, or will be by what is queued. -/
def toldModules (t : TtdSession) : List (Change ULONG64 String) :=
  (t.deliveries.map Prod.fst ++ t.queue).filterMap TtdWork.moduleChange

/-- The adapter remembers the modules at the cursor, and the client has been or will be
told of them. -/
structure ModulesTold (t : TtdSession) : Prop where
  active : t.gTtdActiveModules = mapModules t.current.modules
  told : replay t.toldModules ∅ = t.gTtdActiveModules

theorem ModulesTold.followed {t : TtdSession} (h : t.ModulesTold) : t.ModulesFollowed := by
  intro hempty base path
  have hview : t.moduleView = mapModules t.current.modules := by
    rw [← h.active, ← h.told, toldModules, hempty, List.append_nil, List.filterMap_map]
    rfl
  rw [hview, mem_mapModules_iff t.current.nodup_base]

theorem toldModules_append {t t' : TtdSession} (hdeliveries : t'.deliveries = t.deliveries)
    {works : List TtdWork} (hqueue : t'.queue = t.queue ++ works) :
    t'.toldModules = t.toldModules ++ works.filterMap TtdWork.moduleChange := by
  unfold toldModules
  rw [hdeliveries, hqueue, ← List.append_assoc, List.filterMap_append]

theorem toldModules_of_queued {t t' : TtdSession} {work : TtdWork}
    (hdeliveries : t'.deliveries = t.deliveries) (hqueue : t'.queue = t.queue ++ [work])
    (h : work.moduleChange = none) : t'.toldModules = t.toldModules := by
  rw [toldModules_append hdeliveries hqueue, List.filterMap_cons_none h, List.filterMap_nil,
    List.append_nil]

theorem toldModules_of_carried {t t' : TtdSession} (h : t.Carried t') : t'.toldModules = t.toldModules := by
  obtain ⟨works, hworks, hqueue⟩ := h.queued
  have hnone : works.filterMap TtdWork.moduleChange = [] := by
    rw [List.filterMap_eq_nil_iff]
    intro work hmem
    have hsilent := hworks work hmem
    cases work <;> first | rfl | exact absurd trivial hsilent
  rw [toldModules_append h.deliveries hqueue, hnone, List.append_nil]

theorem modules_enterThread (info : ThreadInfo) (t : TtdSession) :
    (t.enterThread info).gTtdActiveModules = t.gTtdActiveModules ∧
      (t.enterThread info).toldModules = t.toldModules := by
  unfold enterThread
  split
  · exact ⟨rfl, rfl⟩
  · dsimp only [createSyntheticTitanHandle]
    unfold registerTitanHandle
    split
    · exact ⟨rfl, toldModules_of_queued rfl rfl rfl⟩
    · exact ⟨rfl, toldModules_of_queued rfl rfl rfl⟩

theorem modules_leaveThread (thread : ULONG × HANDLE × DWORD) (t : TtdSession) :
    (t.leaveThread thread).gTtdActiveModules = t.gTtdActiveModules ∧
      (t.leaveThread thread).toldModules = t.toldModules :=
  ⟨rfl, toldModules_of_queued rfl rfl rfl⟩

theorem modules_foldl {α : Type*} {f : TtdSession → α → TtdSession}
    (hf : ∀ (t : TtdSession) a, (f t a).gTtdActiveModules = t.gTtdActiveModules ∧
      (f t a).toldModules = t.toldModules) (as : List α) (t : TtdSession) :
    (as.foldl f t).gTtdActiveModules = t.gTtdActiveModules ∧
      (as.foldl f t).toldModules = t.toldModules := by
  induction as generalizing t with
  | nil => exact ⟨rfl, rfl⟩
  | cons a _ ih => exact ⟨(ih _).1.trans (hf t a).1, (ih _).2.trans (hf t a).2⟩

theorem modules_refreshThreads (t : TtdSession) :
    t.refreshThreads.gTtdActiveModules = t.gTtdActiveModules ∧
      t.refreshThreads.toldModules = t.toldModules := by
  have henter := modules_foldl (fun t info => modules_enterThread info t) t.current.threads t
  have hleave := modules_foldl (fun t thread => modules_leaveThread thread t)
    (terminatedThreads (t.current.threads.foldl (fun t info => t.enterThread info) t))
    (t.current.threads.foldl (fun t info => t.enterThread info) t)
  exact ⟨hleave.1.trans henter.1, hleave.2.trans henter.2⟩

/-- At the cursor's new position, a refresh tells what is new and what is gone. -/
theorem modulesTold_refreshModules {t : TtdSession} {modules : List TtdModuleInfo}
    (hnodup : (modules.map (·.base)).Nodup) (hactive : t.gTtdActiveModules = mapModules modules)
    (htold : replay t.toldModules ∅ = t.gTtdActiveModules)
    (hsame : ∀ module ∈ modules, ∀ module' ∈ t.current.modules,
      module.base = module'.base → module.path = module'.path) :
    t.refreshModules.ModulesTold := by
  have hnew := t.current.nodup_base
  refine ⟨rfl, ?_⟩
  let loaded := t.current.modules.filter fun module => !t.gTtdActiveModules.contains module.base
  let unloaded := t.gTtdActiveModules.toList.filter fun entry =>
    !(mapModules t.current.modules).contains entry.1
  have hqueue : t.refreshModules.queue = t.queue ++ (loaded.map TtdWork.loadModule ++
      unloaded.map fun entry => TtdWork.unloadModule entry.2 entry.1) := rfl
  have hunloaded : (unloaded.map fun entry => TtdWork.unloadModule entry.2 entry.1).filterMap
      TtdWork.moduleChange = (unloaded.map Prod.fst).map .drop := by
    rw [List.filterMap_map, List.map_map, ← List.filterMap_eq_map]
    rfl
  have hdeliveries : t.refreshModules.deliveries = t.deliveries := rfl
  rw [toldModules_append hdeliveries hqueue,
    List.filterMap_append, moduleChange_loads, hunloaded, replay_append, htold]
  refine replay_diff (fun base path => ?_) (fun base => ?_) fun base path path' hold hcurrent => ?_
  · show _ ↔ (mapModules t.current.modules)[base]? = some path ∧ _
    rw [mem_mapModules_iff hnew]
    simp only [loaded, List.mem_map, List.mem_filter, MapSums.not_contains_iff, Prod.mk.injEq]
    constructor
    · rintro ⟨module, ⟨hmem, habsent⟩, rfl, rfl⟩
      exact ⟨⟨module, hmem, rfl, rfl⟩, habsent⟩
    · rintro ⟨⟨module, hmem, rfl, rfl⟩, habsent⟩
      exact ⟨module, ⟨hmem, habsent⟩, rfl, rfl⟩
  · show _ ↔ _ ∧ base ∉ mapModules t.current.modules
    simp only [unloaded, List.mem_map, List.mem_filter, MapSums.not_contains_iff]
    constructor
    · rintro ⟨entry, ⟨hmem, habsent⟩, rfl⟩
      rw [Std.ExtTreeMap.mem_toList_iff_getElem?_eq_some] at hmem
      exact ⟨MapSums.mem_of_getElem? hmem, habsent⟩
    · rintro ⟨hmem, habsent⟩
      refine ⟨(base, t.gTtdActiveModules[base]), ⟨?_, habsent⟩, rfl⟩
      rw [Std.ExtTreeMap.mem_toList_iff_getElem?_eq_some]
      exact Std.ExtTreeMap.getElem?_eq_some_getElem hmem
  · rw [hactive, mem_mapModules_iff hnodup] at hold
    obtain ⟨module, hmodule, hbase, rfl⟩ := hold
    obtain ⟨module', hmodule', hbase', rfl⟩ := (mem_mapModules_iff hnew).mp hcurrent
    exact hsame module hmodule module' hmodule' (hbase.trans hbase'.symm)

namespace ModulesTold
variable {t t' : TtdSession}

theorem carried (h : t.ModulesTold) (hcarried : t.Carried t')
    (hposition : t'.cursor.position = t.cursor.position) : t'.ModulesTold := by
  have hcurrent := current_congr hcarried.engine hposition
  have htold := toldModules_of_carried hcarried
  constructor
  · rw [hcarried.modules, hcurrent, h.active]
  · rw [htold, hcarried.modules, h.told]

theorem moved (h : t.ModulesTold) (hmoved : t.Moved t')
    (hsame : t.gTtdEngine.SameImages t.cursor.position t'.cursor.position) : t'.ModulesTold := by
  cases hmoved with
  | rests carried position => exact h.carried carried position
  | @arrives u carried refreshed =>
    obtain ⟨hmodules, htold⟩ := modules_refreshThreads u
    have hthreads := refreshed_refreshThreads u
    have hposition : t'.cursor.position = u.cursor.position :=
      congrArg TtdCursor.position (refreshed.cursor.trans (refreshed_refreshTtdTimeline u).cursor)
    have hcurrent : u.refreshThreads.current = t.gTtdEngine.snapshot t'.cursor.position := by
      unfold current
      rw [hthreads.engine, hthreads.cursor, carried.engine, hposition]
    have hrefreshed : u.refreshTtdTimeline.ModulesTold := by
      refine modulesTold_refreshModules t.current.nodup_base ?_ ?_ ?_
      · rw [hmodules, carried.modules, h.active]
      · rw [htold, toldModules_of_carried carried, h.told, hmodules, carried.modules]
      · rw [hcurrent]
        exact hsame
    exact hrefreshed.carried refreshed.toCarried (congrArg TtdCursor.position refreshed.cursor)

end ModulesTold

theorem ModulesTold.delivered {t : TtdSession} {work : TtdWork} {rest : List TtdWork}
    (h : t.ModulesTold) (hqueue : t.queue = work :: rest) :
    ({ t with queue := rest }.deliver work).ModulesTold := by
  obtain ⟨tebs, event, threadId, heq⟩ := deliver_eq work { t with queue := rest }
  have htold := h.told
  rw [toldModules, hqueue] at htold
  rw [heq]
  refine ⟨h.active, ?_⟩
  have hdeliveries : (t.noted ++ [TtdEntry.delivered work threadId]).filterMap TtdEntry.delivery? =
      t.deliveries ++ [(work, threadId)] := List.filterMap_append
  show replay ((((t.noted ++ [TtdEntry.delivered work threadId]).filterMap TtdEntry.delivery?).map
    Prod.fst ++ rest).filterMap TtdWork.moduleChange) ∅ = t.gTtdActiveModules
  rw [hdeliveries, List.map_append, List.append_assoc]
  exact htold

/-- What the module view depends on. -/
def moduleSide (t : TtdSession) : Map ULONG64 String × Trace × TtdPosition × List TtdEntry ×
    List TtdWork :=
  (t.gTtdActiveModules, t.gTtdEngine, t.cursor.position, t.noted, t.queue)

theorem ModulesTold.congr {t t' : TtdSession} (h : t.ModulesTold) (heq : t'.moduleSide = t.moduleSide) :
    t'.ModulesTold := by
  simp only [moduleSide, Prod.mk.injEq] at heq
  obtain ⟨hmodules, hengine, hposition, hnoted, hqueue⟩ := heq
  have hcurrent := current_congr hengine hposition
  constructor
  · rw [hmodules, hcurrent, h.active]
  · rw [toldModules, deliveries, hnoted, hqueue, hmodules]
    exact h.told

theorem moduleSide_createSyntheticTitanHandle (type : TitanHandleType) (dbgengId : ULONG)
    (systemId : DWORD) (callerOwned : Bool) (t : TtdSession) :
    (t.createSyntheticTitanHandle type dbgengId systemId callerOwned).1.moduleSide = t.moduleSide := by
  unfold createSyntheticTitanHandle registerTitanHandle
  dsimp only
  split
  · rfl
  · rfl

theorem moduleSide_titanOpenProcess (dwProcessId : DWORD) (t : TtdSession) :
    (t.titanOpenProcess dwProcessId).1.moduleSide = t.moduleSide := by
  unfold titanOpenProcess
  split
  · rfl
  · exact moduleSide_createSyntheticTitanHandle _ _ _ _ t

theorem moduleSide_titanOpenThread (threads : List ThreadInfo) (dwThreadId : DWORD) (t : TtdSession) :
    (t.titanOpenThread threads dwThreadId).1.moduleSide = t.moduleSide := by
  unfold titanOpenThread
  split
  · rfl
  · rfl
  · exact moduleSide_createSyntheticTitanHandle _ _ _ _ t

theorem moduleSide_titanCloseHandle (hEngineHandle : HANDLE) (closed : Bool) (t : TtdSession) :
    (t.titanCloseHandle hEngineHandle closed).1.moduleSide = t.moduleSide := by
  unfold titanCloseHandle
  split
  · rfl
  · split
    · rfl
    · split
      · rfl
      · rfl

theorem modulesTold_step {delivers : TtdWork → TtdSession → Prop} {opens : TtdSession → Prop} :
    Runs.Preserves (TtdStep TtdMove.KeepsImages delivers opens) ModulesTold := by
  intro t t' hstep h
  cases hstep with
  | move allow => exact h.moved (moved_apply allow.1) allow.2
  | deliver queued _ => exact h.delivered queued
  | openProcess _ => exact h.congr (moduleSide_titanOpenProcess _ t)
  | openThread _ => exact h.congr (moduleSide_titanOpenThread _ _ t)
  | closeHandle => exact h.congr (moduleSide_titanCloseHandle _ _ t)
  | breakpoints => exact h.congr rfl
  | @pause _ steps =>
    have hstays := Stays.of_pauseSteps steps t
    exact h.carried hstays.toCarried (congrArg TtdCursor.position hstays.cursor)
  | runBack =>
    refine h.congr ?_
    unfold replayRunBack
    split
    · rfl
    · split
      · rfl
      · rfl
  | loop => exact h.congr rfl

theorem modules_bootstrapThread (threadSystemId : DWORD) (t : TtdSession) (info : ThreadInfo) :
    (t.bootstrapThread threadSystemId info).gTtdActiveModules = t.gTtdActiveModules ∧
      (t.bootstrapThread threadSystemId info).toldModules = t.toldModules := by
  unfold bootstrapThread
  split
  · exact ⟨rfl, rfl⟩
  · dsimp only [createSyntheticTitanHandle]
    unfold registerTitanHandle
    split
    · exact ⟨rfl, toldModules_of_queued rfl rfl rfl⟩
    · exact ⟨rfl, toldModules_of_queued rfl rfl rfl⟩

theorem moduleSide_queueCallback {t t' : TtdSession} (work : TtdWork)
    (h : t'.moduleSide = t.moduleSide) :
    (t'.queueCallback work).moduleSide = (t.queueCallback work).moduleSide := by
  simp only [moduleSide, Prod.mk.injEq] at h
  simp only [moduleSide, queueCallback, h]

theorem moduleSide_bootstrapProcess (image : TtdModuleInfo) (t : TtdSession) :
    ∃ handle initialThread teb, (t.bootstrapProcess image).moduleSide =
      (t.queueCallback (.createProcess handle initialThread image teb t.cursor.thread)).moduleSide := by
  have hprocess := moduleSide_createSyntheticTitanHandle .process 0 t.gTtdEngine.processId false t
  have hthread := (moduleSide_createSyntheticTitanHandle .thread t.cursor.thread.uniqueId
    t.cursor.thread.id false _).trans hprocess
  exact ⟨_, _, _, moduleSide_queueCallback _ hthread⟩

theorem moduleSide_bootstrapHandles (t : TtdSession) : t.bootstrapHandles.moduleSide = t.moduleSide := by
  have hprocess := moduleSide_createSyntheticTitanHandle .process 0 t.gTtdEngine.processId true t
  exact (moduleSide_createSyntheticTitanHandle .thread t.cursor.thread.uniqueId
    t.cursor.thread.id true _).trans hprocess

theorem toldModules_bootstrapModules (modules : List TtdModuleInfo) (t : TtdSession) :
    (t.bootstrapModules modules).toldModules = t.toldModules ++
      ((modules.eraseIdx (mainModule modules)).map fun module => (module.base, module.path)).map
        fun entry => .put entry.1 entry.2 := by
  have hqueue : (t.bootstrapModules modules).queue = t.queue ++
      ((modules.eraseIdx (mainModule modules)).map TtdWork.loadModule ++
        [TtdWork.initialBreakpoint t.ttdProgramCounter]) := rfl
  have hdeliveries : (t.bootstrapModules modules).deliveries = t.deliveries := rfl
  rw [toldModules_append hdeliveries hqueue, List.filterMap_append, moduleChange_loads]
  exact congrArg _ (List.append_nil _)

theorem modulesTold_initReplay {trace : Trace} {thread : ThreadInfo} {serial : ULONG_PTR}
    {s : Session} {t : TtdSession} (h : initReplay trace thread serial s = some t) :
    t.ModulesTold := by
  unfold initReplay at h
  dsimp only at h
  split at h
  · cases h
  · cases h
  · rename_i _ _ image himage _
    cases h
    refine ModulesTold.congr ?_ (moduleSide_bootstrapHandles _)
    obtain ⟨handle, initialThread, teb, hside⟩ :=
      moduleSide_bootstrapProcess image (openReplay trace thread serial s)
    generalize (openReplay trace thread serial s).bootstrapProcess image = process at hside ⊢
    have hfold := modules_foldl (modules_bootstrapThread thread.id)
      (trace.snapshot trace.firstPosition).threads process
    have hsame := Refreshed.foldl (refreshed_bootstrapThread thread.id)
      (trace.snapshot trace.firstPosition).threads process
    generalize List.foldl (bootstrapThread thread.id) process
      (trace.snapshot trace.firstPosition).threads = threads at hfold hsame ⊢
    simp only [moduleSide, Prod.mk.injEq] at hside
    obtain ⟨hmodules, hengine, hposition, hnoted, hqueue⟩ := hside
    have hcurrent : threads.current = trace.snapshot trace.firstPosition := by
      unfold current
      rw [hsame.engine, hsame.cursor, hengine, hposition]
      rfl
    have htold : process.toldModules = [.put image.base image.path] := by
      unfold toldModules deliveries
      rw [hnoted, hqueue]
      rfl
    have hactive : threads.gTtdActiveModules =
        mapModules (trace.snapshot trace.firstPosition).modules := by
      rw [hfold.1, hmodules]
      rfl
    obtain ⟨hlt, himage⟩ := List.getElem?_eq_some_iff.mp himage
    have hperm := List.getElem_cons_eraseIdx_perm hlt
    rw [himage] at hperm
    constructor
    · show threads.gTtdActiveModules = mapModules threads.current.modules
      rw [hcurrent, hactive]
    · show _ = threads.gTtdActiveModules
      rw [toldModules_bootstrapModules, hfold.2, htold, hactive,
        ← mapModules_perm hperm (trace.snapshot trace.firstPosition).nodup_base, mapModules_eq_replay]
      rfl

end TtdSession

/-- From the position 5:0 on, another set of modules is mapped. -/
def imagesTrace (before after : List TtdModuleInfo) (hbefore : (before.map (·.base)).Nodup)
    (hafter : (after.map (·.base)).Nodup) : Trace :=
  { shortTrace with
    snapshot := fun p =>
      if p < ⟨5, 0⟩ then { mainSnapshot with modules := before, nodup_base := hbefore }
      else { mainSnapshot with modules := after, nodup_base := hafter } }

def loadingTrace : Trace :=
  imagesTrace [mainImage] [mainImage, ⟨0x10000, 0x1000, 0, "b.dll"⟩] mainSnapshot.nodup_base
    (by decide)

def loadingReplay : TtdSession :=
  (TtdSession.initReplay loadingTrace mainThread 1 {}).get (by decide)

end TitanEngine

import TitanEngine.Lib.Views
import TitanEngine.Replay.Handles
import TitanEngine.Replay.Modules

/-! The threads that a client knows from the events it was told, and when they are those
alive at the cursor: a creation that is still queued must not be overtaken by the end of
its thread. -/
namespace TitanEngine
open Views

/-- What an event tells about threads, by the thread id it carries; CREATE_PROCESS tells
of the initial thread. -/
def TtdWork.threadChange (work : TtdWork) (threadId : DWORD) : Option (Change DWORD Unit) :=
  match work with
  | .createProcess .. | .createThread .. => some (.put threadId ())
  | .exitThread .. => some (.drop threadId)
  | _ => none

/-- The thread that work creates, and the handle it is given. -/
def TtdWork.created? : TtdWork → Option (HANDLE × ThreadInfo)
  | .createProcess _ initialThread _ _ thread => some (initialThread, thread)
  | .createThread handle _ thread => some (handle, thread)
  | _ => none

/-- The system id of the thread that work is queued for. -/
def TtdWork.promise : TtdWork → DWORD
  | .createProcess _ _ _ _ thread | .createThread _ _ thread => thread.id
  | .exitThread systemId _ => systemId
  | _ => 0

/-- The unique id of a thread is that of no other thread of the trace. -/
def Trace.ThreadsNamed (trace : Trace) : Prop :=
  ∀ p q : TtdPosition, ∀ info ∈ (trace.snapshot p).threads, ∀ info' ∈ (trace.snapshot q).threads,
    info.uniqueId = info'.uniqueId → info = info'

namespace TtdSession

/-- The client's view: the delivered events, folded in the order of delivery. -/
def threadView (t : TtdSession) : Map DWORD Unit :=
  replay (t.deliveries.filterMap fun delivery => delivery.1.threadChange delivery.2) ∅

/-- Creations carry the id of their thread, creations and exits of an id alternate, they
add up to the threads at the cursor once the queue is empty, and no table holds a handle
that is not registered. -/
structure ThreadsFollowed (t : TtdSession) : Prop where
  named : ∀ handle teb thread threadId,
    (TtdWork.createThread handle teb thread, threadId) ∈ t.deliveries → threadId = thread.id
  alternating : ∀ threadId, Alternating true
    (kinds threadId (t.deliveries.filterMap fun delivery => delivery.1.threadChange delivery.2))
  viewed : t.queue = [] → ∀ threadId, threadId ∈ t.threadView ↔ ∃ info ∈ t.current.threads, info.id = threadId
  tebs : ∀ handle ∈ t.gProcessTebCache, handle ∈ t.gHandleRegistry
  threads : ∀ handle ∈ t.gDebugIdMap.threadHandleToIndex, handle ∈ t.gHandleRegistry
  thread : ∀ (index : ULONG) (handle : HANDLE),
    t.gDebugIdMap.threadIndexToHandle[index]? = some handle → handle ∈ t.gHandleRegistry
  processes : ∀ handle ∈ t.gDebugIdMap.processHandleToIndex, handle ∈ t.gHandleRegistry
  process : ∀ (index : ULONG) (handle : HANDLE),
    t.gDebugIdMap.processIndexToHandle[index]? = some handle → handle ∈ t.gHandleRegistry

end TtdSession

/-- The move lands where every thread lives whose creation is still queued, no thread
there has the system id of another one here, and there are serial numbers left. -/
structure TtdMove.KeepsThreads (move : TtdMove) (t : TtdSession) : Prop where
  lands : move.Lands t
  queued : ∀ work ∈ t.queue, ∀ handle thread, work.created? = some (handle, thread) →
    ∃ info ∈ (t.gTtdEngine.snapshot (move.apply t).cursor.position).threads,
      info.uniqueId = thread.uniqueId
  apart : ∀ info ∈ t.current.threads,
    ∀ info' ∈ (t.gTtdEngine.snapshot (move.apply t).cursor.position).threads,
      info.id = info'.id → info.uniqueId = info'.uniqueId
  room : t.gNextSyntheticHandle.toNat +
    (t.gTtdEngine.snapshot (move.apply t).cursor.position).threads.length ≤ 2 ^ 43

/-- CREATE_PROCESS is delivered while the cursor is on the initial thread. -/
def TtdWork.InTime (work : TtdWork) (t : TtdSession) : Prop :=
  match work with
  | .createProcess _ _ _ _ thread => t.gTtdCurrentThreadId = thread.id
  | _ => True

/-- There is a serial number left for one more handle. -/
def TtdSession.HasSerial (t : TtdSession) : Prop := t.gNextSyntheticHandle.toNat < 2 ^ 43

namespace TtdSession

def Knows (t : TtdSession) (info : ThreadInfo) : Prop := ∃ handle, t.Holds info.uniqueId handle info.id

/-- What the client has been told about threads, and will be by what is queued if it is
delivered as it was meant. -/
def threadChanges (t : TtdSession) : List (Change DWORD Unit) :=
  (t.deliveries ++ t.queue.map fun work => (work, work.promise)).filterMap fun delivery =>
    delivery.1.threadChange delivery.2

/-- The client has been or will be told of the known threads, and the handles that queued
creations carry are those of their threads. -/
structure ThreadsTold (t : TtdSession) : Prop where
  registered : t.Registered
  apart : ∀ info info', t.Knows info → t.Knows info' → info.id = info'.id → info = info'
  queued : ∀ work ∈ t.queue, ∀ handle thread, work.created? = some (handle, thread) →
    t.Holds thread.uniqueId handle thread.id
  timely : Timely ∅ t.threadChanges
  viewed : ∀ threadId, threadId ∈ replay t.threadChanges ∅ ↔ ∃ info, t.Knows info ∧ info.id = threadId
  named : ∀ handle teb thread threadId,
    (TtdWork.createThread handle teb thread, threadId) ∈ t.deliveries → threadId = thread.id

/-- The known threads are those at the cursor. -/
def Settled (t : TtdSession) : Prop := ∀ info, t.Knows info ↔ info ∈ t.current.threads

theorem ThreadsTold.followed {t : TtdSession} (h : t.ThreadsTold) (hsettled : t.Settled) :
    t.ThreadsFollowed := by
  have hprefix := h.timely
  rw [threadChanges, List.filterMap_append] at hprefix
  constructor
  · exact h.named
  · intro threadId
    exact (timely_append.mp hprefix).1.alternating threadId
  · intro hempty threadId
    have hview : t.threadView = replay t.threadChanges ∅ := by
      rw [threadChanges, hempty, List.map_nil, List.append_nil]
      rfl
    rw [hview, h.viewed]
    exact exists_congr fun info => and_congr_left fun _ => hsettled info
  · exact h.registered.tebs
  · exact h.registered.threads
  · intro index handle hindex
    obtain ⟨_, -, entry, hentry, -⟩ := h.registered.held index handle hindex
    exact MapSums.mem_of_getElem? hentry
  · intro handle hmem
    obtain ⟨entry, hentry, -⟩ := h.registered.processes handle hmem
    exact MapSums.mem_of_getElem? hentry
  · intro index handle hindex
    obtain ⟨entry, hentry, -⟩ := h.registered.process index handle hindex
    exact MapSums.mem_of_getElem? hentry

theorem threadChanges_append {t t' : TtdSession} {works : List TtdWork}
    (hqueue : t'.queue = t.queue ++ works) (hdeliveries : t'.deliveries = t.deliveries) :
    t'.threadChanges = t.threadChanges ++ works.filterMap fun work => work.threadChange work.promise := by
  unfold threadChanges
  rw [hqueue, hdeliveries, List.map_append, ← List.append_assoc, List.filterMap_append]
  congr 1
  rw [List.filterMap_map]
  rfl

theorem Knows.congr {t t' : TtdSession} {info : ThreadInfo} (h : t.Knows info)
    (heq : t'.tables = t.tables) : t'.Knows info := h.imp fun _ hheld => hheld.congr heq

theorem knows_congr {t t' : TtdSession} (heq : t'.tables = t.tables) (info : ThreadInfo) :
    t'.Knows info ↔ t.Knows info := ⟨fun h => h.congr heq.symm, fun h => h.congr heq⟩

/-- Work that is not about threads leaves the view of them alone. -/
theorem ThreadsTold.extend {t t' : TtdSession} (h : t.ThreadsTold) (htables : t'.tables = t.tables)
    {works : List TtdWork} (hqueue : t'.queue = t.queue ++ works)
    (hdeliveries : t'.deliveries = t.deliveries)
    (hworks : ∀ work ∈ works, work.created? = none ∧ ∀ threadId, work.threadChange threadId = none) :
    t'.ThreadsTold := by
  have hnone : works.filterMap (fun work => work.threadChange work.promise) = [] :=
    List.filterMap_eq_nil_iff.mpr fun work hmem => (hworks work hmem).2 _
  have hchanges : t'.threadChanges = t.threadChanges := by
    rw [threadChanges_append hqueue hdeliveries, hnone, List.append_nil]
  constructor
  · exact h.registered.congr htables
  · intro info info' hinfo hinfo'
    exact h.apart info info' ((knows_congr htables info).mp hinfo) ((knows_congr htables info').mp hinfo')
  · intro work hmem handle thread hcreated
    rw [hqueue] at hmem
    obtain hmem | hmem := List.mem_append.mp hmem
    · exact (h.queued work hmem handle thread hcreated).congr htables
    · cases (hworks work hmem).1.symm.trans hcreated
  · rw [hchanges]
    exact h.timely
  · intro threadId
    rw [hchanges, h.viewed]
    exact exists_congr fun info => and_congr_left fun _ => (knows_congr htables info).symm
  · rw [hdeliveries]
    exact h.named

theorem silent_of_not_announces {work : TtdWork} (h : ¬ work.Announces) :
    work.created? = none ∧ ∀ threadId, work.threadChange threadId = none := by
  cases work <;> first | exact ⟨rfl, fun _ => rfl⟩ | exact absurd trivial h

theorem tables_of_carried {t t' : TtdSession} (h : t.Carried t') : t'.tables = t.tables := by
  simp only [tables, h.ids, h.registry, h.tebs, h.serial]

theorem ThreadsTold.carried {t t' : TtdSession} (h : t.ThreadsTold) (hcarried : t.Carried t') :
    t'.ThreadsTold := by
  obtain ⟨works, hworks, hqueue⟩ := hcarried.queued
  exact h.extend (tables_of_carried hcarried) hqueue hcarried.deliveries
    fun work hmem => silent_of_not_announces (hworks work hmem)

/-- One more change that is timely, and what the view becomes. -/
theorem mem_replay_put {changes : List (Change DWORD Unit)} {threadId threadId' : DWORD} :
    threadId' ∈ replay (changes ++ [.put threadId ()]) ∅ ↔
      threadId' = threadId ∨ threadId' ∈ replay changes ∅ := by
  rw [replay_append]
  exact MapSums.mem_insert_iff

theorem mem_replay_drop {changes : List (Change DWORD Unit)} {threadId threadId' : DWORD} :
    threadId' ∈ replay (changes ++ [.drop threadId]) ∅ ↔
      threadId' ≠ threadId ∧ threadId' ∈ replay changes ∅ := by
  rw [replay_append]
  exact MapSums.mem_erase_iff

/-- Threads that enter are known, unless they are already, and their creation is queued. -/
structure Entered (threads : List ThreadInfo) (t t' : TtdSession) : Prop where
  told : t'.ThreadsTold
  knows : ∀ info, t'.Knows info ↔ t.Knows info ∨ info ∈ threads
  room : t'.gNextSyntheticHandle.toNat ≤ t.gNextSyntheticHandle.toNat + threads.length
  queued : ∀ work ∈ t'.queue, ∀ handle info, work.created? = some (handle, info) →
    work ∈ t.queue ∨ info ∈ threads

/-- A thread that was not known becomes known with the event that creates it. -/
theorem ThreadsTold.announce {t t' : TtdSession} (h : t.ThreadsTold) (hregistered : t'.Registered)
    {work : TtdWork} {handle : HANDLE} {info : ThreadInfo}
    (hqueue : t'.queue = t.queue ++ [work]) (hdeliveries : t'.deliveries = t.deliveries)
    (hcreated : work.created? = some (handle, info))
    (hput : work.threadChange work.promise = some (.put info.id ()))
    (hholds : ∀ index handle' id, t'.Holds index handle' id ↔ t.Holds index handle' id ∨
      index = info.uniqueId ∧ handle' = handle ∧ id = info.id)
    (hunknown : ¬ t.Knows info)
    (hfits : ∀ info', t.Knows info' → info'.uniqueId = info.uniqueId ∨ info'.id = info.id → info' = info) :
    t'.ThreadsTold ∧ (∀ info', t'.Knows info' ↔ t.Knows info' ∨ info' = info) := by
  have hknows : ∀ info', t'.Knows info' ↔ t.Knows info' ∨ info' = info := by
    intro info'
    simp only [Knows, hholds]
    constructor
    · rintro ⟨handle', hheld | ⟨hindex, -, hid⟩⟩
      · exact .inl ⟨handle', hheld⟩
      · cases info'
        cases info
        cases hindex
        cases hid
        exact .inr rfl
    · rintro (⟨handle', hheld⟩ | rfl)
      · exact ⟨handle', .inl hheld⟩
      · exact ⟨handle, .inr ⟨rfl, rfl, rfl⟩⟩
  have hchanges : t'.threadChanges = t.threadChanges ++ [.put info.id ()] := by
    rw [threadChanges_append hqueue hdeliveries]
    simp [hput]
  have habsent : info.id ∉ replay t.threadChanges ∅ := by
    rw [h.viewed]
    rintro ⟨info', hknown, hid⟩
    exact hunknown (hfits info' hknown (.inr hid) ▸ hknown)
  refine ⟨⟨hregistered, ?_, ?_, ?_, ?_, ?_⟩, hknows⟩
  · intro info₁ info₂ hinfo₁ hinfo₂ hid
    obtain hknown₁ | heq₁ := (hknows info₁).mp hinfo₁
    · obtain hknown₂ | heq₂ := (hknows info₂).mp hinfo₂
      · exact h.apart info₁ info₂ hknown₁ hknown₂ hid
      · rw [heq₂]
        exact hfits info₁ hknown₁ (.inr (heq₂ ▸ hid))
    · obtain hknown₂ | heq₂ := (hknows info₂).mp hinfo₂
      · rw [heq₁]
        exact (hfits info₂ hknown₂ (.inr (heq₁ ▸ hid).symm)).symm
      · rw [heq₁, heq₂]
  · intro work' hmem handle' thread hcreated'
    rw [hholds]
    rw [hqueue] at hmem
    obtain hmem | hmem := List.mem_append.mp hmem
    · exact .inl (h.queued work' hmem handle' thread hcreated')
    · rw [List.mem_singleton.mp hmem] at hcreated'
      cases hcreated.symm.trans hcreated'
      exact .inr ⟨rfl, rfl, rfl⟩
  · rw [hchanges, timely_append]
    exact ⟨h.timely, habsent, trivial⟩
  · intro threadId
    rw [hchanges, mem_replay_put, h.viewed]
    constructor
    · rintro (rfl | ⟨info', hknown, hid⟩)
      · exact ⟨info, (hknows info).mpr (.inr rfl), rfl⟩
      · exact ⟨info', (hknows info').mpr (.inl hknown), hid⟩
    · rintro ⟨info', hknown, hid⟩
      obtain hknown | rfl := (hknows info').mp hknown
      · exact .inr ⟨info', hknown, hid⟩
      · exact .inl hid.symm
  · rw [hdeliveries]
    exact h.named

theorem entered_enterThread {t : TtdSession} (h : t.ThreadsTold)
    (hroom : t.gNextSyntheticHandle.toNat < 2 ^ 43) {info : ThreadInfo}
    (hfits : ∀ info', t.Knows info' → info'.uniqueId = info.uniqueId ∨ info'.id = info.id → info' = info) :
    t.Entered [info] (t.enterThread info) := by
  rw [enterThread_eq]
  split
  · rename_i hcontains
    have hknown : t.Knows info := by
      rw [Std.ExtTreeMap.contains_iff_mem] at hcontains
      obtain ⟨id, hheld⟩ := h.registered.held info.uniqueId _ (Std.ExtTreeMap.getElem?_eq_some_getElem hcontains)
      have hsame := hfits ⟨info.uniqueId, id⟩ ⟨_, hheld⟩ (.inl rfl)
      exact hsame ▸ ⟨_, hheld⟩
    constructor
    · exact h
    · intro info'
      rw [List.mem_singleton]
      exact ⟨.inl, fun hor => hor.elim id fun heq => heq ▸ hknown⟩
    · omega
    · exact fun work hmem _ _ _ => .inl hmem
  · rename_i hcontains
    rw [Std.ExtTreeMap.contains_iff_mem] at hcontains
    have hqueue : (t.addThread info).queue = t.queue ++ [.createThread
        (syntheticHandle t.gNextSyntheticHandle) (t.ttdTebAddress info.id) info] := rfl
    obtain ⟨htold, hknows⟩ := h.announce (registered_addThread h.registered hroom hcontains) hqueue rfl
      rfl rfl (fun _ _ _ => holds_addThread h.registered hroom hcontains)
      (fun ⟨_, hheld⟩ => hcontains (MapSums.mem_of_getElem? hheld.1)) hfits
    constructor
    · exact htold
    · intro info'
      rw [hknows, List.mem_singleton]
    · show (t.gNextSyntheticHandle + 1).toNat ≤ _
      rw [toNat_next hroom, List.length_singleton]
    · intro work hmem handle thread hcreated
      rw [hqueue] at hmem
      obtain hmem | hmem := List.mem_append.mp hmem
      · exact .inl hmem
      · rw [List.mem_singleton.mp hmem] at hcreated
        cases hcreated
        exact .inr List.mem_cons_self

theorem entered_foldl {threads : List ThreadInfo} {t : TtdSession} (h : t.ThreadsTold)
    (hroom : t.gNextSyntheticHandle.toNat + threads.length ≤ 2 ^ 43)
    (hfits : ∀ info ∈ threads, ∀ info', t.Knows info' ∨ info' ∈ threads →
      info'.uniqueId = info.uniqueId ∨ info'.id = info.id → info' = info) :
    t.Entered threads (threads.foldl (fun t info => t.enterThread info) t) := by
  induction threads generalizing t with
  | nil =>
    refine ⟨h, fun info => ?_, ?_, fun work hmem _ _ _ => .inl hmem⟩
    · simp
    · simp
  | cons first threads ih =>
    rw [List.length_cons] at hroom
    have hfirst := entered_enterThread h (by omega) fun info' hknown =>
      hfits first List.mem_cons_self info' (.inl hknown)
    have hnext := hfirst.room
    rw [List.length_singleton] at hnext
    have hrest := ih hfirst.told (by omega) fun info hmem info' hinfo' => by
      refine hfits info (List.mem_cons_of_mem _ hmem) info' ?_
      obtain hknown | hmem' := hinfo'
      · obtain hknown | hmem' := (hfirst.knows info').mp hknown
        · exact .inl hknown
        · exact .inr (List.mem_singleton.mp hmem' ▸ List.mem_cons_self)
      · exact .inr (List.mem_cons_of_mem _ hmem')
    rw [List.foldl_cons]
    refine ⟨hrest.told, fun info => ?_, ?_, fun work hmem handle info hcreated => ?_⟩
    · rw [hrest.knows, hfirst.knows, List.mem_singleton, List.mem_cons, or_assoc]
    · have hlast := hrest.room
      rw [List.length_cons]
      omega
    · obtain hmem | hmem := hrest.queued work hmem handle info hcreated
      · obtain hmem | hmem := hfirst.queued work hmem handle info hcreated
        · exact .inl hmem
        · exact .inr (List.mem_singleton.mp hmem ▸ List.mem_cons_self)
      · exact .inr (List.mem_cons_of_mem _ hmem)

/-- Threads that leave are no longer known, and their exit is queued. -/
structure Left (indices : List ULONG) (t t' : TtdSession) : Prop where
  told : t'.ThreadsTold
  holds : ∀ index handle id, t'.Holds index handle id ↔ t.Holds index handle id ∧ index ∉ indices
  queued : ∀ work ∈ t'.queue, ∀ handle info, work.created? = some (handle, info) → work ∈ t.queue

theorem left_leaveThread {t : TtdSession} (h : t.ThreadsTold) {index : ULONG} {handle : HANDLE}
    {id : DWORD} (hheld : t.Holds index handle id)
    (hquiet : ∀ work ∈ t.queue, ∀ handle thread, work.created? = some (handle, thread) →
      thread.uniqueId ≠ index) : t.Left [index] (t.leaveThread (index, handle, id)) := by
  have hqueue : (t.leaveThread (index, handle, id)).queue = t.queue ++ [.exitThread id index] := rfl
  have hchanges : (t.leaveThread (index, handle, id)).threadChanges = t.threadChanges ++ [.drop id] :=
    threadChanges_append hqueue rfl
  have hholds : ∀ index' handle' id', (t.leaveThread (index, handle, id)).Holds index' handle' id' ↔
      t.Holds index' handle' id' ∧ index' ≠ index := by
    intro index' handle' id'
    constructor
    · rintro ⟨hindex, entry, hentry, hrest⟩
      refine ⟨⟨MapSums.getElem?_of_erase hindex, entry, MapSums.getElem?_of_erase hentry, hrest⟩, ?_⟩
      rintro rfl
      cases (Std.ExtTreeMap.getElem?_erase_self).symm.trans hindex
    · rintro ⟨⟨hindex, entry, hentry, hrest⟩, hne⟩
      have hother : handle' ≠ handle := by
        rintro rfl
        exact hne (h.registered.apart index' index _ hindex hheld.1)
      exact ⟨(MapSums.getElem?_erase_of_ne hne).trans hindex, entry,
        (MapSums.getElem?_erase_of_ne hother).trans hentry, hrest⟩
  have hknown : t.Knows ⟨index, id⟩ := ⟨handle, hheld⟩
  have hknows : ∀ info, (t.leaveThread (index, handle, id)).Knows info ↔
      t.Knows info ∧ info.uniqueId ≠ index := by
    intro info
    simp only [Knows, hholds, exists_and_right]
  -- The thread that leaves is the only known one with its system id.
  have hid : ∀ info, t.Knows info → (info.id ≠ id ↔ info.uniqueId ≠ index) := by
    intro info hinfo
    refine not_congr ⟨fun heq => ?_, fun heq => ?_⟩
    · rw [h.apart info ⟨index, id⟩ hinfo hknown heq]
    · obtain ⟨handle', hheld'⟩ := hinfo
      rw [heq] at hheld'
      obtain ⟨hindex, entry, hentry, -, -, hsystem⟩ := hheld
      obtain ⟨hindex', entry', hentry', -, -, hsystem'⟩ := hheld'
      cases hindex.symm.trans hindex'
      cases hentry.symm.trans hentry'
      exact hsystem'.symm.trans hsystem
  refine ⟨⟨?_, ?_, ?_, ?_, ?_, h.named⟩, fun index' handle' id' => ?_, ?_⟩
  · exact h.registered.leave hheld
  · intro info info' hinfo hinfo'
    exact h.apart info info' ((hknows info).mp hinfo).1 ((hknows info').mp hinfo').1
  · intro work hmem handle' thread hcreated
    rw [hqueue] at hmem
    obtain hmem | hmem := List.mem_append.mp hmem
    · exact (hholds _ _ _).mpr ⟨h.queued work hmem handle' thread hcreated,
        hquiet work hmem handle' thread hcreated⟩
    · rw [List.mem_singleton.mp hmem] at hcreated
      cases hcreated
  · rw [hchanges, timely_append]
    exact ⟨h.timely, (h.viewed id).mpr ⟨_, hknown, rfl⟩, trivial⟩
  · intro threadId
    rw [hchanges, mem_replay_drop, h.viewed]
    constructor
    · rintro ⟨hne, info, hinfo, rfl⟩
      exact ⟨info, (hknows info).mpr ⟨hinfo, (hid info hinfo).mp hne⟩, rfl⟩
    · rintro ⟨info, hinfo, rfl⟩
      obtain ⟨hinfo, hne⟩ := (hknows info).mp hinfo
      exact ⟨(hid info hinfo).mpr hne, info, hinfo, rfl⟩
  · rw [hholds, List.mem_singleton]
  · intro work hmem handle' thread hcreated
    rw [hqueue] at hmem
    obtain hmem | hmem := List.mem_append.mp hmem
    · exact hmem
    · rw [List.mem_singleton.mp hmem] at hcreated
      cases hcreated

theorem left_foldl {leaving : List (ULONG × HANDLE × DWORD)} {t : TtdSession} (h : t.ThreadsTold)
    (hnodup : (leaving.map (·.1)).Nodup) (hheld : ∀ entry ∈ leaving, t.Holds entry.1 entry.2.1 entry.2.2)
    (hquiet : ∀ work ∈ t.queue, ∀ handle thread, work.created? = some (handle, thread) →
      thread.uniqueId ∉ leaving.map (·.1)) :
    t.Left (leaving.map (·.1)) (leaving.foldl (fun t thread => t.leaveThread thread) t) := by
  induction leaving generalizing t with
  | nil =>
    refine ⟨h, fun index handle id => ?_, fun work hmem _ _ _ => hmem⟩
    simp
  | cons first leaving ih =>
    obtain ⟨index, handle, id⟩ := first
    rw [List.map_cons, List.nodup_cons] at hnodup
    have hfirst := left_leaveThread h (hheld _ List.mem_cons_self) fun work hmem handle' thread hcreated heq =>
      hquiet work hmem handle' thread hcreated (heq ▸ List.mem_cons_self)
    have hrest := ih hfirst.told hnodup.2
      (fun entry hmem => by
        refine (hfirst.holds _ _ _).mpr ⟨hheld entry (List.mem_cons_of_mem _ hmem), ?_⟩
        rw [List.mem_singleton]
        rintro heq
        exact hnodup.1 (heq ▸ List.mem_map_of_mem hmem))
      fun work hmem handle' thread hcreated hin =>
        hquiet work (hfirst.queued work hmem handle' thread hcreated) handle' thread hcreated
          (List.mem_cons_of_mem _ hin)
    rw [List.foldl_cons]
    refine ⟨hrest.told, fun index' handle' id' => ?_, fun work hmem handle' info hcreated => ?_⟩
    · rw [hrest.holds, hfirst.holds, List.mem_singleton, List.map_cons, List.mem_cons, not_or, and_assoc]
    · exact hfirst.queued work (hrest.queued work hmem handle' info hcreated) handle' info hcreated

theorem mem_terminatedThreads {t : TtdSession} (h : t.Registered) {entry : ULONG × HANDLE × DWORD} :
    entry ∈ t.terminatedThreads ↔
      t.Holds entry.1 entry.2.1 entry.2.2 ∧ entry.1 ∉ t.current.threads.map (·.uniqueId) := by
  obtain ⟨index, handle, id⟩ := entry
  simp only [terminatedThreads, List.mem_map, List.mem_filter, decide_eq_true_eq, Prod.mk.injEq]
  constructor
  · rintro ⟨⟨index', handle'⟩, ⟨hmem, hgone⟩, rfl, rfl, rfl⟩
    rw [Std.ExtTreeMap.mem_toList_iff_getElem?_eq_some] at hmem
    obtain ⟨id, hheld⟩ := h.held index' handle' hmem
    refine ⟨?_, by simpa using hgone⟩
    obtain ⟨hindex, entry, hentry, htype, howned, -⟩ := hheld
    rw [hentry]
    exact ⟨hindex, entry, hentry, htype, howned, rfl⟩
  · rintro ⟨hheld, hgone⟩
    obtain ⟨hindex, entry, hentry, -, -, rfl⟩ := hheld
    refine ⟨(index, handle), ⟨Std.ExtTreeMap.mem_toList_iff_getElem?_eq_some.mpr hindex, by simpa using hgone⟩,
      rfl, rfl, ?_⟩
    rw [hentry]
    rfl

theorem nodup_terminatedThreads (t : TtdSession) : (t.terminatedThreads.map (·.1)).Nodup := by
  unfold terminatedThreads
  dsimp only
  rw [List.map_map]
  have hkeys : (t.gDebugIdMap.threadIndexToHandle.toList.map Prod.fst).Nodup := by
    rw [Std.ExtTreeMap.map_fst_toList_eq_keys]
    exact Std.ExtTreeMap.nodup_keys
  exact hkeys.sublist (List.filter_sublist.map _)

/-- At the cursor's new position, a refresh makes the known threads those there. -/
theorem ThreadsTold.refreshThreads {t : TtdSession} (h : t.ThreadsTold)
    (hroom : t.gNextSyntheticHandle.toNat + t.current.threads.length ≤ 2 ^ 43)
    (hfits : ∀ info ∈ t.current.threads, ∀ info', t.Knows info' ∨ info' ∈ t.current.threads →
      info'.uniqueId = info.uniqueId ∨ info'.id = info.id → info' = info)
    (hqueued : ∀ work ∈ t.queue, ∀ handle thread, work.created? = some (handle, thread) →
      ∃ info ∈ t.current.threads, info.uniqueId = thread.uniqueId) :
    t.refreshThreads.ThreadsTold ∧ t.refreshThreads.Settled := by
  have hcurrent : t.refreshThreads.current = t.current := by
    have hsame := refreshed_refreshThreads t
    exact current_congr hsame.engine (congrArg TtdCursor.position hsame.cursor)
  have hentered := entered_foldl h hroom hfits
  have hkept := Refreshed.foldl (fun t info => refreshed_enterThread info t) t.current.threads t
  unfold Settled
  rw [hcurrent]
  unfold TtdSession.refreshThreads
  generalize t.current.threads.foldl (fun t info => t.enterThread info) t = u at hentered hkept ⊢
  have hactive : u.current.threads = t.current.threads := by
    rw [current_congr hkept.engine (congrArg TtdCursor.position hkept.cursor)]
  have hindices : ∀ index, index ∈ u.terminatedThreads.map (·.1) ↔
      (∃ handle id, u.Holds index handle id) ∧ index ∉ t.current.threads.map (·.uniqueId) := by
    intro index
    rw [List.mem_map, ← hactive]
    constructor
    · rintro ⟨entry, hmem, rfl⟩
      obtain ⟨hheld, hgone⟩ := (mem_terminatedThreads hentered.told.registered).mp hmem
      exact ⟨⟨_, _, hheld⟩, hgone⟩
    · rintro ⟨⟨handle, id, hheld⟩, hgone⟩
      exact ⟨(index, handle, id), (mem_terminatedThreads hentered.told.registered).mpr ⟨hheld, hgone⟩, rfl⟩
  have hleft := left_foldl hentered.told (nodup_terminatedThreads u)
    (fun entry hmem => ((mem_terminatedThreads hentered.told.registered).mp hmem).1)
    fun work hmem handle thread hcreated hin => by
      refine ((hindices _).mp hin).2 (List.mem_map.mpr ?_)
      obtain hmem | hmem := hentered.queued work hmem handle thread hcreated
      · exact hqueued work hmem handle thread hcreated
      · exact ⟨thread, hmem, rfl⟩
  refine ⟨hleft.told, fun info => ?_⟩
  have hknown : (∃ handle, u.Holds info.uniqueId handle info.id) ↔ t.Knows info ∨ info ∈ t.current.threads :=
    hentered.knows info
  simp only [Knows, hleft.holds, exists_and_right, hindices, hknown]
  constructor
  · rintro ⟨hinfo, hstays⟩
    have hactive : info.uniqueId ∈ t.current.threads.map (·.uniqueId) := by
      by_contra hgone
      obtain ⟨handle, hheld⟩ := hknown.mpr hinfo
      exact hstays ⟨⟨handle, _, hheld⟩, hgone⟩
    obtain ⟨info', hmem, heq⟩ := List.mem_map.mp hactive
    exact hfits info' hmem info hinfo (.inl heq.symm) ▸ hmem
  · intro hmem
    exact ⟨.inr hmem, fun hgone => hgone.2 (List.mem_map_of_mem hmem)⟩

theorem ThreadsTold.refreshModules {t : TtdSession} (h : t.ThreadsTold) : t.refreshModules.ThreadsTold := by
  refine h.extend rfl rfl rfl fun work hmem => ?_
  rw [List.mem_append, List.mem_map, List.mem_map] at hmem
  obtain ⟨_, _, rfl⟩ | ⟨_, _, rfl⟩ := hmem
  · exact ⟨rfl, fun _ => rfl⟩
  · exact ⟨rfl, fun _ => rfl⟩

/-- What a replay keeps: the client is told of the threads at the cursor. -/
structure ThreadsKept (t : TtdSession) : Prop where
  told : t.ThreadsTold
  settled : t.Settled
  named : t.gTtdEngine.ThreadsNamed

theorem ThreadsKept.of_stays {t t' : TtdSession} (htold : t'.ThreadsTold) (hsettled : t.Settled)
    (hnamed : t.gTtdEngine.ThreadsNamed) (hknows : ∀ info, t'.Knows info ↔ t.Knows info)
    (hengine : t'.gTtdEngine = t.gTtdEngine) (hposition : t'.cursor.position = t.cursor.position) :
    t'.ThreadsKept := by
  refine ⟨htold, fun info => ?_, hengine ▸ hnamed⟩
  rw [hknows, hsettled, current_congr hengine hposition]

theorem ThreadsKept.carried {t t' : TtdSession} (h : t.ThreadsKept) (hcarried : t.Carried t')
    (hposition : t'.cursor.position = t.cursor.position) : t'.ThreadsKept :=
  .of_stays (h.told.carried hcarried) h.settled h.named (knows_congr (tables_of_carried hcarried))
    hcarried.engine hposition

theorem ThreadsKept.moved {t t' : TtdSession} (h : t.ThreadsKept) (hmoved : t.Moved t')
    (hqueued : ∀ work ∈ t.queue, ∀ handle thread, work.created? = some (handle, thread) →
      ∃ info ∈ (t.gTtdEngine.snapshot t'.cursor.position).threads, info.uniqueId = thread.uniqueId)
    (hapart : ∀ info ∈ t.current.threads,
      ∀ info' ∈ (t.gTtdEngine.snapshot t'.cursor.position).threads,
        info.id = info'.id → info.uniqueId = info'.uniqueId)
    (hroom : t.gNextSyntheticHandle.toNat +
      (t.gTtdEngine.snapshot t'.cursor.position).threads.length ≤ 2 ^ 43) : t'.ThreadsKept := by
  cases hmoved with
  | rests carried position => exact h.carried carried position
  | @arrives u carried refreshed =>
    have hposition : t'.cursor.position = u.cursor.position :=
      congrArg TtdCursor.position (refreshed.cursor.trans (refreshed_refreshTtdTimeline u).cursor)
    have hcurrent : u.current = t.gTtdEngine.snapshot t'.cursor.position := by
      unfold current
      rw [carried.engine, hposition]
    rw [← hcurrent] at hqueued hapart hroom
    have hold : ∀ info, u.Knows info → info ∈ t.current.threads := fun info hinfo =>
      (h.settled info).mp ((knows_congr (tables_of_carried carried) info).mp hinfo)
    have hunique : ∀ info ∈ u.current.threads, ∀ info', u.Knows info' ∨ info' ∈ u.current.threads →
        info'.uniqueId = info.uniqueId ∨ info'.id = info.id → info' = info := by
      intro info hmem info' hinfo' hsame
      rw [hcurrent] at hmem hinfo' hapart
      obtain hinfo' | hinfo' := hinfo'
      · obtain hsame | hsame := hsame
        · exact h.named _ _ info' (hold info' hinfo') info hmem hsame
        · exact h.named _ _ info' (hold info' hinfo') info hmem (hapart info' (hold info' hinfo') info hmem hsame)
      · obtain hsame | hsame := hsame
        · exact h.named _ _ info' hinfo' info hmem hsame
        · exact List.inj_on_of_nodup_map (Snapshot.nodup_id _) hinfo' hmem hsame
    have hpending : ∀ work ∈ u.queue, ∀ handle thread, work.created? = some (handle, thread) →
        ∃ info ∈ u.current.threads, info.uniqueId = thread.uniqueId := by
      obtain ⟨works, hworks, hqueue⟩ := carried.queued
      intro work hmem handle thread hcreated
      rw [hqueue] at hmem
      obtain hmem | hmem := List.mem_append.mp hmem
      · exact hqueued work hmem handle thread hcreated
      · cases (silent_of_not_announces (hworks work hmem)).1.symm.trans hcreated
    rw [← carried.serial] at hroom
    obtain ⟨htold, hsettled⟩ := (h.told.carried carried).refreshThreads hroom hunique hpending
    have hrefreshed : u.refreshTtdTimeline.ThreadsKept :=
      .of_stays htold.refreshModules hsettled
        ((refreshed_refreshThreads u).engine ▸ carried.engine ▸ h.named) (knows_congr rfl) rfl rfl
    exact hrefreshed.carried refreshed.toCarried (congrArg TtdCursor.position refreshed.cursor)

/-- A delivery in time carries the id it was meant to carry, and writes the TEB of a
handle that is registered. -/
theorem deliver_in_time {work : TtdWork} {t : TtdSession} (hintime : work.InTime t)
    (hcreated : ∀ handle thread, work.created? = some (handle, thread) →
      t.Holds thread.uniqueId handle thread.id) :
    ∃ tebs event threadId, t.deliver work =
      { t with gProcessTebCache := tebs, gFakeDebugEvent := event
               noted := t.noted ++ [.delivered work threadId] } ∧
      (tebs = t.gProcessTebCache ∨ ∃ handle teb, tebs = t.gProcessTebCache.insert handle teb ∧
        handle ∈ t.gHandleRegistry) ∧
      work.threadChange threadId = work.threadChange work.promise ∧
      ∀ handle teb thread, work = .createThread handle teb thread → threadId = thread.id := by
  cases work with
  | createProcess handle initialThread module teb thread =>
    obtain ⟨-, entry, hentry, -⟩ := hcreated initialThread thread rfl
    refine ⟨_, _, _, rfl, .inr ⟨initialThread, teb, rfl, MapSums.mem_of_getElem? hentry⟩, ?_, ?_⟩
    · exact congrArg (fun threadId => some (Change.put threadId ())) hintime
    · intro _ _ _ heq
      cases heq
  | createThread handle teb thread =>
    obtain ⟨-, entry, hentry, -, -, hid⟩ := hcreated handle thread rfl
    have hname : t.creationThreadId handle = thread.id := by
      rw [creationThreadId, hentry]
      exact hid
    refine ⟨_, _, _, rfl, .inr ⟨handle, teb, rfl, MapSums.mem_of_getElem? hentry⟩, ?_, ?_⟩
    · exact congrArg (fun threadId => some (Change.put threadId ())) hname
    · intro _ _ _ heq
      cases heq
      exact hname
  | _ =>
    refine ⟨_, _, _, rfl, .inl rfl, rfl, ?_⟩
    intro _ _ _ heq
    cases heq

theorem ThreadsKept.delivered {t : TtdSession} {work : TtdWork} {rest : List TtdWork}
    (h : t.ThreadsKept) (hqueue : t.queue = work :: rest) (hintime : work.InTime t) :
    ({ t with queue := rest }.deliver work).ThreadsKept := by
  have hcreated := h.told.queued work (hqueue ▸ List.mem_cons_self)
  obtain ⟨tebs, event, threadId, heq, htebs, hchange, hname⟩ :=
    deliver_in_time (t := { t with queue := rest }) hintime hcreated
  rw [heq]
  have hdeliveries : (t.noted ++ [TtdEntry.delivered work threadId]).filterMap TtdEntry.delivery? =
      t.deliveries ++ [(work, threadId)] := List.filterMap_append
  have hchanges : (((t.noted ++ [TtdEntry.delivered work threadId]).filterMap TtdEntry.delivery?) ++
      rest.map fun work => (work, work.promise)).filterMap
        (fun delivery => delivery.1.threadChange delivery.2) = t.threadChanges := by
    rw [hdeliveries, threadChanges, hqueue, List.map_cons, List.append_assoc, List.filterMap_append,
      List.filterMap_append, List.filterMap_append]
    congr 1
    simp only [List.filterMap_cons, List.filterMap_nil, hchange]
    cases work.threadChange work.promise <;> rfl
  have hregistered : Registered { t with gProcessTebCache := tebs } := by
    obtain rfl | ⟨handle, teb, rfl, hmem⟩ := htebs
    · exact h.told.registered
    · exact h.told.registered.teb hmem teb
  refine .of_stays (t := t) ⟨?_, h.told.apart, ?_, ?_, ?_, ?_⟩ h.settled h.named (fun _ => .rfl) rfl rfl
  · exact hregistered.congr rfl
  · intro work' hmem handle thread hcreated'
    exact h.told.queued work' (hqueue ▸ List.mem_cons_of_mem _ hmem) handle thread hcreated'
  · unfold threadChanges deliveries
    rw [hchanges]
    exact h.told.timely
  · unfold threadChanges deliveries
    rw [hchanges]
    exact h.told.viewed
  · intro handle teb thread threadId' hmem
    unfold deliveries at hmem
    rw [hdeliveries] at hmem
    obtain hmem | hmem := List.mem_append.mp hmem
    · exact h.told.named handle teb thread threadId' hmem
    · cases List.mem_singleton.mp hmem
      exact hname handle teb thread rfl

/-- Handles of the client come and go beside those of the threads. -/
theorem ThreadsKept.reopened {t t' : TtdSession} (h : t.ThreadsKept) (hregistered : t'.Registered)
    (hholds : ∀ index handle id, t'.Holds index handle id ↔ t.Holds index handle id)
    (heq : t'.moduleSide = t.moduleSide) : t'.ThreadsKept := by
  simp only [moduleSide, Prod.mk.injEq] at heq
  obtain ⟨-, hengine, hposition, hnoted, hqueue⟩ := heq
  have hknows : ∀ info, t'.Knows info ↔ t.Knows info := fun info => exists_congr fun handle => hholds _ handle _
  have hdeliveries : t'.deliveries = t.deliveries := by
    unfold deliveries
    rw [hnoted]
  have hchanges : t'.threadChanges = t.threadChanges := by
    unfold threadChanges
    rw [hdeliveries, hqueue]
  refine .of_stays ⟨hregistered, ?_, ?_, ?_, ?_, ?_⟩ h.settled h.named hknows hengine hposition
  · intro info info' hinfo hinfo'
    exact h.told.apart info info' ((hknows info).mp hinfo) ((hknows info').mp hinfo')
  · rw [hqueue]
    exact fun work hmem handle thread hcreated =>
      (hholds _ _ _).mpr (h.told.queued work hmem handle thread hcreated)
  · rw [hchanges]
    exact h.told.timely
  · intro threadId
    rw [hchanges, h.told.viewed]
    exact exists_congr fun info => and_congr_left fun _ => (hknows info).symm
  · rw [hdeliveries]
    exact h.told.named

theorem threadsKept_step :
    Runs.Preserves (TtdStep TtdMove.KeepsThreads TtdWork.InTime HasSerial) ThreadsKept := by
  intro t t' hstep h
  have hregistered := h.told.registered
  cases hstep with
  | move allow => exact h.moved (moved_apply allow.lands) allow.queued allow.apart allow.room
  | deliver queued allow => exact h.delivered queued allow
  | openProcess allow =>
    exact h.reopened (hregistered.openProcess allow _) (fun _ _ _ => hregistered.holds_openProcess allow)
      (moduleSide_titanOpenProcess _ t)
  | openThread allow =>
    exact h.reopened (hregistered.openThread allow _ _) (fun _ _ _ => hregistered.holds_openThread allow)
      (moduleSide_titanOpenThread _ _ t)
  | closeHandle =>
    exact h.reopened (hregistered.closeHandle _ _) (fun _ _ _ => Registered.holds_closeHandle)
      (moduleSide_titanCloseHandle _ _ t)
  | breakpoints => exact h.carried (.of_timeline rfl) rfl
  | @pause _ steps =>
    have hstays := Stays.of_pauseSteps steps t
    exact h.carried hstays.toCarried (congrArg TtdCursor.position hstays.cursor)
  | runBack =>
    unfold replayRunBack
    split
    · exact h.carried (.of_timeline rfl) rfl
    · split
      · exact h.carried (.of_timeline rfl) rfl
      · exact h.carried (.of_timeline rfl) rfl
  | loop => exact h.carried (.of_timeline rfl) rfl

/-- The threads besides the initial one enter as they do at a refresh. -/
theorem foldl_bootstrapThread {threadSystemId : DWORD} {threads : List ThreadInfo} {t : TtdSession}
    (hnodup : (threads.map (·.uniqueId)).Nodup)
    (hknown : ∀ info ∈ threads,
      info.uniqueId ∈ t.gDebugIdMap.threadIndexToHandle ↔ info.id = threadSystemId) :
    threads.foldl (bootstrapThread threadSystemId) t =
      threads.foldl (fun t info => t.enterThread info) t := by
  induction threads generalizing t with
  | nil => rfl
  | cons first threads ih =>
    rw [List.map_cons, List.nodup_cons] at hnodup
    have hfirst := hknown first List.mem_cons_self
    have hstep : t.bootstrapThread threadSystemId first = t.enterThread first := by
      rw [bootstrapThread_eq, enterThread_eq]
      simp only [← hfirst, Std.ExtTreeMap.contains_iff_mem]
    rw [List.foldl_cons, List.foldl_cons, hstep]
    refine ih hnodup.2 fun info hmem => ?_
    rw [← hknown info (List.mem_cons_of_mem _ hmem), enterThread_eq]
    split
    · rfl
    · have hne : info.uniqueId ≠ first.uniqueId := fun heq =>
        hnodup.1 (heq ▸ List.mem_map_of_mem hmem)
      show _ ∈ t.gDebugIdMap.threadIndexToHandle.insert first.uniqueId _ ↔ _
      rw [MapSums.mem_insert_iff]
      exact or_iff_right hne

theorem threadsTold_openReplay {trace : Trace} {thread : ThreadInfo} {serial : ULONG_PTR} {s : Session}
    (hroom : serial.toNat ≤ 2 ^ 43) :
    (openReplay trace thread serial s).ThreadsTold ∧
      ∀ info, ¬ (openReplay trace thread serial s).Knows info := by
  have hempty : ∀ (index : ULONG) (handle : HANDLE) (id : DWORD),
      ¬ (openReplay trace thread serial s).Holds index handle id := by
    rintro index handle id ⟨hindex, -⟩
    cases (show (∅ : Map ULONG HANDLE)[index]? = some handle from hindex)
  have hunknown : ∀ info, ¬ (openReplay trace thread serial s).Knows info := fun info ⟨_, hheld⟩ =>
    hempty _ _ _ hheld
  have hprocess : ∀ (index : ULONG) (handle : HANDLE),
      (openReplay trace thread serial s).gDebugIdMap.processIndexToHandle[index]? ≠ some handle := by
    intro index handle hindex
    cases (show (∅ : Map ULONG HANDLE)[index]? = some handle from hindex)
  have hthread : ∀ (index : ULONG) (handle : HANDLE),
      (openReplay trace thread serial s).gDebugIdMap.threadIndexToHandle[index]? ≠ some handle := by
    intro index handle hindex
    cases (show (∅ : Map ULONG HANDLE)[index]? = some handle from hindex)
  have hregistered : (openReplay trace thread serial s).Registered :=
    ⟨hroom, fun _ hmem => absurd hmem Std.ExtTreeMap.not_mem_empty,
      fun index handle hindex => absurd hindex (hthread index handle),
      fun index _ handle hindex => absurd hindex (hthread index handle),
      fun _ hmem => absurd hmem Std.ExtTreeMap.not_mem_empty,
      fun _ hmem => absurd hmem Std.ExtTreeMap.not_mem_empty,
      fun _ hmem => absurd hmem Std.ExtTreeMap.not_mem_empty,
      fun index handle hindex => absurd hindex (hprocess index handle)⟩
  refine ⟨⟨hregistered, ?_, ?_, trivial, ?_, ?_⟩, hunknown⟩
  · exact fun info _ hinfo => absurd hinfo (hunknown info)
  · exact fun _ hmem => absurd hmem List.not_mem_nil
  · intro threadId
    refine iff_of_false Std.ExtTreeMap.not_mem_empty ?_
    rintro ⟨info, hinfo, -⟩
    exact hunknown info hinfo
  · exact fun _ _ _ _ hmem => absurd hmem List.not_mem_nil

theorem threadsKept_initReplay {trace : Trace} {thread : ThreadInfo} {serial : ULONG_PTR} {s : Session}
    {t : TtdSession} (h : initReplay trace thread serial s = some t)
    (hthread : thread ∈ (trace.snapshot trace.firstPosition).threads) (hnamed : trace.ThreadsNamed)
    (hroom : serial.toNat + (trace.snapshot trace.firstPosition).threads.length + 4 ≤ 2 ^ 43) :
    t.ThreadsKept := by
  obtain ⟨hopened, hunknown⟩ := @threadsTold_openReplay trace thread serial s (by omega)
  unfold initReplay at h
  dsimp only at h
  split at h
  · cases h
  · cases h
  · rename_i _ _ image himage _
    cases h
    have hroom₀ : (openReplay trace thread serial s).gNextSyntheticHandle.toNat + 2 ≤ 2 ^ 43 := by
      show serial.toNat + 2 ≤ 2 ^ 43
      omega
    have hnew : thread.uniqueId ∉ (openReplay trace thread serial s).gDebugIdMap.threadIndexToHandle :=
      Std.ExtTreeMap.not_mem_empty
    obtain ⟨hregistered, eventProcess, eventThread, teb, hqueue, hserial, hholds⟩ :=
      registered_bootstrapProcess hopened.registered hroom₀ image hnew
    obtain ⟨_, _, _, hside⟩ := moduleSide_bootstrapProcess image (openReplay trace thread serial s)
    simp only [moduleSide, Prod.mk.injEq] at hside
    obtain ⟨-, hengine, hposition, hnoted, -⟩ := hside
    have hdeliveries : ((openReplay trace thread serial s).bootstrapProcess image).deliveries =
        (openReplay trace thread serial s).deliveries := by
      unfold deliveries
      rw [hnoted]
      rfl
    obtain ⟨htold, hknows⟩ := hopened.announce hregistered hqueue hdeliveries rfl rfl hholds
      (hunknown _) fun info hinfo => absurd hinfo (hunknown info)
    have hinitial : ∀ info, ((openReplay trace thread serial s).bootstrapProcess image).Knows info ↔
        info = thread := fun info => (hknows info).trans (or_iff_right (hunknown info))
    have hknown : ∀ info ∈ (trace.snapshot trace.firstPosition).threads, info.uniqueId ∈
        ((openReplay trace thread serial s).bootstrapProcess image).gDebugIdMap.threadIndexToHandle ↔
          info.id = thread.id := by
      intro info hmem
      constructor
      · intro hin
        obtain ⟨id, hheld⟩ := htold.registered.held info.uniqueId _ (Std.ExtTreeMap.getElem?_eq_some_getElem hin)
        have heq := (hinitial ⟨info.uniqueId, id⟩).mp ⟨_, hheld⟩
        have hunique : info.uniqueId = thread.uniqueId := by
          rw [← heq]
        rw [hnamed _ _ info hmem thread hthread hunique]
      · intro hid
        rw [List.inj_on_of_nodup_map (Snapshot.nodup_id _) hmem hthread hid]
        obtain ⟨handle, hheld⟩ := (hinitial thread).mpr rfl
        exact MapSums.mem_of_getElem? hheld.1
    rw [foldl_bootstrapThread (Snapshot.nodup_uniqueId _) hknown]
    generalize (openReplay trace thread serial s).bootstrapProcess image = process at *
    have hroom₁ : process.gNextSyntheticHandle.toNat = serial.toNat + 2 := hserial
    have hentered := @entered_foldl (trace.snapshot trace.firstPosition).threads process htold (by omega)
      fun info hmem info' hinfo' hsame => by
        have hmem' : info' ∈ (trace.snapshot trace.firstPosition).threads := by
          obtain hinfo' | hinfo' := hinfo'
          · rwa [(hinitial info').mp hinfo']
          · exact hinfo'
        obtain hsame | hsame := hsame
        · exact hnamed _ _ info' hmem' info hmem hsame
        · exact List.inj_on_of_nodup_map (Snapshot.nodup_id _) hmem' hmem hsame
    have hkept := Refreshed.foldl (fun t info => refreshed_enterThread info t)
      (trace.snapshot trace.firstPosition).threads process
    generalize List.foldl _ process (trace.snapshot trace.firstPosition).threads = threads at hentered hkept ⊢
    have hcurrent : threads.current = trace.snapshot trace.firstPosition := by
      unfold current
      rw [hkept.engine, hkept.cursor, hengine, hposition]
      rfl
    have hsettled : threads.Settled := by
      intro info
      rw [hentered.knows, hinitial, hcurrent]
      exact or_iff_right_of_imp fun heq => heq ▸ hthread
    have hmodules : (threads.bootstrapModules (trace.snapshot trace.firstPosition).modules).ThreadsTold := by
      refine hentered.told.extend rfl rfl rfl fun work hmem => ?_
      obtain hmem | hmem := List.mem_append.mp hmem
      · obtain ⟨_, -, rfl⟩ := List.mem_map.mp hmem
        exact ⟨rfl, fun _ => rfl⟩
      · rw [List.mem_singleton.mp hmem]
        exact ⟨rfl, fun _ => rfl⟩
    have hnamed' : threads.gTtdEngine.ThreadsNamed := by
      rw [hkept.engine, hengine]
      exact hnamed
    have hloaded : (threads.bootstrapModules (trace.snapshot trace.firstPosition).modules).ThreadsKept :=
      .of_stays (t := threads) hmodules hsettled hnamed' (knows_congr rfl) rfl rfl
    have hroom₂ := hentered.room
    obtain ⟨hregistered', hholds'⟩ := registered_bootstrapHandles hloaded.told.registered
      (show threads.gNextSyntheticHandle.toNat + 2 ≤ 2 ^ 43 by omega)
    exact hloaded.reopened hregistered' hholds' (moduleSide_bootstrapHandles _)

end TtdSession

/-- Where creations are delivered before their threads end, the client is told of the
threads at the cursor, and the tables hold registered handles only. -/
theorem threads_followed {trace : Trace} {thread : ThreadInfo} {serial : ULONG_PTR} {s : Session}
    {t₀ t : TtdSession} (hstart : TtdSession.initReplay trace thread serial s = some t₀)
    (hthread : thread ∈ (trace.snapshot trace.firstPosition).threads) (hnamed : trace.ThreadsNamed)
    (hroom : serial.toNat + (trace.snapshot trace.firstPosition).threads.length + 4 ≤ 2 ^ 43)
    (hrun : TtdRun TtdMove.KeepsThreads TtdWork.InTime TtdSession.HasSerial t₀ t) : t.ThreadsFollowed := by
  have hkept := TtdSession.threadsKept_step.run hrun
    (TtdSession.threadsKept_initReplay hstart hthread hnamed hroom)
  exact hkept.told.followed hkept.settled

instance (work : TtdWork) (t : TtdSession) : Decidable (work.InTime t) :=
  match work with
  | .createProcess _ _ _ _ thread => inferInstanceAs (Decidable (t.gTtdCurrentThreadId = thread.id))
  | .createThread .. | .exitThread .. | .loadModule .. | .unloadModule .. | .initialBreakpoint ..
  | .boundary | .breakpoint .. | .memoryBreakpoint .. | .exception .. | .outputDebugString ..
  | .step .. | .pause .. | .exitProcess => .isTrue trivial

theorem run_deliverQueued_of {allowed : TtdMove → TtdSession → Prop}
    {delivers : TtdWork → TtdSession → Prop} {opens : TtdSession → Prop} {n : ℕ} {t : TtdSession}
    (h : ∀ m < n, ∀ work ∈ (t.deliverQueued m).queue.head?, delivers work (t.deliverQueued m)) :
    TtdRun allowed delivers opens t (t.deliverQueued n) := by
  induction n generalizing t with
  | zero => exact .refl
  | succ n ih =>
    have hfirst := h 0 (Nat.succ_pos n)
    have hrest := fun m (hm : m < n) => h (m + 1) (Nat.succ_lt_succ hm)
    unfold TtdSession.deliverQueued at hfirst hrest ⊢
    cases hqueue : t.queue with
    | nil => exact .refl
    | cons work rest =>
      simp only [hqueue] at hfirst hrest
      exact .head (.deliver hqueue (hfirst work rfl)) (ih hrest)

def workerThread : ThreadInfo := ⟨2, 0x200⟩

/-- A second thread lives from 3:0 until 5:0. -/
def spawningTrace : Trace :=
  { shortTrace with
    snapshot := fun p =>
      if ⟨3, 0⟩ ≤ p ∧ p < ⟨5, 0⟩ then
        { mainSnapshot with
          threads := [mainThread, workerThread], nodup_uniqueId := by decide, nodup_id := by decide }
      else mainSnapshot }

theorem threadsNamed_spawningTrace : spawningTrace.ThreadsNamed := by
  have hthreads : ∀ p, ∀ info ∈ (spawningTrace.snapshot p).threads,
      info = mainThread ∨ info = workerThread := by
    intro p info hmem
    unfold spawningTrace at hmem
    dsimp only at hmem
    split at hmem
    · simpa using hmem
    · exact .inl (List.mem_singleton.mp hmem)
  intro p q info hmem info' hmem' heq
  obtain rfl | rfl := hthreads p info hmem
  · obtain rfl | rfl := hthreads q info' hmem'
    · rfl
    · cases heq
  · obtain rfl | rfl := hthreads q info' hmem'
    · cases heq
    · rfl

def spawningReplay : TtdSession :=
  (TtdSession.initReplay spawningTrace mainThread 1 {}).get (by decide)

def seekTo (position : TtdPosition) : TtdMove := .setPosition position ⟨position, mainThread⟩

/-- The bootstrap is delivered, and a seek finds the second thread. -/
def spawnedReplay : TtdSession := (seekTo ⟨4, 0⟩).apply (spawningReplay.deliverQueued 2)

def reapedReplay : TtdSession := (seekTo ⟨6, 0⟩).apply (spawnedReplay.deliverQueued 1)

theorem keepsThreads_seekTo {position : TtdPosition} {t : TtdSession} (hempty : t.queue = [])
    (hapart : ∀ info ∈ t.current.threads,
      ∀ info' ∈ (t.gTtdEngine.snapshot ((seekTo position).apply t).cursor.position).threads,
        info.id = info'.id → info.uniqueId = info'.uniqueId)
    (hroom : t.gNextSyntheticHandle.toNat +
      (t.gTtdEngine.snapshot ((seekTo position).apply t).cursor.position).threads.length ≤ 2 ^ 43) :
    (seekTo position).KeepsThreads t := by
  refine ⟨rfl, ?_, hapart, hroom⟩
  rw [hempty]
  exact fun _ hmem => absurd hmem List.not_mem_nil

theorem threads_followed_spawning : (reapedReplay.deliverQueued 1).ThreadsFollowed := by
  have hstart : TtdSession.initReplay spawningTrace mainThread 1 {} = some spawningReplay :=
    (Option.some_get _).symm
  have hthread : mainThread ∈ (spawningTrace.snapshot spawningTrace.firstPosition).threads := by decide
  have hroom : (1 : ULONG_PTR).toNat +
      (spawningTrace.snapshot spawningTrace.firstPosition).threads.length + 4 ≤ 2 ^ 43 := by decide
  have hbootstrap : TtdRun TtdMove.KeepsThreads TtdWork.InTime TtdSession.HasSerial spawningReplay
      (spawningReplay.deliverQueued 2) := run_deliverQueued_of (by decide)
  have hspawned : (seekTo ⟨4, 0⟩).KeepsThreads (spawningReplay.deliverQueued 2) :=
    keepsThreads_seekTo (by decide) (by decide) (by decide)
  have hcreated : TtdRun TtdMove.KeepsThreads TtdWork.InTime TtdSession.HasSerial spawnedReplay
      (spawnedReplay.deliverQueued 1) := run_deliverQueued_of (by decide)
  have hreaped : (seekTo ⟨6, 0⟩).KeepsThreads (spawnedReplay.deliverQueued 1) :=
    keepsThreads_seekTo (by decide) (by decide) (by decide)
  have hexited : TtdRun TtdMove.KeepsThreads TtdWork.InTime TtdSession.HasSerial reapedReplay
      (reapedReplay.deliverQueued 1) := run_deliverQueued_of (by decide)
  have hrun := (hbootstrap.tail (.move hspawned)).trans ((hcreated.tail (.move hreaped)).trans hexited)
  exact threads_followed hstart hthread threadsNamed_spawningTrace hroom hrun

/-- A second seek ends the thread before its creation is delivered, which then carries the
id of the thread at the cursor. -/
theorem overtaken_creation_misnamed :
    ∃ t₀ t, TtdSession.initReplay spawningTrace mainThread 1 {} = some t₀ ∧
      TtdRun TtdMove.Lands TtdWork.InTime TtdSession.HasSerial t₀ t ∧ ¬ t.ThreadsFollowed := by
  have hbootstrap : TtdRun TtdMove.Lands TtdWork.InTime TtdSession.HasSerial spawningReplay
      (spawningReplay.deliverQueued 2) := run_deliverQueued_of (by decide)
  have hspawned : (seekTo ⟨4, 0⟩).Lands (spawningReplay.deliverQueued 2) := rfl
  have hreaped : (seekTo ⟨6, 0⟩).Lands spawnedReplay := rfl
  have hlate : TtdRun TtdMove.Lands TtdWork.InTime TtdSession.HasSerial
      ((seekTo ⟨6, 0⟩).apply spawnedReplay) (((seekTo ⟨6, 0⟩).apply spawnedReplay).deliverQueued 1) :=
    run_deliverQueued_of (by decide)
  have hrun := ((hbootstrap.tail (.move hspawned)).tail (.move hreaped)).trans hlate
  refine ⟨spawningReplay, _, (Option.some_get _).symm, hrun, fun h => ?_⟩
  have hwrong : (((seekTo ⟨6, 0⟩).apply spawnedReplay).deliverQueued 1).deliveries.any
      (fun delivery => match delivery with
        | (.createThread _ _ thread, threadId) => threadId ≠ thread.id
        | _ => false) = true := by
    decide
  obtain ⟨⟨work, threadId⟩, hmem, hne⟩ := List.any_eq_true.mp hwrong
  cases work with
  | createThread handle teb thread => exact of_decide_eq_true hne (h.named handle teb thread threadId hmem)
  | _ => cases hne

end TitanEngine

import TitanEngine.Effects.Offers
import TitanEngine.Replay.Tables

/-! The breakpoint objects that the adapter has the engine make, and the records they are reached from. -/
namespace TitanEngine
open Relation

/-- The engine hands out low ids that none of its objects has, and makes no object by itself. The
ids of the adapter's own, from 2^31 on, do not run out. -/
def objectRules : Rules :=
  { engineRules with
    target := fun s target => ∀ bp ∈ target.engineBreakpoints, bp ∈ s.target.engineBreakpoints }

namespace Holdings

/-- The object belongs to the hardware record `info`, whose register has its id. -/
structure Held (held : Holdings) (bp : ULONG) (info : BreakpointInfo) : Prop where
  record : held.gBreakpoints[bp]? = some info
  object : info.bp = some bp
  kind : info.kind = .hardware
  data : info.nativePatch = false
  register : info.hardwareRegister ∈ hardwareRegisters
  slot : held.gHardwareBreakpointIds[info.hardwareRegister]? = some bp

/-- Every object of the engine is held. -/
structure Owned (held : Holdings) : Prop where
  debugging : held.gIsDebugging = true
  native : 0x80000000 ≤ held.gNextNativeBreakpointId.toNat
  own : ∀ {id : ULONG} {info : BreakpointInfo} {bp : ULONG}, held.gBreakpoints[id]? = some info →
    info.bp = some bp → bp = id
  low : ∀ bp ∈ held.engineBreakpoints, bp.toNat < 0x80000000
  objects : ∀ bp ∈ held.engineBreakpoints, ∃ info, held.Held bp info

namespace Owned
variable {env : Env} {callback : Option Callback} {k : Client} {s s' : Session}

theorem of_fewer {held held' : Holdings} (hs : held.Owned) (hdebugging : held'.gIsDebugging = held.gIsDebugging)
    (hnext : held.gNextNativeBreakpointId.toNat ≤ held'.gNextNativeBreakpointId.toNat)
    (hrecords : held'.gBreakpoints = held.gBreakpoints)
    (hslots : held'.gHardwareBreakpointIds = held.gHardwareBreakpointIds)
    (hfewer : ∀ bp ∈ held'.engineBreakpoints, bp ∈ held.engineBreakpoints) : held'.Owned := by
  refine ⟨hdebugging.trans hs.debugging, Nat.le_trans hs.native hnext, fun hrecord hbp => ?_,
    fun bp hbp => hs.low bp (hfewer bp hbp), fun bp hbp => ?_⟩
  · rw [hrecords] at hrecord
    exact hs.own hrecord hbp
  · obtain ⟨info, h⟩ := hs.objects bp (hfewer bp hbp)
    refine ⟨info, ?_, h.object, h.kind, h.data, h.register, ?_⟩
    · rw [hrecords]
      exact h.record
    · rw [hslots]
      exact h.slot

/-- A record that holds no object goes, or whose object went before. -/
theorem erased {id : ULONG} {info : BreakpointInfo} {slots : Map DWORD ULONG} {objects : OrderedSet ULONG}
    (hs : s.holdings.Owned) (hrecord : s.bps.gBreakpoints[id]? = some info)
    (hkept : ∀ {reg : DWORD} {id' : ULONG}, id' ≠ id → s.bps.gHardwareBreakpointIds[reg]? = some id' →
      slots[reg]? = some id')
    (hfewer : ∀ bp ∈ objects, bp ∈ s.target.engineBreakpoints)
    (hgone : info.nativePatch = true ∨ info.kind = .software ∨ ∀ bp ∈ objects, info.bp ≠ some bp) :
    { s.holdings with
      gBreakpoints := s.bps.gBreakpoints.erase id, gHardwareBreakpointIds := slots
      engineBreakpoints := objects }.Owned := by
  refine ⟨hs.debugging, hs.native, fun hold => hs.own (MapSums.getElem?_of_erase hold),
    fun bp hbp => hs.low bp (hfewer bp hbp), fun bp hbp => ?_⟩
  obtain ⟨info', h⟩ := hs.objects bp (hfewer bp hbp)
  have hne : bp ≠ id := by
    rintro rfl
    have hsame : info' = info := Option.some.inj (h.record.symm.trans hrecord)
    subst hsame
    rcases hgone with hpatch | hsoftware | hout
    · rw [h.data] at hpatch
      cases hpatch
    · rw [h.kind] at hsoftware
      cases hsoftware
    · exact hout bp hbp h.object
  exact ⟨info', (MapSums.getElem?_erase_of_ne hne).trans h.record, h.object, h.kind, h.data, h.register,
    hkept hne h.slot⟩

/-- A call adds an object with its record and its register, and takes no record without its object. -/
theorem callTends (hs : s.holdings.Owned) (hroom : s.bps.gNextNativeBreakpointId.toNat + 1 < 2 ^ 32)
    (hengine : ∀ id, env.addBreakpoint = some id → id.toNat < 0x80000000 ∧ id ∉ s.target.engineBreakpoints)
    (h : CallTends env callback s s') : s'.holdings.Owned := by
  have hnext := Session.toNat_next hroom
  have hbase : 0x80000000 ≤ s.bps.gNextNativeBreakpointId.toNat := hs.native
  cases h with
  | same h | watching _ h | stepping h | pausing h =>
    rw [h]
    exact hs.of_fewer rfl (Nat.le_refl _) rfl rfl fun _ hbp => hbp
  | skipped h =>
    rw [h]
    exact hs.of_fewer rfl (hnext ▸ Nat.le_succ _) rfl rfl fun _ hbp => hbp
  | @patch info records slots hid hpatch _ hentry hothers hkept h =>
    rw [h]
    refine ⟨hs.debugging, ?_, fun hrecord hbp => ?_, hs.low, fun bp hbp => ?_⟩
    · show 0x80000000 ≤ (s.bps.gNextNativeBreakpointId + 1).toNat
      omega
    · rcases hentry hrecord with hold | rfl
      · exact hs.own hold hbp
      · rw [hpatch] at hbp
        cases hbp
    · obtain ⟨info', h⟩ := hs.objects bp hbp
      have hne : bp ≠ info.id := by
        rintro rfl
        have hlow := hs.low _ hbp
        rw [hid] at hlow
        omega
      exact ⟨info', (hothers hne).trans h.record, h.object, h.kind, h.data, h.register, hkept h.slot⟩
  | @object info answer own data register free _ h =>
    rw [h]
    obtain ⟨hlow, hnew⟩ := hengine _ answer
    have hcases : ∀ bp ∈ s.target.engineBreakpoints.insert info.id,
        bp = info.id ∨ bp ≠ info.id ∧ bp ∈ s.target.engineBreakpoints := by
      intro bp hbp
      by_cases heq : bp = info.id
      · exact .inl heq
      rcases Std.ExtTreeSet.mem_insert.mp hbp with hsame | hold
      · exact .inl (Std.LawfulEqCmp.compare_eq_iff_eq.mp hsame).symm
      · exact .inr ⟨heq, hold⟩
    refine ⟨hs.debugging, hs.native, fun hrecord hbp => ?_, fun bp hbp => ?_, fun bp hbp => ?_⟩
    · rcases MapSums.getElem?_insert_cases hrecord with ⟨rfl, rfl⟩ | ⟨-, hold⟩
      · exact Option.some.inj (hbp.symm.trans own)
      · exact hs.own hold hbp
    · rcases hcases bp hbp with rfl | ⟨-, hold⟩
      · exact hlow
      · exact hs.low bp hold
    · rcases hcases bp hbp with rfl | ⟨hne, hold⟩
      · exact ⟨info, Std.ExtTreeMap.getElem?_insert_self, own, data.1, data.2, register,
          Std.ExtTreeMap.getElem?_insert_self⟩
      · obtain ⟨info', h⟩ := hs.objects bp hold
        have hother : info'.hardwareRegister ≠ info.hardwareRegister := by
          intro heq
          rw [← heq] at free
          exact free (Std.ExtTreeMap.mem_iff_isSome_getElem?.mpr (Option.isSome_iff_exists.mpr ⟨bp, h.slot⟩))
        exact ⟨info', (MapSums.getElem?_insert_of_ne hne).trans h.record, h.object, h.kind, h.data,
          h.register, (MapSums.getElem?_insert_of_ne hother).trans h.slot⟩
  | erased hrecord hkept hfewer hgone h =>
    rw [h]
    exact hs.erased hrecord hkept hfewer hgone
  | @dangling reg id slot missing h =>
    rw [h]
    refine ⟨hs.debugging, hs.native, hs.own, hs.low, fun bp hbp => ?_⟩
    obtain ⟨info, h⟩ := hs.objects bp hbp
    have hne : info.hardwareRegister ≠ reg := by
      intro heq
      have hid : bp = id := Option.some.inj (h.slot.symm.trans (heq ▸ slot))
      rw [← hid] at missing
      exact nomatch h.record.symm.trans missing
    exact ⟨info, h.record, h.object, h.kind, h.data, h.register,
      (MapSums.getElem?_erase_of_ne hne).trans h.slot⟩
  | thinned hfewer _ h =>
    rw [h]
    exact hs.of_fewer rfl (Nat.le_refl _) rfl rfl hfewer
  | cleared _ hgone h =>
    rw [h]
    refine ⟨hs.debugging, hs.native, fun hrecord => ?_, fun bp hbp => hs.low bp (hgone bp hbp).1,
      fun bp hbp => ?_⟩
    · simp at hrecord
    · obtain ⟨hold, hout⟩ := hgone bp hbp
      obtain ⟨info, h⟩ := hs.objects bp hold
      exact absurd h.object (hout bp info h.record h.data)
  | abandoned ended =>
    have hdebugging : s.gIsDebugging = true := hs.debugging
    rw [ended] at hdebugging
    cases hdebugging

theorem callStep (hs : s.holdings.Owned) (h : CallStep objectRules s s') : s'.holdings.Owned := by
  obtain ⟨hroom, hengine⟩ := h
  exact hs.callTends hroom hengine (CallTends.run ..)

theorem client (hk : k.Follows objectRules) (inv : Invocation) (hs : s.holdings.Owned) :
    (k.call inv s).holdings.Owned := by
  have hcalls : Runs.Preserves (CallStep objectRules) fun s => s.holdings.Owned :=
    fun _ _ hstep hs => hs.callStep hstep
  exact hk.keeps hcalls inv _ (hs.of_fewer rfl (Nat.le_refl _) rfl rfl fun _ hbp => hbp)

theorem tends {known : Callback → Prop} (hk : k.Follows objectRules) (hs : s.holdings.Owned)
    (h : Tends known k s s') : s'.holdings.Owned := by
  cases h with
  | same h | lose h | regroup _ h =>
    rw [h]
    exact hs.of_fewer rfl (Nat.le_refl _) rfl rfl fun _ hbp => hbp
  | call => exact hs.client hk _
  | attach =>
    have htaken : { s with gAttachCallback := none }.holdings.Owned :=
      hs.of_fewer rfl (Nat.le_refl _) rfl rfl fun _ hbp => hbp
    exact htaken.client hk _
  | consume hrecord hown h =>
    rw [h]
    have hgone : ∀ {info : BreakpointInfo}, info.nativePatch = true ∨ info.kind = .software →
        info.nativePatch = true ∨ info.kind = .software ∨
          ∀ bp ∈ s.target.engineBreakpoints, info.bp ≠ some bp := fun h => h.imp_right .inl
    exact hs.erased hrecord (fun _ h => h) (fun _ h => h) (hgone hown)

theorem work (hk : k.Follows objectRules) (env : Env) (work : Work) (hs : s.holdings.Owned) :
    (work.run k env s).1.holdings.Owned := by
  have hkeeps : Runs.Preserves (Tends (fun _ => True) k) fun s => s.holdings.Owned :=
    fun _ _ hstep hs => hs.tends hk hstep
  exact hkeeps.run (Tending.work env s.given_anything fun _ _ => trivial) hs

theorem recogniseStop (env : Env) (hs : s.holdings.Owned) : (s.recogniseStop env).holdings.Owned := by
  unfold Session.recogniseStop
  repeat' split
  all_goals exact hs.of_fewer rfl (Nat.le_refl _) rfl rfl fun _ hbp => hbp

/-- Each step of a session keeps every object within reach. -/
theorem step (hs : s.holdings.Owned) (h : SessionStep objectRules s s') : s'.holdings.Owned := by
  cases h with
  | call hstep => exact hs.callStep hstep
  | target hfewer => exact hs.of_fewer rfl (Nat.le_refl _) rfl rfl hfewer
  | @stop env events _ =>
    have hqueued : { s with gCallbackQueue := events }.holdings.Owned :=
      hs.of_fewer rfl (Nat.le_refl _) rfl rfl fun _ hbp => hbp
    exact hqueued.recogniseStop env
  | @work k env event rest hk _ _ _ _ =>
    have hrest : (s.dequeue rest).holdings.Owned :=
      hs.of_fewer rfl (Nat.le_refl _) rfl rfl fun _ hbp => hbp
    exact hrest.work hk env event
  | @failed k env _ event rest hk _ _ _ _ =>
    have hrest : (s.dequeue rest).holdings.Owned :=
      hs.of_fewer rfl (Nat.le_refl _) rfl rfl fun _ hbp => hbp
    rw [Session.holdings_applyExecutionStatus]
    exact hrest.work hk env event
  | @resume env _ _ =>
    show (s.applyExecutionStatus env).1.holdings.Owned
    rw [Session.holdings_applyExecutionStatus]
    exact hs

end Owned

theorem Held.deleteHardwareBreakPoint {env : Env} {bp : ULONG} {info : BreakpointInfo} {s : Session}
    (h : s.holdings.Held bp info) (hlock : s.pauseLock = true) (hremoved : env.removeBreakpoint bp = true) :
    (s.deleteHardwareBreakPoint env info.hardwareRegister).2 = true ∧
      (s.deleteHardwareBreakPoint env info.hardwareRegister).1.target.engineBreakpoints =
        s.target.engineBreakpoints.erase bp := by
  have hslot : s.bps.gHardwareBreakpointIds[info.hardwareRegister]? = some bp := h.slot
  have hrecord : s.bps.gBreakpoints[bp]? = some info := h.record
  have hremove : s.removeHardware env info =
      ({ s with target.engineBreakpoints := s.target.engineBreakpoints.erase bp }, true) := by
    simp [Session.removeHardware, Session.removeBreakpoint2, h.data, h.object, hremoved]
  simp [Session.deleteHardwareBreakPoint, h.register, hlock, hslot, hrecord, hremove]

theorem Owned.removeAllBreakPoints {env : Env} {s : Session} (hs : s.holdings.Owned)
    (hremoved : (s.removeAllBreakPoints env).2 = true) (bp : ULONG) :
    bp ∉ (s.removeAllBreakPoints env).1.target.engineBreakpoints := by
  obtain ⟨hfailed, -⟩ | ⟨hover, -⟩ | ⟨objects, hgone, hcleared⟩ := CallTends.removeAllBreakPoints_outcome env s
  · rw [hfailed] at hremoved
    cases hremoved
  · have hdebugging : s.gIsDebugging = true := hs.debugging
    rw [hover] at hdebugging
    cases hdebugging
  · intro hbp
    have hobjects : (s.removeAllBreakPoints env).1.target.engineBreakpoints = objects :=
      congrArg Holdings.engineBreakpoints hcleared
    rw [hobjects] at hbp
    obtain ⟨hold, hout⟩ := hgone bp hbp
    obtain ⟨info, h⟩ := hs.objects bp hold
    exact hout bp info h.record h.data h.object

/-- The registers of the objects are distinct. -/
theorem Owned.size_le {held : Holdings} (hs : held.Owned) : held.engineBreakpoints.size ≤ 4 := by
  let register : ULONG → DWORD := fun bp =>
    (held.gBreakpoints[bp]?.map BreakpointInfo.hardwareRegister).getD 0
  have hheld : ∀ bp ∈ held.engineBreakpoints.toList, register bp ∈ hardwareRegisters ∧
      held.gHardwareBreakpointIds[register bp]? = some bp := by
    intro bp hbp
    obtain ⟨info, h⟩ := hs.objects bp (Std.ExtTreeSet.mem_toList.mp hbp)
    have hregister : register bp = info.hardwareRegister := by
      simp only [register, h.record, Option.map_some, Option.getD_some]
    rw [hregister]
    exact ⟨h.register, h.slot⟩
  have hnodup : (held.engineBreakpoints.toList.map register).Nodup := by
    refine List.Nodup.map_on (fun bp hbp bp' hbp' heq => ?_) ?_
    · have hslot := (hheld bp hbp).2
      rw [heq, (hheld bp' hbp').2] at hslot
      exact (Option.some.inj hslot).symm
    · refine Std.ExtTreeSet.distinct_toList.imp ?_
      rintro bp bp' hne rfl
      exact hne Std.ReflCmp.compare_self
  have hsubset : held.engineBreakpoints.toList.map register ⊆ hardwareRegisters := by
    intro reg hreg
    obtain ⟨bp, hbp, rfl⟩ := List.mem_map.mp hreg
    exact (hheld bp hbp).1
  have hlength := (List.subperm_of_subset hnodup hsubset).length_le
  rw [List.length_map, Std.ExtTreeSet.length_toList] at hlength
  exact hlength

end Holdings

/-- While fewer than 2^31 ids of the adapter's own are used: the engine has an object for at most the
four debug registers, and each can be got rid of: `DeleteHardwareBreakPoint` reaches each by a
register, and a `RemoveAllBreakPoints` that succeeds leaves none. -/
theorem objects_reached {s s' : Session} (hlive : s.Live) (hrecords : s.Unrecorded)
    (hobjects : s.target.engineBreakpoints = ∅) (hrun : Run objectRules s s') :
    s'.target.engineBreakpoints.size ≤ 4 ∧
      (∀ bp ∈ s'.target.engineBreakpoints, ∀ env, s'.gPaused = true → env.removeBreakpoint bp = true →
        ∃ reg ∈ hardwareRegisters, (s'.deleteHardwareBreakPoint env reg).2 = true ∧
          (s'.deleteHardwareBreakPoint env reg).1.target.engineBreakpoints =
            s'.target.engineBreakpoints.erase bp) ∧
      ∀ env, (s'.removeAllBreakPoints env).2 = true →
        ∀ bp, bp ∉ (s'.removeAllBreakPoints env).1.target.engineBreakpoints := by
  have hstart : s.holdings.Owned := by
    refine ⟨hlive.debugging, hrecords.base, fun hrecord => ?_, fun bp hbp => ?_, fun bp hbp => ?_⟩
    · rw [show s.holdings.gBreakpoints = ∅ from hrecords.breakpoints] at hrecord
      simp at hrecord
    · rw [show s.holdings.engineBreakpoints = ∅ from hobjects] at hbp
      simp at hbp
    · rw [show s.holdings.engineBreakpoints = ∅ from hobjects] at hbp
      simp at hbp
  have hkeeps : Runs.Preserves (SessionStep objectRules) fun s => s.holdings.Owned :=
    fun _ _ hstep hs => hs.step hstep
  have hs' := hkeeps.run hrun hstart
  refine ⟨hs'.size_le, fun bp hbp env hpaused hremoved => ?_, fun env hremoved => hs'.removeAllBreakPoints hremoved⟩
  obtain ⟨info, h⟩ := hs'.objects bp hbp
  have hlock : s'.pauseLock = true := by
    rw [Session.pauseLock, hpaused, show s'.gIsDebugging = true from hs'.debugging]
    rfl
  exact ⟨_, h.register, h.deleteHardwareBreakPoint hlock hremoved⟩

/-- A data breakpoint is set, and forgotten by the engine alone; its id goes to the next one. -/
def halfRemovedSession : Session :=
  (ApiCall.run { writeProcessMemory := false } .removeAllBreakPoints
    (ApiCall.run {} (.setBPX 0x401000 0 (some 1)) (withDataBreakpoint 0x402000 freshSession)).1).1

/-- Two registers lead to one record. -/
def sharedIdSession : Session := withDataBreakpoint 0x403000 halfRemovedSession

theorem run_sharedIdSession : Run objectRules freshSession sharedIdSession := by
  have hdata : ∀ (address : ULONG_PTR) {s : Session}, s.bps.gNextNativeBreakpointId.toNat + 1 < 2 ^ 32 →
      0 ∉ s.target.engineBreakpoints → SessionStep objectRules s (withDataBreakpoint address s) := by
    intro address s hroom hfree
    refine .call (.call ⟨hroom, fun id hid => ?_⟩)
    cases hid
    exact ⟨by decide, hfree⟩
  have hpatch : SessionStep objectRules (withDataBreakpoint 0x402000 freshSession)
      (ApiCall.run {} (.setBPX 0x401000 0 (some 1)) (withDataBreakpoint 0x402000 freshSession)).1 :=
    .call (.call ⟨by decide, nofun⟩)
  have hremove : SessionStep objectRules
      (ApiCall.run {} (.setBPX 0x401000 0 (some 1)) (withDataBreakpoint 0x402000 freshSession)).1
      halfRemovedSession :=
    .call (.call ⟨by decide, nofun⟩)
  exact .tail (.tail (.tail (.single (hdata _ (by decide) (by decide))) hpatch) hremove)
    (hdata _ (by decide) (by decide))

theorem objects_reached_sharedId :
    sharedIdSession.bps.gHardwareBreakpointIds[(11 : DWORD)]? = some 0 ∧
      sharedIdSession.bps.gHardwareBreakpointIds[(12 : DWORD)]? = some 0 ∧
      ∃ reg ∈ hardwareRegisters, (sharedIdSession.deleteHardwareBreakPoint {} reg).2 = true ∧
        (sharedIdSession.deleteHardwareBreakPoint {} reg).1.target.engineBreakpoints =
          sharedIdSession.target.engineBreakpoints.erase 0 :=
  ⟨by decide, by decide,
    (objects_reached (show freshSession.Live from rfl) freshSession_unrecorded rfl run_sharedIdSession).2.1 0
      (by decide) {} (by decide) rfl⟩

end TitanEngine

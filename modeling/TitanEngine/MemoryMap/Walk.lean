import TitanEngine.Lib.Tiling
import TitanEngine.MemoryMap.Occupancy

/-! The walk over the memory map of a replay, from address 0 on. -/
namespace TitanEngine
open Tiling

namespace MemoryMap
variable {b : Build} {readMemory : ULONG64 → ℕ → Option (List BYTE)} {modules : List TtdModuleInfo}
  {tebs : List ULONG64} {ranges : List AddressRange}

def rangeBounds (range : AddressRange) : ℕ × ℕ := (range.1.toNat, range.2.toNat)

def regionBounds (region : MEMORY_BASIC_INFORMATION b) : ℕ × ℕ :=
  (region.BaseAddress.toNat, region.BaseAddress.toNat + region.RegionSize.toNat)

/-- Page-aligned ranges below the maximum, no two of which overlap. -/
structure Layout (b : Build) (occupied : AddressRange → Prop) : Prop where
  proper : ∀ range, occupied range → range.1.toNat < range.2.toNat
  aligned : ∀ range, occupied range → range.1.toNat % 0x1000 = 0 ∧ range.2.toNat % 0x1000 = 0
  below : ∀ range, occupied range → range.2.toNat ≤ b.maximumAddress.toNat
  apart : ∀ range range', occupied range → occupied range' → range ≠ range' →
    Apart (rangeBounds range) (rangeBounds range')

/-- The walk stands at the border of a page, and inside no range. -/
structure Border (ranges : List AddressRange) (a : ℕ) : Prop where
  aligned : a % 0x1000 = 0
  outside : ∀ range ∈ ranges, a ≤ range.1.toNat ∨ range.2.toNat ≤ a

/-- One query of the walk, from `a` to `c`. -/
structure Stride (b : Build) (ranges : List AddressRange) (region : MEMORY_BASIC_INFORMATION b) (a c : ℕ) :
    Prop where
  bounds : regionBounds region = (a, c)
  forward : a < c
  below : c ≤ b.maximumAddress.toNat
  border : Border ranges c
  respects : Respects (ranges.map rangeBounds) (a, c)

theorem maximumAddress_lt (b : Build) : b.maximumAddress.toNat < 2 ^ b.bits := by cases b <;> decide

theorem maximumAddress_aligned (b : Build) : b.maximumAddress.toNat % 0x1000 = 0 := by cases b <;> rfl

theorem Layout.bounds_apart (h : Layout b (· ∈ ranges)) :
    ∀ r ∈ ranges.map rangeBounds, ∀ r' ∈ ranges.map rangeBounds, r ≠ r' → Apart r r' := by
  simp only [List.forall_mem_map]
  exact fun range hmem range' hmem' hne => h.apart range range' hmem hmem' fun heq => hne (congrArg _ heq)

/-- A tile that no range begins in, or reaches into. -/
theorem respects_of_outside {a c : ℕ} (houtside : ∀ range ∈ ranges, c ≤ range.1.toNat ∨ range.2.toNat ≤ a) :
    Respects (ranges.map rangeBounds) (a, c) := by
  right
  intro r hr
  obtain ⟨range, hrange, rfl⟩ := List.mem_map.1 hr
  rcases houtside range hrange with hafter | hbefore
  · exact .inr hafter
  · exact .inl hbefore

theorem stride_of_spans (hlayout : Layout b (· ∈ ranges)) {lpAddress : BitVec b.bits}
    (hborder : Border ranges lpAddress.toNat) {range : AddressRange} (hmem : range ∈ ranges)
    (hcontains : range.contains (lpAddress.setWidth 64) = true) {region : MEMORY_BASIC_INFORMATION b}
    (hspans : Spans region range) : Stride b ranges region lpAddress.toNat range.2.toNat := by
  obtain ⟨hle, hlt⟩ := contains_iff.1 hcontains
  rw [BitVec.le_def, toNat_pointer] at hle
  rw [BitVec.lt_def, toNat_pointer] at hlt
  have hbelow := hlayout.below range hmem
  have hmaximum := maximumAddress_lt b
  have hstart : range.1.toNat = lpAddress.toNat := by
    rcases hborder.outside range hmem with hafter | hbefore <;> omega
  have hdifference : (range.2 - range.1).toNat = range.2.toNat - range.1.toNat := by
    apply BitVec.toNat_sub_of_le
    rw [BitVec.le_def]
    omega
  have hbase : region.BaseAddress.toNat = lpAddress.toNat := by
    rw [hspans.base, toNat_setWidth_bits (by omega), hstart]
  have hsize : region.RegionSize.toNat = range.2.toNat - range.1.toNat := by
    rw [hspans.size, toNat_setWidth_bits (by omega), hdifference]
  constructor
  · unfold regionBounds
    rw [hbase, hsize, Prod.mk.injEq]
    exact ⟨rfl, by omega⟩
  · exact hlt
  · exact hbelow
  · refine ⟨(hlayout.aligned range hmem).2, fun other hother => ?_⟩
    by_cases hsame : range = other
    · right
      rw [hsame]
    · rcases hlayout.apart range other hmem hother hsame with hends | hends
      · exact .inl hends
      · right
        unfold rangeBounds at hends
        omega
  · left
    refine List.mem_map.2 ⟨range, hmem, ?_⟩
    unfold rangeBounds
    rw [hstart]

/-- Where no range has the address, a region that ends at or before the next range is a stride. -/
theorem stride_of_gap {lpAddress : BitVec b.bits} {region : MEMORY_BASIC_INFORMATION b} {c : ℕ}
    (hborder : Border ranges lpAddress.toNat) (hlayout : Layout b (· ∈ ranges))
    (hout : ∀ range ∈ ranges, ¬ range.contains (lpAddress.setWidth 64) = true)
    (hbounds : regionBounds region = (lpAddress.toNat, c)) (hforward : lpAddress.toNat < c)
    (hbelow : c ≤ b.maximumAddress.toNat) (haligned : c % 0x1000 = 0)
    (hnext : ∀ range ∈ ranges, lpAddress.toNat < range.1.toNat → c ≤ range.1.toNat) :
    Stride b ranges region lpAddress.toNat c := by
  have houtside : ∀ range ∈ ranges, c ≤ range.1.toNat ∨ range.2.toNat ≤ lpAddress.toNat := by
    intro range hmem
    rcases hborder.outside range hmem with hafter | hbefore
    · left
      rcases hafter.lt_or_eq with habove | hat
      · exact hnext range hmem habove
      · refine absurd (contains_iff.2 ?_) (hout range hmem)
        have hproper := hlayout.proper range hmem
        rw [BitVec.le_def, BitVec.lt_def, toNat_pointer]
        omega
    · exact .inr hbefore
  refine ⟨hbounds, hforward, hbelow, ⟨haligned, fun range hmem => ?_⟩, respects_of_outside houtside⟩
  rcases houtside range hmem with hafter | hbefore
  · exact .inl hafter
  · right
    omega

/-- From a border below the maximum, a query strides on to the next border. -/
theorem exists_stride (hlayout : Layout b (· ∈ knownRanges b readMemory modules tebs)) {lpAddress : BitVec b.bits}
    (hborder : Border (knownRanges b readMemory modules tebs) lpAddress.toNat)
    (hbelow : lpAddress.toNat < b.maximumAddress.toNat) :
    ∃ c, Stride b (knownRanges b readMemory modules tebs)
      (query b readMemory (lpAddress.setWidth 64) modules tebs) lpAddress.toNat c := by
  have hpage : (pageStart (lpAddress.setWidth 64)).toNat = lpAddress.toNat := by
    have haligned := hborder.aligned
    rw [toNat_pageStart, toNat_pointer]
    omega
  have hmaximum := maximumAddress_aligned b
  have hlarge := maximumAddress_lt b
  have haligned := hborder.aligned
  rcases query_outcome b readMemory (lpAddress.setWidth 64) modules tebs with
    ⟨range, hrange, hin, hspans⟩ | ⟨hout, hquery⟩
  · exact ⟨_, stride_of_spans hlayout hborder hrange hin hspans⟩
  rw [hquery]
  have hlater : ∀ range ∈ knownRanges b readMemory modules tebs, lpAddress.toNat < range.1.toNat →
      lpAddress.toNat + 0x1000 ≤ range.1.toNat := by
    intro range hmem hlt
    have hrange := (hlayout.aligned range hmem).1
    omega
  by_cases hread : (readMemory (lpAddress.setWidth 64) 1).isSome = true
  · rw [if_pos hread]
    refine ⟨lpAddress.toNat + 0x1000, stride_of_gap hborder hlayout hout ?_ (by omega) (by omega) (by omega) hlater⟩
    have hbase : (MEMORY_BASIC_INFORMATION.page b (pageStart (lpAddress.setWidth 64))).BaseAddress.toNat =
        (pageStart (lpAddress.setWidth 64)).toNat := toNat_setWidth_bits (by omega)
    have hsize : (MEMORY_BASIC_INFORMATION.page b (pageStart (lpAddress.setWidth 64))).RegionSize.toNat =
        0x1000 := by
      cases b <;> rfl
    unfold regionBounds
    rw [hbase, hsize, hpage]
  · rw [if_neg hread]
    have hgap : ∀ next : ULONG64, lpAddress.toNat + 0x1000 ≤ next.toNat → next.toNat < 2 ^ b.bits →
        regionBounds (.free b (pageStart (lpAddress.setWidth 64)) next) = (lpAddress.toNat, next.toNat) := by
      intro next hle hlt
      obtain ⟨hbase, hsize⟩ := toNat_free (show (pageStart (lpAddress.setWidth 64)).toNat ≤ next.toNat by omega) hlt
      unfold regionBounds
      rw [hbase, hsize, hpage, Prod.mk.injEq]
      exact ⟨rfl, by omega⟩
    rcases nextRange_outcome b (lpAddress.setWidth 64) (knownRanges b readMemory modules tebs) with
      ⟨range, hmem, habove, hnext, hleast⟩ | ⟨hnone, hnext⟩
    · rw [BitVec.lt_def, toNat_pointer] at habove
      have hproper := hlayout.proper range hmem
      have htop := hlayout.below range hmem
      have hfar := hlater range hmem habove
      rw [hnext]
      refine ⟨range.1.toNat, stride_of_gap hborder hlayout hout (hgap _ hfar (by omega)) habove (by omega)
        (hlayout.aligned range hmem).1 fun other hother hlt => ?_⟩
      have hle := hleast other hother (by rwa [BitVec.lt_def, toNat_pointer])
      rwa [BitVec.le_def] at hle
    · rw [hnext]
      refine ⟨b.maximumAddress.toNat, stride_of_gap hborder hlayout hout (hgap _ (by omega) hlarge) hbelow le_rfl
        hmaximum fun other hother hlt => ?_⟩
      refine absurd ?_ (hnone other hother)
      rwa [BitVec.lt_def, toNat_pointer]

end MemoryMap

namespace TtdSession
open MemoryMap
variable {b : Build} {env : Env} {hProcess : HANDLE} {dwLength : ℕ} {t : TtdSession}

/-- What a query checks before it looks at an address. -/
structure AnswersQueries (b : Build) (hProcess : HANDLE) (dwLength : ℕ) (t : TtdSession) : Prop where
  handle : hProcess ≠ 0
  buffer : b.sizeofInformation ≤ dwLength
  paused : t.pauseLock = true
  cursor : t.gTtdCursor ≠ none
  process : t.gDebugIdMap.processHandleToIndex.contains hProcess = true

instance : Decidable (AnswersQueries b hProcess dwLength t) :=
  decidable_of_iff (hProcess ≠ 0 ∧ b.sizeofInformation ≤ dwLength ∧ t.pauseLock = true ∧
      t.gTtdCursor.isSome = true ∧ t.gDebugIdMap.processHandleToIndex.contains hProcess = true)
    ⟨fun h => ⟨h.1, h.2.1, h.2.2.1, Option.isSome_iff_ne_none.1 h.2.2.2.1, h.2.2.2.2⟩,
      fun h => ⟨h.handle, h.buffer, h.paused, Option.isSome_iff_ne_none.2 h.cursor, h.process⟩⟩

/-- A walk over the map: each query asks where the region of the one before ends. The steps are the
addresses asked for, with the answers. -/
inductive MapWalk (b : Build) (env : Env) (hProcess : HANDLE) (dwLength : ℕ) (t : TtdSession) :
    BitVec b.bits → List (BitVec b.bits × MEMORY_BASIC_INFORMATION b) → BitVec b.bits → Prop
  | nil {lpAddress : BitVec b.bits} : MapWalk b env hProcess dwLength t lpAddress [] lpAddress
  | query {lpAddress last : BitVec b.bits} {region : MEMORY_BASIC_INFORMATION b}
      {steps : List (BitVec b.bits × MEMORY_BASIC_INFORMATION b)}
      (below : lpAddress.toNat < b.maximumAddress.toNat)
      (answer : (t.memoryQuerySafe b env hProcess lpAddress dwLength).2 = some region)
      (rest : MapWalk b env hProcess dwLength t (region.BaseAddress + region.RegionSize) steps last) :
      MapWalk b env hProcess dwLength t lpAddress ((lpAddress, region) :: steps) last

/-- The answer to a query at an address. -/
def regionAt (b : Build) (env : Env) (t : TtdSession) (lpAddress : BitVec b.bits) : MEMORY_BASIC_INFORMATION b :=
  query b env.replayRead (lpAddress.setWidth 64) t.current.modules
    (t.current.threads.map fun thread => t.ttdTebAddress thread.id)

theorem memoryQuerySafe_of_answers (h : AnswersQueries b hProcess dwLength t) (lpAddress : BitVec b.bits) :
    (t.memoryQuerySafe b env hProcess lpAddress dwLength).2 = some (t.regionAt b env lpAddress) := by
  have hguard : ¬ (hProcess = 0 ∨ dwLength < b.sizeofInformation) :=
    not_or.2 ⟨h.handle, Nat.not_lt.2 h.buffer⟩
  unfold memoryQuerySafe
  rw [if_neg hguard, if_neg (by simp [h.paused]), if_neg (by simp [h.cursor, h.process])]
  rfl

/-- The step that asks at the start of a tile. -/
def tileStep (b : Build) (env : Env) (t : TtdSession) (tile : ℕ × ℕ) :
    BitVec b.bits × MEMORY_BASIC_INFORMATION b :=
  (BitVec.ofNat b.bits tile.1, t.regionAt b env (BitVec.ofNat b.bits tile.1))

/-- Tiles that are strides of the queries are a walk. -/
theorem mapWalk_of_tiled (h : AnswersQueries b hProcess dwLength t) {a c : ℕ} {tiles : List (ℕ × ℕ)}
    (htiled : Tiled a tiles c) (hc : c ≤ b.maximumAddress.toNat)
    (hstrides : ∀ tile ∈ tiles,
      Stride b (t.knownRanges b env) (t.regionAt b env (BitVec.ofNat b.bits tile.1)) tile.1 tile.2) :
    MapWalk b env hProcess dwLength t (BitVec.ofNat b.bits a) (tiles.map (tileStep b env t))
      (BitVec.ofNat b.bits c) := by
  have hlarge := maximumAddress_lt b
  induction htiled with
  | nil => exact .nil
  | @cons a d c tiles below rest ih =>
    obtain ⟨hstride, hlater⟩ := List.forall_mem_cons.1 hstrides
    have hle := rest.le
    have hnext : (t.regionAt b env (BitVec.ofNat b.bits a)).BaseAddress +
        (t.regionAt b env (BitVec.ofNat b.bits a)).RegionSize = BitVec.ofNat b.bits d := by
      have hends := congrArg Prod.snd hstride.bounds
      unfold regionBounds at hends
      apply BitVec.eq_of_toNat_eq
      rw [BitVec.toNat_add, BitVec.toNat_ofNat]
      exact congrArg (· % 2 ^ b.bits) hends
    rw [List.map_cons]
    refine .query ?_ (memoryQuerySafe_of_answers h _) ?_
    · rw [BitVec.toNat_ofNat, Nat.mod_eq_of_lt (by omega)]
      omega
    · rw [hnext]
      exact ih hc hlater

/-- The walk from address 0 on comes to the maximum; its regions do not overlap, each starts where
it was asked for, and each module, stack and TEB page is exactly one of them. -/
theorem memory_walk_partition (h : AnswersQueries b hProcess dwLength t) (hlayout : Layout b (t.Occupied b env)) :
    ∃ steps, MapWalk b env hProcess dwLength t 0 steps (b.maximumAddress.setWidth b.bits) ∧
      (∀ step ∈ steps, step.2.BaseAddress = step.1) ∧
      ((steps.map fun step => regionBounds step.2).Pairwise Apart) ∧
      ∀ range, t.Occupied b env range → (steps.map fun step => regionBounds step.2).count (rangeBounds range) = 1 := by
  have hlarge := maximumAddress_lt b
  have hknown : Layout b (· ∈ t.knownRanges b env) := by simpa only [mem_knownRanges] using hlayout
  have hstep : ∀ a, a < b.maximumAddress.toNat → Border (t.knownRanges b env) a →
      ∃ c, a < c ∧ c ≤ b.maximumAddress.toNat ∧ Border (t.knownRanges b env) c ∧
        Stride b (t.knownRanges b env) (t.regionAt b env (BitVec.ofNat b.bits a)) a c := by
    intro a ha hborder
    have hat : (BitVec.ofNat b.bits a).toNat = a := by
      rw [BitVec.toNat_ofNat, Nat.mod_eq_of_lt (by omega)]
    have hborder' : Border (t.knownRanges b env) (BitVec.ofNat b.bits a).toNat := by rwa [hat]
    obtain ⟨c, hstride⟩ := exists_stride hknown hborder' (by rwa [hat])
    rw [hat] at hstride
    exact ⟨c, hstride.forward, hstride.below, hstride.border, hstride⟩
  have hzero : Border (t.knownRanges b env) 0 := ⟨rfl, fun _ _ => .inl (Nat.zero_le _)⟩
  obtain ⟨tiles, htiled, hstrides⟩ := exists_tiled hstep hzero (Nat.zero_le _)
  have hbounds : (tiles.map (tileStep b env t)).map (fun step => regionBounds step.2) = tiles := by
    rw [List.map_map]
    refine (List.map_congr_left fun tile htile => ?_).trans (List.map_id tiles)
    exact (hstrides tile htile).bounds
  refine ⟨tiles.map (tileStep b env t), ?_, ?_, ?_, ?_⟩
  · have hlast : b.maximumAddress.setWidth b.bits = BitVec.ofNat b.bits b.maximumAddress.toNat := by
      apply BitVec.eq_of_toNat_eq
      rw [BitVec.toNat_setWidth, BitVec.toNat_ofNat]
    rw [hlast]
    exact mapWalk_of_tiled h htiled le_rfl hstrides
  · intro step hmem
    obtain ⟨tile, htile, rfl⟩ := List.mem_map.1 hmem
    have hbase := congrArg Prod.fst (hstrides tile htile).bounds
    have hends := htiled.bounds htile
    apply BitVec.eq_of_toNat_eq
    unfold tileStep
    rw [BitVec.toNat_ofNat, Nat.mod_eq_of_lt (by omega)]
    exact hbase
  · rw [hbounds]
    exact htiled.pairwise
  · intro range hrange
    rw [hbounds]
    exact htiled.count_eq_one (fun tile htile => (hstrides tile htile).respects) hknown.bounds_apart
      (List.mem_map_of_mem (mem_knownRanges.2 hrange)) (Nat.zero_le _) (hlayout.proper range hrange)
      (hlayout.below range hrange)

/-- The engine reads the `NT_TIB` of the only thread, with a stack from 0x10000 to 0x20000. -/
def tibAnswers : Env where
  replayRead lpBaseAddress nSize :=
    if lpBaseAddress = 0x7000 ∧ nSize = 24 then
      some [0, 0, 0, 0, 0, 0, 0, 0, 0, 0, 2, 0, 0, 0, 0, 0, 0, 0, 1, 0, 0, 0, 0, 0]
    else none

/-- One module, one stack and one TEB page make a layout. -/
theorem memory_walk_partition_mapped :
    ∃ steps, MapWalk .x64 tibAnswers 0x11 48 mappedReplay 0 steps
        (Build.x64.maximumAddress.setWidth Build.x64.bits) ∧
      (∀ step ∈ steps, step.2.BaseAddress = step.1) ∧
      ((steps.map fun step => regionBounds step.2).Pairwise Apart) ∧
      (steps.map fun step => regionBounds step.2).count (0x400000, 0x401000) = 1 ∧
      (steps.map fun step => regionBounds step.2).count (0x10000, 0x20000) = 1 ∧
      (steps.map fun step => regionBounds step.2).count (0x7000, 0x8000) = 1 := by
  have hranges : mappedReplay.knownRanges .x64 tibAnswers =
      [(0x400000, 0x401000), (0x10000, 0x20000), (0x7000, 0x8000)] := by decide
  have hoccupied : mappedReplay.Occupied .x64 tibAnswers =
      (· ∈ [(0x400000, 0x401000), (0x10000, 0x20000), (0x7000, 0x8000)]) := by
    funext range
    rw [← hranges]
    exact propext mem_knownRanges.symm
  have hanswers : AnswersQueries .x64 0x11 48 mappedReplay := by decide
  have hlayout : Layout .x64 (mappedReplay.Occupied .x64 tibAnswers) := by
    rw [hoccupied]
    constructor
    · simp
    · simp
    · simp [Build.maximumAddress]
    · intro range range' h h' hne
      simp only [List.mem_cons, List.not_mem_nil, or_false] at h h'
      rcases h with rfl | rfl | rfl <;> rcases h' with rfl | rfl | rfl
      all_goals first
        | exact absurd rfl hne
        | simp [Apart, rangeBounds]
  obtain ⟨steps, hwalk, hbase, hapart, hcount⟩ := memory_walk_partition hanswers hlayout
  rw [hoccupied] at hcount
  exact ⟨steps, hwalk, hbase, hapart, hcount (0x400000, 0x401000) (by simp), hcount (0x10000, 0x20000) (by simp),
    hcount (0x7000, 0x8000) (by simp)⟩

end TtdSession

end TitanEngine

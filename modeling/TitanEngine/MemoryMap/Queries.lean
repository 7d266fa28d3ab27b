import TitanEngine.Lib.Pages
import TitanEngine.Model.MemoryMap
import TitanEngine.Replay.Hits

/-! Which region a query of the memory map answers with, and when its bounds are sound. -/
namespace TitanEngine

namespace MemoryMap

instance : IsTrans AddressRange rangeLe where
  trans r r' r'' h h' := by
    unfold rangeLe at h h' ⊢
    grind

instance : Std.Total rangeLe where
  total r r' := by
    unfold rangeLe
    grind

variable {b : Build} {readMemory : ULONG64 → ℕ → Option (List BYTE)} {address : ULONG64}
  {modules : List TtdModuleInfo} {tebs : List ULONG64} {range : AddressRange} {ranges : List AddressRange}

/-- The ranges of the modules that take up memory. -/
def moduleRanges (modules : List TtdModuleInfo) : List AddressRange :=
  (modules.filter fun module => module.size ≠ 0).map fun module => (module.base, module.base + module.size)

/-- The stacks and TEB pages of the threads. -/
def threadRanges (b : Build) (readMemory : ULONG64 → ℕ → Option (List BYTE)) (tebs : List ULONG64) :
    List AddressRange :=
  tebs.flatMap fun teb => (stackRange b readMemory teb).toList ++ (tebRange teb).toList

def knownRanges (b : Build) (readMemory : ULONG64 → ℕ → Option (List BYTE)) (modules : List TtdModuleInfo)
    (tebs : List ULONG64) : List AddressRange :=
  moduleRanges modules ++ threadRanges b readMemory tebs

theorem contains_iff : range.contains address = true ↔ range.1 ≤ address ∧ address < range.2 := by
  unfold AddressRange.contains
  rw [decide_eq_true_iff]

/-- The region has the bounds of the range. -/
structure Spans (region : MEMORY_BASIC_INFORMATION b) (range : AddressRange) : Prop where
  base : region.BaseAddress = range.1.setWidth b.bits
  size : region.RegionSize = (range.2 - range.1).setWidth b.bits

theorem spans_image (b : Build) (range : AddressRange) : Spans (.image b range) range := ⟨rfl, rfl⟩

theorem spans_stack (b : Build) (range : AddressRange) : Spans (.stack b range) range := ⟨rfl, rfl⟩

theorem spans_page (b : Build) (start : ULONG64) : Spans (.page b start) (start, start + 0x1000) := by
  constructor
  · rfl
  · show (0x1000 : BitVec b.bits) = (start + 0x1000 - start).setWidth b.bits
    rw [add_sub_cancel_left]
    cases b <;> rfl

theorem moduleRanges_cons (module : TtdModuleInfo) (modules : List TtdModuleInfo) :
    moduleRanges (module :: modules) =
      if module.size = 0 then moduleRanges modules
      else (module.base, module.base + module.size) :: moduleRanges modules := by
  unfold moduleRanges
  rw [List.filter_cons]
  by_cases hsize : module.size = 0
  · rw [if_neg (by simp [hsize]), if_pos hsize]
  · rw [if_pos (by simpa using hsize), if_neg hsize, List.map_cons]

/-- The loop over the modules finds the range with the address, or notes down all ranges. -/
theorem queryModules_outcome (modules : List TtdModuleInfo) (ranges : List AddressRange) :
    (∃ range ∈ moduleRanges modules, range.contains address = true ∧
        queryModules b address modules ranges = .inl (.image b range)) ∨
      (∀ range ∈ moduleRanges modules, ¬ range.contains address = true) ∧
        queryModules b address modules ranges = .inr (ranges ++ moduleRanges modules) := by
  induction modules generalizing ranges with
  | nil =>
    right
    simp [moduleRanges, queryModules]
  | cons module modules ih =>
    rw [moduleRanges_cons]
    unfold queryModules
    by_cases hsize : module.size = 0
    · rw [if_pos hsize, if_pos hsize]
      exact ih ranges
    · rw [if_neg hsize, if_neg hsize]
      dsimp only
      by_cases hcontains : AddressRange.contains (module.base, module.base + module.size) address = true
      · rw [if_pos hcontains]
        exact .inl ⟨_, List.mem_cons_self, hcontains, rfl⟩
      · rw [if_neg hcontains]
        rcases ih (ranges ++ [(module.base, module.base + module.size)]) with
          ⟨range, hrange, hin, hfound⟩ | ⟨hout, hall⟩
        · exact .inl ⟨range, List.mem_cons_of_mem _ hrange, hin, hfound⟩
        · refine .inr ⟨List.forall_mem_cons.2 ⟨hcontains, hout⟩, ?_⟩
          rw [hall, List.append_assoc, List.singleton_append]

theorem mem_filter_contains {own : Option AddressRange} :
    (own.filter fun range => range.contains address) = some range ↔
      own = some range ∧ range.contains address = true := by
  cases own with
  | none => simp
  | some other =>
    rw [Option.filter_eq_some_iff]

theorem filter_contains_eq_none {own : Option AddressRange} :
    (own.filter fun range => range.contains address) = none ↔
      ∀ range ∈ own.toList, ¬ range.contains address = true := by
  cases own with
  | none => simp
  | some other => simp [Option.filter_eq_none_iff]

/-- The loop over the threads finds a stack or a TEB page, or notes down all of them. -/
theorem queryThreads_outcome (tebs : List ULONG64) (ranges : List AddressRange) :
    (∃ range ∈ threadRanges b readMemory tebs, range.contains address = true ∧ ∃ region : MEMORY_BASIC_INFORMATION b,
        Spans region range ∧ queryThreads b readMemory address tebs ranges = .inl region) ∨
      (∀ range ∈ threadRanges b readMemory tebs, ¬ range.contains address = true) ∧
        queryThreads b readMemory address tebs ranges = .inr (ranges ++ threadRanges b readMemory tebs) := by
  induction tebs generalizing ranges with
  | nil =>
    right
    simp [threadRanges, queryThreads]
  | cons teb tebs ih =>
    have hcons : threadRanges b readMemory (teb :: tebs) = (stackRange b readMemory teb).toList ++
        ((tebRange teb).toList ++ threadRanges b readMemory tebs) := by
      unfold threadRanges
      rw [List.flatMap_cons, List.append_assoc]
    rw [hcons]
    unfold queryThreads
    cases hstack : (stackRange b readMemory teb).filter fun range => range.contains address with
    | some range =>
      obtain ⟨hown, hin⟩ := mem_filter_contains.1 hstack
      refine .inl ⟨range, ?_, hin, .stack b range, spans_stack b range, ?_⟩
      · rw [hown]
        exact List.mem_append_left _ (List.mem_singleton_self _)
      · dsimp only
        rw [hstack]
    | none =>
      have hnostack := filter_contains_eq_none.1 hstack
      cases hteb : (tebRange teb).filter fun range => range.contains address with
      | some range =>
        obtain ⟨hown, hin⟩ := mem_filter_contains.1 hteb
        have hpage : range = (pageStart teb, pageStart teb + 0x1000) := by
          unfold tebRange at hown
          split at hown
          · cases hown
          · exact (Option.some.inj hown).symm
        refine .inl ⟨range, ?_, hin, .page b range.1, ?_, ?_⟩
        · rw [hown]
          exact List.mem_append_right _ (List.mem_append_left _ (List.mem_singleton_self _))
        · rw [hpage]
          exact spans_page b _
        · dsimp only
          rw [hstack]
          dsimp only
          rw [hteb]
      | none =>
        have hnoteb := filter_contains_eq_none.1 hteb
        dsimp only
        rw [hstack]
        dsimp only
        rw [hteb]
        dsimp only
        rcases ih (ranges ++ (stackRange b readMemory teb).toList ++ (tebRange teb).toList) with
          ⟨range, hrange, hin, hfound⟩ | ⟨hout, hall⟩
        · exact .inl ⟨range, List.mem_append_right _ (List.mem_append_right _ hrange), hin, hfound⟩
        · refine .inr ⟨?_, ?_⟩
          · intro range hrange
            rcases List.mem_append.1 hrange with hrange | hrange
            · exact hnostack range hrange
            · rcases List.mem_append.1 hrange with hrange | hrange
              · exact hnoteb range hrange
              · exact hout range hrange
          · rw [hall]
            simp only [List.append_assoc]

/-- The gap ends at the least start above the address, if there is one. -/
theorem nextRange_outcome (b : Build) (address : ULONG64) (ranges : List AddressRange) :
    (∃ range ∈ ranges, address < range.1 ∧ nextRange b address ranges = range.1 ∧
        ∀ other ∈ ranges, address < other.1 → range.1 ≤ other.1) ∨
      (∀ range ∈ ranges, ¬ address < range.1) ∧ nextRange b address ranges = b.maximumAddress := by
  unfold nextRange
  cases hfind : (ranges.insertionSort rangeLe).find? fun range => decide (address < range.1) with
  | none =>
    right
    rw [List.find?_eq_none] at hfind
    refine ⟨fun range hrange hlt => ?_, rfl⟩
    exact hfind range ((List.mem_insertionSort rangeLe).2 hrange) (decide_eq_true hlt)
  | some range =>
    left
    obtain ⟨hlt, before, after, hsorted, hbefore⟩ := List.find?_eq_some_iff_append.1 hfind
    have hlt : address < range.1 := of_decide_eq_true hlt
    have hmem : range ∈ ranges := (List.mem_insertionSort rangeLe).1 (List.mem_of_find?_eq_some hfind)
    refine ⟨range, hmem, hlt, rfl, fun other hother hlt' => ?_⟩
    have hother' : other ∈ before ++ range :: after := by
      rw [← hsorted]
      exact (List.mem_insertionSort rangeLe).2 hother
    rcases List.mem_append.1 hother' with hin | hin
    · have hnot := hbefore other hin
      simp [hlt'] at hnot
    · rcases List.mem_cons.1 hin with rfl | hin
      · exact BitVec.le_refl _
      · have hpairwise := List.pairwise_insertionSort rangeLe ranges
        rw [hsorted] at hpairwise
        have hle := (List.pairwise_cons.1 (List.pairwise_append.1 hpairwise).2.1).1 other hin
        rcases hle with hless | ⟨heq, -⟩
        · exact BitVec.le_of_lt hless
        · rw [heq]
          exact BitVec.le_refl _

/-- The region of the answer: a known range with the address, else a page that can be read, else
the gap up to the next known range. -/
theorem query_outcome (b : Build) (readMemory : ULONG64 → ℕ → Option (List BYTE)) (address : ULONG64)
    (modules : List TtdModuleInfo) (tebs : List ULONG64) :
    (∃ range ∈ knownRanges b readMemory modules tebs, range.contains address = true ∧
        Spans (query b readMemory address modules tebs) range) ∨
      (∀ range ∈ knownRanges b readMemory modules tebs, ¬ range.contains address = true) ∧
        query b readMemory address modules tebs =
          if (readMemory address 1).isSome then .page b (pageStart address)
          else .free b (pageStart address)
            (nextRange b address (knownRanges b readMemory modules tebs)) := by
  unfold query knownRanges
  rcases queryModules_outcome modules [] with ⟨range, hrange, hin, hfound⟩ | ⟨hout, hall⟩
  · refine .inl ⟨range, List.mem_append_left _ hrange, hin, ?_⟩
    rw [hfound]
    exact spans_image b range
  · rw [hall]
    dsimp only
    rcases queryThreads_outcome tebs ([] ++ moduleRanges modules) with
      ⟨range, hrange, hin, region, hspans, hfound⟩ | ⟨hout', hall'⟩
    · refine .inl ⟨range, List.mem_append_right _ hrange, hin, ?_⟩
      rw [hfound]
      exact hspans
    · refine .inr ⟨fun range hrange => ?_, ?_⟩
      · rcases List.mem_append.1 hrange with hrange | hrange
        · exact hout range hrange
        · exact hout' range hrange
      · rw [hall', List.nil_append]

theorem toNat_pageStart (address : ULONG64) :
    (pageStart address).toNat = address.toNat / 0x1000 * 0x1000 := by
  have hfloor := Pages.toNat_floor (show 12 < 64 by decide) address
  rw [show BitVec.twoPow 64 12 = 0x1000 from rfl] at hfloor
  exact hfloor

theorem bits_le (b : Build) : b.bits ≤ 64 := by cases b <;> decide

/-- The bounds enclose the address, with the sum taken without wrapping around. -/
structure Sound (lpAddress : BitVec b.bits) (region : MEMORY_BASIC_INFORMATION b) : Prop where
  start : region.BaseAddress.toNat ≤ lpAddress.toNat
  stop : lpAddress.toNat < region.BaseAddress.toNat + region.RegionSize.toNat
  space : region.BaseAddress.toNat + region.RegionSize.toNat ≤ 2 ^ b.bits

/-- The ranges are ranges of pointers. -/
def InSpace (b : Build) (ranges : List AddressRange) : Prop :=
  ∀ range ∈ ranges, range.1.toNat < 2 ^ b.bits ∧ range.2.toNat ≤ 2 ^ b.bits ∧
    (range.2 - range.1).toNat < 2 ^ b.bits

theorem inSpace_x64 (ranges : List AddressRange) : InSpace .x64 ranges :=
  fun range _ => ⟨range.1.isLt, Nat.le_of_lt range.2.isLt, (range.2 - range.1).isLt⟩

theorem toNat_pointer (lpAddress : BitVec b.bits) : (lpAddress.setWidth 64).toNat = lpAddress.toNat := by
  rw [BitVec.toNat_setWidth]
  exact Nat.mod_eq_of_lt (Nat.lt_of_lt_of_le lpAddress.isLt (Nat.pow_le_pow_right (by decide) (bits_le b)))

theorem toNat_setWidth_bits {x : ULONG64} (h : x.toNat < 2 ^ b.bits) : (x.setWidth b.bits).toNat = x.toNat := by
  rw [BitVec.toNat_setWidth]
  exact Nat.mod_eq_of_lt h

/-- A region with the bounds of a range that has the address. -/
theorem sound_of_spans {lpAddress : BitVec b.bits} {region : MEMORY_BASIC_INFORMATION b}
    (hspans : Spans region range) (hcontains : range.contains (lpAddress.setWidth 64) = true)
    (hstart : range.1.toNat < 2 ^ b.bits) (hstop : range.2.toNat ≤ 2 ^ b.bits)
    (hsize : (range.2 - range.1).toNat < 2 ^ b.bits) : Sound lpAddress region := by
  obtain ⟨hle, hlt⟩ := contains_iff.1 hcontains
  rw [BitVec.le_def, toNat_pointer] at hle
  rw [BitVec.lt_def, toNat_pointer] at hlt
  have hbase : region.BaseAddress.toNat = range.1.toNat := by rw [hspans.base, toNat_setWidth_bits hstart]
  have hregion : region.RegionSize.toNat = range.2.toNat - range.1.toNat := by
    rw [hspans.size, toNat_setWidth_bits hsize, BitVec.toNat_sub_of_le]
    rw [BitVec.le_def]
    omega
  constructor <;> omega

theorem page_le (lpAddress : BitVec b.bits) : (pageStart (lpAddress.setWidth 64)).toNat ≤ lpAddress.toNat ∧
    lpAddress.toNat < (pageStart (lpAddress.setWidth 64)).toNat + 0x1000 ∧
      (pageStart (lpAddress.setWidth 64)).toNat + 0x1000 ≤ 2 ^ b.bits := by
  have hlt := lpAddress.isLt
  rw [toNat_pageStart, toNat_pointer]
  cases b <;> simp only [Build.bits] at hlt ⊢ <;> omega

theorem sound_page (lpAddress : BitVec b.bits) :
    Sound lpAddress (.page b (pageStart (lpAddress.setWidth 64))) := by
  obtain ⟨hle, hlt, hspace⟩ := page_le lpAddress
  have hbase : (MEMORY_BASIC_INFORMATION.page b (pageStart (lpAddress.setWidth 64))).BaseAddress.toNat =
      (pageStart (lpAddress.setWidth 64)).toNat := toNat_setWidth_bits (by omega)
  have hsize : (MEMORY_BASIC_INFORMATION.page b (pageStart (lpAddress.setWidth 64))).RegionSize.toNat = 0x1000 := by
    cases b <;> rfl
  constructor <;> omega

/-- The bounds of a gap whose end is not below its page. -/
theorem toNat_free {page next : ULONG64} (hin : page.toNat ≤ next.toNat) (hnext : next.toNat < 2 ^ b.bits) :
    (MEMORY_BASIC_INFORMATION.free b page next).BaseAddress.toNat = page.toNat ∧
      (MEMORY_BASIC_INFORMATION.free b page next).RegionSize.toNat = max 0x1000 (next.toNat - page.toNat) := by
  have hdifference : (next - page).toNat = next.toNat - page.toNat :=
    BitVec.toNat_sub_of_le (BitVec.le_def.2 hin)
  have hpage : (0x1000 : ULONG64).toNat = 0x1000 := rfl
  refine ⟨toNat_setWidth_bits (by omega), ?_⟩
  show ((if next - page ≤ 0x1000 then (0x1000 : ULONG64) else next - page).setWidth b.bits).toNat = _
  by_cases hsmall : next - page ≤ 0x1000
  · rw [if_pos hsmall]
    rw [BitVec.le_def, hdifference] at hsmall
    have hsize : ((0x1000 : ULONG64).setWidth b.bits).toNat = 0x1000 := by cases b <;> rfl
    omega
  · rw [if_neg hsmall, toNat_setWidth_bits (by omega)]
    rw [BitVec.le_def, hdifference] at hsmall
    omega

/-- A gap is sound exactly where its end is not below the page. -/
theorem sound_free_iff (lpAddress : BitVec b.bits) {next : ULONG64} (hpos : 0 < next.toNat)
    (hnext : next.toNat < 2 ^ b.bits) :
    Sound lpAddress (.free b (pageStart (lpAddress.setWidth 64)) next) ↔
      (pageStart (lpAddress.setWidth 64)).toNat ≤ next.toNat := by
  obtain ⟨hle, hlt, hspace⟩ := page_le lpAddress
  generalize pageStart (lpAddress.setWidth 64) = page at *
  by_cases hin : page.toNat ≤ next.toNat
  · obtain ⟨hbase, hsize⟩ := toNat_free hin hnext
    refine iff_of_true ?_ hin
    constructor <;> omega
  · refine iff_of_false (fun hsound => ?_) hin
    -- The difference has wrapped around, so that the sum is beyond the space.
    have hbase : (MEMORY_BASIC_INFORMATION.free b page next).BaseAddress.toNat = page.toNat :=
      toNat_setWidth_bits (by omega)
    have hregion : (MEMORY_BASIC_INFORMATION.free b page next).RegionSize.toNat =
        (if next - page ≤ 0x1000 then (0x1000 : ULONG64) else next - page).toNat % 2 ^ b.bits :=
      BitVec.toNat_setWidth ..
    have hdifference : (next - page).toNat = 2 ^ 64 - (page.toNat - next.toNat) := by
      rw [BitVec.toNat_sub]
      have hpage := page.isLt
      omega
    have hsmall : ¬ next - page ≤ 0x1000 := by
      rw [BitVec.le_def, hdifference]
      have hsize : (0x1000 : ULONG64).toNat = 0x1000 := rfl
      have hbits : 2 ^ b.bits ≤ 2 ^ 64 := Nat.pow_le_pow_right (by decide) (bits_le b)
      omega
    rw [if_neg hsmall, hdifference] at hregion
    have hsum := hsound.space
    rw [hbase, hregion] at hsum
    cases b <;> simp only [Build.bits] at hsum hnext hspace <;> omega

theorem maximumAddress_page (b : Build) :
    b.maximumAddress.toNat / 0x1000 * 0x1000 = b.maximumAddress.toNat := by
  cases b <;> rfl

/-- What the gap at the address ends at. -/
theorem page_le_next_iff (lpAddress : BitVec b.bits) (ranges : List AddressRange) :
    (pageStart (lpAddress.setWidth 64)).toNat ≤ (nextRange b (lpAddress.setWidth 64) ranges).toNat ↔
      lpAddress.toNat < b.maximumAddress.toNat + 0x1000 ∨
        ∃ range ∈ ranges, lpAddress.setWidth 64 < range.1 := by
  obtain ⟨hle, hlt, -⟩ := page_le lpAddress
  rcases nextRange_outcome b (lpAddress.setWidth 64) ranges with ⟨range, hrange, habove, hnext, -⟩ | ⟨hnone, hnext⟩
  · rw [hnext]
    refine iff_of_true ?_ (.inr ⟨range, hrange, habove⟩)
    rw [BitVec.lt_def, toNat_pointer] at habove
    omega
  · have hmaximum := maximumAddress_page b
    rw [hnext, toNat_pageStart, toNat_pointer]
    constructor
    · intro hpage
      left
      omega
    · rintro (hbelow | ⟨range, hrange, habove⟩)
      · omega
      · exact absurd habove (hnone range hrange)

theorem nextRange_bounds (lpAddress : BitVec b.bits) (hspace : InSpace b ranges) :
    0 < (nextRange b (lpAddress.setWidth 64) ranges).toNat ∧
      (nextRange b (lpAddress.setWidth 64) ranges).toNat < 2 ^ b.bits := by
  rcases nextRange_outcome b (lpAddress.setWidth 64) ranges with ⟨range, hrange, habove, hnext, -⟩ | ⟨-, hnext⟩
  · rw [hnext]
    rw [BitVec.lt_def] at habove
    exact ⟨by omega, (hspace range hrange).1⟩
  · rw [hnext]
    cases b <;> decide

/-- The answer is sound exactly where the address is not beyond everything that is known. -/
theorem sound_query_iff (lpAddress : BitVec b.bits)
    (hspace : InSpace b (knownRanges b readMemory modules tebs)) :
    Sound lpAddress (query b readMemory (lpAddress.setWidth 64) modules tebs) ↔
      lpAddress.toNat < b.maximumAddress.toNat + 0x1000 ∨
        (readMemory (lpAddress.setWidth 64) 1).isSome = true ∨
          ∃ range ∈ knownRanges b readMemory modules tebs,
            range.contains (lpAddress.setWidth 64) = true ∨ lpAddress.setWidth 64 < range.1 := by
  rcases query_outcome b readMemory (lpAddress.setWidth 64) modules tebs with
    ⟨range, hrange, hin, hspans⟩ | ⟨hout, hquery⟩
  · have hrangeSpace := hspace range hrange
    exact iff_of_true (sound_of_spans hspans hin hrangeSpace.1 hrangeSpace.2.1 hrangeSpace.2.2)
      (.inr (.inr ⟨range, hrange, .inl hin⟩))
  · rw [hquery]
    by_cases hread : (readMemory (lpAddress.setWidth 64) 1).isSome = true
    · rw [if_pos hread]
      exact iff_of_true (sound_page lpAddress) (.inr (.inl hread))
    · rw [if_neg hread]
      obtain ⟨hpos, hlt⟩ := nextRange_bounds lpAddress hspace
      rw [sound_free_iff lpAddress hpos hlt, page_le_next_iff]
      constructor
      · rintro (hbelow | ⟨range, hrange, habove⟩)
        · exact .inl hbelow
        · exact .inr (.inr ⟨range, hrange, .inr habove⟩)
      · rintro (hbelow | hread' | ⟨range, hrange, hin | habove⟩)
        · exact .inl hbelow
        · exact absurd hread' hread
        · exact absurd hin (hout range hrange)
        · exact .inr ⟨range, hrange, habove⟩

end MemoryMap

namespace TtdSession
open MemoryMap
variable {b : Build} {env : Env} {hProcess : HANDLE} {lpAddress : BitVec b.bits} {dwLength : ℕ} {t : TtdSession}

/-- The modules, stacks and TEB pages at the cursor. -/
def knownRanges (b : Build) (env : Env) (t : TtdSession) : List AddressRange :=
  MemoryMap.knownRanges b env.replayRead t.current.modules
    (t.current.threads.map fun thread => t.ttdTebAddress thread.id)

theorem memoryQuerySafe_eq_some {region : MEMORY_BASIC_INFORMATION b}
    (hanswer : (t.memoryQuerySafe b env hProcess lpAddress dwLength).2 = some region) :
    region = query b env.replayRead (lpAddress.setWidth 64) t.current.modules
      (t.current.threads.map fun thread => t.ttdTebAddress thread.id) := by
  unfold memoryQuerySafe at hanswer
  split at hanswer
  · cases hanswer
  · split at hanswer
    · cases hanswer
    · split at hanswer
      · cases hanswer
      · exact (Option.some.inj hanswer).symm

/-- The bounds that `MemoryQuerySafe` answers with enclose the address without wrapping around
exactly where the address is not beyond the maximum and everything that is known. -/
theorem memory_query_sound_iff {region : MEMORY_BASIC_INFORMATION b} (hspace : InSpace b (t.knownRanges b env))
    (hanswer : (t.memoryQuerySafe b env hProcess lpAddress dwLength).2 = some region) :
    Sound lpAddress region ↔ lpAddress.toNat < b.maximumAddress.toNat + 0x1000 ∨
      (env.replayRead (lpAddress.setWidth 64) 1).isSome = true ∨
        ∃ range ∈ t.knownRanges b env, range.contains (lpAddress.setWidth 64) = true ∨
          lpAddress.setWidth 64 < range.1 := by
  rw [memoryQuerySafe_eq_some hanswer]
  exact sound_query_iff lpAddress hspace

/-- The process has a handle that the client can ask with. -/
def mappedReplay : TtdSession :=
  { shortReplay with gDebugIdMap.processHandleToIndex := (∅ : Map HANDLE ULONG).insert 0x11 0 }

theorem memory_query_sound_module :
    Sound (0x400800 : BitVec Build.x64.bits) (.image .x64 (0x400000, 0x401000)) := by
  have hanswer : (mappedReplay.memoryQuerySafe .x64 {} 0x11 (0x400800 : BitVec Build.x64.bits) 48).2 =
      some (.image .x64 (0x400000, 0x401000)) := by decide
  exact (memory_query_sound_iff (inSpace_x64 _) hanswer).2 (.inl (by decide))

/-- Beyond the maximum the size of the gap is the difference taken the wrong way round. -/
theorem memory_query_wraps :
    ¬ ∀ (b : Build) (env : Env) (hProcess : HANDLE) (lpAddress : BitVec b.bits) (dwLength : ℕ) (t : TtdSession)
      (region : MEMORY_BASIC_INFORMATION b), InSpace b (t.knownRanges b env) →
      (t.memoryQuerySafe b env hProcess lpAddress dwLength).2 = some region → Sound lpAddress region := by
  intro hclaim
  have hanswer : (mappedReplay.memoryQuerySafe .x64 {} 0x11 (0x0000800000001000 : BitVec Build.x64.bits) 48).2 =
      some (.free .x64 0x0000800000001000 0x0000800000000000) := by decide
  have hspace := (hclaim .x64 {} 0x11 0x0000800000001000 48 mappedReplay _ (inSpace_x64 _) hanswer).space
  exact absurd hspace (by decide)

end TtdSession

end TitanEngine

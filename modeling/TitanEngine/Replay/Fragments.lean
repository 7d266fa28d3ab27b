import TitanEngine.Model.ReplayMemory

/-! Reading in pieces: whatever the lengths of the pieces, `ReadMemoryPartial` stores the
longest run that is available and returns its length. -/
namespace TitanEngine
namespace TTDReplay

open FlatMemory PartialMemory

variable {b : Build} {σ : Type} {cursor : ICursorView b σ} {memory : PartialMemory.Memory 64 BYTE}
  {address : ULONG64} {buffer size : BitVec b.bits} {host : HostMemory b} {reading : Reading b σ}

/-- Where the next byte goes, and where it comes from. -/
def Reading.target (buffer : BitVec b.bits) (reading : Reading b σ) : BitVec b.bits :=
  buffer + BitVec.ofNat b.bits reading.total.toNat

def Reading.source (address : ULONG64) (reading : Reading b σ) : ULONG64 :=
  address + BitVec.ofNat 64 reading.total.toNat

/-- The two memories differ in `n` bytes from `start` on at most. -/
def Agrees (host host' : HostMemory b) (start : BitVec b.bits) (n : ℕ) : Prop :=
  ∀ x, ¬ InRange start n x → host' x = host x

/-- What a round of the loop comes to. -/
inductive Rounded (cursor : ICursorView b σ) (memory : PartialMemory.Memory 64 BYTE) (address : ULONG64)
    (buffer size : BitVec b.bits) (reading : Reading b σ) : Reading b σ ⊕ Reading b σ → Prop
  | full (done : size ≤ reading.total) : Rounded cursor memory address buffer size reading (.inr reading)
  | missing {reading'} (room : reading.total < size) (total : reading'.total = reading.total)
      (absent : memory (reading.source address) = none)
      (frame : Agrees reading.host reading'.host (reading.target buffer)
        (size.toNat - reading.total.toNat))
      (exact : cursor.Exact → reading'.host = reading.host) :
      Rounded cursor memory address buffer size reading (.inr reading')
  | stored {reading'} {n : ℕ} (room : reading.total < size) (progress : 0 < n)
      (within : reading.total.toNat + n ≤ size.toNat)
      (total : reading'.total.toNat = reading.total.toNat + n)
      (copied : Copied memory (reading.source address) reading'.host (reading.target buffer) n)
      (frame : Agrees reading.host reading'.host (reading.target buffer)
        (size.toNat - reading.total.toNat))
      (exact : cursor.Exact → Agrees reading.host reading'.host (reading.target buffer) n) :
      Rounded cursor memory address buffer size reading (.inl reading')

/-- The view that a round asks to be filled is one of at least a byte. -/
theorem target_ne_zero (hbuffer : IsBuffer b buffer size) (hroom : reading.total < size) :
    reading.target buffer ≠ 0 := by
  have hlt : reading.total.toNat < size.toNat := hroom
  obtain rfl | ⟨hne, hend⟩ := hbuffer
  · simp at hlt
  · have hpos : buffer.toNat ≠ 0 := fun h => hne (BitVec.eq_of_toNat_eq (by simpa using h))
    intro hzero
    have hnat := congrArg BitVec.toNat hzero
    unfold Reading.target at hnat
    rw [BitVec.ofNat_toNat, BitVec.setWidth_eq, BitVec.toNat_add, Nat.mod_eq_of_lt (by omega)] at hnat
    simp at hnat
    omega

theorem readMemoryRound_outcome (hserves : cursor.Serves memory) (hbuffer : IsBuffer b buffer size)
    (address : ULONG64) (reading : Reading b σ) :
    Rounded cursor memory address buffer size reading
      (readMemoryRound cursor address buffer size reading) := by
  have hsource : address + reading.total.setWidth 64 = reading.source address := by
    rw [Reading.source, BitVec.ofNat_toNat]
  have htarget : buffer + reading.total = reading.target buffer := by
    rw [Reading.target, BitVec.ofNat_toNat, BitVec.setWidth_eq]
  unfold readMemoryRound
  split
  case isFalse hdone => exact .full (BitVec.not_lt.mp hdone)
  case isTrue hroom =>
    have hlt : reading.total.toNat < size.toNat := hroom
    have hrest : (size - reading.total).toNat = size.toNat - reading.total.toNat :=
      BitVec.toNat_sub_of_le (BitVec.le_of_lt hroom)
    rw [hsource, htarget]
    have hframe := hserves.writes (reading.source address) ⟨reading.target buffer, size - reading.total⟩
      reading.cursor reading.host
    rw [hrest] at hframe
    have hexact := fun (h : cursor.Exact) => h (reading.source address)
      ⟨reading.target buffer, size - reading.total⟩ reading.cursor reading.host
    dsimp only
    cases hcell : memory (reading.source address) with
    | none =>
      have hmiss := hserves.misses (reading.source address)
        ⟨reading.target buffer, size - reading.total⟩ reading.cursor reading.host hcell
      rw [if_pos (hmiss.imp_right .inr)]
      refine .missing hroom rfl hcell hframe fun h => funext fun x => hexact h x ?_
      rintro ⟨hbase, hin⟩
      rw [hmiss.resolve_left hbase] at hin
      simp [InRange] at hin
    | some byte =>
      have hsome : (memory (reading.source address)).isSome = true := by rw [hcell, Option.isSome_some]
      have hview : size - reading.total ≠ 0 := by
        intro hzero
        have hnat : (size - reading.total).toNat = 0 := by simp [hzero]
        omega
      obtain ⟨n, hn, hle, hanswer, hcopied⟩ := hserves.fills (reading.source address)
        ⟨reading.target buffer, size - reading.total⟩ reading.cursor reading.host
        (target_ne_zero hbuffer hroom) hview hsome
      have hpos : 0 < n.toNat :=
        Nat.pos_of_ne_zero fun hzero => hn (BitVec.eq_of_toNat_eq (by simpa using hzero))
      have hleNat : n.toNat ≤ (size - reading.total).toNat := hle
      have hfound : ¬ (reading.target buffer = 0 ∨ reading.source address ≠ reading.source address ∨
          n = 0) :=
        not_or.mpr ⟨target_ne_zero hbuffer hroom, not_or.mpr ⟨not_not_intro rfl, hn⟩⟩
      rw [hanswer] at hexact ⊢
      rw [if_neg hfound]
      -- The smaller of the two is what the cursor has filled.
      have hmin : (if n < size - reading.total then n else size - reading.total) = n := by
        split
        · rfl
        · rename_i hge
          exact BitVec.le_antisymm (BitVec.not_lt.mp hge) hle
      rw [hmin]
      refine .stored (n := n.toNat) hroom hpos (by omega) ?_ hcopied hframe
        fun h x hx => hexact h x fun hin => hx hin.2
      show (reading.total + n).toNat = _
      rw [BitVec.toNat_add, Nat.mod_eq_of_lt]
      have := size.isLt
      omega

/-- The loop has stored the first `total` bytes, and nothing outside the buffer. -/
structure Filled (cursor : ICursorView b σ) (memory : PartialMemory.Memory 64 BYTE) (address : ULONG64)
    (buffer size : BitVec b.bits) (host : HostMemory b) (reading : Reading b σ) : Prop where
  within : reading.total ≤ size
  copied : Copied memory address reading.host buffer reading.total.toNat
  frame : Agrees host reading.host buffer size.toNat
  exact : cursor.Exact → Agrees host reading.host buffer reading.total.toNat

/-- The loop has stored all that it can. -/
structure Finished (cursor : ICursorView b σ) (memory : PartialMemory.Memory 64 BYTE) (address : ULONG64)
    (buffer size : BitVec b.bits) (host : HostMemory b) (reading : Reading b σ) : Prop extends
    Filled cursor memory address buffer size host reading where
  ended : reading.total < size → memory (reading.source address) = none

/-- What is left of the buffer lies in it, past what is stored. -/
theorem inRange_target_iff {x : BitVec b.bits} (hle : reading.total ≤ size) :
    InRange (reading.target buffer) (size.toNat - reading.total.toNat) x ↔
      reading.total.toNat ≤ (x - buffer).toNat ∧ (x - buffer).toNat < size.toNat := by
  have hleNat : reading.total.toNat ≤ size.toNat := hle
  have hsize := size.isLt
  unfold Reading.target
  rw [inRange_offset_iff (by omega), Nat.add_sub_cancel' hleNat]

section Filled
variable {reading' : Reading b σ} {n : ℕ} (h : Filled cursor memory address buffer size host reading)
include h

theorem Filled.kept (hframe : Agrees reading.host reading'.host (reading.target buffer)
    (size.toNat - reading.total.toNat)) : Copied memory address reading'.host buffer reading.total.toNat := by
  have hle : reading.total.toNat ≤ size.toNat := h.within
  have hsize := size.isLt
  intro i hi
  rw [hframe, h.copied i hi]
  rw [inRange_target_iff h.within, add_ofNat_sub_toNat buffer (by omega)]
  omega

theorem Filled.outside (hframe : Agrees reading.host reading'.host (reading.target buffer)
    (size.toNat - reading.total.toNat)) : Agrees host reading'.host buffer size.toNat := by
  intro x hx
  rw [hframe, h.frame x hx]
  rw [inRange_target_iff h.within]
  exact fun hin => hx hin.2

theorem Filled.missing (htotal : reading'.total = reading.total)
    (hframe : Agrees reading.host reading'.host (reading.target buffer)
      (size.toNat - reading.total.toNat))
    (hexact : cursor.Exact → reading'.host = reading.host) :
    Filled cursor memory address buffer size host reading' := by
  constructor
  case within =>
    rw [htotal]
    exact h.within
  case copied =>
    rw [htotal]
    exact h.kept hframe
  case frame => exact h.outside hframe
  case exact =>
    intro hcursor
    rw [htotal, hexact hcursor]
    exact h.exact hcursor

theorem Filled.stored (hwithin : reading.total.toNat + n ≤ size.toNat)
    (htotal : reading'.total.toNat = reading.total.toNat + n)
    (hcopied : Copied memory (reading.source address) reading'.host (reading.target buffer) n)
    (hframe : Agrees reading.host reading'.host (reading.target buffer)
      (size.toNat - reading.total.toNat))
    (hexact : cursor.Exact → Agrees reading.host reading'.host (reading.target buffer) n) :
    Filled cursor memory address buffer size host reading' := by
  have hsize := size.isLt
  constructor
  case within =>
    show reading'.total.toNat ≤ size.toNat
    omega
  case copied =>
    rw [htotal]
    exact (h.kept hframe).append hcopied
  case frame => exact h.outside hframe
  case exact =>
    intro hcursor x hx
    rw [htotal] at hx
    rw [hexact hcursor, h.exact hcursor]
    · intro hin
      exact hx (lt_of_lt_of_le hin (Nat.le_add_right _ n))
    · unfold Reading.target
      rw [inRange_offset_iff (by omega)]
      exact fun hin => hx hin.2

end Filled

theorem correct_readMemoryRound (hserves : cursor.Serves memory) (hbuffer : IsBuffer b buffer size) :
    Loops.Correct (readMemoryRound cursor address buffer size)
      (Filled cursor memory address buffer size host)
      (fun reading => size.toNat - reading.total.toNat)
      (Finished cursor memory address buffer size host) := by
  constructor
  case keeps =>
    intro reading reading' h hround
    have houtcome := readMemoryRound_outcome hserves hbuffer address reading
    rw [hround] at houtcome
    cases houtcome with
    | stored _ _ within total copied frame exact => exact h.stored within total copied frame exact
  case lowers =>
    intro reading reading' h hround
    have houtcome := readMemoryRound_outcome hserves hbuffer address reading
    rw [hround] at houtcome
    cases houtcome with
    | stored _ progress within total _ _ => omega
  case leaves =>
    intro reading reading' h hround
    have houtcome := readMemoryRound_outcome hserves hbuffer address reading
    rw [hround] at houtcome
    cases houtcome with
    | full done => exact ⟨h, fun hlt => absurd hlt (BitVec.not_lt.mpr done)⟩
    | missing _ total absent frame exact =>
      refine ⟨h.missing total frame exact, fun _ => ?_⟩
      rw [Reading.source, total]
      exact absent

/-- The loop ends, after as many rounds as there are bytes at most, with all that it can store. -/
theorem readMemoryPartial_finished (hserves : cursor.Serves memory) (hbuffer : IsBuffer b buffer size)
    (address : ULONG64) (state : σ) (host : HostMemory b) :
    ∃ reading, (∀ fuel > size.toNat,
        readMemoryPartial cursor address buffer size fuel state host = some reading) ∧
      Finished cursor memory address buffer size host reading := by
  have hstart : Filled cursor memory address buffer size host ⟨0, state, host⟩ := by
    refine ⟨?_, fun i hi => absurd hi (by simp), fun _ _ => rfl, fun _ _ _ => rfl⟩
    show (0 : BitVec b.bits).toNat ≤ size.toNat
    simp
  obtain ⟨reading, hrun, hfinished⟩ := (correct_readMemoryRound hserves hbuffer).exists_run hstart
  exact ⟨reading, fun fuel hfuel => hrun fuel (by simpa using hfuel), hfinished⟩

theorem Finished.isGreatest (h : Finished cursor memory address buffer size host reading) :
    IsGreatest {n | n ≤ size.toNat ∧ Available memory address n} reading.total.toNat :=
  isGreatest_iff.mpr ⟨h.within, h.copied.available, h.ended⟩

/-- However the cursor cuts the range, the loop ends and returns the length of the longest run
that is available, with that run in the buffer and nothing written outside the buffer; if
the cursor writes no more than it returns, nothing outside the run. Another cursor over the
same memory gives the same result. -/
theorem readMemoryPartial_independent {σ' : Type} {cursor' : ICursorView b σ'}
    (hserves : cursor.Serves memory) (hserves' : cursor'.Serves memory) (hbuffer : IsBuffer b buffer size)
    (address : ULONG64) (state : σ) (state' : σ') (host host' : HostMemory b) :
    ∃ reading, (∀ fuel > size.toNat,
        readMemoryPartial cursor address buffer size fuel state host = some reading) ∧
      IsGreatest {n | n ≤ size.toNat ∧ Available memory address n} reading.total.toNat ∧
      Copied memory address reading.host buffer reading.total.toNat ∧
      Agrees host reading.host buffer size.toNat ∧
      (cursor.Exact → Agrees host reading.host buffer reading.total.toNat) ∧
      ∃ reading', (∀ fuel > size.toNat,
          readMemoryPartial cursor' address buffer size fuel state' host' = some reading') ∧
        reading'.total = reading.total ∧
        ∀ i < reading.total.toNat, reading'.host (buffer + BitVec.ofNat b.bits i) =
          reading.host (buffer + BitVec.ofNat b.bits i) := by
  obtain ⟨reading, hrun, hfinished⟩ := readMemoryPartial_finished hserves hbuffer address state host
  obtain ⟨reading', hrun', hfinished'⟩ := readMemoryPartial_finished hserves' hbuffer address state' host'
  have htotal : reading'.total = reading.total :=
    BitVec.eq_of_toNat_eq (hfinished'.isGreatest.unique hfinished.isGreatest)
  have hcopied' := hfinished'.copied
  rw [htotal] at hcopied'
  refine ⟨reading, hrun, hfinished.isGreatest, hfinished.copied, hfinished.frame, hfinished.exact,
    reading', hrun', htotal, fun i hi => hcopied'.eq hfinished.copied hi⟩

/-- `MemoryReadUnsafe` succeeds iff every byte is available; else it is a partial copy, and
the count tells how many bytes are. -/
theorem memoryReadReplay_outcome {lpBaseAddress : BitVec b.bits} (hserves : cursor.Serves memory)
    (hbuffer : IsBuffer b buffer size) (hsmall : size.toNat < 2 ^ 32) (state : σ) (host : HostMemory b) :
    ∃ read, (∀ fuel > size.toNat,
        memoryReadReplay (some cursor) true lpBaseAddress buffer size fuel state host = some read) ∧
      (read.result = true ↔ Available memory (lpBaseAddress.setWidth 64) size.toNat) ∧
      read.lastError = (if read.result then none else some ERROR_PARTIAL_COPY) ∧
      read.numberOfBytesRead = some read.reading.total ∧
      Copied memory (lpBaseAddress.setWidth 64) read.reading.host buffer read.reading.total.toNat := by
  obtain ⟨reading, hrun, hfinished⟩ :=
    readMemoryPartial_finished hserves hbuffer (lpBaseAddress.setWidth 64) state host
  refine ⟨⟨reading.total = size, if reading.total = size then none else some ERROR_PARTIAL_COPY,
    some reading.total, reading⟩, fun fuel hfuel => ?_, ?_, by simp, rfl, hfinished.copied⟩
  · simp only [memoryReadReplay, hrun fuel hfuel, Option.map_some]
    exact if_neg (by simp; omega)
  · show decide (reading.total = size) = true ↔ _
    rw [decide_eq_true_iff]
    constructor
    · rintro rfl
      exact hfinished.copied.available
    · intro havailable
      have hle : size.toNat ≤ reading.total.toNat := hfinished.isGreatest.2 ⟨le_rfl, havailable⟩
      exact BitVec.le_antisymm hfinished.within hle

/-- What a whole read gives does not depend on the cursor: the bytes of the memory, if all
are available. -/
theorem bytesRead_eq_some_iff (hserves : cursor.Serves memory) (hbuffer : IsBuffer b buffer size)
    (address : ULONG64) (state : σ) (host : HostMemory b) {bytes : List BYTE} :
    bytesRead cursor address buffer size state host = some bytes ↔
      bytes.length = size.toNat ∧ ∀ i < size.toNat, memory (address + BitVec.ofNat 64 i) = bytes[i]? := by
  obtain ⟨reading, hrun, hfinished⟩ := readMemoryPartial_finished hserves hbuffer address state host
  have hread : bytesRead cursor address buffer size state host =
      if reading.total = size then some (reading.host.read buffer size.toNat) else none := by
    unfold bytesRead readMemory
    rw [hrun _ (Nat.lt_succ_self _)]
    by_cases htotal : reading.total = size <;> simp [htotal]
  rw [hread]
  constructor
  · intro h
    split at h
    · rename_i htotal
      cases h
      refine ⟨length_read _ _ _, fun i hi => ?_⟩
      rw [hfinished.copied i (by rwa [htotal]), getElem?_read _ _ hi]
    · cases h
  · rintro ⟨hlength, hbytes⟩
    have havailable : Available memory address size.toNat := by
      intro i hi
      rw [hbytes i hi, List.getElem?_eq_getElem (by omega), Option.isSome_some]
    have hle : size.toNat ≤ reading.total.toNat := hfinished.isGreatest.2 ⟨le_rfl, havailable⟩
    have htotal : reading.total = size := BitVec.le_antisymm hfinished.within hle
    rw [if_pos htotal]
    apply congrArg some
    apply List.ext_getElem?
    intro i
    rcases Nat.lt_or_ge i size.toNat with hi | hi
    · rw [getElem?_read _ _ hi, ← hbytes i hi, hfinished.copied i (by rwa [htotal])]
    · rw [List.getElem?_eq_none (by rwa [length_read]), List.getElem?_eq_none (by omega)]

section Pieces
variable (memory) (lengths : ℕ → ℕ)

/-- A cursor that returns at most `lengths k + 1` bytes to its query number `k`. -/
def pieces : ICursorView b ℕ where
  queryMemoryBuffer address view k host :=
    let n := extent memory address (min (lengths k + 1) view.Size.toNat)
    if n = 0 then (⟨address, ⟨0, 0⟩⟩, k + 1, host)
    else
      (⟨address, ⟨view.BaseAddress, BitVec.ofNat b.bits n⟩⟩, k + 1,
        host.write view.BaseAddress
          ((List.range n).map fun i => (memory (address + BitVec.ofNat 64 i)).getD 0))

variable {memory lengths}

/-- Every sequence of lengths is one that a cursor may answer with. -/
theorem serves_pieces : (pieces memory lengths : ICursorView b ℕ).Serves memory := by
  constructor
  case writes =>
    intro address view k host x hx
    unfold pieces
    dsimp only
    split
    · rfl
    · apply write_of_not_inRange
      rw [List.length_map, List.length_range]
      intro hin
      have hle : extent memory address (min (lengths k + 1) view.Size.toNat) ≤
          min (lengths k + 1) view.Size.toNat := isGreatest_extent.1.1
      exact hx (lt_of_lt_of_le hin (le_trans hle (min_le_right _ _)))
  case fills =>
    intro address view k host hbase hsize hsome
    have hpos : view.Size.toNat ≠ 0 := fun h => hsize (BitVec.eq_of_toNat_eq (by simpa using h))
    generalize hn : extent memory address (min (lengths k + 1) view.Size.toNat) = n
    have hgreatest := isGreatest_extent (m := memory) (a := address)
      (n := min (lengths k + 1) view.Size.toNat)
    rw [hn] at hgreatest
    have hle : n ≤ view.Size.toNat := le_trans hgreatest.1.1 (min_le_right _ _)
    have hfirst : 1 ≤ n := by
      refine hgreatest.2 ⟨by omega, fun i hi => ?_⟩
      obtain rfl : i = 0 := by omega
      simpa using hsome
    have hn' : (BitVec.ofNat b.bits n).toNat = n := by
      rw [BitVec.toNat_ofNat, Nat.mod_eq_of_lt (lt_of_le_of_lt hle view.Size.isLt)]
    refine ⟨BitVec.ofNat b.bits n, ?_, ?_, ?_, ?_⟩
    · intro hzero
      rw [hzero] at hn'
      simp at hn'
      omega
    · show (BitVec.ofNat b.bits n).toNat ≤ view.Size.toNat
      rwa [hn']
    · simp only [pieces, hn, if_neg (show n ≠ 0 by omega)]
    · simp only [pieces, hn, if_neg (show n ≠ 0 by omega), hn']
      intro i hi
      have hcell := hgreatest.1.2 i hi
      obtain ⟨byte, hbyte⟩ := Option.isSome_iff_exists.mp hcell
      rw [hbyte]
      apply congrArg some
      symm
      apply write_of_cell
      rw [cell, add_ofNat_sub_toNat _ (by have := view.Size.isLt; omega)]
      simp [hi, hbyte]
  case misses =>
    intro address view k host hnone
    have hzero : extent memory address (min (lengths k + 1) view.Size.toNat) = 0 := by
      cases min (lengths k + 1) view.Size.toNat <;> simp [extent, hnone]
    left
    simp only [pieces, hzero, if_pos]

end Pieces

/-- Three bytes, read byte by byte and as far as they go. -/
def threeBytes : PartialMemory.Memory 64 BYTE :=
  fun a => if 0x1000 ≤ a ∧ a < 0x1003 then some (a.setWidth 8) else none

theorem readMemoryPartial_threeBytes :
    ∃ reading reading',
      readMemoryPartial (b := .x86) (pieces threeBytes fun _ => 0) 0x1000 0x2000 8 9 0 (fun _ => 0) =
        some reading ∧
      readMemoryPartial (b := .x86) (pieces threeBytes fun _ => 7) 0x1000 0x2000 8 9 0 (fun _ => 0) =
        some reading' ∧ reading'.total = reading.total := by
  have hbuffer : IsBuffer .x86 0x2000 8 := .inr (by decide)
  obtain ⟨reading, hrun, -, -, -, -, reading', hrun', htotal, -⟩ := readMemoryPartial_independent
    (serves_pieces : (pieces threeBytes fun _ => 0 : ICursorView .x86 ℕ).Serves threeBytes)
    (serves_pieces : (pieces threeBytes fun _ => 7 : ICursorView .x86 ℕ).Serves threeBytes)
    hbuffer 0x1000 0 0 (fun _ => 0) (fun _ => 0)
  exact ⟨reading, reading', hrun 9 (by decide), hrun' 9 (by decide), htotal⟩

end TTDReplay
end TitanEngine

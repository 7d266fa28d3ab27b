import TitanEngine.MemoryMap.Queries

/-! What takes up memory at a cursor, by the modules, by the words of each `NT_TIB` and by the
address of each TEB. The ranges that a query compares with are these. -/
namespace TitanEngine

/-- The word lies in the bytes from `offset` on, the lowest byte first. A byte that was not read is
0, like the buffer before the read. -/
def Holds {w : ℕ} (bytes : List BYTE) (offset : ℕ) (word : BitVec w) : Prop :=
  ∀ i < w / 8, bytes.getD (offset + i) 0 = word.extractLsb' (8 * i) 8

/-- The pointers of an `NT_TIB` that bound a stack. -/
structure NT_TIB (b : Build) where
  StackBase : BitVec b.bits
  StackLimit : BitVec b.bits

/-- The structure begins with `ExceptionList`, `StackBase` and `StackLimit`. -/
structure NT_TIB.In {b : Build} (tib : NT_TIB b) (bytes : List BYTE) : Prop where
  base : Holds bytes (b.bits / 8) tib.StackBase
  limit : Holds bytes (2 * (b.bits / 8)) tib.StackLimit

/-- The ranges of the modules, the stacks and the TEB pages at the cursor. -/
inductive TtdSession.Occupied (b : Build) (env : Env) (t : TtdSession) : AddressRange → Prop
  | module {module : TtdModuleInfo} (listed : module ∈ t.current.modules) (size : module.size ≠ 0) :
      Occupied b env t (module.base, module.base + module.size)
  | stack {thread : ThreadInfo} {bytes : List BYTE} {tib : NT_TIB b} (listed : thread ∈ t.current.threads)
      (teb : t.ttdTebAddress thread.id ≠ 0)
      (read : env.replayRead (t.ttdTebAddress thread.id) (3 * (b.bits / 8)) = some bytes)
      (words : tib.In bytes) (limit : tib.StackLimit ≠ 0) (below : tib.StackLimit < tib.StackBase) :
      Occupied b env t (tib.StackLimit.setWidth 64, tib.StackBase.setWidth 64)
  | teb {thread : ThreadInfo} {page : ULONG64} (listed : thread ∈ t.current.threads)
      (teb : t.ttdTebAddress thread.id ≠ 0) (aligned : page.toNat % 0x1000 = 0)
      (start : page.toNat ≤ (t.ttdTebAddress thread.id).toNat)
      (stop : (t.ttdTebAddress thread.id).toNat < page.toNat + 0x1000) : Occupied b env t (page, page + 0x1000)

namespace MemoryMap
variable {b : Build} {readMemory : ULONG64 → ℕ → Option (List BYTE)} {bytes : List BYTE} {teb : ULONG64}
  {range : AddressRange}

/-- The digits to the base 256. -/
theorem foldr_digit (bytes : List BYTE) (i : ℕ) :
    bytes.foldr (fun byte rest => byte.toNat + 256 * rest) 0 / 256 ^ i % 256 = (bytes.getD i 0).toNat := by
  induction bytes generalizing i with
  | nil => simp
  | cons byte bytes ih =>
    have hbyte := byte.isLt
    rw [List.foldr_cons]
    cases i with
    | zero =>
      rw [List.getD_cons_zero]
      omega
    | succ i =>
      rw [List.getD_cons_succ, ← ih i, pow_succ', ← Nat.div_div_eq_div_mul]
      congr 2
      omega

/-- A byte of the number is a byte of the list. -/
theorem extractLsb'_littleEndian {i : ℕ} (hi : i < 8) :
    (littleEndian bytes).extractLsb' (8 * i) 8 = bytes.getD i 0 := by
  apply BitVec.eq_of_toNat_eq
  rw [BitVec.extractLsb'_toNat, littleEndian, BitVec.toNat_ofNat, Nat.shiftRight_eq_div_pow,
    show (2 : ℕ) ^ 64 = 2 ^ (8 * i) * 2 ^ (64 - 8 * i) by rw [← pow_add]; congr 1; omega,
    Nat.mod_mul_right_div_self, Nat.mod_mod_of_dvd _ (pow_dvd_pow 2 (by omega)), pow_mul]
  exact foldr_digit bytes i

/-- Words with the same bytes are the same. -/
theorem eq_of_extractLsb' {w : ℕ} {word word' : BitVec w} (hw : w % 8 = 0)
    (h : ∀ i < w / 8, word.extractLsb' (8 * i) 8 = word'.extractLsb' (8 * i) 8) : word = word' := by
  apply BitVec.eq_of_getLsbD_eq
  intro k hk
  have hbyte := congrArg (fun byte => byte.getLsbD (k % 8)) (h (k / 8) (by omega))
  have hsmall : k % 8 < 8 := Nat.mod_lt k (by decide)
  simp only [BitVec.getLsbD_extractLsb', hsmall, decide_true, Bool.true_and, Nat.div_add_mod] at hbyte
  exact hbyte

theorem bits_div (b : Build) : b.bits = 8 * (b.bits / 8) := by cases b <;> rfl

theorem extractLsb'_tibField {i j : ℕ} (hj : j < 8) :
    (tibField b bytes i).extractLsb' (8 * j) 8 =
      if j < b.bits / 8 then bytes.getD (i * (b.bits / 8) + j) 0 else 0 := by
  unfold tibField
  rw [extractLsb'_littleEndian hj, List.getD_eq_getElem?_getD, List.getElem?_take]
  by_cases hin : j < b.bits / 8
  · rw [if_pos hin, if_pos hin, List.getElem?_drop, List.getD_eq_getElem?_getD]
  · rw [if_neg hin, if_neg hin]
    rfl

theorem extractLsb'_pointer (word : BitVec b.bits) {j : ℕ} (hj : j < 8) :
    (word.setWidth 64).extractLsb' (8 * j) 8 = if j < b.bits / 8 then word.extractLsb' (8 * j) 8 else 0 := by
  have hbits := bits_div b
  apply BitVec.eq_of_getLsbD_eq
  intro k hk
  rw [BitVec.getLsbD_extractLsb', BitVec.getLsbD_setWidth, decide_eq_true hk,
    decide_eq_true (show 8 * j + k < 64 by omega), Bool.true_and, Bool.true_and]
  by_cases hin : j < b.bits / 8
  · rw [if_pos hin, BitVec.getLsbD_extractLsb', decide_eq_true hk, Bool.true_and]
  · rw [if_neg hin, BitVec.getLsbD_of_ge word _ (by omega)]
    exact (BitVec.getLsbD_zero ..).symm

/-- The field that the code takes out of the bytes is the word that lies there. -/
theorem holds_iff {i : ℕ} {word : BitVec b.bits} :
    Holds bytes (i * (b.bits / 8)) word ↔ tibField b bytes i = word.setWidth 64 := by
  have hbits := bits_div b
  have hle := bits_le b
  constructor
  · intro h
    refine eq_of_extractLsb' (by decide) fun j hj => ?_
    rw [extractLsb'_tibField hj, extractLsb'_pointer word hj]
    by_cases hin : j < b.bits / 8
    · rw [if_pos hin, if_pos hin, h j hin]
    · rw [if_neg hin, if_neg hin]
  · intro h j hin
    have hj : j < 8 := by omega
    have hbyte : (tibField b bytes i).extractLsb' (8 * j) 8 = _ := extractLsb'_tibField hj
    rwa [h, extractLsb'_pointer word hj, if_pos hin, if_pos hin, eq_comm] at hbyte

/-- Each field is the word of some pointer. -/
theorem exists_holds (b : Build) (bytes : List BYTE) (i : ℕ) :
    ∃ word : BitVec b.bits, tibField b bytes i = word.setWidth 64 := by
  have hbits := bits_div b
  refine ⟨(tibField b bytes i).setWidth b.bits, eq_of_extractLsb' (by decide) fun j hj => ?_⟩
  rw [extractLsb'_pointer _ hj]
  by_cases hin : j < b.bits / 8
  · rw [if_pos hin]
    apply BitVec.eq_of_getLsbD_eq
    intro k hk
    rw [BitVec.getLsbD_extractLsb', BitVec.getLsbD_extractLsb', BitVec.getLsbD_setWidth,
      decide_eq_true (show 8 * j + k < b.bits by omega), Bool.true_and]
  · rw [if_neg hin, extractLsb'_tibField hj, if_neg hin]

theorem mem_moduleRanges {modules : List TtdModuleInfo} : range ∈ moduleRanges modules ↔
    ∃ module ∈ modules, module.size ≠ 0 ∧ (module.base, module.base + module.size) = range := by
  unfold moduleRanges
  simp [and_assoc]

theorem stackRange_eq_some : stackRange b readMemory teb = some range ↔
    teb ≠ 0 ∧ ∃ bytes, readMemory teb (3 * (b.bits / 8)) = some bytes ∧ ∃ tib : NT_TIB b, tib.In bytes ∧
      tib.StackLimit ≠ 0 ∧ tib.StackLimit < tib.StackBase ∧
        (tib.StackLimit.setWidth 64, tib.StackBase.setWidth 64) = range := by
  have hzero : ∀ word : BitVec b.bits, word.setWidth 64 = 0 ↔ word = 0 := fun word => by
    rw [← BitVec.toNat_inj, ← BitVec.toNat_inj, toNat_pointer]
    rfl
  have hlt : ∀ word word' : BitVec b.bits, word.setWidth 64 < word'.setWidth 64 ↔ word < word' :=
    fun word word' => by rw [BitVec.lt_def, BitVec.lt_def, toNat_pointer, toNat_pointer]
  unfold stackRange
  by_cases hteb : teb = 0
  · simp [hteb]
  rw [if_neg hteb]
  cases hread : readMemory teb (3 * (b.bits / 8)) with
  | none => simp
  | some bytes =>
    obtain ⟨base, hbase⟩ := exists_holds b bytes 1
    obtain ⟨limit, hlimit⟩ := exists_holds b bytes 2
    dsimp only
    rw [hbase, hlimit]
    constructor
    · intro h
      split at h
      · rename_i hstack
        refine ⟨hteb, bytes, rfl, ⟨base, limit⟩, ⟨?_, holds_iff.2 hlimit⟩, ?_, ?_, Option.some.inj h⟩
        · have hword := holds_iff.2 hbase
          rwa [Nat.one_mul] at hword
        · exact fun h => hstack.1 ((hzero limit).2 h)
        · exact (hlt limit base).1 hstack.2
      · cases h
    · rintro ⟨-, _, ⟨⟩, tib, hin, hne, hbelow, rfl⟩
      have hbase' : tibField b bytes 1 = tib.StackBase.setWidth 64 := by
        rw [← holds_iff, Nat.one_mul]
        exact hin.base
      have hlimit' : tibField b bytes 2 = tib.StackLimit.setWidth 64 := holds_iff.1 hin.limit
      rw [← hbase, ← hlimit, hbase', hlimit', if_pos ⟨fun h => hne ((hzero _).1 h), (hlt _ _).2 hbelow⟩]

theorem tebRange_eq_some : tebRange teb = some range ↔
    teb ≠ 0 ∧ ∃ page : ULONG64, page.toNat % 0x1000 = 0 ∧ page.toNat ≤ teb.toNat ∧
      teb.toNat < page.toNat + 0x1000 ∧ (page, page + 0x1000) = range := by
  unfold tebRange
  by_cases hteb : teb = 0
  · simp [hteb]
  rw [if_neg hteb, Option.some_inj]
  have hpage := toNat_pageStart teb
  constructor
  · intro h
    exact ⟨hteb, pageStart teb, by omega, by omega, by omega, h⟩
  · rintro ⟨-, page, haligned, hstart, hstop, rfl⟩
    have hsame : pageStart teb = page := by
      apply BitVec.eq_of_toNat_eq
      omega
    rw [hsame]

end MemoryMap

/-- The ranges that the query compares with are the occupied ones. -/
theorem TtdSession.mem_knownRanges {b : Build} {env : Env} {t : TtdSession} {range : AddressRange} :
    range ∈ t.knownRanges b env ↔ t.Occupied b env range := by
  unfold TtdSession.knownRanges MemoryMap.knownRanges MemoryMap.threadRanges
  simp only [List.mem_append, MemoryMap.mem_moduleRanges, List.mem_flatMap, List.mem_map, Option.mem_toList,
    MemoryMap.stackRange_eq_some, MemoryMap.tebRange_eq_some]
  constructor
  · rintro (⟨module, hlisted, hsize, rfl⟩ | ⟨_, ⟨thread, hlisted, rfl⟩, hthread⟩)
    · exact .module hlisted hsize
    · rcases hthread with ⟨hteb, bytes, hread, tib, hin, hne, hbelow, rfl⟩ | ⟨hteb, page, haligned, hstart, hstop, rfl⟩
      · exact .stack hlisted hteb hread hin hne hbelow
      · exact .teb hlisted hteb haligned hstart hstop
  · rintro (⟨hlisted, hsize⟩ | ⟨hlisted, hteb, hread, hin, hne, hbelow⟩ | ⟨hlisted, hteb, haligned, hstart, hstop⟩)
    · exact .inl ⟨_, hlisted, hsize, rfl⟩
    · exact .inr ⟨_, ⟨_, hlisted, rfl⟩, .inl ⟨hteb, _, hread, _, hin, hne, hbelow, rfl⟩⟩
    · exact .inr ⟨_, ⟨_, hlisted, rfl⟩, .inr ⟨hteb, _, haligned, hstart, hstop, rfl⟩⟩

end TitanEngine

import TitanEngine.Patches.Undo

/-! `Fill` writes its range piece by piece, and leaves a part of it filled from the start on if
a piece fails. -/
namespace TitanEngine
open FlatMemory

namespace Session
variable {s : Session}

/-- The session with its first `n` bytes from `MemoryStart` on filled. -/
structure FilledUpTo (s : Session) (MemoryStart : ULONG_PTR) (value : BYTE) (n : ℕ) (s' : Session) : Prop where
  eq : s' = { s with
    target.memory := s.target.memory.write MemoryStart (List.replicate n value)
    lastError := s'.lastError }

theorem filledUpTo_zero (MemoryStart : ULONG_PTR) (value : BYTE) (error : DWORD) (s : Session) :
    FilledUpTo s MemoryStart value 0 { s with lastError := error } := ⟨rfl⟩

theorem FilledUpTo.write {MemoryStart : ULONG_PTR} {value : BYTE} {n k : ℕ} {s' s'' : Session}
    (h : FilledUpTo s MemoryStart value n s') (hroom : n + k ≤ 2 ^ 64)
    (hwrite : FilledUpTo s' (MemoryStart + BitVec.ofNat 64 n) value k s'') :
    FilledUpTo s MemoryStart value (n + k) s'' := by
  have happend : (s.target.memory.write MemoryStart (List.replicate n value)).write
      (MemoryStart + BitVec.ofNat 64 n) (List.replicate k value) =
      s.target.memory.write MemoryStart (List.replicate (n + k) value) := by
    have hlength : BitVec.ofNat 64 n = BitVec.ofNat 64 (List.replicate n value).length := by
      rw [List.length_replicate]
    rw [hlength, write_append _ _ (by rwa [List.length_replicate, List.length_replicate]),
      List.replicate_append_replicate]
  refine ⟨?_⟩
  rw [← happend]
  have hfirst := h.eq
  have hsecond := hwrite.eq
  generalize s''.lastError = error at hsecond
  generalize s'.lastError = error' at hfirst
  subst hfirst
  exact hsecond

/-- A write fills a part of its range, and all of it just when it succeeds. -/
theorem filledUpTo_memoryWriteSafe (env : Env) (process : HANDLE) (address : ULONG_PTR) (value : BYTE)
    {count : ℕ} (hcount : 0 < count) (s : Session) :
    ∃ n ≤ count, FilledUpTo s address value n
        (s.memoryWriteSafe env process address (List.replicate count value)).1 ∧
      ((s.memoryWriteSafe env process address (List.replicate count value)).2 = true ↔ n = count) := by
  have hnothing : ∀ error, ∃ n ≤ count, FilledUpTo s address value n (s.fail error).1 ∧
      ((s.fail error).2 = true ↔ n = count) := by
    intro error
    refine ⟨0, Nat.zero_le _, filledUpTo_zero address value error s, ?_⟩
    exact iff_of_false Bool.false_ne_true (by omega)
  unfold memoryWriteSafe
  rw [List.length_replicate]
  split
  · exact hnothing _
  split
  · exact hnothing _
  split
  · exact hnothing _
  split
  · rename_i written hwritten
    dsimp only
    split
    · refine ⟨min written count, Nat.min_le_right _ _, ⟨?_⟩, ?_⟩
      · rw [List.take_replicate]
      · rw [List.length_take, List.length_replicate, decide_eq_true_iff]
    · exact hnothing _
  · exact hnothing _

/-- Where every write that Windows can do is done, a write succeeds. -/
theorem memoryWriteSafe_served {env : Env} {process : HANDLE} {address : ULONG_PTR} {buffer : List BYTE}
    (hserved : ∀ n, env.writeVirtual n = some n) (hkind : s.gSessionKind = .live)
    (hlock : s.pauseLock = true) (hprocess : process ≠ 0) (haddress : address ≠ 0)
    (hbuffer : buffer ≠ []) (hshort : buffer.length < 2 ^ 32)
    (hrange : userRange address buffer.length = true) :
    (s.memoryWriteSafe env process address buffer).2 = true := by
  have hargs : ¬ (process = 0 ∨ address = 0 ∨ buffer = [] ∨ 2 ^ 32 ≤ buffer.length) := by
    rw [not_or, not_or, not_or]
    exact ⟨hprocess, haddress, hbuffer, Nat.not_le.mpr hshort⟩
  unfold memoryWriteSafe
  rw [if_neg hargs, if_neg (by simp [hlock]), if_neg (by simp [hkind]), hserved]
  simp [hrange]

/-- Nothing stands in the way of the writes of `Fill`. -/
structure Fillable (env : Env) (writes : ℕ → Env) (MemoryStart : ULONG_PTR) (size : ℕ) (s : Session) :
    Prop where
  live : s.gSessionKind = .live
  locked : s.pauseLock = true
  process : s.activeProcessHandle env ≠ 0
  range : userRange MemoryStart size = true
  served : ∀ round n, (writes round).writeVirtual n = some n

/-- What the loop of `Fill` comes to. -/
structure FillEnds (env : Env) (writes : ℕ → Env) (MemoryStart : ULONG_PTR) (size : ℕ) (value : BYTE)
    (s : Session) (result : Session × Bool) : Prop where
  filled : ∃ n ≤ size, FilledUpTo s MemoryStart value n result.1 ∧ (result.2 = true ↔ n = size)
  succeeds : s.Fillable env writes MemoryStart size → result.2 = true

/-- One write of the loop, `count` bytes at the offset that it has come to. -/
theorem fill_write (env : Env) {writes : ℕ → Env} {MemoryStart : ULONG_PTR} {size offset count : ℕ}
    {value : BYTE} {s' : Session} (hsize : size < 2 ^ 32) (hcount : 0 < count)
    (hroom : offset + count ≤ size) (hfilled : FilledUpTo s MemoryStart value offset s') (round : ℕ)
    {r : Session × Bool} (hr : s'.memoryWriteSafe (writes round) (s.activeProcessHandle env)
      (MemoryStart + BitVec.ofNat 64 offset) (List.replicate count value) = r) :
    ∃ n ≤ count, FilledUpTo s MemoryStart value (offset + n) r.1 ∧ (r.2 = true ↔ n = count) ∧
      (s.Fillable env writes MemoryStart size → r.2 = true) := by
  obtain ⟨n, hn, hwrite, hdone⟩ := filledUpTo_memoryWriteSafe (writes round) (s.activeProcessHandle env)
    (MemoryStart + BitVec.ofNat 64 offset) value hcount s'
  rw [hr] at hwrite hdone
  refine ⟨n, hn, hfilled.write (by omega) hwrite, hdone, fun h => ?_⟩
  have hkind : s'.gSessionKind = s.gSessionKind := by rw [hfilled.eq]
  have hlock : s'.pauseLock = s.pauseLock := by
    rw [hfilled.eq]
    rfl
  have hrange := h.range
  simp only [userRange, decide_eq_true_iff] at hrange
  have haddress : (MemoryStart + BitVec.ofNat 64 offset).toNat = MemoryStart.toNat + offset := by
    rw [BitVec.toNat_add, BitVec.toNat_ofNat, Nat.mod_eq_of_lt (show offset < 2 ^ 64 by omega),
      Nat.mod_eq_of_lt (by omega)]
  rw [← hr]
  refine memoryWriteSafe_served (h.served round) (hkind.trans h.live) (hlock.trans h.locked) h.process
    ?_ ?_ ?_ ?_
  · intro hzero
    have hnull : (0 : ULONG_PTR).toNat = 0 := rfl
    rw [hzero, hnull] at haddress
    omega
  · rw [ne_eq, List.replicate_eq_nil_iff]
    omega
  · rw [List.length_replicate]
    omega
  · simp only [userRange, decide_eq_true_iff, List.length_replicate, haddress]
    omega

theorem correct_fillRound (env : Env) (writes : ℕ → Env) (MemoryStart : ULONG_PTR) {size : ℕ}
    (hsize : size < 2 ^ 32) (value : BYTE) (s : Session) :
    Loops.Correct (fillRound writes (s.activeProcessHandle env) MemoryStart size value)
      (fun state => state.2.1 ≤ size ∧ FilledUpTo s MemoryStart value state.2.1 state.1)
      (fun state => size - state.2.1) (FillEnds env writes MemoryStart size value s) := by
  have hround : ∀ {s' : Session} {offset : ℕ} (round : ℕ), offset < size →
      FilledUpTo s MemoryStart value offset s' →
      ∃ (r : Session × Bool) (count n : ℕ), 0 < count ∧ offset + count ≤ size ∧ n ≤ count ∧
        fillRound writes (s.activeProcessHandle env) MemoryStart size value (s', offset, round) =
          (if r.2 then .inl (r.1, offset + count, round + 1) else .inr r) ∧
        FilledUpTo s MemoryStart value (offset + n) r.1 ∧ (r.2 = true ↔ n = count) ∧
        (s.Fillable env writes MemoryStart size → r.2 = true) := by
    intro s' offset round hoffset hfilled
    have hcount : 0 < min (min size (64 * 1024)) (size - offset) := by omega
    obtain ⟨n, hn, hwritten⟩ := fill_write env hsize hcount (by omega) hfilled round rfl
    refine ⟨_, _, n, hcount, by omega, hn, ?_, hwritten⟩
    rw [fillRound, if_pos hoffset]
  constructor
  · rintro ⟨s', offset, round⟩ next ⟨hoffset, hfilled⟩ hnext
    rcases Nat.lt_or_ge offset size with hlt | hge
    · obtain ⟨r, count, n, hcount, hroom, hn, heq, hfilled', hdone, -⟩ := hround round hlt hfilled
      rw [heq] at hnext
      split at hnext
      · rename_i htrue
        cases hnext
        rw [hdone.mp htrue] at hfilled'
        exact ⟨hroom, hfilled'⟩
      · cases hnext
    · rw [fillRound, if_neg (by omega)] at hnext
      cases hnext
  · rintro ⟨s', offset, round⟩ next ⟨hoffset, hfilled⟩ hnext
    rcases Nat.lt_or_ge offset size with hlt | hge
    · obtain ⟨r, count, n, hcount, hroom, hn, heq, -⟩ := hround round hlt hfilled
      rw [heq] at hnext
      split at hnext
      · cases hnext
        dsimp only
        omega
      · cases hnext
    · rw [fillRound, if_neg (by omega)] at hnext
      cases hnext
  · rintro ⟨s', offset, round⟩ result ⟨hoffset, hfilled⟩ hresult
    rcases Nat.lt_or_ge offset size with hlt | hge
    · obtain ⟨r, count, n, hcount, hroom, hn, heq, hfilled', hdone, hserved⟩ := hround round hlt hfilled
      rw [heq] at hresult
      split at hresult
      · cases hresult
      · rename_i hfailed
        cases hresult
        have hshort : n ≠ count := fun hall => hfailed (hdone.mpr hall)
        exact ⟨⟨offset + n, by omega, hfilled', iff_of_false hfailed (by omega)⟩, hserved⟩
    · rw [fillRound, if_neg (by omega)] at hresult
      cases hresult
      obtain rfl : offset = size := by
        dsimp only at hoffset
        omega
      exact ⟨⟨offset, le_rfl, hfilled, iff_of_true rfl rfl⟩, fun _ => rfl⟩

end Session

/-- `Fill` comes to an end. What it leaves is one write of the fill byte from the start on, of
the whole size just when it returns true, and it does where no write is refused. -/
theorem fill_fills (env : Env) (writes : ℕ → Env) (MemoryStart : ULONG_PTR) (MemorySize : DWORD)
    (FillByte : Option BYTE) (s : Session) :
    ∃ result, s.fill env writes MemoryStart MemorySize FillByte = some result ∧
      (∃ n ≤ MemorySize.toNat, s.FilledUpTo MemoryStart (FillByte.getD 0x90) n result.1 ∧
        (result.2 = true ↔ n = MemorySize.toNat ∧ MemorySize ≠ 0)) ∧
      (s.Fillable env writes MemoryStart MemorySize.toNat → MemorySize ≠ 0 → result.2 = true) := by
  have hnothing : ∀ error, (¬ s.Fillable env writes MemoryStart MemorySize.toNat ∨ MemorySize = 0) →
      (∃ n ≤ MemorySize.toNat, s.FilledUpTo MemoryStart (FillByte.getD 0x90) n (s.fail error).1 ∧
        ((s.fail error).2 = true ↔ n = MemorySize.toNat ∧ MemorySize ≠ 0)) ∧
      (s.Fillable env writes MemoryStart MemorySize.toNat → MemorySize ≠ 0 → (s.fail error).2 = true) := by
    intro error hrefused
    refine ⟨⟨0, Nat.zero_le _, Session.filledUpTo_zero _ _ error s, ?_⟩, fun h hsize => ?_⟩
    · refine iff_of_false Bool.false_ne_true fun hall => hall.2 ?_
      exact BitVec.eq_of_toNat_eq hall.1.symm
    · exact absurd h (hrefused.resolve_right hsize)
  unfold Session.fill
  split
  · rename_i hargs
    refine ⟨_, rfl, hnothing _ (hargs.imp_left fun hzero h => ?_)⟩
    have hrange := h.range
    rw [hzero] at hrange
    simp [Session.userRange] at hrange
  split
  · rename_i hlock
    refine ⟨_, rfl, hnothing _ (.inl fun h => ?_)⟩
    simp [h.locked] at hlock
  split
  · rename_i hprocess
    exact ⟨_, rfl, hnothing _ (.inl fun h => h.process hprocess)⟩
  rename_i hargs _ _
  have hsize : MemorySize ≠ 0 := fun hzero => hargs (.inr hzero)
  obtain ⟨result, hrun, ⟨n, hn, hfilled, hdone⟩, hserved⟩ :=
    (Session.correct_fillRound env writes MemoryStart MemorySize.isLt (FillByte.getD 0x90) s).run
      (s := (s, 0, 0)) ⟨Nat.zero_le _, Session.filledUpTo_zero _ _ s.lastError s⟩ (Nat.lt_succ_self _)
  refine ⟨result, hrun, ⟨n, hn, hfilled, ?_⟩, fun h _ => hserved h⟩
  rw [hdone]
  exact (and_iff_left hsize).symm

/-- Every write is served, and the whole range gets NOPs. -/
theorem fill_fills_served :
    ∃ result, freshSession.fill {} (fun _ => {}) 0x401000 3 none = some result ∧
      result.1.target.memory.read 0x401000 3 = [0x90, 0x90, 0x90] := by
  obtain ⟨result, hfill, ⟨n, -, hfilled, hwhole⟩, hsucceeds⟩ :=
    fill_fills {} (fun _ => {}) 0x401000 3 none freshSession
  have hdone := hsucceeds ⟨rfl, by decide, by decide, by decide, fun _ _ => rfl⟩ (by decide)
  obtain ⟨rfl, -⟩ := hwhole.mp hdone
  have hmemory : result.1.target.memory = freshSession.target.memory.write 0x401000 [0x90, 0x90, 0x90] :=
    congrArg (fun s => s.target.memory) hfilled.eq
  refine ⟨result, hfill, ?_⟩
  rw [hmemory]
  decide

end TitanEngine

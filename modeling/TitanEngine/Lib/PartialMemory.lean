import Mathlib.Order.Bounds.Basic
import TitanEngine.Lib.FlatMemory

/-! Memories of which only some cells are available, the longest available run from an
address on, and copies of a run in a flat memory. Addresses wrap around. -/
namespace PartialMemory

abbrev Memory (w : ℕ) (β : Type) := BitVec w → Option β

variable {v w : ℕ} {β : Type} {m : Memory w β} {a : BitVec w} {k n : ℕ}

/-- The `n` cells from `a` on are all available. -/
def Available (m : Memory w β) (a : BitVec w) (n : ℕ) : Prop :=
  ∀ i < n, (m (a + BitVec.ofNat w i)).isSome = true

/-- The length of the longest available run from `a` on, if it is less than `n`. -/
def extent (m : Memory w β) : BitVec w → ℕ → ℕ
  | _, 0 => 0
  | a, n + 1 => if (m a).isSome then extent m (a + 1) n + 1 else 0

theorem Available.mono (h : Available m a n) (hle : k ≤ n) : Available m a k :=
  fun i hi => h i (lt_of_lt_of_le hi hle)

theorem add_ofNat_add_ofNat (a : BitVec w) (i j : ℕ) :
    a + BitVec.ofNat w i + BitVec.ofNat w j = a + BitVec.ofNat w (i + j) := by
  rw [BitVec.ofNat_add, BitVec.add_assoc]

theorem available_succ_iff :
    Available m a (n + 1) ↔ (m a).isSome = true ∧ Available m (a + 1) n := by
  have hshift : ∀ i, a + BitVec.ofNat w (i + 1) = a + 1 + BitVec.ofNat w i := by
    intro i
    rw [Nat.add_comm, ← add_ofNat_add_ofNat]
    rfl
  constructor
  · intro h
    refine ⟨by simpa using h 0 (by omega), fun i hi => ?_⟩
    rw [← hshift]
    exact h (i + 1) (by omega)
  · intro h i hi
    cases i with
    | zero => simpa using h.1
    | succ i =>
      rw [hshift]
      exact h.2 i (by omega)

/-- A run is the longest one iff it cannot go on. -/
theorem isGreatest_iff :
    IsGreatest {k | k ≤ n ∧ Available m a k} k ↔
      k ≤ n ∧ Available m a k ∧ (k < n → m (a + BitVec.ofNat w k) = none) := by
  constructor
  · intro h
    refine ⟨h.1.1, h.1.2, fun hlt => ?_⟩
    by_contra hsome
    have hmore : Available m a (k + 1) := by
      intro i hi
      rcases Nat.lt_succ_iff_lt_or_eq.mp hi with hi | rfl
      · exact h.1.2 i hi
      · exact Option.isSome_iff_ne_none.mpr hsome
    have := h.2 ⟨hlt, hmore⟩
    omega
  · intro ⟨hle, havailable, hend⟩
    refine ⟨⟨hle, havailable⟩, fun j hj => ?_⟩
    by_contra hgt
    have hcell := hj.2 k (by omega)
    have := hj.1
    rw [hend (by omega)] at hcell
    cases hcell

theorem isGreatest_extent : IsGreatest {k | k ≤ n ∧ Available m a k} (extent m a n) := by
  induction n generalizing a with
  | zero => exact ⟨⟨le_rfl, fun i hi => absurd hi (Nat.not_lt_zero i)⟩, fun k hk => hk.1⟩
  | succ n ih =>
    unfold extent
    split
    · rename_i hcell
      refine ⟨⟨Nat.succ_le_succ ih.1.1, available_succ_iff.mpr ⟨hcell, ih.1.2⟩⟩, fun k hk => ?_⟩
      cases k with
      | zero => exact Nat.zero_le _
      | succ k =>
        have hle : k ≤ extent m (a + 1) n :=
          ih.2 ⟨Nat.le_of_succ_le_succ hk.1, (available_succ_iff.mp hk.2).2⟩
        omega
    · rename_i hcell
      refine ⟨⟨Nat.zero_le _, fun i hi => absurd hi (Nat.not_lt_zero i)⟩, fun k hk => ?_⟩
      cases k with
      | zero => exact le_rfl
      | succ k => exact absurd (available_succ_iff.mp hk.2).1 hcell

/-- The `n` cells of `target` from `b` on are those of `m` from `a` on. -/
def Copied (m : Memory w β) (a : BitVec w) (target : FlatMemory.Memory v β) (b : BitVec v) (n : ℕ) :
    Prop :=
  ∀ i < n, m (a + BitVec.ofNat w i) = some (target (b + BitVec.ofNat v i))

section Copied
variable {target target' : FlatMemory.Memory v β} {b : BitVec v}

theorem Copied.available (h : Copied m a target b n) : Available m a n :=
  fun i hi => by rw [h i hi, Option.isSome_some]

/-- Two copies of one run are equal. -/
theorem Copied.eq (h : Copied m a target b n) (h' : Copied m a target' b n) {i : ℕ} (hi : i < n) :
    target (b + BitVec.ofNat v i) = target' (b + BitVec.ofNat v i) :=
  Option.some.inj ((h i hi).symm.trans (h' i hi))

/-- A copy goes on with a copy of what follows. -/
theorem Copied.append (h : Copied m a target b k)
    (hnext : Copied m (a + BitVec.ofNat w k) target (b + BitVec.ofNat v k) n) :
    Copied m a target b (k + n) := by
  intro i hi
  rcases Nat.lt_or_ge i k with hlt | hge
  · exact h i hlt
  · have hi' := hnext (i - k) (by omega)
    rw [add_ofNat_add_ofNat, add_ofNat_add_ofNat, Nat.add_sub_cancel' hge] at hi'
    exact hi'

end Copied

end PartialMemory

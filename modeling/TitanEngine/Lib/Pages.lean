import Mathlib.Data.BitVec
import Mathlib.Data.List.Nodup
import Mathlib.Data.List.Range

/-! Pages of a power of two in a machine address space, and the loop that visits the pages
of a range by stepping from the first one until it meets the last. -/
namespace Pages

variable {w k : ℕ}

/-- The page of an address: its offset bits are cleared. -/
def floor (size a : BitVec w) : BitVec w := a &&& ~~~(size - 1)

theorem toNat_twoPow_of_lt (hk : k < w) : (BitVec.twoPow w k).toNat = 2 ^ k := by
  rw [BitVec.toNat_twoPow, Nat.mod_eq_of_lt (Nat.pow_lt_pow_right (by decide) hk)]

theorem toNat_twoPow_sub_one (hk : k < w) : (BitVec.twoPow w k - 1).toNat = 2 ^ k - 1 := by
  have hw : 1 < 2 ^ w := Nat.one_lt_two_pow (by omega)
  have hone : (1#w).toNat = 1 := by rw [BitVec.toNat_ofNat, Nat.mod_eq_of_lt hw]
  have hle : 1#w ≤ BitVec.twoPow w k := by
    rw [BitVec.le_def, hone, toNat_twoPow_of_lt hk]
    exact Nat.one_le_two_pow
  show (BitVec.twoPow w k - 1#w).toNat = _
  rw [BitVec.toNat_sub_of_le hle, toNat_twoPow_of_lt hk, hone]

/-- Clearing the offset bits shifts them out and back in as zeros. -/
theorem floor_eq_shift (hk : k < w) (a : BitVec w) :
    floor (BitVec.twoPow w k) a = (a >>> k) <<< k := by
  ext i hi
  have hbit : (BitVec.twoPow w k - 1).getLsbD i = decide (i < k) := by
    rw [BitVec.getLsbD, toNat_twoPow_sub_one hk, Nat.testBit_two_pow_sub_one]
  unfold floor
  rw [BitVec.getElem_and, BitVec.getElem_not, ← BitVec.getLsbD_eq_getElem hi,
    ← BitVec.getLsbD_eq_getElem hi, hbit, BitVec.getElem_shiftLeft]
  by_cases hik : i < k
  · simp [hik]
  · simp [hik, Nat.add_sub_cancel' (Nat.le_of_not_lt hik)]

theorem toNat_floor (hk : k < w) (a : BitVec w) :
    (floor (BitVec.twoPow w k) a).toNat = a.toNat / 2 ^ k * 2 ^ k := by
  have hle : a.toNat / 2 ^ k * 2 ^ k ≤ a.toNat := Nat.div_mul_le_self ..
  rw [floor_eq_shift hk, BitVec.toNat_shiftLeft, BitVec.toNat_ushiftRight, Nat.shiftRight_eq_div_pow,
    Nat.shiftLeft_eq, Nat.mod_eq_of_lt (hle.trans_lt a.isLt)]

/-- The loop over pages: `page`, then on by `size` until `last` has been visited. -/
def walk (size last : BitVec w) : ℕ → BitVec w → List (BitVec w)
  | 0, _ => []
  | fuel + 1, page => page :: if page = last then [] else walk size last fuel (page + size)

/-- The loop ends when it has met the last page, whatever fuel is left. -/
theorem walk_eq {size last page : BitVec w} {n fuel : ℕ} (hsize : 0 < size.toNat)
    (hlast : page.toNat + n * size.toNat = last.toNat) (hfuel : n < fuel) :
    walk size last fuel page =
      (List.range (n + 1)).map fun i => BitVec.ofNat w (page.toNat + i * size.toNat) := by
  induction n generalizing page fuel with
  | zero =>
    obtain ⟨fuel, rfl⟩ : ∃ m, fuel = m + 1 := ⟨fuel - 1, by omega⟩
    have hmet : page = last := BitVec.eq_of_toNat_eq (by omega)
    simp [walk, hmet]
  | succ n ih =>
    obtain ⟨fuel, rfl⟩ : ∃ m, fuel = m + 1 := ⟨fuel - 1, by omega⟩
    have hexpand : (n + 1) * size.toNat = n * size.toNat + size.toNat := Nat.succ_mul ..
    have hbound := last.isLt
    have hne : page ≠ last := by
      rintro rfl
      omega
    have hnext : (page + size).toNat = page.toNat + size.toNat := by
      rw [BitVec.toNat_add, Nat.mod_eq_of_lt (by omega)]
    have hrest := @ih (page + size) fuel (by omega) (by omega)
    have hsplit : List.range (n + 1 + 1) = 0 :: (List.range (n + 1)).map Nat.succ :=
      List.range_succ_eq_map
    rw [walk, if_neg hne, hrest, hnext, hsplit, List.map_cons, List.map_map]
    congr 1
    · simp
    · apply List.map_congr_left
      intro i _
      simp only [Function.comp_apply, Nat.succ_eq_add_one, Nat.succ_mul]
      congr 1
      omega

section Range
variable {a b : BitVec w}

/-- How many pages lie beyond the first one of a range. -/
theorem floor_add_mul (hk : k < w) (hab : a ≤ b) :
    (floor (BitVec.twoPow w k) a).toNat + (b.toNat / 2 ^ k - a.toNat / 2 ^ k) * 2 ^ k =
      (floor (BitVec.twoPow w k) b).toNat := by
  have hle : a.toNat / 2 ^ k ≤ b.toNat / 2 ^ k := Nat.div_le_div_right hab
  rw [toNat_floor hk, toNat_floor hk, ← Nat.add_mul]
  congr 1
  omega

theorem walk_range (hk : k < w) (hab : a ≤ b) {fuel : ℕ}
    (hfuel : b.toNat / 2 ^ k - a.toNat / 2 ^ k < fuel) :
    walk (BitVec.twoPow w k) (floor (BitVec.twoPow w k) b) fuel (floor (BitVec.twoPow w k) a) =
      (List.range (b.toNat / 2 ^ k - a.toNat / 2 ^ k + 1)).map fun i =>
        BitVec.ofNat w ((floor (BitVec.twoPow w k) a).toNat + i * 2 ^ k) := by
  have hsize := toNat_twoPow_of_lt hk
  have hwalk : walk (BitVec.twoPow w k) (floor (BitVec.twoPow w k) b) fuel
      (floor (BitVec.twoPow w k) a) = _ := walk_eq (n := b.toNat / 2 ^ k - a.toNat / 2 ^ k)
    (by rw [hsize]; exact Nat.two_pow_pos k) (by rw [hsize]; exact floor_add_mul hk hab) hfuel
  rw [hwalk, hsize]

theorem floor_eq_iff (hk : k < w) {x page : BitVec w} :
    floor (BitVec.twoPow w k) x = page ↔ x.toNat / 2 ^ k * 2 ^ k = page.toNat := by
  rw [← BitVec.toNat_inj, toNat_floor hk]

/-- The loop visits just the pages of the addresses from `a` to `b`. -/
theorem mem_walk (hk : k < w) (hab : a ≤ b) {fuel : ℕ}
    (hfuel : b.toNat / 2 ^ k - a.toNat / 2 ^ k < fuel) {page : BitVec w} :
    page ∈ walk (BitVec.twoPow w k) (floor (BitVec.twoPow w k) b) fuel (floor (BitVec.twoPow w k) a) ↔
      ∃ x, a ≤ x ∧ x ≤ b ∧ floor (BitVec.twoPow w k) x = page := by
  have hpos : 0 < 2 ^ k := Nat.two_pow_pos k
  have hbound := b.isLt
  have hle : a.toNat / 2 ^ k ≤ b.toNat / 2 ^ k := Nat.div_le_div_right hab
  rw [walk_range hk hab hfuel, List.mem_map, toNat_floor hk]
  constructor
  · rintro ⟨i, hi, rfl⟩
    rw [List.mem_range] at hi
    have hin : (a.toNat / 2 ^ k + i) * 2 ^ k ≤ b.toNat :=
      (Nat.mul_le_mul_right _ (by omega)).trans (Nat.div_mul_le_self b.toNat (2 ^ k))
    rw [← Nat.add_mul]
    -- The first page may begin before the range, every other one begins in it.
    rcases Nat.eq_zero_or_pos i with rfl | hpositive
    · refine ⟨a, BitVec.le_refl a, hab, (floor_eq_iff hk).mpr ?_⟩
      rw [BitVec.toNat_ofNat, Nat.add_zero, Nat.mod_eq_of_lt (by rw [Nat.add_zero] at hin; omega)]
    · have hx : (BitVec.ofNat w ((a.toNat / 2 ^ k + i) * 2 ^ k)).toNat =
          (a.toNat / 2 ^ k + i) * 2 ^ k := by
        rw [BitVec.toNat_ofNat, Nat.mod_eq_of_lt (by omega)]
      refine ⟨BitVec.ofNat w ((a.toNat / 2 ^ k + i) * 2 ^ k), ?_, ?_, (floor_eq_iff hk).mpr ?_⟩
      · rw [BitVec.le_def, hx]
        have hafter : (a.toNat / 2 ^ k + 1) * 2 ^ k ≤ (a.toNat / 2 ^ k + i) * 2 ^ k :=
          Nat.mul_le_mul_right _ (by omega)
        have hlt : a.toNat < (a.toNat / 2 ^ k + 1) * 2 ^ k := Nat.lt_mul_of_div_lt (Nat.lt_succ_self _) hpos
        omega
      · rw [BitVec.le_def, hx]
        exact hin
      · rw [hx, Nat.mul_div_cancel _ hpos]
  · rintro ⟨x, hax, hxb, hpage⟩
    have hlow : a.toNat / 2 ^ k ≤ x.toNat / 2 ^ k := Nat.div_le_div_right hax
    have hhigh : x.toNat / 2 ^ k ≤ b.toNat / 2 ^ k := Nat.div_le_div_right hxb
    refine ⟨x.toNat / 2 ^ k - a.toNat / 2 ^ k, List.mem_range.mpr (by omega), ?_⟩
    rw [← Nat.add_mul, Nat.add_sub_cancel' hlow, (floor_eq_iff hk).mp hpage, BitVec.ofNat_toNat,
      BitVec.setWidth_eq]

/-- The loop visits no page twice. -/
theorem nodup_walk (hk : k < w) (hab : a ≤ b) {fuel : ℕ}
    (hfuel : b.toNat / 2 ^ k - a.toNat / 2 ^ k < fuel) :
    (walk (BitVec.twoPow w k) (floor (BitVec.twoPow w k) b) fuel
      (floor (BitVec.twoPow w k) a)).Nodup := by
  have hpos : 0 < 2 ^ k := Nat.two_pow_pos k
  have hbound := b.isLt
  have hle : a.toNat / 2 ^ k ≤ b.toNat / 2 ^ k := Nat.div_le_div_right hab
  rw [walk_range hk hab hfuel, toNat_floor hk]
  refine List.Nodup.map_on ?_ List.nodup_range
  intro i hi j hj hij
  rw [List.mem_range] at hi hj
  have hbelow : ∀ i, i < b.toNat / 2 ^ k - a.toNat / 2 ^ k + 1 →
      (a.toNat / 2 ^ k + i) * 2 ^ k < 2 ^ w := by
    intro i hi
    exact ((Nat.mul_le_mul_right _ (by omega)).trans
      (Nat.div_mul_le_self b.toNat (2 ^ k))).trans_lt hbound
  have hvalue := congrArg BitVec.toNat hij
  rw [← Nat.add_mul, ← Nat.add_mul, BitVec.toNat_ofNat, BitVec.toNat_ofNat,
    Nat.mod_eq_of_lt (hbelow i hi), Nat.mod_eq_of_lt (hbelow j hj)] at hvalue
  have heq := Nat.eq_of_mul_eq_mul_right hpos hvalue
  omega

end Range

end Pages

import Mathlib.Data.BitVec

/-! Flat memories over a fixed-width address space: reading and writing runs of
cells, with wrap-around at the top of the space. -/
namespace FlatMemory

abbrev Memory (w : ℕ) (β : Type) := BitVec w → β

variable {w : ℕ} {β : Type}

/-- The cells `a, a + 1, …, a + n - 1`, modulo the size of the space. -/
def InRange (a : BitVec w) (n : ℕ) (x : BitVec w) : Prop := (x - a).toNat < n

instance (a : BitVec w) (n : ℕ) (x : BitVec w) : Decidable (InRange a n x) :=
  inferInstanceAs (Decidable (_ < _))

theorem inRange_one_iff {a x : BitVec w} : InRange a 1 x ↔ x = a := by
  unfold InRange
  rw [Nat.lt_one_iff, ← BitVec.toNat_zero (w := w), BitVec.toNat_inj, BitVec.sub_eq_iff_eq_add,
    BitVec.zero_add]

def Memory.read (m : Memory w β) (a : BitVec w) (n : ℕ) : List β :=
  (List.range n).map fun i => m (a + BitVec.ofNat w i)

/-- The cell `x` of the run `bs` that starts at `a`, if `x` is on it. -/
def cell (a : BitVec w) (bs : List β) (x : BitVec w) : Option β := bs[(x - a).toNat]?

def Memory.write (m : Memory w β) (a : BitVec w) (bs : List β) : Memory w β :=
  fun x => (cell a bs x).getD (m x)

theorem add_ofNat_sub_toNat (a : BitVec w) {i : ℕ} (hi : i < 2 ^ w) :
    (a + BitVec.ofNat w i - a).toNat = i := by
  rw [BitVec.add_comm, BitVec.add_sub_cancel, BitVec.toNat_ofNat, Nat.mod_eq_of_lt hi]

theorem add_ofNat_sub (a x : BitVec w) : a + BitVec.ofNat w (x - a).toNat = x := by
  rw [BitVec.ofNat_toNat, BitVec.setWidth_eq, BitVec.add_comm, BitVec.sub_add_cancel]

theorem inRange_add_ofNat (a : BitVec w) {n i : ℕ} (hi : i < n) (hn : n ≤ 2 ^ w) :
    InRange a n (a + BitVec.ofNat w i) := by
  unfold InRange
  rwa [add_ofNat_sub_toNat a (by omega)]

/-- Below the top of the space a run is an interval. -/
theorem inRange_iff {a x : BitVec w} {n : ℕ} (h : a.toNat + n ≤ 2 ^ w) :
    InRange a n x ↔ a.toNat ≤ x.toNat ∧ x.toNat < a.toNat + n := by
  have ha := a.isLt
  have hx := x.isLt
  unfold InRange
  rw [BitVec.toNat_sub]
  rcases le_or_gt a.toNat x.toNat with hle | hgt
  · have he : 2 ^ w - a.toNat + x.toNat = (x.toNat - a.toNat) + 2 ^ w := by omega
    rw [he, Nat.add_mod_right, Nat.mod_eq_of_lt (by omega)]
    omega
  · rw [Nat.mod_eq_of_lt (by omega)]
    omega

/-- A run that starts `k` cells after `a`. -/
theorem inRange_offset_iff {a x : BitVec w} {k n : ℕ} (h : k + n ≤ 2 ^ w) :
    InRange (a + BitVec.ofNat w k) n x ↔ k ≤ (x - a).toNat ∧ (x - a).toNat < k + n := by
  rcases Nat.eq_zero_or_pos n with rfl | hn
  · unfold InRange
    omega
  · have hk : (BitVec.ofNat w k).toNat = k := by
      rw [BitVec.toNat_ofNat, Nat.mod_eq_of_lt (by omega)]
    have hsub : x - (a + BitVec.ofNat w k) = x - a - BitVec.ofNat w k := (BitVec.sub_sub x a _).symm
    have hx := (x - a).isLt
    unfold InRange
    rw [hsub, BitVec.toNat_sub, hk]
    rcases Nat.lt_or_ge (x - a).toNat k with hlt | hge
    · rw [Nat.mod_eq_of_lt (by omega)]
      omega
    · have he : 2 ^ w - k + (x - a).toNat = ((x - a).toNat - k) + 2 ^ w := by omega
      rw [he, Nat.add_mod_right, Nat.mod_eq_of_lt (by omega)]
      omega

@[simp] theorem length_read (m : Memory w β) (a : BitVec w) (n : ℕ) : (m.read a n).length = n := by
  simp [Memory.read]

theorem getElem?_read (m : Memory w β) (a : BitVec w) {n i : ℕ} (hi : i < n) :
    (m.read a n)[i]? = some (m (a + BitVec.ofNat w i)) := by
  simp [Memory.read, hi]

theorem cell_eq_none_iff {a x : BitVec w} {bs : List β} : cell a bs x = none ↔ ¬ InRange a bs.length x := by
  unfold cell InRange
  rw [List.getElem?_eq_none_iff]
  omega

theorem isSome_cell_iff {a x : BitVec w} {bs : List β} :
    (cell a bs x).isSome ↔ InRange a bs.length x := by
  rw [Option.isSome_iff_ne_none, Ne, cell_eq_none_iff, not_not]

theorem inRange_of_cell {a x : BitVec w} {bs : List β} {b : β} (h : cell a bs x = some b) :
    InRange a bs.length x := isSome_cell_iff.mp (by rw [h]; rfl)

theorem cell_read (m : Memory w β) {a x : BitVec w} {n : ℕ} (hx : InRange a n x) :
    cell a (m.read a n) x = some (m x) := by
  unfold cell
  rw [getElem?_read m a hx, add_ofNat_sub]

@[simp] theorem write_nil (m : Memory w β) (a : BitVec w) : m.write a [] = m := rfl

theorem write_of_cell (m : Memory w β) {a x : BitVec w} {bs : List β} {b : β}
    (h : cell a bs x = some b) : m.write a bs x = b := by
  rw [Memory.write, h, Option.getD_some]

theorem write_of_not_inRange (m : Memory w β) {a x : BitVec w} {bs : List β}
    (h : ¬ InRange a bs.length x) : m.write a bs x = m x := by
  rw [Memory.write, cell_eq_none_iff.mpr h, Option.getD_none]

/-- Runs that follow one another can be written one by one. -/
theorem write_append (m : Memory w β) (a : BitVec w) {xs ys : List β}
    (h : xs.length + ys.length ≤ 2 ^ w) :
    (m.write a xs).write (a + BitVec.ofNat w xs.length) ys = m.write a (xs ++ ys) := by
  funext x
  have hoffset : (x - (a + BitVec.ofNat w xs.length)).toNat =
      (2 ^ w - xs.length % 2 ^ w + (x - a).toNat) % 2 ^ w := by
    rw [← BitVec.sub_sub, BitVec.toNat_sub, BitVec.toNat_ofNat]
  have hx : (x - a).toNat < 2 ^ w := (x - a).isLt
  unfold Memory.write cell
  rw [hoffset]
  generalize (x - a).toNat = i at hx
  rcases Nat.lt_or_ge i xs.length with hi | hi
  · have hout : ys.length ≤ (2 ^ w - xs.length % 2 ^ w + i) % 2 ^ w := by
      rcases Nat.eq_or_lt_of_le (show xs.length ≤ 2 ^ w by omega) with heq | hlt
      · omega
      · rw [Nat.mod_eq_of_lt hlt, Nat.mod_eq_of_lt (by omega)]
        omega
    rw [List.getElem?_append_left hi, List.getElem?_eq_none hout]
    rfl
  · have hlt : xs.length < 2 ^ w := by omega
    have hin : (2 ^ w - xs.length % 2 ^ w + i) % 2 ^ w = i - xs.length := by
      rw [Nat.mod_eq_of_lt hlt, Nat.mod_eq_sub_mod (by omega), Nat.mod_eq_of_lt (by omega)]
      omega
    rw [List.getElem?_append_right hi, hin, List.getElem?_eq_none hi]
    cases ys[i - xs.length]? <;> rfl

/-- Two runs of one length are equal iff they are cell by cell. -/
theorem eq_iff_cell {a : BitVec w} {bs bs' : List β} (hl : bs.length = bs'.length)
    (hn : bs.length ≤ 2 ^ w) : bs = bs' ↔ ∀ x, InRange a bs.length x → cell a bs x = cell a bs' x := by
  constructor
  · rintro rfl x _
    rfl
  · intro h
    apply List.ext_getElem? fun i => ?_
    rcases Nat.lt_or_ge i bs.length with hi | hi
    · have hx := h _ (inRange_add_ofNat a hi hn)
      simpa only [cell, add_ofNat_sub_toNat a (show i < 2 ^ w by omega)] using hx
    · rw [List.getElem?_eq_none hi, List.getElem?_eq_none (hl ▸ hi)]

/-- A list is what a run holds iff it does so cell by cell. -/
theorem read_eq_list_iff (m : Memory w β) (a : BitVec w) {bs : List β} (hn : bs.length ≤ 2 ^ w) :
    m.read a bs.length = bs ↔ ∀ x b, cell a bs x = some b → m x = b := by
  have hl : (m.read a bs.length).length = bs.length := length_read m a _
  rw [eq_iff_cell (a := a) hl (by omega), hl]
  constructor
  · intro h x b hb
    have hx := inRange_of_cell hb
    have hm := h x hx
    rw [cell_read m hx, hb] at hm
    exact Option.some.inj hm
  · intro h x hx
    obtain ⟨b, hb⟩ := Option.isSome_iff_exists.mp (isSome_cell_iff.mpr hx)
    rw [cell_read m hx, hb, h x b hb]

/-- Part of a list in place of as many elements of another one. -/
theorem getElem?_splice {l bs : List β} {d source c : ℕ} (hd : d + c ≤ l.length)
    (hs : source + c ≤ bs.length) (i : ℕ) :
    (l.take d ++ (bs.drop source).take c ++ l.drop (d + c))[i]? =
      if d ≤ i ∧ i < d + c then bs[source + (i - d)]? else l[i]? := by
  have htake : (l.take d).length = d := by
    rw [List.length_take]
    omega
  have hmiddle : ((bs.drop source).take c).length = c := by
    rw [List.length_take, List.length_drop]
    omega
  have hprefix : (l.take d ++ (bs.drop source).take c).length = d + c := by
    rw [List.length_append, htake, hmiddle]
  rcases Nat.lt_or_ge i (d + c) with hi | hi
  · rw [List.getElem?_append_left (by omega)]
    rcases Nat.lt_or_ge i d with hid | hid
    · rw [List.getElem?_append_left (by omega), List.getElem?_take_of_lt hid, if_neg (by omega)]
    · rw [List.getElem?_append_right (by omega), htake, List.getElem?_take_of_lt (by omega),
        List.getElem?_drop, if_pos ⟨hid, hi⟩]
  · rw [List.getElem?_append_right (by omega), hprefix, List.getElem?_drop, if_neg (by omega)]
    congr 1
    omega

theorem length_splice {l bs : List β} {d source c : ℕ} (hd : d + c ≤ l.length)
    (hs : source + c ≤ bs.length) :
    (l.take d ++ (bs.drop source).take c ++ l.drop (d + c)).length = l.length := by
  simp only [List.length_append, List.length_take, List.length_drop]
  omega

end FlatMemory

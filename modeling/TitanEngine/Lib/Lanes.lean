import Mathlib.Data.BitVec
import Mathlib.Data.Nat.Bitwise
import Mathlib.Tactic

/-! Registers over one file of bits. Two registers may cover the same cells. -/
namespace Lanes

/-- The first `n` bits as a number. -/
def word (n : ℕ) (bits : ℕ → Bool) : BitVec n := BitVec.ofNat n (Nat.ofBits fun k : Fin n => bits k)

theorem getLsbD_word (n : ℕ) (bits : ℕ → Bool) (k : ℕ) :
    (word n bits).getLsbD k = (decide (k < n) && bits k) := by
  rw [word, BitVec.getLsbD_ofNat, Nat.testBit_ofBits]
  by_cases hk : k < n
  · simp [hk]
  · simp [hk]

theorem word_congr {n : ℕ} {bits bits' : ℕ → Bool} (h : ∀ k < n, bits k = bits' k) :
    word n bits = word n bits' := by
  apply BitVec.eq_of_getLsbD_eq
  intro k hk
  rw [getLsbD_word, getLsbD_word, h k hk]

theorem word_getLsbD {n : ℕ} (v : BitVec n) : word n v.getLsbD = v := by
  apply BitVec.eq_of_getLsbD_eq
  intro k hk
  rw [getLsbD_word, decide_eq_true hk, Bool.true_and]

/-- A register of `width` bits, the bit `k` of which is kept in `cell k`. -/
structure Lane (Cell : Type*) where
  width : ℕ
  cell : ℕ → Cell
  index : Cell → Option ℕ
  index_eq_some {c : Cell} {k : ℕ} : index c = some k ↔ k < width ∧ cell k = c

namespace Lane
variable {Cell : Type*} {l l' : Lane Cell} {f g : Cell → Bool} {v w : ℕ → Bool} {c : Cell} {k : ℕ}

def get (l : Lane Cell) (f : Cell → Bool) (k : ℕ) : Bool := decide (k < l.width) && f (l.cell k)

/-- The bits from `width` on are not stored. -/
def put (l : Lane Cell) (v : ℕ → Bool) (f : Cell → Bool) (c : Cell) : Bool :=
  match l.index c with
  | some k => v k
  | none => f c

/-- No cell is covered by both. -/
def Apart (l l' : Lane Cell) : Prop := ∀ c, l.index c = none ∨ l'.index c = none

theorem Apart.symm (h : l.Apart l') : l'.Apart l := fun c => (h c).symm

theorem index_cell (hk : k < l.width) : l.index (l.cell k) = some k := l.index_eq_some.2 ⟨hk, rfl⟩

theorem Apart.index_eq_none (h : l.Apart l') (hk : l.index c = some k) : l'.index c = none := by
  rcases h c with hl | hl'
  · rw [hk] at hl
    cases hl
  · exact hl'

theorem Apart.index_cell (h : l.Apart l') (hk : k < l.width) : l'.index (l.cell k) = none :=
  h.index_eq_none (Lane.index_cell hk)

theorem put_of_some (h : l.index c = some k) : l.put v f c = v k := by simp [put, h]

theorem put_of_none (h : l.index c = none) : l.put v f c = f c := by simp [put, h]

@[simp] theorem put_cell (hk : k < l.width) : l.put v f (l.cell k) = v k := put_of_some (index_cell hk)

theorem get_of_lt (hk : k < l.width) : l.get f k = f (l.cell k) := by simp [get, hk]

theorem get_of_le (hk : l.width ≤ k) : l.get f k = false := by simp [get, hk]

theorem get_put : l.get (l.put v f) k = (decide (k < l.width) && v k) := by
  by_cases hk : k < l.width
  · simp [get, hk]
  · simp [get, hk]

theorem get_put_of_apart (h : l.Apart l') : l.get (l'.put v f) = l.get f := by
  funext k
  by_cases hk : k < l.width
  · rw [get_of_lt hk, get_of_lt hk, put_of_none (h.index_cell hk)]
  · rw [get_of_le (by omega), get_of_le (by omega)]

theorem put_put : l.put v (l.put w f) = l.put v f := by
  funext c
  cases h : l.index c with
  | some k => rw [put_of_some h, put_of_some h]
  | none => rw [put_of_none h, put_of_none h, put_of_none h]

theorem put_comm (h : l.Apart l') : l.put v (l'.put w f) = l'.put w (l.put v f) := by
  funext c
  rcases h c with hl | hl'
  · cases hl' : l'.index c with
    | some k => rw [put_of_none hl, put_of_some hl', put_of_some hl']
    | none => rw [put_of_none hl, put_of_none hl', put_of_none hl', put_of_none hl]
  · cases hl : l.index c with
    | some k => rw [put_of_some hl, put_of_none hl', put_of_some hl]
    | none => rw [put_of_none hl, put_of_none hl', put_of_none hl', put_of_none hl]

/-- Storing changes nothing exactly where the register holds the value already. -/
theorem put_eq_self_iff : l.put v f = f ↔ ∀ k < l.width, v k = l.get f k := by
  constructor
  · intro h k hk
    rw [get_of_lt hk, ← congrFun h (l.cell k), put_cell hk]
  · intro h
    funext c
    cases hc : l.index c with
    | some k =>
      obtain ⟨hk, rfl⟩ := l.index_eq_some.1 hc
      rw [put_of_some hc, h k hk, get_of_lt hk]
    | none => exact put_of_none hc

@[simp] theorem put_get : l.put (l.get f) f = f := put_eq_self_iff.2 fun _ _ => rfl

/-- The register in the `width` cells from `start` on. -/
def segment (start width : ℕ) : Lane ℕ where
  width := width
  cell k := start + k
  index c := if start ≤ c ∧ c < start + width then some (c - start) else none
  index_eq_some := by
    intro c k
    split_ifs with h
    · rw [Option.some.injEq]
      omega
    · simp only [false_iff]
      omega

theorem segment_apart {start width start' width' : ℕ} (h : start + width ≤ start') :
    (segment start width).Apart (segment start' width') := by
  intro c
  by_cases hc : c < start'
  · exact .inr (if_neg (by omega))
  · exact .inl (if_neg (by omega))

end Lane

section StoreAll
variable {Cell ι : Type*} {lane : ι → Lane Cell} {value value' : ι → ℕ → Bool} {is : List ι}
  {f : Cell → Bool} {l : Lane Cell} {v : ℕ → Bool} {i : ι}

/-- The registers of the list are stored one after the other. -/
def storeAll (lane : ι → Lane Cell) (value : ι → ℕ → Bool) (is : List ι) (f : Cell → Bool) :
    Cell → Bool :=
  is.foldl (fun f i => (lane i).put (value i) f) f

@[simp] theorem storeAll_nil : storeAll lane value [] f = f := rfl

@[simp] theorem storeAll_cons :
    storeAll lane value (i :: is) f = storeAll lane value is ((lane i).put (value i) f) := rfl

theorem storeAll_append (js : List ι) :
    storeAll lane value (is ++ js) f = storeAll lane value js (storeAll lane value is f) :=
  List.foldl_append

/-- Values that the registers hold already change nothing. -/
theorem storeAll_eq_self (h : ∀ i ∈ is, ∀ k < (lane i).width, value i k = (lane i).get f k) :
    storeAll lane value is f = f := by
  induction is with
  | nil => rfl
  | cons i is ih =>
    rw [storeAll_cons, Lane.put_eq_self_iff.2 (h i List.mem_cons_self)]
    exact ih fun j hj => h j (List.mem_cons_of_mem i hj)

theorem storeAll_of_index_none {c : Cell} (h : ∀ i ∈ is, (lane i).index c = none) :
    storeAll lane value is f c = f c := by
  induction is generalizing f with
  | nil => rfl
  | cons i is ih =>
    rw [storeAll_cons, ih fun j hj => h j (List.mem_cons_of_mem i hj),
      Lane.put_of_none (h i List.mem_cons_self)]

theorem get_storeAll_of_apart (h : ∀ i ∈ is, l.Apart (lane i)) :
    l.get (storeAll lane value is f) = l.get f := by
  induction is generalizing f with
  | nil => rfl
  | cons i is ih =>
    rw [storeAll_cons, ih fun j hj => h j (List.mem_cons_of_mem i hj),
      Lane.get_put_of_apart (h i List.mem_cons_self)]

/-- A register that is apart from the others of the list keeps the value stored in it. -/
theorem get_storeAll [DecidableEq ι] (hi : i ∈ is)
    (h : ∀ j ∈ is, j ≠ i → (lane i).Apart (lane j)) (k : ℕ) :
    (lane i).get (storeAll lane value is f) k = (decide (k < (lane i).width) && value i k) := by
  induction is generalizing f with
  | nil => cases hi
  | cons j is ih =>
    have htail : ∀ j ∈ is, j ≠ i → (lane i).Apart (lane j) :=
      fun j' hj' => h j' (List.mem_cons_of_mem j hj')
    rw [storeAll_cons]
    by_cases hmem : i ∈ is
    · exact ih hmem htail
    · obtain rfl : i = j := (List.mem_cons.1 hi).resolve_right hmem
      rw [get_storeAll_of_apart fun j' hj' => htail j' hj' fun he => hmem (he ▸ hj'), Lane.get_put]

end StoreAll

section Marked
variable {Cell : Type*} {lane : ℕ → Lane Cell} {value : ℕ → ℕ → Bool} {marked : ℕ → Bool}
  {f : Cell → Bool} {n i : ℕ} {v : ℕ → Bool}

/-- Storing the marked registers in the order of their numbers. -/
def storeMarked (lane : ℕ → Lane Cell) (value : ℕ → ℕ → Bool) (marked : ℕ → Bool) (n : ℕ)
    (f : Cell → Bool) : Cell → Bool :=
  storeAll lane value ((List.range n).filter marked) f

theorem storeMarked_succ : storeMarked lane value marked (n + 1) f =
    if marked n then (lane n).put (value n) (storeMarked lane value marked n f)
    else storeMarked lane value marked n f := by
  rw [storeMarked, List.range_succ, List.filter_append, storeAll_append]
  cases h : marked n with
  | true => simp [h, storeMarked]
  | false => simp [h, storeMarked]

theorem storeMarked_congr {value' : ℕ → ℕ → Bool} {marked' : ℕ → Bool}
    (hmarked : ∀ j < n, marked j = marked' j)
    (hvalue : ∀ j < n, marked j = true → value j = value' j) :
    storeMarked lane value marked n f = storeMarked lane value' marked' n f := by
  induction n with
  | zero => rfl
  | succ n ih =>
    have hn := ih (fun j hj => hmarked j (by omega)) fun j hj => hvalue j (by omega)
    rw [storeMarked_succ, storeMarked_succ, hn, ← hmarked n (by omega)]
    split_ifs with h
    · rw [hvalue n (by omega) h]
    · rfl

theorem storeMarked_of_none (h : ∀ j < n, marked j = false) :
    storeMarked lane value marked n f = f := by
  induction n with
  | zero => rfl
  | succ n ih =>
    rw [storeMarked_succ, h n (by omega), ih fun j hj => h j (by omega)]
    rfl

/-- A cell holds what the last marked register that covers it stores. -/
theorem storeMarked_cases (c : Cell) :
    ((∀ j < n, marked j = true → (lane j).index c = none) ∧
        storeMarked lane value marked n f c = f c) ∨
      ∃ j < n, ∃ k, marked j = true ∧ (lane j).index c = some k ∧
        (∀ i < n, j < i → marked i = true → (lane i).index c = none) ∧
        storeMarked lane value marked n f c = value j k := by
  induction n with
  | zero => exact .inl ⟨fun j hj => absurd hj (by omega), rfl⟩
  | succ n ih =>
    rw [storeMarked_succ]
    by_cases hn : marked n = true ∧ (lane n).index c ≠ none
    · obtain ⟨hmarked, hcovers⟩ := hn
      obtain ⟨k, hk⟩ := Option.ne_none_iff_exists'.1 hcovers
      refine .inr ⟨n, by omega, k, hmarked, hk, fun i hi hni => by omega, ?_⟩
      rw [if_pos hmarked, Lane.put_of_some hk]
    · have hlast : marked n = true → (lane n).index c = none := by
        intro hmarked
        by_contra hcovers
        exact hn ⟨hmarked, hcovers⟩
      have hkept : (if marked n then (lane n).put (value n) (storeMarked lane value marked n f)
          else storeMarked lane value marked n f) c = storeMarked lane value marked n f c := by
        split_ifs with hmarked
        · exact Lane.put_of_none (hlast hmarked)
        · rfl
      rw [hkept]
      rcases ih with ⟨hnone, hsame⟩ | ⟨j, hj, k, hmarked, hk, hlater, hvalue⟩
      · refine .inl ⟨fun j hj hmarked => ?_, hsame⟩
        rcases Nat.lt_succ_iff_lt_or_eq.1 hj with hj | rfl
        · exact hnone j hj hmarked
        · exact hlast hmarked
      · refine .inr ⟨j, by omega, k, hmarked, hk, fun i hi hji himarked => ?_, hvalue⟩
        rcases Nat.lt_succ_iff_lt_or_eq.1 hi with hi | rfl
        · exact hlater i hi hji himarked
        · exact hlast himarked

/-- A register stored along with those marked is as good as stored after them, unless one that
is stored after it covers one of its cells. -/
theorem storeMarked_update (hi : i < n)
    (h : ∀ j < n, i < j → marked j = true → (lane i).Apart (lane j)) :
    storeMarked lane (Function.update value i v) (Function.update marked i true) n f =
      (lane i).put v (storeMarked lane value marked n f) := by
  induction n with
  | zero => omega
  | succ n ih =>
    rw [storeMarked_succ, storeMarked_succ]
    by_cases hn : i = n
    · subst hn
      have hbelow : storeMarked lane (Function.update value i v) (Function.update marked i true) i f =
          storeMarked lane value marked i f := by
        apply storeMarked_congr
        · intro j hj
          rw [Function.update_of_ne (by omega)]
        · intro j hj _
          rw [Function.update_of_ne (by omega)]
      rw [Function.update_self, Function.update_self, if_pos rfl, hbelow]
      split_ifs with hmarked
      · rw [Lane.put_put]
      · rfl
    · have hin := ih (by omega) fun j hj => h j (by omega)
      rw [Function.update_of_ne (Ne.symm hn), Function.update_of_ne (Ne.symm hn), hin]
      split_ifs with hmarked
      · rw [Lane.put_comm (h n (by omega) (by omega) hmarked)]
      · rfl

end Marked

end Lanes

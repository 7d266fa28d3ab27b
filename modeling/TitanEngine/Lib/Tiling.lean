import Mathlib.Data.List.Nodup
import Mathlib.Data.List.Pairwise

/-! Tiles that follow one another from one number to another, and intervals that they are to keep
whole. An interval is the pair of its ends, the upper one outside. -/
namespace Tiling

def Apart (r r' : ℕ × ℕ) : Prop := r.2 ≤ r'.1 ∨ r'.2 ≤ r.1

instance : DecidableRel Apart := fun _ _ => inferInstanceAs (Decidable (_ ∨ _))

instance : Std.Symm Apart where
  symm _ _ := Or.symm

/-- The tile is one of the intervals, or it meets none of them. -/
def Respects (intervals : List (ℕ × ℕ)) (tile : ℕ × ℕ) : Prop :=
  tile ∈ intervals ∨ ∀ r ∈ intervals, Apart r tile

/-- The tiles lead from `a` to `b`, each where the one before it ends. -/
inductive Tiled : ℕ → List (ℕ × ℕ) → ℕ → Prop
  | nil {a : ℕ} : Tiled a [] a
  | cons {a b c : ℕ} {tiles : List (ℕ × ℕ)} (below : a < b) (rest : Tiled b tiles c) :
      Tiled a ((a, b) :: tiles) c

variable {a b x : ℕ} {tiles intervals : List (ℕ × ℕ)} {tile r : ℕ × ℕ}

theorem Tiled.le (h : Tiled a tiles b) : a ≤ b := by
  induction h with
  | nil => exact Nat.le_refl _
  | cons below rest ih => omega

theorem Tiled.bounds (h : Tiled a tiles b) (hmem : tile ∈ tiles) :
    a ≤ tile.1 ∧ tile.1 < tile.2 ∧ tile.2 ≤ b := by
  induction h with
  | nil => cases hmem
  | cons below rest ih =>
    have hle := rest.le
    rcases List.mem_cons.1 hmem with rfl | hmem
    · exact ⟨Nat.le_refl _, below, hle⟩
    · have hbounds := ih hmem
      omega

/-- No two tiles overlap. -/
theorem Tiled.pairwise (h : Tiled a tiles b) : tiles.Pairwise Apart := by
  induction h with
  | nil => exact .nil
  | cons below rest ih =>
    refine List.pairwise_cons.2 ⟨fun tile hmem => ?_, ih⟩
    have hbounds := rest.bounds hmem
    left
    omega

theorem Tiled.covers (h : Tiled a tiles b) (hax : a ≤ x) (hxb : x < b) :
    ∃ tile ∈ tiles, tile.1 ≤ x ∧ x < tile.2 := by
  induction h with
  | nil => omega
  | @cons a b c tiles below rest ih =>
    by_cases hfirst : x < b
    · exact ⟨(a, b), List.mem_cons_self, hax, hfirst⟩
    · obtain ⟨tile, hmem, hx⟩ := ih (by omega) hxb
      exact ⟨tile, List.mem_cons_of_mem _ hmem, hx⟩

theorem Tiled.nodup (h : Tiled a tiles b) : tiles.Nodup := by
  induction h with
  | nil => exact .nil
  | cons below rest ih =>
    refine List.nodup_cons.2 ⟨fun hmem => ?_, ih⟩
    have hbounds := rest.bounds hmem
    omega

/-- An interval that every tile keeps whole is a tile itself, just once. -/
theorem Tiled.count_eq_one (h : Tiled a tiles b) (hrespects : ∀ tile ∈ tiles, Respects intervals tile)
    (hapart : ∀ r ∈ intervals, ∀ r' ∈ intervals, r ≠ r' → Apart r r') (hmem : r ∈ intervals)
    (har : a ≤ r.1) (hr : r.1 < r.2) (hrb : r.2 ≤ b) : tiles.count r = 1 := by
  obtain ⟨tile, htile, hle, hlt⟩ := h.covers har (by omega)
  have hsame : tile = r := by
    rcases hrespects tile htile with hin | hout
    · by_contra hne
      have hends := hapart _ hin _ hmem hne
      unfold Apart at hends
      omega
    · have hends := hout r hmem
      unfold Apart at hends
      omega
  subst hsame
  exact List.count_eq_one_of_mem h.nodup htile

/-- Steps that go on, and not past the end, come to the end. -/
theorem exists_tiled {p : ℕ → Prop} {q : ℕ → ℕ → Prop}
    (hstep : ∀ a, a < b → p a → ∃ c, a < c ∧ c ≤ b ∧ p c ∧ q a c) (ha : p a) (hab : a ≤ b) :
    ∃ tiles, Tiled a tiles b ∧ ∀ tile ∈ tiles, q tile.1 tile.2 := by
  induction hn : b - a using Nat.strongRecOn generalizing a with
  | _ n ih =>
    by_cases hlt : a < b
    · obtain ⟨c, hac, hcb, hc, hq⟩ := hstep a hlt ha
      obtain ⟨tiles, htiled, hall⟩ := ih (b - c) (by omega) hc hcb rfl
      exact ⟨(a, c) :: tiles, .cons hac htiled, List.forall_mem_cons.2 ⟨hq, hall⟩⟩
    · obtain rfl : a = b := by omega
      exact ⟨[], .nil, fun tile hmem => by cases hmem⟩

end Tiling

import Mathlib.Data.Nat.ModEq
import Mathlib.Data.Set.Insert
import TitanEngine.Lib.Runs

/-! Names that a counter gives out and that come round after a period, among names from
elsewhere. A new name is fresh unless one given out whole periods before is still in use. -/
namespace Serials

variable {α : Type*} {name : ℕ → α} {period : ℕ}

/-- Two numbers have one name iff whole periods lie between them. -/
def Cyclic (name : ℕ → α) (period : ℕ) : Prop := ∀ i j, name i = name j ↔ i ≡ j [MOD period]

/-- How many names have been given out, and the names in use. -/
structure Book (α : Type*) where
  given : ℕ
  inUse : Set α

inductive Step (name : ℕ → α) : Book α → Book α → Prop
  | give (book : Book α) : Step name book ⟨book.given + 1, insert (name book.given) book.inUse⟩
  | drop {book : Book α} {left : Set α} (subset : left ⊆ book.inUse) :
      Step name book { book with inUse := left }
  | other {book : Book α} {x : α} (foreign : x ∉ Set.range name) :
      Step name book { book with inUse := insert x book.inUse }

/-- Every name in use is from elsewhere or has been given out. -/
def Known (name : ℕ → α) (book : Book α) : Prop :=
  ∀ x ∈ book.inUse, x ∈ Set.range name → ∃ k < book.given, name k = x

theorem known_empty : Known name ⟨0, ∅⟩ := fun _ hx => absurd hx (Set.notMem_empty _)

theorem preserves_known : Runs.Preserves (Step name) (Known name) := by
  intro book book' hstep h x hx hrange
  cases hstep with
  | give =>
    obtain rfl | hx := hx
    · exact ⟨book.given, Nat.lt_succ_self _, rfl⟩
    · obtain ⟨k, hk, hname⟩ := h x hx hrange
      exact ⟨k, Nat.lt_succ_of_lt hk, hname⟩
  | drop subset => exact h x (subset hx) hrange
  | other foreign =>
    obtain rfl | hx := hx
    · exact absurd hrange foreign
    · exact h x hx hrange

/-- The next name is fresh iff no name given out whole periods before is in use. -/
theorem Known.fresh_iff {book : Book α} (h : Known name book) (hname : Cyclic name period) :
    name book.given ∉ book.inUse ↔
      ∀ k < book.given, period ∣ book.given - k → name k ∉ book.inUse := by
  constructor
  · intro hfresh k hk hdvd
    have heq : name k = name book.given := (hname k _).mpr ((Nat.modEq_iff_dvd' hk.le).mpr hdvd)
    rwa [heq]
  · intro hspaced hused
    obtain ⟨k, hk, heq⟩ := h _ hused ⟨_, rfl⟩
    have hdvd := (Nat.modEq_iff_dvd' hk.le).mp ((hname k _).mp heq)
    exact hspaced k hk hdvd (heq ▸ hused)

/-- Within the first period every name is fresh. -/
theorem Known.fresh_of_lt {book : Book α} (h : Known name book) (hname : Cyclic name period)
    (hlt : book.given < period) : name book.given ∉ book.inUse := by
  refine (h.fresh_iff hname).mpr fun k hk hdvd => ?_
  have hle := Nat.le_of_dvd (by omega) hdvd
  omega

end Serials

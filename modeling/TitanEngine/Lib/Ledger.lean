import Mathlib.Order.BooleanAlgebra.Set
import TitanEngine.Lib.Runs

/-! Keys that hold resources, and the resources that are installed. Installing is
idempotent, so giving back a resource that another key holds as well takes it from both. -/
namespace Ledgers

structure Ledger (K W : Type*) where
  held : K → Option W
  installed : Set W

namespace Ledger
variable {K W : Type*} {l : Ledger K W}

/-- Exactly the held resources are installed. -/
def Exact (l : Ledger K W) : Prop := ∀ w, w ∈ l.installed ↔ ∃ k, l.held k = some w

/-- No resource is held by two keys. -/
def Unshared (l : Ledger K W) : Prop :=
  ∀ ⦃k k' w⦄, l.held k = some w → l.held k' = some w → k = k'

structure Sound (l : Ledger K W) : Prop where
  exact : l.Exact
  unshared : l.Unshared

theorem sound_empty : Sound (⟨fun _ => none, ∅⟩ : Ledger K W) := by
  constructor
  · intro w
    simp
  · intro k k' w h
    cases h

variable [DecidableEq K] {k k' : K} {w : W}

def acquire (k : K) (w : W) (l : Ledger K W) : Ledger K W :=
  ⟨Function.update l.held k (some w), insert w l.installed⟩

def release (k : K) (w : W) (l : Ledger K W) : Ledger K W :=
  ⟨Function.update l.held k none, l.installed \ {w}⟩

theorem held_acquire (hkey : l.held k = none) {w' : W} :
    (∃ k', (l.acquire k w).held k' = some w') ↔ w' = w ∨ ∃ k', l.held k' = some w' := by
  constructor
  · rintro ⟨k', h⟩
    by_cases hk : k' = k
    · subst hk
      simp only [acquire, Function.update_self, Option.some.injEq] at h
      exact .inl h.symm
    · simp only [acquire, Function.update_of_ne hk] at h
      exact .inr ⟨k', h⟩
  · rintro (rfl | ⟨k', h⟩)
    · exact ⟨k, by simp [acquire]⟩
    · have hk : k' ≠ k := by
        rintro rfl
        rw [hkey] at h
        cases h
      exact ⟨k', by simpa [acquire, Function.update_of_ne hk] using h⟩

/-- A free key takes a resource that nobody holds. -/
theorem Sound.acquire (h : l.Sound) (hkey : l.held k = none) (hfree : ∀ k', l.held k' ≠ some w) :
    (l.acquire k w).Sound := by
  constructor
  · intro w'
    rw [held_acquire hkey, ← h.exact w']
    exact Set.mem_insert_iff
  · intro i j w' hi hj
    by_cases hik : i = k
    · by_cases hjk : j = k
      · rw [hik, hjk]
      · subst hik
        simp only [Ledger.acquire, Function.update_self, Option.some.injEq] at hi
        simp only [Ledger.acquire, Function.update_of_ne hjk] at hj
        exact absurd (hi ▸ hj) (hfree j)
    · simp only [Ledger.acquire, Function.update_of_ne hik] at hi
      by_cases hjk : j = k
      · subst hjk
        simp only [Ledger.acquire, Function.update_self, Option.some.injEq] at hj
        exact absurd (hj ▸ hi) (hfree i)
      · simp only [Ledger.acquire, Function.update_of_ne hjk] at hj
        exact h.unshared hi hj

/-- A key gives back what it holds. -/
theorem Sound.release (h : l.Sound) (hheld : l.held k = some w) : (l.release k w).Sound := by
  constructor
  · intro w'
    have hinstalled : w' ∈ (l.release k w).installed ↔ (∃ k', l.held k' = some w') ∧ w' ≠ w := by
      rw [← h.exact w']
      exact Set.mem_sdiff_singleton
    rw [hinstalled]
    constructor
    · rintro ⟨⟨k', hk'⟩, hne⟩
      have hkey : k' ≠ k := by
        rintro rfl
        exact hne (Option.some.inj (hk'.symm.trans hheld))
      exact ⟨k', by simpa [Ledger.release, Function.update_of_ne hkey] using hk'⟩
    · rintro ⟨k', hk'⟩
      have hkey : k' ≠ k := by
        rintro rfl
        simp [Ledger.release] at hk'
      simp only [Ledger.release, Function.update_of_ne hkey] at hk'
      exact ⟨⟨k', hk'⟩, fun hw => hkey (h.unshared (hw ▸ hk') hheld)⟩
  · intro i j w' hi hj
    have hkey : ∀ {i : K}, (l.release k w).held i = some w' → l.held i = some w' := by
      intro i hi
      by_cases hik : i = k
      · subst hik
        simp [Ledger.release] at hi
      · simpa [Ledger.release, Function.update_of_ne hik] using hi
    exact h.unshared (hkey hi) (hkey hj)

/-- One change of the books. -/
inductive Step : Ledger K W → Ledger K W → Prop
  | acquire {l : Ledger K W} {k : K} {w : W} (key : l.held k = none) (free : ∀ k', l.held k' ≠ some w) :
      Step l (l.acquire k w)
  | release {l : Ledger K W} {k : K} {w : W} (held : l.held k = some w) : Step l (l.release k w)

theorem sound_step : Runs.Preserves (@Step K W _) Sound := by
  intro l l' hstep h
  cases hstep with
  | acquire key free => exact h.acquire key free
  | release held => exact h.release held

end Ledger

end Ledgers

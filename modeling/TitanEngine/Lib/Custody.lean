import Mathlib.Data.List.Count
import Mathlib.Data.Set.Insert

/-! Things that are taken and given back, over and over. What is held has been taken once more
often than it was given back, and nothing else is out. -/
namespace Custody
variable {α : Type*} [DecidableEq α]

structure Balanced (held : Set α) (taken given : List α) : Prop where
  out : ∀ a ∈ held, taken.count a = given.count a + 1
  back : ∀ a ∉ held, taken.count a = given.count a

variable {held : Set α} {taken given : List α} {a : α}

theorem balanced_empty : Balanced (∅ : Set α) [] [] :=
  ⟨fun _ ha => absurd ha (Set.notMem_empty _), fun _ _ => rfl⟩

theorem Balanced.take (h : Balanced held taken given) (ha : a ∉ held) :
    Balanced (insert a held) (a :: taken) given := by
  constructor
  · intro x hx
    rcases hx with rfl | hx
    · have hback := h.back x ha
      rw [List.count_cons_self]
      omega
    · have hne : a ≠ x := fun heq => ha (heq ▸ hx)
      rw [List.count_cons_of_ne hne]
      exact h.out x hx
  · intro x hx
    rw [Set.mem_insert_iff, not_or] at hx
    rw [List.count_cons_of_ne (Ne.symm hx.1)]
    exact h.back x hx.2

theorem Balanced.give (h : Balanced held taken given) (ha : a ∈ held) :
    Balanced (held \ {a}) taken (a :: given) := by
  constructor
  · intro x hx
    rw [Set.mem_sdiff, Set.mem_singleton_iff] at hx
    rw [List.count_cons_of_ne (Ne.symm hx.2)]
    exact h.out x hx.1
  · intro x hx
    by_cases hxa : x = a
    · have hout := h.out a ha
      rw [hxa, List.count_cons_self]
      omega
    · have hfree : x ∉ held := fun hheld => hx ⟨hheld, hxa⟩
      rw [List.count_cons_of_ne (Ne.symm hxa)]
      exact h.back x hfree

end Custody

import Mathlib.Logic.Function.Basic

/-! A table with an index into it: some entries take a slot, and the index leads from the slot to
the key of the entry. Others stand at a site, which they share with no entry. -/
namespace Indexed

variable {κ σ α ρ : Type*}

/-- An entry of an updated table is the new one, or it was there before. -/
theorem mem_update [DecidableEq κ] {T : κ → Option ρ} {k k' : κ} {o : Option ρ} {r : ρ}
    (h : Function.update T k o k' = some r) : k' = k ∧ o = some r ∨ k' ≠ k ∧ T k' = some r := by
  by_cases heq : k' = k
  · subst heq
    rw [Function.update_self] at h
    exact .inl ⟨rfl, h⟩
  · rw [Function.update_of_ne heq] at h
    exact .inr ⟨heq, h⟩

theorem mem_of_removed [DecidableEq κ] {T : κ → Option ρ} {k k' : κ} {r : ρ}
    (h : Function.update T k none k' = some r) : T k' = some r := by
  obtain ⟨-, hnone⟩ | ⟨-, hold⟩ := mem_update h
  · cases hnone
  · exact hold

structure State (κ σ ρ : Type*) where
  table : κ → Option ρ
  index : σ → Option κ

/-- How an entry is read: its key, the slot that it takes and the site that it stands at. -/
structure Shape (κ σ α ρ : Type*) where
  key : ρ → κ
  slot : ρ → Option σ
  site : ρ → Option α

/-- The index and the table say the same, sites are not shared, and entries are under their keys. -/
structure Consistent (shape : Shape κ σ α ρ) (s : State κ σ ρ) : Prop where
  index : ∀ i k, s.index i = some k ↔ ∃ r, s.table k = some r ∧ shape.slot r = some i
  site : ∀ k k' r r' a, s.table k = some r → s.table k' = some r' → shape.site r = some a →
    shape.site r' = some a → k = k'
  key : ∀ k r, s.table k = some r → shape.key r = k

/-- No entry stands at the site of this one. -/
def Vacant (shape : Shape κ σ α ρ) (s : State κ σ ρ) (r : ρ) : Prop :=
  ∀ k r' a, s.table k = some r' → shape.site r = some a → shape.site r' ≠ some a

namespace Consistent
variable {shape : Shape κ σ α ρ} {s : State κ σ ρ} {k : κ} {i : σ} {r : ρ}

theorem empty (shape : Shape κ σ α ρ) : Consistent shape (⟨fun _ => none, fun _ => none⟩ : State κ σ ρ) where
  index := by simp
  site := by simp
  key := by simp

variable [DecidableEq κ]

/-- Sites stay apart and keys true, whatever is done to the index. -/
theorem site_update (h : Consistent shape s) (hvacant : Vacant shape s r) {k₁ k₂ : κ} {r₁ r₂ : ρ} {a : α}
    (h₁ : Function.update s.table k (some r) k₁ = some r₁) (h₂ : Function.update s.table k (some r) k₂ = some r₂)
    (ha₁ : shape.site r₁ = some a) (ha₂ : shape.site r₂ = some a) : k₁ = k₂ := by
  obtain ⟨hk₁, hr₁⟩ | ⟨-, hold₁⟩ := mem_update h₁ <;> obtain ⟨hk₂, hr₂⟩ | ⟨-, hold₂⟩ := mem_update h₂
  · rw [hk₁, hk₂]
  · cases hr₁
    exact absurd ha₂ (hvacant _ _ _ hold₂ ha₁)
  · cases hr₂
    exact absurd ha₁ (hvacant _ _ _ hold₁ ha₂)
  · exact h.site _ _ _ _ _ hold₁ hold₂ ha₁ ha₂

theorem key_update (h : Consistent shape s) {k₁ : κ} {r₁ : ρ}
    (h₁ : Function.update s.table (shape.key r) (some r) k₁ = some r₁) : shape.key r₁ = k₁ := by
  obtain ⟨rfl, hr₁⟩ | ⟨-, h₁⟩ := mem_update h₁
  · cases hr₁
    rfl
  · exact h.key _ _ h₁

/-- A new entry without a slot, under a key that is free. -/
theorem insert (h : Consistent shape s) (hfresh : s.table (shape.key r) = none) (hslot : shape.slot r = none)
    (hvacant : Vacant shape s r) :
    Consistent shape ⟨Function.update s.table (shape.key r) (some r), s.index⟩ where
  index i k := by
    show s.index i = some k ↔
      ∃ r', Function.update s.table (shape.key r) (some r) k = some r' ∧ shape.slot r' = some i
    rw [h.index i k]
    refine exists_congr fun r' => and_congr_left fun hr' => ?_
    by_cases hk : k = shape.key r
    · subst hk
      rw [hfresh, Function.update_self]
      refine iff_of_false (by simp) fun heq => ?_
      cases heq
      rw [hslot] at hr'
      cases hr'
    · rw [Function.update_of_ne hk]
  site _ _ _ _ _ h₁ h₂ ha₁ ha₂ := h.site_update hvacant h₁ h₂ ha₁ ha₂
  key _ _ h₁ := h.key_update h₁

/-- An entry without a slot goes. -/
theorem erase (h : Consistent shape s) (hpresent : s.table k = some r) (hslot : shape.slot r = none) :
    Consistent shape ⟨Function.update s.table k none, s.index⟩ where
  index i k' := by
    show s.index i = some k' ↔ ∃ r', Function.update s.table k none k' = some r' ∧ shape.slot r' = some i
    rw [h.index i k']
    refine exists_congr fun r' => and_congr_left fun hr' => ?_
    by_cases hk : k' = k
    · subst hk
      rw [hpresent, Function.update_self]
      refine iff_of_false (fun heq => ?_) (by simp)
      cases heq
      rw [hslot] at hr'
      cases hr'
    · rw [Function.update_of_ne hk]
  site _ _ _ _ _ h₁ h₂ ha₁ ha₂ := h.site _ _ _ _ _ (mem_of_removed h₁) (mem_of_removed h₂) ha₁ ha₂
  key _ _ h₁ := h.key _ _ (mem_of_removed h₁)

variable [DecidableEq σ]

/-- A new entry takes a slot that is free. -/
theorem enter (h : Consistent shape s) (hfresh : s.table (shape.key r) = none) (hslot : shape.slot r = some i)
    (hfree : s.index i = none) (hvacant : Vacant shape s r) :
    Consistent shape ⟨Function.update s.table (shape.key r) (some r),
      Function.update s.index i (some (shape.key r))⟩ where
  index j k := by
    show Function.update s.index i (some (shape.key r)) j = some k ↔
      ∃ r', Function.update s.table (shape.key r) (some r) k = some r' ∧ shape.slot r' = some j
    by_cases hj : j = i
    · subst hj
      rw [Function.update_self, Option.some_inj]
      constructor
      · rintro rfl
        exact ⟨r, Function.update_self .., hslot⟩
      · rintro ⟨r', hr', hr'j⟩
        obtain ⟨rfl, -⟩ | ⟨-, hr'⟩ := mem_update hr'
        · rfl
        · have hindex := (h.index j k).mpr ⟨r', hr', hr'j⟩
          rw [hfree] at hindex
          cases hindex
    · rw [Function.update_of_ne hj, h.index j k]
      refine exists_congr fun r' => and_congr_left fun hr' => ?_
      by_cases hk : k = shape.key r
      · subst hk
        rw [hfresh, Function.update_self]
        refine iff_of_false (by simp) fun heq => ?_
        cases heq
        rw [hslot] at hr'
        exact hj (Option.some.inj hr').symm
      · rw [Function.update_of_ne hk]
  site _ _ _ _ _ h₁ h₂ ha₁ ha₂ := h.site_update hvacant h₁ h₂ ha₁ ha₂
  key _ _ h₁ := h.key_update h₁

/-- An entry goes with its slot. -/
theorem leave (h : Consistent shape s) (hindex : s.index i = some k) :
    Consistent shape ⟨Function.update s.table k none, Function.update s.index i none⟩ where
  index j k' := by
    show Function.update s.index i none j = some k' ↔
      ∃ r', Function.update s.table k none k' = some r' ∧ shape.slot r' = some j
    obtain ⟨r, hpresent, hslot⟩ := (h.index i k).mp hindex
    by_cases hj : j = i
    · subst hj
      rw [Function.update_self]
      refine iff_of_false (by simp) ?_
      rintro ⟨r', hr', hr'j⟩
      obtain ⟨-, hnone⟩ | ⟨hne, hr'⟩ := mem_update hr'
      · cases hnone
      · have hother := (h.index j k').mpr ⟨r', hr', hr'j⟩
        rw [hindex] at hother
        exact hne (Option.some.inj hother).symm
    · rw [Function.update_of_ne hj, h.index j k']
      refine exists_congr fun r' => and_congr_left fun hr' => ?_
      by_cases hk : k' = k
      · subst hk
        rw [hpresent, Function.update_self]
        refine iff_of_false (fun heq => ?_) (by simp)
        cases heq
        rw [hslot] at hr'
        exact hj (Option.some.inj hr').symm
      · rw [Function.update_of_ne hk]
  site _ _ _ _ _ h₁ h₂ ha₁ ha₂ := h.site _ _ _ _ _ (mem_of_removed h₁) (mem_of_removed h₂) ha₁ ha₂
  key _ _ h₁ := h.key _ _ (mem_of_removed h₁)

end Consistent

end Indexed

import Mathlib.Data.Nat.Notation

/-! Loops whose body goes on with a new state or leaves with a result, and the rule that
proves one totally correct from an invariant and a variant. -/
namespace Loops

variable {σ ρ : Type*} {body : σ → σ ⊕ ρ} {inv : σ → Prop} {variant : σ → ℕ} {post : ρ → Prop}

/-- At most `fuel` rounds of the body. -/
def run (body : σ → σ ⊕ ρ) : ℕ → σ → Option ρ
  | 0, _ => none
  | fuel + 1, s =>
    match body s with
    | .inl s' => run body fuel s'
    | .inr r => some r

/-- A round that goes on keeps the invariant and lowers the variant; one that leaves does so
with what is promised. -/
structure Correct (body : σ → σ ⊕ ρ) (inv : σ → Prop) (variant : σ → ℕ) (post : ρ → Prop) : Prop where
  keeps : ∀ {s s'}, inv s → body s = .inl s' → inv s'
  lowers : ∀ {s s'}, inv s → body s = .inl s' → variant s' < variant s
  leaves : ∀ {s r}, inv s → body s = .inr r → post r

/-- More rounds than the loop needs change nothing. -/
theorem run_mono {fuel fuel' : ℕ} {s : σ} {r : ρ} (h : run body fuel s = some r) (hle : fuel ≤ fuel') :
    run body fuel' s = some r := by
  induction fuel generalizing fuel' s with
  | zero => cases h
  | succ fuel ih =>
    obtain ⟨more, rfl⟩ := Nat.exists_eq_succ_of_ne_zero (show fuel' ≠ 0 by omega)
    unfold run at h ⊢
    cases hround : body s with
    | inl s' =>
      rw [hround] at h
      exact ih h (by omega)
    | inr r' =>
      rw [hround] at h
      exact h

/-- The loop leaves within as many rounds as the variant counts, and one more. -/
theorem Correct.run (h : Correct body inv variant post) {fuel : ℕ} {s : σ} (hinv : inv s)
    (hfuel : variant s < fuel) : ∃ r, Loops.run body fuel s = some r ∧ post r := by
  induction fuel generalizing s with
  | zero => omega
  | succ fuel ih =>
    simp only [Loops.run]
    cases hround : body s with
    | inl s' =>
      have hlower := h.lowers hinv hround
      exact ih (h.keeps hinv hround) (by omega)
    | inr r => exact ⟨r, rfl, h.leaves hinv hround⟩

/-- The result does not depend on how many rounds are allowed. -/
theorem Correct.exists_run (h : Correct body inv variant post) {s : σ} (hinv : inv s) :
    ∃ r, (∀ fuel > variant s, Loops.run body fuel s = some r) ∧ post r := by
  obtain ⟨r, hrun, hpost⟩ := h.run hinv (Nat.lt_succ_self (variant s))
  exact ⟨r, fun fuel hfuel => run_mono hrun hfuel, hpost⟩

end Loops

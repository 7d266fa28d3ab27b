import Mathlib.Data.List.Basic

/-! A history, newest event first, that is cut into rounds: some events mark the end of one. -/
namespace Rounds

variable {α : Type*} (mark : α → Bool)

/-- The events of the round that goes on. -/
def round (history : List α) : List α := history.takeWhile fun e => !mark e

/-- Each mark of the history stands in the relation to what came before it. -/
def Each (P : α → List α → Prop) (history : List α) : Prop :=
  ∀ newer m older, history = newer ++ m :: older → mark m = true → P m older

variable {mark} {P : α → List α → Prop} {e : α} {es history : List α}

theorem round_cons_of_mark (h : mark e = true) : round mark (e :: history) = [] := by
  simp [round, h]

theorem round_cons (h : mark e = false) : round mark (e :: history) = e :: round mark history := by
  simp [round, h]

theorem each_nil : Each mark P [] := fun newer m older h _ => by simp at h

theorem Each.cons_mark (h : Each mark P history) (he : P e history) :
    Each mark P (e :: history) := by
  intro newer m older heq hm
  cases newer with
  | nil =>
    obtain ⟨rfl, rfl⟩ := List.cons.inj heq
    exact he
  | cons e' newer => exact h newer m older (List.cons.inj heq).2 hm

theorem Each.cons (h : Each mark P history) (he : mark e = false) : Each mark P (e :: history) := by
  intro newer m older heq hm
  cases newer with
  | nil =>
    obtain ⟨rfl, rfl⟩ := List.cons.inj heq
    rw [he] at hm
    cases hm
  | cons e' newer => exact h newer m older (List.cons.inj heq).2 hm

end Rounds

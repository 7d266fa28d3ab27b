import Mathlib.Logic.Relation

/-! Properties that every step of a relation keeps, and so every run of it. -/
namespace Runs

variable {α : Type*} {r r' : α → α → Prop} {p q : α → Prop}

/-- Every step keeps the property. -/
def Preserves (r : α → α → Prop) (p : α → Prop) : Prop := ∀ ⦃a b⦄, r a b → p a → p b

theorem Preserves.run (h : Preserves r p) {a b : α} (hab : Relation.ReflTransGen r a b)
    (ha : p a) : p b := by
  induction hab with
  | refl => exact ha
  | tail _ hstep ih => exact h hstep ih

theorem Preserves.mono (h : Preserves r p) (hr : ∀ ⦃a b⦄, r' a b → r a b) : Preserves r' p :=
  fun _ _ hab => h (hr hab)

theorem Preserves.and (hp : Preserves r p) (hq : Preserves r q) :
    Preserves r fun a => p a ∧ q a :=
  fun _ _ hab ha => ⟨hp hab ha.1, hq hab ha.2⟩

/-- A function that no step changes is constant along runs. -/
theorem run_eq {β : Type*} {f : α → β} (h : ∀ ⦃a b⦄, r a b → f b = f a) {a b : α}
    (hab : Relation.ReflTransGen r a b) : f b = f a :=
  Preserves.run (p := fun x => f x = f a) (fun _ _ hxy hx => (h hxy).trans hx) hab rfl

section Simulation
variable {β : Type*} {abs : β → β → Prop} {f : α → β} {inv : α → Prop}

/-- Seen through `f`, going from `a` to `b` is a run of `abs`, and the invariant is kept. -/
def Matched (abs : β → β → Prop) (f : α → β) (inv : α → Prop) (a b : α) : Prop :=
  inv a → inv b ∧ Relation.ReflTransGen abs (f a) (f b)

theorem Matched.refl (a : α) : Matched abs f inv a a := fun h => ⟨h, .refl⟩

theorem Matched.trans {a b c : α} (hab : Matched abs f inv a b) (hbc : Matched abs f inv b c) :
    Matched abs f inv a c := by
  intro ha
  obtain ⟨hb, hrun⟩ := hab ha
  obtain ⟨hc, hrun'⟩ := hbc hb
  exact ⟨hc, hrun.trans hrun'⟩

/-- If each step is matched, each run is. -/
theorem Matched.run (h : ∀ ⦃a b⦄, r a b → Matched abs f inv a b) {a b : α}
    (hab : Relation.ReflTransGen r a b) : Matched abs f inv a b := by
  induction hab with
  | refl => exact .refl a
  | tail _ hstep ih => exact ih.trans (h hstep)

end Simulation

end Runs

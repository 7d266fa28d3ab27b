import TitanEngine.Lib.FlatMemory
import TitanEngine.Lib.Indexed
import TitanEngine.Lib.Runs
import Mathlib.Data.Set.Basic

/-! Patches over a flat memory: a table of what was written over and what was there
before. A patch may be lifted and placed again while it stays in the table. -/
namespace Patching
open FlatMemory Indexed

variable {w : ℕ} {β κ : Type}

structure Patch (w : ℕ) (β : Type) where
  address : BitVec w
  original : List β
  replacement : List β
  length_eq : replacement.length = original.length

def Patch.Covers (p : Patch w β) (x : BitVec w) : Prop := InRange p.address p.original.length x

/-- The patch remembers what `m` holds under it. -/
def Patch.Captures (p : Patch w β) (m : Memory w β) : Prop :=
  ∀ x b, cell p.address p.original x = some b → b = m x

structure State (w : ℕ) (β κ : Type) where
  memory : Memory w β
  table : κ → Option (Patch w β)

def State.Covered (s : State w β κ) (x : BitVec w) : Prop := ∃ k p, s.table k = some p ∧ p.Covers x

section Step
variable [DecidableEq κ]

/-- What may happen to a patched memory. Patches lie in `code`, which nothing but the
patches writes; each one remembers the bytes of the pristine memory `m₀`. No patch is put
on the bytes of `spare`. -/
inductive Step (m₀ : Memory w β) (code spare : Set (BitVec w)) : State w β κ → State w β κ → Prop
  | install {s} (k : κ) (p : Patch w β) (fresh : s.table k = none) (captures : p.Captures m₀)
      (inside : ∀ x, p.Covers x → x ∈ code) (spares : ∀ x, p.Covers x → x ∉ spare) :
      Step m₀ code spare s ⟨s.memory.write p.address p.replacement, Function.update s.table k (some p)⟩
  | lift {s} (k : κ) (p : Patch w β) (present : s.table k = some p) :
      Step m₀ code spare s ⟨s.memory.write p.address p.original, s.table⟩
  | place {s} (k : κ) (p : Patch w β) (present : s.table k = some p)
      (spares : ∀ x, p.Covers x → x ∉ spare) :
      Step m₀ code spare s ⟨s.memory.write p.address p.replacement, s.table⟩
  | remove {s} (k : κ) (p : Patch w β) (present : s.table k = some p) :
      Step m₀ code spare s ⟨s.memory.write p.address p.original, Function.update s.table k none⟩
  | store {s} (m : Memory w β) (outside : ∀ x ∈ code, m x = s.memory x) :
      Step m₀ code spare s ⟨m, s.table⟩

end Step

/-- The table remembers pristine bytes, and a byte that no patch covers is pristine. -/
structure Sound (m₀ : Memory w β) (code : Set (BitVec w)) (s : State w β κ) : Prop where
  captures : ∀ k p, s.table k = some p → p.Captures m₀
  inside : ∀ k p, s.table k = some p → ∀ x, p.Covers x → x ∈ code
  rest : ∀ x ∈ code, ¬ s.Covered x → s.memory x = m₀ x

namespace Sound
variable {m₀ : Memory w β} {code spare : Set (BitVec w)} {s : State w β κ}

/-- A write that stays on a patch of the table leaves the uncovered bytes alone. -/
theorem write (hs : Sound m₀ code s) {k : κ} {p : Patch w β} (h : s.table k = some p) {bs : List β}
    (hl : bs.length = p.original.length) : Sound m₀ code ⟨s.memory.write p.address bs, s.table⟩ where
  captures := hs.captures
  inside := hs.inside
  rest x hx hcov := by
    have hout : ¬ InRange p.address bs.length x := by
      rw [hl]
      exact fun hin => hcov ⟨k, p, h, hin⟩
    show s.memory.write p.address bs x = m₀ x
    rw [write_of_not_inRange s.memory hout]
    exact hs.rest x hx hcov

theorem store (hs : Sound m₀ code s) {m : Memory w β} (hm : ∀ x ∈ code, m x = s.memory x) :
    Sound m₀ code ⟨m, s.table⟩ where
  captures := hs.captures
  inside := hs.inside
  rest x hx hcov := (hm x hx).trans (hs.rest x hx hcov)

variable [DecidableEq κ]

theorem install (hs : Sound m₀ code s) {k : κ} {p : Patch w β} (hk : s.table k = none)
    (hp : p.Captures m₀) (hin : ∀ x, p.Covers x → x ∈ code) :
    Sound m₀ code ⟨s.memory.write p.address p.replacement, Function.update s.table k (some p)⟩ where
  captures k' p' h := by
    obtain ⟨-, he⟩ | ⟨-, h⟩ := mem_update h
    · cases he
      exact hp
    · exact hs.captures k' p' h
  inside k' p' h := by
    obtain ⟨-, he⟩ | ⟨-, h⟩ := mem_update h
    · cases he
      exact hin
    · exact hs.inside k' p' h
  rest x hx hcov := by
    have hout : ¬ InRange p.address p.replacement.length x := by
      rw [p.length_eq]
      exact fun hin => hcov ⟨k, p, Function.update_self _ _ _, hin⟩
    show s.memory.write p.address p.replacement x = m₀ x
    rw [write_of_not_inRange s.memory hout]
    apply hs.rest x hx
    rintro ⟨k', p', hk', hp'⟩
    have hne : k' ≠ k := by
      rintro rfl
      rw [hk] at hk'
      cases hk'
    exact hcov ⟨k', p', (Function.update_of_ne hne _ _).trans hk', hp'⟩

theorem remove (hs : Sound m₀ code s) {k : κ} {p : Patch w β} (h : s.table k = some p) :
    Sound m₀ code ⟨s.memory.write p.address p.original, Function.update s.table k none⟩ where
  captures k' p' h' := by
    obtain ⟨-, he⟩ | ⟨-, h'⟩ := mem_update h'
    · cases he
    · exact hs.captures k' p' h'
  inside k' p' h' := by
    obtain ⟨-, he⟩ | ⟨-, h'⟩ := mem_update h'
    · cases he
    · exact hs.inside k' p' h'
  rest x hx hcov := by
    show s.memory.write p.address p.original x = m₀ x
    cases hb : cell p.address p.original x with
    | some b =>
      rw [write_of_cell s.memory hb]
      exact hs.captures k p h x b hb
    | none =>
      rw [write_of_not_inRange s.memory (cell_eq_none_iff.mp hb)]
      apply hs.rest x hx
      rintro ⟨k', p', hk', hp'⟩
      have hne : k' ≠ k := by
        rintro rfl
        rw [h] at hk'
        cases hk'
        exact cell_eq_none_iff.mp hb hp'
      exact hcov ⟨k', p', (Function.update_of_ne hne _ _).trans hk', hp'⟩

theorem preserved : Runs.Preserves (Step (κ := κ) m₀ code spare) (Sound m₀ code) := by
  intro s s' hstep hs
  cases hstep with
  | install k p fresh captures inside spares => exact hs.install fresh captures inside
  | lift k p present => exact hs.write present rfl
  | place k p present spares => exact hs.write present p.length_eq
  | remove k p present => exact hs.remove present
  | store m outside => exact hs.store outside

omit [DecidableEq κ] in
/-- With no patch left, the code is what it was. -/
theorem memory_eq (hs : Sound m₀ code s) (hempty : ∀ k, s.table k = none) {x : BitVec w}
    (hx : x ∈ code) : s.memory x = m₀ x := by
  apply hs.rest x hx
  rintro ⟨k, p, hk, -⟩
  rw [hempty k] at hk
  cases hk

omit [DecidableEq κ] in
/-- Lifting a patch writes pristine bytes. -/
theorem write_original (hs : Sound m₀ code s) {k : κ} {p : Patch w β} (h : s.table k = some p) {x : BitVec w}
    (hx : s.memory x = m₀ x) : s.memory.write p.address p.original x = m₀ x := by
  cases hb : cell p.address p.original x with
  | some b =>
    rw [write_of_cell s.memory hb]
    exact hs.captures k p h x b hb
  | none => rwa [write_of_not_inRange s.memory (cell_eq_none_iff.mp hb)]

/-- The spared bytes stay pristine. -/
theorem spared (hspare : spare ⊆ code) : Runs.Preserves (Step (κ := κ) m₀ code spare)
    fun s => Sound m₀ code s ∧ ∀ x ∈ spare, s.memory x = m₀ x := by
  intro s s' hstep hs
  refine ⟨preserved hstep hs.1, fun x hx => ?_⟩
  have houtside : ∀ p : Patch w β, (∀ x, p.Covers x → x ∉ spare) →
      s.memory.write p.address p.replacement x = m₀ x := by
    intro p spares
    rw [write_of_not_inRange s.memory, hs.2 x hx]
    rw [p.length_eq]
    exact fun hcovers => spares x hcovers hx
  cases hstep with
  | install k p fresh captures inside spares => exact houtside p spares
  | lift k p present => exact hs.1.write_original present (hs.2 x hx)
  | place k p present spares => exact houtside p spares
  | remove k p present => exact hs.1.write_original present (hs.2 x hx)
  | store m outside => exact (outside x (hspare hx)).trans (hs.2 x hx)

end Sound

/-- A patch over spared bytes was there before. -/
theorem table_of_run [DecidableEq κ] {m₀ : Memory w β} {code spare : Set (BitVec w)} {s s' : State w β κ}
    (h : Relation.ReflTransGen (Step m₀ code spare) s s') {k : κ} {p : Patch w β} (hp : s'.table k = some p)
    {x : BitVec w} (hcovers : p.Covers x) (hx : x ∈ spare) : s.table k = some p := by
  induction h with
  | refl => exact hp
  | tail _ hstep ih =>
    refine ih ?_
    cases hstep with
    | install k' p' fresh captures inside spares =>
      obtain ⟨-, ⟨⟩⟩ | ⟨-, hp⟩ := mem_update hp
      · exact absurd hx (spares x hcovers)
      · exact hp
    | remove k' p' present =>
      obtain ⟨-, h⟩ | ⟨-, hp⟩ := mem_update hp
      · cases h
      · exact hp
    | _ => exact hp

end Patching

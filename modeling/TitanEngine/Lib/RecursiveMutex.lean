import Mathlib.Tactic

/-! A mutex that its owner may lock again. -/

/-- How often the owner holds the mutex is counted, and nobody owns a free one. -/
structure RecursiveMutex (Thread : Type*) where
  owner : Option Thread
  depth : ℕ
  owned : owner = none ↔ depth = 0

namespace RecursiveMutex
variable {Thread : Type*} [DecidableEq Thread]

def free : RecursiveMutex Thread := ⟨none, 0, by simp⟩

/-- How often `t` holds the mutex. -/
def heldBy (m : RecursiveMutex Thread) (t : Thread) : ℕ := if m.owner = some t then m.depth else 0

/-- Nothing where the thread would have to wait. -/
def lock (t : Thread) (m : RecursiveMutex Thread) : Option (RecursiveMutex Thread) :=
  if m.owner = none ∨ m.owner = some t then some ⟨some t, m.depth + 1, by simp⟩ else none

/-- A thread that does not hold the mutex changes nothing. -/
def unlock (t : Thread) (m : RecursiveMutex Thread) : RecursiveMutex Thread :=
  if m.owner = some t then
    ⟨if m.depth ≤ 1 then none else some t, m.depth - 1, by split_ifs with h <;> simp <;> omega⟩
  else m

variable {m m' : RecursiveMutex Thread} {t u : Thread}

@[simp] theorem heldBy_free : (free : RecursiveMutex Thread).heldBy t = 0 := by
  simp [heldBy, free]

theorem heldBy_lock (h : m.lock t = some m') :
    m'.heldBy u = m.heldBy u + if u = t then 1 else 0 := by
  have hdepth := m.owned
  simp only [lock] at h
  split_ifs at h with howner
  obtain rfl := Option.some.inj h
  rcases howner with howner | howner
  · by_cases hu : u = t
    · simp [heldBy, howner, hu, hdepth.1 howner]
    · simp [heldBy, howner, hu, Ne.symm hu]
  · by_cases hu : u = t
    · simp [heldBy, howner, hu]
    · simp [heldBy, howner, hu, Ne.symm hu]

/-- A thread waits only for another one that holds the mutex. -/
theorem exists_heldBy_of_lock_eq_none (h : m.lock t = none) : ∃ u, u ≠ t ∧ 0 < m.heldBy u := by
  have hdepth := m.owned
  simp only [lock] at h
  split_ifs at h with howner
  push Not at howner
  obtain ⟨u, hu⟩ := Option.ne_none_iff_exists'.1 howner.1
  refine ⟨u, ?_, ?_⟩
  · rintro rfl
    exact howner.2 hu
  · have hpos : m.depth ≠ 0 := fun h0 => howner.1 (hdepth.2 h0)
    simp only [heldBy, hu, if_true]
    omega

theorem lock_of_heldBy_eq_zero (h : ∀ u, u ≠ t → m.heldBy u = 0) : ∃ m', m.lock t = some m' := by
  cases hlock : m.lock t with
  | some m' => exact ⟨m', rfl⟩
  | none =>
    obtain ⟨u, hu, hpos⟩ := exists_heldBy_of_lock_eq_none hlock
    have hzero := h u hu
    omega

/-- At most one thread holds the mutex. -/
theorem eq_of_heldBy (ht : 0 < m.heldBy t) (hu : 0 < m.heldBy u) : t = u := by
  unfold heldBy at ht hu
  split_ifs at ht hu with howner howner'
  · rw [howner] at howner'
    exact Option.some.inj howner'
  · exact absurd hu (Nat.lt_irrefl 0)
  · exact absurd ht (Nat.lt_irrefl 0)
  · exact absurd ht (Nat.lt_irrefl 0)

theorem heldBy_unlock (h : 0 < m.heldBy t) :
    (m.unlock t).heldBy u = m.heldBy u - if u = t then 1 else 0 := by
  have howner : m.owner = some t := by
    by_contra h'
    simp [heldBy, h'] at h
  by_cases hu : u = t
  · subst hu
    by_cases hdepth : m.depth ≤ 1
    · simp [unlock, heldBy, howner, hdepth]
    · simp [unlock, heldBy, howner, hdepth]
  · by_cases hdepth : m.depth ≤ 1
    · simp [unlock, heldBy, howner, hdepth, hu, Ne.symm hu]
    · simp [unlock, heldBy, howner, hdepth, hu, Ne.symm hu]

end RecursiveMutex

import Mathlib.Algebra.BigOperators.Group.List.Basic
import Mathlib.Algebra.GroupWithZero.Nat
import Mathlib.Data.List.Nodup
import Mathlib.Logic.Function.Basic
import Std.Data.ExtTreeMap

/-! Sums over the entries of an ordered map, and how they change with one entry. -/
namespace MapSums

variable {α β : Type} [Ord α] [Std.TransOrd α] [Std.LawfulEqOrd α]

theorem nodup_toList (m : Std.ExtTreeMap α β) : m.toList.Nodup := by
  refine Std.ExtTreeMap.distinct_keys_toList.imp ?_
  rintro a b hab rfl
  exact hab Std.ReflCmp.compare_self

theorem getElem?_erase_of_ne {m : Std.ExtTreeMap α β} {k k' : α} (h : k' ≠ k) :
    (m.erase k)[k']? = m[k']? := by
  rw [Std.ExtTreeMap.getElem?_erase, if_neg]
  exact fun he => h (Std.LawfulEqCmp.compare_eq_iff_eq.mp he).symm

theorem getElem?_insert_of_ne {m : Std.ExtTreeMap α β} {k k' : α} {v : β} (h : k' ≠ k) :
    (m.insert k v)[k']? = m[k']? := by
  rw [Std.ExtTreeMap.getElem?_insert, if_neg]
  exact fun he => h (Std.LawfulEqCmp.compare_eq_iff_eq.mp he).symm

/-- An entry after an insertion is the new one, or it was there before. -/
theorem getElem?_insert_cases {m : Std.ExtTreeMap α β} {k k' : α} {v v' : β}
    (h : (m.insert k v)[k']? = some v') : k' = k ∧ v' = v ∨ k' ≠ k ∧ m[k']? = some v' := by
  by_cases hk : k' = k
  · subst hk
    rw [Std.ExtTreeMap.getElem?_insert_self] at h
    exact .inl ⟨rfl, (Option.some.inj h).symm⟩
  · rw [getElem?_insert_of_ne hk] at h
    exact .inr ⟨hk, h⟩

/-- An entry after an erasure was there before, under another key. -/
theorem getElem?_erase_cases {m : Std.ExtTreeMap α β} {k k' : α} {v : β}
    (h : (m.erase k)[k']? = some v) : k' ≠ k ∧ m[k']? = some v := by
  by_cases hk : k' = k
  · subst hk
    rw [Std.ExtTreeMap.getElem?_erase_self] at h
    cases h
  · rw [getElem?_erase_of_ne hk] at h
    exact ⟨hk, h⟩

/-- An entry after an insertion that keeps a present one is old or the one that was inserted. -/
theorem getElem?_insertIfNew_cases {m : Std.ExtTreeMap α β} {k k' : α} {v v' : β}
    (h : (m.insertIfNew k v)[k']? = some v') : m[k']? = some v' ∨ k' = k ∧ v' = v := by
  rw [Std.ExtTreeMap.getElem?_insertIfNew] at h
  split at h
  · rename_i hnew
    cases h
    exact .inr ⟨(Std.LawfulEqCmp.compare_eq_iff_eq.mp hnew.1).symm, rfl⟩
  · exact .inl h

theorem getElem?_insertIfNew_of_ne {m : Std.ExtTreeMap α β} {k k' : α} {v : β} (h : k' ≠ k) :
    (m.insertIfNew k v)[k']? = m[k']? := by
  rw [Std.ExtTreeMap.getElem?_insertIfNew, if_neg]
  exact fun hnew => h (Std.LawfulEqCmp.compare_eq_iff_eq.mp hnew.1).symm

theorem getElem?_insertIfNew_of_some {m : Std.ExtTreeMap α β} {k k' : α} {v v' : β} (h : m[k']? = some v') :
    (m.insertIfNew k v)[k']? = some v' := by
  rw [Std.ExtTreeMap.getElem?_insertIfNew, if_neg, h]
  rintro ⟨hk, hnew⟩
  obtain rfl := Std.LawfulEqCmp.compare_eq_iff_eq.mp hk
  rw [Std.ExtTreeMap.getElem?_eq_none hnew] at h
  cases h

/-- An insertion updates the map read as a function. -/
theorem getElem?_insert_eq_update [DecidableEq α] (m : Std.ExtTreeMap α β) (k : α) (v : β) :
    (fun k' => (m.insert k v)[k']?) = Function.update (fun k' => m[k']?) k (some v) := by
  funext k'
  by_cases hk : k' = k
  · subst hk
    rw [Function.update_self, Std.ExtTreeMap.getElem?_insert_self]
  · rw [Function.update_of_ne hk, getElem?_insert_of_ne hk]

theorem getElem?_erase_eq_update [DecidableEq α] (m : Std.ExtTreeMap α β) (k : α) :
    (fun k' => (m.erase k)[k']?) = Function.update (fun k' => m[k']?) k none := by
  funext k'
  by_cases hk : k' = k
  · subst hk
    rw [Function.update_self, Std.ExtTreeMap.getElem?_erase_self]
  · rw [Function.update_of_ne hk, getElem?_erase_of_ne hk]

omit [Std.LawfulEqOrd α] in
theorem getElem?_of_erase {m : Std.ExtTreeMap α β} {k k' : α} {v : β} (h : (m.erase k)[k']? = some v) :
    m[k']? = some v := by
  rw [Std.ExtTreeMap.getElem?_erase] at h
  split at h
  · cases h
  · exact h

theorem mem_erase_iff {m : Std.ExtTreeMap α β} {k k' : α} : k' ∈ m.erase k ↔ k' ≠ k ∧ k' ∈ m := by
  rw [Std.ExtTreeMap.mem_erase, ne_eq, Std.LawfulEqCmp.compare_eq_iff_eq, ne_eq, eq_comm]

theorem mem_insert_iff {m : Std.ExtTreeMap α β} {k k' : α} {v : β} :
    k' ∈ m.insert k v ↔ k' = k ∨ k' ∈ m := by
  rw [Std.ExtTreeMap.mem_insert, Std.LawfulEqCmp.compare_eq_iff_eq, eq_comm]

omit [Std.LawfulEqOrd α] in
theorem mem_of_getElem? {m : Std.ExtTreeMap α β} {k : α} {v : β} (h : m[k]? = some v) : k ∈ m := by
  rw [Std.ExtTreeMap.mem_iff_isSome_getElem?, h]
  rfl

omit [Std.LawfulEqOrd α] in
theorem not_contains_iff {m : Std.ExtTreeMap α β} {k : α} : (!m.contains k) = true ↔ k ∉ m := by
  rw [Bool.not_eq_true', ← Bool.not_eq_true, Std.ExtTreeMap.contains_iff_mem]

/-- The entry of a key, and the others. -/
theorem toList_perm {m : Std.ExtTreeMap α β} {k : α} {v : β} (h : m[k]? = some v) :
    m.toList.Perm ((k, v) :: (m.erase k).toList) := by
  have hout : (k, v) ∉ (m.erase k).toList := by
    rw [Std.ExtTreeMap.mem_toList_iff_getElem?_eq_some, Std.ExtTreeMap.getElem?_erase_self]
    simp
  rw [List.perm_ext_iff_of_nodup (nodup_toList m) (List.nodup_cons.mpr ⟨hout, nodup_toList _⟩)]
  rintro ⟨k', v'⟩
  rw [List.mem_cons, Std.ExtTreeMap.mem_toList_iff_getElem?_eq_some,
    Std.ExtTreeMap.mem_toList_iff_getElem?_eq_some]
  by_cases he : k' = k
  · subst he
    rw [h, Std.ExtTreeMap.getElem?_erase_self]
    simp [eq_comm]
  · rw [getElem?_erase_of_ne he]
    simp [he]

/-- The sum of `f` over the values of a map. -/
def total (f : β → ℕ) (m : Std.ExtTreeMap α β) : ℕ := (m.toList.map fun entry => f entry.2).sum

variable {f g : β → ℕ} {m : Std.ExtTreeMap α β} {k : α} {v : β}

omit [Std.LawfulEqOrd α] in
theorem total_empty : total f (∅ : Std.ExtTreeMap α β) = 0 := rfl

theorem total_erase (h : m[k]? = some v) : total f m = f v + total f (m.erase k) := by
  unfold total
  rw [((toList_perm h).map fun entry => f entry.2).sum_eq, List.map_cons, List.sum_cons]

theorem erase_of_notMem (h : k ∉ m) : m.erase k = m := by
  ext1 k'
  by_cases he : k' = k
  · subst he
    rw [Std.ExtTreeMap.getElem?_erase_self, Std.ExtTreeMap.getElem?_eq_none h]
  · exact getElem?_erase_of_ne he

theorem erase_insert (m : Std.ExtTreeMap α β) (k : α) (v : β) : (m.insert k v).erase k = m.erase k := by
  ext1 k'
  by_cases he : k' = k
  · subst he
    rw [Std.ExtTreeMap.getElem?_erase_self, Std.ExtTreeMap.getElem?_erase_self]
  · rw [getElem?_erase_of_ne he, getElem?_erase_of_ne he, getElem?_insert_of_ne he]

theorem erase_insert_self (h : k ∉ m) : (m.insert k v).erase k = m := by
  rw [erase_insert, erase_of_notMem h]

theorem insertIfNew_of_notMem (h : k ∉ m) : m.insertIfNew k v = m.insert k v := by
  ext1 k'
  rw [Std.ExtTreeMap.getElem?_insertIfNew, Std.ExtTreeMap.getElem?_insert]
  by_cases he : compare k k' = .eq
  · rw [if_pos he, if_pos ⟨he, h⟩]
  · rw [if_neg he, if_neg fun hc => he hc.1]

theorem total_insert (h : k ∉ m) : total f (m.insert k v) = f v + total f m := by
  rw [total_erase Std.ExtTreeMap.getElem?_insert_self, erase_insert_self h]

theorem total_congr (h : ∀ (k : α) (v : β), m[k]? = some v → f v = g v) : total f m = total g m := by
  unfold total
  congr 1
  apply List.map_congr_left
  rintro ⟨k, v⟩ hmem
  exact h k v (Std.ExtTreeMap.mem_toList_iff_getElem?_eq_some.mp hmem)

theorem total_eq_zero (h : ∀ (k : α) (v : β), m[k]? = some v → f v = 0) : total f m = 0 := by
  unfold total
  rw [List.sum_eq_zero]
  intro n hn
  obtain ⟨⟨k, v⟩, hmem, rfl⟩ := List.mem_map.mp hn
  exact h k v (Std.ExtTreeMap.mem_toList_iff_getElem?_eq_some.mp hmem)

end MapSums

import Mathlib.Data.Fintype.EquivFin
import Mathlib.Data.List.Induction
import Mathlib.Data.List.Nodup
import Mathlib.Order.Monotone.Basic

/-! The scan of a list for its nearest element strictly inside an open interval, and the
entries that lie beyond a point. The order of the list does not matter to what is found,
except among elements at one place. -/
namespace Nearest

variable {α β : Type*} [LinearOrder α] (place : β → α)

/-- Keep the element that is nearest so far, together with its place as the new bound. -/
def scan (before limit : α) (items : List β) : α × Option β :=
  items.foldl (fun nearest item =>
    if before < place item ∧ place item < nearest.1 then (place item, some item) else nearest)
    (limit, none)

/-- What a scan comes to: nothing inside the interval, or the nearest element inside it. -/
inductive Outcome (before limit : α) (items : List β) : α × Option β → Prop
  | free (beyond : ∀ item ∈ items, before < place item → limit ≤ place item) :
      Outcome before limit items (limit, none)
  | found {item} (mem : item ∈ items) (after : before < place item) (within : place item < limit)
      (least : ∀ other ∈ items, before < place other → place item ≤ place other) :
      Outcome before limit items (place item, some item)

theorem scan_outcome (before limit : α) (items : List β) :
    Outcome place before limit items (scan place before limit items) := by
  induction items using List.reverseRecOn with
  | nil => exact .free fun _ hmem => absurd hmem List.not_mem_nil
  | append_singleton items last ih =>
    unfold scan at ih ⊢
    rw [List.foldl_append, List.foldl_cons, List.foldl_nil]
    generalize items.foldl _ (limit, none) = nearest at ih ⊢
    cases ih with
    | free beyond =>
      split
      · rename_i hin
        refine .found (List.mem_append_right _ List.mem_cons_self) hin.1 hin.2 fun other hmem hother => ?_
        obtain hmem | hmem := List.mem_append.mp hmem
        · exact le_trans (le_of_lt hin.2) (beyond other hmem hother)
        · rw [List.mem_singleton.mp hmem]
      · rename_i hout
        refine .free fun item hmem hitem => ?_
        obtain hmem | hmem := List.mem_append.mp hmem
        · exact beyond item hmem hitem
        · rw [List.mem_singleton.mp hmem] at hitem ⊢
          exact not_lt.mp fun hlt => hout ⟨hitem, hlt⟩
    | @found item mem after within least =>
      split
      · rename_i hin
        refine .found (List.mem_append_right _ List.mem_cons_self) hin.1 (lt_trans hin.2 within)
          fun other hmem hother => ?_
        obtain hmem | hmem := List.mem_append.mp hmem
        · exact le_trans (le_of_lt hin.2) (least other hmem hother)
        · rw [List.mem_singleton.mp hmem]
      · rename_i hout
        refine .found (List.mem_append_left _ mem) after within fun other hmem hother => ?_
        obtain hmem | hmem := List.mem_append.mp hmem
        · exact least other hmem hother
        · rw [List.mem_singleton.mp hmem] at hother ⊢
          exact not_lt.mp fun hlt => hout ⟨hother, hlt⟩

variable {place}

/-- A list that visits every place of some items once, in order, is these items if and
only if no two of them share a place. -/
theorem perm_iff_nodup {visited items : List β}
    (hsorted : visited.Pairwise fun a b => place a < place b) (hsub : ∀ item ∈ visited, item ∈ items)
    (hcover : ∀ item ∈ items, ∃ other ∈ visited, place other = place item) :
    visited.Perm items ↔ (items.map place).Nodup := by
  have hplaces : (visited.map place).Nodup :=
    List.pairwise_map.mpr (hsorted.imp fun h => ne_of_lt h)
  constructor
  · intro hperm
    exact (hperm.map place).nodup_iff.mp hplaces
  · intro hnodup
    rw [List.perm_ext_iff_of_nodup (hplaces.of_map place) (hnodup.of_map place)]
    refine fun item => ⟨hsub item, fun hmem => ?_⟩
    obtain ⟨other, hother, heq⟩ := hcover item hmem
    have hsame : other = item := List.inj_on_of_nodup_map hnodup (hsub other hother) hmem heq
    exact hsame ▸ hother

/-- What rises strictly in a finite order until something happens makes it happen. -/
theorem exists_first_of_climbs {α : Type*} [LinearOrder α] [Finite α] (f : ℕ → α) (p : ℕ → Prop)
    (h : ∀ n, (∀ m ≤ n, ¬ p m) → f n < f (n + 1)) : ∃ n, p n ∧ ∀ m < n, ¬ p m := by
  by_contra hnever
  have hnot : ∀ n, ¬ p n := by
    intro n
    induction n using Nat.strong_induction_on with
    | _ n ih => exact fun hn => hnever ⟨n, hn, ih⟩
  have hmono : StrictMono f := strictMono_nat_of_lt_succ fun n => h n fun m _ => hnot m
  exact not_injective_infinite_finite f hmono.injective

end Nearest

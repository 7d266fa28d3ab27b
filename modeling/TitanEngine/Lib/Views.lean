import Mathlib.Data.List.Induction
import TitanEngine.Lib.MapSums

/-! A map that an observer keeps up to date from the changes that it is told: a key is
put with its value, or a key is dropped. -/
namespace Views

inductive Change (α β : Type)
  | put (key : α) (value : β)
  | drop (key : α)

namespace Change

def key {α β : Type} : Change α β → α
  | put key _ => key
  | drop key => key

def isPut {α β : Type} : Change α β → Bool
  | put .. => true
  | drop _ => false

end Change

variable {α β : Type} [Ord α] [Std.TransOrd α]

def Change.apply (m : Std.ExtTreeMap α β) : Change α β → Std.ExtTreeMap α β
  | put key value => m.insert key value
  | drop key => m.erase key

/-- The map after the changes, oldest first. -/
def replay (changes : List (Change α β)) (m : Std.ExtTreeMap α β) : Std.ExtTreeMap α β :=
  changes.foldl Change.apply m

theorem replay_append (changes changes' : List (Change α β)) (m : Std.ExtTreeMap α β) :
    replay (changes ++ changes') m = replay changes' (replay changes m) := List.foldl_append

/-- Each key is put only when it is absent, and dropped only when it is there. -/
def Timely : Std.ExtTreeMap α β → List (Change α β) → Prop
  | _, [] => True
  | m, .put key value :: rest => key ∉ m ∧ Timely (m.insert key value) rest
  | m, .drop key :: rest => key ∈ m ∧ Timely (m.erase key) rest

theorem timely_append {changes changes' : List (Change α β)} {m : Std.ExtTreeMap α β} :
    Timely m (changes ++ changes') ↔ Timely m changes ∧ Timely (replay changes m) changes' := by
  induction changes generalizing m with
  | nil => simp [Timely, replay]
  | cons change changes ih =>
    cases change with
    | put key value => simp [Timely, replay, Change.apply, ih, and_assoc]
    | drop key => simp [Timely, replay, Change.apply, ih, and_assoc]

variable [Std.LawfulEqOrd α]

section Diff
variable {m n : Std.ExtTreeMap α β} {k : α} {v : β}

theorem getElem?_replay_of_other {changes : List (Change α β)}
    (h : ∀ change ∈ changes, change.key ≠ k) : (replay changes m)[k]? = m[k]? := by
  induction changes generalizing m with
  | nil => rfl
  | cons change changes ih =>
    have hother : (change.apply m)[k]? = m[k]? := by
      have hne := h change List.mem_cons_self
      cases change with
      | put key value => exact MapSums.getElem?_insert_of_ne hne.symm
      | drop key => exact MapSums.getElem?_erase_of_ne hne.symm
    have hrest := ih (m := change.apply m) fun other hmem => h other (List.mem_cons_of_mem _ hmem)
    exact hrest.trans hother

theorem getElem?_replay_puts {puts : List (α × β)} (h : (k, v) ∈ puts)
    (hsame : ∀ v', (k, v') ∈ puts → v' = v) :
    (replay (puts.map fun entry => Change.put entry.1 entry.2) m)[k]? = some v := by
  induction puts using List.reverseRecOn with
  | nil => cases h
  | append_singleton puts last ih =>
    obtain ⟨key, value⟩ := last
    rw [List.map_append, replay_append]
    show ((replay _ m).insert key value)[k]? = some v
    by_cases hkey : k = key
    · subst hkey
      have hvalue := hsame value (by simp)
      rw [Std.ExtTreeMap.getElem?_insert_self, hvalue]
    · rw [MapSums.getElem?_insert_of_ne hkey]
      have hmem : (k, v) ∈ puts := by simpa [hkey] using h
      exact ih hmem fun v' hmem' => hsame v' (List.mem_append_left _ hmem')

theorem getElem?_replay_puts_iff {puts : List (α × β)}
    (hsame : ∀ (k : α) (v v' : β), (k, v) ∈ puts → (k, v') ∈ puts → v = v') :
    (replay (puts.map fun entry => Change.put entry.1 entry.2) ∅)[k]? = some v ↔ (k, v) ∈ puts := by
  constructor
  · intro hsome
    by_cases hput : ∃ v', (k, v') ∈ puts
    · obtain ⟨v', hmem⟩ := hput
      have hvalue := getElem?_replay_puts (m := ∅) hmem fun v'' hmem' => hsame k v'' v' hmem' hmem
      rw [hvalue] at hsome
      exact Option.some.inj hsome ▸ hmem
    · have hother : ∀ change ∈ puts.map fun entry => Change.put entry.1 entry.2, change.key ≠ k := by
        intro change hmem
        obtain ⟨⟨key, value⟩, hkey, rfl⟩ := List.mem_map.mp hmem
        rintro rfl
        exact hput ⟨value, hkey⟩
      rw [getElem?_replay_of_other hother] at hsome
      simp at hsome
  · intro hmem
    exact getElem?_replay_puts hmem fun v' hmem' => hsame k v' v hmem' hmem

theorem getElem?_replay_drops {drops : List α} (h : k ∈ drops) :
    (replay (drops.map Change.drop) m)[k]? = none := by
  induction drops using List.reverseRecOn with
  | nil => cases h
  | append_singleton drops last ih =>
    rw [List.map_append, replay_append]
    show ((replay _ m).erase last)[k]? = none
    by_cases hkey : k = last
    · rw [hkey, Std.ExtTreeMap.getElem?_erase_self]
    · rw [MapSums.getElem?_erase_of_ne hkey]
      exact ih (by simpa [hkey] using h)

/-- The entries of the new map whose keys are absent from the old one, and then the keys
that only the old one has, make the new map of the old one, unless a key that both have
changes its value. -/
theorem replay_diff {puts : List (α × β)} {drops : List α}
    (hputs : ∀ (k : α) (v : β), (k, v) ∈ puts ↔ n[k]? = some v ∧ k ∉ m)
    (hdrops : ∀ k, k ∈ drops ↔ k ∈ m ∧ k ∉ n)
    (hsame : ∀ (k : α) (v v' : β), m[k]? = some v → n[k]? = some v' → v = v') :
    replay (puts.map (fun entry => Change.put entry.1 entry.2) ++ drops.map Change.drop) m = n := by
  ext1 k
  rw [replay_append]
  by_cases hdrop : k ∈ drops
  · rw [getElem?_replay_drops hdrop, Std.ExtTreeMap.getElem?_eq_none ((hdrops k).mp hdrop).2]
  · have hother : ∀ change ∈ drops.map (Change.drop : α → Change α β), change.key ≠ k := by
      intro change hmem
      obtain ⟨key, hkey, rfl⟩ := List.mem_map.mp hmem
      rintro rfl
      exact hdrop hkey
    rw [getElem?_replay_of_other hother]
    by_cases hold : k ∈ m
    · have hunput : ∀ change ∈ puts.map fun entry => Change.put entry.1 entry.2, change.key ≠ k := by
        intro change hmem
        obtain ⟨⟨key, value⟩, hkey, rfl⟩ := List.mem_map.mp hmem
        rintro rfl
        exact ((hputs _ _).mp hkey).2 hold
      have hnew : k ∈ n := by
        by_contra habsent
        exact hdrop ((hdrops k).mpr ⟨hold, habsent⟩)
      rw [getElem?_replay_of_other hunput, Std.ExtTreeMap.getElem?_eq_some_getElem hold,
        Std.ExtTreeMap.getElem?_eq_some_getElem hnew]
      have heq := hsame k _ _ (Std.ExtTreeMap.getElem?_eq_some_getElem hold)
        (Std.ExtTreeMap.getElem?_eq_some_getElem hnew)
      rw [heq]
    · cases hvalue : n[k]? with
      | some v =>
        refine getElem?_replay_puts ((hputs k v).mpr ⟨hvalue, hold⟩) fun v' hmem => ?_
        exact Option.some.inj (((hputs k v').mp hmem).1.symm.trans hvalue)
      | none =>
        have hunput : ∀ change ∈ puts.map fun entry => Change.put entry.1 entry.2, change.key ≠ k := by
          intro change hmem
          obtain ⟨⟨key, value⟩, hkey, rfl⟩ := List.mem_map.mp hmem
          rintro rfl
          cases hvalue.symm.trans ((hputs _ _).mp hkey).1
        rw [getElem?_replay_of_other hunput, Std.ExtTreeMap.getElem?_eq_none hold]

end Diff

/-- The flags alternate, the first one being `next`. -/
def Alternating : Bool → List Bool → Prop
  | _, [] => True
  | next, flag :: flags => flag = next ∧ Alternating (!next) flags

/-- The changes of one key, as whether they are puts. -/
def kinds [DecidableEq α] (k : α) (changes : List (Change α β)) : List Bool :=
  (changes.filter fun change => change.key = k).map Change.isPut

theorem Timely.alternating [DecidableEq α] {changes : List (Change α β)} {m : Std.ExtTreeMap α β}
    (h : Timely m changes) (k : α) : Alternating (!m.contains k) (kinds k changes) := by
  induction changes generalizing m with
  | nil => exact trivial
  | cons change changes ih =>
    cases change with
    | put key value =>
      have hrest := ih h.2
      by_cases hkey : key = k
      · subst hkey
        have habsent : m.contains key = false := by
          rw [← Bool.not_eq_true, Std.ExtTreeMap.contains_iff_mem]
          exact h.1
        simpa [kinds, Change.key, Change.isPut, Alternating, habsent] using hrest
      · have hcontains : (m.insert key value).contains k = m.contains k := by
          rw [Std.ExtTreeMap.contains_insert]
          simp [hkey]
        rw [hcontains] at hrest
        simpa [kinds, Change.key, hkey] using hrest
    | drop key =>
      have hrest := ih h.2
      by_cases hkey : key = k
      · subst hkey
        have hpresent : m.contains key = true := Std.ExtTreeMap.contains_iff_mem.mpr h.1
        simpa [kinds, Change.key, Change.isPut, Alternating, hpresent] using hrest
      · have hcontains : (m.erase key).contains k = m.contains k := by
          rw [Std.ExtTreeMap.contains_erase]
          simp [hkey]
        rw [hcontains] at hrest
        simpa [kinds, Change.key, hkey] using hrest

end Views

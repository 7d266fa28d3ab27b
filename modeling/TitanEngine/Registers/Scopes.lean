import TitanEngine.Model.Contexts
import TitanEngine.Registers.Cache

/-! Thread scopes and assignments under any answers of the engine: what is left to be written
when they fail, and to which thread it is written. -/
namespace TitanEngine.RegisterSession
open Lanes
variable {Cell Thread : Type*} {e : RegisterEngine Cell} {s s' : RegisterSession Cell Thread}
  {t u : Thread} {values : List (TitanRegister × ULONG_PTR)} {marks : List (ℕ × (ℕ → Bool))}

def types (s : RegisterSession Cell Thread) (i : ℕ) : DebugValueType := (s.Values i).type

/-- What is assigned before a register refuses, with cached values of these types. -/
def assignedBy (e : RegisterEngine Cell) (type : ℕ → DebugValueType) :
    List (TitanRegister × ULONG_PTR) → List (ℕ × (ℕ → Bool))
  | [] => []
  | (reg, v) :: rest =>
    match e.TitanRegIndexMap reg with
    | none => []
    | some i =>
      match (type i).integer with
      | none => []
      | some w => (i, integerBits w v) :: assignedBy e type rest

/-- No register refuses. -/
def Assignable (e : RegisterEngine Cell) (type : ℕ → DebugValueType)
    (values : List (TitanRegister × ULONG_PTR)) : Prop :=
  ∀ p ∈ values, ∃ i w, e.TitanRegIndexMap p.1 = some i ∧ (type i).integer = some w

def markAll (marks : List (ℕ × (ℕ → Bool))) (s : RegisterSession Cell Thread) :
    RegisterSession Cell Thread :=
  marks.foldl (fun s m => s.mark m.1 m.2) s

@[simp] theorem markAll_nil : s.markAll [] = s := rfl

@[simp] theorem markAll_cons {m : ℕ × (ℕ → Bool)} :
    s.markAll (m :: marks) = (s.mark m.1 m.2).markAll marks := rfl

@[simp] theorem types_mark {i : ℕ} {bits : ℕ → Bool} : (s.mark i bits).types = s.types := by
  funext j
  by_cases hj : j = i
  · subst hj
    simp [types, mark]
  · simp [types, mark, hj]

@[simp] theorem markAll_threads : (s.markAll marks).threads = s.threads := by
  induction marks generalizing s with
  | nil => rfl
  | cons m marks ih => exact ih

@[simp] theorem markAll_current : (s.markAll marks).current = s.current := by
  induction marks generalizing s with
  | nil => rfl
  | cons m marks ih => exact ih

@[simp] theorem markAll_handles :
    (s.markAll marks).threadHandleToIndex = s.threadHandleToIndex := by
  induction marks generalizing s with
  | nil => rfl
  | cons m marks ih => exact ih

theorem markAll_onThread :
    ({ s with current := u } : RegisterSession Cell Thread).markAll marks =
      { s.markAll marks with current := u } := by
  induction marks generalizing s with
  | nil => rfl
  | cons m marks ih => exact ih (s := s.mark m.1 m.2)

theorem markAll_changed {i : ℕ} :
    (s.markAll marks).Changed i = true ↔ i ∈ marks.map Prod.fst ∨ s.Changed i = true := by
  induction marks generalizing s with
  | nil => simp
  | cons m marks ih =>
    rw [markAll_cons, ih, List.map_cons, List.mem_cons]
    by_cases him : i = m.1
    · subst him
      simp [mark]
    · simp [mark, him]

theorem markAll_values_of_not_mem {i : ℕ} (h : i ∉ marks.map Prod.fst) :
    (s.markAll marks).Values i = s.Values i := by
  induction marks generalizing s with
  | nil => rfl
  | cons m marks ih =>
    rw [List.map_cons, List.mem_cons, not_or] at h
    rw [markAll_cons, ih h.2]
    simp [mark, h.1]

/-- The last of the values that are assigned to a register is the one it waits with. -/
theorem markAll_values_of_mem {i : ℕ} (h : i ∈ marks.map Prod.fst) :
    ∃ m ∈ marks, m.1 = i ∧ ((s.markAll marks).Values i).bits = m.2 := by
  induction marks generalizing s with
  | nil => cases h
  | cons m marks ih =>
    by_cases htail : i ∈ marks.map Prod.fst
    · obtain ⟨m', hm', hi, hbits⟩ := ih (s := s.mark m.1 m.2) htail
      exact ⟨m', List.mem_cons_of_mem m hm', hi, hbits⟩
    · rw [List.map_cons, List.mem_cons] at h
      obtain rfl := h.resolve_right htail
      refine ⟨m, List.mem_cons_self, rfl, ?_⟩
      rw [markAll_cons, markAll_values_of_not_mem htail]
      simp [mark]

theorem mem_assignedBy {type : ℕ → DebugValueType} {m : ℕ × (ℕ → Bool)}
    (h : Assignable e type values) : m ∈ assignedBy e type values ↔
      ∃ p ∈ values, ∃ w, e.TitanRegIndexMap p.1 = some m.1 ∧ (type m.1).integer = some w ∧
        m.2 = integerBits w p.2 := by
  induction values with
  | nil => simp [assignedBy]
  | cons p rest ih =>
    obtain ⟨i, w, hi, hw⟩ := h p List.mem_cons_self
    have hrest := ih fun q hq => h q (List.mem_cons_of_mem p hq)
    have hassigned : assignedBy e type (p :: rest) =
        (i, integerBits w p.2) :: assignedBy e type rest := by simp [assignedBy, hi, hw]
    rw [hassigned, List.mem_cons, hrest]
    constructor
    · rintro (rfl | ⟨q, hq, hassign⟩)
      · exact ⟨p, List.mem_cons_self, w, hi, hw, rfl⟩
      · exact ⟨q, List.mem_cons_of_mem p hq, hassign⟩
    · rintro ⟨q, hq, w', hindex, hwidth, hbits⟩
      rcases List.mem_cons.1 hq with rfl | hq
      · obtain rfl : m.1 = i := by
          rw [hi] at hindex
          exact (Option.some.inj hindex).symm
        rw [hw] at hwidth
        obtain rfl := Option.some.inj hwidth
        exact .inl (Prod.ext rfl hbits)
      · exact .inr ⟨q, hq, w', hindex, hwidth, hbits⟩

theorem setValues_fst : (s.SetValues e values).1 = s.markAll (assignedBy e s.types values) := by
  induction values generalizing s with
  | nil => rfl
  | cons p rest ih =>
    rw [SetValues, assignedBy]
    cases hi : e.TitanRegIndexMap p.1 with
    | none =>
      have hset : s.SetValue e p.1 p.2 = (s, false) := by simp [SetValue, hi]
      simp [hset]
    | some i =>
      cases hw : (s.types i).integer with
      | none =>
        have hset : s.SetValue e p.1 p.2 = (s, false) := by
          rw [types] at hw
          simp [SetValue, hi, hw]
        simp [hset, hw]
      | some w =>
        rw [setValue_eq p.2 hi hw]
        simp [ih, hw]

theorem setValues_snd : (s.SetValues e values).2 = true ↔ Assignable e s.types values := by
  induction values generalizing s with
  | nil => simp [SetValues, Assignable]
  | cons p rest ih =>
    rw [SetValues]
    rcases setValue_cases (e := e) (s := s) p.1 p.2 with hset | ⟨i, w, hi, hw, hset⟩
    · simp only [hset, Bool.false_eq_true, not_false_eq_true, if_true, false_iff]
      intro hassign
      obtain ⟨i, w, hi, hw⟩ := hassign p List.mem_cons_self
      rw [setValue_eq p.2 hi hw] at hset
      simp at hset
    · simp only [hset, not_true_eq_false, if_false, ih, types_mark]
      constructor
      · intro hrest q hq
        rcases List.mem_cons.1 hq with rfl | hq
        · exact ⟨i, w, hi, hw⟩
        · exact hrest q hq
      · intro hall q hq
        exact hall q (List.mem_cons_of_mem p hq)

theorem not_quiet_markAll {i : ℕ} (hi : i < e.Count) (hmarked : s.Changed i = true) :
    ¬ (s.markAll marks).Quiet e := by
  induction marks generalizing s with
  | nil =>
    intro hquiet
    rw [markAll_nil] at hquiet
    rw [hquiet i hi] at hmarked
    cases hmarked
  | cons m marks ih =>
    apply ih
    by_cases him : i = m.1
    · simp [mark, him]
    · simp [mark, him, hmarked]

/-- An assignment leaves something to be written. -/
theorem not_quiet_of_assigned {type : ℕ → DebugValueType} (h : assignedBy e type values ≠ []) :
    ¬ (s.markAll (assignedBy e type values)).Quiet e := by
  cases values with
  | nil => exact absurd rfl h
  | cons p rest =>
    rw [assignedBy] at h ⊢
    cases hi : e.TitanRegIndexMap p.1 with
    | none => simp [hi] at h
    | some i =>
      cases hw : (type i).integer with
      | none => simp [hi, hw] at h
      | some w =>
        simp only [hw, markAll_cons]
        exact not_quiet_markAll (e.lt_Count hi) (by simp [mark])

theorem assignedBy_ne_nil {type : ℕ → DebugValueType} (h : Assignable e type values)
    (hvalues : values ≠ []) : assignedBy e type values ≠ [] := by
  cases values with
  | nil => exact absurd rfl hvalues
  | cons p rest =>
    obtain ⟨i, w, hi, hw⟩ := h p List.mem_cons_self
    simp [assignedBy, hi, hw]

/-- Equal as far as a flush of the current thread can tell. -/
structure Alike (e : RegisterEngine Cell) (s s' : RegisterSession Cell Thread) : Prop where
  bits : s.threads s.current = s'.threads s'.current
  changed : ∀ i < e.Count, s.Changed i = s'.Changed i
  values : ∀ i < e.Count, s.Changed i = true → (s.Values i).bits = (s'.Values i).bits

theorem Alike.mark {i : ℕ} {bits : ℕ → Bool} (h : Alike e s s') :
    Alike e (s.mark i bits) (s'.mark i bits) := by
  constructor
  · exact h.bits
  · intro j hj
    by_cases hji : j = i
    · simp [RegisterSession.mark, hji]
    · simpa [RegisterSession.mark, hji] using h.changed j hj
  · intro j hj hchanged
    by_cases hji : j = i
    · subst hji
      simp [RegisterSession.mark]
    · simp only [RegisterSession.mark, Function.update_of_ne hji] at hchanged ⊢
      exact h.values j hj hchanged

theorem Alike.markAll (h : Alike e s s') : Alike e (s.markAll marks) (s'.markAll marks) := by
  induction marks generalizing s s' with
  | nil => exact h
  | cons m marks ih => exact ih h.mark

theorem Alike.flushed (h : Alike e s s') : s.flushed e = s'.flushed e := by
  rw [RegisterSession.flushed, RegisterSession.flushed, h.bits]
  exact storeMarked_congr h.changed h.values

theorem alike_of_quiet (h : s.Quiet e) (h' : s'.Quiet e)
    (hbits : s.threads s.current = s'.threads s'.current) : Alike e s s' := by
  constructor
  · exact hbits
  · intro i hi
    rw [h i hi, h' i hi]
  · intro i hi hchanged
    rw [h i hi] at hchanged
    cases hchanged

/-- Registers that wait and hold what the thread holds change nothing. -/
theorem flushed_of_own (h : ∀ i, (s.Values i).bits = (e.lane i).get (s.threads s.current)) :
    s.flushed e = s.threads s.current := by
  apply storeAll_eq_self
  intro i _ k _
  rw [h i]

variable [DecidableEq Thread] {a : ScopeAnswers} {h : HANDLE}

/-- The scope is valid, so the export's body runs. -/
def Entered (e : RegisterEngine Cell) (a : ScopeAnswers) (s : RegisterSession Cell Thread)
    (t : Thread) : Prop :=
  a.currentThread = true ∧ (t = s.current ∨
    (a.flushBefore = true ∨ s.Quiet e) ∧ a.select = true ∧ a.readBefore ≠ none)

/-- The types of the cached values in the body of an export for the thread. -/
def scopeTypes (e : RegisterEngine Cell) (a : ScopeAnswers) (s : RegisterSession Cell Thread)
    (t : Thread) : ℕ → DebugValueType :=
  if t = s.current then s.types
  else fun i => if (a.readBefore.getD fun _ => false) i then e.type i else .invalid

/-- Entering a scope changes no register. Where it switches, nothing waits to be written. -/
theorem enterScope_cases (e : RegisterEngine Cell) (a : ScopeAnswers) (s : RegisterSession Cell Thread)
    (t : Thread) :
    (¬ Entered e a s t ∧ ∃ s' scope, s.enterScope e a t = (s', scope) ∧ scope.mValid = false ∧
        scope.mPreviousIndex = s.current ∧ s'.effective e = s.effective e ∧
        (scope.mSwitched = true → s'.Quiet e) ∧ s'.threadHandleToIndex = s.threadHandleToIndex) ∨
      (Entered e a s t ∧ t = s.current ∧ s.enterScope e a t = (s, ⟨s.current, false, true⟩)) ∨
      (Entered e a s t ∧ t ≠ s.current ∧ ∃ s', s.enterScope e a t = (s', ⟨s.current, true, true⟩) ∧
        s'.threads = s.effective e ∧ s'.current = t ∧ s'.Quiet e ∧ (s'.Values = fun i =>
          ⟨scopeTypes e a s t i, (e.lane i).get (s.effective e t)⟩) ∧
        s'.threadHandleToIndex = s.threadHandleToIndex) := by
  cases hcurrent : a.currentThread with
  | false =>
    refine .inl ⟨fun hentered => ?_, s, ⟨s.current, false, false⟩, ?_, rfl, rfl, rfl, ?_, rfl⟩
    · rw [hentered.1] at hcurrent
      cases hcurrent
    · simp [enterScope, hcurrent]
    · intro hswitched
      cases hswitched
  | true =>
  by_cases ht : t = s.current
  · subst ht
    exact .inr (.inl ⟨⟨hcurrent, .inl rfl⟩, rfl, enterScope_self hcurrent⟩)
  · rcases flush_cases (e := e) (s := s) a.flushBefore with
      ⟨hrefused, hwaits, hflush⟩ | ⟨hok, s₁, hflush, hwritten⟩
    · refine .inl ⟨?_, s, ⟨s.current, false, false⟩, ?_, rfl, rfl, rfl, ?_, rfl⟩
      · rintro ⟨-, h | ⟨h | h, -⟩⟩
        · exact ht h
        · rw [hrefused] at h
          cases h
        · exact hwaits h
      · simp [enterScope, hcurrent, ht, hflush]
      · intro hswitched
        cases hswitched
    · cases hselect : a.select with
      | false =>
        refine .inl ⟨?_, s₁, ⟨s.current, false, false⟩, ?_, rfl, rfl, hwritten.effective, ?_,
          hwritten.handles⟩
        · rintro ⟨-, h | ⟨-, h, -⟩⟩
          · exact ht h
          · rw [hselect] at h
            cases h
        · simp [enterScope, hcurrent, ht, hflush, hselect]
        · intro hswitched
          cases hswitched
      | true =>
        have hquiet : ({ s₁ with current := t } : RegisterSession Cell Thread).Quiet e :=
          hwritten.quiet
        cases hread : a.readBefore with
        | none =>
          refine .inl ⟨?_, { s₁ with current := t }, ⟨s.current, true, false⟩, ?_, rfl, rfl, ?_,
            fun _ => hquiet, hwritten.handles⟩
          · rintro ⟨-, h | ⟨-, -, h⟩⟩
            · exact ht h
            · exact h hread
          · simp [enterScope, hcurrent, ht, hflush, hselect, hread, Read]
          · rw [hquiet.effective]
            exact hwritten.threads
        | some readable =>
          have hentered : Entered e a s t :=
            ⟨hcurrent, .inr ⟨hok, hselect, by simp [hread]⟩⟩
          refine .inr (.inr ⟨hentered, ht, ({ s₁ with current := t }.Read e a.readBefore).1, ?_, ?_⟩)
          · simp [enterScope, hcurrent, ht, hflush, hselect, hread, Read]
          · rw [hread]
            refine ⟨hwritten.threads, rfl, hquiet, ?_, hwritten.handles⟩
            simp [Read, scopeTypes, ht, hread, hwritten.threads]

/-- What is left to be written when a scope is left belongs to the thread of the scope as long
as that is the engine's thread. -/
theorem leaveScope_effective (prev : Thread) (valid : Bool)
    (hown : s.Quiet e ∨ a.flushAfter = true ∨ a.restore = false) :
    (s.leaveScope e a ⟨prev, true, valid⟩).effective e = s.effective e := by
  rcases flush_cases (e := e) (s := s) a.flushAfter with
    ⟨hrefused, hwaits, hflush⟩ | ⟨-, s₁, hflush, hwritten⟩
  · have hrestore : a.restore = false := by
      rcases hown with h | h | h
      · exact absurd h hwaits
      · rw [hrefused] at h
        cases h
      · exact h
    simp [leaveScope, hflush, hrestore]
  · cases hrestore : a.restore with
    | false => simpa [leaveScope, hflush, hrestore] using hwritten.effective
    | true =>
      have hquiet : (({ s₁ with current := prev } : RegisterSession Cell Thread).Read e
          a.readAfter).1.Quiet e := by
        cases a.readAfter <;> exact hwritten.quiet
      have hthreads : (({ s₁ with current := prev } : RegisterSession Cell Thread).Read e
          a.readAfter).1.threads = s.effective e := by
        cases a.readAfter <;> exact hwritten.threads
      simp only [leaveScope, hflush, hrestore, if_true, not_true_eq_false, if_false]
      rw [hquiet.effective, hthreads]

/-- When it cannot be written, reading the cache again on the previous thread drops it. -/
theorem leaveScope_dropped (prev : Thread) (valid : Bool) (hwaits : ¬ s.Quiet e)
    (hflush : a.flushAfter = false) (hrestore : a.restore = true) {readable : ℕ → Bool}
    (hread : a.readAfter = some readable) :
    (s.leaveScope e a ⟨prev, true, valid⟩).effective e = s.threads := by
  have hrefused : s.Flush e a.flushAfter = (s, false) := by
    rcases flush_cases (e := e) (s := s) a.flushAfter with ⟨-, -, h⟩ | ⟨h | h, -⟩
    · exact h
    · rw [hflush] at h
      cases h
    · exact absurd h hwaits
  simp only [leaveScope, hrefused, hrestore, hread, if_true, not_true_eq_false, if_false]
  rw [effective, flushed_of_own]
  · exact Function.update_eq_self _ _
  · intro i
    rfl

/-- When it cannot be written and the cache cannot be read, it waits for the previous thread. -/
theorem leaveScope_misplaced (prev : Thread) (valid : Bool) (hwaits : ¬ s.Quiet e)
    (hflush : a.flushAfter = false) (hrestore : a.restore = true) (hread : a.readAfter = none) :
    s.leaveScope e a ⟨prev, true, valid⟩ = { s with current := prev } := by
  have hrefused : s.Flush e a.flushAfter = (s, false) := by
    rcases flush_cases (e := e) (s := s) a.flushAfter with ⟨-, -, h⟩ | ⟨h | h, -⟩
    · exact h
    · rw [hflush] at h
      cases h
    · exact absurd h hwaits
  simp [leaveScope, hrefused, hrestore, hread, Read]

end TitanEngine.RegisterSession

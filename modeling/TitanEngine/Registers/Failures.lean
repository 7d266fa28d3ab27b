import TitanEngine.Registers.Scopes

/-! What a context write that fails leaves behind. Registers are marked one by one, flushed,
and then the extended state is written, and each stage can be the last. -/
namespace TitanEngine.RegisterSession
open Lanes
variable {Cell Thread : Type*} [DecidableEq Thread] {e : RegisterEngine Cell} {L : NativeLayout Cell}
  {s s' : RegisterSession Cell Thread} {t u : Thread} {a : ScopeAnswers} {h : HANDLE}
  {values : List (TitanRegister × ULONG_PTR)} {marks : List (ℕ × (ℕ → Bool))}

/-- The session for the thread `u` in a call about `t`. A call about another thread than the
engine's first writes what waits. -/
def about (e : RegisterEngine Cell) (s : RegisterSession Cell Thread) (t u : Thread) :
    RegisterSession Cell Thread :=
  if t = s.current then s
  else { s with threads := s.effective e, current := u, Changed := fun _ => false }

/-- The values are those that the thread's registers hold anyway. -/
def Restated (e : RegisterEngine Cell) (s : RegisterSession Cell Thread) (t u : Thread)
    (marks : List (ℕ × (ℕ → Bool))) : Prop :=
  ((s.about e t u).markAll marks).flushed e = s.effective e u

/-- The thread that gets what has been assigned and could not be written in the export. -/
def landing (a : ScopeAnswers) (s : RegisterSession Cell Thread) (t : Thread) : Option Thread :=
  if t = s.current ∨ a.flushAfter = true ∨ a.restore = false then some t
  else if a.readAfter.isSome then none
  else some s.current

/-- What waits to be written lands nowhere, or is what its thread holds anyway. -/
def Harmless (e : RegisterEngine Cell) (a : ScopeAnswers) (s : RegisterSession Cell Thread)
    (t : Thread) (marks : List (ℕ × (ℕ → Bool))) : Prop :=
  ∀ u, landing a s t = some u → Restated e s t u marks

theorem update_effective_eq_iff {f : Cell → Bool} :
    Function.update (s.effective e) t f = s.effective e ↔ f = s.effective e t := by
  constructor
  · intro hupdate
    rw [← hupdate, Function.update_self]
  · rintro rfl
    exact Function.update_eq_self _ _

theorem about_of_ne (ht : t ≠ s.current) : s.about e t u =
    { s with threads := s.effective e, current := u, Changed := fun _ => false } := if_neg ht

/-- The session in which the body of an export for another thread runs. -/
structure Switched (e : RegisterEngine Cell) (a : ScopeAnswers) (s : RegisterSession Cell Thread)
    (t : Thread) (s' : RegisterSession Cell Thread) : Prop where
  threads : s'.threads = s.effective e
  current : s'.current = t
  quiet : s'.Quiet e
  values : s'.Values = fun i => ⟨scopeTypes e a s t i, (e.lane i).get (s.effective e t)⟩
  handles : s'.threadHandleToIndex = s.threadHandleToIndex

theorem Switched.types (hs : Switched e a s t s') : s'.types = scopeTypes e a s t := by
  funext i
  simp [RegisterSession.types, hs.values]

theorem Switched.flushed (hs : Switched e a s t s') (ht : t ≠ s.current) :
    ((({ s' with current := u } : RegisterSession Cell Thread)).markAll marks).flushed e =
      ((s.about e t u).markAll marks).flushed e := by
  apply Alike.flushed
  apply Alike.markAll
  rw [about_of_ne ht]
  apply alike_of_quiet
  · exact hs.quiet
  · intro i _
    rfl
  · show s'.threads u = s.effective e u
    rw [hs.threads]

theorem Switched.flushed_self (hs : Switched e a s t s') (ht : t ≠ s.current) :
    (s'.markAll marks).flushed e = ((s.about e t t).markAll marks).flushed e := by
  have hself : ({ s' with current := t } : RegisterSession Cell Thread) = s' := by
    rw [← hs.current]
  rw [← hs.flushed ht, hself]

theorem Switched.effective (hs : Switched e a s t s') (ht : t ≠ s.current) :
    (s'.markAll marks).effective e =
      Function.update (s.effective e) t (((s.about e t t).markAll marks).flushed e) := by
  rw [RegisterSession.effective, markAll_threads, markAll_current, hs.threads, hs.current,
    hs.flushed_self ht]

/-- Marks that the body leaves behind are harmless exactly where `landing` says so. -/
theorem Switched.left_iff (hs : Switched e a s t s') (ht : t ≠ s.current)
    (hwaits : ¬ (s'.markAll marks).Quiet e) :
    ((s'.markAll marks).leaveScope e a ⟨s.current, true, true⟩).effective e = s.effective e ↔
      Harmless e a s t marks := by
  by_cases hown : a.flushAfter = true ∨ a.restore = false
  · rw [leaveScope_effective s.current true (.inr hown), hs.effective ht, update_effective_eq_iff]
    have hland : landing a s t = some t := if_pos (.inr hown)
    constructor
    · intro hsame u hu
      rw [hland] at hu
      obtain rfl := Option.some.inj hu
      exact hsame
    · intro hharmless
      exact hharmless t hland
  · push Not at hown
    have hflush : a.flushAfter = false := Bool.eq_false_of_not_eq_true hown.1
    have hrestore : a.restore = true := Bool.eq_true_of_not_eq_false hown.2
    have hland : landing a s t = if a.readAfter.isSome then none else some s.current := by
      simp [landing, ht, hflush, hrestore]
    cases hread : a.readAfter with
    | some readable =>
      rw [leaveScope_dropped s.current true hwaits hflush hrestore hread, markAll_threads, hs.threads]
      simp only [true_iff]
      intro u hu
      rw [hland, hread] at hu
      cases hu
    | none =>
      have hmisplaced : ((s'.markAll marks).leaveScope e a ⟨s.current, true, true⟩).effective e =
          Function.update (s.effective e) s.current
            (((s.about e t s.current).markAll marks).flushed e) := by
        rw [leaveScope_misplaced s.current true hwaits hflush hrestore hread, ← markAll_onThread,
          RegisterSession.effective, markAll_threads, markAll_current, hs.flushed ht]
        show Function.update s'.threads _ _ = _
        rw [hs.threads]
      rw [hmisplaced, update_effective_eq_iff]
      rw [hread] at hland
      constructor
      · intro hsame u hu
        rw [hland] at hu
        obtain rfl := Option.some.inj hu
        exact hsame
      · intro hharmless
        exact hharmless s.current hland

theorem inThread_refused {α : Type*} (hhandle : s.threadHandleToIndex h = some t)
    (hentered : ¬ Entered e a s t) (failed : α)
    (body : Thread → RegisterSession Cell Thread → RegisterSession Cell Thread × α) :
    ∃ s', s.inThread e a h failed body = (s', failed) ∧ s'.effective e = s.effective e := by
  rcases enterScope_cases e a s t with
    ⟨-, s', scope, henter, hvalid, -, heffective, hquiet, -⟩ | ⟨h, -⟩ | ⟨h, -⟩
  · refine ⟨s'.leaveScope e a scope, by simp [inThread, hhandle, henter, hvalid], ?_⟩
    cases hswitched : scope.mSwitched with
    | false => simpa [leaveScope, hswitched] using heffective
    | true =>
      obtain ⟨prev, switched, valid⟩ := scope
      obtain rfl : switched = true := hswitched
      rw [leaveScope_effective prev valid (.inl (hquiet rfl)), heffective]
  · exact absurd h hentered
  · exact absurd h hentered

theorem inThread_current {α : Type*} (hhandle : s.threadHandleToIndex h = some s.current)
    (hcurrent : a.currentThread = true) (failed : α)
    (body : Thread → RegisterSession Cell Thread → RegisterSession Cell Thread × α) :
    s.inThread e a h failed body = body s.current s := by
  simp [inThread, hhandle, enterScope_self hcurrent, leaveScope]

theorem inThread_switched {α : Type*} (hhandle : s.threadHandleToIndex h = some t)
    (ht : t ≠ s.current) (hentered : Entered e a s t) (failed : α)
    (body : Thread → RegisterSession Cell Thread → RegisterSession Cell Thread × α) :
    ∃ s', Switched e a s t s' ∧ s.inThread e a h failed body =
      ((body t s').1.leaveScope e a ⟨s.current, true, true⟩, (body t s').2) := by
  rcases enterScope_cases e a s t with ⟨h, -⟩ | ⟨-, h, -⟩ | ⟨-, -, s', henter, h₁, h₂, h₃, h₄, h₅⟩
  · exact absurd hentered h
  · exact absurd h ht
  · exact ⟨s', ⟨h₁, h₂, h₃, h₄, h₅⟩, by simp [inThread, hhandle, henter]⟩

theorem restated_nil (ht : t ≠ s.current) : Restated e s t u [] := by
  rw [Restated, about_of_ne ht]
  exact Quiet.flushed fun i _ => rfl

theorem Switched.left_assigned_iff (hs : Switched e a s t s') (ht : t ≠ s.current) :
    ((s'.markAll (assignedBy e s'.types values)).leaveScope e a ⟨s.current, true, true⟩).effective e =
        s.effective e ↔ Harmless e a s t (assignedBy e (scopeTypes e a s t) values) := by
  rw [hs.types]
  by_cases hassigned : assignedBy e (scopeTypes e a s t) values = []
  · rw [hassigned, markAll_nil, leaveScope_effective s.current true (.inl hs.quiet), hs.quiet.effective,
      hs.threads]
    simp only [true_iff]
    intro u _
    exact restated_nil ht
  · exact hs.left_iff ht (not_quiet_of_assigned hassigned)

theorem left_current_iff : (s.markAll marks).effective e = s.effective e ↔
    Harmless e a s s.current marks := by
  have hland : landing a s s.current = some s.current := if_pos (.inl rfl)
  have hrestated : Restated e s s.current s.current marks ↔
      (s.markAll marks).flushed e = s.effective e s.current := by
    simp [Restated, about]
  have heffective : (s.markAll marks).effective e =
      Function.update (s.effective e) s.current ((s.markAll marks).flushed e) := by
    simp [effective]
  rw [heffective, update_effective_eq_iff, ← hrestated]
  constructor
  · intro hsame u hu
    rw [hland] at hu
    obtain rfl := Option.some.inj hu
    exact hsame
  · intro hharmless
    exact hharmless s.current hland

/-- Registers are assigned, and then flushed. -/
def writeBody (e : RegisterEngine Cell) (values : List (TitanRegister × ULONG_PTR)) (flush : Bool)
    (s : RegisterSession Cell Thread) : RegisterSession Cell Thread × Bool :=
  let assigned := s.SetValues e values
  if ¬ assigned.2 then (assigned.1, false) else assigned.1.Flush e flush

theorem writeBody_cases (hvalues : values ≠ []) (flush : Bool) :
    ((¬ Assignable e s.types values ∨ flush = false) ∧
        s.writeBody e values flush = (s.markAll (assignedBy e s.types values), false)) ∨
      (Assignable e s.types values ∧ flush = true ∧ ∃ s', s.writeBody e values flush = (s', true) ∧
        Written e (s.markAll (assignedBy e s.types values)) s') := by
  by_cases hassign : Assignable e s.types values
  · have hset : (s.SetValues e values).2 = true := setValues_snd.2 hassign
    have hwaits := not_quiet_of_assigned (s := s) (assignedBy_ne_nil hassign hvalues)
    have hbody : s.writeBody e values flush =
        (s.markAll (assignedBy e s.types values)).Flush e flush := by
      rw [writeBody, if_neg (by simp [hset]), setValues_fst]
    rw [hbody]
    rcases flush_cases (e := e) (s := s.markAll (assignedBy e s.types values)) flush with
      ⟨hrefused, -, hflush⟩ | ⟨hok | hquiet, s', hflush, hwritten⟩
    · exact .inl ⟨.inr hrefused, hflush⟩
    · exact .inr ⟨hassign, hok, s', hflush, hwritten⟩
    · exact absurd hquiet hwaits
  · have hset : (s.SetValues e values).2 = false := by
      rw [← Bool.not_eq_true, setValues_snd]
      exact hassign
    refine .inl ⟨.inl hassign, ?_⟩
    rw [writeBody, if_pos (by simp [hset]), setValues_fst]

theorem setContextDataEx_eq (flush : Bool) (reg : TitanRegister) (v : ULONG_PTR) :
    s.SetContextDataEx e a flush h reg v =
      s.inThread e a h false fun _ s => s.writeBody e [(reg, v)] flush := by
  have hsingle : ∀ s : RegisterSession Cell Thread, s.SetValues e [(reg, v)] = s.SetValue e reg v := by
    intro s
    rcases setValue_cases (e := e) (s := s) reg v with hset | ⟨i, w, -, -, hset⟩
    · simp [SetValues, hset]
    · simp [SetValues, hset]
  simp only [SetContextDataEx, writeBody, hsingle]

/-- The condition under which a failed `SetContextDataEx` changes no register. -/
def DataHarmless (e : RegisterEngine Cell) (a : ScopeAnswers) (h : HANDLE) (reg : TitanRegister)
    (v : ULONG_PTR) (s : RegisterSession Cell Thread) : Prop :=
  ∀ t, s.threadHandleToIndex h = some t → Entered e a s t →
    Harmless e a s t (assignedBy e (scopeTypes e a s t) [(reg, v)])

theorem setContextDataEx_failed {flush : Bool} {reg : TitanRegister} {v : ULONG_PTR}
    (hfail : (s.SetContextDataEx e a flush h reg v).2 = false) :
    (s.SetContextDataEx e a flush h reg v).1.effective e = s.effective e ↔
      DataHarmless e a h reg v s := by
  rw [setContextDataEx_eq] at hfail ⊢
  cases hhandle : s.threadHandleToIndex h with
  | none =>
    simp only [inThread, hhandle, true_iff]
    intro t ht
    rw [hhandle] at ht
    cases ht
  | some t =>
    have hcondition : DataHarmless e a h reg v s ↔ (Entered e a s t →
        Harmless e a s t (assignedBy e (scopeTypes e a s t) [(reg, v)])) := by
      constructor
      · intro hharmless
        exact hharmless t hhandle
      · intro hharmless t' ht'
        rw [hhandle] at ht'
        obtain rfl := Option.some.inj ht'
        exact hharmless
    rw [hcondition]
    by_cases hentered : Entered e a s t
    · simp only [hentered, true_implies]
      by_cases ht : t = s.current
      · subst ht
        have hrun := inThread_current (e := e) hhandle hentered.1 false
          fun _ s => s.writeBody e [(reg, v)] flush
        rw [hrun] at hfail ⊢
        rcases writeBody_cases (e := e) (s := s) (List.cons_ne_nil (reg, v) []) flush with
          ⟨-, hbody⟩ | ⟨-, -, s', hbody, -⟩
        · rw [hbody, left_current_iff (a := a)]
          simp [scopeTypes]
        · rw [hbody] at hfail
          cases hfail
      · obtain ⟨s', hswitched, hrun⟩ := inThread_switched (e := e) hhandle ht hentered false
          fun _ s => s.writeBody e [(reg, v)] flush
        rw [hrun] at hfail ⊢
        rcases writeBody_cases (e := e) (s := s') (List.cons_ne_nil (reg, v) []) flush with
          ⟨-, hbody⟩ | ⟨-, -, s'', hbody, -⟩
        · rw [hbody]
          exact hswitched.left_assigned_iff ht
        · rw [hbody] at hfail
          cases hfail
    · obtain ⟨s', hrun, heffective⟩ := inThread_refused (e := e) hhandle hentered false
        fun _ s => s.writeBody e [(reg, v)] flush
      rw [hrun]
      simp [hentered, heffective]

section Handles

theorem flush_handles (ok : Bool) :
    (s.Flush e ok).1.threadHandleToIndex = s.threadHandleToIndex := by
  rcases flush_cases (e := e) (s := s) ok with ⟨-, -, hflush⟩ | ⟨-, s', hflush, hwritten⟩
  · rw [hflush]
  · rw [hflush]
    exact hwritten.handles

omit [DecidableEq Thread] in
theorem read_handles (answer : Readout) :
    (s.Read e answer).1.threadHandleToIndex = s.threadHandleToIndex := by
  cases answer <;> rfl

theorem leaveScope_handles (scope : DebugThreadScope Thread) :
    (s.leaveScope e a scope).threadHandleToIndex = s.threadHandleToIndex := by
  unfold leaveScope
  split_ifs
  · exact (read_handles _).trans (flush_handles _)
  · exact flush_handles _
  · rfl

theorem inThread_handles {α : Type*} (failed : α)
    {body : Thread → RegisterSession Cell Thread → RegisterSession Cell Thread × α}
    (hbody : ∀ t s, (body t s).1.threadHandleToIndex = s.threadHandleToIndex) :
    (s.inThread e a h failed body).1.threadHandleToIndex = s.threadHandleToIndex := by
  cases hhandle : s.threadHandleToIndex h with
  | none => simp [inThread, hhandle]
  | some t =>
    rcases enterScope_cases e a s t with
      ⟨-, s', scope, henter, hvalid, -, -, -, hhandles⟩ | ⟨-, -, henter⟩ |
        ⟨-, -, s', henter, -, -, -, -, hhandles⟩
    · simp [inThread, hhandle, henter, hvalid, leaveScope_handles, hhandles]
    · simp [inThread, hhandle, henter, leaveScope_handles, hbody]
    · simp [inThread, hhandle, henter, leaveScope_handles, hbody, hhandles]

end Handles

/-- An export that only reads changes no register, whatever the engine answers. -/
theorem inThread_reads {α : Type*} (failed : α)
    {body : Thread → RegisterSession Cell Thread → RegisterSession Cell Thread × α}
    (hbody : ∀ t s, (body t s).1 = s) :
    (s.inThread e a h failed body).1.effective e = s.effective e := by
  cases hhandle : s.threadHandleToIndex h with
  | none => simp [inThread, hhandle]
  | some t =>
    by_cases hentered : Entered e a s t
    · by_cases ht : t = s.current
      · subst ht
        rw [inThread_current hhandle hentered.1, hbody]
      · obtain ⟨s', hswitched, hrun⟩ := inThread_switched (e := e) hhandle ht hentered failed body
        rw [hrun, hbody, leaveScope_effective s.current true (.inl hswitched.quiet),
          hswitched.quiet.effective, hswitched.threads]
    · obtain ⟨s', hrun, heffective⟩ := inThread_refused (e := e) hhandle hentered failed body
      rw [hrun]
      exact heffective

section Full
variable {b : ContextAnswers} {c : TITAN_ENGINE_CONTEXT}

/-- The thread's registers after the general ones have been assigned and flushed. -/
def assignedBits (e : RegisterEngine Cell) (b : ContextAnswers) (c : TITAN_ENGINE_CONTEXT)
    (s : RegisterSession Cell Thread) (t : Thread) : Cell → Bool :=
  ((s.about e t t).markAll (assignedBy e (scopeTypes e b.scope s t) c.values)).flushed e

/-- The thread's registers after the extended state has been written as well. -/
def storedBits (e : RegisterEngine Cell) (L : NativeLayout Cell) (b : ContextAnswers)
    (c : TITAN_ENGINE_CONTEXT) (s : RegisterSession Cell Thread) (t : Thread) : Cell → Bool :=
  writeExtendedContext L c (s.assignedBits e b c t)

def fullBody (e : RegisterEngine Cell) (L : NativeLayout Cell) (b : ContextAnswers)
    (c : TITAN_ENGINE_CONTEXT) (thread : Thread) (s : RegisterSession Cell Thread) :
    RegisterSession Cell Thread × Bool :=
  let written := s.writeBody e c.values b.flush
  if ¬ written.2 then (written.1, false)
  else if ¬ b.load then (written.1, false)
  else if ¬ b.setContext then (written.1, false)
  else
    (written.1.setContext thread
      (writeExtendedContext L c (written.1.threads thread))).Read e b.read

theorem setFullContextDataEx_eq :
    s.SetFullContextDataEx e L b h c = s.inThread e b.scope h false (fullBody e L b c) := by
  unfold SetFullContextDataEx
  congr 1
  funext thread s
  cases hset : (s.SetValues e c.values).2 with
  | false => simp [fullBody, writeBody, hset]
  | true => simp [fullBody, writeBody, hset]

/-- The stages at which the body stops, and what it has done to its thread by then. -/
theorem fullBody_cases (t : Thread) :
    ((¬ Assignable e s.types c.values ∨ b.flush = false) ∧
        s.fullBody e L b c t = (s.markAll (assignedBy e s.types c.values), false)) ∨
      (Assignable e s.types c.values ∧ b.flush = true ∧ (b.load = false ∨ b.setContext = false) ∧
        ∃ s', s.fullBody e L b c t = (s', false) ∧
          Written e (s.markAll (assignedBy e s.types c.values)) s') ∨
      (Assignable e s.types c.values ∧ b.flush = true ∧ b.load = true ∧ b.setContext = true ∧
        ∃ s', Written e (s.markAll (assignedBy e s.types c.values)) s' ∧ s.fullBody e L b c t =
          (s'.setContext t (writeExtendedContext L c (s'.threads t))).Read e b.read) := by
  have hvalues : c.values ≠ [] := List.cons_ne_nil _ _
  rcases writeBody_cases (e := e) (s := s) hvalues b.flush with
    ⟨hstage, hbody⟩ | ⟨hassign, hflush, s', hbody, hwritten⟩
  · exact .inl ⟨hstage, by simp [fullBody, hbody]⟩
  · by_cases hstage : b.load = false ∨ b.setContext = false
    · refine .inr (.inl ⟨hassign, hflush, hstage, s', ?_, hwritten⟩)
      rcases hstage with hload | hset
      · simp [fullBody, hbody, hload]
      · simp [fullBody, hbody, hset]
    · push Not at hstage
      have hload : b.load = true := Bool.eq_true_of_not_eq_false hstage.1
      have hset : b.setContext = true := Bool.eq_true_of_not_eq_false hstage.2
      exact .inr (.inr ⟨hassign, hflush, hload, hset, s', hwritten, by simp [fullBody, hbody, hload, hset]⟩)

/-- A session whose thread is the one written to, before and after the switch alike. -/
structure AtBody (e : RegisterEngine Cell) (a : ScopeAnswers) (s : RegisterSession Cell Thread)
    (t : Thread) (s' : RegisterSession Cell Thread) : Prop where
  current : s'.current = t
  types : s'.types = scopeTypes e a s t
  effective : ∀ marks, (s'.markAll marks).effective e =
    Function.update (s.effective e) t (((s.about e t t).markAll marks).flushed e)

theorem atBody_current : AtBody e a s s.current s := by
  constructor
  · rfl
  · simp [scopeTypes]
  · intro marks
    simp [effective, about]

theorem Switched.atBody (hs : Switched e a s t s') (ht : t ≠ s.current) : AtBody e a s t s' :=
  ⟨hs.current, hs.types, fun _ => hs.effective ht⟩

theorem AtBody.written {s₁ s₂ : RegisterSession Cell Thread} (hs : AtBody e b.scope s t s₁)
    (hwritten : Written e (s₁.markAll (assignedBy e s₁.types c.values)) s₂) :
    s₂.threads = Function.update (s.effective e) t (s.assignedBits e b c t) := by
  rw [hwritten.threads, hs.effective, hs.types]
  rfl

theorem AtBody.stored {s₁ s₂ : RegisterSession Cell Thread} (hs : AtBody e b.scope s t s₁)
    (hwritten : Written e (s₁.markAll (assignedBy e s₁.types c.values)) s₂) :
    (s₂.setContext t (writeExtendedContext L c (s₂.threads t))).threads =
      Function.update (s.effective e) t (s.storedBits e L b c t) := by
  show Function.update s₂.threads t _ = _
  rw [hs.written hwritten]
  simp [storedBits]

omit [DecidableEq Thread] in
theorem read_threads (answer : Readout) : (s.Read e answer).1.threads = s.threads := by
  cases answer <;> rfl

omit [DecidableEq Thread] in
theorem Quiet.read (hs : s.Quiet e) (answer : Readout) : (s.Read e answer).1.Quiet e := by
  cases answer <;> exact hs

omit [DecidableEq Thread] in
theorem read_snd (answer : Readout) : (s.Read e answer).2 = answer.isSome := by
  cases answer <;> rfl

theorem leaveScope_quiet (hs : s.Quiet e) (scope : DebugThreadScope Thread) :
    (s.leaveScope e a scope).Quiet e ∧ (s.leaveScope e a scope).threads = s.threads := by
  have hflush : s.Flush e a.flushAfter = (s, true) := by
    simp [Flush, filter_eq_nil_iff.2 hs]
  unfold leaveScope
  rw [hflush]
  split_ifs
  · have hprev : ({ s with current := scope.mPreviousIndex } : RegisterSession Cell Thread).Quiet e := hs
    exact ⟨hprev.read _, read_threads _⟩
  · exact ⟨hs, rfl⟩
  · exact ⟨hs, rfl⟩

/-- How far `SetFullContextDataEx` gets, and what it leaves of the registers. -/
theorem setFullContextDataEx_cases (hhandle : s.threadHandleToIndex h = some t) :
    (¬ Entered e b.scope s t ∧ (s.SetFullContextDataEx e L b h c).2 = false ∧
        (s.SetFullContextDataEx e L b h c).1.effective e = s.effective e) ∨
      (Entered e b.scope s t ∧ (¬ Assignable e (scopeTypes e b.scope s t) c.values ∨ b.flush = false) ∧
        (s.SetFullContextDataEx e L b h c).2 = false ∧
        ((s.SetFullContextDataEx e L b h c).1.effective e = s.effective e ↔
          Harmless e b.scope s t (assignedBy e (scopeTypes e b.scope s t) c.values))) ∨
      (Entered e b.scope s t ∧ Assignable e (scopeTypes e b.scope s t) c.values ∧ b.flush = true ∧
        (b.load = false ∨ b.setContext = false) ∧ (s.SetFullContextDataEx e L b h c).2 = false ∧
        (s.SetFullContextDataEx e L b h c).1.effective e =
          Function.update (s.effective e) t (s.assignedBits e b c t)) ∨
      (Entered e b.scope s t ∧ Assignable e (scopeTypes e b.scope s t) c.values ∧ b.flush = true ∧
        b.load = true ∧ b.setContext = true ∧
        (s.SetFullContextDataEx e L b h c).2 = b.read.isSome ∧
        (s.SetFullContextDataEx e L b h c).1.Quiet e ∧
        (s.SetFullContextDataEx e L b h c).1.threads =
          Function.update (s.effective e) t (s.storedBits e L b c t)) := by
  rw [setFullContextDataEx_eq]
  by_cases hentered : Entered e b.scope s t
  · by_cases ht : t = s.current
    · subst ht
      have hat : AtBody e b.scope s s.current s := atBody_current
      rw [inThread_current hhandle hentered.1]
      rcases fullBody_cases (e := e) (L := L) (s := s) (b := b) (c := c) s.current with
        ⟨hstage, hbody⟩ | ⟨hassign, hflush, hstage, s', hbody, hwritten⟩ |
          ⟨hassign, hflush, hload, hset, s', hwritten, hbody⟩
      · rw [hat.types] at hstage hbody
        rw [hbody]
        exact .inr (.inl ⟨hentered, hstage, rfl, left_current_iff⟩)
      · rw [hat.types] at hassign
        rw [hbody]
        refine .inr (.inr (.inl ⟨hentered, hassign, hflush, hstage, rfl, ?_⟩))
        rw [hwritten.quiet.effective, hat.written hwritten]
      · rw [hat.types] at hassign
        rw [hbody]
        have hquiet : (s'.setContext s.current
            (writeExtendedContext L c (s'.threads s.current))).Quiet e := hwritten.quiet
        refine .inr (.inr (.inr ⟨hentered, hassign, hflush, hload, hset, read_snd _, hquiet.read _, ?_⟩))
        rw [read_threads, hat.stored hwritten]
    · obtain ⟨s₁, hswitched, hrun⟩ := inThread_switched (e := e) hhandle ht hentered false
        (fullBody e L b c)
      have hat := hswitched.atBody ht
      rw [hrun]
      rcases fullBody_cases (e := e) (L := L) (s := s₁) (b := b) (c := c) t with
        ⟨hstage, hbody⟩ | ⟨hassign, hflush, hstage, s', hbody, hwritten⟩ |
          ⟨hassign, hflush, hload, hset, s', hwritten, hbody⟩
      · rw [hbody]
        rw [hat.types] at hstage
        exact .inr (.inl ⟨hentered, hstage, rfl, hswitched.left_assigned_iff ht⟩)
      · rw [hbody]
        rw [hat.types] at hassign
        obtain ⟨hquiet, hthreads⟩ := leaveScope_quiet (a := b.scope) hwritten.quiet
          ⟨s.current, true, true⟩
        refine .inr (.inr (.inl ⟨hentered, hassign, hflush, hstage, rfl, ?_⟩))
        rw [hquiet.effective, hthreads, hat.written hwritten]
      · rw [hbody]
        rw [hat.types] at hassign
        have hstored : (s'.setContext t (writeExtendedContext L c (s'.threads t))).Quiet e :=
          hwritten.quiet
        obtain ⟨hquiet, hthreads⟩ := leaveScope_quiet (a := b.scope) (hstored.read b.read)
          ⟨s.current, true, true⟩
        refine .inr (.inr (.inr ⟨hentered, hassign, hflush, hload, hset, read_snd _, hquiet, ?_⟩))
        rw [hthreads, read_threads, hat.stored hwritten]
  · obtain ⟨s', hrun, heffective⟩ := inThread_refused (e := e) hhandle hentered false
      (fullBody e L b c)
    rw [hrun]
    exact .inl ⟨hentered, rfl, heffective⟩

/-- `SetFullContextDataEx` gets to its end. -/
def Stored (e : RegisterEngine Cell) (b : ContextAnswers) (c : TITAN_ENGINE_CONTEXT)
    (s : RegisterSession Cell Thread) (t : Thread) : Prop :=
  Entered e b.scope s t ∧ Assignable e (scopeTypes e b.scope s t) c.values ∧ b.flush = true ∧
    b.load = true ∧ b.setContext = true ∧ b.read.isSome = true

theorem setFullContextDataEx_stored_iff (hhandle : s.threadHandleToIndex h = some t) :
    (s.SetFullContextDataEx e L b h c).2 = true ↔ Stored e b c s t := by
  rcases setFullContextDataEx_cases (e := e) (L := L) (b := b) (c := c) hhandle with
    ⟨hentered, hfail, -⟩ | ⟨-, hstage, hfail, -⟩ | ⟨-, -, -, hstage, hfail, -⟩ |
      ⟨hentered, hassign, hflush, hload, hset, hok, -⟩
  · rw [hfail]
    exact iff_of_false Bool.false_ne_true fun hstored => hentered hstored.1
  · rw [hfail]
    refine iff_of_false Bool.false_ne_true ?_
    rintro ⟨-, hassign, hflush, -⟩
    rcases hstage with h | h
    · exact h hassign
    · rw [hflush] at h
      cases h
  · rw [hfail]
    refine iff_of_false Bool.false_ne_true ?_
    rintro ⟨-, -, -, hload, hset, -⟩
    rcases hstage with h | h
    · rw [hload] at h
      cases h
    · rw [hset] at h
      cases h
  · rw [hok]
    exact ⟨fun hread => ⟨hentered, hassign, hflush, hload, hset, hread⟩, fun hstored => hstored.2.2.2.2.2⟩

omit [DecidableEq Thread] in
theorem read_current (answer : Readout) : (s.Read e answer).1.current = s.current := by
  cases answer <;> rfl

theorem flush_current (ok : Bool) : (s.Flush e ok).1.current = s.current := by
  unfold Flush
  split_ifs <;> rfl

theorem leaveScope_current (previous : Thread) (valid : Bool) :
    (s.leaveScope e a ⟨previous, true, valid⟩).current = if a.restore then previous else s.current := by
  unfold leaveScope
  simp only [not_true_eq_false, if_false]
  split_ifs
  · exact read_current _
  · exact flush_current _

theorem fullBody_current (t : Thread) : (s.fullBody e L b c t).1.current = s.current := by
  rcases fullBody_cases (e := e) (L := L) (s := s) (b := b) (c := c) t with
    ⟨-, hbody⟩ | ⟨-, -, -, s', hbody, hwritten⟩ | ⟨-, -, -, -, s', hwritten, hbody⟩
  · rw [hbody, markAll_current]
  · rw [hbody, hwritten.current, markAll_current]
  · rw [hbody, read_current]
    exact hwritten.current.trans markAll_current

/-- The thread stays current where it was, and where the way back fails. -/
theorem setFullContextDataEx_current_iff (hhandle : s.threadHandleToIndex h = some t)
    (hentered : Entered e b.scope s t) :
    t = (s.SetFullContextDataEx e L b h c).1.current ↔ t = s.current ∨ b.scope.restore = false := by
  rw [setFullContextDataEx_eq]
  by_cases ht : t = s.current
  · subst ht
    rw [inThread_current hhandle hentered.1, fullBody_current]
    exact iff_of_true rfl (.inl rfl)
  · obtain ⟨s', hswitched, hrun⟩ := inThread_switched (e := e) hhandle ht hentered false
      (fullBody e L b c)
    rw [hrun, or_iff_right ht, leaveScope_current, fullBody_current, hswitched.current]
    cases b.scope.restore with
    | false => exact iff_of_true rfl rfl
    | true => exact iff_of_false ht Bool.noConfusion

/-- The condition under which a `SetFullContextDataEx` that fails at one of its stages changes
no register. -/
structure FullHarmless (e : RegisterEngine Cell) (L : NativeLayout Cell) (b : ContextAnswers)
    (c : TITAN_ENGINE_CONTEXT) (s : RegisterSession Cell Thread) (t : Thread) : Prop where
  unflushed : ¬ Assignable e (scopeTypes e b.scope s t) c.values ∨ b.flush = false →
    Harmless e b.scope s t (assignedBy e (scopeTypes e b.scope s t) c.values)
  flushed : Assignable e (scopeTypes e b.scope s t) c.values → b.flush = true →
    b.load = false ∨ b.setContext = false → s.assignedBits e b c t = s.effective e t
  stored : Assignable e (scopeTypes e b.scope s t) c.values → b.flush = true →
    b.load = true → b.setContext = true → s.storedBits e L b c t = s.effective e t

theorem setFullContextDataEx_unchanged_iff (hhandle : s.threadHandleToIndex h = some t) :
    (s.SetFullContextDataEx e L b h c).1.effective e = s.effective e ↔
      (Entered e b.scope s t → FullHarmless e L b c s t) := by
  rcases setFullContextDataEx_cases (e := e) (L := L) (b := b) (c := c) hhandle with
    ⟨hentered, -, heffective⟩ | ⟨hentered, hstage, -, hiff⟩ |
      ⟨hentered, hassign, hflush, hstage, -, heffective⟩ |
        ⟨hentered, hassign, hflush, hload, hset, -, hquiet, hthreads⟩
  · simp [heffective, hentered]
  · rw [hiff]
    constructor
    · intro hharmless _
      refine ⟨fun _ => hharmless, fun hassign hflush => ?_, fun hassign hflush => ?_⟩
      · rcases hstage with h | h
        · exact absurd hassign h
        · rw [hflush] at h
          cases h
      · rcases hstage with h | h
        · exact absurd hassign h
        · rw [hflush] at h
          cases h
    · intro hharmless
      exact (hharmless hentered).unflushed hstage
  · rw [heffective, update_effective_eq_iff]
    constructor
    · intro hsame _
      refine ⟨fun h => ?_, fun _ _ _ => hsame, fun _ _ hload hset => ?_⟩
      · rcases h with h | h
        · exact absurd hassign h
        · rw [hflush] at h
          cases h
      · rcases hstage with h | h
        · rw [hload] at h
          cases h
        · rw [hset] at h
          cases h
    · intro hharmless
      exact (hharmless hentered).flushed hassign hflush hstage
  · rw [hquiet.effective, hthreads, update_effective_eq_iff]
    constructor
    · intro hsame _
      refine ⟨fun h => ?_, fun _ _ h => ?_, fun _ _ _ _ => hsame⟩
      · rcases h with h | h
        · exact absurd hassign h
        · rw [hflush] at h
          cases h
      · rcases h with h | h
        · rw [hload] at h
          cases h
        · rw [hset] at h
          cases h
    · intro hharmless
      exact (hharmless hentered).stored hassign hflush hload hset

theorem getFullContextDataEx_effective :
    (s.GetFullContextDataEx e L b h).1.effective e = s.effective e := by
  apply inThread_reads
  intro t s
  split_ifs <;> rfl

theorem getFullContextDataEx_handles :
    (s.GetFullContextDataEx e L b h).1.threadHandleToIndex = s.threadHandleToIndex := by
  apply inThread_handles
  intro t s
  split_ifs <;> rfl

theorem setFullContextDataEx_handles :
    (s.SetFullContextDataEx e L b h c).1.threadHandleToIndex = s.threadHandleToIndex := by
  rw [setFullContextDataEx_eq]
  apply inThread_handles
  intro t s
  rcases fullBody_cases (e := e) (L := L) (s := s) (b := b) (c := c) t with
    ⟨-, hbody⟩ | ⟨-, -, -, s', hbody, hwritten⟩ | ⟨-, -, -, -, s', hwritten, hbody⟩
  · rw [hbody, markAll_handles]
  · rw [hbody, hwritten.handles, markAll_handles]
  · rw [hbody, read_handles]
    exact hwritten.handles.trans markAll_handles

end Full

section Avx512
variable {b : ContextAnswers} {c : TITAN_ENGINE_CONTEXT_AVX512}

/-- The last stage of `SetAVX512Context` gets as far as `SetThreadContext`. -/
def Reached (e : RegisterEngine Cell) (L : NativeLayout Cell) (b : ContextAnswers)
    (s : RegisterSession Cell Thread) (t : Thread) : Prop :=
  Entered e b.scope s t ∧ L.avx512Enabled = true ∧ b.load = true ∧ L.avx512Located = true ∧
    b.setContext = true

def avx512Body (L : NativeLayout Cell) (e : RegisterEngine Cell) (b : ContextAnswers)
    (c : TITAN_ENGINE_CONTEXT_AVX512) (thread : Thread) (s : RegisterSession Cell Thread) :
    RegisterSession Cell Thread × Bool :=
  if ¬ L.avx512Enabled then (s, false)
  else if ¬ b.load then (s, false)
  else if ¬ L.avx512Located then (s, false)
  else if ¬ b.setContext then (s, false)
  else (s.setContext thread (writeAvx512 L c (s.threads thread))).Read e b.read

theorem avx512Body_cases (hentered : Entered e b.scope s t) (s' : RegisterSession Cell Thread) :
    (¬ Reached e L b s t ∧ s'.avx512Body L e b c t = (s', false)) ∨
      (Reached e L b s t ∧ s'.avx512Body L e b c t =
        (s'.setContext t (writeAvx512 L c (s'.threads t))).Read e b.read) := by
  by_cases hreached : Reached e L b s t
  · refine .inr ⟨hreached, ?_⟩
    obtain ⟨-, henabled, hload, hlocated, hset⟩ := hreached
    simp [avx512Body, henabled, hload, hlocated, hset]
  · refine .inl ⟨hreached, ?_⟩
    unfold avx512Body
    split_ifs with henabled hload hlocated hset
    · exact absurd ⟨hentered, henabled, hload, hlocated, hset⟩ hreached
    · rfl
    · rfl
    · rfl
    · rfl

/-- What the last stage does to the registers, when nothing waits to be written. -/
theorem avx512_cases (hquiet : s.Quiet e) (hhandle : s.threadHandleToIndex h = some t) :
    (¬ Reached e L b s t ∧ (s.inThread e b.scope h false (avx512Body L e b c)).2 = false ∧
        (s.inThread e b.scope h false (avx512Body L e b c)).1.effective e = s.threads) ∨
      (Reached e L b s t ∧
        (s.inThread e b.scope h false (avx512Body L e b c)).2 = b.read.isSome ∧
        (s.inThread e b.scope h false (avx512Body L e b c)).1.Quiet e ∧
        (s.inThread e b.scope h false (avx512Body L e b c)).1.threads =
          Function.update s.threads t (writeAvx512 L c (s.threads t))) := by
  by_cases hentered : Entered e b.scope s t
  · by_cases ht : t = s.current
    · subst ht
      rw [inThread_current hhandle hentered.1]
      rcases avx512Body_cases (L := L) (c := c) hentered s with ⟨hreached, hbody⟩ | ⟨hreached, hbody⟩
      · rw [hbody]
        exact .inl ⟨hreached, rfl, hquiet.effective⟩
      · rw [hbody]
        have hset : (s.setContext s.current (writeAvx512 L c (s.threads s.current))).Quiet e := hquiet
        exact .inr ⟨hreached, read_snd _, hset.read _, read_threads _⟩
    · obtain ⟨s', hswitched, hrun⟩ := inThread_switched (e := e) hhandle ht hentered false
        (avx512Body L e b c)
      have hthreads : s'.threads = s.threads := hswitched.threads.trans hquiet.effective
      rw [hrun]
      rcases avx512Body_cases (L := L) (c := c) hentered s' with ⟨hreached, hbody⟩ | ⟨hreached, hbody⟩
      · rw [hbody]
        obtain ⟨hleft, hsame⟩ := leaveScope_quiet (a := b.scope) hswitched.quiet ⟨s.current, true, true⟩
        exact .inl ⟨hreached, rfl, by rw [hleft.effective, hsame, hthreads]⟩
      · rw [hbody]
        have hset : (s'.setContext t (writeAvx512 L c (s'.threads t))).Quiet e := hswitched.quiet
        obtain ⟨hleft, hsame⟩ := leaveScope_quiet (a := b.scope) (hset.read b.read)
          ⟨s.current, true, true⟩
        refine .inr ⟨hreached, read_snd _, hleft, ?_⟩
        rw [hsame, read_threads]
        show Function.update s'.threads t _ = _
        rw [hthreads]
  · obtain ⟨s', hrun, heffective⟩ := inThread_refused (e := e) hhandle hentered false
      (avx512Body L e b c)
    rw [hrun]
    exact .inl ⟨fun hreached => hentered hreached.1, rfl, heffective.trans hquiet.effective⟩

end Avx512

section Composed
variable {b : Avx512Answers} {c : TITAN_ENGINE_CONTEXT_AVX512}

/-- After `SetAVXContext` has come to its end, the last stage gets as far as `SetThreadContext`. -/
def ReachedAfter (L : NativeLayout Cell) (b : Avx512Answers) (got : RegisterSession Cell Thread)
    (t : Thread) : Prop :=
  b.avx512.scope.currentThread = true ∧
    (t = got.current ∨ b.set.scope.restore = false ∨
      b.avx512.scope.select = true ∧ b.avx512.scope.readBefore ≠ none) ∧
    L.avx512Enabled = true ∧ b.avx512.load = true ∧ L.avx512Located = true ∧ b.avx512.setContext = true

/-- The condition under which a `SetAVX512Context` that fails at one of its stages changes no
register. It reads the context `titan` in `got` and writes it back before it looks whether
there is AVX-512. -/
structure Avx512Harmless (e : RegisterEngine Cell) (L : NativeLayout Cell) (b : Avx512Answers)
    (c : TITAN_ENGINE_CONTEXT_AVX512) (s got : RegisterSession Cell Thread)
    (titan : TITAN_ENGINE_CONTEXT) (t : Thread) : Prop where
  unset : ¬ Stored e b.set (c.avx titan) got t → Entered e b.set.scope got t →
    FullHarmless e L b.set (c.avx titan) got t
  avx : Stored e b.set (c.avx titan) got t → ¬ ReachedAfter L b got t →
    got.storedBits e L b.set (c.avx titan) t = s.effective e t
  avx512 : Stored e b.set (c.avx titan) got t → ReachedAfter L b got t →
    writeAvx512 L c (got.storedBits e L b.set (c.avx titan) t) = s.effective e t

omit [DecidableEq Thread] in
theorem reachedAfter_iff {got set : RegisterSession Cell Thread} (hquiet : set.Quiet e)
    (hcurrent : t = set.current ↔ t = got.current ∨ b.set.scope.restore = false) :
    Reached e L b.avx512 set t ↔ ReachedAfter L b got t := by
  unfold Reached ReachedAfter Entered
  simp only [hcurrent, hquiet, or_true, true_and, and_assoc, or_assoc]

theorem setAVX512Context_eq : s.SetAVX512Context e L b h c =
    let got := s.GetAVXContext e L b.get h
    if ¬ got.2.2 then (got.1, false)
    else
      let set := got.1.SetAVXContext e L b.set h (c.avx got.2.1)
      if ¬ set.2 then (set.1, false)
      else set.1.inThread e b.avx512.scope h false (avx512Body L e b.avx512 c) := rfl

/-- What is left of the registers once `SetAVXContext` has succeeded. -/
theorem setAVXContext_succeeded {a : ContextAnswers} (titan : TITAN_ENGINE_CONTEXT)
    (hhandle : s.threadHandleToIndex h = some t) (hset : (s.SetAVXContext e L a h titan).2 = true) :
    (s.SetAVXContext e L a h titan).1.Quiet e ∧ (s.SetAVXContext e L a h titan).1.threads =
      Function.update (s.effective e) t (s.storedBits e L a titan t) := by
  rw [SetAVXContext] at hset ⊢
  rcases setFullContextDataEx_cases (e := e) (L := L) (b := a) (c := titan) hhandle with
    ⟨-, hfail, -⟩ | ⟨-, -, hfail, -⟩ | ⟨-, -, -, -, hfail, -⟩ | ⟨-, -, -, -, -, -, hquiet, hthreads⟩
  · rw [hfail] at hset
    cases hset
  · rw [hfail] at hset
    cases hset
  · rw [hfail] at hset
    cases hset
  · exact ⟨hquiet, hthreads⟩

theorem setAVX512Context_unchanged_iff (hhandle : s.threadHandleToIndex h = some t) :
    let got := s.GetAVXContext e L b.get h
    (s.SetAVX512Context e L b h c).1.effective e = s.effective e ↔
      (got.2.2 = true → Avx512Harmless e L b c s got.1 got.2.1 t) := by
  have hgot : (s.GetAVXContext e L b.get h).1.effective e = s.effective e :=
    getFullContextDataEx_effective
  have hhandle₁ : (s.GetAVXContext e L b.get h).1.threadHandleToIndex h = some t := by
    rw [GetAVXContext, getFullContextDataEx_handles, hhandle]
  rw [setAVX512Context_eq]
  generalize s.GetAVXContext e L b.get h = got at hgot hhandle₁ ⊢
  obtain ⟨s₁, titan, ok⟩ := got
  simp only at hgot hhandle₁ ⊢
  cases ok with
  | false => simp [hgot]
  | true =>
    have hsucceeded := setAVXContext_succeeded (e := e) (L := L) (a := b.set) (c.avx titan) hhandle₁
    have hunchanged := setFullContextDataEx_unchanged_iff (e := e) (L := L) (b := b.set)
      (c := c.avx titan) hhandle₁
    have hhandle₂ : (s₁.SetAVXContext e L b.set h (c.avx titan)).1.threadHandleToIndex h = some t := by
      rw [SetAVXContext, setFullContextDataEx_handles, hhandle₁]
    have hstored := setFullContextDataEx_stored_iff (e := e) (L := L) (b := b.set)
      (c := c.avx titan) hhandle₁
    have hcurrent := fun hentered => setFullContextDataEx_current_iff (e := e) (L := L) (b := b.set)
      (c := c.avx titan) hhandle₁ hentered
    rw [← SetAVXContext] at hunchanged hstored hcurrent
    rw [hgot] at hsucceeded hunchanged
    generalize s₁.SetAVXContext e L b.set h (c.avx titan) = set
      at hsucceeded hunchanged hhandle₂ hstored hcurrent ⊢
    obtain ⟨s₂, ok⟩ := set
    simp only [not_true_eq_false, if_false, true_implies]
      at hsucceeded hunchanged hhandle₂ hstored hcurrent ⊢
    cases ok with
    | false =>
      have hunstored : ¬ Stored e b.set (c.avx titan) s₁ t := fun h => Bool.noConfusion (hstored.mpr h)
      simp only [Bool.false_eq_true, not_false_eq_true, if_true]
      rw [hunchanged]
      constructor
      · intro hharmless
        exact ⟨fun _ => hharmless, fun h => absurd h hunstored, fun h => absurd h hunstored⟩
      · intro hharmless
        exact hharmless.unset hunstored
    | true =>
      have hdone := hstored.mp rfl
      obtain ⟨hquiet, hthreads⟩ := hsucceeded rfl
      have hafter := reachedAfter_iff (L := L) (b := b) hquiet (hcurrent hdone.1)
      simp only [not_true_eq_false, if_false]
      rcases avx512_cases (L := L) (b := b.avx512) (c := c) hquiet hhandle₂ with
        ⟨hreached, -, heffective⟩ | ⟨hreached, -, hquiet', hthreads'⟩
      · rw [hafter] at hreached
        rw [heffective, hthreads, update_effective_eq_iff]
        constructor
        · intro hheld
          exact ⟨fun h => absurd hdone h, fun _ _ => hheld, fun _ h => absurd h hreached⟩
        · intro hharmless
          exact hharmless.avx hdone hreached
      · rw [hafter] at hreached
        rw [hquiet'.effective, hthreads', hthreads, Function.update_self, Function.update_idem,
          update_effective_eq_iff]
        constructor
        · intro hheld
          exact ⟨fun h => absurd hdone h, fun _ h => absurd hreached h, fun _ _ => hheld⟩
        · intro hharmless
          exact hharmless.avx512 hdone hreached

end Composed

end TitanEngine.RegisterSession

namespace TitanEngine
open Lanes RegisterSession
variable {Cell Thread : Type*} [DecidableEq Thread]

inductive ContextWrite
  | setContextDataEx (answers : ScopeAnswers) (flush : Bool) (IndexOfRegister : TitanRegister)
    (NewRegisterValue : ULONG_PTR)
  | setFullContextDataEx (answers : ContextAnswers) (titcontext : TITAN_ENGINE_CONTEXT)
  | setAVXContext (answers : ContextAnswers) (titcontext : TITAN_ENGINE_CONTEXT)
  | setAVX512Context (answers : Avx512Answers) (titcontext : TITAN_ENGINE_CONTEXT_AVX512)

namespace ContextWrite

def run (e : RegisterEngine Cell) (L : NativeLayout Cell) (h : HANDLE) (s : RegisterSession Cell Thread) :
    ContextWrite → RegisterSession Cell Thread × Bool
  | .setContextDataEx a flush reg v => s.SetContextDataEx e a flush h reg v
  | .setFullContextDataEx a c => s.SetFullContextDataEx e L a h c
  | .setAVXContext a c => s.SetAVXContext e L a h c
  | .setAVX512Context a c => s.SetAVX512Context e L a h c

/-- What the write has assigned and written by the time it fails is dropped, or is what the
registers that receive it hold anyway. -/
def Restates (e : RegisterEngine Cell) (L : NativeLayout Cell) (h : HANDLE)
    (s : RegisterSession Cell Thread) : ContextWrite → Prop
  | .setContextDataEx a _ reg v => DataHarmless e a h reg v s
  | .setFullContextDataEx a c | .setAVXContext a c =>
    ∀ t, s.threadHandleToIndex h = some t → Entered e a.scope s t → FullHarmless e L a c s t
  | .setAVX512Context a c =>
    let got := s.GetAVXContext e L a.get h
    ∀ t, s.threadHandleToIndex h = some t → got.2.2 = true →
      Avx512Harmless e L a c s got.1 got.2.1 t

variable {e : RegisterEngine Cell} {L : NativeLayout Cell} {h : HANDLE}
  {s : RegisterSession Cell Thread} {w : ContextWrite}

theorem unchanged_iff (hfail : (w.run e L h s).2 = false) :
    (w.run e L h s).1.effective e = s.effective e ↔ w.Restates e L h s := by
  cases w with
  | setContextDataEx a flush reg v => exact setContextDataEx_failed hfail
  | setFullContextDataEx a c | setAVXContext a c =>
    cases hhandle : s.threadHandleToIndex h with
    | none => simp [run, Restates, SetAVXContext, setFullContextDataEx_eq, inThread, hhandle]
    | some t =>
      have hiff := setFullContextDataEx_unchanged_iff (e := e) (L := L) (b := a) (c := c) hhandle
      simpa [run, Restates, SetAVXContext, hhandle] using hiff
  | setAVX512Context a c =>
    cases hhandle : s.threadHandleToIndex h with
    | none =>
      simp [run, Restates, SetAVX512Context, GetAVXContext, GetFullContextDataEx, inThread, hhandle]
    | some t =>
      have hiff := setAVX512Context_unchanged_iff (e := e) (L := L) (b := a) (c := c) hhandle
      simpa [run, Restates, hhandle] using hiff

end ContextWrite

/-- A context write that fails leaves every register, after the flush of the next resume, as
it was before the call exactly where what it had assigned by then restates them. -/
theorem failed_write_unchanged_iff {e : RegisterEngine Cell} {L : NativeLayout Cell} {h : HANDLE}
    {s : RegisterSession Cell Thread} {w : ContextWrite} (hfail : (w.run e L h s).2 = false) :
    ((w.run e L h s).1.Flush e true).1.threads = s.effective e ↔ w.Restates e L h s := by
  rw [← ContextWrite.unchanged_iff hfail]
  rcases flush_cases (e := e) (s := (w.run e L h s).1) true with
    ⟨hok, -⟩ | ⟨-, s', hflush, hwritten⟩
  · cases hok
  · rw [hflush, hwritten.threads]

/-- The areas of a native context one after the other, behind the registers of
`threeRegisters`. -/
def NativeField.number : NativeField → ℕ
  | .controlWord => 0
  | .statusWord => 1
  | .tagWord => 2
  | .errorOffset => 3
  | .errorSelector => 4
  | .dataOffset => 5
  | .dataSelector => 6
  | .mxCsr => 7
  | .floatRegister i => 8 + i
  | .opmask i => 16 + i
  | .xmmRegister i => 24 + i
  | .avx i => 40 + i
  | .zmmHigh i => 56 + i
  | .zmm16 i => 72 + i

theorem NativeField.number_injective : Function.Injective NativeField.number := by
  intro f g h
  cases f <;> cases g <;> simp only [number, floatRegister.injEq, opmask.injEq, xmmRegister.injEq,
    avx.injEq, zmmHigh.injEq, zmm16.injEq, reduceCtorEq] at h ⊢ <;> omega

def plainLayout : NativeLayout ℕ where
  lane f := .segment (128 + 512 * f.number) f.width
  width_lane _ := rfl
  apart := by
    intro f g hne
    have hwidth : ∀ f : NativeField, f.width ≤ 512 := by
      intro f
      cases f <;> simp [NativeField.width]
    have hf := hwidth f
    have hg := hwidth g
    rcases Nat.lt_or_gt_of_ne (NativeField.number_injective.ne hne) with h | h
    · exact Lane.segment_apart (by omega)
    · exact (Lane.segment_apart (by omega)).symm

/-- The engine fails to write `rax`, which has been assigned what it holds anyway. -/
theorem failed_write_unchanged_zero :
    (((ContextWrite.setContextDataEx {} false .rax 0).run threeRegisters plainLayout 1
      stoppedRegisters).1.Flush threeRegisters true).1.threads =
        stoppedRegisters.effective threeRegisters := by
  have hfail : ((ContextWrite.setContextDataEx {} false .rax 0).run threeRegisters plainLayout 1
      stoppedRegisters).2 = false := by decide
  refine (failed_write_unchanged_iff hfail).2 ?_
  intro t ht _ u hu
  have hcurrent : t = stoppedRegisters.current := (Option.some.inj ht).symm
  subst hcurrent
  have hland : landing {} stoppedRegisters stoppedRegisters.current =
      some stoppedRegisters.current := if_pos (.inl rfl)
  rw [hland] at hu
  obtain rfl := Option.some.inj hu
  have hassigned : assignedBy threeRegisters (scopeTypes threeRegisters {} stoppedRegisters
      stoppedRegisters.current) [(.rax, 0)] = [(0, integerBits 64 (0 : ULONG_PTR))] := rfl
  have hmarked : (List.range threeRegisters.Count).filter
      (stoppedRegisters.mark 0 (integerBits 64 (0 : ULONG_PTR))).Changed = [0] := by decide
  rw [hassigned, Restated, about, if_pos rfl, markAll_cons, markAll_nil, flushed, storeMarked, hmarked]
  have hquiet : stoppedRegisters.effective threeRegisters stoppedRegisters.current =
      stoppedRegisters.threads stoppedRegisters.current :=
    effective_current.trans (storeMarked_of_none fun _ _ => rfl)
  rw [hquiet]
  refine storeAll_eq_self fun i hi k _ => ?_
  obtain rfl := List.mem_singleton.mp hi
  have hzero : integerBits 64 (0 : ULONG_PTR) k = false := by simp [integerBits]
  have hheld : (threeRegisters.lane 0).get (stoppedRegisters.threads stoppedRegisters.current) k = false :=
    Bool.and_false _
  exact hzero.trans hheld.symm

/-- The engine fails to write `rax` once, and it is written at the next resume. -/
theorem failed_write_lands_later :
    ¬ ∀ (w : ContextWrite) (h : HANDLE) (s : RegisterSession ℕ Bool),
      (w.run threeRegisters plainLayout h s).2 = false →
      ((w.run threeRegisters plainLayout h s).1.Flush threeRegisters true).1.threads =
        s.effective threeRegisters := by
  intro hclaim
  have hfail : ((ContextWrite.setContextDataEx {} false .rax 1).run threeRegisters plainLayout 1
      stoppedRegisters).2 = false := by decide
  have hsame := hclaim (.setContextDataEx {} false .rax 1) 1 stoppedRegisters hfail
  have hbit : (((ContextWrite.setContextDataEx {} false .rax 1).run threeRegisters plainLayout 1
      stoppedRegisters).1.Flush threeRegisters true).1.threads false 0 = true := by decide
  have hzero : stoppedRegisters.effective threeRegisters false 0 = false := by decide
  rw [hsame, hzero] at hbit
  cases hbit

end TitanEngine

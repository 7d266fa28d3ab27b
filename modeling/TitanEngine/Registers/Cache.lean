import TitanEngine.Model.Registers

/-! What the register cache, its flushes and its thread scopes leave of the registers. -/
namespace TitanEngine.RegisterSession
open Lanes
variable {Cell Thread : Type*} {e : RegisterEngine Cell} {s s' : RegisterSession Cell Thread} {i : ℕ}
  {t : Thread} {bits : ℕ → Bool}

/-- No register waits to be written. -/
def Quiet (e : RegisterEngine Cell) (s : RegisterSession Cell Thread) : Prop :=
  ∀ i < e.Count, s.Changed i = false

theorem Quiet.flushed (h : s.Quiet e) : s.flushed e = s.threads s.current := storeMarked_of_none h

/-- Each bit is written by the last of the waiting registers that cover it. -/
theorem flushed_cases (e : RegisterEngine Cell) (s : RegisterSession Cell Thread) (cell : Cell) :
    ((∀ j < e.Count, s.Changed j = true → (e.lane j).index cell = none) ∧
        s.flushed e cell = s.threads s.current cell) ∨
      ∃ j < e.Count, ∃ k, s.Changed j = true ∧ (e.lane j).index cell = some k ∧
        (∀ i < e.Count, j < i → s.Changed i = true → (e.lane i).index cell = none) ∧
        s.flushed e cell = (s.Values j).bits k :=
  storeMarked_cases cell

theorem filter_eq_nil_iff : (List.range e.Count).filter s.Changed = [] ↔ s.Quiet e := by
  simp [List.filter_eq_nil_iff, Quiet]

/-- The cache holds the registers of the current thread, as they are. -/
structure Loaded (e : RegisterEngine Cell) (s : RegisterSession Cell Thread) : Prop where
  quiet : s.Quiet e
  values : s.Values = fun i => { type := e.type i, bits := (e.lane i).get (s.threads s.current) }

theorem Quiet.loaded_read (h : s.Quiet e) : (s.Read e .all).1.Loaded e := by
  constructor
  · exact h
  · simp [Read, Readout.all]

/-- A register that is marked is as good as written, unless a register that waits and is
written later covers one of its bits. -/
theorem flushed_mark (hi : i < e.Count)
    (h : ∀ j < e.Count, i < j → s.Changed j = true → (e.lane i).Apart (e.lane j)) :
    (s.mark i bits).flushed e = (e.lane i).put bits (s.flushed e) := by
  let value : ℕ → ℕ → Bool := fun i => (s.Values i).bits
  have hupdate : storeMarked e.lane (Function.update value i bits)
      (Function.update s.Changed i true) e.Count (s.threads s.current) =
        (e.lane i).put bits (s.flushed e) := storeMarked_update hi h
  rw [flushed, ← hupdate]
  apply storeMarked_congr
  · intro j _
    rfl
  · intro j _ _
    by_cases hj : j = i
    · subst hj
      simp [mark]
    · simp [mark, value, hj]

/-- What `SetValue` does to an integer register. -/
theorem setValue_eq {reg : TitanRegister} {w : ℕ} (v : ULONG_PTR) (hi : e.TitanRegIndexMap reg = some i)
    (hw : (s.Values i).type.integer = some w) :
    s.SetValue e reg v = (s.mark i (integerBits w v), true) := by
  simp [SetValue, hi, hw]

theorem setValue_cases (reg : TitanRegister) (v : ULONG_PTR) :
    s.SetValue e reg v = (s, false) ∨ ∃ i w, e.TitanRegIndexMap reg = some i ∧
      (s.Values i).type.integer = some w ∧ s.SetValue e reg v = (s.mark i (integerBits w v), true) := by
  unfold SetValue
  cases hi : e.TitanRegIndexMap reg with
  | none => exact .inl rfl
  | some i =>
    cases hw : (s.Values i).type.integer with
    | none => exact .inl (by simp [hw])
    | some w => exact .inr ⟨i, w, rfl, hw, by simp [hw]⟩

variable [DecidableEq Thread]

/-- The registers of each thread once the changed ones are written. -/
def effective (e : RegisterEngine Cell) (s : RegisterSession Cell Thread) : Thread → Cell → Bool :=
  Function.update s.threads s.current (s.flushed e)

@[simp] theorem effective_current : s.effective e s.current = s.flushed e := by simp [effective]

@[simp] theorem effective_of_ne (h : t ≠ s.current) : s.effective e t = s.threads t := by
  simp [effective, h]

theorem Quiet.effective (h : s.Quiet e) : s.effective e = s.threads := by
  rw [RegisterSession.effective, h.flushed, Function.update_eq_self]

/-- What waits to be written has been written. -/
structure Written (e : RegisterEngine Cell) (s s' : RegisterSession Cell Thread) : Prop where
  threads : s'.threads = s.effective e
  current : s'.current = s.current
  values : s'.Values = s.Values
  quiet : s'.Quiet e
  handles : s'.threadHandleToIndex = s.threadHandleToIndex

theorem Written.effective (h : Written e s s') : s'.effective e = s.effective e := by
  rw [h.quiet.effective, h.threads]

theorem flush_cases (ok : Bool) :
    (ok = false ∧ ¬ s.Quiet e ∧ s.Flush e ok = (s, false)) ∨
      (ok = true ∨ s.Quiet e) ∧ ∃ s', s.Flush e ok = (s', true) ∧ Written e s s' := by
  by_cases hquiet : s.Quiet e
  · refine .inr ⟨.inr hquiet, s, ?_, hquiet.effective.symm, rfl, rfl, hquiet, rfl⟩
    simp [Flush, filter_eq_nil_iff.2 hquiet]
  · have hsome : (List.range e.Count).filter s.Changed ≠ [] := fun h => hquiet (filter_eq_nil_iff.1 h)
    cases ok with
    | false => exact .inl ⟨rfl, hquiet, by simp [Flush, hsome]⟩
    | true =>
      let flushedSession : RegisterSession Cell Thread :=
        { s with
          threads := Function.update s.threads s.current (s.flushed e)
          Changed := fun _ => false }
      refine .inr ⟨.inl rfl, flushedSession, ?_, rfl, rfl, rfl, fun i _ => rfl, rfl⟩
      rw [Flush, if_neg hsome, if_pos rfl]

theorem enterScope_self {a : ScopeAnswers} (ha : a.currentThread = true) :
    s.enterScope e a s.current = (s, { mPreviousIndex := s.current, mValid := true }) := by
  simp [enterScope, ha]

/-- Entering the scope of another thread writes what waits, and loads the registers of that
thread. -/
theorem enterScope_of_ne (h : t ≠ s.current) : ∃ s', s.enterScope e {} t =
    (s', { mPreviousIndex := s.current, mSwitched := true, mValid := true }) ∧
      s'.threads = s.effective e ∧ s'.current = t ∧ s'.Loaded e ∧
      s'.threadHandleToIndex = s.threadHandleToIndex := by
  rcases flush_cases (e := e) (s := s) true with ⟨hfail, -⟩ | ⟨-, s₁, hflush, hwritten⟩
  · cases hfail
  · refine ⟨({ s₁ with current := t }.Read e .all).1, ?_, hwritten.threads, rfl, ?_,
      hwritten.handles⟩
    · simp [enterScope, h, hflush, Read, Readout.all]
    · have hquiet : ({ s₁ with current := t } : RegisterSession Cell Thread).Quiet e := hwritten.quiet
      exact hquiet.loaded_read

theorem leaveScope_of_switched (prev : Thread) (valid : Bool) : ∃ s', s.leaveScope e {}
    { mPreviousIndex := prev, mSwitched := true, mValid := valid } = s' ∧
      s'.threads = s.effective e ∧ s'.current = prev ∧ s'.Loaded e ∧
      s'.threadHandleToIndex = s.threadHandleToIndex := by
  rcases flush_cases (e := e) (s := s) true with ⟨hfail, -⟩ | ⟨-, s₁, hflush, hwritten⟩
  · cases hfail
  · refine ⟨({ s₁ with current := prev }.Read e .all).1, ?_, hwritten.threads, rfl, ?_,
      hwritten.handles⟩
    · simp [leaveScope, hflush]
    · have hquiet : ({ s₁ with current := prev } : RegisterSession Cell Thread).Quiet e :=
        hwritten.quiet
      exact hquiet.loaded_read

/-- A call on another thread leaves a cache that has been read anew. -/
theorem inThread_other {α : Type*} {h : HANDLE} (hhandle : s.threadHandleToIndex h = some t)
    (ht : t ≠ s.current) (failed : α)
    (body : Thread → RegisterSession Cell Thread → RegisterSession Cell Thread × α) :
    ∃ s₁, s₁.threads = s.effective e ∧ s₁.current = t ∧ s₁.Loaded e ∧
      (s.inThread e {} h failed body).2 = (body t s₁).2 ∧
      (s.inThread e {} h failed body).1.threads = (body t s₁).1.effective e ∧
      (s.inThread e {} h failed body).1.current = s.current ∧
      (s.inThread e {} h failed body).1.Loaded e := by
  obtain ⟨s₁, henter, hthreads, hcurrent, hloaded, -⟩ := @enterScope_of_ne _ _ e s t _ ht
  obtain ⟨s₂, hleave, hthreads', hcurrent', hloaded', -⟩ :=
    @leaveScope_of_switched _ _ e (body t s₁).1 _ s.current true
  have hrun : s.inThread e {} h failed body = (s₂, (body t s₁).2) := by
    simp [inThread, hhandle, henter, hleave]
  rw [hrun]
  exact ⟨s₁, hthreads, hcurrent, hloaded, rfl, hthreads', hcurrent', hloaded'⟩

theorem inThread_self {α : Type*} {h : HANDLE} (hhandle : s.threadHandleToIndex h = some s.current)
    (failed : α)
    (body : Thread → RegisterSession Cell Thread → RegisterSession Cell Thread × α) :
    s.inThread e {} h failed body = body s.current s := by
  simp [inThread, hhandle, enterScope_self, leaveScope]

end TitanEngine.RegisterSession

namespace TitanEngine

/-- `rax`, its lower half, and the instruction pointer. -/
def threeRegisters : RegisterEngine ℕ where
  Names := [.rax, .eax, .rip]
  lane
    | 0 => .segment 0 64
    | 1 => .segment 0 32
    | _ => .segment 64 64
  type
    | 1 => .int32
    | _ => .int64
  width_lane := by
    intro i w h
    match i with
    | 0 | 1 | i + 2 => exact Option.some.inj h

/-- Two stopped threads whose registers are all zero, the first of them current. -/
def stoppedRegisters : RegisterSession ℕ Bool :=
  ({ threads := fun _ _ => false, current := false,
     threadHandleToIndex := fun h => if h = 1 then some false else if h = 2 then some true else none } :
    RegisterSession ℕ Bool).Read threeRegisters .all |>.1

end TitanEngine

import Mathlib.Logic.Relation
import TitanEngine.Lib.Runs
import TitanEngine.Registers.Cache

/-! The register cache against registers that every write reaches at once. The cache is not
read again after it is flushed, so it is behind where a register was written under another
name. -/
namespace TitanEngine
open Lanes Relation
variable {Cell Thread : Type*} [DecidableEq Thread] {e : RegisterEngine Cell}

inductive RegisterCall
  | getContextDataEx (hActiveThread : HANDLE) (IndexOfRegister : TitanRegister)
  | setContextDataEx (hActiveThread : HANDLE) (IndexOfRegister : TitanRegister)
    (NewRegisterValue : ULONG_PTR)
  | setCurrentInstructionPointer (address : ULONG_PTR)

namespace RegisterCall

/-- The call with an engine that never fails. -/
def run (e : RegisterEngine Cell) (s : RegisterSession Cell Thread) :
    RegisterCall → RegisterSession Cell Thread
  | .getContextDataEx h reg => (s.GetContextDataEx e {} h reg).1
  | .setContextDataEx h reg v => (s.SetContextDataEx e {} true h reg v).1
  | .setCurrentInstructionPointer v => s.setCurrentInstructionPointer e v

def thread (s : RegisterSession Cell Thread) : RegisterCall → Option Thread
  | .getContextDataEx h _ | .setContextDataEx h _ _ => s.threadHandleToIndex h
  | .setCurrentInstructionPointer _ => some s.current

def writes : RegisterCall → Option (TitanRegister × ULONG_PTR)
  | .getContextDataEx _ _ => none
  | .setContextDataEx _ reg v => some (reg, v)
  | .setCurrentInstructionPointer v => some (.cip, v)

end RegisterCall

namespace RegisterEngine

/-- The register that an integer can be assigned to. -/
def integerIndex (e : RegisterEngine Cell) (reg : TitanRegister) : Option ℕ :=
  (e.TitanRegIndexMap reg).filter fun i => (e.type i).integer.isSome

/-- The engine writes the register at once. -/
def writeNow (e : RegisterEngine Cell) (reg : TitanRegister) (v : ULONG_PTR) (f : Cell → Bool) :
    Cell → Bool :=
  match e.integerIndex reg with
  | none => f
  | some i => (e.lane i).put (RegisterSession.integerBits (e.lane i).width v) f

/-- What the engine returns for the register. -/
def readNow (e : RegisterEngine Cell) (reg : TitanRegister) (f : Cell → Bool) : ULONG_PTR :=
  match e.TitanRegIndexMap reg with
  | none => 0
  | some i => RegisterSession.integerOf { type := e.type i, bits := (e.lane i).get f }

/-- No register that covers a bit of the register has been written after it. -/
def Fresh (e : RegisterEngine Cell) (written : List ℕ) (i : ℕ) : Prop :=
  ∀ j ∈ written.takeWhile (· ≠ i), (e.lane i).Apart (e.lane j)

theorem integerIndex_eq_some {reg : TitanRegister} {i : ℕ} : e.integerIndex reg = some i ↔
    e.TitanRegIndexMap reg = some i ∧ ∃ w, (e.type i).integer = some w := by
  rw [integerIndex, Option.filter_eq_some_iff, Option.isSome_iff_exists]

theorem fresh_cons {written : List ℕ} {i j : ℕ} (h : e.Fresh (j :: written) i) (hne : j ≠ i) :
    (e.lane i).Apart (e.lane j) ∧ e.Fresh written i := by
  rw [Fresh, List.takeWhile_cons_of_pos (by simpa using hne)] at h
  exact ⟨h j List.mem_cons_self, fun k hk => h k (List.mem_cons_of_mem j hk)⟩

end RegisterEngine

/-- A session, the registers of each thread had every write been applied at once, and the
registers written since the cache was last read, the latest first. -/
structure TracedRegisters (Cell Thread : Type*) where
  session : RegisterSession Cell Thread
  immediate : Thread → Cell → Bool
  written : List ℕ

namespace TracedRegisters
variable {σ σ' : TracedRegisters Cell Thread} {call : RegisterCall}

def after (e : RegisterEngine Cell) (σ : TracedRegisters Cell Thread) (call : RegisterCall) :
    TracedRegisters Cell Thread where
  session := call.run e σ.session
  immediate :=
    match call.thread σ.session, call.writes with
    | some t, some (reg, v) => Function.update σ.immediate t (e.writeNow reg v (σ.immediate t))
    | _, _ => σ.immediate
  written :=
    match call.thread σ.session with
    | none => σ.written
    | some t =>
      if t = σ.session.current then
        (call.writes.bind fun write => e.integerIndex write.1).toList ++ σ.written
      else []

/-- The thread's registers are used by names that the cache has kept up with: a register that
is read was not written under another name since, and none is written that shares bits with
one that waits to be written after it. -/
def Careful (e : RegisterEngine Cell) (σ : TracedRegisters Cell Thread) : RegisterCall → Prop
  | .getContextDataEx h reg => σ.session.threadHandleToIndex h = some σ.session.current →
      ∀ i, e.TitanRegIndexMap reg = some i → e.Fresh σ.written i
  | .setContextDataEx h reg _ => σ.session.threadHandleToIndex h = some σ.session.current →
      ∀ i, e.integerIndex reg = some i → ∀ j < e.Count, i < j → σ.session.Changed j = true →
        (e.lane i).Apart (e.lane j)
  | .setCurrentInstructionPointer _ => True

/-- The registers have been read at a stop, and nothing has been written since. -/
structure Initial (e : RegisterEngine Cell) (σ : TracedRegisters Cell Thread) : Prop where
  loaded : σ.session.Loaded e
  immediate : σ.immediate = σ.session.threads
  written : σ.written = []

/-- Any calls, one after the other. -/
abbrev Calls (e : RegisterEngine Cell) : TracedRegisters Cell Thread → TracedRegisters Cell Thread → Prop :=
  ReflTransGen fun σ σ' => ∃ call, σ' = σ.after e call

abbrev CarefulCalls (e : RegisterEngine Cell) :
    TracedRegisters Cell Thread → TracedRegisters Cell Thread → Prop :=
  ReflTransGen fun σ σ' => ∃ call, σ.Careful e call ∧ σ' = σ.after e call

structure Coherent (e : RegisterEngine Cell) (σ : TracedRegisters Cell Thread) : Prop where
  type : ∀ i, (σ.session.Values i).type = e.type i
  /-- Between two calls only the instruction pointer waits to be written. -/
  waiting : ∀ j < e.Count, σ.session.Changed j = true → e.TitanRegIndexMap .cip = some j
  effective : σ.session.effective e = σ.immediate
  cached : ∀ i, e.Fresh σ.written i →
    (σ.session.Values i).bits = (e.lane i).get (σ.immediate σ.session.current)

theorem coherent_of_loaded (h : σ.session.Loaded e) (himmediate : σ.session.threads = σ.immediate) :
    Coherent e σ := by
  constructor
  · intro i
    simp [h.values]
  · intro j hj hchanged
    rw [h.quiet j hj] at hchanged
    cases hchanged
  · rw [h.quiet.effective, himmediate]
  · intro i _
    simp [h.values, himmediate]

theorem Initial.coherent (h : σ.Initial e) : Coherent e σ :=
  coherent_of_loaded h.loaded h.immediate.symm

/-- A register of the current thread takes a value. It is written right away or later. -/
theorem Coherent.mark {i w : ℕ} {v : ULONG_PTR} {s : RegisterSession Cell Thread} (h : Coherent e σ)
    (hi : i < e.Count) (hw : (e.type i).integer = some w)
    (hlater : ∀ j < e.Count, i < j → σ.session.Changed j = true → (e.lane i).Apart (e.lane j))
    (hvalues : s.Values = (σ.session.mark i (RegisterSession.integerBits w v)).Values)
    (hcurrent : s.current = σ.session.current)
    (heffective : s.effective e =
      (σ.session.mark i (RegisterSession.integerBits w v)).effective e)
    (hwaiting : ∀ j < e.Count, s.Changed j = true → e.TitanRegIndexMap .cip = some j) :
    Coherent e
      { session := s
        immediate := Function.update σ.immediate σ.session.current
          ((e.lane i).put (RegisterSession.integerBits w v) (σ.immediate σ.session.current))
        written := i :: σ.written } := by
  constructor
  · intro k
    rw [hvalues]
    by_cases hk : k = i
    · subst hk
      simpa [RegisterSession.mark] using h.type k
    · simpa [RegisterSession.mark, hk] using h.type k
  · exact hwaiting
  · have hflushed : σ.session.flushed e = σ.immediate σ.session.current := by
      rw [← h.effective, RegisterSession.effective_current]
    show s.effective e = _
    rw [heffective, RegisterSession.effective, RegisterSession.flushed_mark hi hlater, hflushed,
      ← h.effective, RegisterSession.effective]
    simp [RegisterSession.mark]
  · intro k hfresh
    rw [hvalues, hcurrent]
    simp only [Function.update_self]
    by_cases hk : k = i
    · subst hk
      funext b
      rw [Lane.get_put, e.width_lane hw]
      simp [RegisterSession.mark, RegisterSession.integerBits]
    · obtain ⟨hapart, hrest⟩ := RegisterEngine.fresh_cons hfresh (Ne.symm hk)
      rw [Lane.get_put_of_apart hapart, ← h.cached k hrest]
      simp [RegisterSession.mark, hk]

section Calls
variable {s : RegisterSession Cell Thread} {reg : TitanRegister} {v : ULONG_PTR} {h : HANDLE} {t : Thread}

omit [DecidableEq Thread] in
theorem setValue_of_none (htype : ∀ i, (s.Values i).type = e.type i)
    (hreg : e.integerIndex reg = none) : s.SetValue e reg v = (s, false) := by
  rcases RegisterSession.setValue_cases reg v with hfail | ⟨i, w, hi, hw, -⟩
  · exact hfail
  · rw [htype] at hw
    rw [e.integerIndex_eq_some.2 ⟨hi, w, hw⟩] at hreg
    cases hreg

omit [DecidableEq Thread] in
theorem setValue_of_some {i : ℕ} (htype : ∀ i, (s.Values i).type = e.type i)
    (hreg : e.integerIndex reg = some i) : ∃ w, (e.type i).integer = some w ∧
      s.SetValue e reg v = (s.mark i (RegisterSession.integerBits w v), true) := by
  obtain ⟨hi, w, hw⟩ := e.integerIndex_eq_some.1 hreg
  exact ⟨w, hw, RegisterSession.setValue_eq v hi (by rw [htype, hw])⟩

omit [DecidableEq Thread] in
theorem writeNow_of_some {i w : ℕ} {f : Cell → Bool} (hreg : e.integerIndex reg = some i)
    (hw : (e.type i).integer = some w) :
    e.writeNow reg v f = (e.lane i).put (RegisterSession.integerBits w v) f := by
  simp [RegisterEngine.writeNow, hreg, e.width_lane hw]

/-- A register of the current thread takes a value with `SetValue` and, in `s'`, a flush. -/
theorem Coherent.assign (hσ : Coherent e σ)
    (hlater : ∀ i, e.integerIndex reg = some i → ∀ j < e.Count, i < j →
      σ.session.Changed j = true → (e.lane i).Apart (e.lane j))
    (hvalues : s.Values = (σ.session.SetValue e reg v).1.Values)
    (hcurrent : s.current = σ.session.current)
    (heffective : s.effective e = (σ.session.SetValue e reg v).1.effective e)
    (hwaiting : ∀ j < e.Count, s.Changed j = true → e.TitanRegIndexMap .cip = some j) :
    Coherent e
      { session := s
        immediate := Function.update σ.immediate σ.session.current
          (e.writeNow reg v (σ.immediate σ.session.current))
        written := (e.integerIndex reg).toList ++ σ.written } := by
  cases hreg : e.integerIndex reg with
  | none =>
    rw [setValue_of_none hσ.type hreg] at hvalues heffective
    have himmediate : e.writeNow reg v (σ.immediate σ.session.current) =
        σ.immediate σ.session.current := by simp [RegisterEngine.writeNow, hreg]
    rw [himmediate, Function.update_eq_self]
    constructor
    · intro i
      rw [hvalues]
      exact hσ.type i
    · exact hwaiting
    · exact heffective.trans hσ.effective
    · intro i hfresh
      rw [hvalues, hcurrent]
      exact hσ.cached i hfresh
  | some i =>
    obtain ⟨w, hw, hset⟩ := setValue_of_some (v := v) hσ.type hreg
    rw [hset] at hvalues heffective
    rw [writeNow_of_some hreg hw]
    exact hσ.mark (e.lt_Count (e.integerIndex_eq_some.1 hreg).1) hw (hlater i hreg) hvalues hcurrent
      heffective hwaiting

/-- On a cache that has been read anew, the register is written at once. -/
theorem effective_setValue (hs : s.Loaded e) : (s.SetValue e reg v).1.effective e =
    Function.update s.threads s.current (e.writeNow reg v (s.threads s.current)) := by
  have htype : ∀ i, (s.Values i).type = e.type i := by simp [hs.values]
  cases hreg : e.integerIndex reg with
  | none =>
    rw [setValue_of_none htype hreg, hs.quiet.effective]
    simp [RegisterEngine.writeNow, hreg]
  | some i =>
    obtain ⟨w, hw, hset⟩ := setValue_of_some (v := v) htype hreg
    have hi := e.lt_Count (e.integerIndex_eq_some.1 hreg).1
    rw [hset, writeNow_of_some hreg hw, RegisterSession.effective, RegisterSession.flushed_mark hi,
      hs.quiet.flushed]
    · rfl
    · intro j hj _ hchanged
      rw [hs.quiet j hj] at hchanged
      cases hchanged

theorem setBody_effective (s : RegisterSession Cell Thread) (ok : Bool) :
    (if ¬ (s.SetValue e reg v).2 then ((s.SetValue e reg v).1, false)
      else (s.SetValue e reg v).1.Flush e ok).1.effective e = (s.SetValue e reg v).1.effective e := by
  split_ifs
  · rcases RegisterSession.flush_cases (e := e) (s := (s.SetValue e reg v).1) ok with
      ⟨-, -, hflush⟩ | ⟨-, s', hflush, hwritten⟩
    · rw [hflush]
    · rw [hflush]
      exact hwritten.effective
  · rfl

theorem after_of_no_thread (h : call.thread σ.session = none) : σ.after e call = σ := by
  cases call with
  | getContextDataEx hThread reg =>
    have hhandle : σ.session.threadHandleToIndex hThread = none := h
    simp [after, RegisterCall.run, RegisterCall.thread, hhandle, RegisterSession.GetContextDataEx,
      RegisterSession.inThread]
  | setContextDataEx hThread reg v =>
    have hhandle : σ.session.threadHandleToIndex hThread = none := h
    simp [after, RegisterCall.run, RegisterCall.thread, hhandle, RegisterSession.SetContextDataEx,
      RegisterSession.inThread]
  | setCurrentInstructionPointer v => cases h

/-- What a call on another thread writes, it writes to that thread at once. -/
theorem after_other (hthread : call.thread σ.session = some t) (ht : t ≠ σ.session.current) :
    (σ.after e call).session.Loaded e ∧ (σ.after e call).session.current = σ.session.current ∧
      (σ.after e call).session.threads =
        match call.writes with
        | some (reg, v) => Function.update (σ.session.effective e) t
            (e.writeNow reg v (σ.session.effective e t))
        | none => σ.session.effective e := by
  cases call with
  | getContextDataEx hThread reg =>
    obtain ⟨s₁, hthreads, -, hloaded, -, hthreads', hcurrent', hloaded'⟩ :=
      RegisterSession.inThread_other (e := e) hthread ht 0 fun _ s => (s, s.GetValue e reg)
    refine ⟨hloaded', hcurrent', ?_⟩
    rw [hloaded.quiet.effective, hthreads] at hthreads'
    exact hthreads'
  | setContextDataEx hThread reg v =>
    obtain ⟨s₁, hthreads, hcurrent, hloaded, -, hthreads', hcurrent', hloaded'⟩ :=
      RegisterSession.inThread_other (e := e) hthread ht false fun _ s =>
        if ¬ (s.SetValue e reg v).2 then ((s.SetValue e reg v).1, false)
        else (s.SetValue e reg v).1.Flush e true
    refine ⟨hloaded', hcurrent', ?_⟩
    rw [setBody_effective, effective_setValue hloaded, hthreads, hcurrent] at hthreads'
    exact hthreads'
  | setCurrentInstructionPointer v =>
    obtain rfl := Option.some.inj hthread
    exact absurd rfl ht

theorem after_self_get (hthread : σ.session.threadHandleToIndex h = some σ.session.current) :
    σ.after e (.getContextDataEx h reg) = σ := by
  have hrun : RegisterCall.run e σ.session (.getContextDataEx h reg) = σ.session := by
    simp [RegisterCall.run, RegisterSession.GetContextDataEx, RegisterSession.inThread_self hthread]
  simp [after, hrun, RegisterCall.thread, RegisterCall.writes, hthread]

/-- A flush of the changed registers of the current thread succeeds with this engine. -/
theorem setContextDataEx_self (reg : TitanRegister) (v : ULONG_PTR)
    (hthread : σ.session.threadHandleToIndex h = some σ.session.current) :
    ∃ s, RegisterCall.run e σ.session (.setContextDataEx h reg v) = s ∧
      s.Values = (σ.session.SetValue e reg v).1.Values ∧ s.current = σ.session.current ∧
      s.effective e = (σ.session.SetValue e reg v).1.effective e ∧
      ((σ.session.SetValue e reg v).2 = false ∧ s = σ.session ∨ s.Quiet e) := by
  have hrun : RegisterCall.run e σ.session (.setContextDataEx h reg v) =
      (if ¬ (σ.session.SetValue e reg v).2 then ((σ.session.SetValue e reg v).1, false)
        else (σ.session.SetValue e reg v).1.Flush e true).1 := by
    simp only [RegisterCall.run, RegisterSession.SetContextDataEx,
      RegisterSession.inThread_self hthread]
  rw [hrun]
  refine ⟨_, rfl, ?_⟩
  rcases RegisterSession.setValue_cases (e := e) (s := σ.session) reg v with hset | ⟨i, w, -, -, hset⟩
  · rw [hset]
    exact ⟨rfl, rfl, rfl, .inl ⟨rfl, rfl⟩⟩
  · rcases RegisterSession.flush_cases (e := e) (s := (σ.session.SetValue e reg v).1) true with
      ⟨hfail, -⟩ | ⟨-, s, hflush, hwritten⟩
    · cases hfail
    · rw [hflush]
      have hassigned : (σ.session.SetValue e reg v).2 = true := by rw [hset]
      have hcurrent : (σ.session.SetValue e reg v).1.current = σ.session.current := by
        rw [hset]
        rfl
      rw [if_neg (by simp [hassigned])]
      exact ⟨hwritten.values, hwritten.current.trans hcurrent, hwritten.effective, .inr hwritten.quiet⟩

theorem Coherent.after (hσ : Coherent e σ) (hcareful : σ.Careful e call) :
    Coherent e (σ.after e call) := by
  cases hthread : call.thread σ.session with
  | none =>
    rw [after_of_no_thread hthread]
    exact hσ
  | some t =>
    by_cases ht : t = σ.session.current
    · subst ht
      cases call with
      | getContextDataEx hThread reg =>
        rw [after_self_get hthread]
        exact hσ
      | setContextDataEx hThread reg v =>
        obtain ⟨s, hrun, hvalues, hcurrent, heffective, hquiet⟩ :=
          setContextDataEx_self (e := e) reg v hthread
        have hwaiting : ∀ j < e.Count, s.Changed j = true → e.TitanRegIndexMap .cip = some j := by
          intro j hj hchanged
          rcases hquiet with ⟨-, rfl⟩ | hquiet
          · exact hσ.waiting j hj hchanged
          · rw [hquiet j hj] at hchanged
            cases hchanged
        have hassign := hσ.assign (hcareful hthread) hvalues hcurrent heffective hwaiting
        simpa [TracedRegisters.after, hrun, hthread, RegisterCall.writes] using hassign
      | setCurrentInstructionPointer v =>
        have hcip : ∀ i, e.integerIndex .cip = some i → ∀ j < e.Count, i < j →
            σ.session.Changed j = true → (e.lane i).Apart (e.lane j) := by
          intro i hi j hj hij hchanged
          have hj' := hσ.waiting j hj hchanged
          rw [(e.integerIndex_eq_some.1 hi).1] at hj'
          obtain rfl := Option.some.inj hj'
          omega
        have hwaiting : ∀ j < e.Count, (σ.session.SetValue e .cip v).1.Changed j = true →
            e.TitanRegIndexMap .cip = some j := by
          intro j hj hchanged
          rcases RegisterSession.setValue_cases (e := e) (s := σ.session) .cip v with
            hset | ⟨i, w, hi, -, hset⟩
          · rw [hset] at hchanged
            exact hσ.waiting j hj hchanged
          · rw [hset] at hchanged
            by_cases hij : j = i
            · rw [hi, hij]
            · exact hσ.waiting j hj (by simpa [RegisterSession.mark, hij] using hchanged)
        have hcurrent : (σ.session.SetValue e .cip v).1.current = σ.session.current := by
          rcases RegisterSession.setValue_cases (e := e) (s := σ.session) .cip v with
            hset | ⟨i, w, -, -, hset⟩
          · rw [hset]
          · rw [hset]
            rfl
        have hassign := hσ.assign hcip rfl hcurrent rfl hwaiting
        simpa [TracedRegisters.after, RegisterCall.run, RegisterCall.thread, RegisterCall.writes,
          RegisterSession.setCurrentInstructionPointer] using hassign
    · obtain ⟨hloaded, -, hthreads⟩ := @after_other _ _ _ e σ call t hthread ht
      apply coherent_of_loaded hloaded
      rw [hthreads, hσ.effective]
      cases hwrites : call.writes with
      | none => simp [TracedRegisters.after, hthread, hwrites]
      | some write => simp [TracedRegisters.after, hthread, hwrites]

theorem Coherent.getContextDataEx (hσ : Coherent e σ) (hcareful : σ.Careful e (.getContextDataEx h reg))
    (hhandle : σ.session.threadHandleToIndex h = some t) :
    (σ.session.GetContextDataEx e {} h reg).2 = e.readNow reg (σ.immediate t) := by
  by_cases ht : t = σ.session.current
  · subst ht
    rw [RegisterSession.GetContextDataEx, RegisterSession.inThread_self hhandle]
    show σ.session.GetValue e reg = _
    rw [RegisterSession.GetValue, RegisterEngine.readNow]
    cases hi : e.TitanRegIndexMap reg with
    | none => rfl
    | some i =>
      have hvalue : σ.session.Values i =
          ⟨e.type i, (e.lane i).get (σ.immediate σ.session.current)⟩ := by
        rw [← hσ.type i, ← hσ.cached i (hcareful hhandle i hi)]
      simp only [hvalue]
  · obtain ⟨s₁, hthreads, hcurrent, hloaded, hresult, -⟩ :=
      RegisterSession.inThread_other (e := e) hhandle ht 0 fun _ s => (s, s.GetValue e reg)
    rw [RegisterSession.GetContextDataEx, hresult]
    show s₁.GetValue e reg = _
    rw [RegisterSession.GetValue, RegisterEngine.readNow, hloaded.values, hthreads, hcurrent]
    exact hσ.effective ▸ rfl

theorem effective_setValue_of_ne (ht : t ≠ s.current) :
    (s.SetValue e reg v).1.effective e t = s.effective e t := by
  rcases RegisterSession.setValue_cases (e := e) (s := s) reg v with hset | ⟨i, w, -, -, hset⟩
  · rw [hset]
  · rw [hset, RegisterSession.effective_of_ne ht, RegisterSession.effective_of_ne]
    · rfl
    · exact ht

/-- No call changes the engine's thread, or a register of a thread that it is not about. -/
theorem after_frame (σ : TracedRegisters Cell Thread) (call : RegisterCall) :
    (σ.after e call).session.current = σ.session.current ∧
      ∀ t, call.thread σ.session ≠ some t →
        (σ.after e call).session.effective e t = σ.session.effective e t := by
  cases hthread : call.thread σ.session with
  | none =>
    rw [after_of_no_thread hthread]
    exact ⟨rfl, fun t _ => rfl⟩
  | some u =>
    by_cases hu : u = σ.session.current
    · subst hu
      cases call with
      | getContextDataEx hThread reg =>
        rw [after_self_get hthread]
        exact ⟨rfl, fun t _ => rfl⟩
      | setContextDataEx hThread reg v =>
        obtain ⟨s, hrun, -, hcurrent, heffective, -⟩ :=
          setContextDataEx_self (e := e) reg v hthread
        have hsession : (σ.after e (.setContextDataEx hThread reg v)).session = s := hrun
        rw [hsession, heffective]
        refine ⟨hcurrent, fun t ht => effective_setValue_of_ne ?_⟩
        rintro rfl
        exact ht rfl
      | setCurrentInstructionPointer v =>
        have hsession : (σ.after e (.setCurrentInstructionPointer v)).session =
            (σ.session.SetValue e .cip v).1 := rfl
        rw [hsession]
        refine ⟨?_, fun t ht => effective_setValue_of_ne ?_⟩
        · rcases RegisterSession.setValue_cases (e := e) (s := σ.session) .cip v with
            hset | ⟨i, w, -, -, hset⟩
          · rw [hset]
          · rw [hset]
            rfl
        · rintro rfl
          exact ht rfl
    · obtain ⟨hloaded, hcurrent, hthreads⟩ := @after_other _ _ _ e σ call u hthread hu
      refine ⟨hcurrent, fun t ht => ?_⟩
      have htu : t ≠ u := by
        rintro rfl
        exact ht rfl
      rw [hloaded.quiet.effective, hthreads]
      cases call.writes with
      | none => rfl
      | some write => exact Function.update_of_ne htu _ _

end Calls

/-- What `GetContextDataEx` returns is what the engine would return if every write had reached
it at once, in every run of calls that use the registers of the current thread by names that
the cache has kept up with. In every run, no call changes the engine's thread or a register of
another thread than its own. -/
theorem register_cache_coherent (h : σ.Initial e) :
    (∀ σ' hActiveThread reg t, CarefulCalls e σ σ' →
      σ'.Careful e (.getContextDataEx hActiveThread reg) →
      σ'.session.threadHandleToIndex hActiveThread = some t →
      (σ'.session.GetContextDataEx e {} hActiveThread reg).2 = e.readNow reg (σ'.immediate t)) ∧
    ∀ σ' call, Calls e σ σ' →
      (σ'.after e call).session.current = σ'.session.current ∧
        ∀ t, call.thread σ'.session ≠ some t →
          (σ'.after e call).session.effective e t = σ'.session.effective e t := by
  constructor
  · intro σ' hActiveThread reg t hrun hcareful hhandle
    have hkeeps : Runs.Preserves (fun σ σ' : TracedRegisters Cell Thread =>
        ∃ call, σ.Careful e call ∧ σ' = σ.after e call) (Coherent e) := by
      rintro σ σ' ⟨call, hcareful, rfl⟩ hσ
      exact hσ.after hcareful
    exact (hkeeps.run hrun h.coherent).getContextDataEx hcareful hhandle
  · intro σ' call _
    exact after_frame σ' call

end TracedRegisters

def stoppedTrace : TracedRegisters ℕ Bool := ⟨stoppedRegisters, stoppedRegisters.threads, []⟩

theorem stoppedTrace_initial : stoppedTrace.Initial threeRegisters :=
  ⟨⟨fun _ _ => rfl, rfl⟩, rfl, rfl⟩

namespace TracedRegisters

set_option maxRecDepth 4000 in
/-- The lower half of `rax` is written; a call on the other thread has the cache read again. -/
theorem register_cache_coherent_reloaded : ∃ σ, CarefulCalls threeRegisters stoppedTrace σ ∧
    (σ.session.GetContextDataEx threeRegisters {} 1 .rax).2 =
      threeRegisters.readNow .rax (σ.immediate false) ∧
    threeRegisters.readNow .rax (σ.immediate false) = 5 := by
  let wrote := stoppedTrace.after threeRegisters (.setContextDataEx 1 .eax 5)
  let reloaded := wrote.after threeRegisters (.getContextDataEx 2 .rax)
  have hwrite : stoppedTrace.Careful threeRegisters (.setContextDataEx 1 .eax 5) := by
    intro _ i _ j _ _ hchanged
    cases hchanged
  have hreload : wrote.Careful threeRegisters (.getContextDataEx 2 .rax) := by
    intro hcurrent
    have hother : wrote.session.threadHandleToIndex 2 ≠ some wrote.session.current := by decide
    exact absurd hcurrent hother
  have hread : reloaded.Careful threeRegisters (.getContextDataEx 1 .rax) := by
    intro _ i _ j hj
    have hwritten : reloaded.written = [] := by decide
    rw [hwritten] at hj
    cases hj
  have hrun : CarefulCalls threeRegisters stoppedTrace reloaded :=
    .tail (.single ⟨_, hwrite, rfl⟩) ⟨_, hreload, rfl⟩
  have hhandle : reloaded.session.threadHandleToIndex 1 = some false := by decide
  have hvalue : threeRegisters.readNow .rax (reloaded.immediate false) = 5 := by decide
  exact ⟨reloaded, hrun, (register_cache_coherent stoppedTrace_initial).1 reloaded 1 .rax false hrun
    hread hhandle, hvalue⟩

set_option maxRecDepth 4000 in
/-- After a write of `eax` the cache still has the old value of `rax`. -/
theorem aliased_register_stale :
    ¬ ∀ (σ σ' : TracedRegisters ℕ Bool) hActiveThread reg t, σ.Initial threeRegisters →
      Calls threeRegisters σ σ' → σ'.session.threadHandleToIndex hActiveThread = some t →
      (σ'.session.GetContextDataEx threeRegisters {} hActiveThread reg).2 =
        threeRegisters.readNow reg (σ'.immediate t) := by
  intro hclaim
  let wrote := stoppedTrace.after threeRegisters (.setContextDataEx 1 .eax 5)
  have hrun : Calls threeRegisters stoppedTrace wrote := .single ⟨_, rfl⟩
  have hhandle : wrote.session.threadHandleToIndex 1 = some false := by decide
  have hvalue := hclaim stoppedTrace wrote 1 .rax false stoppedTrace_initial hrun hhandle
  have hstale : (wrote.session.GetContextDataEx threeRegisters {} 1 .rax).2 = 0 := by decide
  have hwritten : threeRegisters.readNow .rax (wrote.immediate false) = 5 := by decide
  rw [hstale, hwritten] at hvalue
  cases hvalue

end TracedRegisters

end TitanEngine

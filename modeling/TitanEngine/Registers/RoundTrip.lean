import TitanEngine.Registers.Failures

/-! AVX-512 contexts that are written and read again. The lower 128 bits of a `zmm` register
lie in the legacy area, which is filled from the `xmm` registers of the context. -/
namespace TitanEngine
open Lanes

theorem setWidth_append_self {n : ℕ} (high low : BitVec n) : (high ++ low).setWidth n = low := by
  apply BitVec.eq_of_getLsbD_eq
  intro k hk
  rw [BitVec.getLsbD_setWidth, BitVec.getLsbD_append, if_pos hk, decide_eq_true hk, Bool.true_and]

theorem shift_append_self {n : ℕ} (high low : BitVec n) :
    ((high ++ low) >>> n).setWidth n = high := by
  apply BitVec.eq_of_getLsbD_eq
  intro k hk
  rw [BitVec.getLsbD_setWidth, BitVec.getLsbD_ushiftRight, BitVec.getLsbD_append,
    if_neg (by omega), Nat.add_sub_cancel_left, decide_eq_true hk, Bool.true_and]

theorem YmmRegister.ofBits_bits (r : YmmRegister) : YmmRegister.ofBits r.bits = r := by
  have hlow : r.bits.setWidth 128 = r.Low := setWidth_append_self r.High r.Low
  have hhigh : (r.bits >>> 128).setWidth 128 = r.High := shift_append_self r.High r.Low
  rw [ofBits, hlow, hhigh]

theorem ZmmRegister.ofBits_bits (r : ZmmRegister) : ZmmRegister.ofBits r.bits = r := by
  have hlow : r.bits.setWidth 256 = r.Low.bits := setWidth_append_self r.High.bits r.Low.bits
  have hhigh : (r.bits >>> 256).setWidth 256 = r.High.bits :=
    shift_append_self r.High.bits r.Low.bits
  rw [ofBits, hlow, hhigh, YmmRegister.ofBits_bits, YmmRegister.ofBits_bits]

/-- The areas that a `TITAN_ENGINE_CONTEXT_AVX512` is about. -/
def NativeField.isVector : NativeField → Bool
  | .xmmRegister _ | .avx _ | .opmask _ | .zmmHigh _ | .zmm16 _ => true
  | _ => false

section Areas
variable {Cell : Type*} {L : NativeLayout Cell} {value value' : NativeField → ℕ → Bool}
  {fields : List NativeField} {native native' : Cell → Bool} {f : NativeField} {cell : Cell}

/-- Bits of registers that are no part of a `TITAN_ENGINE_CONTEXT_AVX512`. -/
def NativeLayout.Outside (L : NativeLayout Cell) (cell : Cell) : Prop :=
  ∀ f, f.isVector = true → (L.lane f).index cell = none

theorem field_storeAll_of_mem {n : ℕ} (hf : f ∈ fields) (hn : n ≤ f.width) :
    L.field (storeAll L.lane value fields native) n f = word n (value f) := by
  apply word_congr
  intro k hk
  rw [get_storeAll hf fun g _ hne => L.apart (Ne.symm hne), L.width_lane f]
  simp [show k < f.width by omega]

theorem field_storeAll_of_not_mem {n : ℕ} (hf : f ∉ fields) :
    L.field (storeAll L.lane value fields native) n f = L.field native n f := by
  have hapart : ∀ g ∈ fields, (L.lane f).Apart (L.lane g) := by
    rintro g hg
    apply L.apart
    rintro rfl
    exact hf hg
  rw [NativeLayout.field, NativeLayout.field, get_storeAll_of_apart hapart]

theorem avx512Fields_isVector (hf : f ∈ avx512Fields) : f.isVector = true := by
  simp only [avx512Fields, List.mem_append, List.mem_map] at hf
  rcases hf with (⟨i, -, rfl⟩ | ⟨i, -, rfl⟩) | ⟨i, -, rfl⟩ <;> rfl

theorem writeAvx512_outside {c : TITAN_ENGINE_CONTEXT_AVX512} (h : L.Outside cell) :
    writeAvx512 L c native cell = native cell :=
  storeAll_of_index_none fun f hf => h f (avx512Fields_isVector hf)

theorem storeAll_congr_outside (h : L.Outside cell) (hnative : native cell = native' cell)
    (hvalue : ∀ f ∈ fields, f.isVector = false → value f = value' f) :
    storeAll L.lane value fields native cell = storeAll L.lane value' fields native' cell := by
  induction fields generalizing native native' with
  | nil => exact hnative
  | cons f fields ih =>
    rw [storeAll_cons, storeAll_cons]
    apply ih
    · cases hi : (L.lane f).index cell with
      | none => rw [Lane.put_of_none hi, Lane.put_of_none hi, hnative]
      | some k =>
        have hvector : f.isVector = false := by
          cases hf : f.isVector with
          | false => rfl
          | true =>
            rw [h f hf] at hi
            cases hi
        rw [Lane.put_of_some hi, Lane.put_of_some hi, hvalue f List.mem_cons_self hvector]
    · intro g hg
      exact hvalue g (List.mem_cons_of_mem f hg)

/-- The upper halves of the `ymm` registers are vector registers. -/
theorem writeExtendedContext_outside {c : TITAN_ENGINE_CONTEXT_AVX512} {titan : TITAN_ENGINE_CONTEXT}
    (h : L.Outside cell) :
    writeExtendedContext L (c.avx titan) native cell = writeExtendedContext L titan native cell := by
  apply storeAll_congr_outside h rfl
  intro f _ hf
  cases f <;> first | rfl | cases hf

end Areas

namespace RegisterSession
variable {Cell Thread : Type*} [DecidableEq Thread] {e : RegisterEngine Cell} {L : NativeLayout Cell}
  {s s' : RegisterSession Cell Thread} {t u : Thread} {h : HANDLE}

/-- The session as `GetFullContextDataEx` finds it once it is on its thread. -/
def seenBy (e : RegisterEngine Cell) (a : ScopeAnswers) (s : RegisterSession Cell Thread) (t : Thread) :
    RegisterSession Cell Thread :=
  if t = s.current then s
  else { s.about e t t with
    Values := fun i => { type := scopeTypes e a s t i, bits := (e.lane i).get (s.effective e t) } }

/-- The context that is read, and written back except for its vector registers. -/
def handedBack (e : RegisterEngine Cell) (L : NativeLayout Cell) (a : ScopeAnswers)
    (s : RegisterSession Cell Thread) (t : Thread) : TITAN_ENGINE_CONTEXT :=
  readExtendedContext L (s.threads t) ((s.seenBy e a t).generalContext e)

/-- Writing back the other registers of the thread changes none of them: the cache has kept up
with those of the engine's thread, and nothing that waits there is overtaken. -/
def KeepsOthers (e : RegisterEngine Cell) (L : NativeLayout Cell) (a : ScopeAnswers)
    (s : RegisterSession Cell Thread) (t : Thread) : Prop :=
  ∀ cell, L.Outside cell →
    writeExtendedContext L (s.handedBack e L a t)
      (((s.about e t t).markAll (assignedBy e (if t = s.current then s.types else e.type)
        (s.handedBack e L a t).values)).flushed e) cell = s.effective e t cell

/-- The registers that a context is assigned to, beside `mxcsr`. -/
def generalRegisters : List TitanRegister :=
  [.rax, .rbx, .rcx, .rdx, .rsi, .rdi, .rbp, .rsp, .rip, .rflags,
    .r8, .r9, .r10, .r11, .r12, .r13, .r14, .r15,
    .segCs, .segSs, .segDs, .segEs, .segFs, .segGs, .dr0, .dr1, .dr2, .dr3, .dr6, .dr7]

def segmentRegisters : List TitanRegister := [.segCs, .segSs, .segDs, .segEs, .segFs, .segGs]

/-- The engine's list of registers, as far as contexts use it: the general registers are no part
of one another nor of the extended state, and `mxcsr` is the one of the extended state. -/
structure Separates (e : RegisterEngine Cell) (L : NativeLayout Cell) : Prop where
  apart {reg reg' : TitanRegister} {i i' : ℕ} : reg ∈ generalRegisters → reg' ∈ generalRegisters →
    reg ≠ reg' → e.TitanRegIndexMap reg = some i → e.TitanRegIndexMap reg' = some i' →
      (e.lane i).Apart (e.lane i')
  area {reg : TitanRegister} {i : ℕ} (f : NativeField) : reg ∈ generalRegisters →
    e.TitanRegIndexMap reg = some i → (e.lane i).Apart (L.lane f)
  segment {reg : TitanRegister} {i : ℕ} : reg ∈ segmentRegisters →
    e.TitanRegIndexMap reg = some i → (e.lane i).width ≤ 16
  mxcsr {i : ℕ} : e.TitanRegIndexMap .mxcsr = some i → e.lane i = L.lane .mxCsr

/-- The cache, as it is read at the start, shows each general register as it is, up to bits that
a register covers which waits and is written later, and no change of the x87 state or of `mxcsr`
waits. -/
structure UpToDate (e : RegisterEngine Cell) (L : NativeLayout Cell) (a : ScopeAnswers)
    (s : RegisterSession Cell Thread) (t : Thread) : Prop where
  general {reg : TitanRegister} {i k : ℕ} {cell : Cell} : reg ∈ generalRegisters →
    e.TitanRegIndexMap reg = some i → (e.lane i).index cell = some k →
    ((s.seenBy e a t).GetValue e reg).getLsbD k = s.effective e t cell ∨
      ∃ j < e.Count, i < j ∧ (s.about e t t).Changed j = true ∧ (e.lane j).index cell ≠ none
  extended {f : NativeField} {k : ℕ} {cell : Cell} : f.isVector = false →
    (L.lane f).index cell = some k → s.threads t cell = s.effective e t cell

omit [DecidableEq Thread] in
theorem generalContext_congr (hvalues : s.Values = s'.Values) :
    s.generalContext e = s'.generalContext e := by
  simp only [generalContext, GetValue, hvalues]

theorem leaveScope_stays {a : ScopeAnswers} {prev : Thread} (hquiet : s.Quiet e) (hprev : s.current ≠ prev)
    (hstays : (s.leaveScope e a ⟨prev, true, true⟩).current = s.current) :
    s.leaveScope e a ⟨prev, true, true⟩ = s := by
  have hflush : s.Flush e a.flushAfter = (s, true) := by
    simp [Flush, filter_eq_nil_iff.2 hquiet]
  cases hrestore : a.restore with
  | false => simp [leaveScope, hflush, hrestore]
  | true =>
    have hback : (s.leaveScope e a ⟨prev, true, true⟩).current = prev := by
      simp only [leaveScope, hflush, hrestore, not_true_eq_false, if_false, if_true]
      cases a.readAfter <;> rfl
    exact absurd (hstays.symm.trans hback) hprev

theorem getFullContextDataEx_succeeded {b : ContextAnswers} (hhandle : s.threadHandleToIndex h = some t)
    (hok : (s.GetFullContextDataEx e L b h).2.2 = true) :
    (s.GetFullContextDataEx e L b h).2.1 = s.handedBack e L b.scope t ∧
      (t = s.current → (s.GetFullContextDataEx e L b h).1 = s) ∧
      (t ≠ s.current → (s.GetFullContextDataEx e L b h).1.Quiet e ∧
        (s.GetFullContextDataEx e L b h).1.threads = s.effective e ∧
        ((s.GetFullContextDataEx e L b h).1.current = t →
          (s.GetFullContextDataEx e L b h).1.types = scopeTypes e b.scope s t)) := by
  unfold GetFullContextDataEx at hok ⊢
  by_cases hentered : Entered e b.scope s t
  · by_cases ht : t = s.current
    · subst ht
      rw [inThread_current hhandle hentered.1] at hok ⊢
      cases hload : b.load with
      | false => simp [hload] at hok
      | true =>
        refine ⟨?_, fun _ => by simp, fun hne => absurd rfl hne⟩
        simp [handedBack, seenBy]
    · obtain ⟨s', hswitched, hrun⟩ := inThread_switched (e := e) hhandle ht hentered ({}, false)
        fun thread s => if ¬ b.load then (s, s.generalContext e, false)
          else (s, readExtendedContext L (s.threads thread) (s.generalContext e), true)
      rw [hrun] at hok ⊢
      cases hload : b.load with
      | false => simp [hload] at hok
      | true =>
        obtain ⟨hquiet, hthreads⟩ := leaveScope_quiet (a := b.scope) hswitched.quiet
          ⟨s.current, true, true⟩
        have hvalues : s'.Values = (s.seenBy e b.scope t).Values := by
          rw [hswitched.values, seenBy, if_neg ht]
        have hbits : s'.threads t = s.threads t := by
          rw [hswitched.threads, effective_of_ne ht]
        simp only [not_true_eq_false, if_false]
        refine ⟨?_, fun heq => absurd heq ht, fun _ => ⟨hquiet, ?_, fun hstays => ?_⟩⟩
        · rw [handedBack, hbits, generalContext_congr hvalues]
        · rw [hthreads, hswitched.threads]
        · rw [leaveScope_stays hswitched.quiet, hswitched.types]
          · rw [hswitched.current]
            exact ht
          · rw [hstays, hswitched.current]
  · obtain ⟨s', hrun, -⟩ := inThread_refused (e := e) hhandle hentered ({}, false)
      fun thread s => if ¬ b.load then (s, s.generalContext e, false)
        else (s, readExtendedContext L (s.threads thread) (s.generalContext e), true)
    rw [hrun] at hok
    cases hok

omit [DecidableEq Thread] in
theorem assignedBy_congr {type type' : ℕ → DebugValueType} {values : List (TitanRegister × ULONG_PTR)}
    (hassign : Assignable e type values)
    (hsame : ∀ i, (type i).integer ≠ none → type i = type' i) :
    assignedBy e type values = assignedBy e type' values := by
  induction values with
  | nil => rfl
  | cons p rest ih =>
    obtain ⟨i, w, hi, hw⟩ := hassign p List.mem_cons_self
    have htype : type i = type' i := hsame i (by simp [hw])
    rw [assignedBy, assignedBy]
    simp only [hi, ← htype, hw]
    rw [ih fun q hq => hassign q (List.mem_cons_of_mem p hq)]

theorem scopeTypes_integer {a : ScopeAnswers} (ht : t ≠ s.current) {i : ℕ}
    (hi : (scopeTypes e a s t i).integer ≠ none) : scopeTypes e a s t i = e.type i := by
  simp only [scopeTypes, if_neg ht] at hi ⊢
  split_ifs at hi ⊢
  · rfl
  · exact absurd rfl hi

section Others
variable {a : ScopeAnswers} {reg : TitanRegister} {i k w : ℕ} {cell : Cell} {f : NativeField}

/-- A general register as a context hands it back. -/
def handedValue (e : RegisterEngine Cell) (s : RegisterSession Cell Thread) (reg : TitanRegister) :
    ULONG_PTR :=
  if reg ∈ segmentRegisters then ((s.GetValue e reg).setWidth 16).setWidth 64 else s.GetValue e reg

theorem handedBack_values : (s.handedBack e L a t).values =
    generalRegisters.map (fun reg => (reg, (s.seenBy e a t).handedValue e reg)) ++
      [(.mxcsr, (L.field (s.threads t) 32 .mxCsr).setWidth 64)] := rfl

/-- The types of the cached values that the context is assigned to. -/
def assignedTypes (e : RegisterEngine Cell) (s : RegisterSession Cell Thread) (t : Thread) :
    ℕ → DebugValueType :=
  if t = s.current then s.types else e.type

theorem seenBy_integer (h : ((s.seenBy e a t).types i).integer = some w) :
    (s.assignedTypes e t i).integer = some w := by
  by_cases ht : t = s.current
  · simpa [seenBy, assignedTypes, ht] using h
  · have htypes : (s.seenBy e a t).types i = scopeTypes e a s t i := by simp [seenBy, ht, types]
    rw [htypes] at h
    have hint : (scopeTypes e a s t i).integer ≠ none := by simp [h]
    rw [scopeTypes_integer ht hint] at h
    rwa [assignedTypes, if_neg ht]

omit [DecidableEq Thread] in
theorem integerBits_handedValue (hi : e.TitanRegIndexMap reg = some i)
    (htypes : ∀ w', (s.types i).integer = some w' → w' = w) (hk : reg ∈ segmentRegisters → k < 16) :
    integerBits w (s.handedValue e reg) k = (s.GetValue e reg).getLsbD k := by
  have hcut : (s.handedValue e reg).getLsbD k = (s.GetValue e reg).getLsbD k := by
    unfold handedValue
    split_ifs with hsegment
    · have hk' := hk hsegment
      simp [hk', show k < 64 by omega]
    · rfl
  rw [integerBits, hcut, GetValue, hi]
  cases hw : (s.Values i).type.integer with
  | none => simp [integerOf, hw]
  | some w' =>
    obtain rfl := htypes w' hw
    simp only [integerOf, hw, getLsbD_word]
    cases decide (k < w') <;> simp

theorem about_flushed : (s.about e t t).flushed e = s.effective e t := by
  by_cases ht : t = s.current
  · subst ht
    simp [about]
  · rw [about_of_ne ht]
    have hquiet : ({ s with threads := s.effective e, current := t, Changed := fun _ => false } :
        RegisterSession Cell Thread).Quiet e := fun _ _ => rfl
    exact hquiet.flushed

theorem extendedValue_read {native : Cell → Bool} {titan : TITAN_ENGINE_CONTEXT}
    (hf : f.isVector = false) (hk : k < f.width) :
    extendedValue (readExtendedContext L native titan) f k = (L.lane f).get native k := by
  cases f <;> simp only [NativeField.isVector, reduceCtorEq] at hf <;>
    simp only [NativeField.width] at hk <;>
    simp [extendedValue, readExtendedContext, NativeLayout.field, getLsbD_word] <;> omega

/-- An area that is read and written back holds what it held when it was read. -/
theorem writeExtendedContext_area {native native' : Cell → Bool} {titan : TITAN_ENGINE_CONTEXT}
    (hf : f.isVector = false) (hk : (L.lane f).index cell = some k) :
    writeExtendedContext L (readExtendedContext L native titan) native' cell = native cell := by
  obtain ⟨hlt, rfl⟩ := (L.lane f).index_eq_some.1 hk
  have hmem : f ∈ extendedFields L.avxEnabled := by
    cases f <;> simp only [NativeField.isVector, reduceCtorEq] at hf <;> simp [extendedFields]
  have hwidth : k < f.width := by rwa [L.width_lane] at hlt
  have hstored : (L.lane f).get (writeExtendedContext L (readExtendedContext L native titan) native') k =
      (decide (k < (L.lane f).width) &&
        extendedValue (readExtendedContext L native titan) f k) :=
    get_storeAll hmem (fun g _ hne => L.apart (Ne.symm hne)) k
  rw [Lane.get_of_lt hlt, extendedValue_read hf hwidth, Lane.get_of_lt hlt] at hstored
  rw [hstored]
  simp [hlt]

/-- The registers that a context is assigned to. -/
theorem mem_handed (hassign : Assignable e (s.assignedTypes e t) (s.handedBack e L a t).values) :
    i ∈ (assignedBy e (s.assignedTypes e t) (s.handedBack e L a t).values).map Prod.fst ↔
      ∃ reg, (reg ∈ generalRegisters ∨ reg = .mxcsr) ∧ e.TitanRegIndexMap reg = some i := by
  constructor
  · intro hi
    obtain ⟨m, hm, rfl⟩ := List.mem_map.1 hi
    obtain ⟨p, hp, w, hindex, -⟩ := (mem_assignedBy hassign).1 hm
    refine ⟨p.1, ?_, hindex⟩
    rw [handedBack_values, List.mem_append, List.mem_map] at hp
    rcases hp with ⟨reg, hreg, rfl⟩ | hp
    · exact .inl hreg
    · obtain rfl := List.mem_singleton.1 hp
      exact .inr rfl
  · rintro ⟨reg, hreg, hindex⟩
    have hp : ∃ v, (reg, v) ∈ (s.handedBack e L a t).values := by
      rw [handedBack_values]
      rcases hreg with hreg | rfl
      · exact ⟨_, List.mem_append_left _ (List.mem_map.2 ⟨reg, hreg, rfl⟩)⟩
      · exact ⟨_, List.mem_append_right _ (List.mem_singleton.2 rfl)⟩
    obtain ⟨v, hv⟩ := hp
    obtain ⟨i', w, hindex', hw⟩ := hassign _ hv
    obtain rfl : i' = i := by
      rw [hindex] at hindex'
      exact (Option.some.inj hindex').symm
    have hm : (i', integerBits w v) ∈
        assignedBy e (s.assignedTypes e t) (s.handedBack e L a t).values :=
      (mem_assignedBy hassign).2 ⟨(reg, v), hv, w, hindex, hw, rfl⟩
    exact List.mem_map_of_mem (f := Prod.fst) hm

/-- A general register waits with the value that the cache showed. -/
theorem handed_bits (hsep : Separates e L)
    (hassign : Assignable e (s.assignedTypes e t) (s.handedBack e L a t).values)
    (hreg : reg ∈ generalRegisters) (hi : e.TitanRegIndexMap reg = some i)
    (hk : (e.lane i).index cell = some k) :
    (((s.about e t t).markAll (assignedBy e (s.assignedTypes e t)
      (s.handedBack e L a t).values)).Values i).bits k =
        ((s.seenBy e a t).GetValue e reg).getLsbD k := by
  have hmarked := (mem_handed hassign).2 ⟨reg, .inl hreg, hi⟩
  obtain ⟨m, hm, rfl, hbits⟩ := markAll_values_of_mem (s := s.about e t t) hmarked
  obtain ⟨p, hp, w, hindex, hw, hvalue⟩ := (mem_assignedBy hassign).1 hm
  have hlt : k < (e.lane m.1).width := ((e.lane m.1).index_eq_some.1 hk).1
  have hp' : p = (reg, (s.seenBy e a t).handedValue e reg) := by
    rw [handedBack_values, List.mem_append, List.mem_map] at hp
    rcases hp with ⟨reg', hreg', rfl⟩ | hp
    · by_cases hne : reg' = reg
      · rw [hne]
      · rw [(hsep.apart hreg hreg' (Ne.symm hne) hi hindex).index_eq_none hk] at hk
        cases hk
    · obtain rfl := List.mem_singleton.1 hp
      have hnone := (hsep.area .mxCsr hreg hi).index_eq_none hk
      rw [← hsep.mxcsr hindex, hk] at hnone
      cases hnone
  rw [hbits, hvalue, hp']
  apply integerBits_handedValue hi
  · intro w' hw'
    have hsame := seenBy_integer hw'
    rw [hw] at hsame
    exact (Option.some.inj hsame).symm
  · intro hsegment
    have hnarrow := hsep.segment hsegment hi
    omega

/-- A cache that has just been read is up to date. -/
theorem Loaded.upToDate (h : s.Loaded e)
    (htypes : ∀ reg ∈ generalRegisters, ∀ i, e.TitanRegIndexMap reg = some i →
      (e.type i).integer ≠ none) : s.UpToDate e L a s.current := by
  constructor
  · intro reg i k cell hreg hi hk
    left
    obtain ⟨w, hw⟩ := Option.ne_none_iff_exists'.1 (htypes reg hreg i hi)
    obtain ⟨hlt, rfl⟩ := (e.lane i).index_eq_some.1 hk
    have hwidth : (e.lane i).width = w := e.width_lane hw
    have hword : w ≤ 64 := by
      cases htype : e.type i <;> rw [htype] at hw <;> cases hw <;> omega
    have hseen : s.seenBy e a s.current = s := if_pos rfl
    rw [hseen, h.quiet.effective, GetValue, hi]
    simp only [integerOf, h.values, hw, getLsbD_word, Lane.get_of_lt hlt]
    have hk' : k < w := by omega
    simp [hk', show k < 64 by omega]
  · intro f k cell _ _
    rw [h.quiet.effective]

/-- The other registers are kept exactly where the cache is up to date. -/
theorem keepsOthers_iff (hsep : Separates e L)
    (hassign : Assignable e (s.assignedTypes e t) (s.handedBack e L a t).values) :
    s.KeepsOthers e L a t ↔ s.UpToDate e L a t := by
  let handed := (s.about e t t).markAll (assignedBy e (s.assignedTypes e t)
    (s.handedBack e L a t).values)
  have hthreads : handed.threads handed.current = (s.about e t t).threads (s.about e t t).current := by
    simp [handed]
  have hbefore : ∀ cell, (s.about e t t).flushed e cell = s.effective e t cell := by
    intro cell
    rw [about_flushed]
  -- a cell of a general register lies in no area
  have hplain : ∀ {cell reg i k}, reg ∈ generalRegisters → e.TitanRegIndexMap reg = some i →
      (e.lane i).index cell = some k → ∀ f, (L.lane f).index cell = none := by
    intro cell reg i k hreg hi hk f
    exact (hsep.area f hreg hi).index_eq_none hk
  constructor
  · intro hkeeps
    constructor
    · intro reg i k cell hreg hi hk
      have hnone := hplain hreg hi hk
      have hcell := hkeeps cell fun f _ => hnone f
      rw [writeExtendedContext, storeAll_of_index_none fun f _ => hnone f] at hcell
      have hwaits : handed.Changed i = true :=
        markAll_changed.2 (.inl ((mem_handed hassign).2 ⟨reg, .inl hreg, hi⟩))
      rcases flushed_cases e handed cell with
        ⟨hall, -⟩ | ⟨j, hj, k', hwaits', hk', hlater, hnew⟩
      · rw [hall i (e.lt_Count hi) hwaits] at hk
        cases hk
      · have hij : ¬ j < i := by
          intro hji
          rw [hlater i (e.lt_Count hi) hji hwaits] at hk
          cases hk
        by_cases hsame : j = i
        · subst hsame
          obtain rfl : k = k' := by
            rw [hk] at hk'
            exact Option.some.inj hk'
          left
          rw [← handed_bits hsep hassign hreg hi hk, ← hcell]
          exact hnew.symm
        · right
          refine ⟨j, hj, by omega, ?_, by simp [hk']⟩
          rcases markAll_changed.1 hwaits' with hassigned | hpending
          · obtain ⟨reg', hreg' | rfl, hj'⟩ := (mem_handed hassign).1 hassigned
            · have hne : reg ≠ reg' := by
                rintro rfl
                rw [hi] at hj'
                exact hsame (Option.some.inj hj').symm
              rw [(hsep.apart hreg hreg' hne hi hj').index_eq_none hk] at hk'
              cases hk'
            · rw [hsep.mxcsr hj', hnone .mxCsr] at hk'
              cases hk'
          · exact hpending
    · intro f k cell hf hk
      have houtside : L.Outside cell := by
        intro g hg
        have hne : f ≠ g := by
          rintro rfl
          rw [hf] at hg
          cases hg
        exact (L.apart hne).index_eq_none hk
      have hcell := hkeeps cell houtside
      rwa [handedBack, writeExtendedContext_area hf hk] at hcell
  · intro hupToDate cell houtside
    by_cases harea : ∃ f k, f.isVector = false ∧ (L.lane f).index cell = some k
    · obtain ⟨f, k, hf, hk⟩ := harea
      rw [handedBack, writeExtendedContext_area hf hk]
      exact hupToDate.extended hf hk
    · have hnone : ∀ f, (L.lane f).index cell = none := by
        intro f
        by_contra hcovers
        obtain ⟨k, hk⟩ := Option.ne_none_iff_exists'.1 hcovers
        cases hf : f.isVector with
        | false => exact harea ⟨f, k, hf, hk⟩
        | true => exact hcovers (houtside f hf)
      rw [writeExtendedContext, storeAll_of_index_none fun f _ => hnone f, ← hbefore]
      show handed.flushed e cell = (s.about e t t).flushed e cell
      rcases flushed_cases e handed cell with
        ⟨hall, hkept⟩ | ⟨j, hj, k, hwaits, hk, hlater, hnew⟩
      · have hpending : ∀ j ∈ (List.range e.Count).filter (s.about e t t).Changed,
            (e.lane j).index cell = none := by
          intro j hj
          obtain ⟨hlt, hchanged⟩ := List.mem_filter.1 hj
          exact hall j (List.mem_range.1 hlt) (markAll_changed.2 (.inr hchanged))
        rw [hkept, flushed, storeMarked, storeAll_of_index_none hpending, hthreads]
      · rw [hnew]
        by_cases hassigned : j ∈ (assignedBy e (s.assignedTypes e t)
            (s.handedBack e L a t).values).map Prod.fst
        · obtain ⟨reg, hreg | rfl, hindex⟩ := (mem_handed hassign).1 hassigned
          · have hbits : (handed.Values j).bits k = ((s.seenBy e a t).GetValue e reg).getLsbD k :=
              handed_bits hsep hassign hreg hindex hk
            rw [hbits, hbefore]
            rcases hupToDate.general hreg hindex hk with heq | ⟨i, hi, hji, hpending, hcovers⟩
            · exact heq
            · exact absurd (hlater i hi hji (markAll_changed.2 (.inr hpending))) hcovers
          · rw [hsep.mxcsr hindex, hnone .mxCsr] at hk
            cases hk
        · have hvalue : handed.Values j = (s.about e t t).Values j :=
            markAll_values_of_not_mem hassigned
          have hpending : (s.about e t t).Changed j = true :=
            (markAll_changed.1 hwaits).resolve_left hassigned
          rcases flushed_cases e (s.about e t t) cell with
            ⟨hall, -⟩ | ⟨i, hi, k', hchanged, hk', hlater', hstored'⟩
          · rw [hall j hj hpending] at hk
            cases hk
          · have hij : ¬ i < j := by
              intro hij
              rw [hlater' j hj hij hpending] at hk
              cases hk
            have hji : ¬ j < i := by
              intro hji
              rw [hlater i hi hji (markAll_changed.2 (.inr hchanged))] at hk'
              cases hk'
            obtain rfl : i = j := by omega
            obtain rfl : k = k' := by
              rw [hk] at hk'
              exact Option.some.inj hk'
            rw [hvalue]
            exact hstored'.symm

end Others

/-- What the first two stages of `SetAVX512Context` make of the general registers, in terms of
the session before. -/
theorem assignedBits_handedBack {b b' : ContextAnswers} {c : TITAN_ENGINE_CONTEXT_AVX512}
    (hhandle : s.threadHandleToIndex h = some t) (hok : (s.GetFullContextDataEx e L b h).2.2 = true)
    (hassign : Assignable e (scopeTypes e b'.scope (s.GetFullContextDataEx e L b h).1 t)
      (s.handedBack e L b.scope t).values) :
    (s.GetFullContextDataEx e L b h).1.assignedBits e b' (c.avx (s.handedBack e L b.scope t)) t =
      ((s.about e t t).markAll (assignedBy e (if t = s.current then s.types else e.type)
        (s.handedBack e L b.scope t).values)).flushed e := by
  obtain ⟨-, hself, hother⟩ := getFullContextDataEx_succeeded hhandle hok
  by_cases ht : t = s.current
  · rw [hself ht, if_pos ht, assignedBits]
    have htypes : scopeTypes e b'.scope s t = s.types := if_pos ht
    rw [htypes]
    rfl
  · obtain ⟨hquiet, hthreads, htypes⟩ := hother ht
    generalize (s.GetFullContextDataEx e L b h).1 = got at hassign hquiet hthreads htypes ⊢
    have hmarks : assignedBy e (scopeTypes e b'.scope got t) (s.handedBack e L b.scope t).values =
        assignedBy e e.type (s.handedBack e L b.scope t).values := by
      apply assignedBy_congr hassign
      intro i hi
      by_cases hcurrent : t = got.current
      · have hscope : scopeTypes e b'.scope got t = scopeTypes e b.scope s t := by
          rw [scopeTypes, if_pos hcurrent, htypes hcurrent.symm]
        rw [hscope] at hi ⊢
        exact scopeTypes_integer ht hi
      · exact scopeTypes_integer hcurrent hi
    rw [if_neg ht, assignedBits]
    have hvalues : (c.avx (s.handedBack e L b.scope t)).values =
        (s.handedBack e L b.scope t).values := rfl
    rw [hvalues, hmarks]
    apply Alike.flushed
    apply Alike.markAll
    have hgot : (got.about e t t).Quiet e ∧ (got.about e t t).threads (got.about e t t).current =
        s.effective e t := by
      by_cases hcurrent : t = got.current
      · rw [about, if_pos hcurrent, ← hcurrent, hthreads]
        exact ⟨hquiet, rfl⟩
      · rw [about_of_ne hcurrent]
        refine ⟨fun i _ => rfl, ?_⟩
        show got.effective e t = _
        rw [hquiet.effective, hthreads]
    rw [about_of_ne ht]
    exact alike_of_quiet hgot.1 (fun i _ => rfl) hgot.2

/-- The registers of the thread after a `SetAVX512Context` that succeeds. -/
def afterAvx512 (e : RegisterEngine Cell) (L : NativeLayout Cell) (a : ScopeAnswers)
    (c : TITAN_ENGINE_CONTEXT_AVX512) (s : RegisterSession Cell Thread) (t : Thread) : Cell → Bool :=
  writeAvx512 L c (writeExtendedContext L (c.avx (s.handedBack e L a t))
    (((s.about e t t).markAll (assignedBy e (if t = s.current then s.types else e.type)
      (s.handedBack e L a t).values)).flushed e))

theorem assignable_handedBack {b b' : ContextAnswers}
    (hhandle : s.threadHandleToIndex h = some t) (hok : (s.GetFullContextDataEx e L b h).2.2 = true)
    (hassign : Assignable e (scopeTypes e b'.scope (s.GetFullContextDataEx e L b h).1 t)
      (s.handedBack e L b.scope t).values) :
    Assignable e (s.assignedTypes e t) (s.handedBack e L b.scope t).values := by
  obtain ⟨-, hself, hother⟩ := getFullContextDataEx_succeeded hhandle hok
  intro p hp
  obtain ⟨i, w, hi, hw⟩ := hassign p hp
  refine ⟨i, w, hi, ?_⟩
  by_cases ht : t = s.current
  · rw [hself ht, scopeTypes, if_pos ht] at hw
    rwa [assignedTypes, if_pos ht]
  · rw [assignedTypes, if_neg ht]
    by_cases hcurrent : t = (s.GetFullContextDataEx e L b h).1.current
    · rw [scopeTypes, if_pos hcurrent, (hother ht).2.2 hcurrent.symm] at hw
      rwa [scopeTypes_integer ht (by simp [hw])] at hw
    · rwa [scopeTypes_integer hcurrent (by simp [hw])] at hw

theorem setAVX512Context_handles {b : Avx512Answers} {c : TITAN_ENGINE_CONTEXT_AVX512} :
    (s.SetAVX512Context e L b h c).1.threadHandleToIndex = s.threadHandleToIndex := by
  have hgot : (s.GetAVXContext e L b.get h).1.threadHandleToIndex = s.threadHandleToIndex :=
    getFullContextDataEx_handles
  have hset : ∀ titan, ((s.GetAVXContext e L b.get h).1.SetAVXContext e L b.set h
      titan).1.threadHandleToIndex = s.threadHandleToIndex :=
    fun titan => setFullContextDataEx_handles.trans hgot
  rw [setAVX512Context_eq]
  simp only
  split_ifs
  · refine (inThread_handles false fun t s => ?_).trans (hset _)
    unfold avx512Body
    split_ifs
    · exact read_handles _
    · rfl
    · rfl
    · rfl
    · rfl
  · exact hset _
  · exact hgot

theorem setAVX512Context_succeeded {b : Avx512Answers} {c : TITAN_ENGINE_CONTEXT_AVX512}
    (hhandle : s.threadHandleToIndex h = some t) (hok : (s.SetAVX512Context e L b h c).2 = true) :
    (s.SetAVX512Context e L b h c).1.Quiet e ∧ (s.SetAVX512Context e L b h c).1.threads =
      Function.update (s.effective e) t (s.afterAvx512 e L b.get.scope c t) ∧
        Assignable e (s.assignedTypes e t) (s.handedBack e L b.get.scope t).values := by
  have hgetok : (s.GetAVXContext e L b.get h).2.2 = true := by
    by_contra hfail
    rw [setAVX512Context_eq] at hok
    simp [hfail] at hok
  have hsetok : ((s.GetAVXContext e L b.get h).1.SetAVXContext e L b.set h
      (c.avx (s.GetAVXContext e L b.get h).2.1)).2 = true := by
    by_contra hfail
    rw [setAVX512Context_eq] at hok
    simp [hgetok, hfail] at hok
  have heq : s.SetAVX512Context e L b h c = ((s.GetAVXContext e L b.get h).1.SetAVXContext e L b.set h
      (c.avx (s.GetAVXContext e L b.get h).2.1)).1.inThread e b.avx512.scope h false
        (avx512Body L e b.avx512 c) := by
    rw [setAVX512Context_eq]
    simp [hgetok, hsetok]
  have hgot : (s.GetAVXContext e L b.get h).1.effective e = s.effective e :=
    getFullContextDataEx_effective
  have htitan : (s.GetAVXContext e L b.get h).2.1 = s.handedBack e L b.get.scope t :=
    (getFullContextDataEx_succeeded hhandle hgetok).1
  have hhandle₁ : (s.GetAVXContext e L b.get h).1.threadHandleToIndex h = some t := by
    rw [GetAVXContext, getFullContextDataEx_handles, hhandle]
  rw [heq] at hok ⊢
  rw [htitan] at hsetok hok ⊢
  rcases setFullContextDataEx_cases (e := e) (L := L) (b := b.set)
      (c := c.avx (s.handedBack e L b.get.scope t)) hhandle₁ with
    ⟨-, hfail, -⟩ | ⟨-, -, hfail, -⟩ | ⟨-, -, -, -, hfail, -⟩ |
      ⟨-, hassign, -, -, -, -, hquiet, hthreads⟩
  · rw [SetAVXContext, hfail] at hsetok
    cases hsetok
  · rw [SetAVXContext, hfail] at hsetok
    cases hsetok
  · rw [SetAVXContext, hfail] at hsetok
    cases hsetok
  · rw [hgot, storedBits, GetAVXContext, assignedBits_handedBack hhandle hgetok hassign] at hthreads
    have hhandle₂ : ((s.GetAVXContext e L b.get h).1.SetAVXContext e L b.set h
        (c.avx (s.handedBack e L b.get.scope t))).1.threadHandleToIndex h = some t := by
      rw [SetAVXContext, setFullContextDataEx_handles, hhandle₁]
    have hquiet₂ : ((s.GetAVXContext e L b.get h).1.SetAVXContext e L b.set h
        (c.avx (s.handedBack e L b.get.scope t))).1.Quiet e := hquiet
    have hthreads₂ : ((s.GetAVXContext e L b.get h).1.SetAVXContext e L b.set h
        (c.avx (s.handedBack e L b.get.scope t))).1.threads = _ := hthreads
    rcases avx512_cases (L := L) (b := b.avx512) (c := c) hquiet₂ hhandle₂ with
      ⟨-, hfail, -⟩ | ⟨-, -, hquiet₃, hthreads₃⟩
    · rw [hfail] at hok
      cases hok
    · refine ⟨hquiet₃, ?_, assignable_handedBack hhandle hgetok hassign⟩
      rw [hthreads₃, hthreads₂, Function.update_self, Function.update_idem]
      rfl

/-- The body of an export, when it runs, finds the registers as they are. -/
theorem inThread_result {α : Type*} {a : ScopeAnswers} (hhandle : s.threadHandleToIndex h = some t)
    (hquiet : s.Quiet e) (failed : α)
    (body : Thread → RegisterSession Cell Thread → RegisterSession Cell Thread × α) :
    (s.inThread e a h failed body).2 = failed ∨
      ∃ s', s'.threads = s.threads ∧ (s.inThread e a h failed body).2 = (body t s').2 := by
  by_cases hentered : Entered e a s t
  · by_cases ht : t = s.current
    · subst ht
      exact .inr ⟨s, rfl, by rw [inThread_current hhandle hentered.1]⟩
    · obtain ⟨s', hswitched, hrun⟩ := inThread_switched (e := e) hhandle ht hentered failed body
      exact .inr ⟨s', hswitched.threads.trans hquiet.effective, by rw [hrun]⟩
  · obtain ⟨s', hrun, -⟩ := inThread_refused (e := e) hhandle hentered failed body
    exact .inl (by rw [hrun])

/-- The context that the areas of the thread hold. -/
def avx512Context (L : NativeLayout Cell) (native : Cell → Bool) : TITAN_ENGINE_CONTEXT_AVX512 where
  ZmmRegisters i :=
    if h : i.val < 16 then
      { Low := ⟨L.field native 128 (.xmmRegister ⟨i, h⟩), L.field native 128 (.avx ⟨i, h⟩)⟩
        High := .ofBits (L.field native 256 (.zmmHigh ⟨i, h⟩)) }
    else .ofBits (L.field native 512 (.zmm16 ⟨i - 16, sub_sixteen_lt h⟩))
  Opmask i := L.field native 64 (.opmask i)

theorem getAVX512Context_succeeded {b : Avx512Answers} (hhandle : s.threadHandleToIndex h = some t)
    (hquiet : s.Quiet e) (havx : L.avxEnabled = true)
    (hok : (s.GetAVX512Context e L b h).2.2 = true) :
    (s.GetAVX512Context e L b h).2.1 = avx512Context L (s.threads t) := by
  have hgetok : (s.GetAVXContext e L b.get h).2.2 = true := by
    by_contra hfail
    simp [GetAVX512Context, hfail] at hok
  obtain ⟨htitan, hself, hother⟩ := getFullContextDataEx_succeeded hhandle hgetok
  have hgot : (s.GetAVXContext e L b.get h).1.Quiet e ∧
      (s.GetAVXContext e L b.get h).1.threads = s.threads := by
    by_cases ht : t = s.current
    · rw [GetAVXContext, hself ht]
      exact ⟨hquiet, rfl⟩
    · obtain ⟨h₁, h₂, -⟩ := hother ht
      exact ⟨h₁, h₂.trans hquiet.effective⟩
  have hhandle₁ : (s.GetAVXContext e L b.get h).1.threadHandleToIndex h = some t := by
    rw [GetAVXContext, getFullContextDataEx_handles, hhandle]
  have hymm : ∀ i, (s.GetAVXContext e L b.get h).2.1.YmmRegisters i =
      ⟨L.field (s.threads t) 128 (.xmmRegister i), L.field (s.threads t) 128 (.avx i)⟩ := by
    intro i
    rw [GetAVXContext, htitan]
    simp [handedBack, readExtendedContext, havx]
  unfold GetAVX512Context at hok ⊢
  simp only [hgetok, not_true_eq_false, if_false] at hok ⊢
  generalize s.GetAVXContext e L b.get h = got at hgot hhandle₁ hymm hok ⊢
  obtain ⟨s₁, titan, ok⟩ := got
  simp only at hgot hhandle₁ hymm hok ⊢
  obtain ⟨hquiet₁, hthreads₁⟩ := hgot
  rcases inThread_result hhandle₁ hquiet₁ _ _ with hresult | ⟨s', hthreads', hresult⟩
  · rw [hresult] at hok
    cases hok
  · rw [hresult] at hok ⊢
    have hbits : s'.threads t = s.threads t := by rw [hthreads', hthreads₁]
    split_ifs at hok ⊢
    simp only [hbits]
    rw [avx512Context, TITAN_ENGINE_CONTEXT_AVX512.mk.injEq]
    refine ⟨?_, rfl⟩
    funext i
    by_cases hi : i.val < 16
    · simp only [hi, dif_pos, hymm]
    · simp only [hi, dif_neg, not_false_eq_true]

section Fields
variable {a : ScopeAnswers} {c : TITAN_ENGINE_CONTEXT_AVX512}

/-- The legacy area gets back the `xmm` registers that were read from it. -/
theorem afterAvx512_xmmRegister (i : Fin 16) :
    L.field (s.afterAvx512 e L a c t) 128 (.xmmRegister i) = L.field (s.threads t) 128 (.xmmRegister i) := by
  have hnot : NativeField.xmmRegister i ∉ avx512Fields := by simp [avx512Fields]
  have hmem : NativeField.xmmRegister i ∈ extendedFields L.avxEnabled := by simp [extendedFields]
  rw [afterAvx512, writeAvx512, field_storeAll_of_not_mem hnot, writeExtendedContext,
    field_storeAll_of_mem hmem (by simp [NativeField.width])]
  exact word_getLsbD _

theorem afterAvx512_avx (havx : L.avxEnabled = true) (i : Fin 16) :
    L.field (s.afterAvx512 e L a c t) 128 (.avx i) = (c.ZmmRegisters (i.castLE sixteen_le_registers)).Low.High := by
  have hnot : NativeField.avx i ∉ avx512Fields := by simp [avx512Fields]
  have hmem : NativeField.avx i ∈ extendedFields L.avxEnabled := by simp [extendedFields, havx]
  rw [afterAvx512, writeAvx512, field_storeAll_of_not_mem hnot, writeExtendedContext,
    field_storeAll_of_mem hmem (by simp [NativeField.width])]
  exact word_getLsbD _

theorem afterAvx512_zmmHigh (i : Fin 16) :
    L.field (s.afterAvx512 e L a c t) 256 (.zmmHigh i) =
      (c.ZmmRegisters (i.castLE sixteen_le_registers)).High.bits := by
  have hmem : NativeField.zmmHigh i ∈ avx512Fields := by simp [avx512Fields]
  rw [afterAvx512, writeAvx512, field_storeAll_of_mem hmem (by simp [NativeField.width])]
  exact word_getLsbD _

theorem afterAvx512_zmm16 (i : Fin 16) :
    L.field (s.afterAvx512 e L a c t) 512 (.zmm16 i) = (c.ZmmRegisters (i.natAdd 16)).bits := by
  have hmem : NativeField.zmm16 i ∈ avx512Fields := by simp [avx512Fields]
  rw [afterAvx512, writeAvx512, field_storeAll_of_mem hmem (by simp [NativeField.width])]
  exact word_getLsbD _

theorem afterAvx512_opmask (i : Fin 8) :
    L.field (s.afterAvx512 e L a c t) 64 (.opmask i) = c.Opmask i := by
  have hmem : NativeField.opmask i ∈ avx512Fields := by simp [avx512Fields]
  rw [afterAvx512, writeAvx512, field_storeAll_of_mem hmem (by simp [NativeField.width])]
  exact word_getLsbD _

/-- Everything that is written is read again but the lowest lanes, which are what they were. -/
theorem avx512Context_afterAvx512 (havx : L.avxEnabled = true) :
    avx512Context L (s.afterAvx512 e L a c t) = c ↔
      ∀ i : Fin 16, (c.ZmmRegisters (i.castLE sixteen_le_registers)).Low.Low =
        L.field (s.threads t) 128 (.xmmRegister i) := by
  constructor
  · intro h i
    have hregister := congrArg (fun d => (d.ZmmRegisters (i.castLE sixteen_le_registers)).Low.Low) h
    simp only [avx512Context, Fin.val_castLE, i.isLt, dif_pos] at hregister
    rw [← hregister, afterAvx512_xmmRegister]
  · intro hlow
    obtain ⟨zmm, opmask⟩ := c
    rw [avx512Context, TITAN_ENGINE_CONTEXT_AVX512.mk.injEq]
    constructor
    · funext i
      by_cases hi : i.val < 16
      · simp only [hi, dif_pos, afterAvx512_xmmRegister, afterAvx512_avx havx, afterAvx512_zmmHigh,
          YmmRegister.ofBits_bits, ← hlow]
        rfl
      · simp only [hi, dif_neg, not_false_eq_true, afterAvx512_zmm16, ZmmRegister.ofBits_bits]
        congr 1
        apply Fin.ext
        simp only [Fin.val_natAdd]
        omega
    · funext i
      exact afterAvx512_opmask i

theorem afterAvx512_outside {cell : Cell} (h : L.Outside cell) :
    s.afterAvx512 e L a c t cell = writeExtendedContext L (s.handedBack e L a t)
      (((s.about e t t).markAll (assignedBy e (if t = s.current then s.types else e.type)
        (s.handedBack e L a t).values)).flushed e) cell := by
  rw [afterAvx512, writeAvx512_outside h, writeExtendedContext_outside h]

end Fields

/-- A context that `SetAVX512Context` writes is the one that `GetAVX512Context` reads, with the
other registers of the thread as they were, exactly where its lowest lanes are those of the
thread's `xmm` registers and the register cache is up to date. -/
theorem avx512_round_trip_iff {b b' : Avx512Answers} {c : TITAN_ENGINE_CONTEXT_AVX512}
    (hsep : Separates e L) (hhandle : s.threadHandleToIndex h = some t) (havx : L.avxEnabled = true)
    (hset : (s.SetAVX512Context e L b h c).2 = true)
    (hget : ((s.SetAVX512Context e L b h c).1.GetAVX512Context e L b' h).2.2 = true) :
    (((s.SetAVX512Context e L b h c).1.GetAVX512Context e L b' h).2.1 = c ∧
      ∀ cell, L.Outside cell →
        (s.SetAVX512Context e L b h c).1.effective e t cell = s.effective e t cell) ↔
    (∀ i : Fin 16, (c.ZmmRegisters (i.castLE sixteen_le_registers)).Low.Low =
      L.field (s.threads t) 128 (.xmmRegister i)) ∧ s.UpToDate e L b.get.scope t := by
  obtain ⟨hquiet, hthreads, hassign⟩ := setAVX512Context_succeeded hhandle hset
  have hhandle' : (s.SetAVX512Context e L b h c).1.threadHandleToIndex h = some t := by
    rw [setAVX512Context_handles, hhandle]
  have hbits : (s.SetAVX512Context e L b h c).1.threads t = s.afterAvx512 e L b.get.scope c t := by
    rw [hthreads, Function.update_self]
  rw [getAVX512Context_succeeded hhandle' hquiet havx hget, hquiet.effective, hbits,
    avx512Context_afterAvx512 havx, ← keepsOthers_iff hsep hassign]
  apply and_congr_right
  intro _
  constructor
  · intro hsame cell hcell
    rw [← afterAvx512_outside (c := c) hcell]
    exact hsame cell hcell
  · intro hkeeps cell hcell
    rw [afterAvx512_outside hcell]
    exact hkeeps cell hcell

end RegisterSession

/-- The registers of a context, side by side, with `mxcsr` where the extended state has it. -/
def contextRegisters : RegisterEngine ℕ where
  Names := [.rax, .rbx, .rcx, .rdx, .rsi, .rdi, .rbp, .rsp, .rip, .efl,
    .r8, .r9, .r10, .r11, .r12, .r13, .r14, .r15,
    .cs, .ss, .ds, .es, .fs, .gs, .dr0, .dr1, .dr2, .dr3, .dr6, .dr7, .mxcsr]
  lane i :=
    if i = 30 then plainLayout.lane .mxCsr
    else .segment (100000 + 64 * i) (if 18 ≤ i ∧ i < 24 then 16 else 64)
  type i := if i = 30 then .int32 else if 18 ≤ i ∧ i < 24 then .int16 else .int64
  width_lane := by
    intro i w h
    split_ifs at h ⊢ <;> exact Option.some.inj h

theorem contextRegisters_index : ∀ reg ∈ RegisterSession.generalRegisters,
    contextRegisters.TitanRegIndexMap reg = some (RegisterSession.generalRegisters.idxOf reg) := by
  decide

theorem contextRegisters_separates : RegisterSession.Separates contextRegisters plainLayout := by
  have hlane : ∀ reg ∈ RegisterSession.generalRegisters, ∀ i,
      contextRegisters.TitanRegIndexMap reg = some i →
        i = RegisterSession.generalRegisters.idxOf reg ∧ contextRegisters.lane i =
          .segment (100000 + 64 * i) (if 18 ≤ i ∧ i < 24 then 16 else 64) := by
    intro reg hreg i hi
    rw [contextRegisters_index reg hreg] at hi
    obtain rfl := Option.some.inj hi
    have hlt := List.idxOf_lt_length_of_mem hreg
    rw [show RegisterSession.generalRegisters.length = 30 from rfl] at hlt
    exact ⟨rfl, if_neg (by omega)⟩
  have hwidth : ∀ i : ℕ, (if 18 ≤ i ∧ i < 24 then 16 else 64) ≤ 64 := by
    intro i
    split_ifs <;> omega
  constructor
  · intro reg reg' i i' hreg hreg' hne hi hi'
    obtain ⟨hindex, hlane₁⟩ := hlane reg hreg i hi
    obtain ⟨hindex', hlane₂⟩ := hlane reg' hreg' i' hi'
    have hapart : i ≠ i' := by
      intro heq
      rw [hindex, hindex'] at heq
      exact hne ((List.idxOf_inj hreg).1 heq)
    have hw := hwidth i
    have hw' := hwidth i'
    rw [hlane₁, hlane₂]
    rcases Nat.lt_or_gt_of_ne hapart with hlt | hlt
    · exact Lane.segment_apart (by omega)
    · exact (Lane.segment_apart (by omega)).symm
  · intro reg i f hreg hi
    rw [(hlane reg hreg i hi).2]
    have hnumber : f.number < 100 := by
      cases f <;> simp only [NativeField.number] <;> omega
    have hfield : f.width ≤ 512 := by cases f <;> simp [NativeField.width]
    exact (Lane.segment_apart (by omega)).symm
  · intro reg i hsegment hi
    have hsub : ∀ reg ∈ RegisterSession.segmentRegisters, reg ∈ RegisterSession.generalRegisters ∧
        18 ≤ RegisterSession.generalRegisters.idxOf reg ∧
          RegisterSession.generalRegisters.idxOf reg < 24 := by decide
    obtain ⟨hreg, hfrom, hto⟩ := hsub reg hsegment
    obtain ⟨rfl, hlane'⟩ := hlane reg hreg i hi
    rw [hlane', if_pos ⟨hfrom, hto⟩]
    rfl
  · intro i hi
    have hindex : contextRegisters.TitanRegIndexMap .mxcsr = some 30 := by decide
    rw [hindex] at hi
    obtain rfl := Option.some.inj hi
    rfl

/-- Two stopped threads whose registers are all zero, the first of them current. -/
def stoppedContexts : RegisterSession ℕ Bool :=
  ({ threads := fun _ _ => false, current := false,
     threadHandleToIndex := fun h => if h = 1 then some false else if h = 2 then some true else none } :
    RegisterSession ℕ Bool).Read contextRegisters .all |>.1

/-- The upper halves of `zmm0` to `zmm15` and the opmasks. -/
def upperLanes : TITAN_ENGINE_CONTEXT_AVX512 where
  ZmmRegisters i := if i.val < 16 then { High := { Low := 1, High := 2 } } else {}
  Opmask _ := 3

theorem avx512_round_trip_upper :
    ((stoppedContexts.SetAVX512Context contextRegisters plainLayout {} 1 upperLanes).1.GetAVX512Context
        contextRegisters plainLayout {} 1).2.1 = upperLanes ∧
      ∀ cell, plainLayout.Outside cell →
        (stoppedContexts.SetAVX512Context contextRegisters plainLayout {} 1 upperLanes).1.effective
          contextRegisters false cell = stoppedContexts.effective contextRegisters false cell := by
  have hset : (stoppedContexts.SetAVX512Context contextRegisters plainLayout {} 1 upperLanes).2 =
      true := by decide
  have hget : ((stoppedContexts.SetAVX512Context contextRegisters plainLayout {} 1
      upperLanes).1.GetAVX512Context contextRegisters plainLayout {} 1).2.2 = true := by decide
  have hquiet : stoppedContexts.Quiet contextRegisters := fun _ _ => rfl
  have htypes : ∀ reg ∈ RegisterSession.generalRegisters, ∀ i,
      contextRegisters.TitanRegIndexMap reg = some i → (contextRegisters.type i).integer ≠ none := by
    intro reg _ i _
    simp only [contextRegisters]
    split_ifs <;> simp [DebugValueType.integer]
  apply (RegisterSession.avx512_round_trip_iff contextRegisters_separates rfl rfl hset hget).2
  constructor
  · intro i
    have hlow : (upperLanes.ZmmRegisters (i.castLE sixteen_le_registers)).Low.Low = 0 := by
      simp [upperLanes]
    rw [hlow]
    apply BitVec.eq_of_getLsbD_eq
    intro k hk
    rw [NativeLayout.field, getLsbD_word]
    simp [Lane.get, stoppedContexts, RegisterSession.Read, Readout.all]
  · exact RegisterSession.Loaded.upToDate (hquiet.loaded_read) htypes

/-- The lowest lanes are written from what the thread had. -/
theorem avx512_low_lanes_lost :
    ¬ ∀ (s : RegisterSession ℕ Bool) (h : HANDLE) (c : TITAN_ENGINE_CONTEXT_AVX512),
      (s.SetAVX512Context contextRegisters plainLayout {} h c).2 = true →
      ((s.SetAVX512Context contextRegisters plainLayout {} h c).1.GetAVX512Context contextRegisters
        plainLayout {} h).2.2 = true →
      ((s.SetAVX512Context contextRegisters plainLayout {} h c).1.GetAVX512Context contextRegisters
        plainLayout {} h).2.1 = c := by
  intro hclaim
  have hset : (stoppedContexts.SetAVX512Context contextRegisters plainLayout {} 1
      { ZmmRegisters := fun _ => { Low := { Low := 1 } } }).2 = true := by decide
  have hget : ((stoppedContexts.SetAVX512Context contextRegisters plainLayout {} 1
      { ZmmRegisters := fun _ => { Low := { Low := 1 } } }).1.GetAVX512Context contextRegisters
        plainLayout {} 1).2.2 = true := by decide
  have hsame := hclaim stoppedContexts 1 _ hset hget
  obtain ⟨hquiet, hthreads, -⟩ := @RegisterSession.setAVX512Context_succeeded _ _ _ contextRegisters
    plainLayout stoppedContexts false 1 {} _ rfl hset
  have hread := RegisterSession.getAVX512Context_succeeded (t := false) rfl hquiet rfl hget
  rw [hread, hthreads, Function.update_self] at hsame
  have hlow := (RegisterSession.avx512Context_afterAvx512 rfl).1 hsame 0
  have hzero : plainLayout.field (stoppedContexts.threads false) 128 (.xmmRegister 0) = 0 := by
    apply BitVec.eq_of_getLsbD_eq
    intro k hk
    rw [NativeLayout.field, getLsbD_word]
    simp [Lane.get, stoppedContexts, RegisterSession.Read, Readout.all]
  rw [hzero] at hlow
  exact absurd hlow (by decide)

end TitanEngine

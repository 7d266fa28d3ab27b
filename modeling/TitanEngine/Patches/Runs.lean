import TitanEngine.Patches.Refinement

/-! The runs that set, hit, re-arm and delete breakpoints, and what they leave in the
memory of the target. -/
namespace TitanEngine
open FlatMemory Relation Runs

/-- The run of bytes that a call would patch. -/
def ApiCall.patchRange (s : Session) : ApiCall → Option (ULONG_PTR × ℕ)
  | .setBPX address bpxType _ => (s.selectBreakpointType bpxType).map fun t => (address, t.patchSize)
  | .setHardwareBreakPoint address _ bpxType _ _ =>
    if TitanHardwareBreakpointType.ofValue bpxType = some .execute then some (address, 1) else none
  | _ => none

def ApiCall.writesMemory : ApiCall → Bool
  | .memoryWriteSafe .. => true
  | _ => false

/-- A call that sets a breakpoint finds the bytes under its patch as they were in `m₀`,
and an id that no record has. -/
def ApiCall.Captures (m₀ : Memory 64 BYTE) (code : Set ULONG_PTR) (env : Env) (call : ApiCall)
    (s : Session) : Prop :=
  ∀ address size, call.patchRange s = some (address, size) → (call.run env s).2 = true →
    s.Pristine m₀ code address size ∧ s.bps.gNextNativeBreakpointId ∉ s.bps.gBreakpoints

/-- A call that sets a breakpoint keeps off the bytes of `spare`. -/
def ApiCall.Spares (spare : Set ULONG_PTR) (env : Env) (call : ApiCall) (s : Session) : Prop :=
  ∀ address size, call.patchRange s = some (address, size) → (call.run env s).2 = true →
    ∀ x, InRange address size x → x ∉ spare

theorem ApiCall.spares_empty (env : Env) (call : ApiCall) (s : Session) : call.Spares ∅ env s :=
  fun _ _ _ _ _ _ => Set.notMem_empty _

/-- Memory is answered for, the process is there, the client writes no memory, the
engine hands out unused ids and reports only its own breakpoints, and the target does
not write `code`. -/
def breakpointRules (code : Set ULONG_PTR) : Rules where
  call env call s := env.MemoryAnswers ∧ s.sessionProcessHandle ≠ 0 ∧ call.writesMemory = false ∧
    ∀ id, env.addBreakpoint = some id → id ∉ s.bps.gBreakpoints
  work _ work s := ∀ id offset, work = .breakpoint id offset →
    ∀ info, s.bps.gBreakpoints[id]? = some info → info.kind = .hardware
  target s t := ∀ x ∈ code, t.memory x = s.target.memory x

/-- Besides, every set captures the bytes of `m₀`. -/
def patchRules (m₀ : Memory 64 BYTE) (code : Set ULONG_PTR) : Rules :=
  { breakpointRules code with
    call := fun env call s => (breakpointRules code).call env call s ∧ call.Captures m₀ code env s }

/-- A client's write stays off the code. -/
def ApiCall.WritesOutside (code : Set ULONG_PTR) (call : ApiCall) : Prop :=
  ∀ process address buffer, call = .memoryWriteSafe process address buffer →
    ∀ x, InRange address buffer.length x → x ∉ code

/-- The calls of `patchRules`, and writes of the client outside of the code. -/
def codeRules (m₀ : Memory 64 BYTE) (code : Set ULONG_PTR) : Rules :=
  { breakpointRules code with
    call := fun env call s => if call.writesMemory then call.WritesOutside code else
      (patchRules m₀ code).call env call s }

/-- Besides, no call puts a patch on the bytes of `spare`. -/
def sparingRules (m₀ : Memory 64 BYTE) (code spare : Set ULONG_PTR) : Rules :=
  { codeRules m₀ code with
    call := fun env call s => (codeRules m₀ code).call env call s ∧ call.Spares spare env s }

namespace Session
variable {m₀ : Memory 64 BYTE} {code spare : Set ULONG_PTR} {s s' : Session}

theorem matched_setData {env : Env} {info : BreakpointInfo} (h : SetData env s s' info)
    (hfresh : info.id ∉ s.bps.gBreakpoints) : PatchMatched m₀ code spare s s' := by
  have hnone : s.patches.table info.id = none := by
    show patchOf s.bps.gBreakpoints[info.id]? = none
    rw [Std.ExtTreeMap.getElem?_eq_none hfresh]
    rfl
  have hpatch : patchOf (some info) = none := if_neg (by simp [h.native])
  have hpatches : s'.patches = s.patches := by
    unfold patches
    rw [h.memory, h.breakpoints, patchOf_insert, hpatch]
    exact congrArg _ (Function.update_eq_self_iff.mpr hnone.symm)
  exact matched_of_eq h.mode hpatches

theorem matched_call {env : Env} {call : ApiCall} (h : (patchRules m₀ code).call env call s)
    (hspares : call.Spares spare env s) : PatchMatched m₀ code spare s (call.run env s).1 := by
  obtain ⟨⟨hmemory, hprocess, hwrites, hengine⟩, hcaptures⟩ := h
  cases call with
  | setBPX address bpxType callback =>
    intro hlive
    obtain ⟨s', hcall, hs'⟩ | ⟨s', info, hcall, hs'⟩ :=
      setBPX_outcome env address bpxType callback hlive.kind
    · rw [show ApiCall.run env (.setBPX address bpxType callback) s = _ from hcall]
      exact matched_of_untouched hmemory.flushes hs' hlive
    · obtain ⟨type, htype, hsize⟩ := hs'.type
      have hrange : ApiCall.patchRange s (.setBPX address bpxType callback) =
          some (address, type.patchSize) := by
        simp only [ApiCall.patchRange, htype, Option.map_some]
      obtain ⟨hpristine, hfresh⟩ := hcaptures _ _ hrange (congrArg (·.2) hcall)
      have hoff := hspares _ _ hrange (congrArg (·.2) hcall)
      rw [← hs'.offset, ← hsize] at hpristine hoff
      rw [show ApiCall.run env (.setBPX address bpxType callback) s = _ from hcall]
      exact matched_installed hs'.installed hfresh hpristine hoff hlive
  | deleteBPX address =>
    intro hlive
    obtain ⟨s', hcall, hrecords, hmem⟩ | ⟨s', id, info, hcall, hs', -⟩ :=
      deleteBPX_outcome env address hlive.kind
    · rw [show ApiCall.run env (.deleteBPX address) s = _ from hcall]
      exact matched_of_untouched hmemory.flushes ⟨hrecords, hmem⟩ hlive
    · rw [show ApiCall.run env (.deleteBPX address) s = _ from hcall]
      exact matched_removed hs' hlive
  | setBPXOptions type => exact matched_of_core rfl
  | setHardwareBreakPoint address reg bpxType bpxSize callback =>
    show PatchMatched m₀ code spare s (s.setHardwareBreakPoint env address reg bpxType bpxSize callback).1
    obtain ⟨s', hcall, hs'⟩ | ⟨s', info, hcall, htype, hs'⟩ | ⟨s', info, hcall, hs'⟩ :=
      setHardwareBreakPoint_outcome env address reg bpxType bpxSize callback s
    · rw [hcall]
      exact matched_of_untouched hmemory.flushes hs'
    · have hrange : ApiCall.patchRange s (.setHardwareBreakPoint address reg bpxType bpxSize callback) =
          some (address, 1) := by
        simp only [ApiCall.patchRange, htype, if_true]
      obtain ⟨hpristine, hfresh⟩ := hcaptures _ _ hrange (congrArg (·.2) hcall)
      have hoff := hspares _ _ hrange (congrArg (·.2) hcall)
      rw [← hs'.offset, ← hs'.size] at hpristine hoff
      rw [hcall]
      exact matched_installed hs'.installed hfresh hpristine hoff
    · rw [hcall]
      exact matched_setData hs' (hengine info.id hs'.engine)
  | deleteHardwareBreakPoint reg =>
    show PatchMatched m₀ code spare s (s.deleteHardwareBreakPoint env reg).1
    obtain ⟨s', hcall, hs'⟩ | ⟨s', id, hcall, -, -, hrecords, hmem⟩ |
        ⟨s', id, info, hcall, -, -, -, hs'⟩ := deleteHardwareBreakPoint_outcome env reg s
    · rw [hcall]
      exact matched_of_untouched hmemory.flushes hs'
    · rw [hcall]
      simp only [records, Prod.mk.injEq] at hrecords
      obtain ⟨hmode, hbreakpoints, -⟩ := hrecords
      have hpatches : s'.patches = s.patches := by
        unfold patches
        rw [hmem, hbreakpoints]
      exact matched_of_eq hmode hpatches
    · rw [hcall]
      exact matched_removed (hs' hprocess)
  | removeAllBreakPoints => exact matched_removeAllBreakPoints hmemory.flushes
  | setMemoryBPXEx => exact matched_of_core (core_setMemoryBPXEx ..)
  | removeMemoryBPX => exact matched_of_core (core_removeMemoryBPX ..)
  | memoryReadUnsafe => exact matched_of_core (core_memoryReadUnsafe ..)
  | memoryReadSafe => exact matched_of_core (core_memoryReadSafe ..)
  | memoryWriteSafe => cases hwrites
  | memoryProtectSafe => exact matched_of_core (core_memoryProtectSafe ..)
  | stepInto => exact matched_of_image (image_debugStep ..)
  | stepOver => exact matched_of_image (image_debugStep ..)
  | setNextDbgContinueStatus => exact matched_of_core (core_setNextDbgContinueStatus ..)
  | requestPause => exact matched_of_image (image_requestPause ..)

/-- Runs under the rules are seen, through the records, as runs of a patched memory. -/
theorem closed_patchMatched : Closed (patchRules m₀ code) (PatchMatched m₀ code ∅) where
  refl := Matched.refl
  trans := Matched.trans
  core := matched_of_core
  image := matched_of_image
  call {env call s} h := matched_call h (call.spares_empty env s)
  lift hpresent hnative := matched_writeNativeBreakpointBytes _ _ hpresent hnative nofun
  place hpresent hnative :=
    matched_writeNativeBreakpointBytes _ _ hpresent hnative fun _ _ _ => Set.notMem_empty _
  consume h _ _ _ _ := matched_removed h
  expire {_ id offset bpInfo _ s'} hwork hrecord := by
    have hkind := hwork id offset rfl bpInfo hrecord
    have hexpire : s'.expireOneShot id bpInfo = s' := if_neg (by simp [hkind])
    rw [hexpire]
    exact .refl s'
  target hallowed hlive := ⟨hlive, .single (.store _ hallowed)⟩
  stop env events s := by
    have himage := image_recogniseStop env { s with gCallbackQueue := events }
    have hpatches := patches_of_image himage
    exact matched_of_eq (congrArg Image.mode himage) hpatches
  resume env s := by
    have himage := image_applyExecutionStatus env s
    have hpatches := patches_of_image himage
    exact matched_of_eq (congrArg Image.mode himage) hpatches

theorem matched_run (h : Run (patchRules m₀ code) s s') : PatchMatched m₀ code ∅ s s' :=
  closed_patchMatched.run (fun _ _ _ _ hwork => hwork) h

/-- A write outside of the code is a store of the patched memory. -/
theorem matched_memoryWriteSafe (env : Env) (process : HANDLE) (address : ULONG_PTR) {buffer : List BYTE}
    (houtside : ∀ x, InRange address buffer.length x → x ∉ code) :
    PatchMatched m₀ code spare s (s.memoryWriteSafe env process address buffer).1 := by
  unfold memoryWriteSafe
  split
  · exact matched_of_core rfl
  split
  · exact matched_of_core rfl
  split
  · exact matched_of_core rfl
  split
  · rename_i written _
    dsimp only
    split
    · refine fun hlive => ⟨hlive, .single (.store _ fun x hx => ?_)⟩
      apply write_of_not_inRange
      intro hin
      refine houtside x (hin.trans_le ?_) hx
      rw [List.length_take]
      exact Nat.min_le_right _ _
    · exact matched_of_core rfl
  · exact matched_of_core rfl

/-- A call under the rules for code that spares some bytes. -/
theorem matched_codeCall {env : Env} {call : ApiCall} (h : (codeRules m₀ code).call env call s)
    (hspares : call.Spares spare env s) : PatchMatched m₀ code spare s (call.run env s).1 := by
  change if call.writesMemory then _ else _ at h
  split at h
  · cases call with
    | memoryWriteSafe process address buffer =>
      exact matched_memoryWriteSafe env process address (h process address buffer rfl)
    | _ => contradiction
  · exact matched_call h hspares

/-- A hit takes patches out and sets none, and keeps off whatever the calls keep off. -/
theorem hitClosed_sparing : HitClosed (sparingRules m₀ code spare) (PatchMatched m₀ code spare) where
  refl := Matched.refl
  trans := Matched.trans
  core := matched_of_core
  image := matched_of_image
  call h := matched_codeCall h.1 h.2
  lift hpresent hnative := matched_writeNativeBreakpointBytes _ _ hpresent hnative nofun
  consume h _ _ _ _ := matched_removed h

theorem closed_codeMatched : Closed (codeRules m₀ code) (PatchMatched m₀ code ∅) :=
  { closed_patchMatched with call := fun {env call s} h => matched_codeCall h (call.spares_empty env s) }

end Session

end TitanEngine

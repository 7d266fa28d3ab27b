import TitanEngine.Patches.Runs

/-! Whether the patches are undone once the records are gone. -/
namespace TitanEngine
open FlatMemory Relation

namespace Session

/-- Some record stands for a patch of the adapter. -/
def hasPatch (s : Session) : Bool := s.bps.gBreakpoints.toList.any (·.2.nativePatch)

theorem table_of_hasPatch {s : Session} (h : s.hasPatch = false) (id : ULONG) :
    s.patches.table id = none := by
  cases hid : s.patches.table id with
  | none => rfl
  | some p =>
    obtain ⟨info, hrecord, hnative, -⟩ := patchOf_eq_some hid
    have hmem := Std.ExtTreeMap.mem_toList_iff_getElem?_eq_some.mpr hrecord
    have hno := List.any_eq_false.mp h _ hmem
    exact absurd hnative hno

/-- A session without patches is sound for the memory it has. -/
theorem sound_of_hasPatch {s : Session} (h : s.hasPatch = false) (code : Set ULONG_PTR) :
    Patching.Sound s.target.memory code s.patches where
  captures k p hk := by
    rw [table_of_hasPatch h k] at hk
    cases hk
  inside k p hk := by
    rw [table_of_hasPatch h k] at hk
    cases hk
  rest _ _ _ := rfl

/-- Along a run whose sets capture the bytes of `m₀`, the records and the memory stay sound. -/
theorem sound_of_run {s s' : Session} {code : Set ULONG_PTR} (hlive : s.Live)
    (hnone : s.hasPatch = false) (hrun : Run (patchRules s.target.memory code) s s') :
    Patching.Sound s.target.memory code s'.patches :=
  Patching.Sound.preserved.run (matched_run hrun hlive).2 (sound_of_hasPatch hnone code)

end Session

/-- If every set captures bytes of the memory before the first breakpoint, then that
memory is back whenever no patch record is left. -/
theorem patches_undone {s s' : Session} {code : Set ULONG_PTR} (hlive : s.Live)
    (hnone : s.hasPatch = false) (hrun : Run (patchRules s.target.memory code) s s')
    (hgone : s'.hasPatch = false) (x : ULONG_PTR) (hx : x ∈ code) :
    s'.target.memory x = s.target.memory x :=
  (Session.sound_of_run hlive hnone hrun).memory_eq (Session.table_of_hasPatch hgone) hx

/-- A live session on a process with zeroed memory. -/
def freshSession : Session :=
  { gDebugIdMap := { processIndexToHandle := (∅ : Map ULONG HANDLE).insert 0 0x100
                     processHandleToIndex := (∅ : Map HANDLE ULONG).insert 0x100 0 } }

theorem patches_undone_delete :
    (ApiCall.run {} (.deleteBPX 0x401000)
      (ApiCall.run {} (.setBPX 0x401000 0 (some 1)) freshSession).1).1.target.memory 0x401000 = 0 := by
  have hset : CallStep (patchRules freshSession.target.memory Set.univ) freshSession
      (ApiCall.run {} (.setBPX 0x401000 0 (some 1)) freshSession).1 := by
    refine .call ⟨⟨⟨rfl, rfl, rfl⟩, by decide, rfl, by nofun⟩, ?_⟩
    intro address size _ _
    exact ⟨fun x _ => ⟨trivial, rfl⟩, by decide⟩
  have hdelete : CallStep (patchRules freshSession.target.memory Set.univ)
      (ApiCall.run {} (.setBPX 0x401000 0 (some 1)) freshSession).1
      (ApiCall.run {} (.deleteBPX 0x401000)
        (ApiCall.run {} (.setBPX 0x401000 0 (some 1)) freshSession).1).1 :=
    .call ⟨⟨⟨rfl, rfl, rfl⟩, by decide, rfl, by nofun⟩, by nofun⟩
  exact patches_undone (show freshSession.Live from rfl) (by decide) (.tail (.single (.call hset)) (.call hdelete))
    (by decide) 0x401000 trivial

/-- Two patches on one byte: the one set last remembers the other's breakpoint byte, and
deleting it last leaves that byte behind. -/
theorem patches_not_undone :
    ¬ ∀ (s s' : Session) (code : Set ULONG_PTR), s.Live → s.hasPatch = false →
      Run (breakpointRules code) s s' → s'.hasPatch = false →
      ∀ x ∈ code, s'.target.memory x = s.target.memory x := by
  intro hclaim
  let s₁ := (ApiCall.run {} (.setBPX 0x401000 0 (some 1)) freshSession).1
  let s₂ := (ApiCall.run {} (.setHardwareBreakPoint 0x401000 0 4 7 (some 2)) s₁).1
  let s₃ := (ApiCall.run {} (.deleteBPX 0x401000) s₂).1
  let s₄ := (ApiCall.run {} (.deleteHardwareBreakPoint 11) s₃).1
  have h₁ : CallStep (breakpointRules Set.univ) freshSession s₁ :=
    .call ⟨⟨rfl, rfl, rfl⟩, by decide, rfl, by nofun⟩
  have h₂ : CallStep (breakpointRules Set.univ) s₁ s₂ :=
    .call ⟨⟨rfl, rfl, rfl⟩, by decide, rfl, by nofun⟩
  have h₃ : CallStep (breakpointRules Set.univ) s₂ s₃ :=
    .call ⟨⟨rfl, rfl, rfl⟩, by decide, rfl, by nofun⟩
  have h₄ : CallStep (breakpointRules Set.univ) s₃ s₄ :=
    .call ⟨⟨rfl, rfl, rfl⟩, by decide, rfl, by nofun⟩
  have hrun : Run (breakpointRules Set.univ) freshSession s₄ :=
    .tail (.tail (.tail (.single (.call h₁)) (.call h₂)) (.call h₃)) (.call h₄)
  have hbyte := hclaim freshSession s₄ Set.univ (show freshSession.Live from rfl) (by decide) hrun (by decide) 0x401000
    trivial
  exact absurd hbyte (by decide)

end TitanEngine

import TitanEngine.Effects.Hits
import TitanEngine.Model.Progress
import TitanEngine.Patches.Runs

/-! The instruction under a breakpoint that a thread has been hit at. The hit takes the patch out,
and until the thread is past it nothing puts a patch back on the bytes of the instruction. -/
namespace TitanEngine
open FlatMemory Relation

/-- Only a hit makes a thread owe something. -/
theorem Entry.past_ne_false {thread : ULONG} {address : ULONG_PTR} {entry : Entry}
    (h : ∀ address, entry ≠ .hit (some thread) address) : entry.past thread address ≠ some false := by
  cases entry with
  | hit thread' address' =>
    have hother : ¬ (thread' = some thread ∧ address' = address) := by
      rintro ⟨rfl, -⟩
      exact h address' rfl
    simp [Entry.past, hother]
  | executed | delivered | exited =>
    unfold Entry.past
    dsimp only
    split <;> simp
  | _ => simp [Entry.past]

namespace Owes
variable {thread : ULONG} {address : ULONG_PTR} {log added : List Entry}

theorem not_nil : ¬ Owes thread address [] := by simp [Owes]

theorem cons_iff {entry : Entry} : Owes thread address (entry :: log) ↔
    entry.past thread address = some false ∨
      entry.past thread address = none ∧ Owes thread address log := by
  unfold Owes
  rw [List.findSome?_cons]
  cases hpast : entry.past thread address with
  | none => simp
  | some past => simp

/-- What is noted down later can get a thread past an address, unless it is a hit. -/
theorem of_append (hnone : ∀ address, .hit (some thread) address ∉ added)
    (h : Owes thread address (added ++ log)) : Owes thread address log := by
  induction added with
  | nil => exact h
  | cons entry added ih =>
    obtain hfalse | ⟨-, hrest⟩ := cons_iff.mp h
    · refine absurd hfalse (Entry.past_ne_false fun address' hentry => ?_)
      exact hnone address' (by simp [hentry])
    · exact ih (fun address' hmem => hnone address' (List.mem_cons_of_mem _ hmem)) hrest

theorem of_hit {thread' : ULONG} {address' : ULONG_PTR}
    (h : Owes thread address (.hit (some thread') address' :: log)) :
    thread = thread' ∧ address = address' ∨ Owes thread address log := by
  obtain hfalse | ⟨-, hrest⟩ := cons_iff.mp h
  · simp only [Entry.past] at hfalse
    split at hfalse
    · rename_i hsame
      exact .inl ⟨(Option.some.inj hsame.1).symm, hsame.2.symm⟩
    · cases hfalse
  · exact .inr hrest

/-- What reports no hit can only get a thread past an address. -/
theorem of_unhit {s s' : Session} (hunhit : Unhit s s') (h : Owes thread address s'.log) :
    Owes thread address s.log := by
  obtain ⟨added, hlog, hnone⟩ := hunhit.log
  rw [hlog] at h
  exact h.of_append (hnone (some thread))

/-- Only the thread that is hit owes something more. -/
theorem of_struck {s s' : Session} {thread' : ULONG} {address' : ULONG_PTR}
    (hstruck : Struck thread' address' s s') (h : Owes thread address s'.log) :
    thread = thread' ∧ address = address' ∨ Owes thread address s.log := by
  obtain ⟨added, hlog, hnone⟩ := hstruck.log
  rw [hlog] at h
  exact (h.of_append (hnone (some thread))).of_hit

end Owes

namespace Decoder
variable {d : Decoder} {m₀ memory : Memory 64 BYTE} {address : ULONG_PTR} {info : EXCEPTION_DEBUG_INFO}

/-- The first `n` bytes of an instruction, in a memory that holds the same instruction. -/
theorem read_eq (hsame : ∀ x ∈ d.bytes m₀ address, memory x = m₀ x) {n : ℕ}
    (hn : n ≤ d.length (window m₀ address)) (hshort : n ≤ 15) :
    memory.read address n = m₀.read address n := by
  refine List.map_congr_left fun i hi => hsame _ ?_
  have hin : InRange address n (address + BitVec.ofNat 64 i) :=
    inRange_add_ofNat _ (List.mem_range.mp hi) (by omega)
  exact hin.trans_le hn

theorem take_window (memory : Memory 64 BYTE) (address : ULONG_PTR) (n : ℕ) :
    (window memory address).take n = memory.read address (min n 15) := by
  unfold window Memory.read
  rw [← List.map_take, List.take_range]

/-- The instruction is the same one. -/
theorem told_eq (hsame : ∀ x ∈ d.bytes m₀ address, memory x = m₀ x) :
    d.length (window memory address) = d.length (window m₀ address) ∧
      (d.undefined (window memory address) ↔ d.undefined (window m₀ address)) := by
  refine d.told _ _ ?_
  rw [take_window, take_window]
  exact read_eq hsame (Nat.min_le_left _ _) (Nat.min_le_right _ _)

/-- A two-byte trap is read off two bytes of the instruction. -/
theorem read_two (hsame : ∀ x ∈ d.bytes m₀ address, memory x = m₀ x) {byte byte' : BYTE}
    (hbyte : byte = 0xCD ∨ byte = 0x0F) (hread : memory.read address 2 = [byte, byte']) :
    m₀.read address 2 = [byte, byte'] := by
  have hone := read_eq hsame (d.pos _) (by omega)
  have hhead : m₀ address = byte := by
    simp only [Memory.read, List.range_succ, List.range_zero, List.nil_append, List.map_cons,
      List.map_nil, List.cons_append, List.cons.injEq, BitVec.add_zero] at hone hread
    exact hone.1.symm.trans hread.1
  have hwindow : window m₀ address = byte :: (window m₀ address).tail := by
    unfold window Memory.read
    rw [List.range_succ_eq_map, List.map_cons, List.tail_cons, List.cons.injEq]
    exact ⟨by simpa using hhead, rfl⟩
  have htwo : 2 ≤ d.length (window m₀ address) := by
    rw [hwindow]
    exact d.two byte _ hbyte
  rw [← read_eq hsame htwo (by omega), hread]

/-- What looks like a patch in one of the memories does so in the other. -/
theorem Traps.of_eq (hsame : ∀ x ∈ d.bytes m₀ address, memory x = m₀ x)
    (h : d.Traps memory address info) : d.Traps m₀ address info := by
  cases h with
  | int3 bytes code address =>
    exact .int3 ((read_eq hsame (d.pos _) (by omega)).symm.trans bytes) code address
  | longInt3 bytes code address => exact .longInt3 (read_two hsame (.inl rfl) bytes) code address
  | ud2 bytes code address =>
    refine .ud2 ?_ code address
    obtain hbytes | hundefined := bytes
    · exact .inl (read_two hsame (.inr rfl) hbytes)
    · exact .inr ((told_eq hsame).2.mp hundefined)

end Decoder

section Bare
variable {d : Decoder} {m₀ : Memory 64 BYTE} {code : Set ULONG_PTR} {s s' : Session}

/-- At `address` the target holds its own instruction, which raises nothing that looks like a
patch, and a patch over it starts where it starts. -/
structure Session.Bare (d : Decoder) (m₀ : Memory 64 BYTE) (code : Set ULONG_PTR) (address : ULONG_PTR)
    (s : Session) : Prop where
  inside : d.bytes m₀ address ⊆ code
  silent : ∀ info, ¬ d.Traps m₀ address info
  own : ∀ x ∈ d.bytes m₀ address, s.target.memory x = m₀ x
  alone : ∀ id p, s.patches.table id = some p → ∀ x ∈ d.bytes m₀ address, p.Covers x → p.address = address

/-- Every patch begins with a byte that traps. -/
theorem BreakpointInfo.Installed.traps {bp : BreakpointInfo} (h : bp.Installed s)
    (hsize : 0 < bp.patchSize) : ∃ info, d.Traps s.target.memory bp.offset info := by
  obtain ⟨-, hread⟩ := h
  have hlength : bp.patch.length = bp.patchSize := bp.length_patch
  have hmarked := bp.marked
  change bp.patch ∈ _ at hmarked
  simp only [List.mem_cons, List.not_mem_nil, or_false] at hmarked
  obtain hpatch | hpatch | hpatch | hpatch := hmarked <;> rw [hpatch] at hlength hread <;>
    rw [← hlength] at hread
  · rw [← hlength] at hsize
    exact absurd hsize (Nat.lt_irrefl 0)
  · exact ⟨{ code := EXCEPTION_BREAKPOINT, address := bp.offset }, .int3 hread rfl rfl⟩
  · exact ⟨{ code := EXCEPTION_BREAKPOINT, address := bp.offset }, .longInt3 hread rfl (.inl rfl)⟩
  · exact ⟨{ code := EXCEPTION_ILLEGAL_INSTRUCTION, address := bp.offset }, .ud2 (.inl hread) rfl rfl⟩

namespace Session.Bare
variable {address : ULONG_PTR}

theorem clear (h : s.Bare d m₀ code address) : s.Clear d address := by
  have hsilent : ∀ info, ¬ d.Traps s.target.memory address info :=
    fun info htraps => h.silent info (htraps.of_eq h.own)
  refine ⟨fun id bp hbp hinstalled x hcovers hx => ?_, hsilent⟩
  rw [(Decoder.told_eq h.own).1] at hx
  obtain ⟨info, htraps⟩ := hinstalled.traps (d := d) (Nat.zero_lt_of_lt hcovers)
  have haddress : bp.offset = address := h.alone id _ (table_of_record hbp hinstalled.1) x hx
    (BreakpointInfo.covers_toPatch_iff.mpr hcovers)
  rw [haddress] at htraps
  exact hsilent info htraps

/-- What keeps off the bytes of the instruction leaves it bare. -/
theorem matched (h : s.Bare d m₀ code address) (hlive : s.Live) (hsound : Patching.Sound m₀ code s.patches)
    (hmatched : PatchMatched m₀ code (d.bytes m₀ address) s s') : s'.Bare d m₀ code address := by
  obtain ⟨-, hrun⟩ := hmatched hlive
  refine ⟨h.inside, h.silent, ?_, fun id p hp x hx hcovers => ?_⟩
  · exact ((Patching.Sound.spared h.inside).run hrun ⟨hsound, h.own⟩).2
  · exact h.alone id p (Patching.table_of_run hrun hp hcovers hx) x hx hcovers

end Session.Bare

/-- When the patch of the record `id` is taken out, the instruction under it is bare. -/
structure Session.Uncovers (d : Decoder) (m₀ : Memory 64 BYTE) (code : Set ULONG_PTR) (id : ULONG)
    (bp : BreakpointInfo) (s : Session) : Prop where
  inside : d.bytes m₀ bp.offset ⊆ code
  silent : ∀ info, ¬ d.Traps m₀ bp.offset info
  alone : ∀ (other : ULONG) (bp' : BreakpointInfo), other ≠ id → s.bps.gBreakpoints[other]? = some bp' →
    bp'.nativePatch = true → ∀ x, InRange bp'.offset bp'.patchSize x → x ∉ d.bytes m₀ bp.offset

theorem Session.Uncovers.of_records {id : ULONG} {bp : BreakpointInfo}
    (h : s.Uncovers d m₀ code id bp) (hrecords : s'.bps.gBreakpoints = s.bps.gBreakpoints) :
    s'.Uncovers d m₀ code id bp := by
  refine ⟨h.inside, h.silent, ?_⟩
  rw [hrecords]
  exact h.alone

/-- The calls, works and doings of the target that `codeRules` allows. Besides, while a thread is to
get past an address, no call sets a patch over the instruction there, and no internal step is
completed that re-arms one. At each hit no patch but the one of the hit lies over the instruction,
which raises nothing that looks like a patch. -/
def progressRules (d : Decoder) (m₀ : Memory 64 BYTE) (code : Set ULONG_PTR) : Rules where
  call env call s := (codeRules m₀ code).call env call s ∧
    ∀ thread address, Owes thread address s.log → call.Spares (d.bytes m₀ address) env s
  work env work s := (codeRules m₀ code).work env work s ∧
    (∀ thread address, Owes thread address s.log → ∀ id bp, work.Rearms env id s →
      s.bps.gBreakpoints[id]? = some bp →
        ∀ x, InRange bp.offset bp.patchSize x → x ∉ d.bytes m₀ address) ∧
    ∀ info id bp, work = .exception info →
      info.code = EXCEPTION_BREAKPOINT ∨ info.code = EXCEPTION_ILLEGAL_INSTRUCTION →
        s.findNative info.address = some (id, bp) → s.Uncovers d m₀ code id bp
  target := (codeRules m₀ code).target

theorem progressRules_queueBlind : (progressRules d m₀ code).QueueBlind := by
  rintro env work s rest ⟨hcode, hrearms, huncovers⟩
  exact ⟨hcode, hrearms, fun info id bp hwork hraised hfound =>
    (huncovers info id bp hwork hraised hfound).of_records rfl⟩

/-- Nothing but the work of breakpoint exceptions takes place, and what a thread owes in the end it
has owed before, with nothing put on the bytes of the instruction. -/
structure Session.Keeps (d : Decoder) (m₀ : Memory 64 BYTE) (code : Set ULONG_PTR) (s s' : Session) :
    Prop where
  mode : s'.mode = s.mode
  matched : PatchMatched m₀ code ∅ s s'
  owed : ∀ thread address, Owes thread address s'.log →
    Owes thread address s.log ∧ PatchMatched m₀ code (d.bytes m₀ address) s s'

/-- The patches remember the first memory, and the instructions that threads are to get past are bare. -/
structure Session.Lifted (d : Decoder) (m₀ : Memory 64 BYTE) (code : Set ULONG_PTR) (s : Session) :
    Prop where
  live : s.Live
  sound : Patching.Sound m₀ code s.patches
  bare : ∀ thread address, Owes thread address s.log → s.Bare d m₀ code address

namespace Session.Keeps
variable {s'' : Session}

theorem refl (s : Session) : s.Keeps d m₀ code s := ⟨rfl, .refl s, fun _ _ h => ⟨h, .refl s⟩⟩

theorem trans (h : s.Keeps d m₀ code s') (h' : s'.Keeps d m₀ code s'') : s.Keeps d m₀ code s'' := by
  refine ⟨h'.mode.trans h.mode, h.matched.trans h'.matched, fun thread address howes => ?_⟩
  obtain ⟨howes', hmatched'⟩ := h'.owed thread address howes
  obtain ⟨howes, hmatched⟩ := h.owed thread address howes'
  exact ⟨howes, hmatched.trans hmatched'⟩

/-- What reports no hit and keeps off all instructions. -/
theorem of_unhit (hunhit : Unhit s s') (hmode : s'.mode = s.mode)
    (hmatched : ∀ spare, PatchMatched m₀ code spare s s') : s.Keeps d m₀ code s' :=
  ⟨hmode, hmatched ∅, fun _ _ howes => ⟨howes.of_unhit hunhit, hmatched _⟩⟩

theorem image (h : s'.image = s.image) (hunhit : Unhit s s') : s.Keeps d m₀ code s' :=
  of_unhit hunhit (congrArg Image.mode h) fun _ => matched_of_image h

/-- The target goes on without writing the code. -/
theorem target {target : Target} {log : List Entry}
    (hwrites : ∀ x ∈ code, target.memory x = s.target.memory x)
    (howes : ∀ thread address, Owes thread address log → Owes thread address s.log) :
    s.Keeps d m₀ code { s with target := target, log := log } :=
  ⟨rfl, fun hlive => ⟨hlive, .single (.store _ hwrites)⟩,
    fun thread address h => ⟨howes thread address h, fun hlive => ⟨hlive, .single (.store _ hwrites)⟩⟩⟩

end Session.Keeps

theorem Session.Lifted.keeps (h : s.Lifted d m₀ code) (hkeeps : s.Keeps d m₀ code s') :
    s'.Lifted d m₀ code := by
  obtain ⟨hlive, hrun⟩ := hkeeps.matched h.live
  refine ⟨hlive, Patching.Sound.preserved.run hrun h.sound, fun thread address howes => ?_⟩
  obtain ⟨howes', hmatched⟩ := hkeeps.owed thread address howes
  exact (h.bare thread address howes').matched h.live h.sound hmatched

open Session in
/-- Everything but hits keeps the instructions bare. -/
theorem closed_keeps : UnhitClosed (progressRules d m₀ code) (Session.Keeps d m₀ code) where
  refl := Keeps.refl
  trans := Keeps.trans
  core h := .of_unhit (.of_core h) (core_mode h) fun _ => matched_of_core h
  image := Keeps.image
  call {env call s} allowed := by
    have hcall : CallStep anyRules s (call.run env s).1 := .call trivial
    have hunhit := Unhit.callStep hcall
    refine ⟨roster_mode (roster_call env call s), ?_, fun thread address howes => ?_⟩
    · exact matched_codeCall allowed.1 (call.spares_empty env s)
    · have howes' := howes.of_unhit hunhit
      exact ⟨howes', matched_codeCall allowed.1 (allowed.2 thread address howes')⟩
  place {env work id info s₀ s} allowed hrearms h hpresent hnative := by
    have hframe := frame_writeNativeBreakpointBytes env info true s
    have hplaced : ∀ spare, (∀ x, InRange info.offset info.patchSize x → x ∉ spare) →
        PatchMatched m₀ code spare s (s.writeNativeBreakpointBytes env info true).1 :=
      fun spare hspares => matched_writeNativeBreakpointBytes env true hpresent hnative fun _ => hspares
    refine ⟨roster_mode (roster_of_frame hframe), hplaced ∅ fun _ _ => Set.notMem_empty _, ?_⟩
    intro thread address howes
    have howes' := howes.of_unhit (.of_frame hframe)
    refine ⟨howes', fun hlive => hplaced _ (fun x hx hmem => ?_) hlive⟩
    -- A patch over the instruction was there when the step was completed.
    obtain ⟨howed, hmatched⟩ := h.owed thread address howes'
    have hlive₀ : s₀.Live := h.mode.symm.trans hlive
    have hcovers := BreakpointInfo.covers_toPatch_iff.mpr hx
    obtain ⟨bp, hbp, -, hpatch⟩ := patchOf_eq_some (Patching.table_of_run (hmatched hlive₀).2
      (table_of_record hpresent hnative) hcovers hmem)
    rw [hpatch] at hcovers
    exact allowed.2.1 thread address howed id bp hrearms hbp x
      (BreakpointInfo.covers_toPatch_iff.mp hcovers) hmem
  expire {_ id offset bpInfo _ s'} allowed hrecord := by
    have hkind := allowed.1 id offset rfl bpInfo hrecord
    have hexpire : s'.expireOneShot id bpInfo = s' := if_neg (by simp [hkind])
    rw [hexpire]
    exact .refl s'
  stop env events s := by
    have himage := image_recogniseStop env { s with gCallbackQueue := events }
    have hpatches := patches_of_image himage
    exact .of_unhit (.stop env events s) (congrArg Image.mode himage)
      fun _ => matched_of_eq (congrArg Image.mode himage) hpatches
  resume env s := by
    have himage := image_applyExecutionStatus env s
    have hpatches := patches_of_image himage
    have hunhit : Unhit s (s.resume env) := (Unhit.applyExecutionStatus env s).trans (.quiet rfl rfl)
    exact .of_unhit hunhit (congrArg Image.mode himage)
      fun _ => matched_of_eq (congrArg Image.mode himage) hpatches

theorem Session.memory_enterNativeHit (env : Env) (id : ULONG) (bp : BreakpointInfo) (s : Session) :
    (s.enterNativeHit env id bp).target.memory = s.target.memory := by
  have hcore := core_disguiseHit bp (s.setCurrentInstructionPointer env bp.offset)
  have hrewound : (s.setCurrentInstructionPointer env bp.offset).target.memory = s.target.memory := by
    unfold setCurrentInstructionPointer
    split <;> rfl
  refine Eq.trans ?_ ((core_memory hcore).trans hrewound)
  unfold enterNativeHit consumeOneShot
  dsimp only
  split <;> rfl

/-- The patch is out. -/
theorem Session.Uncovers.bare {id : ULONG} {bp : BreakpointInfo} (h : s.Uncovers d m₀ code id bp)
    (hsound : Patching.Sound m₀ code s.patches) (hpresent : s.bps.gBreakpoints[id]? = some bp)
    (hnative : bp.nativePatch = true) : (s.withBytes bp false).Bare d m₀ code bp.offset := by
  have htable := table_of_record hpresent hnative
  have hother : ∀ other p, other ≠ id → s.patches.table other = some p →
      ∀ x ∈ d.bytes m₀ bp.offset, ¬ p.Covers x := by
    intro other p hne hp x hx hcovers
    obtain ⟨bp', hbp', hnative', rfl⟩ := patchOf_eq_some hp
    exact h.alone other bp' hne hbp' hnative' x (BreakpointInfo.covers_toPatch_iff.mp hcovers) hx
  refine ⟨h.inside, h.silent, fun x hx => ?_, fun other p hp x hx hcovers => ?_⟩
  · show s.target.memory.write bp.offset bp.originals x = m₀ x
    cases hcell : cell bp.offset bp.originals x with
    | some byte =>
      rw [write_of_cell s.target.memory hcell]
      exact hsound.captures id _ htable x byte hcell
    | none =>
      have hout := cell_eq_none_iff.mp hcell
      rw [write_of_not_inRange s.target.memory hout]
      refine hsound.rest x (h.inside hx) ?_
      rintro ⟨other, p, hp, hcovers⟩
      by_cases hsame : other = id
      · subst hsame
        rw [htable] at hp
        cases hp
        exact hout hcovers
      · exact hother other p hsame hp x hx hcovers
  · change s.patches.table other = some p at hp
    by_cases hsame : other = id
    · subst hsame
      rw [htable] at hp
      cases hp
      rfl
    · exact absurd hcovers (hother other p hsame hp x hx)

namespace Session.Lifted
variable {k : Client} {env : Env} {thread : ULONG} {id : ULONG} {bp : BreakpointInfo}

/-- The hit takes its patch out, and the thread that is hit is to get past a bare instruction. -/
theorem enterNativeHit (h : s.Lifted d m₀ code) (hcurrent : env.currentThreadId = some thread)
    (hpresent : s.bps.gBreakpoints[id]? = some bp) (hnative : bp.nativePatch = true)
    (huncovers : s.Uncovers d m₀ code id bp)
    (hwrite : s.writeNativeBreakpointBytes env bp false = (s', true)) :
    (s'.enterNativeHit env id bp).Lifted d m₀ code := by
  have htaken : ∀ spare, PatchMatched m₀ code spare s (s'.enterNativeHit env id bp) :=
    fun spare => hitClosed_sparing.takenOut hpresent hnative hwrite
  obtain ⟨hlive, hrun⟩ := htaken ∅ h.live
  refine ⟨hlive, Patching.Sound.preserved.run hrun h.sound, fun other address howes => ?_⟩
  obtain ⟨-, rfl⟩ | howes := howes.of_struck (Struck.enterNativeHit hcurrent id bp s')
  · have hbare := huncovers.bare h.sound hpresent hnative
    refine ⟨hbare.inside, hbare.silent, fun x hx => ?_, fun other' p hp x hx hcovers => ?_⟩
    · rw [memory_enterNativeHit, withBytes_of_writeNativeBreakpointBytes hwrite]
      exact hbare.own x hx
    · obtain ⟨-, hrun⟩ := htaken (d.bytes m₀ bp.offset) h.live
      exact hbare.alone other' p (Patching.table_of_run hrun hp hcovers hx) x hx hcovers
  · have hframe := frame_writeNativeBreakpointBytes env bp false s
    rw [hwrite] at hframe
    exact (h.bare other address (howes.of_unhit (.of_frame hframe))).matched h.live h.sound (htaken _)

theorem nativeBreakpointHit (h : s.Lifted d m₀ code) (hk : k.Follows (progressRules d m₀ code))
    (hcurrent : env.currentThreadId = some thread) (hpresent : s.bps.gBreakpoints[id]? = some bp)
    (hnative : bp.nativePatch = true) (huncovers : s.Uncovers d m₀ code id bp) :
    (s.nativeBreakpointHit k env id bp).1.Lifted d m₀ code := by
  unfold Session.nativeBreakpointHit
  split <;> rename_i s' hwrite
  · have hframe := frame_writeNativeBreakpointBytes env bp false s
    have hlifted : ∀ spare, PatchMatched m₀ code spare s (s.writeNativeBreakpointBytes env bp false).1 :=
      fun spare => matched_writeNativeBreakpointBytes env false hpresent hnative nofun
    rw [hwrite] at hframe hlifted
    exact h.keeps (.of_unhit (.of_frame hframe) (roster_mode (roster_of_frame hframe)) hlifted)
  · have hentered := h.enterNativeHit hcurrent hpresent hnative huncovers hwrite
    have hreport : Effects k env (s'.enterNativeHit env id bp) (s'.reportNativeHit k env id bp) :=
      (Effects.beginDebugEvent _ _).trans (Effects.callBreakpoint _ _)
    have hreported := hentered.keeps (closed_keeps.toEffectClosed.effects hk env hreport)
    have hrearmed : (s'.reportNativeHit k env id bp).Keeps d m₀ code
        ((s'.reportNativeHit k env id bp).rearmNative env id bp) := by
      unfold Session.rearmNative
      split
      · exact .image (image_scheduleInternalStep ..) (.scheduleInternalStep ..)
      · exact .refl _
    exact (hreported.keeps hrearmed).keeps (.image (image_finishDebugEvent ..) (.finishDebugEvent ..))

/-- The work of any exception, hits included. -/
theorem exceptionEvent (h : s.Lifted d m₀ code) (hk : k.Follows (progressRules d m₀ code))
    (hcurrent : env.currentThreadId = some thread) {info : EXCEPTION_DEBUG_INFO}
    (hallowed : (progressRules d m₀ code).work env (.exception info) s) :
    (s.exceptionEvent k env info).1.Lifted d m₀ code := by
  obtain hkeeps | ⟨hcode, id, bp, found, heq⟩ := closed_keeps.exceptionEvent hk hallowed
  · exact h.keeps hkeeps
  · obtain ⟨hpresent, hnative⟩ := findNative_eq_some found
    have hfake := h.keeps (closed_keeps.core (core_setFakeDebugEvent env (.exception info) s))
    have huncovers := hallowed.2.2 info id bp rfl hcode found
    rw [heq]
    exact hfake.nativeBreakpointHit hk hcurrent hpresent hnative (huncovers.of_records rfl)

end Session.Lifted

end Bare

end TitanEngine

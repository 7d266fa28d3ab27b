import TitanEngine.Lib.Serials
import TitanEngine.Lib.MapSums
import TitanEngine.Model.Attempts
import TitanEngine.Model.Handles
import TitanEngine.Replay.Handles

/-! When a new synthetic handle is one that is not in use. The value keeps 43 bits of the
serial number, or 24 in the build for 32 bits, so the handles come round. -/
namespace TitanEngine
namespace Build

/-- How many serial numbers have handles of their own. -/
def handlePeriod : Build → ℕ
  | x64 => 2 ^ 43
  | x86 => 2 ^ 24

def handleBase : Build → ℕ
  | x64 => 0xFFFF800000000003
  | x86 => 0xF0000003

theorem toNat_syntheticHandle32 (serial : BitVec 32) :
    (syntheticHandle32 serial).toNat = 0xF0000003 + 16 * (serial.toNat % 2 ^ 24) := by
  have hmask : (serial &&& 0x00FFFFFF).toNat = serial.toNat % 2 ^ 24 := by
    rw [BitVec.toNat_and]
    exact Nat.and_two_pow_sub_one_eq_mod _ 24
  have hshift : ((serial &&& 0x00FFFFFF) <<< 4).toNat = serial.toNat % 2 ^ 24 * 16 := by
    rw [BitVec.toNat_shiftLeft, hmask, Nat.shiftLeft_eq]
    omega
  have hbase : 2 ^ 28 * 15 + serial.toNat % 2 ^ 24 * 16 = 2 ^ 28 * 15 ||| serial.toNat % 2 ^ 24 * 16 :=
    Nat.two_pow_add_eq_or_of_lt (by omega) 15
  have htag : 2 ^ 4 * (0xF000000 + serial.toNat % 2 ^ 24) + 3 =
      2 ^ 4 * (0xF000000 + serial.toNat % 2 ^ 24) ||| 3 := Nat.two_pow_add_eq_or_of_lt (by decide) _
  have hshape : 2 ^ 28 * 15 + serial.toNat % 2 ^ 24 * 16 =
      2 ^ 4 * (0xF000000 + serial.toNat % 2 ^ 24) := by omega
  unfold syntheticHandle32
  rw [BitVec.toNat_or, BitVec.toNat_or, hshift]
  change (2 ^ 28 * 15 ||| serial.toNat % 2 ^ 24 * 16) ||| 3 = _
  rw [← hbase, hshape, ← htag]
  omega

theorem toNat_syntheticHandle (b : Build) (serial : BitVec b.bits) :
    (b.syntheticHandle serial).toNat = b.handleBase + 16 * (serial.toNat % b.handlePeriod) := by
  cases b with
  | x64 => exact TtdSession.toNat_syntheticHandle serial
  | x86 => exact toNat_syntheticHandle32 serial

theorem syntheticHandle_eq_iff {b : Build} {serial serial' : BitVec b.bits} :
    b.syntheticHandle serial = b.syntheticHandle serial' ↔
      serial.toNat ≡ serial'.toNat [MOD b.handlePeriod] := by
  rw [← BitVec.toNat_inj, toNat_syntheticHandle, toNat_syntheticHandle, Nat.ModEq]
  omega

theorem handleBase_mod (b : Build) : b.handleBase % 16 = 3 := by
  cases b <;> rfl

/-- A synthetic handle is none that Windows gives out. -/
theorem not_dvd_syntheticHandle (b : Build) (serial : BitVec b.bits) :
    ¬ 4 ∣ (b.syntheticHandle serial).toNat := by
  have hbase := b.handleBase_mod
  rw [toNat_syntheticHandle]
  omega

theorem syntheticHandle_ne_zero (b : Build) (serial : BitVec b.bits) : b.syntheticHandle serial ≠ 0 := by
  intro hzero
  apply b.not_dvd_syntheticHandle serial
  simp [hzero]

theorem syntheticHandle_ne_invalid (b : Build) (serial : BitVec b.bits) :
    b.syntheticHandle serial ≠ b.invalidHandleValue := by
  intro hinvalid
  have hbase := b.handleBase_mod
  have hnat := congrArg BitVec.toNat hinvalid
  rw [toNat_syntheticHandle, invalidHandleValue, BitVec.toNat_allOnes] at hnat
  have hones : (2 ^ b.bits - 1) % 16 = 15 := by cases b <;> rfl
  omega

/-- The synthetic handle that is made after `n` others. -/
def handleOf (b : Build) (n : ℕ) : BitVec b.bits := b.syntheticHandle (BitVec.ofNat b.bits (n + 1))

theorem cyclic_handleOf (b : Build) : Serials.Cyclic b.handleOf b.handlePeriod := by
  have hdvd : b.handlePeriod ∣ 2 ^ b.bits := by
    cases b with
    | x64 => exact ⟨2 ^ 21, rfl⟩
    | x86 => exact ⟨2 ^ 8, rfl⟩
  have hserial : ∀ n, (BitVec.ofNat b.bits (n + 1)).toNat ≡ n + 1 [MOD b.handlePeriod] := by
    intro n
    rw [BitVec.toNat_ofNat]
    exact Nat.mod_mod_of_dvd _ hdvd
  intro i j
  rw [handleOf, handleOf, syntheticHandle_eq_iff]
  constructor
  · intro h
    exact Nat.ModEq.add_right_cancel' 1 ((hserial i).symm.trans (h.trans (hserial j)))
  · intro h
    exact (hserial i).trans ((h.add_right 1).trans (hserial j).symm)

end Build

namespace HandleTables
variable {b : Build} {made : List (BitVec b.bits)} {s s' : HandleTables b}

theorem createSyntheticTitanHandle_eq (type : TitanHandleType) (dbgengId : ULONG) (systemId : DWORD)
    (callerOwned : Bool) (s : HandleTables b) :
    s.createSyntheticTitanHandle type dbgengId systemId callerOwned =
      ({ s with
        gNextSyntheticHandle := s.gNextSyntheticHandle + 1
        gHandleRegistry := s.gHandleRegistry.insert (b.syntheticHandle s.gNextSyntheticHandle)
          ⟨type, dbgengId, systemId, 0, callerOwned⟩ }, b.syntheticHandle s.gNextSyntheticHandle) := by
  unfold createSyntheticTitanHandle registerTitanHandle
  dsimp only
  rw [if_neg (not_or.mpr ⟨b.syntheticHandle_ne_zero _, b.syntheticHandle_ne_invalid _⟩)]

/-- What names are in use, and how many have been given out. -/
def book (made : List (BitVec b.bits)) (s : HandleTables b) : Serials.Book (BitVec b.bits) :=
  ⟨made.length, {handle | handle ∈ s.gHandleRegistry}⟩

theorem dropped (h : ∀ handle ∈ s'.gHandleRegistry, handle ∈ s.gHandleRegistry) :
    Serials.Step b.handleOf (book made s) (book made s') :=
  .drop (fun handle hmem => h handle hmem)

theorem gHandleRegistry_titanCloseHandle (hEngineHandle : BitVec b.bits) (closed : Bool)
    (s : HandleTables b) :
    (s.titanCloseHandle hEngineHandle closed).1.gHandleRegistry = s.gHandleRegistry ∨
      (s.titanCloseHandle hEngineHandle closed).1.gHandleRegistry =
        s.gHandleRegistry.erase hEngineHandle := by
  unfold titanCloseHandle
  split
  · exact .inl rfl
  · split
    · exact .inl rfl
    · split
      · exact .inr rfl
      · exact .inl rfl

theorem gNextSyntheticHandle_titanCloseHandle (hEngineHandle : BitVec b.bits) (closed : Bool)
    (s : HandleTables b) :
    (s.titanCloseHandle hEngineHandle closed).1.gNextSyntheticHandle = s.gNextSyntheticHandle := by
  unfold titanCloseHandle
  split
  · rfl
  · split
    · rfl
    · split <;> rfl

/-- The counter counts the handles that were made, and wraps as they come round. -/
theorem Reaches.serial (h : Reaches made s) :
    s.gNextSyntheticHandle = BitVec.ofNat b.bits (made.length + 1) := by
  induction h with
  | start => rfl
  | create _ type dbgengId systemId callerOwned ih =>
    rw [createSyntheticTitanHandle_eq, List.length_append, List.length_singleton, BitVec.ofNat_add,
      ← ih]
    rfl
  | register _ entry _ ih =>
    unfold registerTitanHandle
    split <;> exact ih
  | unregister _ _ ih => exact ih
  | close _ hEngineHandle closed ih =>
    rw [gNextSyntheticHandle_titanCloseHandle]
    exact ih
  | clear _ ih => exact ih
  | tables _ _ serial ih =>
    rw [serial]
    exact ih

theorem Reaches.next (h : Reaches made s) :
    b.syntheticHandle s.gNextSyntheticHandle = b.handleOf made.length := by
  rw [h.serial, Build.handleOf]

theorem Reaches.getElem?_made (h : Reaches made s) {k : ℕ} (hk : k < made.length) :
    made[k]? = some (b.handleOf k) := by
  induction h with
  | start => exact absurd hk (Nat.not_lt_zero k)
  | @create made s before type dbgengId systemId callerOwned ih =>
    rw [createSyntheticTitanHandle_eq]
    rcases Nat.lt_or_ge k made.length with hlt | hge
    · rw [List.getElem?_append_left hlt, ih hlt]
    · rw [List.length_append, List.length_singleton] at hk
      obtain rfl : k = made.length := by omega
      rw [List.getElem?_concat_length, before.next]
  | register _ _ _ ih => exact ih hk
  | unregister _ _ ih => exact ih hk
  | close _ _ _ ih => exact ih hk
  | clear _ ih => exact ih hk
  | tables _ _ _ ih => exact ih hk

/-- Seen as names in use, whatever happens to the tables is a run of steps on a book. -/
theorem Reaches.run (h : Reaches made s) :
    Relation.ReflTransGen (Serials.Step b.handleOf) ⟨0, ∅⟩ (book made s) := by
  induction h with
  | start =>
    have hempty : book (b := b) [] {} = ⟨0, ∅⟩ := by
      simp [book]
    rw [hempty]
  | @create made s before type dbgengId systemId callerOwned ih =>
    refine ih.tail ?_
    have hbook : book (made ++ [(s.createSyntheticTitanHandle type dbgengId systemId callerOwned).2])
        (s.createSyntheticTitanHandle type dbgengId systemId callerOwned).1 =
          ⟨made.length + 1, insert (b.handleOf made.length) (book made s).inUse⟩ := by
      rw [createSyntheticTitanHandle_eq, before.next, book, List.length_append]
      congr 1
      ext handle
      exact MapSums.mem_insert_iff
    rw [hbook]
    exact .give _
  | @register made s before handle entry native ih =>
    unfold registerTitanHandle
    split
    · exact ih
    · rename_i hvalid
      refine ih.tail ?_
      have hforeign : handle ∉ Set.range b.handleOf := by
        rintro ⟨n, rfl⟩
        obtain hzero | hinvalid | hdvd := native
        · exact hvalid (.inl hzero)
        · exact hvalid (.inr hinvalid)
        · exact b.not_dvd_syntheticHandle _ hdvd
      have hbook : book made { s with gHandleRegistry := s.gHandleRegistry.insert handle entry } =
          { book made s with inUse := insert handle (book made s).inUse } := by
        rw [book, book]
        congr 1
        ext other
        exact MapSums.mem_insert_iff
      rw [hbook]
      exact .other hforeign
  | unregister _ handle ih =>
    exact ih.tail (dropped fun _ hmem => Std.ExtTreeMap.mem_of_mem_erase hmem)
  | close _ hEngineHandle closed ih =>
    refine ih.tail (dropped fun other hmem => ?_)
    obtain heq | heq := gHandleRegistry_titanCloseHandle hEngineHandle closed _
    · rwa [heq] at hmem
    · rw [heq] at hmem
      exact Std.ExtTreeMap.mem_of_mem_erase hmem
  | clear _ ih => exact ih.tail (dropped fun _ hmem => absurd hmem Std.ExtTreeMap.not_mem_empty)
  | tables _ registry _ ih =>
    rw [book, registry]
    exact ih

/-- The handle is one that neither Windows nor the registry knows. -/
def IsNew (handle : BitVec b.bits) (s : HandleTables b) : Prop :=
  handle ≠ 0 ∧ handle ≠ b.invalidHandleValue ∧ ¬ 4 ∣ handle.toNat ∧ handle ∉ s.gHandleRegistry

/-- No handle that was made whole periods ago is still registered. -/
def Spaced (made : List (BitVec b.bits)) (s : HandleTables b) : Prop :=
  ∀ (k : ℕ) (handle : BitVec b.bits), made[k]? = some handle →
    b.handlePeriod ∣ made.length - k → handle ∉ s.gHandleRegistry

theorem Reaches.spaced_iff (h : Reaches made s) :
    s.Spaced made ↔ b.handleOf made.length ∉ s.gHandleRegistry := by
  have hknown := Serials.preserves_known.run h.run Serials.known_empty
  have hfresh := hknown.fresh_iff b.cyclic_handleOf
  refine Iff.trans ⟨fun hspaced k hk hdvd => ?_, fun hspaced k handle hmade hdvd => ?_⟩ hfresh.symm
  · exact hspaced k _ (h.getElem?_made hk) hdvd
  · obtain ⟨hk, -⟩ := List.getElem?_eq_some_iff.mp hmade
    rw [h.getElem?_made hk, Option.some.injEq] at hmade
    exact hmade ▸ hspaced k hk hdvd

section Create
variable (h : Reaches made s) (type : TitanHandleType) (dbgengId : ULONG) (systemId : DWORD)
  (callerOwned : Bool)
include h

/-- A synthetic handle is always one that Windows does not know. -/
theorem Reaches.isNew_iff_notMem :
    s.IsNew (s.createSyntheticTitanHandle type dbgengId systemId callerOwned).2 ↔
      b.handleOf made.length ∉ s.gHandleRegistry := by
  rw [createSyntheticTitanHandle_eq, h.next, IsNew]
  constructor
  · exact fun hnew => hnew.2.2.2
  · exact fun hfresh => ⟨b.syntheticHandle_ne_zero _, b.syntheticHandle_ne_invalid _,
      b.not_dvd_syntheticHandle _, hfresh⟩

/-- A new synthetic handle is not in use iff none that was made whole periods ago is still
registered. -/
theorem Reaches.isNew_iff :
    s.IsNew (s.createSyntheticTitanHandle type dbgengId systemId callerOwned).2 ↔ s.Spaced made :=
  (h.isNew_iff_notMem type dbgengId systemId callerOwned).trans h.spaced_iff.symm

/-- As long as fewer handles were made than there are, whatever is still open. -/
theorem Reaches.isNew_of_lt (hfew : made.length < b.handlePeriod) :
    s.IsNew (s.createSyntheticTitanHandle type dbgengId systemId callerOwned).2 := by
  have hknown := Serials.preserves_known.run h.run Serials.known_empty
  rw [h.isNew_iff_notMem]
  exact hknown.fresh_of_lt b.cyclic_handleOf hfew

end Create

section Sessions

theorem Reaches.index (h : Reaches made s) (type : TitanHandleType) (handle : BitVec b.bits)
    (dbgengId : ULONG) (address : ULONG64) : Reaches made (s.index type handle dbgengId address) := by
  cases type <;> exact h.tables rfl rfl

theorem Reaches.remember (h : Reaches made s) (type : TitanHandleType) (handle : BitVec b.bits)
    (dbgengId : ULONG) (address : ULONG64) : Reaches made (s.remember type handle dbgengId address) := by
  cases type <;> exact h.tables rfl rfl

theorem Reaches.titanOpen (h : Reaches made s) (kind : TitanSessionKind) (type : TitanHandleType)
    (systemId : DWORD) (found : Option (ULONG × ULONG64)) {opened : BitVec b.bits}
    (native : opened = 0 ∨ opened = b.invalidHandleValue ∨ 4 ∣ opened.toNat) :
    ∃ new, Reaches (made ++ new) (s.titanOpen kind type systemId found opened).1 := by
  unfold HandleTables.titanOpen
  split
  · cases found with
    | none =>
      refine ⟨[], ?_⟩
      rw [List.append_nil]
      exact h.tables rfl rfl
    | some object => exact ⟨_, (h.create type object.1 systemId true).index type _ object.1 object.2⟩
  · exact ⟨[], by simpa using h.register _ native⟩

/-- Opening a session in a replay or a dump makes two handles of the event process and thread,
one for each other thread, and two for the caller. -/
theorem Reaches.bootstrap (h : Reaches made s) (process thread : ULONG × DWORD × ULONG64)
    (others : List (ULONG × DWORD × ULONG64)) :
    ∃ new, Reaches (made ++ new) (s.bootstrap process thread others) ∧
      new.length = others.length + 4 := by
  have htokens : ∀ {made : List (BitVec b.bits)} {s : HandleTables b}, Reaches made s →
      ∃ new, new.length = others.length ∧ Reaches (made ++ new) (others.foldl (fun s object =>
        ((s.createSyntheticTitanHandle .thread object.1 object.2.1 false).1.remember .thread
          (s.createSyntheticTitanHandle .thread object.1 object.2.1 false).2 object.1 object.2.2)) s) := by
    induction others with
    | nil => exact fun h => ⟨[], rfl, by simpa using h⟩
    | cons object others ih =>
      intro made s h
      obtain ⟨new, hlength, hreached⟩ := ih ((h.create .thread object.1 object.2.1 false).remember
        .thread _ object.1 object.2.2)
      rw [List.append_assoc] at hreached
      exact ⟨_, by simp [hlength, Nat.add_comm], hreached⟩
  have hprocess := (h.create .process process.1 process.2.1 false).remember .process
    (s.createSyntheticTitanHandle .process process.1 process.2.1 false).2 process.1 process.2.2
  obtain ⟨new, hlength, hreached⟩ := htokens ((hprocess.create .thread thread.1 thread.2.1 false).remember
    .thread _ thread.1 thread.2.2)
  have hcaller := (hreached.create .process process.1 process.2.1 true).create .thread thread.1
    thread.2.1 true
  simp only [List.append_assoc] at hcaller
  exact ⟨_, (hcaller.index .process _ process.1 process.2.2).index .thread _ thread.1 thread.2.2,
    by simp [hlength]⟩

/-- The caller opens the process of a replay and closes it again. -/
def openClose (s : HandleTables b) : HandleTables b :=
  let r := s.titanOpen .ttd .process 1 (some (0, 0x7000)) 0
  (r.1.titanCloseHandle r.2 true).1

theorem openClose_eq (s : HandleTables b) :
    s.openClose.gNextSyntheticHandle = s.gNextSyntheticHandle + 1 ∧
      s.openClose.gHandleRegistry =
        (s.gHandleRegistry.insert (b.syntheticHandle s.gNextSyntheticHandle)
          ⟨.process, 0, 1, 0, true⟩).erase (b.syntheticHandle s.gNextSyntheticHandle) := by
  have hopened : (s.titanOpen .ttd .process 1 (some (0, 0x7000)) 0).1.gHandleRegistry[
      (s.titanOpen .ttd .process 1 (some (0, 0x7000)) 0).2]? = some ⟨.process, 0, 1, 0, true⟩ := by
    simp only [HandleTables.titanOpen, createSyntheticTitanHandle_eq, HandleTables.index]
    exact Std.ExtTreeMap.getElem?_insert_self
  unfold openClose titanCloseHandle
  dsimp only
  rw [hopened]
  simp only [HandleTables.titanOpen, createSyntheticTitanHandle_eq, HandleTables.index]
  exact ⟨rfl, rfl⟩

theorem Reaches.openClose (h : Reaches made s) (n : ℕ) :
    ∃ new, Reaches (made ++ new) (HandleTables.openClose^[n] s) := by
  induction n with
  | zero => exact ⟨[], by rwa [List.append_nil]⟩
  | succ n ih =>
    obtain ⟨new, hreached⟩ := ih
    obtain ⟨new', hopened⟩ := hreached.titanOpen .ttd .process 1 (some (0, 0x7000)) (.inl rfl)
    rw [Function.iterate_succ_apply']
    rw [List.append_assoc] at hopened
    exact ⟨_, hopened.close _ true⟩

/-- What is registered stays so while the handles that are opened and closed are others. -/
theorem getElem?_openClose {n : ℕ} {handle : BitVec b.bits} {entry : RegistryEntry b} (m : ℕ)
    (hnext : s.gNextSyntheticHandle = BitVec.ofNat b.bits (m + 1))
    (hentry : s.gHandleRegistry[handle]? = some entry) (hother : ∀ k < n, b.handleOf (m + k) ≠ handle) :
    (openClose^[n] s).gNextSyntheticHandle = BitVec.ofNat b.bits (m + n + 1) ∧
      (openClose^[n] s).gHandleRegistry[handle]? = some entry := by
  induction n with
  | zero => exact ⟨hnext, hentry⟩
  | succ n ih =>
    obtain ⟨hnext', hentry'⟩ := ih fun k hk => hother k (Nat.lt_succ_of_lt hk)
    obtain ⟨hserial, hregistry⟩ := openClose_eq (openClose^[n] s)
    have hne : handle ≠ b.syntheticHandle (openClose^[n] s).gNextSyntheticHandle := by
      rw [hnext']
      exact (hother n (Nat.lt_succ_self n)).symm
    rw [Function.iterate_succ_apply', hserial, hregistry]
    constructor
    · rw [hnext', ← Nat.add_assoc, BitVec.ofNat_add (m + n + 1) 1]
      rfl
    · rw [MapSums.getElem?_erase_of_ne hne, MapSums.getElem?_insert_of_ne hne, hentry']

end Sessions

/-- A trace with one thread, replayed by the build for 32 bits. -/
def replayed : HandleTables .x86 := bootstrap (0, 1, 0x7000) (1, 0x100, 0x8000) [] {}

theorem reaches_replayed : ∃ made, made.length = 4 ∧ Reaches made replayed := by
  obtain ⟨made, hreached, hlength⟩ :=
    Reaches.start.bootstrap (b := .x86) (0, 1, 0x7000) (1, 0x100, 0x8000) []
  exact ⟨made, hlength, hreached⟩

theorem isNew_replayed :
    ∃ made, Reaches made replayed ∧ replayed.Spaced made ∧
      replayed.IsNew (replayed.createSyntheticTitanHandle .process 0 1 true).2 := by
  obtain ⟨made, hlength, hreached⟩ := reaches_replayed
  have hnew := hreached.isNew_of_lt .process 0 1 true (by rw [hlength]; decide)
  exact ⟨made, hreached, (hreached.isNew_iff .process 0 1 true).mp hnew, hnew⟩

/-- The process is opened and closed until the handles come round to the event process. -/
def comeRound : HandleTables .x86 := openClose^[2 ^ 24 - 4] replayed

/-- The handle of the event process, still registered, is given to the caller once more. -/
theorem event_process_handle_taken :
    ∃ made, Reaches made comeRound ∧
      (comeRound.createSyntheticTitanHandle .process 0 1 true).2 = Build.x86.handleOf 0 ∧
      comeRound.gHandleRegistry[Build.x86.handleOf 0]? = some ⟨.process, 0, 1, 0, false⟩ ∧
      ¬ comeRound.IsNew (comeRound.createSyntheticTitanHandle .process 0 1 true).2 := by
  obtain ⟨made, hlength, hreached⟩ := reaches_replayed
  obtain ⟨new, hround⟩ := hreached.openClose (2 ^ 24 - 4)
  have hnext : replayed.gNextSyntheticHandle = BitVec.ofNat Build.x86.bits (4 + 1) := by
    rw [hreached.serial, hlength]
  have hevent : replayed.gHandleRegistry[Build.x86.handleOf 0]? = some ⟨.process, 0, 1, 0, false⟩ := by
    decide
  have hother : ∀ k < 2 ^ 24 - 4, Build.x86.handleOf (4 + k) ≠ Build.x86.handleOf 0 := by
    intro k hk heq
    have hmod : (4 + k) % 2 ^ 24 = 0 := (Build.x86.cyclic_handleOf _ _).mp heq
    omega
  obtain ⟨hserial, hentry⟩ := getElem?_openClose 4 hnext hevent hother
  have hsame : Build.x86.handleOf (4 + (2 ^ 24 - 4)) = Build.x86.handleOf 0 :=
    (Build.x86.cyclic_handleOf _ _).mpr rfl
  have hhandle : (comeRound.createSyntheticTitanHandle .process 0 1 true).2 = Build.x86.handleOf 0 := by
    rw [createSyntheticTitanHandle_eq, ← hsame, Build.handleOf]
    exact congrArg Build.x86.syntheticHandle hserial
  refine ⟨_, hround, hhandle, hentry, fun hnew => ?_⟩
  rw [hhandle] at hnew
  exact hnew.2.2.2 (MapSums.mem_of_getElem? hentry)

end HandleTables
end TitanEngine

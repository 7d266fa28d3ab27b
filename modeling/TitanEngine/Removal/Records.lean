import TitanEngine.Effects.Image
import TitanEngine.Model.Removal

/-! The loop of `RemoveAllBreakPoints` over the records: which of them it reaches, and which
bytes it puts back. -/
namespace TitanEngine
open FlatMemory

abbrev Entries := List (ULONG × BreakpointInfo)

namespace RemovalAnswers
variable (a : RemovalAnswers) {s s' : Session} {process : HANDLE} {entry : ULONG × BreakpointInfo} {entries : Entries}
  {x : ULONG_PTR}

/-- The bytes under the patch of the record are written, whether or not they are flushed. -/
def Writes (process : HANDLE) (entry : ULONG × BreakpointInfo) : Prop :=
  entry.2.nativePatch = true ∧ process ≠ 0 ∧ entry.2.patchSize ≠ 0 ∧
    (a.record entry.1).writeProcessMemory = true ∧
      Session.userRange entry.2.offset entry.2.patchSize = true

instance : Decidable (a.Writes process entry) := inferInstanceAs (Decidable (_ ∧ _))

/-- The engine removes the object of the record. -/
def Drops (entry : ULONG × BreakpointInfo) : Prop :=
  entry.2.nativePatch = false ∧
    (entry.2.bp.any fun bp => (a.record entry.1).removeBreakpoint bp) = true

instance : Decidable (a.Drops entry) := inferInstanceAs (Decidable (_ ∧ _))

def Removes (process : HANDLE) (entry : ULONG × BreakpointInfo) : Prop :=
  a.Writes process entry ∧ (a.record entry.1).flushInstructionCache = true ∨ a.Drops entry

instance : Decidable (a.Removes process entry) := inferInstanceAs (Decidable (_ ∨ _))

theorem writeBytes_outcome (hnative : entry.2.nativePatch = true) : ∃ e,
    s.writeNativeBreakpointBytes (a.record entry.1) entry.2 false =
      ({ s with
          target.memory :=
            if a.Writes s.sessionProcessHandle entry then s.target.memory.write entry.2.offset entry.2.originals
            else s.target.memory
          lastError := e },
        decide (a.Writes s.sessionProcessHandle entry ∧ (a.record entry.1).flushInstructionCache = true)) := by
  unfold Session.writeNativeBreakpointBytes Session.writeProcessMemory
  by_cases hnone : s.sessionProcessHandle = 0 ∨ entry.2.patchSize = 0
  · have hnot : ¬ a.Writes s.sessionProcessHandle entry := by
      rintro ⟨-, hprocess, hsize, -⟩
      exact hnone.elim hprocess hsize
    refine ⟨s.lastError, ?_⟩
    rw [if_pos hnone, if_neg hnot, decide_eq_false fun h => hnot h.1]
  · rw [not_or] at hnone
    have hwrites : a.Writes s.sessionProcessHandle entry ↔ ((a.record entry.1).writeProcessMemory &&
        Session.userRange entry.2.offset entry.2.originals.length) = true := by
      rw [Bool.and_eq_true, BreakpointInfo.length_originals]
      exact ⟨fun h => h.2.2.2, fun h => ⟨hnative, hnone.1, hnone.2, h⟩⟩
    have hsome : ¬ (s.sessionProcessHandle = 0 ∨ entry.2.patchSize = 0) := by
      rw [not_or]
      exact hnone
    rw [if_neg hsome]
    by_cases hwrite : a.Writes s.sessionProcessHandle entry
    · simp only [Bool.false_eq_true, if_false, if_pos (hwrites.1 hwrite), if_pos hwrite]
      cases hflush : (a.record entry.1).flushInstructionCache with
      | true => exact ⟨s.lastError, by simp [hwrite]⟩
      | false => exact ⟨ERROR_INVALID_HANDLE, by simp [Session.fail]⟩
    · simp only [Bool.false_eq_true, if_false, if_neg (mt hwrites.2 hwrite), if_neg hwrite]
      exact ⟨ERROR_NOACCESS, by simp [Session.fail, hwrite]⟩

/-- The target once the record has been tried. -/
def tried (process : HANDLE) (entry : ULONG × BreakpointInfo) (t : Target) : Target :=
  { t with
    memory := if a.Writes process entry then t.memory.write entry.2.offset entry.2.originals else t.memory
    engineBreakpoints :=
      if a.Drops entry then entry.2.bp.elim t.engineBreakpoints t.engineBreakpoints.erase
      else t.engineBreakpoints }

theorem remove_outcome (s : Session) (entry : ULONG × BreakpointInfo) : ∃ e,
    (if entry.2.nativePatch then
        s.writeNativeBreakpointBytes (a.record entry.1) entry.2 false
      else s.removeBreakpoint2 (a.record entry.1) entry.2.bp) =
      ({ s with target := a.tried s.sessionProcessHandle entry s.target, lastError := e }, decide (a.Removes s.sessionProcessHandle entry)) := by
  cases hnative : entry.2.nativePatch with
  | true =>
    have hdrops : ¬ a.Drops entry := by
      rintro ⟨hnot, -⟩
      rw [hnative] at hnot
      cases hnot
    obtain ⟨e, he⟩ := a.writeBytes_outcome (s := s) hnative
    refine ⟨e, ?_⟩
    rw [if_pos rfl, he]
    simp [tried, Removes, hdrops]
  | false =>
    have hwrites : ¬ a.Writes s.sessionProcessHandle entry := by
      rintro ⟨hyes, -⟩
      rw [hnative] at hyes
      cases hyes
    refine ⟨s.lastError, ?_⟩
    cases hbp : entry.2.bp with
    | none => simp [Session.removeBreakpoint2, tried, Removes, Drops, hwrites, hbp]
    | some bp =>
      cases hremove : (a.record entry.1).removeBreakpoint bp with
      | true => simp [Session.removeBreakpoint2, tried, Removes, Drops, hwrites, hbp, hremove, hnative]
      | false => simp [Session.removeBreakpoint2, tried, Removes, Drops, hwrites, hbp, hremove]

/-- The records that the loop comes to: it returns at the first that is not removed. -/
def reached (process : HANDLE) : Entries → Entries
  | [] => []
  | entry :: rest => if a.Removes process entry then entry :: reached process rest else [entry]

/-- The byte that is put back at `x` last, while the records are tried in turn. -/
def restoredByte (process : HANDLE) (x : ULONG_PTR) : Entries → Option BYTE
  | [] => none
  | entry :: rest => (restoredByte process x rest).or
      (if a.Writes process entry then cell entry.2.offset entry.2.originals x else none)

/-- How trying the records in turn leaves the target. -/
structure Tried (process : HANDLE) (entries : Entries) (t t' : Target) : Prop where
  rest : ∃ memory objects, t' = { t with memory := memory, engineBreakpoints := objects }
  memory x : t'.memory x = (a.restoredByte process x entries).getD (t.memory x)
  objects bp : bp ∈ t'.engineBreakpoints ↔
    bp ∈ t.engineBreakpoints ∧ ∀ entry ∈ entries, a.Drops entry → entry.2.bp ≠ some bp

variable {a} {t t' t'' : Target}

theorem tried_nil : a.Tried process [] t t := by
  constructor
  · exact ⟨_, _, rfl⟩
  · intro x
    rfl
  · simp

theorem Tried.cons (h : a.Tried process entries (a.tried process entry t) t') : a.Tried process (entry :: entries) t t' := by
  constructor
  · obtain ⟨memory, objects, hrest⟩ := h.rest
    exact ⟨memory, objects, hrest⟩
  · intro x
    have hfirst : (a.tried process entry t).memory x =
        (if a.Writes process entry then cell entry.2.offset entry.2.originals x else none).getD
          (t.memory x) := by
      unfold tried
      by_cases hwrites : a.Writes process entry
      · simp only [hwrites, if_true]
        cases hcell : cell entry.2.offset entry.2.originals x with
        | none => exact write_of_not_inRange _ (cell_eq_none_iff.1 hcell)
        | some b => exact write_of_cell _ hcell
      · simp [hwrites]
    rw [h.memory x, hfirst, restoredByte]
    cases a.restoredByte process x entries <;> rfl
  · intro bp
    have hfirst : bp ∈ (a.tried process entry t).engineBreakpoints ↔
        bp ∈ t.engineBreakpoints ∧ (a.Drops entry → entry.2.bp ≠ some bp) := by
      unfold tried
      by_cases hdrops : a.Drops entry
      · cases hbp : entry.2.bp with
        | none => simp [hdrops]
        | some bp' =>
          simp only [hdrops, if_true, Option.elim_some, Std.ExtTreeSet.mem_erase, ne_eq,
            Std.LawfulEqCmp.compare_eq_iff_eq, forall_true_left, Option.some.injEq]
          exact and_comm
      · simp [hdrops]
    rw [h.objects, hfirst, List.forall_mem_cons]
    tauto

theorem removeEach_outcome (entries : Entries) : ∃ target e,
    a.removeEach entries s =
      ({ s with target := target, lastError := e }, entries.all fun entry => a.Removes s.sessionProcessHandle entry) ∧
    a.Tried s.sessionProcessHandle (a.reached s.sessionProcessHandle entries) s.target target := by
  induction entries generalizing s with
  | nil => exact ⟨s.target, s.lastError, rfl, tried_nil⟩
  | cons entry entries ih =>
    obtain ⟨e, he⟩ := a.remove_outcome s entry
    by_cases hremoves : a.Removes s.sessionProcessHandle entry
    · let s₁ : Session := { s with target := a.tried s.sessionProcessHandle entry s.target, lastError := e }
      obtain ⟨target, e', hrun, htried⟩ := ih (s := s₁)
      refine ⟨target, e', ?_, ?_⟩
      · unfold removeEach
        rw [he, decide_eq_true hremoves]
        dsimp only
        rw [hrun, List.all_cons, decide_eq_true hremoves]
        rfl
      · rw [reached, if_pos hremoves]
        exact Tried.cons htried
    · refine ⟨a.tried s.sessionProcessHandle entry s.target, e, ?_, ?_⟩
      · unfold removeEach
        rw [he, decide_eq_false hremoves, List.all_cons, decide_eq_false hremoves]
        rfl
      · rw [reached, if_neg hremoves]
        exact Tried.cons tried_nil

end RemovalAnswers

end TitanEngine

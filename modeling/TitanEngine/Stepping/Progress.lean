import TitanEngine.Patches.Undo
import TitanEngine.Resume.Hits
import TitanEngine.Stepping.Lifted

/-! A thread that has been hit at a breakpoint gets past it before it is hit there again,
where it finds its own instruction there. -/
namespace TitanEngine
open FlatMemory

theorem suffix_of_append {thread : ULONG} {address : ULONG64} {older added log : List Entry}
    (hnone : ∀ address, .hit (some thread) address ∉ added)
    (h : .hit (some thread) address :: older <:+ added ++ log) :
    .hit (some thread) address :: older <:+ log := by
  induction added with
  | nil => exact h
  | cons entry added ih =>
    obtain heq | hrest := List.suffix_cons_iff.mp h
    · cases heq
      exact absurd List.mem_cons_self (hnone address)
    · exact ih (fun address' hmem => hnone address' (List.mem_cons_of_mem _ hmem)) hrest

namespace HaltedSession

/-- A thread that owes an instruction stands at it and does not wait, and no thread waits twice. -/
structure Steady (w : HaltedSession) : Prop where
  stands : ∀ (thread : ULONG) (address : ULONG_PTR), Owes thread address w.session.log →
    w.session.target.ip thread = address
  settled : ∀ halt ∈ w.halted, ∀ address, ¬ Owes halt.1 address w.session.log
  single : (w.halted.map Prod.fst).Nodup
  progresses : w.session.Progresses

namespace Steady
variable {w : HaltedSession} {s : Session} {thread : ULONG}

theorem unhit (h : w.Steady) (hunhit : Unhit w.session s) : Steady { w with session := s } := by
  obtain ⟨added, hlog, hnone⟩ := hunhit.log
  refine ⟨fun thread address h' => ?_, fun halt hhalt address h' => ?_, h.single, ?_⟩
  · rw [hunhit.ip]
    exact h.stands thread address (h'.of_unhit hunhit)
  · exact h.settled halt hhalt address (h'.of_unhit hunhit)
  · intro thread address older hsuffix
    rw [hlog] at hsuffix
    exact h.progresses thread address older (suffix_of_append (hnone (some thread)) hsuffix)

theorem target (h : w.Steady) {target : Target}
    (hstands : ∀ (thread : ULONG) (address : ULONG_PTR), Owes thread address w.session.log →
      target.ip thread = w.session.target.ip thread) :
    Steady { w with session := { w.session with target := target } } :=
  ⟨fun thread address howes => (hstands thread address howes).trans (h.stands thread address howes),
    h.settled, h.single, h.progresses⟩

/-- A thread that owes nothing waits, or is hit. -/
theorem waits (h : w.Steady) (hfree : ∀ halt ∈ w.halted, halt.1 ≠ thread)
    (hsettled : ∀ address, ¬ Owes thread address w.session.log) (info : EXCEPTION_DEBUG_INFO) :
    Steady { w with halted := (thread, info) :: w.halted } := by
  refine ⟨h.stands, fun halt hhalt => ?_, ?_, h.progresses⟩
  · obtain rfl | hhalt := List.mem_cons.mp hhalt
    · exact hsettled
    · exact h.settled halt hhalt
  · refine List.nodup_cons.mpr ⟨fun hmem => ?_, h.single⟩
    obtain ⟨halt, hhalt, heq⟩ := List.mem_map.mp hmem
    exact hfree halt hhalt heq

theorem struck {address : ULONG64} {earlier later : List (ULONG × EXCEPTION_DEBUG_INFO)}
    {info : EXCEPTION_DEBUG_INFO} (h : w.Steady) (hwaiting : w.halted = earlier ++ (thread, info) :: later)
    (hstruck : Struck thread address w.session s) : Steady ⟨s, earlier ++ later⟩ := by
  obtain ⟨added, hlog, hnone⟩ := hstruck.log
  have hsettled := h.settled (thread, info) (by simp [hwaiting])
  have hsingle := h.single
  rw [hwaiting, List.map_append, List.map_cons, List.nodup_middle, List.nodup_cons, ← List.map_append]
    at hsingle
  refine ⟨fun other address' h' => ?_, fun halt hhalt address' h' => ?_, hsingle.2, ?_⟩
  · rw [hstruck.ip]
    obtain ⟨rfl, rfl⟩ | h' := h'.of_struck hstruck
    · exact Function.update_self ..
    · have hother : other ≠ thread := by
        rintro rfl
        exact hsettled address' h'
      rw [Function.update_of_ne hother]
      exact h.stands other address' h'
  · obtain ⟨hsame, -⟩ | h' := h'.of_struck hstruck
    · refine hsingle.1 (List.mem_map.mpr ⟨halt, hhalt, hsame⟩)
    · refine h.settled halt ?_ address' h'
      rw [hwaiting]
      obtain hearlier | hlater := List.mem_append.mp hhalt
      · exact List.mem_append_left _ hearlier
      · exact List.mem_append_right _ (List.mem_cons_of_mem _ hlater)
  · intro other address' older hsuffix
    rw [hlog] at hsuffix
    obtain heq | hsuffix := List.suffix_cons_iff.mp (suffix_of_append (hnone (some other)) hsuffix)
    · cases heq
      exact hsettled _
    · exact h.progresses other address' older hsuffix

/-- What a thread that waits no longer has done beside being hit. -/
theorem answered {earlier later : List (ULONG × EXCEPTION_DEBUG_INFO)}
    {info : EXCEPTION_DEBUG_INFO} (h : w.Steady) (hwaiting : w.halted = earlier ++ (thread, info) :: later)
    (hunhit : Unhit w.session s) : Steady ⟨s, earlier ++ later⟩ := by
  have hsublist : (earlier ++ later).Sublist w.halted := by
    rw [hwaiting]
    exact List.Sublist.append_left (List.sublist_cons_self _ _) _
  have hunhit' := h.unhit hunhit
  exact ⟨hunhit'.stands, fun halt hhalt => hunhit'.settled halt (hsublist.subset hhalt),
    hunhit'.single.sublist (hsublist.map _), hunhit'.progresses⟩

section Executes
variable {d : Decoder} {target : Target}

theorem settled_executes (h : w.Steady)
    (hclear : Owes thread (w.session.target.ip thread) w.session.log →
      w.session.Clear d (w.session.target.ip thread))
    (hexecutes : w.session.Executes d thread target s) : ∀ address, ¬ Owes thread address s.log := by
  intro address howes
  cases hexecutes with
  | whole own =>
    obtain hfalse | ⟨hnone, howes⟩ := Owes.cons_iff.mp howes
    · exact absurd hfalse (Entry.past_ne_false (by simp))
    · have hip := h.stands thread address howes
      simp [Entry.past, hip] at hnone
  | garbled patched =>
    have hip := h.stands thread address howes
    rw [← hip] at howes
    exact patched (hclear howes).unpatched

/-- An instruction of the target's own settles what the thread owes there, and no thread that
owes something executes one with a patch in it. -/
theorem executes (h : w.Steady)
    (hclear : Owes thread (w.session.target.ip thread) w.session.log →
      w.session.Clear d (w.session.target.ip thread))
    (hothers : ∀ other, other ≠ thread → target.ip other = w.session.target.ip other)
    (hexecutes : w.session.Executes d thread target s) : Steady { w with session := s } := by
  have hsettled := h.settled_executes hclear hexecutes
  obtain ⟨added, hlog, hnone, htarget⟩ : ∃ added, s.log = added ++ w.session.log ∧
      (∀ thread address, .hit thread address ∉ added) ∧ s.target = target := by
    cases hexecutes with
    | whole => exact ⟨[_], rfl, by simp, rfl⟩
    | garbled => exact ⟨[], rfl, by simp, rfl⟩
  have howes : ∀ {other address}, Owes other address s.log → Owes other address w.session.log := by
    intro other address howes
    rw [hlog] at howes
    exact howes.of_append (hnone (some other))
  refine ⟨fun other address h' => ?_, fun halt hhalt address h' => ?_, h.single, ?_⟩
  · have hother : other ≠ thread := by
      rintro rfl
      exact hsettled address h'
    rw [htarget, hothers other hother]
    exact h.stands other address (howes h')
  · exact h.settled halt hhalt address (howes h')
  · intro other address older hsuffix
    rw [hlog] at hsuffix
    exact h.progresses other address older (suffix_of_append (hnone (some other)) hsuffix)

end Executes

theorem sessionStep {rules : Rules} (h : w.Steady) (hstep : SessionStep rules.betweenHits w.session s) :
    Steady { w with session := s } := by
  have hworked : ∀ {k env work rest}, k.Follows rules.betweenHits →
      rules.betweenHits.work env work w.session →
        Unhit w.session (work.run k env (w.session.dequeue rest)).1 := by
    intro k env work rest follows allowed
    have hdequeued : Unhit w.session (w.session.dequeue rest) := .quiet rfl rfl
    have hany : k.Follows anyRules := Rules.Within.follows
      ⟨fun _ => trivial, fun _ => trivial, fun _ => trivial⟩ follows
    exact hdequeued.trans (.work hany trivial allowed.2)
  cases hstep with
  | call step => exact h.unhit (.callStep step)
  | target allowed => exact h.target allowed.2
  | stop => exact h.unhit (.stop ..)
  | work follows paused queued allowed done => exact h.unhit (hworked follows allowed)
  | failed follows paused queued allowed failed =>
    exact h.unhit ((hworked follows allowed).trans (.applyExecutionStatus ..))
  | @resume env paused drained =>
    have hrun : Unhit (w.session.applyExecutionStatus env).1 (w.session.resume env) := .quiet rfl rfl
    exact h.unhit ((Unhit.applyExecutionStatus env w.session).trans hrun)

end Steady

end HaltedSession

section Runs
variable {d : Decoder} {m₀ : Memory 64 BYTE} {code : Set ULONG_PTR} {s s' : Session} {w : HaltedSession}

theorem Rules.betweenHits_within (rules : Rules) : rules.betweenHits.Within rules := ⟨id, And.left, And.left⟩

/-- What the session does beside breakpoint exceptions keeps the instructions bare. -/
theorem keeps_sessionStep (h : SessionStep (progressRules d m₀ code).betweenHits s s') :
    s.Keeps d m₀ code s' := by
  refine (closed_keeps.within (Rules.betweenHits_within _)).step
    (fun env work s rest allowed => ⟨progressRules_queueBlind env work s rest allowed.1, allowed.2⟩)
    (fun allowed => .target allowed.1 fun _ _ howes => howes) (fun {k env info s} hk allowed => ?_) h
  obtain hkeeps | ⟨hcode, -⟩ := closed_keeps.exceptionEvent ((Rules.betweenHits_within _).follows hk) allowed.1
  · exact hkeeps
  · obtain ⟨hbreakpoint, hillegal⟩ := allowed.2 info rfl
    exact absurd hcode (by simp [hbreakpoint, hillegal])

theorem keeps_executes {thread : ULONG} {target : Target}
    (hwrites : ∀ x ∈ code, target.memory x = s.target.memory x)
    (h : s.Executes d thread target s') : s.Keeps d m₀ code s' := by
  cases h with
  | whole own =>
    refine .target hwrites fun other address howes => ?_
    obtain hfalse | ⟨-, howes⟩ := Owes.cons_iff.mp howes
    · exact absurd hfalse (Entry.past_ne_false (by simp))
    · exact howes
  | garbled patched => exact .target hwrites fun _ _ howes => howes

/-- In a run under the rules each thread finds its own instruction where it goes on after a hit. -/
theorem HaltedRun.lifted (hs : s.Live) (hnone : s.hasPatch = false) (hlog : s.log = [])
    (h : HaltedRun d (progressRules d s.target.memory code) s w) :
    w.session.Lifted d s.target.memory code ∧ w.Steady := by
  have hunowed : ∀ thread address, ¬ Owes thread address s.log := by
    intro thread address howes
    rw [hlog] at howes
    exact Owes.not_nil howes
  induction h with
  | start =>
    refine ⟨⟨hs, Session.sound_of_hasPatch hnone code, fun _ _ howes => absurd howes (hunowed _ _)⟩, ?_⟩
    refine ⟨fun _ _ howes => absurd howes (hunowed _ _), fun _ hhalt => absurd hhalt List.not_mem_nil,
      List.nodup_nil, fun thread address older hsuffix => ?_⟩
    rw [hlog] at hsuffix
    exact absurd (List.suffix_nil.mp hsuffix) (List.cons_ne_nil _ _)
  | step _ step ih => exact ⟨ih.1.keeps (keeps_sessionStep step), ih.2.sessionStep step⟩
  | trap _ running free traps ih =>
    refine ⟨ih.1, ih.2.waits free (fun address howes => ?_) _⟩
    have hip := ih.2.stands _ address howes
    exact (ih.1.bare _ _ howes).clear.silent _ (hip ▸ traps)
  | @execute w thread target s' raised _ running free silent others allowed executes ih =>
    obtain ⟨hlift, hsteady⟩ := ih
    have hclear := fun howes => (hlift.bare thread (w.session.target.ip thread) howes).clear
    have hexecuted := hsteady.executes hclear others executes
    refine ⟨hlift.keeps (keeps_executes allowed executes), ?_⟩
    cases raised with
    | none => exact hexecuted
    | some info => exact hexecuted.waits free (hsteady.settled_executes hclear executes) info
  | @deliver w k env env' thread info rest earlier later s' done _ follows paused current queued waiting
      allowed handled ih =>
    obtain ⟨hlift, hsteady⟩ := ih
    have hfollows := (Rules.betweenHits_within _).follows follows
    have hallowed := progressRules_queueBlind env _ _ rest allowed
    have hdequeued : Unhit w.session (w.session.dequeue rest) := .quiet rfl rfl
    have happlied : ∀ s' : Session, Unhit s' (if done then s' else (s'.applyExecutionStatus env').1) := by
      intro s'
      split
      · exact .refl s'
      · exact .applyExecutionStatus ..
    have hs' : ((w.session.dequeue rest).exceptionEvent k env info).1 = s' := congrArg Prod.fst handled
    constructor
    · have hlift' : (w.session.dequeue rest).Lifted d s.target.memory code := hlift.keeps (.image rfl hdequeued)
      have hhandled := hlift'.exceptionEvent hfollows current hallowed
      rw [hs'] at hhandled
      refine hhandled.keeps (.image ?_ (happlied s'))
      split
      · rfl
      · exact Session.image_applyExecutionStatus ..
    · obtain hunhit | ⟨address, hstruck⟩ := Struck.exceptionEvent hfollows current hallowed
      · rw [hs'] at hunhit
        exact hsteady.answered waiting ((hdequeued.trans hunhit).trans (happlied s'))
      · rw [hs'] at hstruck
        exact hsteady.struck waiting ((Struck.after hdequeued hstruck rfl).before (happlied s'))

end Runs

def stepped : EXCEPTION_DEBUG_INFO := { code := EXCEPTION_SINGLE_STEP, address := 0x401000 }

end TitanEngine

import TitanEngine.Effects.Dispatch
import TitanEngine.Model.Causes
import TitanEngine.Stepping.Calls

/-! Whether a breakpoint exception is taken for what has raised it. -/
namespace TitanEngine
open Relation

theorem BreakpointInfo.Raises.matches {bp : BreakpointInfo} {info : EXCEPTION_DEBUG_INFO}
    (h : bp.Raises info) (hnative : bp.nativePatch = true) : bp.matchesException info.address = true := by
  unfold BreakpointInfo.matchesException
  rw [hnative]
  cases h with
  | int3 patch code address => simp [address]
  | ud2 patch code address => simp [address]
  | longInt3 patch code address =>
    obtain address | address := address
    · simp [address]
    · have hsize : bp.patchSize = 2 := by
        rw [← bp.length_patch, patch]
        rfl
      have hall : bp.patch = bp.patchBytes.toList := List.take_of_length_le (by simp [hsize])
      have hbytes : bp.patchBytes = #v[0xCD, 0x03] := Vector.toList_inj.mp (hall.symm.trans patch)
      simp [address, hsize, hbytes]

/-- From `s` to `s'` the log has grown by `entries`, step requests of the client apart. -/
def Reported (entries : List Entry) (s s' : Session) : Prop :=
  ∃ added, s'.log = added ++ s.log ∧ added.filter (fun entry => !entry.isRequest) = entries

namespace Reported
variable {k : Client} {rules : Rules} {env : Env} {entries entries' : List Entry} {s s' s'' : Session}

theorem reports_eq (h : Reported entries s s') : reports s s' = entries := by
  obtain ⟨added, hlog, hadded⟩ := h
  have hnoted : s'.log.take (s'.log.length - s.log.length) = added := Session.noted_eq hlog
  unfold reports
  rw [hnoted, ← hadded]
  congr 1
  funext entry
  cases entry <;> rfl

theorem quiet (h : s'.log = s.log) : Reported [] s s' := ⟨[], h, rfl⟩

theorem trans (h : Reported entries s s') (h' : Reported entries' s' s'') :
    Reported (entries' ++ entries) s s'' := by
  obtain ⟨added, hlog, hadded⟩ := h
  obtain ⟨added', hlog', hadded'⟩ := h'
  refine ⟨added' ++ added, ?_, ?_⟩
  · rw [hlog', hlog, List.append_assoc]
  · rw [List.filter_append, hadded, hadded']

theorem note {entry : Entry} (hentry : entry.isRequest = false) (h : s'.log = entry :: s.log) :
    Reported [entry] s s' := ⟨[entry], h, by simp [hentry]⟩

theorem callStep (h : CallStep rules s s') : Reported [] s s' := by
  obtain @⟨env, call, _, -⟩ := h
  have hstep : ∀ kind asked, Reported [] s (s.debugStep env kind asked) := by
    intro kind asked
    obtain heq | ⟨thread, -, -, -, heq⟩ := Session.debugStep_outcome env kind asked s
    · rw [heq]
      exact quiet rfl
    · rw [heq]
      exact ⟨[.stepRequested thread asked], rfl, rfl⟩
  cases hsteps : call.steps with
  | false => exact quiet (Session.frame_log (Session.frame_call env hsteps s))
  | true =>
    cases call with
    | stepInto asked => exact hstep .into asked
    | stepOver asked => exact hstep .over asked
    | _ => cases hsteps

theorem client (hk : k.Follows rules) (inv : Invocation) (s : Session) :
    Reported [.invoke inv] s (k.call inv s) := by
  have hrun : ∀ {a b}, ReflTransGen (CallStep rules) a b → Reported [] a b := by
    intro a b h
    induction h with
    | refl => exact quiet rfl
    | tail _ hstep ih => exact ih.trans (callStep hstep)
  have hnoted : Reported [.invoke inv] s { s with log := .invoke inv :: s.log } := note rfl rfl
  exact hnoted.trans (hrun (hk inv _))

theorem beginDebugEvent (hk : k.Follows rules) (u : Bool) (s : Session) :
    Reported [.invoke (.handler .debugEvent)] s (s.beginDebugEvent k u) := by
  have hstatus : ∀ status : DWORD, Reported [] s { s with gNextContinueStatus := status } :=
    fun _ => quiet rfl
  unfold Session.beginDebugEvent
  exact (hstatus _).trans (client hk _ _)

theorem finishDebugEvent (u : Bool) (s : Session) : Reported [] s (s.finishDebugEvent u) := by
  unfold Session.finishDebugEvent
  split
  · exact quiet rfl
  · exact quiet rfl

theorem dispatchSystemBreakpoint (hk : k.Follows rules) (s : Session) :
    Reported [.invoke (.handler .systemBreakpoint), .invoke (.handler .debugEvent)] s
        (s.dispatchSystemBreakpoint k) ∨
      ∃ callback, Reported [.invoke (.attach callback), .invoke (.handler .debugEvent)] s
        (s.dispatchSystemBreakpoint k) := by
  have hbegin := beginDebugEvent hk false s
  unfold Session.dispatchSystemBreakpoint
  dsimp only
  cases hattach : (s.beginDebugEvent k false).gAttachCallback with
  | none => exact .inl ((hbegin.trans (client hk _ _)).trans (finishDebugEvent false _))
  | some callback =>
    have hforgotten : Reported [] (s.beginDebugEvent k false)
        { s.beginDebugEvent k false with gAttachCallback := none } := quiet rfl
    exact .inr ⟨callback, ((hbegin.trans hforgotten).trans (client hk _ _)).trans (finishDebugEvent false _)⟩

theorem dispatchUnhandledException (hk : k.Follows rules) (env : Env) (info : EXCEPTION_DEBUG_INFO)
    (s : Session) :
    Reported [.invoke (.handler .unhandledException), .invoke (.handler .debugEvent),
      .delivered env.currentThreadId info.address] s (s.dispatchUnhandledException k env info) := by
  have hdelivered : Reported [.delivered env.currentThreadId info.address] s
      { s with log := .delivered env.currentThreadId info.address :: s.log } := note rfl rfl
  exact ((hdelivered.trans (beginDebugEvent hk true _)).trans (client hk _ _)).trans (finishDebugEvent true _)

theorem callBreakpoint (hk : k.Follows rules) (bpInfo : BreakpointInfo) (s : Session) :
    Reported (bpInfo.invocation.toList.map .invoke) s (s.callBreakpoint k bpInfo) := by
  unfold Session.callBreakpoint BreakpointInfo.invocation
  cases bpInfo.kind with
  | hardware =>
    cases bpInfo.hardwareCallback with
    | none => exact quiet rfl
    | some callback => exact client hk _ s
  | software =>
    cases bpInfo.callback with
    | none => exact quiet rfl
    | some callback => exact client hk _ s

theorem enterNativeHit (env : Env) (id : ULONG) (bpInfo : BreakpointInfo) (s : Session) :
    Reported [.hit env.currentThreadId bpInfo.offset] s (s.enterNativeHit env id bpInfo) := by
  have hrewound : Reported [] s (s.setCurrentInstructionPointer env bpInfo.offset) := by
    unfold Session.setCurrentInstructionPointer
    split <;> exact quiet rfl
  have hdisguised : ∀ s : Session, Reported [] s (s.disguiseHit bpInfo) := fun s =>
    quiet (Session.core_log (Session.core_disguiseHit bpInfo s))
  have hconsumed : ∀ s : Session, Reported [] s (s.consumeOneShot id bpInfo) := by
    intro s
    unfold Session.consumeOneShot
    split <;> exact quiet rfl
  have hnoted : ∀ s : Session, Reported [.hit env.currentThreadId bpInfo.offset] s
      { s with log := .hit env.currentThreadId bpInfo.offset :: s.log } := fun s => note rfl rfl
  exact ((hrewound.trans (hdisguised _)).trans (hconsumed _)).trans (hnoted _)

theorem rearmNative (env : Env) (id : ULONG) (bpInfo : BreakpointInfo) (s : Session) :
    Reported [] s (s.rearmNative env id bpInfo) := by
  unfold Session.rearmNative
  split
  · obtain ⟨steps, suspends, resumes, eflags, e, heq⟩ :=
      Session.scheduleInternalStep_eq env (.rearmBreakpoint id) s
    rw [heq]
    exact quiet rfl
  · exact quiet rfl

/-- What a hit reports, where the patch can be taken out of the target. -/
theorem nativeBreakpointHit (hk : k.Follows rules) (env : Env) (id : ULONG) (bpInfo : BreakpointInfo)
    (s : Session) :
    (s.nativeBreakpointHit k env id bpInfo).2 = (s.writeNativeBreakpointBytes env bpInfo false).2 ∧
      Reported (if (s.writeNativeBreakpointBytes env bpInfo false).2 then
          bpInfo.invocation.toList.map .invoke ++ [.invoke (.handler .debugEvent),
            .hit env.currentThreadId bpInfo.offset]
        else []) s (s.nativeBreakpointHit k env id bpInfo).1 := by
  have hlifted : Reported [] s (s.writeNativeBreakpointBytes env bpInfo false).1 :=
    quiet (Session.frame_log (Session.frame_writeNativeBreakpointBytes ..))
  unfold Session.nativeBreakpointHit
  split <;> rename_i lifted hwrite <;> rw [hwrite] at hlifted ⊢
  · exact ⟨rfl, hlifted⟩
  · refine ⟨rfl, ?_⟩
    have hentered := (hlifted.trans (enterNativeHit env id bpInfo lifted)).trans
      (beginDebugEvent hk false _)
    have hcalled := (hentered.trans (callBreakpoint hk bpInfo _)).trans (rearmNative env id bpInfo _)
    exact hcalled.trans (finishDebugEvent false _)

end Reported

namespace Delivery

/-- The bytes under the patch of a record can be written back. -/
def Restorable (d : Delivery) (bp : BreakpointInfo) : Prop :=
  (d.before.writeNativeBreakpointBytes d.env bp false).2 = true

/-- The adapter can tell the cause: it sees no record at the address of an exception of the
target's own, or of a patch that is gone, and there it remembers the address; it sees the
right record where the patch is still there; and it does not wait for the system's breakpoint. -/
def Recognised (d : Delivery) : Prop :=
  match d.cause with
  | .own =>
    d.Expected ∨
      d.before.findNative d.info.address = none ∧ d.before.isRetired d.info.address = false
  | .patch id bp callback =>
    ¬ d.Expected ∧
      (d.before.bps.gBreakpoints[id]? = some bp → ∀ found,
        d.before.findNative d.info.address = some found →
          found.2.invocation = some callback ∧ d.Restorable found.2) ∧
      (d.before.bps.gBreakpoints[id]? ≠ some bp →
        d.before.findNative d.info.address = none ∧ d.before.isRetired d.info.address = true)

/-- What was reported of the exception, by what the adapter saw. -/
structure Outcome (d : Delivery) : Prop where
  expected : d.Expected → d.done = true ∧
    (reports d.before d.after = [.invoke (.handler .systemBreakpoint), .invoke (.handler .debugEvent)] ∨
      ∃ callback, reports d.before d.after =
        [.invoke (.attach callback), .invoke (.handler .debugEvent)])
  hit : ¬ d.Expected → ∀ found, d.before.findNative d.info.address = some found →
    (d.Restorable found.2 → d.done = true ∧ ∃ hit, reports d.before d.after =
      found.2.invocation.toList.map .invoke ++ [.invoke (.handler .debugEvent), .hit hit found.2.offset]) ∧
    (¬ d.Restorable found.2 → d.done = false ∧ reports d.before d.after = [])
  retired : ¬ d.Expected → d.before.findNative d.info.address = none →
    d.before.isRetired d.info.address = true →
      d.done = true ∧ reports d.before d.after = [.invoke (.handler .debugEvent)]
  unhandled : ¬ d.Expected → d.before.findNative d.info.address = none →
    d.before.isRetired d.info.address = false → ∃ thread, reports d.before d.after =
      [.invoke (.handler .unhandledException), .invoke (.handler .debugEvent),
        .delivered thread d.info.address]

end Delivery

namespace Session

theorem writeNativeBreakpointBytes_snd_iff (env : Env) (info : BreakpointInfo) (install : Bool)
    (s : Session) :
    (s.writeNativeBreakpointBytes env info install).2 = true ↔
      ¬ (s.sessionProcessHandle = 0 ∨ info.patchSize = 0) ∧ env.flushInstructionCache = true ∧
        (env.writeProcessMemory && userRange info.offset
          (if install then info.patch else info.originals).length) = true := by
  unfold writeNativeBreakpointBytes writeProcessMemory
  by_cases hnone : s.sessionProcessHandle = 0 ∨ info.patchSize = 0
  · rw [if_pos hnone]
    exact iff_of_false Bool.false_ne_true fun h => h.1 hnone
  · generalize (if install = true then info.patch else info.originals) = bytes
    rw [if_neg hnone]
    by_cases hwrite : (env.writeProcessMemory && userRange info.offset bytes.length) = true
    · rw [if_pos hwrite]
      dsimp only
      cases hflush : env.flushInstructionCache with
      | true => exact iff_of_true rfl ⟨hnone, rfl, hwrite⟩
      | false => exact iff_of_false Bool.false_ne_true fun h => Bool.false_ne_true h.2.1
    · rw [if_neg hwrite]
      exact iff_of_false Bool.false_ne_true fun h => hwrite h.2.2

/-- What an exception with the code of a breakpoint leads to. -/
theorem exceptionEvent_of_code (k : Client) (env : Env) {info : EXCEPTION_DEBUG_INFO} (s : Session)
    (code : info.code = EXCEPTION_BREAKPOINT ∨ info.code = EXCEPTION_ILLEGAL_INSTRUCTION) :
    s.exceptionEvent k env info =
      if info.code = EXCEPTION_BREAKPOINT ∧ s.gExpectSystemBreakpoint = true then
        ({ s.setFakeDebugEvent env (.exception info) with
            gExpectSystemBreakpoint := false }.dispatchSystemBreakpoint k, true)
      else (s.setFakeDebugEvent env (.exception info)).breakpointException k env info := by
  have hstep : (s.setFakeDebugEvent env (.exception info)).consumeSingleStep k env info = none := by
    unfold consumeSingleStep
    rw [if_neg]
    rcases code with h | h <;> rw [h] <;> decide
  have haccess : (s.setFakeDebugEvent env (.exception info)).consumeAccess k env info = none := by
    unfold consumeAccess
    rw [if_neg]
    rcases code with h | h <;> rw [h] <;> decide
  unfold exceptionEvent
  dsimp only
  rw [hstep, haccess]
  dsimp only
  by_cases hexpected : info.code = EXCEPTION_BREAKPOINT ∧ s.gExpectSystemBreakpoint = true
  · rw [if_pos hexpected]
    exact if_pos hexpected
  · rw [if_neg hexpected]
    exact (if_neg hexpected).trans (if_pos code)

end Session

theorem BreakpointInfo.invocation_cases {bp : BreakpointInfo} {inv : Invocation}
    (h : bp.invocation = some inv) :
    (∃ callback, inv = .softBreakpoint callback) ∨ ∃ callback, inv = .hardwareBreakpoint callback bp.offset := by
  unfold BreakpointInfo.invocation at h
  cases hkind : bp.kind with
  | hardware =>
    rw [hkind] at h
    obtain ⟨callback, -, rfl⟩ := Option.map_eq_some_iff.mp h
    exact .inr ⟨callback, rfl⟩
  | software =>
    rw [hkind] at h
    obtain ⟨callback, -, rfl⟩ := Option.map_eq_some_iff.mp h
    exact .inl ⟨callback, rfl⟩

namespace Delivery
variable {d : Delivery}

theorem outcome {k : Client} (hk : k.Follows anyRules) {env : Env} {info : EXCEPTION_DEBUG_INFO}
    {cause : Cause} {s s' : Session} {done : Bool}
    (hcode : info.code = EXCEPTION_BREAKPOINT ∨ info.code = EXCEPTION_ILLEGAL_INSTRUCTION)
    (handled : (Work.exception info).run k env s = (s', done)) :
    Outcome ⟨env, info, cause, s, s', done⟩ := by
  have hfake : Reported [] s (s.setFakeDebugEvent env (.exception info)) := .quiet rfl
  change s.exceptionEvent k env info = (s', done) at handled
  rw [Session.exceptionEvent_of_code k env s hcode] at handled
  constructor
  · intro hexpected
    have hcondition : info.code = EXCEPTION_BREAKPOINT ∧ s.gExpectSystemBreakpoint = true := hexpected
    rw [if_pos hcondition] at handled
    cases handled
    have hforgotten : Reported [] s
        { s.setFakeDebugEvent env (.exception info) with gExpectSystemBreakpoint := false } := .quiet rfl
    refine ⟨rfl, ?_⟩
    obtain hsystem | ⟨callback, hattach⟩ := Reported.dispatchSystemBreakpoint hk
      { s.setFakeDebugEvent env (.exception info) with gExpectSystemBreakpoint := false }
    · exact .inl (hforgotten.trans hsystem).reports_eq
    · exact .inr ⟨callback, (hforgotten.trans hattach).reports_eq⟩
  all_goals
    intro hown
    have hcondition : ¬ (info.code = EXCEPTION_BREAKPOINT ∧ s.gExpectSystemBreakpoint = true) := hown
    rw [if_neg hcondition] at handled
    unfold Session.breakpointException at handled
  · rintro ⟨id, bpInfo⟩ hfound
    have hfound' : (s.setFakeDebugEvent env (.exception info)).findNative info.address =
        some (id, bpInfo) := hfound
    rw [hfound'] at handled
    dsimp only at handled
    obtain ⟨hdone, hreported⟩ := Reported.nativeBreakpointHit hk env id bpInfo
      (s.setFakeDebugEvent env (.exception info))
    rw [handled] at hdone hreported
    have hwrite : ((s.setFakeDebugEvent env (.exception info)).writeNativeBreakpointBytes env bpInfo
        false).2 = (s.writeNativeBreakpointBytes env bpInfo false).2 := by
      rw [Bool.eq_iff_iff, Session.writeNativeBreakpointBytes_snd_iff,
        Session.writeNativeBreakpointBytes_snd_iff]
      rfl
    rw [hwrite] at hdone hreported
    constructor
    · intro hrestorable
      rw [show (s.writeNativeBreakpointBytes env bpInfo false).2 = true from hrestorable] at hdone hreported
      rw [if_pos rfl] at hreported
      exact ⟨hdone, _, (hfake.trans hreported).reports_eq.trans (List.append_nil _)⟩
    · intro hkept
      rw [show (s.writeNativeBreakpointBytes env bpInfo false).2 = false from
        Bool.eq_false_iff.mpr hkept] at hdone hreported
      exact ⟨hdone, (hfake.trans hreported).reports_eq⟩
  · intro hnone hretired
    have hnone' : (s.setFakeDebugEvent env (.exception info)).findNative info.address = none := hnone
    have hretired' : (s.setFakeDebugEvent env (.exception info)).isRetired info.address = true := hretired
    rw [hnone'] at handled
    dsimp only at handled
    rw [if_pos hretired'] at handled
    cases handled
    exact ⟨rfl, ((hfake.trans (.beginDebugEvent hk false _)).trans (.finishDebugEvent false _)).reports_eq⟩
  · intro hnone hunknown
    have hnone' : (s.setFakeDebugEvent env (.exception info)).findNative info.address = none := hnone
    have hunknown' : (s.setFakeDebugEvent env (.exception info)).isRetired info.address = false := hunknown
    rw [hnone'] at handled
    dsimp only at handled
    rw [if_neg (by simp [hunknown'])] at handled
    cases handled
    exact ⟨_, (hfake.trans (.dispatchUnhandledException hk env info _)).reports_eq⟩

/-- What an exception with such a cause looks like. -/
def Fits (d : Delivery) : Prop :=
  match d.cause with
  | .own => d.info.code = EXCEPTION_BREAKPOINT ∨ d.info.code = EXCEPTION_ILLEGAL_INSTRUCTION
  | .patch _ bp callback =>
    bp.nativePatch = true ∧ bp.Raises d.info ∧ bp.invocation = some callback

theorem attributed_own_iff (hout : d.Outcome) (hcause : d.cause = .own) :
    d.Attributed ↔ d.Recognised := by
  unfold Attributed Recognised
  rw [hcause]
  dsimp only
  by_cases hexpected : d.Expected
  · obtain ⟨-, hreports⟩ := hout.expected hexpected
    refine iff_of_true ⟨fun _ => ?_, fun hown => absurd hexpected hown⟩ (.inl hexpected)
    unfold Told
    obtain hreports | ⟨callback, hreports⟩ := hreports
    · exact .inl (by simp [hreports])
    · exact .inr ⟨callback, by simp [hreports]⟩
  · have htold : d.Told (.handler .unhandledException) ↔
        d.before.findNative d.info.address = none ∧ d.before.isRetired d.info.address = false := by
      unfold Told
      cases hfound : d.before.findNative d.info.address with
      | some found =>
        refine iff_of_false ?_ (fun h => Option.some_ne_none _ h.1)
        by_cases hrestorable : d.Restorable found.2
        · obtain ⟨-, hit, hreports⟩ := (hout.hit hexpected found hfound).1 hrestorable
          rw [hreports]
          cases hinvocation : found.2.invocation with
          | none => simp
          | some inv =>
            obtain ⟨callback, rfl⟩ | ⟨callback, rfl⟩ := BreakpointInfo.invocation_cases hinvocation
            · simp
            · simp
        · obtain ⟨-, hreports⟩ := (hout.hit hexpected found hfound).2 hrestorable
          simp [hreports]
      | none =>
        cases hretired : d.before.isRetired d.info.address with
        | true =>
          obtain ⟨-, hreports⟩ := hout.retired hexpected hfound hretired
          simp [hreports]
        | false =>
          obtain ⟨thread, hreports⟩ := hout.unhandled hexpected hfound hretired
          simp [hreports]
    constructor
    · exact fun h => .inr (htold.mp (h.2 hexpected))
    · rintro (h | h)
      · exact absurd h hexpected
      · exact ⟨fun h => absurd h hexpected, fun _ => htold.mpr h⟩

theorem told_iff (hout : d.Outcome) {bp : BreakpointInfo} {inv : Invocation}
    (hinv : bp.invocation = some inv) :
    d.Told inv ↔ ¬ d.Expected ∧ ∃ found, d.before.findNative d.info.address = some found ∧
      found.2.invocation = some inv ∧ d.Restorable found.2 := by
  have hhandler : ∀ id, inv ≠ .handler id := by
    obtain ⟨callback, rfl⟩ | ⟨callback, rfl⟩ := BreakpointInfo.invocation_cases hinv <;> simp
  have hattach : ∀ callback, inv ≠ .attach callback := by
    obtain ⟨callback, rfl⟩ | ⟨callback, rfl⟩ := BreakpointInfo.invocation_cases hinv <;> simp
  unfold Told
  by_cases hexpected : d.Expected
  · refine iff_of_false ?_ (fun h => h.1 hexpected)
    obtain ⟨-, hreports | ⟨callback, hreports⟩⟩ := hout.expected hexpected
    · simp [hreports, hhandler]
    · simp [hreports, hhandler, hattach]
  cases hfound : d.before.findNative d.info.address with
  | some found =>
    by_cases hrestorable : d.Restorable found.2
    · obtain ⟨-, hit, hreports⟩ := (hout.hit hexpected found hfound).1 hrestorable
      have hmem : .invoke inv ∈ reports d.before d.after ↔ found.2.invocation = some inv := by
        rw [hreports]
        simp [hhandler]
      rw [hmem]
      exact ⟨fun h => ⟨hexpected, found, rfl, h, hrestorable⟩, fun ⟨_, found', h, h', _⟩ => by cases h; exact h'⟩
    · obtain ⟨-, hreports⟩ := (hout.hit hexpected found hfound).2 hrestorable
      refine iff_of_false (by simp [hreports]) ?_
      rintro ⟨-, found', h, -, hrestorable'⟩
      cases h
      exact hrestorable hrestorable'
  | none =>
    refine iff_of_false ?_ (fun ⟨_, _, h, _⟩ => by cases h)
    cases hretired : d.before.isRetired d.info.address with
    | true =>
      obtain ⟨-, hreports⟩ := hout.retired hexpected hfound hretired
      simp [hreports, hhandler]
    | false =>
      obtain ⟨thread, hreports⟩ := hout.unhandled hexpected hfound hretired
      simp [hreports, hhandler]

theorem suppressed_iff (hout : d.Outcome) :
    d.Suppressed ↔ ¬ d.Expected ∧ d.before.findNative d.info.address = none ∧
      d.before.isRetired d.info.address = true := by
  unfold Suppressed
  by_cases hexpected : d.Expected
  · refine iff_of_false ?_ (fun h => h.1 hexpected)
    obtain ⟨-, hreports | ⟨callback, hreports⟩⟩ := hout.expected hexpected
    · simp [hreports]
    · simp [hreports]
  cases hfound : d.before.findNative d.info.address with
  | some found =>
    refine iff_of_false ?_ (fun h => Option.some_ne_none _ h.2.1)
    by_cases hrestorable : d.Restorable found.2
    · obtain ⟨-, hit, hreports⟩ := (hout.hit hexpected found hfound).1 hrestorable
      rintro ⟨-, hsuppressed⟩
      have hlength := congrArg List.length (hreports.symm.trans hsuppressed)
      simp at hlength
    · obtain ⟨hdone, -⟩ := (hout.hit hexpected found hfound).2 hrestorable
      simp [hdone]
  | none =>
    cases hretired : d.before.isRetired d.info.address with
    | true => exact iff_of_true (hout.retired hexpected hfound hretired) ⟨hexpected, rfl, rfl⟩
    | false =>
      obtain ⟨thread, hreports⟩ := hout.unhandled hexpected hfound hretired
      simp [hreports]

/-- A record whose patch has raised an exception is one that matches its address. -/
theorem exists_found {id : ULONG} {bp : BreakpointInfo} (hnative : bp.nativePatch = true)
    (hraises : bp.Raises d.info) (hlive : d.before.bps.gBreakpoints[id]? = some bp) :
    ∃ found, d.before.findNative d.info.address = some found := by
  rw [← Option.isSome_iff_exists, Session.findNative, List.find?_isSome]
  exact ⟨(id, bp), Std.ExtTreeMap.mem_toList_iff_getElem?_eq_some.mpr hlive, hraises.matches hnative⟩

theorem attributed_patch_iff (hout : d.Outcome) (hfits : d.Fits) {id : ULONG} {bp : BreakpointInfo}
    {callback : Invocation} (hcause : d.cause = .patch id bp callback) :
    d.Attributed ↔ d.Recognised := by
  unfold Fits at hfits
  unfold Attributed Recognised
  rw [hcause] at hfits ⊢
  dsimp only at hfits ⊢
  obtain ⟨hnative, hraises, hcallback⟩ := hfits
  rw [told_iff hout hcallback, suppressed_iff hout]
  by_cases hlive : d.before.bps.gBreakpoints[id]? = some bp
  · obtain ⟨found, hfound⟩ := exists_found hnative hraises hlive
    constructor
    · rintro ⟨htold, -⟩
      obtain ⟨hown, found', hfound', hright⟩ := htold hlive
      refine ⟨hown, fun _ found'' hfound'' => ?_, fun h => absurd hlive h⟩
      rw [hfound'] at hfound''
      cases hfound''
      exact hright
    · rintro ⟨hown, hright, -⟩
      exact ⟨fun _ => ⟨hown, found, hfound, hright hlive found hfound⟩, fun h => absurd hlive h⟩
  · constructor
    · rintro ⟨-, hsuppressed⟩
      obtain ⟨hown, hgone⟩ := hsuppressed hlive
      exact ⟨hown, fun h => absurd h hlive, fun _ => hgone⟩
    · rintro ⟨hown, -, hgone⟩
      exact ⟨fun h => absurd h hlive, fun h => ⟨hown, hgone h⟩⟩

end Delivery

namespace ExceptionHistory
variable {past : List Delivery} {w : RaisedSession}

/-- Every exception looks like one of its cause, before and after it has been handled. -/
theorem fits (h : ExceptionHistory past w) :
    (∀ d ∈ past, d.Fits ∧ d.Outcome) ∧ ∀ raised ∈ w.raised, ∀ env s s' done,
      Delivery.Fits ⟨env, raised.1, raised.2, s, s', done⟩ := by
  induction h with
  | start => exact ⟨fun d hd => absurd hd List.not_mem_nil, fun raised hr => absurd hr List.not_mem_nil⟩
  | step _ _ ih => exact ih
  | @raise past w info cause _ _ raises ih =>
    refine ⟨ih.1, fun raised hraised => ?_⟩
    obtain rfl | hraised := List.mem_cons.mp hraised
    · intro env s s' done
      cases cause with
      | own => exact raises.1
      | patch id bp callback =>
        obtain ⟨-, ⟨hnative, -⟩, hraises, hcallback⟩ := raises
        exact ⟨hnative, hraises, hcallback⟩
    · exact ih.2 raised hraised
  | @deliver past w k env env' info cause rest earlier later s done _ follows _ queued pending handled ih =>
    have hfits : Delivery.Fits ⟨env, info, cause, w.session.dequeue rest, s, done⟩ :=
      ih.2 (info, cause) (by simp [pending]) env _ s done
    constructor
    · intro d hd
      obtain rfl | hd := List.mem_cons.mp hd
      · refine ⟨hfits, Delivery.outcome follows ?_ handled⟩
        cases cause with
        | own => exact hfits
        | patch id bp callback =>
          obtain ⟨-, hraises, -⟩ := hfits
          cases hraises with
          | int3 _ code => exact .inl code
          | longInt3 _ code => exact .inl code
          | ud2 _ code => exact .inr code
      · exact ih.1 d hd
    · intro raised hraised
      refine ih.2 raised ?_
      rw [pending]
      rcases List.mem_append.mp hraised with hearlier | hlater
      · exact List.mem_append_left _ hearlier
      · exact List.mem_append_right _ (List.mem_cons_of_mem _ hlater)

/-- In every history, the breakpoint exceptions are taken for what has raised them iff the
adapter can tell the cause of each of them when it is delivered. -/
theorem attributed_iff (h : ExceptionHistory past w) :
    (∀ d ∈ past, d.Attributed) ↔ ∀ d ∈ past, d.Recognised := by
  have hiff : ∀ d ∈ past, d.Attributed ↔ d.Recognised := by
    intro d hd
    obtain ⟨hfits, hout⟩ := h.fits.1 d hd
    cases hcause : d.cause with
    | own => exact Delivery.attributed_own_iff hout hcause
    | patch id bp callback => exact Delivery.attributed_patch_iff hout hfits hcause
  exact forall₂_congr hiff

end ExceptionHistory

/-- A breakpoint is set at 0x401000 and deleted, and the target runs. -/
def clearedSession : Session :=
  (ApiCall.run {} (.deleteBPX 0x401000) softwareThreadedSession).1.resume {}

/-- An `int3` of the target's own. -/
def ownInt3 (address : ULONG_PTR) : EXCEPTION_DEBUG_INFO :=
  { code := EXCEPTION_BREAKPOINT, address := address }

def ownStop (address : ULONG_PTR) : Session := clearedSession.stop {} [({}, .exception (ownInt3 address))]

def ownDelivery (address : ULONG_PTR) : Delivery where
  env := {}
  info := ownInt3 address
  cause := .own
  before := (ownStop address).dequeue []
  after := ((Work.exception (ownInt3 address)).run idle {} ((ownStop address).dequeue [])).1
  done := true

theorem history_ownDelivery {address : ULONG_PTR}
    (hdone : ((Work.exception (ownInt3 address)).run idle {} ((ownStop address).dequeue [])).2 = true) :
    ∃ w, ExceptionHistory [ownDelivery address] w := by
  have hempty : clearedSession.bps.gBreakpoints = ∅ := by
    rw [← Std.ExtTreeMap.isEmpty_iff]
    decide
  have hset : SessionStep otherWork threadedSession softwareThreadedSession :=
    .call (show CallStep otherWork threadedSession
      (ApiCall.run {} (.setBPX 0x401000 0 (some 1)) threadedSession).1 from .call trivial)
  have hdelete : SessionStep otherWork softwareThreadedSession
      (ApiCall.run {} (.deleteBPX 0x401000) softwareThreadedSession).1 := .call (.call trivial)
  have hresume : SessionStep otherWork (ApiCall.run {} (.deleteBPX 0x401000) softwareThreadedSession).1
      clearedSession := .resume rfl rfl
  have hstart : ExceptionHistory [] { session := threadedSession } := .start rfl rfl rfl
  have hcleared : ExceptionHistory [] { session := clearedSession } :=
    ((hstart.step hset).step hdelete).step hresume
  have hraised : ExceptionHistory [] { session := clearedSession, raised := [(ownInt3 address, .own)] } := by
    refine hcleared.raise rfl ⟨.inl rfl, fun id bp hbp => ?_⟩
    rw [hempty, Std.ExtTreeMap.getElem?_empty] at hbp
    cases hbp
  have hstopped : ExceptionHistory [] { session := ownStop address, raised := [(ownInt3 address, .own)] } :=
    hraised.step (.stop rfl)
  exact ⟨_, @ExceptionHistory.deliver [] _ idle {} {} (ownInt3 address) .own [] [] [] _ true hstopped
    (idle_follows anyRules) rfl rfl rfl (Prod.ext rfl hdone)⟩

/-- Far from any address that once had a breakpoint it is reported. -/
theorem attributed_iff_ownDelivery :
    ∃ w, ExceptionHistory [ownDelivery 0x403000] w ∧ ∀ d ∈ [ownDelivery 0x403000], d.Attributed := by
  have hdone : ((Work.exception (ownInt3 0x403000)).run idle {} ((ownStop 0x403000).dequeue [])).2 = true := by
    decide
  obtain ⟨w, hhistory⟩ := history_ownDelivery hdone
  refine ⟨w, hhistory, hhistory.attributed_iff.mpr fun d hd => ?_⟩
  obtain rfl := List.mem_singleton.mp hd
  exact .inr ⟨by decide, by decide⟩

/-- An instruction of the target's own beside an address that once had a breakpoint is never
reported. -/
theorem own_int3_suppressed :
    ¬ ∀ (past : List Delivery) (w : RaisedSession), ExceptionHistory past w → ∀ d ∈ past, d.Attributed := by
  intro hclaim
  have hdone : ((Work.exception (ownInt3 0x401001)).run idle {} ((ownStop 0x401001).dequeue [])).2 = true := by
    decide
  obtain ⟨w, hhistory⟩ := history_ownDelivery hdone
  obtain ⟨-, htold⟩ := hclaim _ w hhistory (ownDelivery 0x401001) (List.mem_singleton_self _)
  have hown : ¬ (ownDelivery 0x401001).Expected := fun h => absurd h.2 (by decide)
  have hreports : reports (ownDelivery 0x401001).before (ownDelivery 0x401001).after =
      [.invoke (.handler .debugEvent)] := by decide
  have hunhandled : Entry.invoke (.handler .unhandledException) ∈
      reports (ownDelivery 0x401001).before (ownDelivery 0x401001).after := htold hown
  rw [hreports] at hunhandled
  exact absurd hunhandled (by decide)

end TitanEngine

import TitanEngine.Effects.Holdings

/-! What the calls of the client add to and take from the things that a session keeps. -/
namespace TitanEngine

/-- The callback that the client gives with a call. -/
def ApiCall.callback : ApiCall → Option Callback
  | setBPX _ _ callback | setHardwareBreakPoint _ _ _ _ callback | setMemoryBPXEx _ _ _ _ callback
  | stepInto callback | stepOver callback | requestPause callback => callback
  | _ => none

/-- The memory breakpoints of `watched` are among those of the session. -/
def Session.WatchedWithin (s : Session) (watched : Map ULONG64 MemoryBreakpointInfo) : Prop :=
  ∀ {id : ULONG64} {info : MemoryBreakpointInfo}, watched[id]? = some info →
    s.bps.gMemoryBreakpoints[id]? = some info

/-- What a call that gives `callback` does to the things that a session keeps. -/
inductive CallTends (env : Env) (callback : Option Callback) (s s' : Session) : Prop
  | same (same : s'.holdings = s.holdings)
  | skipped (skipped : s'.holdings =
      { s.holdings with gNextNativeBreakpointId := s.bps.gNextNativeBreakpointId + 1 })
  | patch {info : BreakpointInfo} {records : Map ULONG BreakpointInfo} {slots : Map DWORD ULONG}
      (id : info.id = s.bps.gNextNativeBreakpointId) (patch : info.bp = none)
      (given : ∀ given, info.Runs given → callback = some given)
      (entry : ∀ {id : ULONG} {info' : BreakpointInfo}, records[id]? = some info' →
        s.bps.gBreakpoints[id]? = some info' ∨ info' = info)
      (others : ∀ {id : ULONG}, id ≠ info.id → records[id]? = s.bps.gBreakpoints[id]?)
      (kept : ∀ {reg : DWORD} {id : ULONG}, s.bps.gHardwareBreakpointIds[reg]? = some id →
        slots[reg]? = some id)
      (entered : s'.holdings = { s.holdings with
        gBreakpoints := records, gHardwareBreakpointIds := slots
        gNextNativeBreakpointId := s.bps.gNextNativeBreakpointId + 1 })
  | object {info : BreakpointInfo} (answer : env.addBreakpoint = some info.id) (own : info.bp = some info.id)
      (data : info.kind = .hardware ∧ info.nativePatch = false)
      (register : info.hardwareRegister ∈ hardwareRegisters)
      (free : info.hardwareRegister ∉ s.bps.gHardwareBreakpointIds)
      (given : ∀ given, info.Runs given → callback = some given)
      (entered : s'.holdings = { s.holdings with
        gBreakpoints := s.bps.gBreakpoints.insert info.id info
        gHardwareBreakpointIds := s.bps.gHardwareBreakpointIds.insert info.hardwareRegister info.id
        engineBreakpoints := s.target.engineBreakpoints.insert info.id })
  | erased {id : ULONG} {info : BreakpointInfo} {slots : Map DWORD ULONG} {objects : OrderedSet ULONG}
      (record : s.bps.gBreakpoints[id]? = some info)
      (kept : ∀ {reg : DWORD} {id' : ULONG}, id' ≠ id → s.bps.gHardwareBreakpointIds[reg]? = some id' →
        slots[reg]? = some id')
      (fewer : ∀ bp ∈ objects, bp ∈ s.target.engineBreakpoints)
      (gone : info.nativePatch = true ∨ info.kind = .software ∨ ∀ bp ∈ objects, info.bp ≠ some bp)
      (erased : s'.holdings = { s.holdings with
        gBreakpoints := s.bps.gBreakpoints.erase id, gHardwareBreakpointIds := slots
        engineBreakpoints := objects })
  | dangling {reg : DWORD} {id : ULONG} (slot : s.bps.gHardwareBreakpointIds[reg]? = some id)
      (missing : s.bps.gBreakpoints[id]? = none)
      (erased : s'.holdings =
        { s.holdings with gHardwareBreakpointIds := s.bps.gHardwareBreakpointIds.erase reg })
  | thinned {objects : OrderedSet ULONG} {watched : Map ULONG64 MemoryBreakpointInfo}
      (fewer : ∀ bp ∈ objects, bp ∈ s.target.engineBreakpoints)
      (within : s.WatchedWithin watched) (thinned : s'.holdings = { s.holdings with
        engineBreakpoints := objects, gMemoryBreakpoints := watched })
  | cleared {objects : OrderedSet ULONG} {watched : Map ULONG64 MemoryBreakpointInfo}
      (within : s.WatchedWithin watched)
      (gone : ∀ bp ∈ objects, bp ∈ s.target.engineBreakpoints ∧
        ∀ (id : ULONG) (info : BreakpointInfo), s.bps.gBreakpoints[id]? = some info →
          info.nativePatch = false → info.bp ≠ some bp)
      (cleared : s'.holdings = { s.holdings with
        gBreakpoints := ∅, gHardwareBreakpointIds := ∅, gMemoryBreakpoints := watched
        engineBreakpoints := objects })
  | abandoned (ended : s.gIsDebugging = false) (cleared : s'.holdings = { s.holdings with
      gBreakpoints := ∅, gHardwareBreakpointIds := ∅, gMemoryBreakpoints := ∅ })
  | watching {watched : Map ULONG64 MemoryBreakpointInfo}
      (entry : ∀ {id : ULONG64} {info : MemoryBreakpointInfo}, watched[id]? = some info →
        s.bps.gMemoryBreakpoints[id]? = some info ∨ info.callback = callback)
      (watching : s'.holdings = { s.holdings with gMemoryBreakpoints := watched })
  | stepping {thread : ULONG} (stepping : s'.holdings = { s.holdings with
      gStepCallbacks := s.steps.gStepCallbacks.insertIfNew thread callback })
  | pausing (pausing : s'.holdings = { s.holdings with gPauseCallback := callback })

namespace CallTends
variable {env : Env} {callback : Option Callback} {s s' : Session}

theorem patched {info : BreakpointInfo} {slots : Map DWORD ULONG} {s₁ : Session}
    (hskipped : s₁.holdings =
      { s.holdings with gNextNativeBreakpointId := s.bps.gNextNativeBreakpointId + 1 })
    (hid : info.id = s.bps.gNextNativeBreakpointId) (hpatch : info.bp = none)
    (hgiven : ∀ given, info.Runs given → callback = some given)
    (hslots : ∀ {reg : DWORD} {id : ULONG}, s₁.bps.gHardwareBreakpointIds[reg]? = some id →
      slots[reg]? = some id)
    (hs' : s'.holdings = { s₁.holdings with
      gBreakpoints := s₁.bps.gBreakpoints.insert info.id info, gHardwareBreakpointIds := slots }) :
    CallTends env callback s s' := by
  have hrecords : s₁.bps.gBreakpoints = s.bps.gBreakpoints := congrArg Holdings.gBreakpoints hskipped
  have hregisters : s₁.bps.gHardwareBreakpointIds = s.bps.gHardwareBreakpointIds :=
    congrArg Holdings.gHardwareBreakpointIds hskipped
  rw [hskipped, hrecords] at hs'
  rw [hregisters] at hslots
  refine .patch hid hpatch hgiven (fun h => ?_) (fun hne => MapSums.getElem?_insert_of_ne hne) hslots hs'
  rcases MapSums.getElem?_insert_cases h with ⟨-, hinfo⟩ | ⟨-, hold⟩
  · exact .inr hinfo
  · exact .inl hold

/-- Capturing the bytes under a patch takes an id, and the record is as it was given. -/
theorem installNative (env : Env) (info : BreakpointInfo) (callback : Option Callback) (s : Session) :
    (∃ s₁, s.installNative env info = (s₁, none) ∧ CallTends env callback s s₁) ∨
      ∃ s₁ info', s.installNative env info = (s₁, some info') ∧ s₁.holdings =
          { s.holdings with gNextNativeBreakpointId := s.bps.gNextNativeBreakpointId + 1 } ∧
        info'.id = s.bps.gNextNativeBreakpointId ∧ info'.bp = info.bp ∧
          ∀ given, info'.Runs given ↔ info.Runs given := by
  unfold Session.installNative
  split
  · exact .inl ⟨s, rfl, .same rfl⟩
  split
  · exact .inl ⟨_, rfl, .same rfl⟩
  · rename_i bytes _
    dsimp only
    split <;> rename_i hwrite <;> have hholdings := congrArg (fun r => r.1.holdings) hwrite <;>
      rw [Session.holdings_writeNativeBreakpointBytes] at hholdings
    · exact .inr ⟨_, _, rfl, hholdings.symm, rfl, rfl, fun _ => .rfl⟩
    · exact .inl ⟨_, rfl, .skipped hholdings.symm⟩

theorem addTtdSoftwareBreakpoint (env : Env) (address : ULONG_PTR) (callback : Option Callback)
    (oneShot : Bool) (threadAffinity : ULONG) (s : Session) :
    CallTends env callback s (s.addTtdSoftwareBreakpoint env address callback oneShot threadAffinity).1 := by
  unfold Session.addTtdSoftwareBreakpoint
  split <;> rename_i s₁ heq <;> have hholdings := congrArg (fun r => r.1.holdings) heq <;>
    rw [Session.holdings_addMemoryWatchpoint] at hholdings <;> dsimp only at hholdings
  · exact .same hholdings.symm
  · have hrecords : s₁.bps.gBreakpoints = s.bps.gBreakpoints :=
      congrArg Holdings.gBreakpoints hholdings.symm
    have hregisters : s₁.bps.gHardwareBreakpointIds = s.bps.gHardwareBreakpointIds :=
      congrArg Holdings.gHardwareBreakpointIds hholdings.symm
    have hnext : s₁.bps.gNextNativeBreakpointId = s.bps.gNextNativeBreakpointId :=
      congrArg Holdings.gNextNativeBreakpointId hholdings.symm
    let info : BreakpointInfo :=
      { id := s₁.bps.gNextNativeBreakpointId, kind := .software, callback := callback
        offset := address, oneShot := oneShot, ttdThreadAffinity := threadAffinity }
    have hentry : ∀ {id : ULONG} {info' : BreakpointInfo},
        (s.bps.gBreakpoints.insertIfNew info.id info)[id]? = some info' →
          s.bps.gBreakpoints[id]? = some info' ∨ info' = info :=
      fun h => (MapSums.getElem?_insertIfNew_cases h).imp_right And.right
    have hgiven : ∀ given, info.Runs given → callback = some given := by
      rintro given (h | h)
      · exact h
      · cases h
    refine .patch hnext rfl hgiven hentry (fun hne => MapSums.getElem?_insertIfNew_of_ne hne) id ?_
    rw [hholdings, ← hrecords, ← hregisters, ← hnext]
    rfl

theorem setBPX (env : Env) (address : ULONG_PTR) (bpxType : DWORD) (callback : Option Callback)
    (s : Session) : CallTends env callback s (s.setBPX env address bpxType callback).1 := by
  unfold Session.setBPX
  split
  · exact .same rfl
  split
  · exact .same rfl
  split
  · exact .same rfl
  split
  · exact addTtdSoftwareBreakpoint ..
  cases htype : s.selectBreakpointType bpxType with
  | none => exact .same rfl
  | some type =>
    dsimp only
    generalize hinfo : BreakpointInfo.mk _ _ _ _ _ _ _ _ _ _ _ _ _ _ _ _ = info
    obtain ⟨s₁, hinstall, htends⟩ | ⟨s₁, info', hinstall, hskipped, hid, hpatch, hruns⟩ :=
      installNative env info callback s
    · rw [hinstall]
      exact htends
    · rw [hinstall]
      refine patched hskipped hid ?_ (fun given h => ?_) id rfl
      · rw [hpatch, ← hinfo]
      · rw [hruns, ← hinfo] at h
        rcases h with h | h
        · exact h
        · cases h

/-- Taking a patch out, or an object from the engine. -/
theorem removePatch (env : Env) (info : BreakpointInfo) (s : Session) {r : Session × Bool}
    (hr : (if info.nativePatch then s.writeNativeBreakpointBytes env info false
      else s.removeBreakpoint2 env info.bp) = r) :
    ∃ objects : OrderedSet ULONG, (∀ bp ∈ objects, bp ∈ s.target.engineBreakpoints) ∧
      r.1.holdings = { s.holdings with engineBreakpoints := objects } ∧
        (r.2 = true → info.nativePatch = true ∨ ∀ bp ∈ objects, info.bp ≠ some bp) := by
  subst hr
  split
  · rename_i hnative
    exact ⟨_, fun _ h => h, Session.holdings_writeNativeBreakpointBytes .., fun _ => .inl hnative⟩
  · unfold Session.removeBreakpoint2
    split
    · rename_i bp hbp
      split
      · refine ⟨_, fun other h => ?_, rfl, fun _ => .inr fun other h heq => ?_⟩
        · exact (Std.ExtTreeSet.mem_erase.mp h).2
        · rw [hbp] at heq
          cases heq
          exact (Std.ExtTreeSet.mem_erase.mp h).1 Std.ReflCmp.compare_self
      · exact ⟨_, fun _ h => h, rfl, fun h => nomatch h⟩
    · exact ⟨_, fun _ h => h, rfl, fun h => nomatch h⟩

theorem deleteBPX (env : Env) (address : ULONG_PTR) (s : Session) :
    CallTends env callback s (s.deleteBPX env address).1 := by
  unfold Session.deleteBPX
  cases hfind : s.findSoftware address with
  | none => exact .same rfl
  | some entry =>
    obtain ⟨id, info⟩ := entry
    unfold Session.findSoftware at hfind
    have hrecord := Std.ExtTreeMap.mem_toList_iff_getElem?_eq_some.mp (List.mem_of_find?_eq_some hfind)
    have hmatch := List.find?_some hfind
    rw [decide_eq_true_iff] at hmatch
    have hkind : info.kind = .software := hmatch.1
    dsimp only
    split
    · split <;> rename_i s₁ heq <;> have hholdings := congrArg (fun r => r.1.holdings) heq <;>
        rw [Session.holdings_removeMemoryWatchpoint] at hholdings <;> dsimp only at hholdings
      · exact .same hholdings.symm
      · refine .erased hrecord (fun _ h => h) (fun _ h => h) (.inr (.inl hkind)) ?_
        exact congrArg (fun h : Holdings => { h with gBreakpoints := h.gBreakpoints.erase id }) hholdings.symm
    · split <;> rename_i s₁ heq <;> obtain ⟨objects, hfewer, hholdings, hgone⟩ := removePatch env info s heq
      · exact .thinned hfewer (fun h => h) hholdings
      · refine .erased hrecord (fun _ h => h) hfewer (.inr (.inl hkind)) ?_
        exact congrArg (fun h : Holdings => { h with gBreakpoints := h.gBreakpoints.erase id }) hholdings

theorem setExecuteBreakPoint (env : Env) (address : ULONG_PTR) (reg : DWORD) (callback : Option Callback)
    (s : Session) : CallTends env callback s (s.setExecuteBreakPoint env address reg callback).1 := by
  unfold Session.setExecuteBreakPoint
  dsimp only
  split
  · exact .skipped rfl
  split
  · exact .skipped rfl
  · rename_i bytes _
    let info : BreakpointInfo :=
      { kind := .hardware, offset := address, hardwareCallback := callback
        hardwareRegister := reg, nativePatch := true, patchSize := 1, patchBytes := #v[0xCC, 0]
        id := s.bps.gNextNativeBreakpointId, originalBytes := loadBytes bytes }
    have hgiven : ∀ given, info.Runs given → callback = some given := by
      rintro given (h | h)
      · cases h
      · exact h
    split <;> rename_i s₁ hwrite <;> have hholdings := congrArg (fun r => r.1.holdings) hwrite <;>
      rw [Session.holdings_writeNativeBreakpointBytes] at hholdings
    · exact .skipped hholdings.symm
    · have hid : info.id = s.bps.gNextNativeBreakpointId := rfl
      exact patched hholdings.symm hid rfl hgiven (fun h => MapSums.getElem?_insertIfNew_of_some h) rfl

theorem setDataBreakPoint (env : Env) (address : ULONG_PTR) {reg : DWORD} (dataSize : ULONG)
    (callback : Option Callback) (hregister : reg ∈ hardwareRegisters)
    (hfree : reg ∉ s.bps.gHardwareBreakpointIds) :
    CallTends env callback s (s.setDataBreakPoint env address reg dataSize callback).1 := by
  unfold Session.setDataBreakPoint
  split
  · exact .same rfl
  split
  · exact .same rfl
  · rename_i id hid
    let info : BreakpointInfo :=
      { bp := some id, kind := .hardware, offset := address
        hardwareCallback := callback, hardwareRegister := reg, id := id }
    have hgiven : ∀ given, info.Runs given → callback = some given := by
      rintro given (h | h)
      · cases h
      · exact h
    have hanswer : env.addBreakpoint = some info.id := hid
    refine .object hanswer rfl ⟨rfl, rfl⟩ hregister hfree hgiven ?_
    rw [← MapSums.insertIfNew_of_notMem hfree]
    rfl

theorem setHardwareBreakPoint (env : Env) (address : ULONG_PTR) (reg : DWORD) (bpxType bpxSize : ℕ)
    (callback : Option Callback) (s : Session) :
    CallTends env callback s (s.setHardwareBreakPoint env address reg bpxType bpxSize callback).1 := by
  unfold Session.setHardwareBreakPoint
  dsimp only
  split
  · exact .same rfl
  split
  · exact .same rfl
  split
  · exact .same rfl
  rename_i hregister
  split
  · exact .same rfl
  rename_i hfree
  rw [Std.ExtTreeMap.contains_iff_mem] at hfree
  split
  · exact .same rfl
  · exact .same rfl
  · exact setExecuteBreakPoint ..
  · exact setDataBreakPoint env address _ callback (not_not.mp hregister) hfree

theorem deleteHardwareBreakPoint (env : Env) (reg : DWORD) (s : Session) :
    CallTends env callback s (s.deleteHardwareBreakPoint env reg).1 := by
  unfold Session.deleteHardwareBreakPoint
  split
  · exact .same rfl
  split
  · exact .same rfl
  split
  · exact .same rfl
  rename_i id hslot
  split
  · rename_i hmissing
    exact .dangling hslot hmissing rfl
  · rename_i info hrecord
    have hremove : ∃ objects : OrderedSet ULONG, (∀ bp ∈ objects, bp ∈ s.target.engineBreakpoints) ∧
        (s.removeHardware env info).1.holdings = { s.holdings with engineBreakpoints := objects } ∧
          ((s.removeHardware env info).2 = true → info.nativePatch = true ∨ ∀ bp ∈ objects, info.bp ≠ some bp) := by
      unfold Session.removeHardware
      obtain ⟨objects, hfewer, hholdings, hgone⟩ := removePatch env info s rfl
      split
      · rename_i hnative
        rw [if_pos hnative] at hholdings
        refine ⟨objects, hfewer, ?_, fun _ => .inl hnative⟩
        split <;> rename_i heq <;> rw [heq] at hholdings <;> exact hholdings
      · rename_i hnative
        rw [if_neg hnative] at hholdings hgone
        exact ⟨objects, hfewer, hholdings, hgone⟩
    obtain ⟨objects, hfewer, hholdings, hgone⟩ := hremove
    split <;> rename_i s₁ heq <;> rw [heq] at hholdings hgone
    · exact .thinned hfewer (fun h => h) hholdings
    · have hkept : ∀ {other : DWORD} {id' : ULONG}, id' ≠ id →
          s.bps.gHardwareBreakpointIds[other]? = some id' →
            (s.bps.gHardwareBreakpointIds.erase reg)[other]? = some id' := by
        intro other id' hne h
        rw [MapSums.getElem?_erase_of_ne, h]
        rintro rfl
        rw [hslot] at h
        exact hne (Option.some.inj h).symm
      refine .erased hrecord hkept hfewer ((hgone rfl).imp_right .inr) ?_
      exact congrArg (fun h : Holdings => { h with
        gBreakpoints := h.gBreakpoints.erase id
        gHardwareBreakpointIds := h.gHardwareBreakpointIds.erase reg }) hholdings

theorem removeMemoryBreakpointById (env : Env) (id : ULONG64) (s : Session) :
    ∃ watched, s.WatchedWithin watched ∧ (s.removeMemoryBreakpointById env id).1.holdings =
      { s.holdings with gMemoryBreakpoints := watched } := by
  rcases Session.holdings_removeMemoryBreakpointById env id s with h | h
  · exact ⟨_, fun h => h, h⟩
  · exact ⟨_, fun h => MapSums.getElem?_of_erase h, h⟩

theorem removeMemoryBreakpoints (env : Env) (rounds : ℕ) (s : Session) :
    ∃ watched, s.WatchedWithin watched ∧ (Session.removeMemoryBreakpoints env rounds s).1.holdings =
      { s.holdings with gMemoryBreakpoints := watched } := by
  induction rounds generalizing s with
  | zero => exact ⟨_, fun h => h, rfl⟩
  | succ rounds ih =>
    unfold Session.removeMemoryBreakpoints
    split
    · exact ⟨_, fun h => h, rfl⟩
    · rename_i id _ _
      obtain ⟨first, hfirst, hholdings⟩ := removeMemoryBreakpointById env id s
      obtain ⟨watched, hrest, hholdings'⟩ := ih (s.removeMemoryBreakpointById env id).1
      have hwatched : (s.removeMemoryBreakpointById env id).1.bps.gMemoryBreakpoints = first :=
        congrArg Holdings.gMemoryBreakpoints hholdings
      refine ⟨watched, fun h => hfirst ?_, ?_⟩
      · rw [← hwatched]
        exact hrest h
      · rw [hholdings] at hholdings'
        exact hholdings'

theorem removeEach (env : Env) (entries : List (ULONG × BreakpointInfo)) (s : Session) :
    ∃ objects : OrderedSet ULONG, (∀ bp ∈ objects, bp ∈ s.target.engineBreakpoints) ∧
      (Session.removeEach env entries s).1.holdings = { s.holdings with engineBreakpoints := objects } ∧
        ((Session.removeEach env entries s).2 = true → ∀ entry ∈ entries, entry.2.nativePatch = false →
          ∀ bp ∈ objects, entry.2.bp ≠ some bp) := by
  induction entries generalizing s with
  | nil => exact ⟨_, fun _ h => h, rfl, fun _ _ h => nomatch h⟩
  | cons entry rest ih =>
    obtain ⟨id, info⟩ := entry
    unfold Session.removeEach
    split <;> rename_i s₁ heq <;> obtain ⟨objects, hfewer, hholdings, hgone⟩ := removePatch env info s heq
    · obtain ⟨objects', hfewer', hholdings', hgone'⟩ := ih s₁
      have hobjects : s₁.target.engineBreakpoints = objects := congrArg Holdings.engineBreakpoints hholdings
      rw [hobjects] at hfewer'
      rw [hholdings] at hholdings'
      refine ⟨objects', fun bp h => hfewer bp (hfewer' bp h), hholdings', fun hok entry hentry hpatch bp hbp => ?_⟩
      rcases List.mem_cons.mp hentry with rfl | hrest
      · have hnot : ¬ info.nativePatch = true := Bool.not_eq_true _ ▸ hpatch
        exact (hgone rfl).resolve_left hnot bp (hfewer' bp hbp)
      · exact hgone' hok entry hrest hpatch bp hbp
    · exact ⟨objects, hfewer, hholdings, fun h => nomatch h⟩

/-- `RemoveAllBreakPoints` fails, forgets all records of a session that is over, or has the engine
forget the objects of all records first. -/
theorem removeAllBreakPoints_outcome (env : Env) (s : Session) :
    (s.removeAllBreakPoints env).2 = false ∧
        (∃ (objects : OrderedSet ULONG) (watched : Map ULONG64 MemoryBreakpointInfo),
          (∀ bp ∈ objects, bp ∈ s.target.engineBreakpoints) ∧ s.WatchedWithin watched ∧
            (s.removeAllBreakPoints env).1.holdings =
              { s.holdings with engineBreakpoints := objects, gMemoryBreakpoints := watched }) ∨
      s.gIsDebugging = false ∧ (s.removeAllBreakPoints env).1.holdings =
        { s.holdings with gBreakpoints := ∅, gHardwareBreakpointIds := ∅, gMemoryBreakpoints := ∅ } ∨
      ∃ objects : OrderedSet ULONG, (∀ bp ∈ objects, bp ∈ s.target.engineBreakpoints ∧
          ∀ (id : ULONG) (info : BreakpointInfo), s.bps.gBreakpoints[id]? = some info →
            info.nativePatch = false → info.bp ≠ some bp) ∧
        (s.removeAllBreakPoints env).1.holdings = { s.holdings with
          gBreakpoints := ∅, gHardwareBreakpointIds := ∅
          gMemoryBreakpoints := (s.removeAllMemoryBreakpoints env).1.bps.gMemoryBreakpoints
          engineBreakpoints := objects } := by
  unfold Session.removeAllBreakPoints
  split
  · split
    · rename_i hover
      rw [Bool.not_eq_true'] at hover
      exact .inr (.inl ⟨hover, rfl⟩)
    · exact .inl ⟨rfl, _, _, fun _ h => h, fun h => h, rfl⟩
  obtain ⟨watched, hwithin, hwatched⟩ := removeMemoryBreakpoints env s.bps.gMemoryBreakpoints.size s
  split <;> rename_i s₁ heq <;> rw [Session.removeAllMemoryBreakpoints] at heq <;> rw [heq] at hwatched
  · exact .inl ⟨rfl, _, watched, fun _ h => h, hwithin, hwatched⟩
  have hrecords : s₁.bps.gBreakpoints = s.bps.gBreakpoints := congrArg Holdings.gBreakpoints hwatched
  have hobjects : s₁.target.engineBreakpoints = s.target.engineBreakpoints :=
    congrArg Holdings.engineBreakpoints hwatched
  have hleft : s₁.bps.gMemoryBreakpoints = watched := congrArg Holdings.gMemoryBreakpoints hwatched
  obtain ⟨objects, hfewer, hholdings, hgone⟩ := removeEach env s₁.bps.gBreakpoints.toList s₁
  rw [hobjects] at hfewer
  rw [hwatched] at hholdings
  split <;> rename_i s₂ heach <;> rw [heach] at hholdings hgone
  · exact .inl ⟨rfl, objects, watched, hfewer, hwithin, hholdings⟩
  · refine .inr (.inr ⟨objects, fun bp hbp => ⟨hfewer bp hbp, fun id info hrecord hpatch => ?_⟩, ?_⟩)
    · rw [← hrecords] at hrecord
      exact hgone rfl (id, info) (Std.ExtTreeMap.mem_toList_iff_getElem?_eq_some.mpr hrecord) hpatch bp hbp
    · rw [Session.removeAllMemoryBreakpoints, heq, hleft]
      exact congrArg (fun h : Holdings => { h with
        gBreakpoints := ∅, gHardwareBreakpointIds := ∅ }) hholdings

theorem removeAllBreakPoints (env : Env) (s : Session) :
    CallTends env callback s (s.removeAllBreakPoints env).1 := by
  obtain ⟨watched, hwithin, hwatched⟩ := removeMemoryBreakpoints env s.bps.gMemoryBreakpoints.size s
  have hleft : (s.removeAllMemoryBreakpoints env).1.bps.gMemoryBreakpoints = watched :=
    congrArg Holdings.gMemoryBreakpoints hwatched
  rw [← hleft] at hwithin
  obtain ⟨-, objects, watched', hfewer, hwithin', hfailed⟩ | ⟨hover, hover'⟩ | ⟨objects, hgone, hcleared⟩ :=
    removeAllBreakPoints_outcome env s
  · exact .thinned hfewer hwithin' hfailed
  · exact .abandoned hover hover'
  · exact .cleared hwithin hgone hcleared

theorem setMemoryBPXEx (env : Env) (start size : ULONG_PTR) (type : ℕ) (restoreOnHit : Bool)
    (callback : Option Callback) (s : Session) :
    CallTends env callback s (s.setMemoryBPXEx env start size type restoreOnHit callback).1 := by
  have hjoin : ∀ (id : ULONG64) (pages : List ULONG_PTR) (s : Session),
      (Session.joinPages env id pages s).1.holdings = s.holdings := by
    intro id pages
    induction pages with
    | nil => exact fun s => rfl
    | cons page pages ih =>
      intro s
      have hpage : (s.joinPage env id page).1.holdings = s.holdings := by
        unfold Session.joinPage
        split
        · rfl
        split
        · rfl
        · exact Session.holdings_protectMemoryBreakpointPage env page true _
      unfold Session.joinPages
      split <;> rename_i heq <;> rw [heq] at hpage
      · exact (ih _).trans hpage
      · exact hpage
  unfold Session.setMemoryBPXEx
  split
  · exact .same rfl
  split
  · exact .same rfl
  rename_i type _
  split
  · exact .same rfl
  split
  · exact .same rfl
  split
  · exact .same rfl
  let info : MemoryBreakpointInfo :=
    ⟨s.bps.gNextMemoryBreakpointId, start, size, type, restoreOnHit, callback⟩
  have hentry : ∀ {id : ULONG64} {info' : MemoryBreakpointInfo},
      (s.bps.gMemoryBreakpoints.insertIfNew info.id info)[id]? = some info' →
        s.bps.gMemoryBreakpoints[id]? = some info' ∨ info'.callback = callback := by
    intro id info' h
    rcases MapSums.getElem?_insertIfNew_cases h with h | ⟨-, rfl⟩
    · exact .inl h
    · exact .inr rfl
  dsimp only
  split
  · split <;> rename_i s₁ heq <;> have hholdings := congrArg (fun r => r.1.holdings) heq <;>
      rw [Session.holdings_addMemoryWatchpoint] at hholdings <;> dsimp only at hholdings
    · exact .same hholdings.symm
    · refine .watching hentry ?_
      exact congrArg (fun h : Holdings => { h with
        gMemoryBreakpoints := h.gMemoryBreakpoints.insertIfNew info.id info }) hholdings.symm
  · split <;> rename_i s₁ heq <;> have hholdings := congrArg (fun r => r.1.holdings) heq <;>
      rw [hjoin] at hholdings
    · exact .watching hentry hholdings.symm
    · have hleft : ∀ {id : ULONG64} {info' : MemoryBreakpointInfo},
          ((s.bps.gMemoryBreakpoints.insertIfNew info.id info).erase info.id)[id]? = some info' →
            s.bps.gMemoryBreakpoints[id]? = some info' ∨ info'.callback = callback :=
        fun h => hentry (MapSums.getElem?_of_erase h)
      refine .watching hleft ?_
      exact congrArg (fun h : Holdings => { h with gMemoryBreakpoints := h.gMemoryBreakpoints.erase info.id })
        ((Session.holdings_leavePages ..).trans hholdings.symm)

theorem removeMemoryBPX (env : Env) (start size : ULONG_PTR) (s : Session) :
    CallTends env callback s (s.removeMemoryBPX env start size).1 := by
  unfold Session.removeMemoryBPX
  split
  · exact .same rfl
  split
  · exact .same rfl
  split
  · rename_i id _ _
    obtain ⟨watched, hwithin, hholdings⟩ := removeMemoryBreakpointById env id s
    exact .thinned (fun _ h => h) hwithin hholdings
  · exact .same rfl

theorem holdings_memoryReadUnsafe (env : Env) (process : HANDLE) (address : ULONG_PTR) (size : ℕ)
    (s : Session) : (s.memoryReadUnsafe env process address size).1.holdings = s.holdings := by
  have hexpose : ∀ (pages : List ULONG_PTR) (s : Session),
      (Session.exposePages env pages s).1.holdings = s.holdings := by
    intro pages
    induction pages with
    | nil => exact fun s => rfl
    | cons page pages ih =>
      intro s
      unfold Session.exposePages
      split
      · exact (ih _).trans (Session.holdings_protectMemoryBreakpointPage env page false s)
      · exact ih s
  have hguard : ∀ (pages : List ULONG_PTR) (s : Session),
      (Session.guardPages env pages s).holdings = s.holdings := by
    intro pages
    induction pages with
    | nil => exact fun s => rfl
    | cons page pages ih =>
      exact fun s => (ih _).trans (Session.holdings_protectMemoryBreakpointPage env page true s)
  unfold Session.memoryReadUnsafe
  dsimp only
  repeat' split
  all_goals first
    | rfl
    | exact (hguard _ _).trans (hexpose _ _)

theorem debugStep (env : Env) (kind : StepKind) (callback : Option Callback) (s : Session) :
    CallTends env callback s (s.debugStep env kind callback) := by
  unfold Session.debugStep
  split
  · exact .same rfl
  split
  · exact .same rfl
  split
  · exact .same rfl
  · exact .stepping rfl

theorem requestPause (env : Env) (callback : Option Callback) (s : Session) :
    CallTends env callback s (s.requestPause env callback).1 := by
  unfold Session.requestPause
  split
  · exact .same rfl
  split
  · exact .same rfl
  split
  · exact .same rfl
  split
  · exact .same rfl
  split
  · exact .pausing rfl
  · exact .same rfl

/-- Every call is of one of the shapes. -/
theorem run (env : Env) (call : ApiCall) (s : Session) : CallTends env call.callback s (call.run env s).1 := by
  cases call with
  | setBPX address bpxType callback => exact setBPX ..
  | deleteBPX address => exact deleteBPX ..
  | setBPXOptions type => exact .same rfl
  | setHardwareBreakPoint address reg bpxType bpxSize callback => exact setHardwareBreakPoint ..
  | deleteHardwareBreakPoint reg => exact deleteHardwareBreakPoint ..
  | removeAllBreakPoints => exact removeAllBreakPoints ..
  | setMemoryBPXEx start size type restoreOnHit callback => exact setMemoryBPXEx ..
  | removeMemoryBPX start size => exact removeMemoryBPX ..
  | memoryReadUnsafe process address size => exact .same (holdings_memoryReadUnsafe ..)
  | memoryReadSafe process address size =>
    have hread := holdings_memoryReadUnsafe env process address size s
    refine .same (Eq.trans ?_ hread)
    show (s.memoryReadSafe env process address size).1.holdings = _
    unfold Session.memoryReadSafe
    split <;> rename_i heq <;> rw [heq]
    split <;> rfl
  | memoryWriteSafe process address buffer =>
    refine .same ?_
    show (s.memoryWriteSafe env process address buffer).1.holdings = _
    unfold Session.memoryWriteSafe
    dsimp only
    repeat' split
    all_goals rfl
  | memoryProtectSafe address size protection =>
    refine .same ?_
    show (s.memoryProtectSafe env address size protection).1.holdings = _
    unfold Session.memoryProtectSafe
    repeat' split
    all_goals rfl
  | stepInto callback => exact debugStep ..
  | stepOver callback => exact debugStep ..
  | setNextDbgContinueStatus code =>
    refine .same ?_
    show (s.setNextDbgContinueStatus code).1.holdings = _
    unfold Session.setNextDbgContinueStatus
    split <;> rfl
  | requestPause callback => exact requestPause ..

end CallTends

end TitanEngine

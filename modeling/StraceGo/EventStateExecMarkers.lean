import StraceGo.EventStateDeferredExits

/-!
# Restart markers of execs

After its generic enter an exec sends an enter record without flags, for the
output of execs. The dispatch has no way of its own for such a record: it goes
the way of exits, where it never matches an enter. A session that lets unmatched
exits wait therefore stores it instead of handing it on, and hands it out again
at the end of its thread. A session that does not hands it on at once.
-/

namespace StraceGo.EventStateExecMarkers

open EventEnvelope FiniteMaps EventTaskLifecycle EventSyscallCorrelation EventState
  EventSyscallOwnership EventStateContents EventStateFrame EventStateRuns EventStateTimeline
  EventStateInterleaving EventStateDeferredExits

section Dispatch

/-- An enter record that is neither generic nor a fragment. -/
def IsMarker (record : TraceEventEnvelope) : Prop :=
  record.eventType=.enter ∧ record.syscallView.isGenericEnter=false ∧
    record.syscallView.isEnterFragment=false

/-- A marker is handed on: unmatched exits do not wait, or the enters of its syscall are elided. -/
def Passes (tables : SyscallTables) (config : SessionConfig) (record : TraceEventEnvelope) : Prop :=
  config.deferUnmatchedExits=false ∨
    (newTraceStateForSession config).shouldSynthesizeElidedPlainEnter tables record.sysID=true

/-- Markers of a run are handed on when they arrive, and are never stored or handed out later. -/
structure MarkersDelivered (tables : SyscallTables) (config : SessionConfig)
    (ops : List Operation) : Prop where
  /-- A marker is handed on by its own update. -/
  arrives : ∀ i record, recordAt ops i=some record → IsMarker record →
    ∃ update, updateAt tables config ops i=some update ∧
      dispatchedExits update=[record.syscallView]
  /-- Stored records are exits. -/
  stored : ∀ j tid e, (contentsAt tables config ops j).exits tid=some e → e.view.isExit=true
  /-- Records handed out later are exits. -/
  released : ∀ j update d, updateAt tables config ops j=some update →
    update.deferredExit=some d → d.syscallView.isExit=true

end Dispatch

section Markers

variable {p : Policy} {a : Contents} {record : TraceEventEnvelope}

/-- Markers go the way of exits. -/
theorem IsMarker.isEdgeRecord (h : IsMarker record) : isEdgeRecord record=true := by
  obtain ⟨htype,hgeneric,hfragment⟩ := h
  have hexit : record.syscallView.isExitFragment=false := by
    unfold SyscallEventView.isExitFragment SyscallEventView.isExit
    rw [show record.syscallView.eventType=.enter from htype]
    rfl
  have hsyscall : isSyscallRecord record=true := by
    unfold isSyscallRecord TraceEventEnvelope.isSignal TraceEventEnvelope.isLifecycle
    rw [htype]
    rfl
  unfold EventStateInterleaving.isEdgeRecord
  rw [hsyscall,hgeneric,hfragment,hexit]
  rfl

/-- Markers are no exits. -/
theorem IsMarker.not_isExit (h : IsMarker record) : record.syscallView.isExit=false := by
  unfold SyscallEventView.isExit
  rw [show record.syscallView.eventType=.enter from h.1]
  rfl

/-- Records on the way of exits that are no exits are markers. -/
theorem isMarker_of_isEdgeRecord (hedge : isEdgeRecord record=true)
    (hsupported : record.eventType≠.unsupportedABI) (hexit : record.syscallView.isExit=false) :
    IsMarker record := by
  unfold isEdgeRecord isSyscallRecord at hedge
  simp only [Bool.and_eq_true,Bool.not_eq_true'] at hedge
  obtain ⟨⟨⟨⟨hsignal,hlifecycle⟩,hgeneric⟩,hfragment⟩,-⟩ := hedge
  refine ⟨?_,hgeneric,hfragment⟩
  unfold SyscallEventView.isExit at hexit
  unfold TraceEventEnvelope.isSignal at hsignal
  unfold TraceEventEnvelope.isLifecycle at hlifecycle
  cases htype : record.eventType with
  | enter => rfl
  | exit =>
    rw [show record.syscallView.eventType=.exit from htype] at hexit
    exact absurd hexit (by decide)
  | lifecycle =>
    rw [htype] at hlifecycle
    exact absurd hlifecycle (by decide)
  | signal =>
    rw [htype] at hsignal
    exact absurd hsignal (by decide)
  | unsupportedABI => exact absurd htype hsupported

/-- A marker matches no open enter. -/
theorem matched_marker (h : IsMarker record) :
    (matched p a record.syscallView).2=
      if p.elided record.sysID then some (Contents.synthesizedValue record.syscallView)
      else none := by
  have hconsumed : (consume p a record.syscallView).2=none := by
    unfold consume Contents.consumedEnter
    dsimp only
    rw [if_pos h.not_isExit]
  unfold matched
  revert hconsumed
  rcases consume p a record.syscallView with ⟨b,value⟩
  rintro rfl
  rfl

/-- A marker is stored unless exits do not wait or its enter is elided. -/
theorem deferred_marker (htainted : p.tainted=false) (h : IsMarker record) :
    (handle p a record).2.deferred=(p.deferUnmatchedExits && !p.elided record.sysID) := by
  rw [handle_of_isEdgeRecord h.isEdgeRecord,handleExit_eq,matched_marker h,htainted]
  cases p.deferUnmatchedExits <;> cases p.elided record.sysID <;> simp

/-- What a record leaves stored was stored before, or is the record itself. -/
theorem exits_of_fates {out : Contents×Outcome} (h : Fates p a record out) {tid : UInt32}
    {e : ExitValue} (he : out.1.exits tid=some e) :
    a.exits tid=some e ∨ out.2.deferred=true ∧ isEdgeRecord record=true ∧
      e.view=record.syscallView := by
  cases hdeferred : out.2.deferred with
  | false =>
    rcases h.kept hdeferred tid with hkept | hnone
    · exact Or.inl (hkept.symm.trans he)
    · exact absurd (he.symm.trans hnone) (Option.some_ne_none e)
  | true =>
    obtain ⟨hedge,-,hexits⟩ := h.stored hdeferred
    rw [hexits] at he
    by_cases htid : tid=record.tid
    · rw [htid,Function.update_self] at he
      exact Or.inr ⟨rfl,hedge,by rw [←Option.some.inj he]⟩
    · rw [Function.update_of_ne htid] at he
      exact Or.inl he

/-- What a dispatched record leaves stored was stored before, or is the record itself. -/
theorem exits_handle (htainted : p.tainted=false) (hkeyed : Keyed a) {tid : UInt32} {e : ExitValue}
    (he : (handle p a record).1.exits tid=some e) :
    a.exits tid=some e ∨ (handle p a record).2.deferred=true ∧ isEdgeRecord record=true ∧
      e.view=record.syscallView := by
  by_cases hedge : isEdgeRecord record=true
  · by_cases hdefer : p.deferUnmatchedExits=true
    · exact exits_of_fates (handle_fates htainted hdefer hkeyed) he
    · rw [handle_of_isEdgeRecord hedge,handleExit_eq,if_neg fun h => hdefer h.2.1] at he
      dsimp only at he
      rw [exits_finish,exits_matched htainted] at he
      split_ifs at he
      exact Or.inl he
  · exact exits_of_fates (fates_of_not_edge htainted hkeyed (Bool.eq_false_iff.mpr hedge)) he

/-- What a dispatched record hands out was stored before. -/
theorem deferredExit_handle (htainted : p.tainted=false) (hkeyed : Keyed a) {d : DeferredValue}
    (hd : (handle p a record).2.deferredExit=some d) :
    ∃ e, a.exits record.tid=some e ∧ e.view=d.view := by
  by_cases hedge : isEdgeRecord record=true
  · rw [handle_of_isEdgeRecord hedge,handleExit_eq] at hd
    split_ifs at hd
  · exact ((fates_of_not_edge htainted hkeyed (Bool.eq_false_iff.mpr hedge)).returned d hd).2.1

end Markers

section Runs

variable {tables : SyscallTables} {config : SessionConfig} {ops : List Operation}

/-- A marker that passes is handed on by its own update. -/
theorem dispatchedExits_marker {i : ℕ} {record : TraceEventEnvelope} {update : TraceStateUpdate}
    (hrecord : recordAt ops i=some record) (hmarker : IsMarker record)
    (hupdate : updateAt tables config ops i=some update) :
    dispatchedExits update=
      if update.deferred then [] else [record.syscallView] := by
  have heq := updateAt_eq tables config hrecord
  rw [hupdate] at heq
  obtain ⟨hkind,hview⟩ := handleEnvelope_edge tables (systemAt tables config ops i).st
    hmarker.isEdgeRecord
  rw [←Option.some.inj heq] at hkind hview
  unfold dispatchedExits
  rw [hkind,hview]
  rfl

variable (hops : ∀ op∈ops, op.isTaint=false)
include hops

/-- The update of a marker says whether it passes. -/
theorem deferred_updateAt {i : ℕ} {record : TraceEventEnvelope} {update : TraceStateUpdate}
    (hrecord : recordAt ops i=some record) (hmarker : IsMarker record)
    (hupdate : updateAt tables config ops i=some update) :
    update.deferred=false ↔ Passes tables config record := by
  have houtcome := congrArg Outcome.deferred (outcome_updateAt hops hrecord hupdate)
  have hdeferred : update.deferred=(config.deferUnmatchedExits &&
      !(newTraceStateForSession config).shouldSynthesizeElidedPlainEnter tables record.sysID) :=
    houtcome.trans (deferred_marker rfl hmarker)
  unfold Passes
  rw [hdeferred]
  cases config.deferUnmatchedExits <;> simp

/-- Along a run whose markers pass, only exits are stored. -/
theorem stored_isExit (hsupported : ∀ i record, recordAt ops i=some record →
      record.eventType≠.unsupportedABI)
    (hpasses : ∀ i record, recordAt ops i=some record → IsMarker record →
      Passes tables config record) (j : ℕ) :
    ∀ tid e, (contentsAt tables config ops j).exits tid=some e → e.view.isExit=true := by
  induction j with
  | zero =>
    intro tid e he
    exact absurd he.symm (Option.some_ne_none e)
  | succ j ih =>
    intro tid e he
    cases hrecord : recordAt ops j with
    | none =>
      rw [exits_of_recordAt_none hops hrecord] at he
      exact ih tid e he
    | some record =>
      obtain ⟨hcontents,update,hupdate,houtcome⟩ := handle_contentsAt tables config hops j hrecord
      rw [hcontents] at he
      rcases exits_handle rfl (keyed_contentsAt tables config hops j) he with
        hbefore | ⟨hdeferred,hedge,hview⟩
      · exact ih tid e hbefore
      · rw [hview]
        by_contra hexit
        have hmarker := isMarker_of_isEdgeRecord hedge (hsupported j record hrecord)
          (Bool.eq_false_iff.mpr hexit)
        have hpass := (deferred_updateAt hops hrecord hmarker hupdate).mpr
          (hpasses j record hrecord hmarker)
        have hsame : update.deferred=true := (congrArg Outcome.deferred houtcome).trans hdeferred
        rw [hpass] at hsame
        exact Bool.false_ne_true hsame

end Runs

/-- In a run without losses every marker is handed on when it arrives, and no marker is stored or
handed out later, exactly when every marker of the run passes. -/
theorem markers_delivered_iff (tables : SyscallTables) (config : SessionConfig)
    (ops : List Operation) (hops : ∀ op∈ops, op.isTaint=false)
    (hsupported : ∀ i record, recordAt ops i=some record → record.eventType≠.unsupportedABI) :
    MarkersDelivered tables config ops ↔ ∀ i record, recordAt ops i=some record →
      IsMarker record → Passes tables config record := by
  constructor
  · intro h i record hrecord hmarker
    obtain ⟨update,hupdate,hdispatched⟩ := h.arrives i record hrecord hmarker
    rw [←deferred_updateAt hops hrecord hmarker hupdate]
    rw [dispatchedExits_marker hrecord hmarker hupdate] at hdispatched
    cases hdeferred : update.deferred with
    | false => rfl
    | true =>
      rw [hdeferred,if_pos rfl] at hdispatched
      exact absurd hdispatched.symm (List.cons_ne_nil _ _)
  · intro hpasses
    have hstored := stored_isExit hops hsupported hpasses
    refine ⟨?_,hstored,?_⟩
    · intro i record hrecord hmarker
      have hupdate := updateAt_eq tables config hrecord
      refine ⟨_,hupdate,?_⟩
      rw [dispatchedExits_marker hrecord hmarker hupdate,
        (deferred_updateAt hops hrecord hmarker hupdate).mpr (hpasses i record hrecord hmarker),
        if_neg Bool.false_ne_true]
    · intro j update d hupdate hd
      obtain ⟨record,hrecord,-⟩ := Option.map_eq_some_iff.mp hupdate
      have houtcome := congrArg Outcome.deferredExit (outcome_updateAt hops hrecord hupdate)
      unfold outcome at houtcome
      dsimp only at houtcome
      rw [hd,Option.map_some] at houtcome
      obtain ⟨e,he,hview⟩ := deferredExit_handle rfl (keyed_contentsAt tables config hops j)
        houtcome.symm
      dsimp only at hview
      rw [←hview]
      exact hstored j record.tid e he

/-- A session that does not let exits wait hands the marker of an exec on. -/
theorem markers_delivered_without_waiting :
    MarkersDelivered execTables {deferUnmatchedExits := false}
      [.handle (execRecord bpfEventFlagGenericEnter),.handle (execRecord 0)] := by
  have hsupported : ∀ i record,
      recordAt [.handle (execRecord bpfEventFlagGenericEnter),.handle (execRecord 0)] i=
        some record → record.eventType≠.unsupportedABI := by
    intro i record hrecord
    have hmem := List.mem_of_getElem? (getElem_of_recordAt hrecord)
    simp only [List.mem_cons,Operation.handle.injEq,List.not_mem_nil,or_false] at hmem
    rcases hmem with rfl | rfl <;> decide
  exact (markers_delivered_iff execTables {deferUnmatchedExits := false} _
    (by simp [Operation.isTaint]) hsupported).mpr fun _ _ _ _ => Or.inl rfl

/-- Exit of the sample exec. -/
def execReturn : TraceEventEnvelope where
  eventType := .exit
  pid := 7
  tid := 7
  sysID := 59
  enterTime := 100

/-- End of the sample exec's thread. -/
def execEnd : TraceEventEnvelope where
  eventType := .lifecycle
  lifecycleAction := lifecycleExit
  pid := 7
  tid := 7

/-- With waiting exits the marker of an exec is stored when it arrives, behind its own generic
enter, is still stored when the exec returns, and is handed out when its thread ends. -/
theorem marker_swallowed_until_end :
    let ops := [Operation.handle (execRecord bpfEventFlagGenericEnter),.handle (execRecord 0),
      .handle execReturn,.handle execEnd]
    ¬MarkersDelivered execTables {deferUnmatchedExits := true} ops ∧
      (updateAt execTables {deferUnmatchedExits := true} ops 1).map dispatchedExits=some [] ∧
      (updateAt execTables {deferUnmatchedExits := true} ops 2).map dispatchedExits=
        some [execReturn.syscallView] ∧
      (updateAt execTables {deferUnmatchedExits := true} ops 3).map dispatchedExits=
        some [(execRecord 0).syscallView] := by
  intro ops
  have hswallowed : (updateAt execTables {deferUnmatchedExits := true} ops 1).map
      dispatchedExits=some [] := by decide +kernel
  refine ⟨?_,hswallowed,by decide +kernel,by decide +kernel⟩
  intro h
  obtain ⟨update,hupdate,hdispatched⟩ := h.arrives 1 (execRecord 0) rfl ⟨rfl,rfl,rfl⟩
  rw [hupdate,Option.map_some,hdispatched] at hswallowed
  exact absurd (Option.some.inj hswallowed) (List.cons_ne_nil _ _)

end StraceGo.EventStateExecMarkers

import StraceGo.EventState
import StraceGo.EventSyscallOwnership

/-!
# Dispatch on contents

The dispatch of the session state, restated on the plain contents of the
correlation state: what each record leaves pending, and which enter its update
carries. The recycled cells refine this dispatch. Every handler keeps the
ownership invariant with the update's own cells added to those that are out,
and releasing the update takes them back.
-/

namespace StraceGo.EventStateContents

open EventEnvelope FiniteMaps ObjectPool EventPayloadStorage EventSyscallCorrelation
  EventTaskLifecycle EventUnfinishedState EventState EventSyscallOwnership

/-- What the dispatch reads besides the contents. -/
structure Policy where
  /-- A loss has been observed. -/
  tainted : Bool
  /-- Exits without an enter wait for it. -/
  deferUnmatchedExits : Bool
  /-- Whether a record's syscall ends its task. -/
  terminating : SyscallEventView → Bool
  /-- Whether the producer elides a syscall's enter. -/
  elided : UInt32 → Bool

/-- A stored exit released by a later record, as a value. -/
structure DeferredValue where
  /-- The exit record. -/
  view : SyscallEventView
  /-- The enter that released it. -/
  pendingEnter : Option EnterValue

/-- The correlation an update reports, as values. -/
structure Outcome where
  /-- The matching enter. -/
  pendingEnter : Option EnterValue := none
  /-- Whether the exit was stored. -/
  deferred : Bool := false
  /-- The stored exit that was released. -/
  deferredExit : Option DeferredValue := none

/-- Whether an enter cannot be the one of a record. -/
def mismatches (view : SyscallEventView) (data : SyscallEnterData) : Bool :=
  decide (data.enterTime≠view.enterTime ∨ data.args≠view.args)

section Dispatch

variable (p : Policy) (a : Contents)

/-- Contents an exit record is matched against. -/
def trusted (view : SyscallEventView) : Contents :=
  if p.tainted && (a.pending view.tid).any (mismatches view ·.toSyscallEnterData) then
    a.clearTask view.tid
  else a

/-- Consume the open enter of an exit record. -/
def consume (view : SyscallEventView) : Contents×Option EnterValue :=
  ((trusted p a view).consumeEnterEvent view,(trusted p a view).consumedEnter view)

/-- A terminating syscall clears its thread. -/
def finish (view : SyscallEventView) : Contents :=
  if p.terminating view then a.clearTask view.tid else a

/-- Join a stored exit with the enter that just arrived. -/
def attach (e : ExitValue) : Contents×Option DeferredValue :=
  match consume p a e.view with
  | (a,none) => (a,none)
  | (a,some v) => (finish p a e.view,some ⟨e.view,some v⟩)

/-- Contents an enter record is added to. -/
def entering (view : SyscallEventView) : Contents := if p.tainted then a.clearTask view.tid else a

/-- A generic enter record. -/
def handleEnter (view : SyscallEventView) (payload : List PayloadSection) : Contents×Outcome :=
  let a := (entering p a view).rememberEnterEvent view payload
  match a.takenExit view with
  | none => (a.setExit view.tid none,{})
  | some e =>
    let (a,deferredExit) := attach p (a.setExit view.tid none) e
    (a,{deferredExit := deferredExit})

/-- A partial record. -/
def handleFragment (view : SyscallEventView) (payload : List PayloadSection) : Contents :=
  if p.tainted && (a.pending view.tid).all (mismatches view ·.toSyscallEnterData) then a
  else a.rememberPayloadFragment view payload

/-- An exit record. -/
def handleExit (view : SyscallEventView) (payload : List PayloadSection) : Contents×Outcome :=
  match consume p a view with
  | (a,some v) => (finish p a view,{pendingEnter := some v})
  | (a,none) =>
    if p.elided view.sysID then
      (finish p a view,{pendingEnter := some (Contents.synthesizedValue view)})
    else if p.deferUnmatchedExits=true ∧ p.tainted=false then
      (a.setExit view.tid (some ⟨view,payload⟩),{deferred := true})
    else (finish p a view,{})

/-- Contents after the threads named by an exec record are dropped. -/
def execForgotten (view : LifecycleEventView) : Contents :=
  if p.tainted ∧ view.action=lifecycleExec then
    ((a.clearTask view.tid).clearTask view.args[0].toUInt32).clearTask view.args[1].toUInt32
  else a

/-- Contents after an exec record. -/
def execCleared (view : LifecycleEventView) : Contents :=
  if TraceState.movesThread view then (execForgotten p a view).clearTask (TraceState.execTID view)
  else execForgotten p a view

/-- A lifecycle record. -/
def handleLifecycle (view : LifecycleEventView) : Contents×Outcome :=
  let a := execCleared p a view
  if view.action≠lifecycleExit ∧ view.action≠lifecycleFree then (a,{})
  else
    let taken := a.setExit view.tid none
    (if view.tid=0 then taken else taken.clearTask view.tid,
      {deferredExit := (a.exits view.tid).map fun e => ⟨e.view,none⟩})

/-- A syscall record. -/
def handleSyscall (envelope : TraceEventEnvelope) : Contents×Outcome :=
  if envelope.syscallView.isGenericEnter then
    handleEnter p a envelope.syscallView envelope.payload
  else if envelope.syscallView.isEnterFragment then
    (handleFragment p a envelope.syscallView envelope.payload,{})
  else if envelope.syscallView.isExitFragment then
    (handleFragment p a envelope.syscallView envelope.payload,{})
  else handleExit p a envelope.syscallView envelope.payload

/-- Dispatch one record. -/
def handle (envelope : TraceEventEnvelope) : Contents×Outcome :=
  if envelope.isSignal then (a,{})
  else if envelope.isLifecycle then handleLifecycle p a envelope.lifecycleView
  else handleSyscall p a envelope

end Dispatch

/-- What the session's dispatch reads besides the contents. -/
def policy (tables : SyscallTables) (st : TraceState) : Policy where
  tainted := st.tainted
  deferUnmatchedExits := st.deferUnmatchedExits
  terminating := st.isTerminatingSyscall tables
  elided := st.shouldSynthesizeElidedPlainEnter tables

/-- Snapshots out while an update is out. -/
def updateLive (update : TraceStateUpdate) (live : Multiset Ref) : Multiset Ref :=
  withSnapshot update.pendingEnter
    (withSnapshot (update.deferredExit.bind (·.pendingEnter)) live)

/-- Loose storages while an update is out. -/
def updateLoose (update : TraceStateUpdate) (loose : Multiset Ref) : Multiset Ref :=
  owned (update.deferredExit.bind (·.payloadStorage))+loose

/-- The correlation an update reports, read through its snapshots. -/
def outcome (out : Ref → EnterValue) (update : TraceStateUpdate) : Outcome where
  pendingEnter := update.pendingEnter.map out
  deferred := update.deferred
  deferredExit := update.deferredExit.map fun d => ⟨d.syscallView,d.pendingEnter.map out⟩

theorem updateLive_of_none {update : TraceStateUpdate} (h : update.deferredExit=none)
    (live : Multiset Ref) : updateLive update live=withSnapshot update.pendingEnter live := by
  unfold updateLive
  rw [h]
  rfl

theorem updateLoose_of_none {update : TraceStateUpdate} (h : update.deferredExit=none)
    (loose : Multiset Ref) : updateLoose update loose=loose := by
  unfold updateLoose
  rw [h,Option.bind_none,owned_none_add]

/-- The report of an update can be read off the state while the update is out. -/
theorem outcome_snapshotAt {c : TraceSyscallCorrelationState} {update : TraceStateUpdate}
    {live loose : Multiset Ref} {out : Ref → EnterValue} {a : Contents}
    (h : Represents c (updateLive update live) loose out a) :
    outcome (snapshotAt c) update=outcome out update := by
  have hlive := h.out_eq
  unfold outcome
  unfold updateLive at hlive
  congr 1
  · cases hsnapshot : update.pendingEnter with
    | none => rfl
    | some ref =>
      rw [hsnapshot] at hlive
      rw [Option.map_some,Option.map_some,hlive ref (Multiset.mem_cons_self _ _)]
  · cases hexit : update.deferredExit with
    | none => rfl
    | some deferredExit =>
      rw [hexit,Option.bind_some] at hlive
      rw [Option.map_some,Option.map_some]
      cases hsnapshot : deferredExit.pendingEnter with
      | none => rfl
      | some ref =>
        rw [hsnapshot] at hlive
        have hmem : ref∈withSnapshot update.pendingEnter (withSnapshot (some ref) live) := by
          cases update.pendingEnter with
          | none => exact Multiset.mem_cons_self _ _
          | some other => exact Multiset.mem_cons_of_mem (Multiset.mem_cons_self _ _)
        rw [Option.map_some,Option.map_some,hlive ref hmem]

section Refinement

variable (tables : SyscallTables) {st : TraceState} {live loose : Multiset Ref}
  {out : Ref → EnterValue} {a : Contents}

omit tables in
theorem isStaleEnter_eq (h : Represents st.correlation live loose out a)
    (view : SyscallEventView) :
    st.isStaleEnter view=
      (st.tainted && (a.pending view.tid).any (mismatches view ·.toSyscallEnterData)) := by
  unfold TraceState.isStaleEnter
  rw [h.pending_eq,Option.any_map]
  rfl

/-- Matching an exit record. -/
theorem consumeEnterEvent_represents (h : Represents st.correlation live loose out a)
    (view : SyscallEventView) :
    Represents (st.consumeEnterEvent view).1.correlation
      (withSnapshot (st.consumeEnterEvent view).2 live) loose
      (withValue (st.consumeEnterEvent view).2 (consume (policy tables st) a view).2 out)
      (consume (policy tables st) a view).1 ∧
      (st.consumeEnterEvent view).2.isSome=(consume (policy tables st) a view).2.isSome := by
  have htrusted : Represents (if st.isStaleEnter view then st.correlation.clearTask view.tid
      else st.correlation) live loose out (trusted (policy tables st) a view) := by
    unfold trusted
    rw [isStaleEnter_eq h]
    change Represents _ _ _ _ (if st.tainted && _ then _ else _)
    split_ifs
    · exact h.clearTask view.tid
    · exact h
  exact htrusted.consumeEnterEvent view

omit tables in
theorem retireTask_correlation (tid : UInt32) :
    (st.retireTask tid).correlation=
      if tid=0 then st.correlation else st.correlation.clearTask tid := by
  unfold TraceState.retireTask
  split_ifs <;> rfl

theorem terminate_represents (h : Represents st.correlation live loose out a)
    (view : SyscallEventView) :
    Represents (st.terminate tables view).correlation live loose out (a.clearTask view.tid) :=
  h.clearTask view.tid

theorem consumeEnterEvent_policy (st : TraceState) (view : SyscallEventView) :
    policy tables (st.consumeEnterEvent view).1=policy tables st := rfl

theorem finish_represents (h : Represents st.correlation live loose out a)
    (view : SyscallEventView) :
    Represents (if st.isTerminatingSyscall tables view then st.terminate tables view
      else st).correlation live loose out (finish (policy tables st) a view) := by
  unfold finish
  change Represents _ _ _ _ (if st.isTerminatingSyscall tables view then _ else _)
  split_ifs
  · exact terminate_represents tables h view
  · exact h

/-- Joining a stored exit with its enter. -/
theorem attachDeferredExit_represents (st : TraceState) {pendingExit : PendingExitState}
    (e : ExitValue)
    (h : Represents st.correlation live (owned pendingExit.payloadStorage+loose) out a)
    (hview : e.view=pendingExit.view) :
    ∃ values, Represents (st.attachDeferredExit tables pendingExit).1.correlation
      (withSnapshot ((st.attachDeferredExit tables pendingExit).2.bind (·.pendingEnter)) live)
      (owned ((st.attachDeferredExit tables pendingExit).2.bind (·.payloadStorage))+loose)
      values (attach (policy tables st) a e).1 ∧
      (st.attachDeferredExit tables pendingExit).2.map
        (fun d => ⟨d.syscallView,d.pendingEnter.map values⟩)=
        (attach (policy tables st) a e).2 := by
  obtain ⟨hconsumed,hsome⟩ := consumeEnterEvent_represents tables h pendingExit.view
  have hpolicy := consumeEnterEvent_policy tables st pendingExit.view
  unfold TraceState.attachDeferredExit attach
  rw [hview]
  revert hconsumed hsome hpolicy
  rcases st.consumeEnterEvent pendingExit.view with ⟨next,snapshot⟩
  rcases consume (policy tables st) a pendingExit.view with ⟨b,value⟩
  intro hconsumed hsome hpolicy
  cases snapshot with
  | none =>
    cases value with
    | some v => exact nomatch hsome
    | none =>
      refine ⟨out,?_,rfl⟩
      have hreleased := hconsumed.releaseLoose
      change Represents _ _ (owned none+loose) _ _
      rw [owned_none_add]
      exact hreleased
  | some ref =>
    cases value with
    | none => exact nomatch hsome
    | some v =>
      refine ⟨Function.update out ref v,?_,?_⟩
      · have hfinished := finish_represents tables hconsumed pendingExit.view
        dsimp only at hpolicy hfinished ⊢
        rw [hpolicy] at hfinished
        exact hfinished
      · dsimp only
        rw [Option.map_some,Option.map_some,Function.update_self]

theorem rememberEnterEvent_represents (h : Represents st.correlation live loose out a)
    (view : SyscallEventView) (payload : List PayloadSection) :
    Represents (st.rememberEnterEvent tables view payload).correlation live loose out
      (a.rememberEnterEvent view payload) :=
  (h.rememberEnterEvent view payload).1

/-- Handling a generic enter record. -/
theorem handleSyscallEnter_represents (st : TraceState)
    (h : Represents st.correlation live loose out a)
    {update : TraceStateUpdate} (hfresh : update.pendingEnter=none ∧ update.deferred=false ∧
      update.deferredExit=none) (view : SyscallEventView) (payload : List PayloadSection) :
    ∃ values, Represents (st.handleSyscallEnter tables update view payload).1.correlation
      (updateLive (st.handleSyscallEnter tables update view payload).2 live)
      (updateLoose (st.handleSyscallEnter tables update view payload).2 loose) values
      (handleEnter (policy tables st) a view payload).1 ∧
      outcome values (st.handleSyscallEnter tables update view payload).2=
        (handleEnter (policy tables st) a view payload).2 := by
  obtain ⟨hpending,hdeferred,hexit⟩ := hfresh
  have hentering : Represents (if st.tainted then
      {st with correlation := st.correlation.clearTask view.tid} else st).correlation live loose out
      (entering (policy tables st) a view) := by
    unfold entering
    change Represents _ _ _ _ (if st.tainted then _ else _)
    split_ifs
    · exact h.clearTask view.tid
    · exact h
  have hentered := rememberEnterEvent_represents tables hentering view payload
  obtain ⟨htaken,hvalue⟩ := hentered.takePendingExit view
  have hpolicy : policy tables ((if st.tainted then
      {st with correlation := st.correlation.clearTask view.tid} else st).rememberEnterEvent
        tables view payload)=policy tables st := by
    split_ifs <;> rfl
  unfold TraceState.handleSyscallEnter handleEnter
  dsimp only
  revert htaken hvalue hpolicy
  generalize (if st.tainted then
      {st with correlation := st.correlation.clearTask view.tid} else st).rememberEnterEvent
        tables view payload=next
  generalize (entering (policy tables st) a view).rememberEnterEvent view payload=b
  rcases next.correlation.takePendingExit view with ⟨correlation,taken⟩
  intro htaken hvalue hpolicy
  cases taken with
  | none =>
    rw [Option.map_none] at hvalue
    rw [←hvalue]
    refine ⟨out,?_,?_⟩
    · unfold updateLive updateLoose
      dsimp only
      rw [hpending,hexit]
      exact htaken
    · unfold outcome
      dsimp only
      rw [hpending,hdeferred,hexit]
      rfl
  | some pendingExit =>
    rw [Option.map_some] at hvalue
    rw [←hvalue]
    obtain ⟨values,hattached,hresult⟩ := attachDeferredExit_represents tables
      {next with correlation := correlation}
      (exitValue next.correlation.payload pendingExit) htaken rfl
    have hsame : policy tables {next with correlation := correlation}=policy tables st := hpolicy
    rw [hsame] at hattached hresult
    refine ⟨values,?_,?_⟩
    · unfold updateLive updateLoose
      dsimp only
      rw [hpending]
      exact hattached
    · unfold outcome
      dsimp only
      rw [hpending,hdeferred,hresult]
      rfl

/-- Handling a partial record. -/
theorem rememberPayloadFragment_represents (st : TraceState)
    (h : Represents st.correlation live loose out a)
    (view : SyscallEventView) (payload : List PayloadSection) :
    Represents (st.rememberPayloadFragment view payload).correlation live loose out
      (handleFragment (policy tables st) a view payload) := by
  have hguard : (st.tainted=true ∧
      ((st.correlation.pendingSyscalls.lookup view.tid).all fun pending =>
        decide (pending.enterTime≠view.enterTime ∨ pending.args≠view.args))=true) ↔
      (st.tainted && (a.pending view.tid).all (mismatches view ·.toSyscallEnterData))=true := by
    rw [h.pending_eq,Option.all_map,Bool.and_eq_true]
    rfl
  unfold TraceState.rememberPayloadFragment handleFragment
  by_cases htainted : (st.tainted && (a.pending view.tid).all
      (mismatches view ·.toSyscallEnterData))=true
  · rw [if_pos (hguard.mpr htainted)]
    change Represents _ _ _ _ (if (st.tainted && _)=true then _ else _)
    rw [if_pos htainted]
    exact h
  · rw [if_neg (fun hboth => htainted (hguard.mp hboth))]
    change Represents _ _ _ _ (if (st.tainted && _)=true then _ else _)
    rw [if_neg htainted]
    exact h.rememberPayloadFragment view payload

/-- The enter an exit record is reported with. -/
def matched (p : Policy) (a : Contents) (view : SyscallEventView) : Contents×Option EnterValue :=
  match consume p a view with
  | (a,some v) => (a,some v)
  | (a,none) => (a,if p.elided view.sysID then some (Contents.synthesizedValue view) else none)

theorem handleExit_eq (p : Policy) (a : Contents) (view : SyscallEventView)
    (payload : List PayloadSection) :
    handleExit p a view payload=
      if (matched p a view).2=none ∧ p.deferUnmatchedExits=true ∧ p.tainted=false then
        ((matched p a view).1.setExit view.tid (some ⟨view,payload⟩),{deferred := true})
      else (finish p (matched p a view).1 view,{pendingEnter := (matched p a view).2}) := by
  unfold handleExit matched
  rcases consume p a view with ⟨b,value⟩
  cases value with
  | some v =>
    dsimp only
    rw [if_neg (fun h => nomatch h.1)]
  | none =>
    dsimp only
    by_cases helided : p.elided view.sysID=true
    · rw [if_pos helided,if_pos helided,if_neg (fun h => nomatch h.1)]
    · rw [if_neg helided,if_neg helided]
      by_cases hdefer : p.deferUnmatchedExits=true ∧ p.tainted=false
      · rw [if_pos hdefer,if_pos ⟨rfl,hdefer⟩]
      · rw [if_neg hdefer,if_neg (fun h => hdefer h.2)]

/-- Matching an exit record, with enters made up for the elided ones. -/
theorem matchEnter_represents (h : Represents st.correlation live loose out a)
    (view : SyscallEventView) :
    Represents (st.matchEnter tables view).1.correlation
      (withSnapshot (st.matchEnter tables view).2 live) loose
      (withValue (st.matchEnter tables view).2 (matched (policy tables st) a view).2 out)
      (matched (policy tables st) a view).1 ∧
      (st.matchEnter tables view).2.isSome=(matched (policy tables st) a view).2.isSome ∧
      policy tables (st.matchEnter tables view).1=policy tables st := by
  obtain ⟨hconsumed,hsome⟩ := consumeEnterEvent_represents tables h view
  have hpolicy := consumeEnterEvent_policy tables st view
  unfold TraceState.matchEnter matched
  revert hconsumed hsome hpolicy
  rcases st.consumeEnterEvent view with ⟨next,snapshot⟩
  rcases consume (policy tables st) a view with ⟨b,value⟩
  intro hconsumed hsome hpolicy
  cases snapshot with
  | some ref =>
    cases value with
    | none => exact nomatch hsome
    | some v => exact ⟨hconsumed,rfl,hpolicy⟩
  | none =>
    cases value with
    | some v => exact nomatch hsome
    | none =>
      have helided : (policy tables st).elided view.sysID=
          next.shouldSynthesizeElidedPlainEnter tables view.sysID := by
        rw [←hpolicy]
        rfl
      dsimp only
      rw [helided]
      split_ifs
      · exact ⟨hconsumed.synthesizeGenericEnter view,rfl,hpolicy⟩
      · exact ⟨hconsumed,rfl,hpolicy⟩

/-- Handling an exit record. -/
theorem handleSyscallExit_represents (st : TraceState)
    (h : Represents st.correlation live loose out a)
    {update : TraceStateUpdate} (hfresh : update.pendingEnter=none ∧ update.deferred=false ∧
      update.deferredExit=none) (view : SyscallEventView) (payload : List PayloadSection) :
    ∃ values, Represents (st.handleSyscallExit tables update view payload).1.correlation
      (updateLive (st.handleSyscallExit tables update view payload).2 live)
      (updateLoose (st.handleSyscallExit tables update view payload).2 loose) values
      (handleExit (policy tables st) a view payload).1 ∧
      outcome values (st.handleSyscallExit tables update view payload).2=
        (handleExit (policy tables st) a view payload).2 := by
  obtain ⟨hpending,hdeferred,hexit⟩ := hfresh
  obtain ⟨hmatched,hsome,hpolicy⟩ := matchEnter_represents tables h view
  rw [handleExit_eq]
  unfold TraceState.handleSyscallExit
  revert hmatched hsome hpolicy
  rcases st.matchEnter tables view with ⟨next,snapshot⟩
  rcases matched (policy tables st) a view with ⟨b,value⟩
  intro hmatched hsome hpolicy
  dsimp only at hmatched hsome hpolicy ⊢
  have hdefers : next.deferUnmatchedExits=(policy tables st).deferUnmatchedExits := by
    rw [←hpolicy]
    rfl
  have htainted : next.tainted=(policy tables st).tainted := by
    rw [←hpolicy]
    rfl
  rw [hdefers,htainted]
  cases snapshot with
  | none =>
    cases value with
    | some v => exact nomatch hsome
    | none =>
      by_cases hdefer : (policy tables st).deferUnmatchedExits=true ∧
        (policy tables st).tainted=false
      · rw [if_pos ⟨rfl,hdefer⟩,if_pos ⟨rfl,hdefer⟩]
        refine ⟨out,?_,?_⟩
        · rw [updateLive_of_none (by exact hexit),updateLoose_of_none (by exact hexit)]
          dsimp only
          rw [hpending]
          exact hmatched.rememberPendingExit view payload
        · unfold outcome
          dsimp only
          rw [hpending,hexit]
          rfl
      · have hcell : ¬((none : Option Ref)=none ∧ (policy tables st).deferUnmatchedExits=true ∧
            (policy tables st).tainted=false) := fun h => hdefer h.2
        have hvalue : ¬((none : Option EnterValue)=none ∧
            (policy tables st).deferUnmatchedExits=true ∧ (policy tables st).tainted=false) :=
          fun h => hdefer h.2
        rw [if_neg hcell,if_neg hvalue]
        have hfinished := finish_represents tables hmatched view
        rw [hpolicy] at hfinished
        refine ⟨out,?_,?_⟩
        · rw [updateLive_of_none (by exact hexit),updateLoose_of_none (by exact hexit)]
          exact hfinished
        · unfold outcome
          dsimp only
          rw [hdeferred,hexit]
          rfl
  | some ref =>
    cases value with
    | none => exact nomatch hsome
    | some v =>
      have hcell : ¬(some ref=none ∧ (policy tables st).deferUnmatchedExits=true ∧
          (policy tables st).tainted=false) := fun h => nomatch h.1
      have hvalue : ¬(some v=none ∧ (policy tables st).deferUnmatchedExits=true ∧
          (policy tables st).tainted=false) := fun h => nomatch h.1
      rw [if_neg hcell,if_neg hvalue]
      have hfinished := finish_represents tables hmatched view
      rw [hpolicy] at hfinished
      refine ⟨Function.update out ref v,?_,?_⟩
      · rw [updateLive_of_none (by exact hexit),updateLoose_of_none (by exact hexit)]
        exact hfinished
      · unfold outcome
        dsimp only
        rw [hdeferred,hexit,Option.map_some,Function.update_self]
        rfl

/-- Contents after the exec part of a lifecycle record. -/
theorem applyLifecycleEvent_represents (h : Represents st.correlation live loose out a)
    (view : LifecycleEventView) :
    Represents ((st.clearExecTasks view).applyLifecycleEvent view).1.correlation live loose out
      (execCleared (policy tables st) a view) ∧
      ((st.clearExecTasks view).applyLifecycleEvent view).1.tainted=st.tainted := by
  have hcleared : Represents (st.clearExecTasks view).correlation live loose out
      (execForgotten (policy tables st) a view) ∧ (st.clearExecTasks view).tainted=st.tainted := by
    unfold TraceState.clearExecTasks execForgotten
    by_cases hexec : st.tainted=true ∧ view.action=lifecycleExec
    · have hpolicy : (policy tables st).tainted=true ∧ view.action=lifecycleExec := hexec
      rw [if_pos hexec,if_pos hpolicy]
      exact ⟨((h.clearTask _).clearTask _).clearTask _,rfl⟩
    · have hpolicy : ¬((policy tables st).tainted=true ∧ view.action=lifecycleExec) := hexec
      rw [if_neg hexec,if_neg hpolicy]
      exact ⟨h,rfl⟩
  obtain ⟨hcleared,htainted⟩ := hcleared
  unfold TraceState.applyLifecycleEvent execCleared
  dsimp only
  split_ifs
  · exact ⟨hcleared.clearTask _,htainted⟩
  · exact ⟨hcleared,htainted⟩

omit tables in
/-- An exit or free record takes the stored exit of its thread. -/
theorem completeTask_represents (h : Represents st.correlation live loose out a)
    (view : LifecycleEventView) :
    Represents (st.completeTask view).1.correlation live
      (owned ((st.completeTask view).2.bind (·.payloadStorage))+loose) out
      (if view.tid=0 then a.setExit view.tid none
        else (a.setExit view.tid none).clearTask view.tid) ∧
      (st.completeTask view).2.map
        (fun d => (⟨d.syscallView,d.pendingEnter.map out⟩ : DeferredValue))=
        (a.exits view.tid).map (fun e => ⟨e.view,none⟩) ∧
      (st.completeTask view).2.bind (·.pendingEnter)=none := by
  obtain ⟨htaken,hvalue⟩ := h.takePendingExitForTID view.tid
  unfold TraceState.completeTask
  dsimp only
  rw [←hvalue]
  revert htaken
  rcases st.correlation.takePendingExitForTID view.tid with ⟨correlation,taken⟩
  intro htaken
  rw [retireTask_correlation]
  cases taken with
  | none =>
    refine ⟨?_,rfl,rfl⟩
    rw [takenHeld,zero_add] at htaken
    rw [Option.map_none,Option.bind_none,owned_none_add]
    split_ifs
    · exact htaken
    · exact htaken.clearTask _
  | some pending =>
    refine ⟨?_,rfl,rfl⟩
    split_ifs
    · exact htaken
    · exact htaken.clearTask _

/-- Handling a lifecycle record. -/
theorem handleLifecycleEnvelope_represents (st : TraceState)
    (h : Represents st.correlation live loose out a)
    (envelope : TraceEventEnvelope) (unfinished : List UnfinishedSyscallView) :
    Represents (st.handleLifecycleEnvelope envelope unfinished).1.correlation
      (updateLive (st.handleLifecycleEnvelope envelope unfinished).2 live)
      (updateLoose (st.handleLifecycleEnvelope envelope unfinished).2 loose) out
      (handleLifecycle (policy tables st) a envelope.lifecycleView).1 ∧
      outcome out (st.handleLifecycleEnvelope envelope unfinished).2=
        (handleLifecycle (policy tables st) a envelope.lifecycleView).2 := by
  obtain ⟨happlied,-⟩ := applyLifecycleEvent_represents tables h envelope.lifecycleView
  unfold TraceState.handleLifecycleEnvelope handleLifecycle
  dsimp only
  revert happlied
  rcases (st.clearExecTasks envelope.lifecycleView).applyLifecycleEvent envelope.lifecycleView with
    ⟨next,task,processInherit⟩
  intro happlied
  by_cases hlives : envelope.lifecycleView.action≠lifecycleExit ∧
      envelope.lifecycleView.action≠lifecycleFree
  · rw [if_pos hlives,if_pos hlives,updateLive_of_none rfl,updateLoose_of_none rfl]
    exact ⟨happlied,rfl⟩
  · rw [if_neg hlives,if_neg hlives]
    obtain ⟨hcompleted,hvalue,hnone⟩ := completeTask_represents happlied envelope.lifecycleView
    dsimp only at hcompleted hvalue hnone
    constructor
    · unfold updateLive updateLoose
      dsimp only
      rw [hnone]
      exact hcompleted
    · unfold outcome
      dsimp only
      rw [hvalue]
      rfl

/-- Handling a syscall record. -/
theorem handleSyscallEnvelope_represents (st : TraceState)
    (h : Represents st.correlation live loose out a)
    (envelope : TraceEventEnvelope) (unfinished : List UnfinishedSyscallView) :
    ∃ values, Represents (st.handleSyscallEnvelope tables envelope unfinished).1.correlation
      (updateLive (st.handleSyscallEnvelope tables envelope unfinished).2 live)
      (updateLoose (st.handleSyscallEnvelope tables envelope unfinished).2 loose) values
      (handleSyscall (policy tables st) a envelope).1 ∧
      outcome values (st.handleSyscallEnvelope tables envelope unfinished).2=
        (handleSyscall (policy tables st) a envelope).2 := by
  unfold TraceState.handleSyscallEnvelope handleSyscall
  dsimp only
  rcases st.lifecycle.resolveForkIdentity envelope.syscallView.tid envelope.syscallView.pid with
    ⟨lifecycle,processInherit⟩
  split_ifs
  · refine handleSyscallEnter_represents tables
      (TraceState.noteSyscallTask tables {st with lifecycle := lifecycle} envelope.syscallView)
      h ?_ envelope.syscallView envelope.payload
    exact ⟨rfl,rfl,rfl⟩
  · refine ⟨out,?_,rfl⟩
    rw [updateLive_of_none rfl,updateLoose_of_none rfl]
    exact rememberPayloadFragment_represents tables
      (TraceState.noteSyscallTask tables {st with lifecycle := lifecycle} envelope.syscallView) h
      envelope.syscallView envelope.payload
  · refine ⟨out,?_,rfl⟩
    rw [updateLive_of_none rfl,updateLoose_of_none rfl]
    exact rememberPayloadFragment_represents tables
      (TraceState.noteSyscallTask tables {st with lifecycle := lifecycle} envelope.syscallView) h
      envelope.syscallView envelope.payload
  · refine handleSyscallExit_represents tables {st with lifecycle := lifecycle} h ?_
      envelope.syscallView
      envelope.payload
    exact ⟨rfl,rfl,rfl⟩

/-- The dispatch refines the dispatch on contents, and its update is out with its own cells. -/
theorem handleEnvelope_represents (h : Represents st.correlation live loose out a)
    (envelope : TraceEventEnvelope) :
    ∃ values, Represents (st.handleEnvelope tables envelope).1.correlation
      (updateLive (st.handleEnvelope tables envelope).2 live)
      (updateLoose (st.handleEnvelope tables envelope).2 loose) values
      (handle (policy tables st) a envelope).1 ∧
      outcome values (st.handleEnvelope tables envelope).2=
        (handle (policy tables st) a envelope).2 := by
  unfold TraceState.handleEnvelope
  rcases st.unfinished.pendingForOtherTID tables envelope.tid st.correlation with
    ⟨candidates,unfinished⟩
  dsimp only
  unfold handle
  split_ifs
  · rw [updateLive_of_none rfl,updateLoose_of_none rfl]
    exact ⟨out,h,rfl⟩
  · exact ⟨out,handleLifecycleEnvelope_represents tables {st with unfinished := candidates}
      h envelope unfinished⟩
  · exact handleSyscallEnvelope_represents tables {st with unfinished := candidates} h envelope
      unfinished

omit tables in
/-- Releasing an update takes its cells back. -/
theorem releaseTraceStateUpdate_represents {update : TraceStateUpdate}
    (h : Represents st.correlation (updateLive update live) (updateLoose update loose) out a) :
    Represents (st.releaseTraceStateUpdate update).correlation live loose out a := by
  have hreleased := h.releasePendingSnapshot
  unfold TraceState.releaseTraceStateUpdate
  dsimp only
  cases hexit : update.deferredExit with
  | none =>
    rw [updateLoose_of_none hexit,hexit] at hreleased
    exact hreleased
  | some deferredExit =>
    unfold updateLoose at hreleased
    rw [hexit] at hreleased
    exact hreleased.releasePendingSnapshot.releaseLoose

end Refinement

end StraceGo.EventStateContents

import StraceGo.EventStateContents

/-!
# What the dispatch leaves alone

No record changes the session's configuration, its text mode or its taint, and
after a loss no record brings back an inferred fork. One frame relation says
so; it holds of every operation of the state and composes.
-/

namespace StraceGo.EventStateFrame

open EventEnvelope FiniteMaps ObjectPool EventPayloadStorage EventSyscallCorrelation
  EventTaskLifecycle EventUnfinishedState EventState EventStateContents

/-- Inference over forks is off and no fork waits for its child. -/
structure Blocked (st : TraceTaskLifecycleState) : Prop where
  /-- Inference is off. -/
  historyTainted : st.historyTainted=true
  /-- No fork waits. -/
  pendingForks : st.pendingForks=∅

section Lifecycle

variable {st : TraceTaskLifecycleState}

/-- Without waiting forks nothing is resolved. -/
theorem Blocked.resolveForkIdentity (h : Blocked st) (tid tgid : UInt32) :
    st.resolveForkIdentity tid tgid=(st,none) := by
  unfold TraceTaskLifecycleState.resolveForkIdentity
  rw [h.pendingForks,Finmap.lookup_empty]
  split_ifs <;> rfl

theorem Blocked.noteSyscallTask (h : Blocked st) (tables : SyscallTables)
    (view : SyscallEventView) : Blocked (st.noteSyscallTask tables view) := by
  unfold TraceTaskLifecycleState.noteSyscallTask
  split_ifs
  · exact h
  · exact ⟨h.historyTainted,h.pendingForks⟩

theorem Blocked.markLifecyclePending (h : Blocked st) (tid : UInt32) :
    Blocked (st.markLifecyclePending tid) := by
  unfold TraceTaskLifecycleState.markLifecyclePending
  split_ifs
  · exact h
  · exact ⟨h.historyTainted,h.pendingForks⟩

theorem Blocked.rememberLifecycleExit (h : Blocked st) (pid tid : UInt32) :
    Blocked (st.rememberLifecycleExit pid tid) := by
  unfold TraceTaskLifecycleState.rememberLifecycleExit
  dsimp only
  split_ifs
  all_goals exact ⟨h.historyTainted,h.pendingForks⟩

theorem Blocked.clearTask (h : Blocked st) (tid : UInt32) : Blocked (st.clearTask tid) := by
  refine ⟨h.historyTainted,?_⟩
  unfold TraceTaskLifecycleState.clearTask
  dsimp only
  rw [h.pendingForks]
  exact erase_eq_self (Finmap.lookup_empty tid)

theorem Blocked.retireTask (h : Blocked st) (tid : UInt32) : Blocked (st.retireTask tid) := by
  unfold TraceTaskLifecycleState.retireTask
  split_ifs
  · exact h
  · exact ⟨h.historyTainted,h.pendingForks⟩

/-- Writing a task record leaves the forks alone. -/
theorem Blocked.setTask (h : Blocked st) (tid : UInt32) (task : TaskState) :
    Blocked (st.setTask tid task) := ⟨h.historyTainted,h.pendingForks⟩

/-- After a loss a fork record relates no child. -/
theorem Blocked.applyFork (h : Blocked st) (view : LifecycleEventView) :
    Blocked (st.applyFork view).1 := by
  unfold TraceTaskLifecycleState.applyFork
  dsimp only
  have hforked : ∀ next : TraceTaskLifecycleState, Blocked next → ∀ childTID parentTGID tgid,
      Blocked ((if next.trackForkIdentity=true ∧ next.historyTainted=false then
        {next with pendingForks := next.pendingForks.insert childTID ⟨parentTGID⟩}
        else next).resolveForkIdentity childTID tgid).1 := by
    intro next hnext childTID parentTGID tgid
    rw [if_neg (fun hboth => by rw [hnext.historyTainted] at hboth; exact nomatch hboth.2),
      hnext.resolveForkIdentity]
    exact hnext
  apply hforked
  split_ifs
  · exact (h.setTask _ _).setTask _ _
  · exact h.setTask _ _

theorem Blocked.ensureExecTaskState (h : Blocked st) (oldTID tid tgid : UInt32) :
    Blocked (st.ensureExecTaskState oldTID tid tgid).1 := by
  unfold TraceTaskLifecycleState.ensureExecTaskState
  dsimp only
  by_cases hsame : oldTID=0 ∨ oldTID=tid
  · rw [if_pos hsame]
    exact h
  · rw [if_neg hsame]
    split
    all_goals exact ⟨h.historyTainted,h.pendingForks⟩

theorem Blocked.applyExec (h : Blocked st) (view : LifecycleEventView) :
    Blocked (st.applyExec view).1 := by
  unfold TraceTaskLifecycleState.applyExec
  dsimp only
  rw [h.resolveForkIdentity]
  exact (h.ensureExecTaskState _ _ _).setTask _ _

theorem Blocked.applyTaskExit (h : Blocked st) (view : LifecycleEventView) :
    Blocked (st.applyTaskExit view).1 := by
  unfold TraceTaskLifecycleState.applyTaskExit
  dsimp only
  rw [h.resolveForkIdentity]
  exact h.setTask _ _

theorem Blocked.applyUnknown (h : Blocked st) (view : LifecycleEventView) :
    Blocked (st.applyUnknown view).1 := by
  unfold TraceTaskLifecycleState.applyUnknown
  dsimp only
  rw [h.resolveForkIdentity]
  exact h.setTask _ _

/-- After a loss no lifecycle record brings back a fork. -/
theorem Blocked.applyLifecycleEvent (h : Blocked st) (view : LifecycleEventView) :
    Blocked (st.applyLifecycleEvent view).1 := by
  unfold TraceTaskLifecycleState.applyLifecycleEvent
  split_ifs
  · exact h
  · exact h.applyFork view
  · exact h.applyExec view
  · exact h.applyTaskExit view
  · exact h.applyUnknown view

end Lifecycle

/-- What every operation on a state leaves alone. -/
structure Keeps (st next : TraceState) : Prop where
  /-- The loss flag stays. -/
  tainted : next.tainted=st.tainted
  /-- The deferral mode stays. -/
  deferUnmatchedExits : next.deferUnmatchedExits=st.deferUnmatchedExits
  /-- The elision mode stays. -/
  elidePlainEnter : next.elidePlainEnter=st.elidePlainEnter
  /-- The elision restriction stays. -/
  elideNonBlockingPlainEnter : next.elideNonBlockingPlainEnter=st.elideNonBlockingPlainEnter
  /-- The terminating syscall numbers stay. -/
  lifecycleIDs : next.lifecycleIDs=st.lifecycleIDs
  /-- The text mode stays. -/
  enabled : next.unfinished.enabled=st.unfinished.enabled
  /-- Blocked inference stays blocked. -/
  blocked : Blocked st.lifecycle → Blocked next.lifecycle

section Frames

variable {st next last : TraceState}

theorem Keeps.refl (st : TraceState) : Keeps st st := ⟨rfl,rfl,rfl,rfl,rfl,rfl,id⟩

theorem Keeps.trans (h : Keeps st next) (h' : Keeps next last) : Keeps st last where
  tainted := h'.tainted.trans h.tainted
  deferUnmatchedExits := h'.deferUnmatchedExits.trans h.deferUnmatchedExits
  elidePlainEnter := h'.elidePlainEnter.trans h.elidePlainEnter
  elideNonBlockingPlainEnter := h'.elideNonBlockingPlainEnter.trans h.elideNonBlockingPlainEnter
  lifecycleIDs := h'.lifecycleIDs.trans h.lifecycleIDs
  enabled := h'.enabled.trans h.enabled
  blocked := fun hblocked => h'.blocked (h.blocked hblocked)

/-- Kept states dispatch by the same policy. -/
theorem Keeps.policy (h : Keeps st next) (tables : SyscallTables) :
    EventStateContents.policy tables next=EventStateContents.policy tables st := by
  unfold EventStateContents.policy TraceState.isTerminatingSyscall
    TraceState.shouldSynthesizeElidedPlainEnter
  rw [h.tainted,h.deferUnmatchedExits,h.elidePlainEnter,h.elideNonBlockingPlainEnter,
    h.lifecycleIDs]

end Frames

section Operations

variable (tables : SyscallTables) (st : TraceState)

theorem keeps_rememberEnterEvent (view : SyscallEventView) (payload : List PayloadSection) :
    Keeps st (st.rememberEnterEvent tables view payload) := by
  refine ⟨rfl,rfl,rfl,rfl,rfl,?_,id⟩
  unfold TraceState.rememberEnterEvent
  dsimp only
  split_ifs
  · rw [TraceUnfinishedState.enqueue_enabled,TraceUnfinishedState.deleteCandidate_enabled]
  · rfl

theorem keeps_rememberPayloadFragment (view : SyscallEventView) (payload : List PayloadSection) :
    Keeps st (st.rememberPayloadFragment view payload) := by
  unfold TraceState.rememberPayloadFragment
  split_ifs
  · exact .refl st
  · exact ⟨rfl,rfl,rfl,rfl,rfl,rfl,id⟩

theorem keeps_consumeEnterEvent (view : SyscallEventView) :
    Keeps st (st.consumeEnterEvent view).1 :=
  ⟨rfl,rfl,rfl,rfl,rfl,TraceUnfinishedState.deleteCandidate_enabled _ _,id⟩

theorem keeps_clearTaskPending (tid : UInt32) : Keeps st (st.clearTaskPending tid) :=
  ⟨rfl,rfl,rfl,rfl,rfl,TraceUnfinishedState.deleteCandidate_enabled _ _,
    fun h => h.clearTask tid⟩

theorem keeps_retireTask (tid : UInt32) : Keeps st (st.retireTask tid) := by
  unfold TraceState.retireTask
  split_ifs
  · exact .refl st
  · exact (keeps_clearTaskPending st tid).trans
      ⟨rfl,rfl,rfl,rfl,rfl,rfl,fun h => h.retireTask tid⟩

theorem keeps_noteSyscallTask (view : SyscallEventView) :
    Keeps st (st.noteSyscallTask tables view) :=
  ⟨rfl,rfl,rfl,rfl,rfl,rfl,fun h => h.noteSyscallTask tables view⟩

theorem keeps_terminate (view : SyscallEventView) : Keeps st (st.terminate tables view) := by
  unfold TraceState.terminate
  apply Keeps.trans _ (keeps_clearTaskPending _ _)
  exact ⟨rfl,rfl,rfl,rfl,rfl,rfl,fun h => h.markLifecyclePending view.tid⟩

theorem keeps_finish (view : SyscallEventView) :
    Keeps st (if st.isTerminatingSyscall tables view then st.terminate tables view else st) := by
  split_ifs
  · exact keeps_terminate tables st view
  · exact .refl st

theorem keeps_setCorrelation (correlation : TraceSyscallCorrelationState) :
    Keeps st {st with correlation := correlation} := ⟨rfl,rfl,rfl,rfl,rfl,rfl,id⟩

theorem keeps_applyLifecycleEvent (view : LifecycleEventView) :
    Keeps st (st.applyLifecycleEvent view).1 := by
  have hmoved : Keeps st (if TraceState.movesThread view then
      st.clearTaskPending (TraceState.execTID view) else st) := by
    split_ifs
    · exact keeps_clearTaskPending st _
    · exact .refl st
  exact hmoved.trans ⟨rfl,rfl,rfl,rfl,rfl,rfl,fun h => h.applyLifecycleEvent view⟩

theorem keeps_clearExecTasks (view : LifecycleEventView) : Keeps st (st.clearExecTasks view) := by
  unfold TraceState.clearExecTasks
  split_ifs
  · exact ((keeps_clearTaskPending _ _).trans (keeps_clearTaskPending _ _)).trans
      (keeps_clearTaskPending _ _)
  · exact .refl st

theorem keeps_completeTask (view : LifecycleEventView) :
    Keeps st (st.completeTask view).1 := by
  unfold TraceState.completeTask
  apply Keeps.trans _ (keeps_retireTask _ _)
  exact ⟨rfl,rfl,rfl,rfl,rfl,rfl,fun h =>
    ⟨(h.rememberLifecycleExit view.pid view.tid).historyTainted,
      (h.rememberLifecycleExit view.pid view.tid).pendingForks⟩⟩

theorem keeps_handleLifecycleEnvelope (envelope : TraceEventEnvelope)
    (unfinished : List UnfinishedSyscallView) :
    Keeps st (st.handleLifecycleEnvelope envelope unfinished).1 := by
  have happlied := (keeps_clearExecTasks st envelope.lifecycleView).trans
    (keeps_applyLifecycleEvent _ envelope.lifecycleView)
  unfold TraceState.handleLifecycleEnvelope
  dsimp only
  by_cases hlives : envelope.lifecycleView.action≠lifecycleExit ∧
      envelope.lifecycleView.action≠lifecycleFree
  · rw [if_pos hlives]
    exact happlied
  · rw [if_neg hlives]
    exact happlied.trans (keeps_completeTask _ _)

theorem keeps_attachDeferredExit (pendingExit : PendingExitState) :
    Keeps st (st.attachDeferredExit tables pendingExit).1 := by
  have hconsumed := keeps_consumeEnterEvent st pendingExit.view
  unfold TraceState.attachDeferredExit
  revert hconsumed
  rcases st.consumeEnterEvent pendingExit.view with ⟨next,snapshot⟩
  intro hconsumed
  cases snapshot with
  | none => exact hconsumed.trans (keeps_setCorrelation _ _)
  | some ref => exact hconsumed.trans (keeps_finish tables _ _)

theorem keeps_handleSyscallEnter (update : TraceStateUpdate) (view : SyscallEventView)
    (payload : List PayloadSection) :
    Keeps st (st.handleSyscallEnter tables update view payload).1 := by
  have hentering : Keeps st (if st.tainted then
      {st with correlation := st.correlation.clearTask view.tid} else st) := by
    split_ifs
    · exact keeps_setCorrelation st _
    · exact .refl st
  have hentered := hentering.trans (keeps_rememberEnterEvent tables _ view payload)
  unfold TraceState.handleSyscallEnter
  dsimp only
  revert hentered
  generalize (if st.tainted then
      {st with correlation := st.correlation.clearTask view.tid} else st).rememberEnterEvent
        tables view payload=next
  intro hentered
  rcases next.correlation.takePendingExit view with ⟨correlation,taken⟩
  cases taken with
  | none => exact hentered.trans (keeps_setCorrelation _ _)
  | some pendingExit =>
    exact (hentered.trans (keeps_setCorrelation _ correlation)).trans
      (keeps_attachDeferredExit tables _ _)

theorem keeps_matchEnter (view : SyscallEventView) :
    Keeps st (st.matchEnter tables view).1 := by
  have hconsumed := keeps_consumeEnterEvent st view
  unfold TraceState.matchEnter
  revert hconsumed
  rcases st.consumeEnterEvent view with ⟨next,snapshot⟩
  intro hconsumed
  cases snapshot with
  | some ref => exact hconsumed
  | none =>
    dsimp only
    split_ifs
    · exact hconsumed.trans (keeps_setCorrelation _ _)
    · exact hconsumed.trans (keeps_noteSyscallTask tables _ view)

theorem keeps_handleSyscallExit (update : TraceStateUpdate) (view : SyscallEventView)
    (payload : List PayloadSection) :
    Keeps st (st.handleSyscallExit tables update view payload).1 := by
  have hmatched := keeps_matchEnter tables st view
  unfold TraceState.handleSyscallExit
  revert hmatched
  rcases st.matchEnter tables view with ⟨next,snapshot⟩
  intro hmatched
  dsimp only
  by_cases hdefer : snapshot=none ∧ next.deferUnmatchedExits=true ∧ next.tainted=false
  · rw [if_pos hdefer]
    exact hmatched.trans (keeps_setCorrelation _ _)
  · rw [if_neg hdefer]
    exact hmatched.trans (keeps_finish tables _ view)

theorem keeps_handleSyscallEnvelope (envelope : TraceEventEnvelope)
    (unfinished : List UnfinishedSyscallView) :
    Keeps st (st.handleSyscallEnvelope tables envelope unfinished).1 := by
  have hresolved : Keeps st {st with lifecycle := (st.lifecycle.resolveForkIdentity
      envelope.syscallView.tid envelope.syscallView.pid).1} := by
    refine ⟨rfl,rfl,rfl,rfl,rfl,rfl,fun h => ?_⟩
    dsimp only
    rw [h.resolveForkIdentity]
    exact h
  have hnoted := hresolved.trans (keeps_noteSyscallTask tables _ envelope.syscallView)
  unfold TraceState.handleSyscallEnvelope
  dsimp only
  split_ifs
  · exact hnoted.trans (keeps_handleSyscallEnter tables _ _ _ _)
  · exact hnoted.trans (keeps_rememberPayloadFragment _ _ _)
  · exact hnoted.trans (keeps_rememberPayloadFragment _ _ _)
  · exact hresolved.trans (keeps_handleSyscallExit tables _ _ _ _)

/-- Offering candidates leaves the text mode. -/
theorem pendingForOtherTID_enabled (unfinished : TraceUnfinishedState) (tid : UInt32)
    (c : TraceSyscallCorrelationState) :
    (unfinished.pendingForOtherTID tables tid c).1.enabled=unfinished.enabled := by
  unfold TraceUnfinishedState.pendingForOtherTID
  split_ifs
  · rfl
  · generalize unfinished.unqueued.filter (fun other => decide (other≠tid))=order
    have hoffered : ∀ acc : TraceUnfinishedState×List UnfinishedSyscallView,
        (order.foldl (TraceUnfinishedState.offer tables c) acc).1.enabled=acc.1.enabled := by
      induction order with
      | nil => exact fun _ => rfl
      | cons other rest ih =>
        intro acc
        rw [List.foldl_cons,ih]
        unfold TraceUnfinishedState.offer
        split
        · exact TraceUnfinishedState.deleteCandidate_enabled _ _
        · rfl
    exact hoffered (unfinished,[])

/-- No record changes the configuration, and none brings back an inferred fork. -/
theorem keeps_handleEnvelope (envelope : TraceEventEnvelope) :
    Keeps st (st.handleEnvelope tables envelope).1 := by
  have hoffered : Keeps st {st with unfinished :=
      (st.unfinished.pendingForOtherTID tables envelope.tid st.correlation).1} :=
    ⟨rfl,rfl,rfl,rfl,rfl,pendingForOtherTID_enabled tables _ _ _,id⟩
  unfold TraceState.handleEnvelope
  dsimp only
  split_ifs
  · exact hoffered
  · exact hoffered.trans (keeps_handleLifecycleEnvelope _ _ _)
  · exact hoffered.trans (keeps_handleSyscallEnvelope tables _ _ _)

theorem keeps_releaseTraceStateUpdate (update : TraceStateUpdate) :
    Keeps st (st.releaseTraceStateUpdate update) := by
  unfold TraceState.releaseTraceStateUpdate
  dsimp only
  split
  · exact keeps_setCorrelation st _
  · exact keeps_setCorrelation st _

end Operations

end StraceGo.EventStateFrame

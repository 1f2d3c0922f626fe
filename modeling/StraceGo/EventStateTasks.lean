import StraceGo.EventStateTimeline
import StraceGo.StepHistories

/-!
# What a record does to the task state

The dispatch restated on the task state alone: which fork a record resolves,
which task it shows alive, which termination it reports and which task it
ends. Liveness, waiting terminations and unresolved forks follow, each as a
flag that some records set and others reset.
-/

namespace StraceGo.EventStateTasks

open EventEnvelope FiniteMaps ObjectPool EventPayloadStorage EventSyscallCorrelation
  EventTaskLifecycle EventUnfinishedState EventState EventSyscallOwnership EventStateContents
  EventStateFrame EventStateRuns EventStateInterleaving EventStateTimeline StepHistories

/-- The exit a record reports: its own, or the stored one it releases. -/
def handledExit (record : TraceEventEnvelope) (update : TraceStateUpdate) :
    Option SyscallEventView :=
  if isGenericEnterRecord record then update.deferredExit.map (·.syscallView)
  else if isEdgeRecord record ∧ update.deferred=false then some record.syscallView
  else none

/-- A syscall record shows its task alive; an exit does so only without an enter. -/
def notesTask (record : TraceEventEnvelope) (update : TraceStateUpdate) : Prop :=
  isSyscallRecord record=true ∧ (isEdgeRecord record=true → update.pendingEnter=none)

instance (record : TraceEventEnvelope) (update : TraceStateUpdate) :
    Decidable (notesTask record update) := inferInstanceAs (Decidable (_ ∧ (_ → _)))

section Dispatch

variable (tables : SyscallTables) (terminating : SyscallEventView → Bool)
  (l : TraceTaskLifecycleState)

/-- Task state after a reported exit. -/
def settleExit : Option SyscallEventView → TraceTaskLifecycleState
  | none => l
  | some view =>
    if terminating view then (l.markLifecyclePending view.tid).clearTask view.tid else l

/-- Task state after the task of an exit or free record is completed. -/
def completed (view : LifecycleEventView) : TraceTaskLifecycleState :=
  let l := (l.rememberLifecycleExit view.pid view.tid).clearLifecyclePending view.tid
  if view.tid=0 then l else (l.clearTask view.tid).retireTask view.tid

/-- Task state before a lifecycle record is applied. -/
def execPrepared (view : LifecycleEventView) : TraceTaskLifecycleState :=
  if TraceState.movesThread view then l.clearTask (TraceState.execTID view) else l

/-- Task state after a lifecycle record, and the process state it hands on. -/
def lifecycleTasks (view : LifecycleEventView) :
    TraceTaskLifecycleState×Option ProcessStateInheritance :=
  let applied := (execPrepared l view).applyLifecycleEvent view
  (if view.action≠lifecycleExit ∧ view.action≠lifecycleFree then applied.1
    else completed applied.1 view,applied.2.2)

/-- Task state after a syscall record, and the process state it hands on. -/
def syscallTasks (record : TraceEventEnvelope) (update : TraceStateUpdate) :
    TraceTaskLifecycleState×Option ProcessStateInheritance :=
  let resolved := l.resolveForkIdentity record.syscallView.tid record.syscallView.pid
  let noted := if notesTask record update then resolved.1.noteSyscallTask tables record.syscallView
    else resolved.1
  (settleExit terminating noted (handledExit record update),resolved.2)

/-- Task state after a record, and the process state it hands on. -/
def nextTasks (record : TraceEventEnvelope) (update : TraceStateUpdate) :
    TraceTaskLifecycleState×Option ProcessStateInheritance :=
  if record.isSignal then (l,none)
  else if record.isLifecycle then lifecycleTasks l record.lifecycleView
  else syscallTasks tables terminating l record update

end Dispatch

section Refinement

variable (tables : SyscallTables) (st : TraceState)

theorem retireTask_lifecycle (tid : UInt32) :
    (st.retireTask tid).lifecycle=
      if tid=0 then st.lifecycle else (st.lifecycle.clearTask tid).retireTask tid := by
  unfold TraceState.retireTask
  split_ifs <;> rfl

theorem completeTask_lifecycle (view : LifecycleEventView) :
    (st.completeTask view).1.lifecycle=completed st.lifecycle view := by
  unfold TraceState.completeTask completed
  dsimp only
  rw [retireTask_lifecycle]

theorem applyLifecycleEvent_lifecycle (view : LifecycleEventView) :
    (st.applyLifecycleEvent view).1.lifecycle=
        ((execPrepared st.lifecycle view).applyLifecycleEvent view).1 ∧
      (st.applyLifecycleEvent view).2.2=
        ((execPrepared st.lifecycle view).applyLifecycleEvent view).2.2 := by
  unfold TraceState.applyLifecycleEvent execPrepared
  split_ifs <;> exact ⟨rfl,rfl⟩

/-- A lifecycle record acts on the task state as restated. -/
theorem handleLifecycleEnvelope_tasks (htainted : st.tainted=false)
    (record : TraceEventEnvelope) (unfinished : List UnfinishedSyscallView) :
    ((st.handleLifecycleEnvelope record unfinished).1.lifecycle,
      (st.handleLifecycleEnvelope record unfinished).2.processInherit)=
      lifecycleTasks st.lifecycle record.lifecycleView := by
  have hforgotten : st.clearExecTasks record.lifecycleView=st := by
    unfold TraceState.clearExecTasks
    rw [if_neg fun h => Bool.false_ne_true (htainted ▸ h.1)]
  obtain ⟨hlifecycle,hinherit⟩ := applyLifecycleEvent_lifecycle st record.lifecycleView
  have hkept : (st.applyLifecycleEvent record.lifecycleView).1.tainted=false :=
    (keeps_applyLifecycleEvent st record.lifecycleView).tainted.trans htainted
  unfold TraceState.handleLifecycleEnvelope lifecycleTasks
  dsimp only
  rw [hforgotten,hkept]
  by_cases hlives : record.lifecycleView.action≠lifecycleExit ∧
      record.lifecycleView.action≠lifecycleFree
  · rw [if_pos hlives,if_pos hlives,←hlifecycle,←hinherit]
    rfl
  · rw [if_neg hlives,if_neg hlives,completeTask_lifecycle,←hlifecycle,←hinherit]
    rfl

theorem terminate_lifecycle (view : SyscallEventView) :
    (st.terminate tables view).lifecycle=
      (st.lifecycle.markLifecyclePending view.tid).clearTask view.tid := rfl

theorem finish_lifecycle (view : SyscallEventView) :
    (if st.isTerminatingSyscall tables view then st.terminate tables view else st).lifecycle=
      settleExit (st.isTerminatingSyscall tables) st.lifecycle (some view) := by
  unfold settleExit
  dsimp only
  split_ifs
  · exact terminate_lifecycle tables st view
  · rfl

/-- Joining a stored exit with its enter settles the exit if the enter was there. -/
theorem attachDeferredExit_lifecycle (pendingExit : PendingExitState) :
    (st.attachDeferredExit tables pendingExit).1.lifecycle=
      settleExit (st.isTerminatingSyscall tables) st.lifecycle
        ((st.attachDeferredExit tables pendingExit).2.map (·.syscallView)) := by
  have hlifecycle : (st.consumeEnterEvent pendingExit.view).1.lifecycle=st.lifecycle := rfl
  have hterminating : (st.consumeEnterEvent pendingExit.view).1.isTerminatingSyscall tables=
      st.isTerminatingSyscall tables := rfl
  unfold TraceState.attachDeferredExit
  revert hlifecycle hterminating
  rcases st.consumeEnterEvent pendingExit.view with ⟨next,snapshot⟩
  intro hlifecycle hterminating
  cases snapshot with
  | none => exact hlifecycle
  | some ref =>
    dsimp only at hlifecycle hterminating ⊢
    rw [finish_lifecycle,hlifecycle,hterminating]
    rfl

/-- A generic enter record settles the stored exit it releases. -/
theorem handleSyscallEnter_lifecycle (htainted : st.tainted=false) (update : TraceStateUpdate)
    (hfresh : update.deferredExit=none) (view : SyscallEventView) (payload : List PayloadSection) :
    (st.handleSyscallEnter tables update view payload).1.lifecycle=
        settleExit (st.isTerminatingSyscall tables) st.lifecycle
          ((st.handleSyscallEnter tables update view payload).2.deferredExit.map (·.syscallView)) ∧
      (st.handleSyscallEnter tables update view payload).2.processInherit=
        update.processInherit := by
  have hlifecycle : (st.rememberEnterEvent tables view payload).lifecycle=st.lifecycle := rfl
  have hterminating : (st.rememberEnterEvent tables view payload).isTerminatingSyscall tables=
      st.isTerminatingSyscall tables := rfl
  unfold TraceState.handleSyscallEnter
  dsimp only
  rw [if_neg (fun h => Bool.false_ne_true (htainted ▸ h))]
  revert hlifecycle hterminating
  generalize st.rememberEnterEvent tables view payload=next
  intro hlifecycle hterminating
  rcases next.correlation.takePendingExit view with ⟨correlation,taken⟩
  cases taken with
  | none =>
    refine ⟨?_,rfl⟩
    dsimp only
    rw [hfresh]
    exact hlifecycle
  | some pendingExit =>
    refine ⟨?_,rfl⟩
    have hattached := attachDeferredExit_lifecycle tables
      {next with correlation := correlation} pendingExit
    have hsame : TraceState.isTerminatingSyscall tables {next with correlation := correlation}=
      st.isTerminatingSyscall tables := hterminating
    dsimp only at hattached ⊢
    rw [hattached,hsame,hlifecycle]

theorem rememberPayloadFragment_lifecycle (view : SyscallEventView)
    (payload : List PayloadSection) :
    (st.rememberPayloadFragment view payload).lifecycle=st.lifecycle := by
  unfold TraceState.rememberPayloadFragment
  split_ifs <;> rfl

/-- Matching an exit record notes its task if there is no enter. -/
theorem matchEnter_lifecycle (view : SyscallEventView) :
    (st.matchEnter tables view).1.lifecycle=
      if (st.matchEnter tables view).2=none then st.lifecycle.noteSyscallTask tables view
      else st.lifecycle := by
  have hlifecycle : (st.consumeEnterEvent view).1.lifecycle=st.lifecycle := rfl
  unfold TraceState.matchEnter
  revert hlifecycle
  rcases st.consumeEnterEvent view with ⟨next,snapshot⟩
  intro hlifecycle
  cases snapshot with
  | some ref => exact hlifecycle
  | none =>
    dsimp only at hlifecycle ⊢
    by_cases helided : next.shouldSynthesizeElidedPlainEnter tables view.sysID=true
    · simp only [helided,if_true]
      exact hlifecycle
    · simp only [helided,Bool.false_eq_true,if_false,if_true]
      rw [←hlifecycle]
      rfl

/-- An exit record notes its task if it has no enter, and is settled unless it is stored. -/
theorem handleSyscallExit_lifecycle (update : TraceStateUpdate) (hfresh : update.deferred=false)
    (hnone : update.pendingEnter=none) (view : SyscallEventView) (payload : List PayloadSection) :
    (st.handleSyscallExit tables update view payload).1.lifecycle=
        settleExit (st.isTerminatingSyscall tables)
          (if (st.handleSyscallExit tables update view payload).2.pendingEnter=none then
            st.lifecycle.noteSyscallTask tables view else st.lifecycle)
          (if (st.handleSyscallExit tables update view payload).2.deferred=false then some view
            else none) ∧
      (st.handleSyscallExit tables update view payload).2.processInherit=
        update.processInherit := by
  have hlifecycle := matchEnter_lifecycle tables st view
  have hterminating : (st.matchEnter tables view).1.isTerminatingSyscall tables=
      st.isTerminatingSyscall tables :=
    congrArg Policy.terminating ((keeps_matchEnter tables st view).policy tables)
  unfold TraceState.handleSyscallExit
  revert hlifecycle hterminating
  rcases st.matchEnter tables view with ⟨next,snapshot⟩
  intro hlifecycle hterminating
  dsimp only at hlifecycle hterminating ⊢
  by_cases hdefer : snapshot=none ∧ next.deferUnmatchedExits=true ∧ next.tainted=false
  · simp only [if_pos hdefer,hnone,if_true,Bool.true_eq_false,if_false,and_true]
    rw [hlifecycle,if_pos hdefer.1]
    rfl
  · simp only [if_neg hdefer,hfresh,if_true,and_true]
    rw [finish_lifecycle,hterminating,hlifecycle]

omit tables st in
theorem syscallTasks_of_notes {tables : SyscallTables} {terminating : SyscallEventView → Bool}
    {l : TraceTaskLifecycleState} {record : TraceEventEnvelope} {update : TraceStateUpdate}
    (hnotes : notesTask record update) :
    syscallTasks tables terminating l record update=
      (settleExit terminating ((l.resolveForkIdentity record.syscallView.tid
          record.syscallView.pid).1.noteSyscallTask tables record.syscallView)
        (handledExit record update),
       (l.resolveForkIdentity record.syscallView.tid record.syscallView.pid).2) := by
  unfold syscallTasks
  dsimp only
  rw [if_pos hnotes]

/-- The update of a syscall record before its handler fills it in. -/
def resolvedUpdate (record : TraceEventEnvelope) (unfinished : List UnfinishedSyscallView) :
    TraceStateUpdate where
  syscallView := some record.syscallView
  processInherit := (st.lifecycle.resolveForkIdentity record.syscallView.tid
    record.syscallView.pid).2
  unfinished := unfinished

/-- The state after the fork of a syscall record's thread is resolved. -/
def resolvedState (record : TraceEventEnvelope) : TraceState :=
  {st with lifecycle := (st.lifecycle.resolveForkIdentity record.syscallView.tid
    record.syscallView.pid).1}

theorem handleSyscallEnvelope_eq (record : TraceEventEnvelope)
    (unfinished : List UnfinishedSyscallView) :
    st.handleSyscallEnvelope tables record unfinished=
      if record.syscallView.isGenericEnter then
        ((resolvedState st record).noteSyscallTask tables record.syscallView).handleSyscallEnter
          tables (resolvedUpdate st record unfinished) record.syscallView record.payload
      else if record.syscallView.isEnterFragment || record.syscallView.isExitFragment then
        ((resolvedState st record).noteSyscallTask tables record.syscallView).handleSyscallFragment
          (resolvedUpdate st record unfinished) record.syscallView record.payload
      else (resolvedState st record).handleSyscallExit tables (resolvedUpdate st record unfinished)
        record.syscallView record.payload := by
  unfold TraceState.handleSyscallEnvelope
  dsimp only
  cases record.syscallView.isGenericEnter <;> cases record.syscallView.isEnterFragment <;>
    cases record.syscallView.isExitFragment <;> rfl

/-- A syscall record acts on the task state as restated. -/
theorem handleSyscallEnvelope_tasks (htainted : st.tainted=false) {record : TraceEventEnvelope}
    (hsyscall : isSyscallRecord record=true) (unfinished : List UnfinishedSyscallView) :
    ((st.handleSyscallEnvelope tables record unfinished).1.lifecycle,
      (st.handleSyscallEnvelope tables record unfinished).2.processInherit)=
      syscallTasks tables (st.isTerminatingSyscall tables) st.lifecycle record
        (st.handleSyscallEnvelope tables record unfinished).2 := by
  rw [handleSyscallEnvelope_eq]
  by_cases hgeneric : record.syscallView.isGenericEnter=true
  · have hrecord : isGenericEnterRecord record=true := by
      simp [isGenericEnterRecord,hsyscall,hgeneric]
    have hedge : isEdgeRecord record=false := by simp [isEdgeRecord,hgeneric]
    rw [if_pos hgeneric,syscallTasks_of_notes ⟨hsyscall,fun h => by rw [hedge] at h; cases h⟩]
    obtain ⟨hentered,hinherit⟩ := handleSyscallEnter_lifecycle tables
      ((resolvedState st record).noteSyscallTask tables record.syscallView) htainted
      (resolvedUpdate st record unfinished) rfl record.syscallView record.payload
    rw [hentered,hinherit]
    unfold handledExit
    rw [if_pos hrecord]
    rfl
  · have hrecord : isGenericEnterRecord record=false := by
      simp [isGenericEnterRecord,hsyscall,hgeneric]
    rw [if_neg hgeneric]
    by_cases hfragment : (record.syscallView.isEnterFragment ||
        record.syscallView.isExitFragment)=true
    · have hedge : isEdgeRecord record=false := by
        unfold isEdgeRecord
        rw [Bool.and_assoc,←Bool.not_or,hfragment,Bool.not_true,Bool.and_false]
      rw [if_pos hfragment,
        syscallTasks_of_notes ⟨hsyscall,fun h => by rw [hedge] at h; cases h⟩]
      unfold handledExit TraceState.handleSyscallFragment
      rw [rememberPayloadFragment_lifecycle,hrecord,hedge]
      rfl
    · have hedge : isEdgeRecord record=true := by
        unfold isEdgeRecord
        rw [Bool.and_assoc,←Bool.not_or,Bool.not_eq_true _ |>.mp hfragment,hsyscall,
          Bool.not_eq_true _ |>.mp hgeneric]
        rfl
      rw [if_neg hfragment]
      obtain ⟨hexited,hinherit⟩ := handleSyscallExit_lifecycle tables (resolvedState st record)
        (resolvedUpdate st record unfinished) rfl rfl record.syscallView record.payload
      rw [hexited,hinherit]
      unfold syscallTasks handledExit notesTask
      simp only [hsyscall,hrecord,hedge,true_and,forall_const,if_false,Bool.false_eq_true]
      rfl

/-- Every record acts on the task state as restated. -/
theorem handleEnvelope_tasks (htainted : st.tainted=false) (record : TraceEventEnvelope) :
    ((st.handleEnvelope tables record).1.lifecycle,
      (st.handleEnvelope tables record).2.processInherit)=
      nextTasks tables (st.isTerminatingSyscall tables) st.lifecycle record
        (st.handleEnvelope tables record).2 := by
  unfold TraceState.handleEnvelope nextTasks
  dsimp only
  by_cases hsignal : record.isSignal=true
  · rw [if_pos hsignal,if_pos hsignal]
  · rw [if_neg hsignal,if_neg hsignal]
    by_cases hlifecycle : record.isLifecycle=true
    · rw [if_pos hlifecycle,if_pos hlifecycle]
      exact handleLifecycleEnvelope_tasks {st with unfinished :=
        (st.unfinished.pendingForOtherTID tables record.tid st.correlation).1} htainted record _
    · rw [if_neg hlifecycle,if_neg hlifecycle]
      have hsyscall : isSyscallRecord record=true := by simp [isSyscallRecord,hsignal,hlifecycle]
      exact handleSyscallEnvelope_tasks tables {st with unfinished :=
        (st.unfinished.pendingForOtherTID tables record.tid st.correlation).1} htainted hsyscall _

end Refinement

/-- A lifecycle record. -/
def isLifecycleRecord (record : TraceEventEnvelope) : Bool :=
  !record.isSignal && record.isLifecycle

/-- A record shows a thread alive: its own task, the survivor of an exec, or both sides of a
fork when forks are tracked. -/
def showsAlive (tables : SyscallTables) (tracked : Bool) (record : TraceEventEnvelope)
    (update : TraceStateUpdate) (x : UInt32) : Prop :=
  (notesTask record update ∧ record.syscallView.tid≠0 ∧
    x=taskTIDForSyscall tables record.syscallView) ∨
  (isLifecycleRecord record=true ∧ record.lifecycleView.action=lifecycleExec ∧
    x=TraceState.execTID record.lifecycleView) ∨
  (isLifecycleRecord record=true ∧ record.lifecycleView.action=lifecycleFork ∧
    (x=TraceTaskLifecycleState.forkParentTID record.lifecycleView ∨
      tracked=true ∧ x=record.lifecycleView.args[1].toUInt32))

/-- An exit or free record of a thread. -/
def endsTask (record : TraceEventEnvelope) (x : UInt32) : Prop :=
  isLifecycleRecord record=true ∧ (record.lifecycleView.action=lifecycleExit ∨
    record.lifecycleView.action=lifecycleFree) ∧ x=record.lifecycleView.tid

/-- An exec record that moves a thread to another number. -/
def movesTask (record : TraceEventEnvelope) (x : UInt32) : Prop :=
  isLifecycleRecord record=true ∧ TraceState.movesThread record.lifecycleView ∧
    x=record.lifecycleView.args[0].toUInt32

/-- Whether the task table has a thread alive. -/
def isAlive (l : TraceTaskLifecycleState) (x : UInt32) : Prop :=
  (l.tasks.lookup x).any (·.alive)=true

section Cases

variable (l : TraceTaskLifecycleState)

/-- The four ways of a lifecycle record. -/
theorem lifecycleTasks_cases (view : LifecycleEventView) :
    view.action=lifecycleFork ∧
        lifecycleTasks l view=((l.applyFork view).1,(l.applyFork view).2.2) ∨
      view.action=lifecycleExec ∧ lifecycleTasks l view=
        (((execPrepared l view).applyExec view).1,((execPrepared l view).applyExec view).2.2) ∨
      (view.action=lifecycleExit ∨ view.action=lifecycleFree) ∧ lifecycleTasks l view=
        (completed (l.applyTaskExit view).1 view,(l.applyTaskExit view).2.2) ∨
      (view.action≠lifecycleFork ∧ view.action≠lifecycleExec ∧ view.action≠lifecycleExit ∧
        view.action≠lifecycleFree) ∧
        ((view.action=lifecycleUnknownDetach ∨ view.action=lifecycleUnknownExit) ∧
            lifecycleTasks l view=(l,none) ∨
          ¬(view.action=lifecycleUnknownDetach ∨ view.action=lifecycleUnknownExit) ∧
            lifecycleTasks l view=((l.applyUnknown view).1,(l.applyUnknown view).2.2)) := by
  have hprepared : view.action≠lifecycleExec → execPrepared l view=l := by
    intro h
    unfold execPrepared
    rw [if_neg fun hmoves => h hmoves.1]
  unfold lifecycleTasks TraceTaskLifecycleState.applyLifecycleEvent
  by_cases hfork : view.action=lifecycleFork
  · left
    rw [hprepared (by rw [hfork]; decide)]
    simp [hfork,lifecycleFork,lifecycleExit,lifecycleFree,lifecycleUnknownDetach,
      lifecycleUnknownExit]
  · by_cases hexec : view.action=lifecycleExec
    · right; left
      simp [hexec,lifecycleFork,lifecycleExec,lifecycleExit,lifecycleFree,lifecycleUnknownDetach,
        lifecycleUnknownExit]
    · rw [hprepared hexec]
      by_cases hends : view.action=lifecycleExit ∨ view.action=lifecycleFree
      · right; right; left
        rcases hends with hends | hends <;>
          simp [hends,lifecycleFork,lifecycleExec,lifecycleExit,lifecycleFree,
            lifecycleUnknownDetach,lifecycleUnknownExit]
      · right; right; right
        obtain ⟨hexit,hfree⟩ := not_or.mp hends
        refine ⟨⟨hfork,hexec,hexit,hfree⟩,?_⟩
        by_cases hunknown : view.action=lifecycleUnknownDetach ∨ view.action=lifecycleUnknownExit
        · left
          exact ⟨hunknown,by simp [hunknown,hexit,hfree]⟩
        · right
          exact ⟨hunknown,by simp [hunknown,hfork,hexec,hexit,hfree]⟩

end Cases

section Liveness

variable (tables : SyscallTables) (l : TraceTaskLifecycleState) (x : UInt32)

theorem isAlive_setTask (tid : UInt32) (task : TaskState) :
    isAlive (l.setTask tid task) x ↔ x=tid ∧ task.alive=true ∨ x≠tid ∧ isAlive l x := by
  unfold isAlive TraceTaskLifecycleState.setTask
  dsimp only
  rw [lookup_insert_ite]
  by_cases h : x=tid
  · simp [h]
  · simp [h]

theorem isAlive_setTask_alive {tid : UInt32} {task : TaskState} (h : task.alive=true) :
    isAlive (l.setTask tid task) x ↔ x=tid ∨ isAlive l x := by
  rw [isAlive_setTask,h]
  by_cases hx : x=tid <;> simp [hx]

/-- Resolving a fork touches the unresolved forks only. -/
theorem resolveForkIdentity_frame (tid tgid : UInt32) :
    (l.resolveForkIdentity tid tgid).1={l with pendingForks :=
      (l.resolveForkIdentity tid tgid).1.pendingForks} := by
  unfold TraceTaskLifecycleState.resolveForkIdentity
  split_ifs <;> cases l.pendingForks.lookup tid <;> rfl

theorem resolveForkIdentity_tasks (tid tgid : UInt32) :
    (l.resolveForkIdentity tid tgid).1.tasks=l.tasks := by
  rw [resolveForkIdentity_frame]

theorem isAlive_resolveForkIdentity (tid tgid : UInt32) :
    isAlive (l.resolveForkIdentity tid tgid).1 x ↔ isAlive l x := by
  unfold isAlive
  rw [resolveForkIdentity_tasks]

theorem isAlive_noteSyscallTask (view : SyscallEventView) :
    isAlive (l.noteSyscallTask tables view) x ↔
      view.tid≠0 ∧ x=taskTIDForSyscall tables view ∨ isAlive l x := by
  unfold TraceTaskLifecycleState.noteSyscallTask
  by_cases h : view.tid=0
  · simp [h]
  · rw [if_neg h]
    dsimp only
    rw [isAlive_setTask_alive l x rfl]
    simp [h]

theorem settleExit_tasks (terminating : SyscallEventView → Bool)
    (exit : Option SyscallEventView) : (settleExit terminating l exit).tasks=l.tasks := by
  cases exit with
  | none => rfl
  | some view =>
    unfold settleExit TraceTaskLifecycleState.markLifecyclePending
    dsimp only
    split_ifs <;> rfl

/-- A fork record writes the forking task and, when forks are tracked, the forked one. -/
theorem applyFork_tasks (view : LifecycleEventView) :
    (l.applyFork view).1.tasks=if l.trackForkIdentity then
        (l.tasks.insert (TraceTaskLifecycleState.forkParentTID view) (l.forkParent view)).insert
          view.args[1].toUInt32 (l.applyFork view).2.1
      else l.tasks.insert (TraceTaskLifecycleState.forkParentTID view) (l.forkParent view) := by
  unfold TraceTaskLifecycleState.applyFork
  dsimp only
  rw [resolveForkIdentity_tasks]
  unfold TraceTaskLifecycleState.setTask
  cases l.trackForkIdentity <;> cases l.historyTainted <;> rfl

theorem applyFork_child_alive (view : LifecycleEventView) :
    (l.applyFork view).2.1.alive=true := rfl

theorem isAlive_applyFork (view : LifecycleEventView) :
    isAlive (l.applyFork view).1 x ↔
      (x=TraceTaskLifecycleState.forkParentTID view ∨
        l.trackForkIdentity=true ∧ x=view.args[1].toUInt32) ∨ isAlive l x := by
  have hparent : (l.forkParent view).alive=true := rfl
  unfold isAlive
  rw [applyFork_tasks]
  cases l.trackForkIdentity with
  | false =>
    rw [if_neg Bool.false_ne_true,lookup_insert_ite]
    by_cases hx : x=TraceTaskLifecycleState.forkParentTID view <;> simp [hx,hparent]
  | true =>
    rw [if_pos rfl,lookup_insert_ite,lookup_insert_ite]
    by_cases hchild : x=view.args[1].toUInt32
    · simp [hchild,applyFork_child_alive]
    · rw [if_neg hchild]
      by_cases hx : x=TraceTaskLifecycleState.forkParentTID view <;> simp [hchild,hx,hparent]

theorem execPrepared_tasks (view : LifecycleEventView) :
    (execPrepared l view).tasks=l.tasks := by
  unfold execPrepared
  split_ifs <;> rfl

/-- Finding the survivor of an exec drops the number it left. -/
theorem ensureExecTaskState_frame (oldTID tid tgid : UInt32) :
    (l.ensureExecTaskState oldTID tid tgid).1={l with tasks :=
      if oldTID=0 ∨ oldTID=tid then l.tasks else l.tasks.erase oldTID} := by
  unfold TraceTaskLifecycleState.ensureExecTaskState
  by_cases hsame : oldTID=0 ∨ oldTID=tid
  · rw [if_pos hsame,if_pos hsame]
  · rw [if_neg hsame,if_neg hsame]
    cases l.tasks.lookup tid <;> cases l.tasks.lookup oldTID <;> rfl

/-- Thread whose fork an exec record resolves. -/
def execIdentity (view : LifecycleEventView) : UInt32 :=
  if view.args[0].toUInt32≠0 then view.args[0].toUInt32 else TraceState.execTID view

theorem applyExec_frame (view : LifecycleEventView) :
    (l.applyExec view).1=
      ((l.resolveForkIdentity (execIdentity view) view.pid).1.ensureExecTaskState
        view.args[0].toUInt32 (TraceState.execTID view) view.pid).1.setTask
          (TraceState.execTID view) (l.applyExec view).2.1 := rfl

/-- An exec record writes the surviving task and drops the number it left. -/
theorem applyExec_tasks (view : LifecycleEventView) :
    (l.applyExec view).1.tasks=
      (if view.args[0].toUInt32=0 ∨ view.args[0].toUInt32=TraceState.execTID view then l.tasks
        else l.tasks.erase view.args[0].toUInt32).insert (TraceState.execTID view)
        (l.applyExec view).2.1 := by
  rw [applyExec_frame,ensureExecTaskState_frame]
  unfold TraceTaskLifecycleState.setTask
  dsimp only
  rw [resolveForkIdentity_tasks]

theorem applyExec_survivor_alive (view : LifecycleEventView) :
    (l.applyExec view).2.1.alive=true := rfl

theorem isAlive_applyExec (view : LifecycleEventView) :
    isAlive (l.applyExec view).1 x ↔ x=TraceState.execTID view ∨
      isAlive l x ∧ ¬(view.args[0].toUInt32≠0 ∧ view.args[0].toUInt32≠TraceState.execTID view ∧
        x=view.args[0].toUInt32) := by
  unfold isAlive
  rw [applyExec_tasks,lookup_insert_ite]
  by_cases hx : x=TraceState.execTID view
  · simp [hx,applyExec_survivor_alive]
  · rw [if_neg hx]
    by_cases hsame : view.args[0].toUInt32=0 ∨ view.args[0].toUInt32=TraceState.execTID view
    · rw [if_pos hsame]
      simp only [hx,false_or]
      refine ⟨fun h => ⟨h,fun hmoved => ?_⟩,And.left⟩
      exact hsame.elim hmoved.1 hmoved.2.1
    · rw [if_neg hsame,lookup_erase_ite]
      obtain ⟨hzero,hself⟩ := not_or.mp hsame
      by_cases hold : x=view.args[0].toUInt32 <;> simp [hx,hold,hzero,hself]

theorem isAlive_applyTaskExit (view : LifecycleEventView) :
    isAlive (l.applyTaskExit view).1 x ↔ x≠view.tid ∧ isAlive l x := by
  unfold TraceTaskLifecycleState.applyTaskExit
  dsimp only
  rw [isAlive_setTask,isAlive_resolveForkIdentity]
  simp

theorem isAlive_applyUnknown (view : LifecycleEventView) :
    isAlive (l.applyUnknown view).1 x ↔ isAlive l x := by
  unfold TraceTaskLifecycleState.applyUnknown
  dsimp only
  rw [isAlive_setTask,isAlive_resolveForkIdentity]
  by_cases h : x=view.tid
  · unfold TraceTaskLifecycleState.ensuredTask isAlive
    rw [resolveForkIdentity_tasks,h]
    cases l.tasks.lookup view.tid <;> split_ifs <;> simp
  · simp [h]

theorem rememberLifecycleExit_tasks (pid tid : UInt32) :
    (l.rememberLifecycleExit pid tid).tasks=l.tasks := by
  unfold TraceTaskLifecycleState.rememberLifecycleExit
  split_ifs <;> rfl

/-- Completing a task drops its number. -/
theorem completed_tasks (view : LifecycleEventView) :
    (completed l view).tasks=if view.tid=0 then l.tasks else l.tasks.erase view.tid := by
  unfold completed TraceTaskLifecycleState.retireTask
  dsimp only
  by_cases hzero : view.tid=0
  · rw [if_pos hzero,if_pos hzero]
    exact rememberLifecycleExit_tasks l _ _
  · rw [if_neg hzero,if_neg hzero,if_neg hzero]
    exact congrArg (Finmap.erase view.tid) (rememberLifecycleExit_tasks l _ _)

theorem isAlive_completed (view : LifecycleEventView) (h : ¬isAlive l view.tid) :
    isAlive (completed l view) x ↔ isAlive l x := by
  unfold isAlive
  rw [completed_tasks]
  split_ifs
  · rfl
  · rw [lookup_erase_ite]
    by_cases hx : x=view.tid
    · rw [if_pos hx,hx]
      exact iff_of_false Bool.false_ne_true h
    · rw [if_neg hx]

/-- What a lifecycle record leaves alive. -/
theorem isAlive_lifecycleTasks (view : LifecycleEventView) :
    isAlive (lifecycleTasks l view).1 x ↔
      (view.action=lifecycleExec ∧ x=TraceState.execTID view ∨
        view.action=lifecycleFork ∧ (x=TraceTaskLifecycleState.forkParentTID view ∨
          l.trackForkIdentity=true ∧ x=view.args[1].toUInt32)) ∨
      isAlive l x ∧ ¬((view.action=lifecycleExit ∨ view.action=lifecycleFree) ∧ x=view.tid ∨
        TraceState.movesThread view ∧ x=view.args[0].toUInt32) := by
  rcases lifecycleTasks_cases l view with ⟨haction,htasks⟩ | ⟨haction,htasks⟩ | ⟨haction,htasks⟩ |
    ⟨⟨hfork,hexec,hexit,hfree⟩,htasks⟩
  · rw [htasks,isAlive_applyFork]
    simp [haction,TraceState.movesThread,lifecycleFork,lifecycleExec,lifecycleExit,lifecycleFree]
  · rw [htasks,isAlive_applyExec]
    have hprepared : isAlive (execPrepared l view) x ↔ isAlive l x := by
      unfold isAlive
      rw [execPrepared_tasks]
    rw [hprepared]
    simp [haction,TraceState.movesThread,lifecycleFork,lifecycleExec,lifecycleExit,lifecycleFree]
  · have hdead : ¬isAlive (l.applyTaskExit view).1 view.tid := by
      rw [isAlive_applyTaskExit]
      exact fun h => h.1 rfl
    rw [htasks,isAlive_completed _ _ view hdead,isAlive_applyTaskExit]
    rcases haction with haction | haction <;>
      simp [haction,TraceState.movesThread,lifecycleFork,lifecycleExec,lifecycleExit,lifecycleFree,
        and_comm]
  · have hkept : isAlive (lifecycleTasks l view).1 x ↔ isAlive l x := by
      rcases htasks with ⟨-,htasks⟩ | ⟨-,htasks⟩
      · rw [htasks]
      · rw [htasks,isAlive_applyUnknown]
    rw [hkept]
    simp [hfork,hexec,hexit,hfree,TraceState.movesThread]

/-- What a syscall record leaves alive. -/
theorem isAlive_syscallTasks (terminating : SyscallEventView → Bool) (record : TraceEventEnvelope)
    (update : TraceStateUpdate) :
    isAlive (syscallTasks tables terminating l record update).1 x ↔
      (notesTask record update ∧ record.syscallView.tid≠0 ∧
        x=taskTIDForSyscall tables record.syscallView) ∨ isAlive l x := by
  unfold syscallTasks isAlive
  dsimp only
  rw [settleExit_tasks]
  by_cases hnotes : notesTask record update
  · rw [if_pos hnotes]
    have hnoted := isAlive_noteSyscallTask tables
      (l.resolveForkIdentity record.syscallView.tid record.syscallView.pid).1 x record.syscallView
    rw [isAlive_resolveForkIdentity] at hnoted
    unfold isAlive at hnoted
    simpa [hnotes] using hnoted
  · rw [if_neg hnotes,resolveForkIdentity_tasks]
    simp [hnotes]

/-- A record changes what is alive by the threads it shows, ends and moves. -/
theorem isAlive_nextTasks (terminating : SyscallEventView → Bool) (record : TraceEventEnvelope)
    (update : TraceStateUpdate) :
    isAlive (nextTasks tables terminating l record update).1 x ↔
      showsAlive tables l.trackForkIdentity record update x ∨
        isAlive l x ∧ ¬(endsTask record x ∨ movesTask record x) := by
  unfold nextTasks showsAlive endsTask movesTask
  by_cases hsignal : record.isSignal=true
  · simp [hsignal,notesTask,isSyscallRecord,isLifecycleRecord]
  · rw [if_neg hsignal]
    by_cases hlifecycle : record.isLifecycle=true
    · rw [if_pos hlifecycle,isAlive_lifecycleTasks]
      simp [hsignal,hlifecycle,notesTask,isSyscallRecord,isLifecycleRecord]
    · rw [if_neg hlifecycle,isAlive_syscallTasks]
      simp [hlifecycle,isLifecycleRecord]

end Liveness

/-- A record reports the terminating exit of a thread. -/
def terminates (terminating : SyscallEventView → Bool) (record : TraceEventEnvelope)
    (update : TraceStateUpdate) (x : UInt32) : Prop :=
  x≠0 ∧ ∃ view, handledExit record update=some view ∧ terminating view=true ∧ x=view.tid

/-- The waiting terminations and the modes are the same. -/
structure Steady (l next : TraceTaskLifecycleState) : Prop where
  /-- Fork tracking stays. -/
  trackForkIdentity : next.trackForkIdentity=l.trackForkIdentity
  /-- Blocked inference stays. -/
  historyTainted : next.historyTainted=l.historyTainted
  /-- The waiting terminations stay. -/
  lifecyclePending : next.lifecyclePending=l.lifecyclePending

theorem Steady.trans {l next last : TraceTaskLifecycleState} (h : Steady l next)
    (h' : Steady next last) : Steady l last :=
  ⟨h'.trackForkIdentity.trans h.trackForkIdentity,h'.historyTainted.trans h.historyTainted,
    h'.lifecyclePending.trans h.lifecyclePending⟩

theorem Steady.modes {l next : TraceTaskLifecycleState} (h : Steady l next) :
    next.trackForkIdentity=l.trackForkIdentity ∧ next.historyTainted=l.historyTainted :=
  ⟨h.trackForkIdentity,h.historyTainted⟩

section Terminations

variable (tables : SyscallTables) (l : TraceTaskLifecycleState) (x : UInt32)

theorem Steady.refl : Steady l l := ⟨rfl,rfl,rfl⟩

theorem steady_setTask (tid : UInt32) (task : TaskState) : Steady l (l.setTask tid task) :=
  ⟨rfl,rfl,rfl⟩

theorem steady_resolveForkIdentity (tid tgid : UInt32) :
    Steady l (l.resolveForkIdentity tid tgid).1 := by
  rw [resolveForkIdentity_frame]
  exact ⟨rfl,rfl,rfl⟩

theorem steady_noteSyscallTask (view : SyscallEventView) :
    Steady l (l.noteSyscallTask tables view) := by
  unfold TraceTaskLifecycleState.noteSyscallTask
  split_ifs
  · exact .refl l
  · exact steady_setTask l _ _

theorem steady_applyFork (view : LifecycleEventView) : Steady l (l.applyFork view).1 := by
  unfold TraceTaskLifecycleState.applyFork
  dsimp only
  refine Steady.trans ?_ (steady_resolveForkIdentity _ _ _)
  cases l.trackForkIdentity <;> cases l.historyTainted <;> split_ifs <;> exact ⟨rfl,rfl,rfl⟩

theorem steady_applyExec (view : LifecycleEventView) : Steady l (l.applyExec view).1 := by
  rw [applyExec_frame,ensureExecTaskState_frame]
  exact (steady_resolveForkIdentity l _ _).trans ⟨rfl,rfl,rfl⟩

theorem steady_applyTaskExit (view : LifecycleEventView) : Steady l (l.applyTaskExit view).1 :=
  (steady_resolveForkIdentity l view.tid view.pid).trans (steady_setTask _ _ _)

theorem steady_applyUnknown (view : LifecycleEventView) : Steady l (l.applyUnknown view).1 :=
  (steady_resolveForkIdentity l view.tid view.pid).trans (steady_setTask _ _ _)

theorem steady_execPrepared (view : LifecycleEventView) : Steady l (execPrepared l view) := by
  unfold execPrepared
  split_ifs <;> exact ⟨rfl,rfl,rfl⟩

/-- Completing a task takes its termination off the waiting ones. -/
theorem completed_frame (view : LifecycleEventView) :
    (completed l view).lifecyclePending=l.lifecyclePending.erase view.tid ∧
      (completed l view).trackForkIdentity=l.trackForkIdentity ∧
      (completed l view).historyTainted=l.historyTainted ∧
      (completed l view).pendingForks=
        if view.tid=0 then l.pendingForks else l.pendingForks.erase view.tid := by
  unfold completed TraceTaskLifecycleState.retireTask
    TraceTaskLifecycleState.rememberLifecycleExit
  dsimp only
  split_ifs <;> exact ⟨rfl,rfl,rfl,rfl⟩

/-- A lifecycle record takes a termination off the waiting ones only if it ends the thread. -/
theorem lifecycleTasks_pending (view : LifecycleEventView) :
    (lifecycleTasks l view).1.lifecyclePending=
      if view.action=lifecycleExit ∨ view.action=lifecycleFree then
        l.lifecyclePending.erase view.tid
      else l.lifecyclePending := by
  rcases lifecycleTasks_cases l view with ⟨haction,htasks⟩ | ⟨haction,htasks⟩ | ⟨haction,htasks⟩ |
    ⟨⟨hfork,hexec,hexit,hfree⟩,htasks⟩
  · rw [htasks,(steady_applyFork l view).lifecyclePending,if_neg (by rw [haction]; decide)]
  · rw [htasks,((steady_execPrepared l view).trans (steady_applyExec _ view)).lifecyclePending,
      if_neg (by rw [haction]; decide)]
  · rw [htasks,(completed_frame _ view).1,(steady_applyTaskExit l view).lifecyclePending,
      if_pos haction]
  · rw [if_neg (not_or.mpr ⟨hexit,hfree⟩)]
    rcases htasks with ⟨-,htasks⟩ | ⟨-,htasks⟩
    · rw [htasks]
    · rw [htasks,(steady_applyUnknown l view).lifecyclePending]

/-- The modes stay. -/
theorem lifecycleTasks_modes (view : LifecycleEventView) :
    (lifecycleTasks l view).1.trackForkIdentity=l.trackForkIdentity ∧
      (lifecycleTasks l view).1.historyTainted=l.historyTainted := by
  rcases lifecycleTasks_cases l view with ⟨-,htasks⟩ | ⟨-,htasks⟩ | ⟨-,htasks⟩ |
    ⟨-,⟨-,htasks⟩ | ⟨-,htasks⟩⟩
  · rw [htasks]
    exact (steady_applyFork l view).modes
  · rw [htasks]
    exact ((steady_execPrepared l view).trans (steady_applyExec _ view)).modes
  · rw [htasks]
    obtain ⟨-,htrack,htainted,-⟩ := completed_frame (l.applyTaskExit view).1 view
    rw [htrack,htainted]
    exact (steady_applyTaskExit l view).modes
  · rw [htasks]
    exact ⟨rfl,rfl⟩
  · rw [htasks]
    exact (steady_applyUnknown l view).modes

/-- A reported exit adds its thread to the waiting terminations if it terminates. -/
theorem mem_settleExit (terminating : SyscallEventView → Bool) (exit : Option SyscallEventView) :
    x∈(settleExit terminating l exit).lifecyclePending ↔
      (x≠0 ∧ ∃ view, exit=some view ∧ terminating view=true ∧ x=view.tid) ∨
        x∈l.lifecyclePending := by
  cases exit with
  | none => simp [settleExit]
  | some view =>
    unfold settleExit TraceTaskLifecycleState.markLifecyclePending
      TraceTaskLifecycleState.clearTask
    by_cases hterm : terminating view=true
    · by_cases hzero : view.tid=0
      · simp only [hterm,hzero,if_true]
        refine ⟨.inr,fun h => h.elim (fun ⟨hx,v,hv,_,htid⟩ => ?_) id⟩
        exact absurd (htid.trans (by rw [←Option.some.inj hv,hzero])) hx
      · simp only [hterm,hzero,if_true,if_false,Finset.mem_insert]
        refine or_congr ?_ Iff.rfl
        refine ⟨fun h => ⟨h ▸ hzero,view,rfl,hterm,h⟩,fun ⟨_,v,hv,_,htid⟩ => ?_⟩
        rw [htid,←Option.some.inj hv]
    · simp [hterm]

/-- A record changes the waiting terminations by the exit it reports and the thread it ends. -/
theorem mem_pending_nextTasks (terminating : SyscallEventView → Bool)
    (record : TraceEventEnvelope) (update : TraceStateUpdate) :
    x∈(nextTasks tables terminating l record update).1.lifecyclePending ↔
      terminates terminating record update x ∨
        x∈l.lifecyclePending ∧ ¬endsTask record x := by
  unfold nextTasks terminates endsTask
  by_cases hsyscall : isSyscallRecord record=true
  · obtain ⟨hsignal,hlifecycle⟩ : record.isSignal=false ∧ record.isLifecycle=false := by
      simpa [isSyscallRecord] using hsyscall
    have hsteady : Steady l (if notesTask record update then
        (l.resolveForkIdentity record.syscallView.tid record.syscallView.pid).1.noteSyscallTask
          tables record.syscallView
        else (l.resolveForkIdentity record.syscallView.tid record.syscallView.pid).1) := by
      split_ifs
      · exact (steady_resolveForkIdentity l _ _).trans (steady_noteSyscallTask tables _ _)
      · exact steady_resolveForkIdentity l _ _
    simp only [hsignal,hlifecycle,Bool.false_eq_true,if_false]
    unfold syscallTasks
    dsimp only
    rw [mem_settleExit,hsteady.lifecyclePending]
    simp [isLifecycleRecord,hlifecycle]
  · have hnone : handledExit record update=none := by
      have hplain : isSyscallRecord record=false := Bool.not_eq_true _ |>.mp hsyscall
      simp [handledExit,isGenericEnterRecord,isEdgeRecord,hplain]
    by_cases hsignal : record.isSignal=true
    · simp [hsignal,hnone,isLifecycleRecord]
    · have hlifecycle : record.isLifecycle=true := by
        simpa [isSyscallRecord,hsignal] using hsyscall
      rw [if_neg hsignal,if_pos hlifecycle,lifecycleTasks_pending,hnone]
      by_cases hends : record.lifecycleView.action=lifecycleExit ∨
          record.lifecycleView.action=lifecycleFree
      · rw [if_pos hends,Finset.mem_erase]
        simp [isLifecycleRecord,hsignal,hlifecycle,hends,and_comm]
      · rw [if_neg hends]
        simp [hends]

/-- The modes of the task state stay. -/
theorem nextTasks_modes (terminating : SyscallEventView → Bool) (record : TraceEventEnvelope)
    (update : TraceStateUpdate) :
    (nextTasks tables terminating l record update).1.trackForkIdentity=l.trackForkIdentity ∧
      (nextTasks tables terminating l record update).1.historyTainted=l.historyTainted := by
  have hsettled : ∀ (next : TraceTaskLifecycleState) (exit : Option SyscallEventView),
      (settleExit terminating next exit).trackForkIdentity=next.trackForkIdentity ∧
        (settleExit terminating next exit).historyTainted=next.historyTainted := by
    intro next exit
    cases exit with
    | none => exact ⟨rfl,rfl⟩
    | some view =>
      unfold settleExit TraceTaskLifecycleState.markLifecyclePending
      dsimp only
      split_ifs <;> exact ⟨rfl,rfl⟩
  unfold nextTasks
  split_ifs
  · exact ⟨rfl,rfl⟩
  · exact lifecycleTasks_modes l _
  · unfold syscallTasks
    dsimp only
    rw [(hsettled _ _).1,(hsettled _ _).2]
    split_ifs
    · exact ((steady_resolveForkIdentity l _ _).trans (steady_noteSyscallTask tables _ _)).modes
    · exact (steady_resolveForkIdentity l _ _).modes

end Terminations

/-- Thread whose fork a lifecycle record resolves, zero without one. -/
def lifecycleIdentity (view : LifecycleEventView) : UInt32 :=
  if view.action=lifecycleFork ∨ view.action=lifecycleUnknownDetach ∨
      view.action=lifecycleUnknownExit then 0
  else if view.action=lifecycleExec then execIdentity view
  else view.tid

/-- Thread whose fork a record resolves, zero without one. -/
def identityTID (record : TraceEventEnvelope) : UInt32 :=
  if record.isSignal then 0
  else if record.isLifecycle then lifecycleIdentity record.lifecycleView
  else record.tid

/-- A fork record of a thread. -/
def forksTask (record : TraceEventEnvelope) (c : UInt32) : Prop :=
  isLifecycleRecord record=true ∧ record.lifecycleView.action=lifecycleFork ∧
    record.lifecycleView.args[1].toUInt32=c

instance (record : TraceEventEnvelope) (c : UInt32) : Decidable (forksTask record c) :=
  inferInstanceAs (Decidable (_ ∧ _ ∧ _))

/-- An exec record that moves another thread onto a number. -/
def movesOnto (record : TraceEventEnvelope) (c : UInt32) : Prop :=
  isLifecycleRecord record=true ∧ TraceState.movesThread record.lifecycleView ∧
    TraceState.execTID record.lifecycleView=c

/-- A record resolves the fork of a thread: it names the thread with its thread group. -/
def resolvesFork (record : TraceEventEnvelope) (c : UInt32) : Prop :=
  c=identityTID record ∧ c≠0 ∧ record.pid≠0

/-- A record forgets the unresolved fork of a thread. -/
def dropsFork (terminating : SyscallEventView → Bool) (record : TraceEventEnvelope)
    (update : TraceStateUpdate) (c : UInt32) : Prop :=
  movesOnto record c ∨ endsTask record c ∧ c≠0 ∨
    ∃ view, handledExit record update=some view ∧ terminating view=true ∧ view.tid=c

/-- Thread group of a forked thread, if the task table knows it. -/
def forkedTGID (l : TraceTaskLifecycleState) (view : LifecycleEventView) : UInt32 :=
  ((l.setTask (TraceTaskLifecycleState.forkParentTID view) (l.forkParent view)).ensuredTask
    view.args[1].toUInt32 0).tgid

section Forks

variable (tables : SyscallTables) (l : TraceTaskLifecycleState) (c : UInt32)

theorem resolveForkIdentity_lookup (tid tgid : UInt32) :
    (l.resolveForkIdentity tid tgid).1.pendingForks.lookup c=
      if c=tid ∧ c≠0 ∧ tgid≠0 then none else l.pendingForks.lookup c := by
  unfold TraceTaskLifecycleState.resolveForkIdentity
  by_cases hzero : tid=0
  · rw [if_pos hzero,if_neg]
    exact fun h => h.2.1 (h.1.trans hzero)
  · rw [if_neg hzero]
    cases hlookup : l.pendingForks.lookup tid with
    | none =>
      dsimp only
      split_ifs with h
      · rw [h.1,hlookup]
      · rfl
    | some relation =>
      dsimp only
      by_cases htgid : tgid=0
      · rw [if_pos htgid,if_neg fun h => h.2.2 htgid]
      · have herased : (l.pendingForks.erase tid).lookup c=
            if c=tid ∧ c≠0 ∧ tgid≠0 then none else l.pendingForks.lookup c := by
          rw [lookup_erase_ite]
          refine if_congr ⟨fun h => ⟨h,h ▸ hzero,htgid⟩,And.left⟩ rfl rfl
        rw [if_neg htgid]
        by_cases hleader : tgid=tid
        · rw [if_neg (not_not_intro hleader)]
          exact herased
        · rw [if_pos hleader]
          exact herased

theorem resolveForkIdentity_inherit (tid tgid q : UInt32) :
    (l.resolveForkIdentity tid tgid).2=some ⟨q,c⟩ ↔
      c≠0 ∧ tid=c ∧ tgid=c ∧ l.pendingForks.lookup c=some ⟨q⟩ := by
  unfold TraceTaskLifecycleState.resolveForkIdentity
  by_cases hzero : tid=0
  · rw [if_pos hzero]
    exact iff_of_false (nomatch ·) fun h => h.1 (h.2.1.symm.trans hzero)
  · rw [if_neg hzero]
    cases hlookup : l.pendingForks.lookup tid with
    | none =>
      refine iff_of_false (nomatch ·) fun h => ?_
      rw [h.2.1,h.2.2.2] at hlookup
      cases hlookup
    | some relation =>
      dsimp only
      by_cases htgid : tgid=0
      · rw [if_pos htgid]
        exact iff_of_false (nomatch ·) fun h => h.1 (h.2.2.1.symm.trans htgid)
      · rw [if_neg htgid]
        by_cases hleader : tgid=tid
        · rw [if_neg (not_not_intro hleader)]
          constructor
          · intro h
            obtain ⟨hparent,hchild⟩ := ProcessStateInheritance.mk.inj (Option.some.inj h)
            obtain rfl := hchild
            rw [←hleader] at hlookup
            exact ⟨htgid,hleader.symm,rfl,by rw [hlookup,←hparent]⟩
          · rintro ⟨-,rfl,rfl,hknown⟩
            rw [hlookup] at hknown
            rw [Option.some.inj hknown]
        · rw [if_pos hleader]
          exact iff_of_false (nomatch ·) fun h => hleader (h.2.2.1.trans h.2.1.symm)

variable (r : PendingForkState)

theorem resolveForkIdentity_iff (tid tgid : UInt32) :
    (l.resolveForkIdentity tid tgid).1.pendingForks.lookup c=some r ↔
      l.pendingForks.lookup c=some r ∧ ¬(c=tid ∧ c≠0 ∧ tgid≠0) := by
  rw [resolveForkIdentity_lookup]
  by_cases h : c=tid ∧ c≠0 ∧ tgid≠0
  · rw [if_pos h]
    exact iff_of_false (nomatch ·) fun hknown => hknown.2 h
  · rw [if_neg h]
    exact ⟨fun hknown => ⟨hknown,h⟩,And.left⟩

theorem lookup_clearTask_iff (tid : UInt32) :
    (l.clearTask tid).pendingForks.lookup c=some r ↔
      l.pendingForks.lookup c=some r ∧ tid≠c := by
  change (l.pendingForks.erase tid).lookup c=some r ↔ _
  rw [lookup_erase_ite]
  by_cases h : c=tid
  · simp [h]
  · simp [h,Ne.symm h]

theorem settleExit_iff (terminating : SyscallEventView → Bool)
    (exit : Option SyscallEventView) :
    (settleExit terminating l exit).pendingForks.lookup c=some r ↔
      l.pendingForks.lookup c=some r ∧
        ¬∃ view, exit=some view ∧ terminating view=true ∧ view.tid=c := by
  cases exit with
  | none => simp [settleExit]
  | some view =>
    have hmarked : (l.markLifecyclePending view.tid).pendingForks=l.pendingForks := by
      unfold TraceTaskLifecycleState.markLifecyclePending
      split_ifs <;> rfl
    by_cases hterm : terminating view=true
    · have hsettled : settleExit terminating l (some view)=
          (l.markLifecyclePending view.tid).clearTask view.tid := if_pos hterm
      rw [hsettled,lookup_clearTask_iff,hmarked]
      simp [hterm]
    · have hsettled : settleExit terminating l (some view)=l := if_neg hterm
      rw [hsettled]
      simp [hterm]

/-- Unresolved forks after a syscall record. -/
theorem syscallTasks_iff (terminating : SyscallEventView → Bool) (record : TraceEventEnvelope)
    (update : TraceStateUpdate) :
    (syscallTasks tables terminating l record update).1.pendingForks.lookup c=some r ↔
      l.pendingForks.lookup c=some r ∧ ¬(c=record.tid ∧ c≠0 ∧ record.pid≠0) ∧
        ¬∃ view, handledExit record update=some view ∧ terminating view=true ∧ view.tid=c := by
  have hnoted : ∀ next : TraceTaskLifecycleState,
      (next.noteSyscallTask tables record.syscallView).pendingForks=next.pendingForks := by
    intro next
    unfold TraceTaskLifecycleState.noteSyscallTask
    split_ifs <;> rfl
  have hforks : (if notesTask record update then
      (l.resolveForkIdentity record.syscallView.tid record.syscallView.pid).1.noteSyscallTask
        tables record.syscallView
      else (l.resolveForkIdentity record.syscallView.tid record.syscallView.pid).1).pendingForks=
      (l.resolveForkIdentity record.tid record.pid).1.pendingForks := by
    split_ifs
    · exact hnoted _
    · rfl
  unfold syscallTasks
  dsimp only
  rw [settleExit_iff,hforks,resolveForkIdentity_iff,and_assoc]

/-- A tracked fork record relates its child and resolves it at once if the child is known. -/
theorem applyFork_tracked (htracked : l.trackForkIdentity=true) (htainted : l.historyTainted=false)
    (view : LifecycleEventView) :
    ∃ related : TraceTaskLifecycleState,
      related.pendingForks=l.pendingForks.insert view.args[1].toUInt32
        ⟨TraceTaskLifecycleState.forkParentTGID view⟩ ∧
      (l.applyFork view).1=
        (related.resolveForkIdentity view.args[1].toUInt32 (forkedTGID l view)).1 ∧
      (l.applyFork view).2.2=
        (related.resolveForkIdentity view.args[1].toUInt32 (forkedTGID l view)).2 := by
  have hmode : ∀ tid task, (l.setTask tid task).trackForkIdentity=true := fun _ _ => htracked
  have hclean : ∀ tid task, (l.setTask tid task).historyTainted=false := fun _ _ => htainted
  have hboth : ∀ tid task other task', ((l.setTask tid task).setTask other task').trackForkIdentity=
      true ∧ ((l.setTask tid task).setTask other task').historyTainted=false :=
    fun _ _ _ _ => ⟨htracked,htainted⟩
  have htgid : ((l.setTask (TraceTaskLifecycleState.forkParentTID view)
      (l.forkParent view)).forkChild view (l.forkParent view)).tgid=forkedTGID l view := by
    unfold TraceTaskLifecycleState.forkChild forkedTGID
    simp [hmode,hclean]
  unfold TraceTaskLifecycleState.applyFork
  dsimp only
  rw [htgid]
  simp only [hmode,if_true,hboth,and_self]
  refine ⟨_,?_,rfl,rfl⟩
  rfl

theorem resolveForkIdentity_zero (tid : UInt32) : l.resolveForkIdentity tid 0=(l,none) := by
  unfold TraceTaskLifecycleState.resolveForkIdentity
  by_cases hzero : tid=0
  · rw [if_pos hzero]
  · rw [if_neg hzero]
    cases l.pendingForks.lookup tid <;> rfl

/-- An untracked fork record relates nothing. -/
theorem applyFork_untracked (htracked : l.trackForkIdentity=false) (view : LifecycleEventView) :
    (l.applyFork view).1.pendingForks=l.pendingForks ∧ (l.applyFork view).2.2=none := by
  have hmode : ∀ tid task, (l.setTask tid task).trackForkIdentity=false := fun _ _ => htracked
  have htgid : ((l.setTask (TraceTaskLifecycleState.forkParentTID view)
      (l.forkParent view)).forkChild view (l.forkParent view)).tgid=0 := by
    unfold TraceTaskLifecycleState.forkChild
    rw [if_neg (by rw [hmode]; exact Bool.false_ne_true)]
    split_ifs <;> rfl
  unfold TraceTaskLifecycleState.applyFork
  dsimp only
  rw [htgid,resolveForkIdentity_zero]
  simp only [hmode,Bool.false_eq_true,if_false,false_and]
  exact ⟨rfl,trivial⟩

/-- Unresolved forks after a fork record. -/
theorem applyFork_iff (htainted : l.historyTainted=false) (view : LifecycleEventView) :
    (l.applyFork view).1.pendingForks.lookup c=some r ↔
      (l.trackForkIdentity=true ∧ view.args[1].toUInt32=c ∧ ¬(c≠0 ∧ forkedTGID l view≠0) ∧
        r=⟨TraceTaskLifecycleState.forkParentTGID view⟩) ∨
      (¬(l.trackForkIdentity=true ∧ view.args[1].toUInt32=c) ∧
        l.pendingForks.lookup c=some r) := by
  cases htracked : l.trackForkIdentity with
  | false =>
    rw [(applyFork_untracked l htracked view).1]
    simp
  | true =>
    obtain ⟨related,hrelated,hresolved,-⟩ := applyFork_tracked l htracked htainted view
    rw [hresolved,resolveForkIdentity_iff,hrelated,lookup_insert_ite]
    by_cases hchild : c=view.args[1].toUInt32
    · rw [if_pos hchild]
      simp [hchild,eq_comm,and_comm]
    · rw [if_neg hchild]
      simp [hchild,Ne.symm hchild]

/-- Process state handed on by a fork record. -/
theorem applyFork_inherit (htainted : l.historyTainted=false) (view : LifecycleEventView)
    (q : UInt32) :
    (l.applyFork view).2.2=some ⟨q,c⟩ ↔ l.trackForkIdentity=true ∧ view.args[1].toUInt32=c ∧
      c≠0 ∧ forkedTGID l view=c ∧ q=TraceTaskLifecycleState.forkParentTGID view := by
  cases htracked : l.trackForkIdentity with
  | false =>
    rw [(applyFork_untracked l htracked view).2]
    simp
  | true =>
    obtain ⟨related,hrelated,-,hresolved⟩ := applyFork_tracked l htracked htainted view
    rw [hresolved,resolveForkIdentity_inherit,hrelated,lookup_insert_ite]
    by_cases hchild : view.args[1].toUInt32=c
    · rw [if_pos hchild.symm]
      simp [hchild,eq_comm]
    · simp [hchild]

theorem execPrepared_iff (view : LifecycleEventView) :
    (execPrepared l view).pendingForks.lookup c=some r ↔
      l.pendingForks.lookup c=some r ∧
        ¬(TraceState.movesThread view ∧ TraceState.execTID view=c) := by
  unfold execPrepared
  split_ifs with hmoves
  · rw [lookup_clearTask_iff]
    simp [hmoves]
  · simp [hmoves]

theorem applyExec_pendingForks (view : LifecycleEventView) :
    (l.applyExec view).1.pendingForks=
      (l.resolveForkIdentity (execIdentity view) view.pid).1.pendingForks := by
  rw [applyExec_frame,ensureExecTaskState_frame]
  rfl

/-- A thread whose fork an exec resolves is not the one another thread moves onto. -/
theorem not_movesOnto_of_execIdentity {view : LifecycleEventView}
    (h : execIdentity view=c) : ¬(TraceState.movesThread view ∧ TraceState.execTID view=c) := by
  rintro ⟨⟨-,hzero,hmoved⟩,hexec⟩
  unfold execIdentity at h
  rw [if_pos hzero] at h
  exact hmoved (h.trans hexec.symm)

theorem completed_iff (view : LifecycleEventView) :
    (completed l view).pendingForks.lookup c=some r ↔
      l.pendingForks.lookup c=some r ∧ ¬(c=view.tid ∧ c≠0) := by
  rw [(completed_frame l view).2.2.2]
  by_cases hzero : view.tid=0
  · rw [if_pos hzero]
    exact ⟨fun h => ⟨h,fun hself => hself.2 (hself.1.trans hzero)⟩,And.left⟩
  · rw [if_neg hzero,lookup_erase_ite]
    by_cases hself : c=view.tid
    · rw [if_pos hself]
      exact iff_of_false (nomatch ·) fun h => h.2 ⟨hself,hself ▸ hzero⟩
    · rw [if_neg hself]
      exact ⟨fun h => ⟨h,fun hboth => hself hboth.1⟩,And.left⟩

/-- Unresolved forks after a lifecycle record. -/
theorem lifecycleTasks_iff (htainted : l.historyTainted=false) (view : LifecycleEventView) :
    (lifecycleTasks l view).1.pendingForks.lookup c=some r ↔
      (l.trackForkIdentity=true ∧ (view.action=lifecycleFork ∧ view.args[1].toUInt32=c) ∧
        ¬(c≠0 ∧ forkedTGID l view≠0) ∧ r=⟨TraceTaskLifecycleState.forkParentTGID view⟩) ∨
      (¬(l.trackForkIdentity=true ∧ view.action=lifecycleFork ∧ view.args[1].toUInt32=c) ∧
        l.pendingForks.lookup c=some r ∧ ¬(c=lifecycleIdentity view ∧ c≠0 ∧ view.pid≠0) ∧
        ¬(TraceState.movesThread view ∧ TraceState.execTID view=c) ∧
        ¬((view.action=lifecycleExit ∨ view.action=lifecycleFree) ∧ c=view.tid ∧ c≠0)) := by
  unfold lifecycleIdentity
  rcases lifecycleTasks_cases l view with ⟨haction,htasks⟩ | ⟨haction,htasks⟩ | ⟨haction,htasks⟩ |
    ⟨⟨hfork,hexec,hexit,hfree⟩,⟨hunknown,htasks⟩ | ⟨hunknown,htasks⟩⟩
  · rw [htasks,applyFork_iff l c r htainted]
    by_cases hzero : c=0 <;>
      simp [haction,hzero,TraceState.movesThread,lifecycleFork,lifecycleExec,lifecycleExit,
        lifecycleFree]
  · rw [htasks]
    dsimp only
    rw [applyExec_pendingForks,resolveForkIdentity_iff,execPrepared_iff,and_right_comm]
    simp [haction,lifecycleFork,lifecycleExec,lifecycleExit,lifecycleFree,
      lifecycleUnknownDetach,lifecycleUnknownExit,and_assoc]
  · have hforks : (l.applyTaskExit view).1.pendingForks=
        (l.resolveForkIdentity view.tid view.pid).1.pendingForks := rfl
    rw [htasks]
    dsimp only
    rw [completed_iff,hforks,resolveForkIdentity_iff]
    rcases haction with haction | haction <;>
      simp [haction,TraceState.movesThread,lifecycleFork,lifecycleExec,lifecycleExit,lifecycleFree,
        lifecycleUnknownDetach,lifecycleUnknownExit,and_assoc]
  · rw [htasks]
    by_cases hzero : c=0 <;>
      simp [hfork,hexec,hexit,hfree,hunknown,hzero,TraceState.movesThread]
  · have hforks : (l.applyUnknown view).1.pendingForks=
        (l.resolveForkIdentity view.tid view.pid).1.pendingForks := rfl
    rw [htasks]
    dsimp only
    rw [hforks,resolveForkIdentity_iff]
    simp [hfork,hexec,hexit,hfree,hunknown,TraceState.movesThread]

/-- Unresolved forks after a record. -/
theorem nextTasks_iff (htainted : l.historyTainted=false) (terminating : SyscallEventView → Bool)
    (record : TraceEventEnvelope) (update : TraceStateUpdate) :
    (nextTasks tables terminating l record update).1.pendingForks.lookup c=some r ↔
      (l.trackForkIdentity=true ∧ forksTask record c ∧
        ¬(c≠0 ∧ forkedTGID l record.lifecycleView≠0) ∧
        r=⟨TraceTaskLifecycleState.forkParentTGID record.lifecycleView⟩) ∨
      (¬(l.trackForkIdentity=true ∧ forksTask record c) ∧ l.pendingForks.lookup c=some r ∧
        ¬resolvesFork record c ∧ ¬dropsFork terminating record update c) := by
  unfold nextTasks resolvesFork identityTID dropsFork forksTask movesOnto endsTask
  by_cases hsignal : record.isSignal=true
  · have hnone : handledExit record update=none := by
      simp [handledExit,isGenericEnterRecord,isEdgeRecord,isSyscallRecord,hsignal]
    by_cases hzero : c=0 <;> simp [hsignal,hnone,hzero,isLifecycleRecord]
  · by_cases hlifecycle : record.isLifecycle=true
    · have hnone : handledExit record update=none := by
        simp [handledExit,isGenericEnterRecord,isEdgeRecord,isSyscallRecord,hlifecycle]
      rw [if_neg hsignal,if_pos hlifecycle,lifecycleTasks_iff l c r htainted]
      have hrecord : isLifecycleRecord record=true := by simp [isLifecycleRecord,hsignal,hlifecycle]
      have hpid : record.lifecycleView.pid=record.pid := rfl
      simp only [hsignal,hlifecycle,hnone,hrecord,hpid,if_true,Bool.false_eq_true,if_false,true_and,
        not_or,and_assoc]
      simp
    · rw [if_neg hsignal,if_neg hlifecycle,syscallTasks_iff]
      simp [hsignal,hlifecycle,isLifecycleRecord]

/-- Process state handed on by a lifecycle record. -/
theorem lifecycleTasks_inherit (htainted : l.historyTainted=false) (view : LifecycleEventView)
    (q : UInt32) :
    (lifecycleTasks l view).2=some ⟨q,c⟩ ↔
      (l.trackForkIdentity=true ∧ (view.action=lifecycleFork ∧ view.args[1].toUInt32=c) ∧ c≠0 ∧
        forkedTGID l view=c ∧ q=TraceTaskLifecycleState.forkParentTGID view) ∨
      (c≠0 ∧ lifecycleIdentity view=c ∧ view.pid=c ∧ l.pendingForks.lookup c=some ⟨q⟩) := by
  unfold lifecycleIdentity
  rcases lifecycleTasks_cases l view with ⟨haction,htasks⟩ | ⟨haction,htasks⟩ | ⟨haction,htasks⟩ |
    ⟨⟨hfork,hexec,hexit,hfree⟩,⟨hunknown,htasks⟩ | ⟨hunknown,htasks⟩⟩
  · rw [htasks]
    dsimp only
    rw [applyFork_inherit l c htainted]
    have hself : ¬(c≠0 ∧ 0=c ∧ view.pid=c ∧ l.pendingForks.lookup c=some ⟨q⟩) :=
      fun h => h.1 h.2.1.symm
    simp [haction,hself]
  · have hexecs : ((execPrepared l view).applyExec view).2.2=
        ((execPrepared l view).resolveForkIdentity (execIdentity view) view.pid).2 := rfl
    rw [htasks]
    dsimp only
    rw [hexecs,resolveForkIdentity_inherit,execPrepared_iff]
    have hidentity : (if view.action=lifecycleFork ∨ view.action=lifecycleUnknownDetach ∨
        view.action=lifecycleUnknownExit then 0
        else if view.action=lifecycleExec then execIdentity view else view.tid)=
        execIdentity view := by
      rw [haction]
      rfl
    have hfork : view.action≠lifecycleFork := by
      rw [haction]
      decide
    rw [hidentity]
    simp only [hfork,false_and,and_false,false_or]
    refine and_congr Iff.rfl (and_congr_right fun hself => and_congr Iff.rfl ?_)
    exact ⟨And.left,fun h => ⟨h,not_movesOnto_of_execIdentity c hself⟩⟩
  · have hexits : (l.applyTaskExit view).2.2=(l.resolveForkIdentity view.tid view.pid).2 := rfl
    rw [htasks]
    dsimp only
    rw [hexits,resolveForkIdentity_inherit]
    rcases haction with haction | haction <;>
      simp [haction,lifecycleFork,lifecycleExec,lifecycleExit,lifecycleFree,
        lifecycleUnknownDetach,lifecycleUnknownExit]
  · rw [htasks]
    have hself : ¬(c≠0 ∧ 0=c ∧ view.pid=c ∧ l.pendingForks.lookup c=some ⟨q⟩) :=
      fun h => h.1 h.2.1.symm
    simp [hfork,hunknown,hself]
  · have hothers : (l.applyUnknown view).2.2=(l.resolveForkIdentity view.tid view.pid).2 := rfl
    rw [htasks]
    dsimp only
    rw [hothers,resolveForkIdentity_inherit]
    simp [hfork,hexec,hunknown]

/-- Process state handed on by a record: by the fork record of a known child, or by a record
that resolves the fork. -/
theorem nextTasks_inherit (htainted : l.historyTainted=false)
    (terminating : SyscallEventView → Bool) (record : TraceEventEnvelope)
    (update : TraceStateUpdate) (q : UInt32) :
    (nextTasks tables terminating l record update).2=some ⟨q,c⟩ ↔
      (l.trackForkIdentity=true ∧ forksTask record c ∧ c≠0 ∧
        forkedTGID l record.lifecycleView=c ∧
        q=TraceTaskLifecycleState.forkParentTGID record.lifecycleView) ∨
      (c≠0 ∧ identityTID record=c ∧ record.pid=c ∧ l.pendingForks.lookup c=some ⟨q⟩) := by
  unfold nextTasks identityTID forksTask
  by_cases hsignal : record.isSignal=true
  · have hself : ¬(c≠0 ∧ 0=c ∧ record.pid=c ∧ l.pendingForks.lookup c=some ⟨q⟩) :=
      fun h => h.1 h.2.1.symm
    simp [hsignal,hself,isLifecycleRecord]
  · by_cases hlifecycle : record.isLifecycle=true
    · rw [if_neg hsignal,if_pos hlifecycle,lifecycleTasks_inherit l c htainted]
      have hrecord : isLifecycleRecord record=true := by simp [isLifecycleRecord,hsignal,hlifecycle]
      have hpid : record.lifecycleView.pid=record.pid := rfl
      simp [hsignal,hlifecycle,hrecord,hpid]
    · have hsyscall : (syscallTasks tables terminating l record update).2=
          (l.resolveForkIdentity record.tid record.pid).2 := rfl
      rw [if_neg hsignal,if_neg hlifecycle,hsyscall,resolveForkIdentity_inherit]
      simp [hsignal,hlifecycle,isLifecycleRecord]

end Forks

section Positions

variable (tables : SyscallTables) (config : SessionConfig) {ops : List Operation}

/-- The task state before the call at a position. -/
def tasksAt (ops : List Operation) (i : ℕ) : TraceTaskLifecycleState :=
  (systemAt tables config ops i).st.lifecycle

/-- Whether a record's syscall ends its task, by the session's configuration. -/
def terminatingIn (view : SyscallEventView) : Bool :=
  (newTraceStateForSession config).isTerminatingSyscall tables view

/-- Calls other than a record and a loss leave the task state. -/
theorem lifecycle_apply (sys : System) {op : Operation} (hop : op.isTaint=false)
    (hrecord : ∀ record, op≠.handle record) :
    (apply tables sys op).st.lifecycle=sys.st.lifecycle := by
  cases op with
  | handle envelope => exact absurd rfl (hrecord envelope)
  | release index =>
    change (releaseAt sys index).st.lifecycle=_
    unfold releaseAt
    split
    · rfl
    · unfold TraceState.releaseTraceStateUpdate
      dsimp only
      split <;> rfl
  | taint order => cases hop
  | rememberPendingExecArgs tid argLine =>
    change (sys.st.rememberPendingExecArgs tid argLine).lifecycle=_
    unfold TraceState.rememberPendingExecArgs
    split_ifs <;> rfl
  | takePendingExecArgs tid => rfl
  | rememberSuspendedSyscall tid name =>
    change (sys.st.rememberSuspendedSyscall tid name).lifecycle=_
    unfold TraceState.rememberSuspendedSyscall
    split_ifs <;> rfl
  | consumeSuspendedSyscall tid => rfl
  | markUnfinishedPrinted tid => rfl
  | requeueUnfinished tid => rfl

variable (hops : ∀ op∈ops, op.isTaint=false) (i : ℕ)
include hops

theorem tasksAt_succ_of_none (h : recordAt ops i=none) :
    tasksAt tables config ops (i+1)=tasksAt tables config ops i := by
  unfold tasksAt
  cases hop : ops[i]? with
  | none => rw [systemAt_succ_of_none hop]
  | some op =>
    rw [systemAt_succ hop]
    refine lifecycle_apply tables _ (hops op (List.mem_of_getElem? hop)) fun record hrecord => ?_
    rw [recordAt_of_getElem (hop.trans (congrArg some hrecord))] at h
    cases h

/-- A handled record acts on the task state as restated. -/
theorem tasksAt_succ {record : TraceEventEnvelope} {update : TraceStateUpdate}
    (hrecord : recordAt ops i=some record) (hupdate : updateAt tables config ops i=some update) :
    (tasksAt tables config ops (i+1),update.processInherit)=
      nextTasks tables (terminatingIn tables config) (tasksAt tables config ops i) record
        update := by
  have hterminating : (systemAt tables config ops i).st.isTerminatingSyscall tables=
      terminatingIn tables config :=
    congrArg Policy.terminating (policy_systemAt tables config hops i)
  rw [updateAt_eq tables config hrecord] at hupdate
  have htasks := handleEnvelope_tasks tables _ (untainted_systemAt tables config hops i) record
  rw [hterminating,Option.some.inj hupdate] at htasks
  unfold tasksAt
  rw [systemAt_succ (getElem_of_recordAt hrecord)]
  exact htasks

/-- The modes of the task state are those of the configuration. -/
theorem tasksAt_modes :
    (tasksAt tables config ops i).trackForkIdentity=config.trackForkIdentity ∧
      (tasksAt tables config ops i).historyTainted=false := by
  induction i with
  | zero => exact ⟨rfl,rfl⟩
  | succ i ih =>
    cases hrecord : recordAt ops i with
    | none =>
      rw [tasksAt_succ_of_none tables config hops i hrecord]
      exact ih
    | some record =>
      have hnext := tasksAt_succ tables config hops i hrecord (updateAt_eq tables config hrecord)
      rw [show tasksAt tables config ops (i+1)=_ from congrArg Prod.fst hnext]
      obtain ⟨htrack,htainted⟩ := nextTasks_modes tables (tasksAt tables config ops i)
        (terminatingIn tables config) record
        ((systemAt tables config ops i).st.handleEnvelope tables record).2
      exact ⟨htrack.trans ih.1,htainted.trans ih.2⟩

end Positions

end StraceGo.EventStateTasks

import StraceGo.EventStateQuiescence

/-!
# Inheritance of process state across a fork

A forked process inherits its parent's process state once its identity is
known: from the fork record if the child has shown itself before, and from the
child's first record otherwise. The relation in between can be lost. An exec
that moves another thread onto the child's number drops it, and a child that
has shown itself and is no longer in the task table is not recognised by its
fork record.
-/

namespace StraceGo.EventStateForkInheritance

open EventEnvelope FiniteMaps ObjectPool EventPayloadStorage EventSyscallCorrelation
  EventTaskLifecycle EventUnfinishedState EventState EventSyscallOwnership EventStateContents
  EventStateFrame EventStateRuns EventStateInterleaving EventStateTimeline EventStateTasks
  EventStateQuiescence StepHistories

/-- A record says something about a task: it names the task's own number, or its task record is
written with the record's thread group. -/
def concernsTask (tables : SyscallTables) (record : TraceEventEnvelope) (c : UInt32) : Prop :=
  (c≠0 ∧ identityTID record=c) ∨
  (isSyscallRecord record=true ∧ taskTIDForSyscall tables record.syscallView=c) ∨
  (isLifecycleRecord record=true ∧
    (record.lifecycleView.action=lifecycleExec ∧ TraceState.execTID record.lifecycleView=c ∨
      record.lifecycleView.action=lifecycleFork ∧
        TraceTaskLifecycleState.forkParentTID record.lifecycleView=c))

/-- Thread group a record names. -/
def taskGroup (record : TraceEventEnvelope) : UInt32 :=
  if isLifecycleRecord record=true ∧ record.lifecycleView.action=lifecycleFork then
    TraceTaskLifecycleState.forkParentTGID record.lifecycleView
  else record.pid

/-- The task table has no other thread group for a thread. -/
def Knows (l : TraceTaskLifecycleState) (c g : UInt32) : Prop :=
  ∀ task, l.tasks.lookup c=some task → task.tgid=g

section Groups

variable {tables : SyscallTables} {l : TraceTaskLifecycleState} {c g : UInt32}

theorem Knows.of_tasks {next : TraceTaskLifecycleState} (h : Knows l c g)
    (htasks : next.tasks=l.tasks) : Knows next c g := by
  unfold Knows
  rw [htasks]
  exact h

theorem Knows.insert {next : TraceTaskLifecycleState} {tid : UInt32} {task : TaskState}
    (h : Knows l c g) (htasks : next.tasks=l.tasks.insert tid task)
    (htask : tid=c → task.tgid=g) : Knows next c g := by
  intro other hother
  rw [htasks,lookup_insert_ite] at hother
  split_ifs at hother with hc
  · rw [←Option.some.inj hother]
    exact htask hc.symm
  · exact h other hother

theorem Knows.erase {next : TraceTaskLifecycleState} {tid : UInt32} (h : Knows l c g)
    (htasks : next.tasks=l.tasks.erase tid) : Knows next c g := by
  intro other hother
  rw [htasks,lookup_erase_ite] at hother
  split_ifs at hother
  exact h other hother

theorem ensuredTask_tgid {tid tgid : UInt32} (h : tgid≠0) : (l.ensuredTask tid tgid).tgid=tgid := by
  unfold TraceTaskLifecycleState.ensuredTask
  dsimp only
  rw [if_pos h]

theorem knows_setTask (hg : g≠0) (h : Knows l c g) {next : TraceTaskLifecycleState}
    {tid : UInt32} (tgid : UInt32) {task : TaskState} (hself : tid=c → tgid=g)
    (htasks : next.tasks=l.tasks.insert tid task)
    (htask : task.tgid=(l.ensuredTask tid tgid).tgid) : Knows next c g := by
  refine h.insert htasks fun hc => ?_
  rw [htask,ensuredTask_tgid (by rw [hself hc]; exact hg),hself hc]

/-- The survivor of an exec has the thread group of the exec record. -/
theorem applyExec_tgid {view : LifecycleEventView} (h : view.pid≠0) :
    (l.applyExec view).2.1.tgid=view.pid := by
  have hensured : ∀ (next : TraceTaskLifecycleState) (oldTID tid : UInt32),
      (next.ensureExecTaskState oldTID tid view.pid).2.tgid=view.pid := by
    intro next oldTID tid
    unfold TraceTaskLifecycleState.ensureExecTaskState
    by_cases hsame : oldTID=0 ∨ oldTID=tid
    · rw [if_pos hsame]
      exact ensuredTask_tgid h
    · rw [if_neg hsame]
      cases next.tasks.lookup tid <;> cases next.tasks.lookup oldTID
      · exact ensuredTask_tgid h
      all_goals
        dsimp only
        rw [if_pos h]
  exact hensured _ _ _

/-- Records that name only one thread group for a task leave no other in the task table. -/
theorem knows_lifecycleTasks (hg : g≠0) (h : Knows l c g) {view : LifecycleEventView}
    (hidentity : lifecycleIdentity view=c → view.pid=g)
    (hexec : view.action=lifecycleExec → TraceState.execTID view=c → view.pid=g)
    (hparent : view.action=lifecycleFork → TraceTaskLifecycleState.forkParentTID view=c →
      TraceTaskLifecycleState.forkParentTGID view=g)
    (hfork : ¬(view.action=lifecycleFork ∧ view.args[1].toUInt32=c)) :
    Knows (lifecycleTasks l view).1 c g := by
  rcases lifecycleTasks_cases l view with ⟨haction,htasks⟩ | ⟨haction,htasks⟩ | ⟨haction,htasks⟩ |
    ⟨⟨hnofork,hnoexec,hexit,hfree⟩,⟨hunknown,htasks⟩ | ⟨hunknown,htasks⟩⟩
  · rw [htasks]
    have hforked : Knows (l.setTask (TraceTaskLifecycleState.forkParentTID view)
        (l.forkParent view)) c g := by
      refine h.insert rfl fun hself => ?_
      have hgroup := hparent haction hself
      exact (ensuredTask_tgid (by rw [hgroup]; exact hg)).trans hgroup
    have hwritten := applyFork_tasks l view
    cases htracked : l.trackForkIdentity with
    | false =>
      rw [htracked,if_neg Bool.false_ne_true] at hwritten
      exact hforked.of_tasks hwritten
    | true =>
      rw [htracked,if_pos rfl] at hwritten
      exact hforked.insert hwritten fun hself => absurd ⟨haction,hself⟩ hfork
  · rw [htasks]
    have hwritten := applyExec_tasks (execPrepared l view) view
    rw [execPrepared_tasks] at hwritten
    have htask : TraceState.execTID view=c →
        ((execPrepared l view).applyExec view).2.1.tgid=g := by
      intro hself
      have hgroup := hexec haction hself
      exact (applyExec_tgid (by rw [hgroup]; exact hg)).trans hgroup
    by_cases hsame : view.args[0].toUInt32=0 ∨ view.args[0].toUInt32=TraceState.execTID view
    · rw [if_pos hsame] at hwritten
      exact h.insert hwritten htask
    · rw [if_neg hsame] at hwritten
      have herased : Knows {l with tasks := l.tasks.erase view.args[0].toUInt32} c g :=
        h.erase rfl
      exact herased.insert hwritten htask
  · have hself : view.tid=c → view.pid=g := by
      intro htid
      apply hidentity
      unfold lifecycleIdentity
      rcases haction with haction | haction <;> rw [haction] <;> exact htid
    have happlied : Knows (l.applyTaskExit view).1 c g :=
      knows_setTask hg (h.of_tasks (resolveForkIdentity_tasks l view.tid view.pid)) view.pid hself
        rfl rfl
    rw [htasks]
    have hcompleted := completed_tasks (l.applyTaskExit view).1 view
    by_cases hzero : view.tid=0
    · rw [if_pos hzero] at hcompleted
      exact happlied.of_tasks hcompleted
    · rw [if_neg hzero] at hcompleted
      exact happlied.erase hcompleted
  · rw [htasks]
    exact h
  · have hself : view.tid=c → view.pid=g := by
      intro htid
      apply hidentity
      unfold lifecycleIdentity
      rw [if_neg (fun hor => hor.elim hnofork hunknown),if_neg hnoexec]
      exact htid
    rw [htasks]
    exact knows_setTask hg (h.of_tasks (resolveForkIdentity_tasks l view.tid view.pid)) view.pid
      hself rfl rfl

/-- Records that name only one thread group for a task leave no other in the task table. -/
theorem knows_nextTasks (hc : c≠0) (hg : g≠0) (h : Knows l c g)
    (terminating : SyscallEventView → Bool) {record : TraceEventEnvelope}
    (update : TraceStateUpdate) (hconcerns : concernsTask tables record c → taskGroup record=g)
    (hfork : ¬forksTask record c) :
    Knows (nextTasks tables terminating l record update).1 c g := by
  unfold nextTasks
  unfold forksTask at hfork
  by_cases hsignal : record.isSignal=true
  · rw [if_pos hsignal]
    exact h
  · rw [if_neg hsignal]
    by_cases hlifecycle : record.isLifecycle=true
    · have hrecord : isLifecycleRecord record=true := by simp [isLifecycleRecord,hsignal,hlifecycle]
      have hgroup : record.lifecycleView.action≠lifecycleFork → taskGroup record=record.pid := by
        intro haction
        unfold taskGroup
        rw [if_neg fun hboth => haction hboth.2]
      rw [if_pos hlifecycle]
      refine knows_lifecycleTasks hg h (fun hself => ?_) (fun haction hself => ?_)
        (fun haction hself => ?_) fun hboth => hfork ⟨hrecord,hboth⟩
      · have haction : record.lifecycleView.action≠lifecycleFork := by
          intro haction
          unfold lifecycleIdentity at hself
          rw [if_pos (.inl haction)] at hself
          exact hc hself.symm
        rw [←hconcerns (.inl ⟨hc,?_⟩),hgroup haction]
        · rfl
        · unfold identityTID
          rw [if_neg hsignal,if_pos hlifecycle]
          exact hself
      · rw [←hconcerns (.inr (.inr ⟨hrecord,.inl ⟨haction,hself⟩⟩)),
          hgroup (by rw [haction]; decide)]
        rfl
      · rw [←hconcerns (.inr (.inr ⟨hrecord,.inr ⟨haction,hself⟩⟩))]
        unfold taskGroup
        rw [if_pos ⟨hrecord,haction⟩]
    · have hsyscall : isSyscallRecord record=true := by simp [isSyscallRecord,hsignal,hlifecycle]
      have hgroup : taskGroup record=record.pid := by simp [taskGroup,isLifecycleRecord,hlifecycle]
      have hresolved : Knows (l.resolveForkIdentity record.tid record.pid).1 c g :=
        h.of_tasks (resolveForkIdentity_tasks l record.tid record.pid)
      have hnoted : Knows ((l.resolveForkIdentity record.tid record.pid).1.noteSyscallTask tables
          record.syscallView) c g := by
        unfold TraceTaskLifecycleState.noteSyscallTask
        split_ifs
        · exact hresolved
        · refine knows_setTask hg hresolved record.pid (fun hself => ?_) rfl rfl
          rw [←hconcerns (.inr (.inl ⟨hsyscall,hself⟩)),hgroup]
      rw [if_neg hlifecycle]
      refine Knows.of_tasks ?_ (settleExit_tasks _ _ _)
      split_ifs
      · exact hnoted
      · exact hresolved

end Groups

section Runs

variable (tables : SyscallTables) (config : SessionConfig) (ops : List Operation)

/-- The record at a position names a task's number and thread group as its own. -/
def OwnRecord (i : ℕ) (c : UInt32) : Prop :=
  ∃ record, recordAt ops i=some record ∧ c≠0 ∧ identityTID record=c

/-- The record at a position is one of a task: its own, or an exec that moves another thread onto
the task's number. -/
def RecordOf (i : ℕ) (c : UInt32) : Prop :=
  ∃ record, recordAt ops i=some record ∧ c≠0 ∧ (identityTID record=c ∨ movesOnto record c)

/-- Process state handed on at a position. -/
def inheritedAt (i : ℕ) : Option ProcessStateInheritance :=
  (updateAt tables config ops i).bind (·.processInherit)

/-- A lossless run with one fork record of a task, whose records all name one thread group. -/
structure ForkRun (f : ℕ) (fork : TraceEventEnvelope) (c g : UInt32) : Prop where
  /-- Nothing is lost. -/
  lossless : ∀ op∈ops, op.isTaint=false
  /-- Forks are tracked. -/
  tracked : config.trackForkIdentity=true
  /-- The fork record. -/
  recordAt_fork : recordAt ops f=some fork
  /-- It forks the task. -/
  forks : forksTask fork c
  /-- It is the only one. -/
  single : ∀ i record, recordAt ops i=some record → forksTask record c → i=f
  /-- The thread group is a real one. -/
  group_ne : g≠0
  /-- Every record about the task names it. -/
  group : ∀ i record, recordAt ops i=some record → concernsTask tables record c →
    taskGroup record=g

/-- Exactly one update hands on the parent's process state, no later than both the fork record and
the child's first record. -/
def InheritsOnce (f : ℕ) (parentTGID c : UInt32) : Prop :=
  ∃ j, inheritedAt tables config ops j=some ⟨parentTGID,c⟩ ∧
    (∀ k q, inheritedAt tables config ops k=some ⟨q,c⟩ → k=j ∧ q=parentTGID) ∧
    ∀ m, RecordOf ops m c → j ≤ max f m

/-- A child that has shown itself is in the task table when its fork record arrives, and no exec
moves another thread onto its number while its fork is unresolved. -/
structure Recognised (f : ℕ) (fork : TraceEventEnvelope) (c : UInt32) : Prop where
  /-- The fork record finds the child's thread group. -/
  known : (∃ m < f, RecordOf ops m c) →
    forkedTGID (tasksAt tables config ops f) fork.lifecycleView≠0
  /-- The unresolved fork is not dropped. -/
  kept : ∀ i record, recordAt ops i=some record →
    (tasksAt tables config ops i).pendingForks.lookup c≠none → ¬movesOnto record c

end Runs

section Positions

variable {tables : SyscallTables} {config : SessionConfig} {ops : List Operation}

theorem OwnRecord.recordOf {i : ℕ} {c : UInt32} (h : OwnRecord ops i c) : RecordOf ops i c := by
  obtain ⟨record,hrecord,hc,hself⟩ := h
  exact ⟨record,hrecord,hc,.inl hself⟩

theorem not_movesOnto_of_identityTID {record : TraceEventEnvelope} {c : UInt32}
    (h : identityTID record=c) : ¬movesOnto record c := by
  rintro ⟨hlifecycle,hmoves⟩
  obtain ⟨hsignal,hkind⟩ : record.isSignal=false ∧ record.isLifecycle=true := by
    simpa [isLifecycleRecord] using hlifecycle
  refine not_movesOnto_of_execIdentity c ?_ hmoves
  rw [←h]
  unfold identityTID lifecycleIdentity
  rw [hmoves.1.1]
  simp [hsignal,hkind,lifecycleExec,lifecycleFork,lifecycleUnknownDetach,lifecycleUnknownExit]

/-- A handled record hands on what its task step says. -/
theorem inheritedAt_eq (hops : ∀ op∈ops, op.isTaint=false) {n : ℕ} {record : TraceEventEnvelope}
    (hrecord : recordAt ops n=some record) :
    inheritedAt tables config ops n=(nextTasks tables (terminatingIn tables config)
      (tasksAt tables config ops n) record
      ((systemAt tables config ops n).st.handleEnvelope tables record).2).2 := by
  unfold inheritedAt
  rw [updateAt_eq tables config hrecord,Option.bind_some]
  exact congrArg Prod.snd
    (tasksAt_succ tables config hops n hrecord (updateAt_eq tables config hrecord))

theorem inheritedAt_of_none {n : ℕ} (hrecord : recordAt ops n=none) :
    inheritedAt tables config ops n=none := by
  unfold inheritedAt updateAt
  rw [hrecord]
  rfl

/-- Nothing is handed on to thread zero. -/
theorem inheritedAt_ne_zero (hops : ∀ op∈ops, op.isTaint=false) {n : ℕ} {q c : UInt32}
    (h : inheritedAt tables config ops n=some ⟨q,c⟩) : c≠0 := by
  cases hrecord : recordAt ops n with
  | none =>
    rw [inheritedAt_of_none hrecord] at h
    cases h
  | some record =>
    rw [inheritedAt_eq hops hrecord,
      nextTasks_inherit tables _ c (tasksAt_modes tables config hops n).2] at h
    exact h.elim (·.2.2.1) (·.1)

/-- A stored exit that a generic enter releases is of the enter's thread. -/
theorem deferredExit_tid {p : Policy} {a : Contents} {record : TraceEventEnvelope}
    {d : DeferredValue} (htainted : p.tainted=false) (hkeyed : Keyed a)
    (hgeneric : isGenericEnterRecord record=true)
    (h : (handle p a record).2.deferredExit=some d) : d.view.tid=record.tid := by
  obtain ⟨hsyscall,henter⟩ : isSyscallRecord record=true ∧
      record.syscallView.isGenericEnter=true := by
    simpa [isGenericEnterRecord] using hgeneric
  rw [handle_of_isSyscallRecord hsyscall] at h
  unfold handleSyscall at h
  rw [if_pos henter] at h
  unfold handleEnter entering at h
  rw [htainted,if_neg Bool.false_ne_true] at h
  dsimp only at h
  revert h
  cases htaken : (a.rememberEnterEvent record.syscallView record.payload).takenExit
      record.syscallView with
  | none =>
    intro h
    cases h
  | some e =>
    have htid : e.view.tid=record.tid := hkeyed _ e (Option.filter_eq_some_iff.mp htaken).1
    intro h
    have h : (attach p ((a.rememberEnterEvent record.syscallView record.payload).setExit
      record.syscallView.tid none) e).2=some d := h
    unfold attach at h
    revert h
    rcases consume p _ e.view with ⟨b,value⟩
    cases value with
    | none =>
      intro h
      cases h
    | some v =>
      intro h
      rw [←Option.some.inj h]
      exact htid

/-- The exit a record reports is of the record's thread. -/
theorem handledExit_tid (hops : ∀ op∈ops, op.isTaint=false) {i : ℕ} {record : TraceEventEnvelope}
    {update : TraceStateUpdate} {view : SyscallEventView} (hrecord : recordAt ops i=some record)
    (hupdate : updateAt tables config ops i=some update)
    (hview : handledExit record update=some view) : view.tid=record.tid := by
  unfold handledExit at hview
  by_cases hgeneric : isGenericEnterRecord record=true
  · rw [if_pos hgeneric] at hview
    obtain ⟨d,hd,rfl⟩ := Option.map_eq_some_iff.mp hview
    have houtcome := outcome_updateAt hops hrecord hupdate
    have hreported : (handle (policy tables (newTraceStateForSession config))
        (contentsAt tables config ops i) record).2.deferredExit=some ⟨d.syscallView,
          d.pendingEnter.map (snapshotAt (systemAt tables config ops (i+1)).st.correlation)⟩ := by
      rw [←houtcome]
      unfold outcome
      rw [hd,Option.map_some]
    exact deferredExit_tid rfl (keyed_contentsAt tables config hops i) hgeneric hreported
  · rw [if_neg hgeneric] at hview
    split_ifs at hview
    rw [←Option.some.inj hview]
    rfl

variable {f : ℕ} {fork : TraceEventEnvelope} {c g : UInt32}

/-- Before its fork record a task has no unresolved fork. -/
theorem ForkRun.pending_before (h : ForkRun tables config ops f fork c g) {n : ℕ} (hn : n ≤ f) :
    (tasksAt tables config ops n).pendingForks.lookup c=none := by
  rw [Option.eq_none_iff_forall_ne_some]
  intro r hr
  obtain ⟨i,hi,⟨-,record,hrecord,hforks⟩,-⟩ := pendingForks_tasksAt h.lossless hr
  have := h.single i record hrecord hforks
  omega

/-- Before its fork record the task table has no other thread group for a task. -/
theorem ForkRun.knows (h : ForkRun tables config ops f fork c g) (hc : c≠0) {n : ℕ} (hn : n ≤ f) :
    Knows (tasksAt tables config ops n) c g := by
  induction n with
  | zero => exact fun task htask => nomatch htask
  | succ n ih =>
    have hknows := ih (by omega)
    cases hrecord : recordAt ops n with
    | none =>
      rw [tasksAt_succ_of_none tables config h.lossless n hrecord]
      exact hknows
    | some record =>
      have hnext := tasksAt_succ tables config h.lossless n hrecord
        (updateAt_eq tables config hrecord)
      rw [show tasksAt tables config ops (n+1)=_ from congrArg Prod.fst hnext]
      refine knows_nextTasks hc h.group_ne hknows _ _ (h.group n record hrecord) fun hforks => ?_
      have := h.single n record hrecord hforks
      omega

/-- The thread group a fork record finds is the task's or none. -/
theorem ForkRun.forkedTGID_eq (h : ForkRun tables config ops f fork c g) (hc : c≠0) :
    forkedTGID (tasksAt tables config ops f) fork.lifecycleView=0 ∨
      forkedTGID (tasksAt tables config ops f) fork.lifecycleView=g := by
  obtain ⟨hrecord,haction,hchild⟩ := h.forks
  have hgroup : TraceTaskLifecycleState.forkParentTID fork.lifecycleView=c →
      TraceTaskLifecycleState.forkParentTGID fork.lifecycleView=g := by
    intro hself
    rw [←h.group f fork h.recordAt_fork (.inr (.inr ⟨hrecord,.inr ⟨haction,hself⟩⟩))]
    unfold taskGroup
    rw [if_pos ⟨hrecord,haction⟩]
  have hknows : Knows ((tasksAt tables config ops f).setTask
      (TraceTaskLifecycleState.forkParentTID fork.lifecycleView)
      ((tasksAt tables config ops f).forkParent fork.lifecycleView)) c g :=
    knows_setTask h.group_ne (h.knows hc (Nat.le_refl f)) _ hgroup rfl rfl
  unfold forkedTGID TraceTaskLifecycleState.ensuredTask
  dsimp only
  rw [if_neg (not_not_intro rfl),hchild]
  cases hlookup : ((tasksAt tables config ops f).setTask
      (TraceTaskLifecycleState.forkParentTID fork.lifecycleView)
      ((tasksAt tables config ops f).forkParent fork.lifecycleView)).tasks.lookup c with
  | none => exact .inl rfl
  | some task => exact .inr (hknows task hlookup)

/-- A task's own record names its thread group. -/
theorem ForkRun.pid_eq (h : ForkRun tables config ops f fork c g) (hc : c≠0) {n : ℕ}
    {record : TraceEventEnvelope} (hrecord : recordAt ops n=some record)
    (hself : identityTID record=c) : record.pid=g := by
  have hgroup := h.group n record hrecord (.inl ⟨hc,hself⟩)
  unfold taskGroup at hgroup
  rwa [if_neg] at hgroup
  rintro ⟨hlifecycle,haction⟩
  obtain ⟨hsignal,hkind⟩ : record.isSignal=false ∧ record.isLifecycle=true := by
    simpa [isLifecycleRecord] using hlifecycle
  unfold identityTID lifecycleIdentity at hself
  rw [if_neg (by rw [hsignal]; exact Bool.false_ne_true),if_pos hkind,
    if_pos (.inl haction)] at hself
  exact hc hself.symm

/-- A record that forgets the unresolved fork of a task is one of the task. -/
theorem ForkRun.identity_or_movesOnto_of_dropsFork (h : ForkRun tables config ops f fork c g)
    {n : ℕ} {record : TraceEventEnvelope} {update : TraceStateUpdate}
    (hrecord : recordAt ops n=some record)
    (hupdate : updateAt tables config ops n=some update)
    (hdrops : dropsFork (terminatingIn tables config) record update c) :
    identityTID record=c ∨ movesOnto record c := by
  rcases hdrops with hmoves | ⟨⟨hlifecycle,haction,htid⟩,-⟩ | ⟨view,hview,-,htid⟩
  · exact .inr hmoves
  · obtain ⟨hsignal,hkind⟩ : record.isSignal=false ∧ record.isLifecycle=true := by
      simpa [isLifecycleRecord] using hlifecycle
    left
    unfold identityTID lifecycleIdentity
    rw [if_neg (by rw [hsignal]; exact Bool.false_ne_true),if_pos hkind]
    rcases haction with haction | haction <;> rw [haction] <;> exact htid.symm
  · have hown := handledExit_tid h.lossless hrecord hupdate hview
    have hsyscall : record.isSignal=false ∧ record.isLifecycle=false := by
      unfold handledExit isGenericEnterRecord isEdgeRecord isSyscallRecord at hview
      revert hview
      cases record.isSignal <;> cases record.isLifecycle <;> simp
    left
    unfold identityTID
    rw [if_neg (by rw [hsyscall.1]; exact Bool.false_ne_true),
      if_neg (by rw [hsyscall.2]; exact Bool.false_ne_true)]
    exact hown.symm.trans htid

/-- What a record does to the unresolved fork of a task, and what it hands on. -/
theorem ForkRun.step (h : ForkRun tables config ops f fork c g) (hc : c≠0) {n : ℕ}
    {record : TraceEventEnvelope} (hn : n≠f) (hrecord : recordAt ops n=some record) (q : UInt32) :
    ((tasksAt tables config ops (n+1)).pendingForks.lookup c=some ⟨q⟩ ↔
      (tasksAt tables config ops n).pendingForks.lookup c=some ⟨q⟩ ∧ ¬RecordOf ops n c) ∧
    (inheritedAt tables config ops n=some ⟨q,c⟩ ↔
      (tasksAt tables config ops n).pendingForks.lookup c=some ⟨q⟩ ∧ OwnRecord ops n c ∧ g=c) := by
  have hupdate := updateAt_eq tables config hrecord
  have hnext := tasksAt_succ tables config h.lossless n hrecord hupdate
  obtain ⟨htracked,htainted⟩ := tasksAt_modes tables config h.lossless n
  have hnofork : ¬forksTask record c := fun hforks => hn (h.single n record hrecord hforks)
  have hown : OwnRecord ops n c ↔ identityTID record=c := by
    refine ⟨?_,fun hself => ⟨record,hrecord,hc,hself⟩⟩
    rintro ⟨other,hother,-,hself⟩
    rwa [Option.some.inj (hrecord.symm.trans hother)]
  have hof : RecordOf ops n c ↔ identityTID record=c ∨ movesOnto record c := by
    refine ⟨?_,fun hself => ⟨record,hrecord,hc,hself⟩⟩
    rintro ⟨other,hother,-,hself⟩
    rwa [Option.some.inj (hrecord.symm.trans hother)]
  constructor
  · rw [show tasksAt tables config ops (n+1)=_ from congrArg Prod.fst hnext,
      nextTasks_iff tables _ c ⟨q⟩ htainted]
    simp only [hnofork,false_and,and_false,false_or,not_false_iff,true_and]
    refine and_congr Iff.rfl ?_
    rw [←not_or,hof]
    refine not_congr ⟨?_,?_⟩
    · rintro (hresolves | hdrops)
      · exact .inl hresolves.1.symm
      · exact h.identity_or_movesOnto_of_dropsFork hrecord hupdate hdrops
    · rintro (hself | hmoves)
      · refine .inl ⟨hself.symm,hc,?_⟩
        rw [h.pid_eq hc hrecord hself]
        exact h.group_ne
      · exact .inr (.inl hmoves)
  · rw [inheritedAt_eq h.lossless hrecord,nextTasks_inherit tables _ c htainted,hown]
    simp only [hnofork,false_and,and_false,false_or]
    constructor
    · rintro ⟨-,hself,hpid,hlookup⟩
      exact ⟨hlookup,hself,(h.pid_eq hc hrecord hself).symm.trans hpid⟩
    · rintro ⟨hlookup,hself,hg⟩
      exact ⟨hc,hself,(h.pid_eq hc hrecord hself).trans hg,hlookup⟩

/-- The fork record relates an unknown task, and hands on the process state of a known one. -/
theorem ForkRun.fork_step (h : ForkRun tables config ops f fork c g) (hc : c≠0) (q : UInt32) :
    ((tasksAt tables config ops (f+1)).pendingForks.lookup c=some ⟨q⟩ ↔
      forkedTGID (tasksAt tables config ops f) fork.lifecycleView=0 ∧
        q=TraceTaskLifecycleState.forkParentTGID fork.lifecycleView) ∧
    (inheritedAt tables config ops f=some ⟨q,c⟩ ↔
      forkedTGID (tasksAt tables config ops f) fork.lifecycleView=c ∧
        q=TraceTaskLifecycleState.forkParentTGID fork.lifecycleView) := by
  have hupdate := updateAt_eq tables config h.recordAt_fork
  have hnext := tasksAt_succ tables config h.lossless f h.recordAt_fork hupdate
  obtain ⟨htracked,htainted⟩ := tasksAt_modes tables config h.lossless f
  rw [h.tracked] at htracked
  have hpending := h.pending_before (Nat.le_refl f)
  constructor
  · rw [show tasksAt tables config ops (f+1)=_ from congrArg Prod.fst hnext,
      nextTasks_iff tables _ c ⟨q⟩ htainted,htracked,hpending]
    simp [h.forks,hc]
  · rw [inheritedAt_eq h.lossless h.recordAt_fork,nextTasks_inherit tables _ c htainted,htracked,
      hpending]
    simp [h.forks,hc]

/-- A fork is unresolved exactly from its record on, until a record of its task. -/
theorem ForkRun.pending_iff (h : ForkRun tables config ops f fork c g) (hc : c≠0) (n : ℕ)
    (q : UInt32) :
    (tasksAt tables config ops n).pendingForks.lookup c=some ⟨q⟩ ↔
      SetSince (fun i => i=f ∧ forkedTGID (tasksAt tables config ops f) fork.lifecycleView=0 ∧
          q=TraceTaskLifecycleState.forkParentTGID fork.lifecycleView)
        (RecordOf ops · c) n := by
  refine flag_iff_setSince
    (p := fun n => (tasksAt tables config ops n).pendingForks.lookup c=some ⟨q⟩)
    (fun hlookup => nomatch hlookup) (fun m => ?_) n
  by_cases hm : m=f
  · subst hm
    rw [(h.fork_step hc q).1,h.pending_before (Nat.le_refl m)]
    simp
  · cases hrecord : recordAt ops m with
    | none =>
      rw [tasksAt_succ_of_none tables config h.lossless m hrecord]
      have hnone : ¬RecordOf ops m c := by
        rintro ⟨record,hsome,-⟩
        rw [hrecord] at hsome
        cases hsome
      simp [hm,hnone]
    | some record =>
      rw [(h.step hc hm hrecord q).1]
      simp [hm]

/-- Process state is handed on by the fork record of a known task, or by the first record of its
own. -/
theorem ForkRun.inheritedAt_cases (h : ForkRun tables config ops f fork c g) (hc : c≠0) {k : ℕ}
    {q : UInt32} (hk : inheritedAt tables config ops k=some ⟨q,c⟩) :
    (k=f ∧ forkedTGID (tasksAt tables config ops f) fork.lifecycleView=c ∧
        q=TraceTaskLifecycleState.forkParentTGID fork.lifecycleView) ∨
      ((tasksAt tables config ops k).pendingForks.lookup c=some ⟨q⟩ ∧ OwnRecord ops k c ∧ g=c) := by
  by_cases hkf : k=f
  · subst hkf
    exact .inl ⟨rfl,(h.fork_step hc q).2.mp hk⟩
  · cases hrecord : recordAt ops k with
    | none =>
      rw [inheritedAt_of_none hrecord] at hk
      cases hk
    | some record => exact .inr ((h.step hc hkf hrecord q).2.mp hk)

theorem ForkRun.not_recordOf_fork (h : ForkRun tables config ops f fork c g) :
    ¬RecordOf ops f c := by
  rintro ⟨record,hrecord,hc,hself⟩
  obtain rfl := Option.some.inj (h.recordAt_fork.symm.trans hrecord)
  obtain ⟨hlifecycle,haction,-⟩ := h.forks
  have hself := hself.resolve_right fun hmoves =>
    absurd (haction.symm.trans hmoves.2.1.1) (by decide)
  obtain ⟨hsignal,hkind⟩ : fork.isSignal=false ∧ fork.isLifecycle=true := by
    simpa [isLifecycleRecord] using hlifecycle
  unfold identityTID lifecycleIdentity at hself
  rw [if_neg (by rw [hsignal]; exact Bool.false_ne_true),if_pos hkind,
    if_pos (.inl haction)] at hself
  exact hc hself.symm

end Positions

section Inheritance

variable {tables : SyscallTables} {config : SessionConfig} {ops : List Operation} {f : ℕ}
  {fork : TraceEventEnvelope} {c g : UInt32}

/-- A thread inherits nothing. -/
theorem ForkRun.not_inherited (h : ForkRun tables config ops f fork c g) (hg : g≠c) (k : ℕ)
    (q : UInt32) : inheritedAt tables config ops k≠some ⟨q,c⟩ := by
  intro hk
  have hc := inheritedAt_ne_zero h.lossless hk
  rcases h.inheritedAt_cases hc hk with ⟨-,hforked,-⟩ | ⟨-,-,hself⟩
  · rcases h.forkedTGID_eq hc with hzero | hgroup
    · exact hc (hforked.symm.trans hzero)
    · exact hg (hgroup.symm.trans hforked)
  · exact hg hself

/-- An unknown child's fork stays unresolved up to the child's first record. -/
theorem ForkRun.pending_until (h : ForkRun tables config ops f fork c g) (hc : c≠0)
    (hunknown : forkedTGID (tasksAt tables config ops f) fork.lifecycleView=0) {j : ℕ}
    (hfirst : ∀ m < j, ¬RecordOf ops m c) {n : ℕ} (hf : f < n) (hn : n ≤ j) :
    (tasksAt tables config ops n).pendingForks.lookup c=
      some ⟨TraceTaskLifecycleState.forkParentTGID fork.lifecycleView⟩ := by
  induction n with
  | zero => omega
  | succ n ih =>
    rcases Nat.lt_succ_iff_lt_or_eq.mp hf with hlt | rfl
    · have hpending := ih hlt (by omega)
      cases hrecord : recordAt ops n with
      | none =>
        rw [tasksAt_succ_of_none tables config h.lossless n hrecord]
        exact hpending
      | some record =>
        exact (h.step hc (by omega) hrecord _).1.mpr ⟨hpending,hfirst n (by omega)⟩
    · exact (h.fork_step hc _).1.mpr ⟨hunknown,rfl⟩

/-- A recognised child process inherits exactly once. -/
theorem ForkRun.inheritsOnce (h : ForkRun tables config ops f fork c g) (hg : g=c)
    (hshown : ∃ m, RecordOf ops m c) (hrecognised : Recognised tables config ops f fork c) :
    InheritsOnce tables config ops f
      (TraceTaskLifecycleState.forkParentTGID fork.lifecycleView) c := by
  have hc : c≠0 := hg ▸ h.group_ne
  rcases h.forkedTGID_eq hc with hunknown | hknown
  · classical
    have hfirst : ∀ m < Nat.find hshown, ¬RecordOf ops m c := fun m => Nat.find_min hshown
    have hafter : f < Nat.find hshown := by
      rcases Nat.lt_trichotomy f (Nat.find hshown) with hlt | heq | hgt
      · exact hlt
      · exact absurd (heq ▸ Nat.find_spec hshown) h.not_recordOf_fork
      · exact absurd hunknown (hrecognised.known ⟨_,hgt,Nat.find_spec hshown⟩)
    have hpending := h.pending_until hc hunknown hfirst hafter (Nat.le_refl _)
    obtain ⟨record,hrecord,-,hself⟩ := Nat.find_spec hshown
    have hown := hself.resolve_right
      (hrecognised.kept _ record hrecord (by rw [hpending]; exact nofun))
    refine ⟨Nat.find hshown,(h.step hc (by omega) hrecord _).2.mpr
      ⟨hpending,⟨record,hrecord,hc,hown⟩,hg⟩,fun k q hk => ?_,fun m hm => ?_⟩
    · rcases h.inheritedAt_cases hc hk with ⟨-,hforked,-⟩ | ⟨hlookup,hrecordOf,-⟩
      · exact absurd (hforked.symm.trans hunknown) hc
      · obtain ⟨i,hi,⟨rfl,-,hq⟩,hclear⟩ := (h.pending_iff hc k q).mp hlookup
        refine ⟨?_,hq⟩
        have hle : Nat.find hshown ≤ k := Nat.find_min' hshown hrecordOf.recordOf
        by_contra hne
        exact hclear _ hafter (by omega) (Nat.find_spec hshown)
    · exact le_max_of_le_right (Nat.find_min' hshown hm)
  · refine ⟨f,(h.fork_step hc _).2.mpr ⟨hknown.trans hg,rfl⟩,fun k q hk => ?_,
      fun m _ => le_max_left f m⟩
    rcases h.inheritedAt_cases hc hk with ⟨rfl,-,hq⟩ | ⟨hlookup,-,-⟩
    · exact ⟨rfl,hq⟩
    · obtain ⟨i,-,⟨-,hunknown,-⟩,-⟩ := (h.pending_iff hc k q).mp hlookup
      exact absurd (hknown.symm.trans hunknown) h.group_ne

/-- A child process that inherits exactly once was recognised. -/
theorem ForkRun.recognised (h : ForkRun tables config ops f fork c g) (hg : g=c)
    (honce : InheritsOnce tables config ops f
      (TraceTaskLifecycleState.forkParentTGID fork.lifecycleView) c) :
    Recognised tables config ops f fork c := by
  have hc : c≠0 := hg ▸ h.group_ne
  obtain ⟨j,hj,-,hbound⟩ := honce
  have hcases := h.inheritedAt_cases hc hj
  constructor
  · rintro ⟨m,hm,hrecordOf⟩ hunknown
    have hle := hbound m hrecordOf
    rcases hcases with ⟨-,hforked,-⟩ | ⟨hlookup,-,-⟩
    · exact hc (hforked.symm.trans hunknown)
    · obtain ⟨i,hi,⟨rfl,-⟩,-⟩ := (h.pending_iff hc j _).mp hlookup
      rw [max_eq_left (by omega)] at hle
      omega
  · intro i record hrecord hpending hmoves
    obtain ⟨⟨q⟩,hq⟩ := Option.ne_none_iff_exists'.mp hpending
    obtain ⟨_,hfi,⟨rfl,hunknown,-⟩,hclear⟩ := (h.pending_iff hc i q).mp hq
    rcases hcases with ⟨-,hforked,-⟩ | ⟨hlookup,hrecordOf,-⟩
    · exact hc (hforked.symm.trans hunknown)
    · obtain ⟨_,hfj,⟨rfl,-⟩,hclear'⟩ := (h.pending_iff hc j _).mp hlookup
      rcases Nat.lt_trichotomy j i with hlt | heq | hgt
      · exact hclear j hfj hlt hrecordOf.recordOf
      · subst heq
        obtain ⟨other,hother,-,hself⟩ := hrecordOf
        obtain rfl := Option.some.inj (hrecord.symm.trans hother)
        exact not_movesOnto_of_identityTID hself hmoves
      · exact hclear' i hfi hgt ⟨record,hrecord,hc,.inr hmoves⟩

end Inheritance

/-- A fork is inherited exactly once, by the later of its record and the child's first record, if
and only if the child was recognised; a thread inherits nothing. -/
theorem forkInheritance_once_iff (tables : SyscallTables) (config : SessionConfig)
    (ops : List Operation) (f : ℕ) (fork : TraceEventEnvelope) (c g : UInt32)
    (h : ForkRun tables config ops f fork c g) :
    (g=c → (∃ m, RecordOf ops m c) →
      (InheritsOnce tables config ops f
          (TraceTaskLifecycleState.forkParentTGID fork.lifecycleView) c ↔
        Recognised tables config ops f fork c)) ∧
    (g≠c → ∀ k q, inheritedAt tables config ops k≠some ⟨q,c⟩) :=
  ⟨fun hg hshown => ⟨h.recognised hg,h.inheritsOnce hg hshown⟩,h.not_inherited⟩

section Samples

/-- The fork record of a sample process 20. -/
def sampleFork : TraceEventEnvelope := lifecycleRecord lifecycleFork 7 #v[7,20,0,0,0,0]

/-- An enter record of the sample process. -/
def sampleEnter : TraceEventEnvelope where
  eventType := .enter
  eventFlags := bpfEventFlagGenericEnter
  pid := 20
  tid := 20
  sysID := 1
  enterTime := 300

/-- An exec record of the sample process, with the number the thread had before. -/
def sampleExec (oldTID : UInt64) : TraceEventEnvelope where
  eventType := .lifecycle
  lifecycleAction := lifecycleExec
  pid := 20
  tid := 20
  args := #v[oldTID,20,0,0,0,0]

/-- An exit record of the sample process. -/
def sampleExit : TraceEventEnvelope where
  eventType := .lifecycle
  lifecycleAction := lifecycleExit
  pid := 20
  tid := 20

/-- Records of the sample process around its fork record form a fork run. -/
theorem forkRun_sample {records : List TraceEventEnvelope} {f : ℕ}
    (hfork : records[f]?=some sampleFork)
    (hrecords : ∀ i record, records[i]?=some record → i=f ∨ record=sampleEnter ∨
      record=sampleExec 21 ∨ record=sampleExit) :
    ForkRun sampleTables {} (records.map .handle) f sampleFork 20 20 where
  lossless := by
    intro op hmem
    obtain ⟨record,-,rfl⟩ := List.mem_map.mp hmem
    rfl
  tracked := rfl
  recordAt_fork := recordAt_of_getElem (by rw [List.getElem?_map,hfork]; rfl)
  forks := by decide
  single := by
    intro i record hrecord hforks
    have hop := getElem_of_recordAt hrecord
    rw [List.getElem?_map] at hop
    obtain ⟨other,hother,heq⟩ := Option.map_eq_some_iff.mp hop
    obtain rfl := Operation.handle.inj heq
    rcases hrecords i other hother with hi | rfl | rfl | rfl
    · exact hi
    all_goals exact absurd hforks (by decide)
  group_ne := by decide
  group := by
    intro i record hrecord hconcerns
    have hop := getElem_of_recordAt hrecord
    rw [List.getElem?_map] at hop
    obtain ⟨other,hother,heq⟩ := Option.map_eq_some_iff.mp hop
    obtain rfl := Operation.handle.inj heq
    rcases hrecords i other hother with rfl | rfl | rfl | rfl
    · obtain rfl := Option.some.inj (hfork.symm.trans hother)
      rcases hconcerns with ⟨-,h⟩ | ⟨h,-⟩ | ⟨-,⟨h,-⟩ | ⟨-,h⟩⟩ <;> exact absurd h (by decide)
    all_goals decide

/-- The state of the sample process is never handed on when another of its threads execs before the
process has shown itself, and when its exit record arrives before its fork record. -/
theorem unrecognised_child_not_inherited :
    let moved := [sampleFork,sampleExec 21,sampleEnter].map Operation.handle
    let early := [sampleExit,sampleFork].map Operation.handle
    (ForkRun sampleTables {} moved 0 sampleFork 20 20 ∧ RecordOf moved 1 20 ∧
      ¬InheritsOnce sampleTables {} moved 0
        (TraceTaskLifecycleState.forkParentTGID sampleFork.lifecycleView) 20) ∧
    (ForkRun sampleTables {} early 1 sampleFork 20 20 ∧ RecordOf early 0 20 ∧
      ¬InheritsOnce sampleTables {} early 1
        (TraceTaskLifecycleState.forkParentTGID sampleFork.lifecycleView) 20) := by
  intro moved early
  have hmoved : ForkRun sampleTables {} moved 0 sampleFork 20 20 := by
    refine forkRun_sample rfl fun i record hrecord => ?_
    match i with
    | 0 => exact .inl rfl
    | 1 => exact .inr (.inr (.inl (Option.some.inj hrecord).symm))
    | 2 => exact .inr (.inl (Option.some.inj hrecord).symm)
  have hearly : ForkRun sampleTables {} early 1 sampleFork 20 20 := by
    refine forkRun_sample rfl fun i record hrecord => ?_
    match i with
    | 0 => exact .inr (.inr (.inr (Option.some.inj hrecord).symm))
    | 1 => exact .inl rfl
  have hexit : RecordOf early 0 20 := ⟨sampleExit,rfl,by decide,.inl rfl⟩
  refine ⟨⟨hmoved,⟨sampleExec 21,rfl,by decide,.inr ⟨rfl,by decide,rfl⟩⟩,fun honce => ?_⟩,
    hearly,hexit,fun honce => ?_⟩
  · exact (hmoved.recognised rfl honce).kept 1 (sampleExec 21) rfl (by decide +kernel)
      ⟨rfl,by decide,rfl⟩
  · exact (hearly.recognised rfl honce).known ⟨0,Nat.one_pos,hexit⟩ (by decide +kernel)

/-- The sample process shows itself after its fork record and inherits exactly once. -/
theorem forkInheritance_once_iff_sample :
    let ops := [sampleFork,sampleEnter].map Operation.handle
    InheritsOnce sampleTables {} ops 0
      (TraceTaskLifecycleState.forkParentTGID sampleFork.lifecycleView) 20 := by
  intro ops
  have hrun : ForkRun sampleTables {} ops 0 sampleFork 20 20 := by
    refine forkRun_sample rfl fun i record hrecord => ?_
    match i with
    | 0 => exact .inl rfl
    | 1 => exact .inr (.inl (Option.some.inj hrecord).symm)
  refine ((forkInheritance_once_iff sampleTables {} ops 0 sampleFork 20 20 hrun).1 rfl
    ⟨1,sampleEnter,rfl,by decide,.inl rfl⟩).mpr ⟨fun ⟨m,hm,_⟩ => by omega,?_⟩
  intro i record hrecord _ hmoves
  match i with
  | 0 =>
    obtain rfl := Option.some.inj hrecord
    exact absurd hmoves.2.1.1 (by decide)
  | 1 =>
    obtain rfl := Option.some.inj hrecord
    exact absurd hmoves.1 (by decide)

end Samples

end StraceGo.EventStateForkInheritance

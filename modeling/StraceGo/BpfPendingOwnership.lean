import StraceGo.BpfSyscallTracking

/-!
# Who touches the pending enter of a task

Every program writes the storage of the current task only. The free tracepoint
is the one program whose cleanup is keyed by a thread id while it runs in the
context of an unrelated task: when the freed thread still has a filter entry,
the pending enter of that unrelated task is dropped. The main result says that
this is the only way a task inside a syscall loses its pending enter.
-/

namespace StraceGo.BpfPendingOwnership

open StraceGo.FiniteMaps StraceGo.EventEnvelope StraceGo.BpfRuntime StraceGo.BpfPendingState
open StraceGo.BpfEnterPrograms StraceGo.BpfLifecycle StraceGo.BpfDispatch StraceGo.BpfTracking
open StraceGo.BpfSyscallTracking

/-- Two states that agree on the configuration and on the storage of every other task. -/
structure TouchesOnly (task : TaskID) (t t' : TrackingState) : Prop where
  /-- The configuration stays. -/
  config_eq : t'.config=t.config
  /-- The listed syscalls stay. -/
  syscallFilter_eq : t'.syscallFilterMap=t.syscallFilterMap
  /-- The storage of every other task stays. -/
  lookup_eq : ∀ other, other≠task →
    t'.pendingTaskStorage.lookup other=t.pendingTaskStorage.lookup other

section Frames

variable {task : TaskID} {t t' t'' : TrackingState}

theorem TouchesOnly.refl (task : TaskID) (t : TrackingState) : TouchesOnly task t t :=
  ⟨rfl,rfl,fun _ _ => rfl⟩

theorem TouchesOnly.trans (h : TouchesOnly task t t') (h' : TouchesOnly task t' t'') :
    TouchesOnly task t t'' :=
  ⟨h'.config_eq.trans h.config_eq,h'.syscallFilter_eq.trans h.syscallFilter_eq,
    fun other hne => (h'.lookup_eq other hne).trans (h.lookup_eq other hne)⟩

/-- Changes of the other maps leave every storage alone. -/
theorem TouchesOnly.maps (task : TaskID) (t : TrackingState) (arm : UInt32)
    (filter slots : GoMap UInt32 UInt32) :
    TouchesOnly task t { t with armForkMap := arm, filterMap := filter, pendingExecMap := slots } :=
  ⟨rfl,rfl,fun _ _ => rfl⟩

theorem clearPending_touches (task : TaskID) (t : TrackingState) :
    TouchesOnly task t (clearPending task t) := by
  refine ⟨rfl,rfl,?_⟩
  intro other hne
  rw [clearPending_lookup,if_neg hne]

theorem store_touches (task : TaskID) (state : PendingTaskState) (t : TrackingState) :
    TouchesOnly task t (store task state t) := by
  refine ⟨rfl,rfl,?_⟩
  intro other hne
  unfold store
  dsimp only
  rw [lookup_insert_ite,if_neg hne]

theorem rejectABI_touches (inv : Invocation) (t : TrackingState) :
    TouchesOnly inv.task t (rejectABI inv t) :=
  (clearPending_touches inv.task t).trans (TouchesOnly.maps _ _ _ _ _)

theorem armSlot_touches (arch : Arch) (inv : Invocation) (sysID : UInt32) (t : TrackingState) :
    TouchesOnly inv.task t (armSlot arch inv sysID t) := by
  unfold armSlot
  split_ifs
  · exact TouchesOnly.maps _ _ _ _ _
  · exact TouchesOnly.refl _ _

theorem saveProgram_touches (inv : Invocation) (ctx : EnterContext) (program : EnterProgram)
    (t : TrackingState) : TouchesOnly inv.task t (saveProgram inv ctx program t) := by
  unfold saveProgram saveEnter
  cases savedTime inv ctx program with
  | none => exact TouchesOnly.refl _ _
  | some time =>
    dsimp only
    split_ifs
    · exact TouchesOnly.refl _ _
    · exact store_touches _ _ _

theorem enterProgram_touches (inv : Invocation) (ctx : EnterContext) (program : EnterProgram)
    (t : TrackingState) : TouchesOnly inv.task t (enterProgram inv ctx program t) := by
  have hsave := saveProgram_touches inv ctx program t
  unfold enterProgram
  dsimp only
  split
  · split_ifs
    · exact hsave.trans (TouchesOnly.maps _ _ _ _ _)
    · exact hsave
  · exact hsave

/-- A syscall enter touches the current task's storage only. -/
theorem enter_touches (arch : Arch) (routes : Routes arch) (inv : Invocation)
    (ctx : EnterContext) (t : TrackingState) :
    TouchesOnly inv.task t (enter arch routes inv ctx t) := by
  have harm := armSlot_touches arch inv ctx.sysID t
  unfold enter
  cases lookupLifecycleTaskFilterFlags t inv.pid inv.tid with
  | none => exact TouchesOnly.refl _ _
  | some flags =>
    dsimp only
    split_ifs
    · exact rejectABI_touches inv t
    · exact TouchesOnly.refl _ _
    · exact harm
    · exact harm.trans (enterProgram_touches _ _ _ _)

theorem exitProgram_touches (arch : Arch) (program : ExitProgram) (inv : Invocation)
    (ctx : ExitContext) (t : TrackingState) :
    TouchesOnly inv.task t (exitProgram arch program inv ctx t) := by
  have hclear : ∀ slots, TouchesOnly inv.task t
      { clearPending inv.task t with pendingExecMap := slots } :=
    fun slots => (clearPending_touches inv.task t).trans (TouchesOnly.maps _ _ _ _ _)
  unfold exitProgram
  cases lookupPendingSyscallForExit arch inv ctx.ret t with
  | none =>
    dsimp only
    rw [ite_self]
    exact TouchesOnly.refl _ _
  | some found =>
    dsimp only
    by_cases hguard : (!program.guard ctx.sysID)=true
    · rw [if_pos hguard]
      exact TouchesOnly.refl _ _
    rw [if_neg hguard]
    by_cases hmatch : found.pending.sysID=ctx.sysID ∧ found.pending.tid=found.pendingTid
    · rw [if_neg (not_not.mpr hmatch)]
      by_cases hhandles : (!program.handles found.pending.sysID)=true
      · rw [if_pos hhandles]
        exact TouchesOnly.refl _ _
      · rw [if_neg hhandles]
        exact hclear _
    · rw [if_pos hmatch]
      exact hclear _

/-- A syscall exit touches the current task's storage only. -/
theorem leave_touches (arch : Arch) (routes : Routes arch) (inv : Invocation)
    (ctx : ExitContext) (t : TrackingState) :
    TouchesOnly inv.task t (leave arch routes inv ctx t) := by
  unfold leave
  cases lookupLifecycleTaskFilterFlags t inv.pid inv.tid with
  | none =>
    dsimp only
    rw [ite_self]
    exact TouchesOnly.refl _ _
  | some flags =>
    dsimp only
    split_ifs
    · exact TouchesOnly.refl _ _
    · exact rejectABI_touches inv t
    · exact TouchesOnly.refl _ _
    · exact TouchesOnly.refl _ _
    · exact exitProgram_touches _ _ _ _ _

theorem fork_touches (inv : Invocation) (childPid : UInt32) (t : TrackingState) (task : TaskID) :
    TouchesOnly task t (fork inv childPid t) := by
  have harm : TouchesOnly task t (armChild inv childPid t) := by
    unfold armChild
    split_ifs
    · exact TouchesOnly.maps _ _ _ _ _
    · exact TouchesOnly.refl _ _
  unfold fork
  dsimp only
  split_ifs
  · refine harm.trans ?_
    unfold followChild
    split_ifs
    · exact TouchesOnly.maps _ _ _ _ _
    · exact TouchesOnly.refl _ _
  · exact harm

theorem adopt_touches {inv : Invocation} {oldTid : UInt32} {t t' : TrackingState}
    (h : adopt inv oldTid t=some t') (task : TaskID) : TouchesOnly task t t' := by
  unfold adopt at h
  cases hflags : trackedFlags t oldTid with
  | none =>
    rw [hflags] at h
    split_ifs at h
    · rw [←Option.some.inj h]
      exact TouchesOnly.refl _ _
  | some flags =>
    rw [hflags] at h
    split_ifs at h
    · rw [←Option.some.inj h]
      exact TouchesOnly.refl _ _
    · rw [←Option.some.inj h]
      exact TouchesOnly.maps _ _ _ _ _

theorem disarm_touches (inv : Invocation) (t : TrackingState) (task : TaskID) :
    TouchesOnly task t (disarm inv t) := by
  unfold disarm
  split
  · exact TouchesOnly.refl _ _
  · split_ifs
    · exact TouchesOnly.maps _ _ _ _ _
    · exact TouchesOnly.maps _ _ _ _ _
    · exact TouchesOnly.refl _ _

/-- An exec touches the current task's storage only. -/
theorem exec_touches (arch : Arch) (inv : Invocation) (oldPid : UInt32) (t : TrackingState) :
    TouchesOnly inv.task t (exec arch inv oldPid t) := by
  unfold exec
  cases h : adopt inv oldPid t with
  | none => exact TouchesOnly.refl _ _
  | some adopted =>
    dsimp only
    refine (adopt_touches h inv.task).trans ((disarm_touches inv adopted inv.task).trans ?_)
    unfold complete
    dsimp only
    split_ifs
    · exact (clearPending_touches _ _).trans (TouchesOnly.maps _ _ _ _ _)
    · exact TouchesOnly.maps _ _ _ _ _

theorem clearTask_touches (inv : Invocation) (pid tid : UInt32) (t : TrackingState) :
    TouchesOnly inv.task t (clearTask inv pid tid t) := by
  have hclear := clearPending_touches inv.task t
  unfold clearTask
  dsimp only
  split_ifs
  · exact hclear.trans (TouchesOnly.maps _ _ _ _ _)
  · exact hclear.trans (TouchesOnly.maps _ _ _ _ _)
  · exact hclear.trans (TouchesOnly.maps _ _ _ _ _)
  · exact hclear.trans (TouchesOnly.maps _ _ _ _ _)

theorem exit_touches (inv : Invocation) (t : TrackingState) :
    TouchesOnly inv.task t (exit inv t) := by
  unfold exit
  split_ifs
  · exact TouchesOnly.refl _ _
  · exact clearPending_touches _ _
  · exact clearTask_touches _ _ _ _

theorem free_touches (inv : Invocation) (tid : UInt32) (t : TrackingState) :
    TouchesOnly inv.task t (free inv tid t) := by
  unfold free
  split_ifs
  · exact TouchesOnly.refl _ _
  · exact clearTask_touches _ _ _ _

/-- Either nothing changes or the auxiliary word of a pending enter does. -/
def Annotates (task : TaskID) (t t' : TrackingState) : Prop :=
  t'=t ∨ ∃ state aux0, t.pendingTaskStorage.lookup task=some state ∧
    t'=store task { state with aux0 := aux0 } t

theorem Annotates.touches (h : Annotates task t t') : TouchesOnly task t t' := by
  rcases h with rfl | ⟨state,aux0,-,rfl⟩
  · exact TouchesOnly.refl _ _
  · exact store_touches _ _ _

theorem traceKvmUserspaceExit_annotates (arch : Arch) (inv : Invocation) (reason : UInt32)
    (error : Int32) (st : RuntimeState) :
    Annotates inv.task st.toTrackingState
      (traceKvmUserspaceExit arch inv reason error st).toTrackingState := by
  unfold traceKvmUserspaceExit
  cases hstate : (currentPendingTaskState inv st.toTrackingState).filter PendingTaskState.valid with
  | none => exact .inl rfl
  | some state =>
    dsimp only
    by_cases hskip : (!hasBit st.config configKvmExit || state.syscall.sysID != sysIoctl arch ||
      state.syscall.args.get 1 != kvmRunIoctl)=true
    · rw [if_pos hskip]
      exact .inl rfl
    · rw [if_neg hskip]
      exact .inr ⟨state,_,(Option.filter_eq_some_iff.mp hstate).1,rfl⟩

theorem traceNamespaceFork_annotates (arch : Arch) (inv : Invocation) (translated : Option UInt32)
    (st : RuntimeState) :
    Annotates inv.task st.toTrackingState
      (traceNamespaceFork arch inv translated st).toTrackingState := by
  unfold traceNamespaceFork
  cases hstate : (currentPendingTaskState inv st.toTrackingState).filter PendingTaskState.valid with
  | none => exact .inl rfl
  | some state =>
    cases translated with
    | none => exact .inl rfl
    | some child =>
      dsimp only
      split_ifs
      · exact .inl rfl
      · exact .inr ⟨state,child,(Option.filter_eq_some_iff.mp hstate).1,rfl⟩

theorem traceKretprobeRecvmsg_touches (arch : Arch) (inv : Invocation) (ctx : ExitContext)
    (st : RuntimeState) :
    TouchesOnly inv.task st.toTrackingState
      (traceKretprobeRecvmsg arch inv ctx st).toTrackingState := by
  unfold traceKretprobeRecvmsg
  split
  · exact TouchesOnly.refl _ _
  · split_ifs
    · exact TouchesOnly.refl _ _
    · rw [consumePendingSyscall_tracking,RuntimeState.tell_toTrackingState]
      exact (clearPending_touches _ _).trans (TouchesOnly.maps _ _ _ _ _)

theorem traceSignal_tracking (inv : Invocation) (pid tid : UInt32) (record : TraceEventEnvelope)
    (st : RuntimeState) :
    (traceSignal inv pid tid record st).toTrackingState=st.toTrackingState := by
  unfold traceSignal
  split_ifs <;> rfl

/-- Every program touches the storage of the current task only. -/
theorem apply_touches (arch : Arch) (routes : Routes arch) (step : Step) (st : RuntimeState) :
    TouchesOnly step.inv.task st.toTrackingState
      (step.apply arch routes st).toTrackingState := by
  obtain ⟨inv,program⟩ := step
  cases program with
  | sysEnter ctx =>
    change TouchesOnly _ _ (traceSysEnter arch routes inv ctx st).toTrackingState
    rw [traceSysEnter_tracking]
    exact enter_touches _ _ _ _ _
  | sysExit ctx =>
    change TouchesOnly _ _ (traceSysExit arch routes inv ctx st).toTrackingState
    rw [traceSysExit_tracking]
    exact leave_touches _ _ _ _ _
  | kretprobeRecvmsg ctx => exact traceKretprobeRecvmsg_touches _ _ _ _
  | kvmUserspaceExit reason error => exact (traceKvmUserspaceExit_annotates _ _ _ _ _).touches
  | namespaceFork translated => exact (traceNamespaceFork_annotates _ _ _ _).touches
  | signal pid tid record =>
    change TouchesOnly _ _ (traceSignal inv pid tid record st).toTrackingState
    rw [traceSignal_tracking]
    exact TouchesOnly.refl _ _
  | schedProcessFork childPid =>
    change TouchesOnly _ _ (traceSchedProcessFork inv childPid st).toTrackingState
    rw [traceSchedProcessFork_tracking]
    exact fork_touches _ _ _ _
  | schedProcessExec oldPid filename =>
    change TouchesOnly _ _ (traceSchedProcessExec arch inv oldPid filename st).toTrackingState
    rw [traceSchedProcessExec_tracking]
    exact exec_touches _ _ _ _
  | schedProcessExit exitCode =>
    change TouchesOnly _ _ (traceSchedProcessExit inv exitCode st).toTrackingState
    rw [traceSchedProcessExit_tracking]
    exact exit_touches _ _
  | schedProcessFree tid =>
    change TouchesOnly _ _ (traceSchedProcessFree inv tid st).toTrackingState
    rw [traceSchedProcessFree_tracking]
    exact free_touches _ _ _

end Frames

section Runs

/-- Programs that run in a task without taking it out of its syscall. -/
def Staying (arch : Arch) (sysID : UInt32) : Program → Prop
  | .sysEnter _ => False
  | .sysExit _ => False
  | .kretprobeRecvmsg _ => sysID≠sysRecvmsg arch
  | .kvmUserspaceExit _ _ => True
  | .namespaceFork _ => True
  | .signal _ _ _ => True
  | .schedProcessFork _ => True
  | .schedProcessExec _ _ => False
  | .schedProcessExit _ => False
  | .schedProcessFree _ => True

/-- A step of another task, or one that keeps the task inside its syscall. -/
def Quiet (arch : Arch) (task : TaskID) (sysID : UInt32) (step : Step) : Prop :=
  step.inv.task=task → Staying arch sysID step.program

/-- Whether a program is the free of a thread id that still has a filter entry. -/
def freesTracked (t : TrackingState) : Program → Bool
  | .schedProcessFree tid => tid != 0 && isLifecycleTaskTracked t tid tid
  | _ => false

/-- A tracked thread id is freed in the context of the task. -/
def Frees (task : TaskID) (step : Step) (t : TrackingState) : Prop :=
  step.inv.task=task ∧ freesTracked t step.program=true

/-- No tracked thread id is freed in the context of the task along a run. -/
def Undisturbed (arch : Arch) (routes : Routes arch) (task : TaskID) :
    List Step → RuntimeState → Prop
  | [],_ => True
  | step::steps,st => ¬Frees task step st.toTrackingState ∧
      Undisturbed arch routes task steps (step.apply arch routes st)

/-- The storage of a task holds a given enter, pending or not. -/
def Holds (task : TaskID) (p : PendingSyscall) (valid : Bool) (t : TrackingState) : Prop :=
  ∃ aux0, t.pendingTaskStorage.lookup task=some ⟨p,aux0,valid⟩

variable {arch : Arch} {task : TaskID} {p : PendingSyscall} {valid : Bool}

theorem Holds.congr {t t' : TrackingState} (h : Holds task p valid t)
    (heq : t'.pendingTaskStorage.lookup task=t.pendingTaskStorage.lookup task) :
    Holds task p valid t' := by
  obtain ⟨aux0,hlookup⟩ := h
  exact ⟨aux0,heq.trans hlookup⟩

theorem Holds.annotates {t t' : TrackingState} (h : Holds task p valid t)
    (hann : Annotates task t t') : Holds task p valid t' := by
  obtain ⟨aux0,hlookup⟩ := h
  rcases hann with rfl | ⟨state,aux1,hstate,rfl⟩
  · exact ⟨aux0,hlookup⟩
  · rw [hlookup] at hstate
    rw [←Option.some.inj hstate]
    exact ⟨aux1,Finmap.lookup_insert _⟩

theorem Holds.clear {t : TrackingState} (h : Holds task p valid t) :
    Holds task p false (clearPending task t) := by
  obtain ⟨aux0,hlookup⟩ := h
  refine ⟨0,?_⟩
  rw [clearPending_lookup,if_pos rfl,hlookup]
  rfl

theorem Holds.currentPendingSyscall {t : TrackingState} (h : Holds task p valid t)
    {inv : Invocation} (htask : inv.task=task) :
    BpfPendingState.currentPendingSyscall inv t=if valid then some p else none := by
  obtain ⟨aux0,hlookup⟩ := h
  unfold BpfPendingState.currentPendingSyscall currentPendingTaskState
  rw [htask,hlookup]
  cases valid <;> rfl

/-- A quiet step that frees no tracked thread id keeps the pending enter. -/
theorem Holds.apply_of_not_frees (routes : Routes arch) {step : Step} {st : RuntimeState}
    (h : Holds task p valid st.toTrackingState) (hquiet : Quiet arch task p.sysID step)
    (hfrees : ¬Frees task step st.toTrackingState) :
    Holds task p valid (step.apply arch routes st).toTrackingState := by
  by_cases hcurrent : step.inv.task=task
  · obtain ⟨inv,program⟩ := step
    have hstay := hquiet hcurrent
    dsimp only at hcurrent hstay
    subst hcurrent
    cases program with
    | sysEnter ctx => exact hstay.elim
    | sysExit ctx => exact hstay.elim
    | schedProcessExec oldPid filename => exact hstay.elim
    | schedProcessExit exitCode => exact hstay.elim
    | kretprobeRecvmsg ctx =>
      change Holds _ _ _ (traceKretprobeRecvmsg arch inv ctx st).toTrackingState
      unfold traceKretprobeRecvmsg
      rw [h.currentPendingSyscall rfl]
      cases valid with
      | false => exact h
      | true =>
        have hother : p.sysID≠sysRecvmsg arch := hstay
        rw [if_pos rfl]
        dsimp only
        rw [if_pos hother]
        exact h
    | kvmUserspaceExit reason error =>
      exact h.annotates (traceKvmUserspaceExit_annotates _ _ _ _ _)
    | namespaceFork translated => exact h.annotates (traceNamespaceFork_annotates _ _ _ _)
    | signal pid tid record =>
      change Holds _ _ _ (traceSignal inv pid tid record st).toTrackingState
      rw [traceSignal_tracking]
      exact h
    | schedProcessFork childPid =>
      change Holds _ _ _ (traceSchedProcessFork inv childPid st).toTrackingState
      rw [traceSchedProcessFork_tracking]
      exact h.congr ((fork_touches inv childPid _ (inv.task+1)).lookup_eq _
        (Nat.succ_ne_self inv.task).symm)
    | schedProcessFree tid =>
      have hskip : tid=0 ∨ isLifecycleTaskTracked st.toTrackingState tid tid=false := by
        by_contra hboth
        rw [not_or,Bool.not_eq_false] at hboth
        exact hfrees ⟨rfl,by simp [freesTracked,hboth.1,hboth.2]⟩
      change Holds _ _ _ (traceSchedProcessFree inv tid st).toTrackingState
      unfold traceSchedProcessFree
      rw [if_pos hskip]
      exact h
  · exact h.congr ((apply_touches arch routes step st).lookup_eq task (Ne.symm hcurrent))

/-- The free of a tracked thread id drops the pending enter of the task it runs in. -/
theorem Holds.apply_of_frees (routes : Routes arch) {step : Step} {st : RuntimeState}
    (h : Holds task p valid st.toTrackingState) (hfrees : Frees task step st.toTrackingState) :
    Holds task p false (step.apply arch routes st).toTrackingState := by
  obtain ⟨inv,program⟩ := step
  obtain ⟨hcurrent,htracked⟩ := hfrees
  dsimp only at hcurrent htracked
  subst hcurrent
  cases program with
  | schedProcessFree tid =>
    unfold freesTracked at htracked
    rw [Bool.and_eq_true,bne_iff_ne] at htracked
    change Holds _ _ _ (traceSchedProcessFree inv tid st).toTrackingState
    rw [traceSchedProcessFree_tracking]
    unfold free clearTask
    rw [if_neg (by simp [htracked.1,htracked.2]),if_neg (not_not.mpr rfl)]
    exact h.clear.congr rfl
  | _ => simp [freesTracked] at htracked

/-- Along a quiet run a pending enter stays, and it stays pending exactly when undisturbed. -/
theorem Holds.run (routes : Routes arch) {steps : List Step} {st : RuntimeState}
    (h : Holds task p valid st.toTrackingState)
    (hquiet : ∀ step ∈ steps, Quiet arch task p.sysID step) :
    ∃ later, Holds task p later (run arch routes steps st).toTrackingState ∧
      (later=true ↔ valid=true ∧ Undisturbed arch routes task steps st) := by
  induction steps generalizing st valid with
  | nil => exact ⟨valid,h,by simp [Undisturbed]⟩
  | cons step steps ih =>
    have hrest : ∀ next ∈ steps, Quiet arch task p.sysID next :=
      fun next hnext => hquiet next (List.mem_cons_of_mem _ hnext)
    by_cases hfrees : Frees task step st.toTrackingState
    · obtain ⟨later,hlater,hiff⟩ := ih (h.apply_of_frees routes hfrees) hrest
      exact ⟨later,hlater,by simp [hiff,Undisturbed,hfrees]⟩
    · obtain ⟨later,hlater,hiff⟩ :=
        ih (h.apply_of_not_frees routes (hquiet step List.mem_cons_self) hfrees) hrest
      exact ⟨later,hlater,by simp [hiff,Undisturbed,hfrees]⟩

/-- Selection depends on the configuration and the listed syscalls. -/
theorem isSelected_congr {t t' : TrackingState} (hconfig : t'.config=t.config)
    (hfilter : t'.syscallFilterMap=t.syscallFilterMap) (sysID : UInt32) :
    isSelected arch t' sysID=isSelected arch t sysID := by
  unfold isSelected shouldTraceSyscall isFdStateTracked
  rw [hconfig,hfilter]

/-- No program changes which syscalls are selected. -/
theorem isSelected_run (routes : Routes arch) (steps : List Step) (st : RuntimeState)
    (sysID : UInt32) :
    isSelected arch (BpfDispatch.run arch routes steps st).toTrackingState sysID=
      isSelected arch st.toTrackingState sysID := by
  induction steps generalizing st with
  | nil => rfl
  | cons step steps ih =>
    have htouch := apply_touches arch routes step st
    exact (ih (step.apply arch routes st)).trans
      (isSelected_congr htouch.config_eq htouch.syscallFilter_eq sysID)

end Runs

section Enters

/-- The enter dispatcher saves a pending enter that starts at the given time. -/
structure Saves (arch : Arch) (routes : Routes arch) (inv : Invocation) (ctx : EnterContext)
    (time : UInt64) (t : TrackingState) : Prop where
  /-- The task is traced and past its first exec, or executes its program. -/
  reported : ∃ flags, lookupLifecycleTaskFilterFlags t inv.pid inv.tid=some flags ∧
    isPreExecSuppressedSyscall arch flags ctx.sysID=false
  /-- The syscall uses the native interface. -/
  native : inv.nativeABI=true
  /-- The syscall is no return from a signal handler. -/
  returns : ctx.sysID≠sysRtSigreturn arch
  /-- The syscall is selected. -/
  selected : isSelected arch t ctx.sysID=true
  /-- The routed program saves its start time. -/
  routed : savedTime inv (routedEnter routes ctx).2 (routedEnter routes ctx).1=some time
  /-- The storage of the task exists or can be allocated. -/
  stored : t.pendingTaskStorage.lookup inv.task≠none ∨ inv.storageAvailable=true

variable {arch : Arch} {routes : Routes arch} {inv : Invocation} {ctx : EnterContext}
  {time : UInt64}

/-- The routed program saves what the dispatcher was given. -/
theorem routedEnter_pendingSyscall (routes : Routes arch) (inv : Invocation) (ctx : EnterContext)
    (config : UInt32) (time : UInt64) :
    pendingSyscall inv (routedEnter routes ctx).2 config time=
      pendingSyscall inv ctx config time := by
  unfold routedEnter
  cases routes.enter ctx.sysID <;> rfl

theorem saveEnter_holds {t : TrackingState}
    (hstored : t.pendingTaskStorage.lookup inv.task≠none ∨ inv.storageAvailable=true) :
    Holds inv.task (pendingSyscall inv ctx t.config time) true (saveEnter inv ctx time t) := by
  have hkeep : ((t.pendingTaskStorage.lookup inv.task).isNone && !inv.storageAvailable)=false := by
    rcases hstored with h | h
    · simp [Option.isNone_iff_eq_none,h]
    · simp [h]
  unfold saveEnter
  rw [hkeep,if_neg Bool.false_ne_true]
  exact ⟨_,Finmap.lookup_insert _⟩

theorem enterProgram_holds {program : EnterProgram} {t : TrackingState}
    (htime : savedTime inv ctx program=some time)
    (hstored : t.pendingTaskStorage.lookup inv.task≠none ∨ inv.storageAvailable=true) :
    Holds inv.task (pendingSyscall inv ctx t.config time) true
      (enterProgram inv ctx program t) := by
  have hsave : Holds inv.task (pendingSyscall inv ctx t.config time) true
      (saveProgram inv ctx program t) := by
    unfold saveProgram
    rw [htime]
    exact saveEnter_holds hstored
  unfold enterProgram
  dsimp only
  split
  · split_ifs
    · exact hsave.congr rfl
    · exact hsave
  · exact hsave

theorem armSlot_storage (arch : Arch) (inv : Invocation) (sysID : UInt32) (t : TrackingState) :
    (armSlot arch inv sysID t).pendingTaskStorage=t.pendingTaskStorage := by
  unfold armSlot
  split_ifs <;> rfl

/-- An enter that saves leaves its metadata pending. -/
theorem Saves.holds {st : RuntimeState} (h : Saves arch routes inv ctx time st.toTrackingState) :
    Holds inv.task (pendingSyscall inv ctx st.config time) true
      (traceSysEnter arch routes inv ctx st).toTrackingState := by
  obtain ⟨flags,hflags,hsuppressed⟩ := h.reported
  have harm := armSlot_touches arch inv ctx.sysID st.toTrackingState
  have hselected : isSelected arch (armSlot arch inv ctx.sysID st.toTrackingState) ctx.sysID=true :=
    (isSelected_congr harm.config_eq harm.syscallFilter_eq ctx.sysID).trans h.selected
  rw [traceSysEnter_tracking]
  unfold enter
  rw [hflags]
  dsimp only
  rw [h.native,if_neg (by simp),if_neg h.returns,hsuppressed,hselected,if_neg (by simp)]
  have hholds := enterProgram_holds (t := armSlot arch inv ctx.sysID st.toTrackingState) h.routed
    (by rw [armSlot_storage]; exact h.stored)
  rw [routedEnter_pendingSyscall,harm.config_eq] at hholds
  exact hholds

end Enters

section Returns

variable {inv : Invocation}

/-- A counter update that spares the orphans spares them on every cpu. -/
theorem bump_orphanExit (inv : Invocation) (f : BpfStats → BpfStats) (t : Telemetry)
    (cpu : UInt32) (hf : ∀ s, (f s).orphanExit=s.orphanExit) :
    ((bump inv f t).stats cpu).orphanExit=(t.stats cpu).orphanExit := by
  unfold bump
  by_cases hcpu : cpu=inv.cpu
  · rw [hcpu]
    simp [hf]
  · simp [hcpu]

theorem recordEventIntegrityLoss_orphanExit (inv : Invocation) (t : Telemetry) (cpu : UInt32) :
    ((recordEventIntegrityLoss inv t).stats cpu).orphanExit=(t.stats cpu).orphanExit := by
  unfold recordEventIntegrityLoss
  dsimp only
  refine bump_orphanExit inv _ t cpu ?_
  intro s
  rfl

/-- A submission counts no orphan. -/
theorem submit_orphanExit (inv : Invocation) (record : TraceEventEnvelope) (t : Telemetry)
    (cpu : UInt32) : ((submit inv record t).stats cpu).orphanExit=(t.stats cpu).orphanExit := by
  unfold submit recordRingbufReserveFail recordRingbufCopyFail
  dsimp only
  split
  · dsimp only
    refine bump_orphanExit inv _ t cpu ?_
    intro s
    rfl
  · rw [bump_orphanExit,recordEventIntegrityLoss_orphanExit,bump_orphanExit]
    · intro s
      rfl
    · intro s
      rfl
  · rw [bump_orphanExit,recordEventIntegrityLoss_orphanExit,bump_orphanExit]
    · intro s
      rfl
    · intro s
      rfl

theorem submitAll_orphanExit (inv : Invocation) (records : List TraceEventEnvelope)
    (t : Telemetry) (cpu : UInt32) :
    ((submitAll inv records t).stats cpu).orphanExit=(t.stats cpu).orphanExit := by
  induction records generalizing t with
  | nil => rfl
  | cons record records ih => exact (ih (submit inv record t)).trans (submit_orphanExit ..)

/-- The decoder recovers the start time of a completed syscall. -/
theorem traceEventV2EnterTime_pendingSyscallDuration (inv : Invocation) (stage : ℕ)
    (p : PendingSyscall) :
    traceEventV2EnterTime (p.enterTime+pendingSyscallDuration inv stage p)
      (pendingSyscallDuration inv stage p)=p.enterTime := by
  unfold traceEventV2EnterTime pendingSyscallDuration
  split_ifs <;> grind

/-- A complete exit record of a pending enter. -/
structure CompletesEnter (p : PendingSyscall) (record : TraceEventEnvelope) : Prop where
  /-- It is an exit record. -/
  exit : record.eventType=.exit
  /-- It is no fragment. -/
  complete : record.eventFlags&&&bpfEventFlagExitFragment=0
  /-- It names the process of the enter. -/
  pid_eq : record.pid=p.pid
  /-- It names the thread of the enter. -/
  tid_eq : record.tid=p.tid
  /-- It names the syscall of the enter. -/
  sysID_eq : record.sysID=p.sysID
  /-- It has the arguments of the enter. -/
  args_eq : record.args=p.args
  /-- It has the start time of the enter. -/
  enterTime_eq : record.enterTime=p.enterTime

theorem completedRecord_completes (inv : Invocation) (stage : ℕ) (p : PendingSyscall)
    (ret : Int64) (capture : Capture) :
    CompletesEnter p (completedRecord inv stage p ret 0 capture) where
  exit := rfl
  complete := by
    change (0|||capture.flags)&&&bpfEventFlagExitFragment=0
    unfold Capture.flags bpfEventFlagExitFragment
    split_ifs <;> decide
  pid_eq := rfl
  tid_eq := rfl
  sysID_eq := rfl
  args_eq := rfl
  enterTime_eq := traceEventV2EnterTime_pendingSyscallDuration inv stage p

/-- The programs that complete a syscall: `recvmsg` by its return probe, the others by the
exit dispatcher. -/
def completeSyscall (arch : Arch) (routes : Routes arch) (inv : Invocation) (ctx : ExitContext)
    (st : RuntimeState) : RuntimeState :=
  if ctx.sysID=sysRecvmsg arch then traceKretprobeRecvmsg arch inv ctx st
  else traceSysExit arch routes inv ctx st

/-- The same thread of a task returns from the syscall it entered. -/
structure ReturnsFrom (p : PendingSyscall) (task : TaskID) (inv : Invocation)
    (ctx : ExitContext) : Prop where
  /-- The task is the one that entered. -/
  task_eq : inv.task=task
  /-- Its thread id is unchanged. -/
  tid_eq : inv.tid=p.tid
  /-- The return uses the native interface. -/
  native : inv.nativeABI=true
  /-- The number is a syscall number. -/
  id_nonneg : 0 ≤ ctx.id
  /-- The syscall is the one entered. -/
  sysID_eq : ctx.sysID=p.sysID

/-- The exit dispatcher lets the return of the task through to an exit program that accepts it. -/
def Admitted (arch : Arch) (routes : Routes arch) (inv : Invocation) (ctx : ExitContext)
    (t : TrackingState) : Prop :=
  ctx.sysID=sysRecvmsg arch ∨
    (lookupLifecycleTaskFilterFlags t inv.pid inv.tid).any
      (fun flags => !isPreExecSuppressedSyscall arch flags ctx.sysID)=true ∧
    (routedExit routes ctx.sysID).guard ctx.sysID=true ∧
    (routedExit routes ctx.sysID).handles ctx.sysID=true

/-- Completion of a syscall: records with a complete exit record among them, and no orphan. -/
def Completed (inv : Invocation) (p : PendingSyscall) (st st' : RuntimeState) : Prop :=
  (∃ records, st'.telemetry=submitAll inv records st.telemetry ∧
    ∃ record ∈ records, CompletesEnter p record) ∧
  ∀ cpu, (st'.telemetry.stats cpu).orphanExit=(st.telemetry.stats cpu).orphanExit

theorem Completed.of_submitAll {p : PendingSyscall} {st st' : RuntimeState}
    {records : List TraceEventEnvelope} {stage : ℕ} {ret : Int64} {capture : Capture}
    (h : st'.telemetry=
      submitAll inv (records++[completedRecord inv stage p ret 0 capture]) st.telemetry) :
    Completed inv p st st' := by
  refine ⟨⟨_,h,_,List.mem_append_right _ (List.mem_singleton_self _),
    completedRecord_completes inv stage p ret capture⟩,?_⟩
  intro cpu
  rw [h,submitAll_orphanExit]

theorem consumePendingSyscall_telemetry (arch : Arch) (inv : Invocation) (found : PendingLookup)
    (st : RuntimeState) : (consumePendingSyscall arch inv found st).telemetry=st.telemetry := by
  have hclear := clearPendingTaskState_telemetry inv st
  unfold consumePendingSyscall
  dsimp only
  split_ifs
  · exact hclear
  · exact hclear
  · exact hclear

section Programs

variable {arch : Arch} {p : PendingSyscall} {ctx : ExitContext} {st : RuntimeState}
  {program : ExitProgram}

theorem lookupPendingSyscallForExit_of_holds (h : Holds inv.task p true st.toTrackingState)
    (hreturns : ReturnsFrom p inv.task inv ctx) :
    lookupPendingSyscallForExit arch inv ctx.ret st.toTrackingState=some ⟨p,inv.tid,false⟩ := by
  unfold lookupPendingSyscallForExit
  rw [h.currentPendingSyscall rfl,if_pos rfl]
  dsimp only
  rw [if_pos hreturns.tid_eq.symm]

/-- An accepting exit program sends its records of the pending enter of its thread. -/
theorem runExitProgram_telemetry (h : Holds inv.task p true st.toTrackingState)
    (hreturns : ReturnsFrom p inv.task inv ctx) (hguard : program.guard ctx.sysID=true)
    (hhandles : program.handles ctx.sysID=true) :
    (runExitProgram arch program inv ctx st).telemetry=
      submitAll inv (program.records inv ctx p) st.telemetry := by
  unfold runExitProgram validatePendingSyscallExit
  rw [hguard,if_neg (by simp),lookupPendingSyscallForExit_of_holds h hreturns]
  dsimp only
  rw [if_pos ⟨hreturns.sysID_eq.symm,hreturns.tid_eq.symm⟩]
  dsimp only
  rw [←hreturns.sysID_eq,hhandles,if_neg (by simp),consumePendingSyscall_telemetry]
  rfl

/-- An accepting exit program completes the pending enter of its thread. -/
theorem runExitProgram_completed (h : Holds inv.task p true st.toTrackingState)
    (hreturns : ReturnsFrom p inv.task inv ctx) (hguard : program.guard ctx.sysID=true)
    (hhandles : program.handles ctx.sysID=true) :
    Completed inv p st (runExitProgram arch program inv ctx st) :=
  Completed.of_submitAll (runExitProgram_telemetry h hreturns hguard hhandles)

/-- An exit program that does not accept the syscall reports nothing of it. -/
theorem runExitProgram_skips (h : Holds inv.task p true st.toTrackingState)
    (hreturns : ReturnsFrom p inv.task inv ctx)
    (hskip : ¬(program.guard ctx.sysID=true ∧ program.handles ctx.sysID=true)) :
    runExitProgram arch program inv ctx st=st := by
  unfold runExitProgram validatePendingSyscallExit
  cases hguard : program.guard ctx.sysID with
  | false => rfl
  | true =>
    have hhandles : program.handles ctx.sysID=false := by
      rw [←Bool.not_eq_true]
      exact fun hhandles => hskip ⟨hguard,hhandles⟩
    rw [if_neg (by simp),lookupPendingSyscallForExit_of_holds h hreturns]
    dsimp only
    rw [if_pos ⟨hreturns.sysID_eq.symm,hreturns.tid_eq.symm⟩]
    dsimp only
    rw [←hreturns.sysID_eq,hhandles,Bool.not_false,if_pos rfl]

end Programs

section Dispatch

variable {arch : Arch} {routes : Routes arch} {p : PendingSyscall} {ctx : ExitContext}
  {st : RuntimeState}

/-- The dispatcher hands a selected native return of a traced task to its exit program. -/
theorem traceSysExit_dispatches {flags : UInt32} (hreturns : ReturnsFrom p inv.task inv ctx)
    (hflags : lookupLifecycleTaskFilterFlags st.toTrackingState inv.pid inv.tid=some flags)
    (hsig : ctx.sysID≠sysRtSigreturn arch)
    (hselected : isSelected arch st.toTrackingState ctx.sysID=true) :
    traceSysExit arch routes inv ctx st=
      if isPreExecSuppressedSyscall arch flags ctx.sysID then st
      else runExitProgram arch (routedExit routes ctx.sysID) inv ctx
        (clearPendingForkFlags arch inv ctx.sysID st) := by
  unfold traceSysExit routedExit
  rw [if_neg (Int64.not_lt.mpr hreturns.id_nonneg),hflags]
  dsimp only
  rw [rejectUnsupportedSyscallABI_native hreturns.native]
  dsimp only
  rw [if_neg hsig,clearPendingForkFlags_tracking,hselected,Bool.not_true,
    if_neg Bool.false_ne_true]
  cases routes.exit ctx.sysID <;> rfl

theorem clearPendingForkFlags_telemetry (arch : Arch) (inv : Invocation) (sysID : UInt32)
    (st : RuntimeState) :
    (clearPendingForkFlags arch inv sysID st).telemetry=st.telemetry := by
  unfold clearPendingForkFlags
  split_ifs <;> rfl

/-- The return probe completes a pending `recvmsg`. -/
theorem traceKretprobeRecvmsg_completed (h : Holds inv.task p true st.toTrackingState)
    (hsys : p.sysID=sysRecvmsg arch) :
    Completed inv p st (traceKretprobeRecvmsg arch inv ctx st) := by
  unfold traceKretprobeRecvmsg
  rw [h.currentPendingSyscall rfl,if_pos rfl]
  dsimp only
  rw [if_neg (not_not.mpr hsys)]
  apply Completed.of_submitAll
  rw [consumePendingSyscall_telemetry]
  rfl

/-- An admitted return finds the pending enter and reports it. -/
theorem completeSyscall_completed (h : Holds inv.task p true st.toTrackingState)
    (hreturns : ReturnsFrom p inv.task inv ctx) (hsig : ctx.sysID≠sysRtSigreturn arch)
    (hselected : isSelected arch st.toTrackingState ctx.sysID=true)
    (hadmitted : Admitted arch routes inv ctx st.toTrackingState) :
    Completed inv p st (completeSyscall arch routes inv ctx st) := by
  unfold completeSyscall
  by_cases hrecv : ctx.sysID=sysRecvmsg arch
  · rw [if_pos hrecv]
    exact traceKretprobeRecvmsg_completed h (hreturns.sysID_eq.symm.trans hrecv)
  rw [if_neg hrecv]
  obtain ⟨hany,hguard,hhandles⟩ := hadmitted.resolve_left hrecv
  cases hflags : lookupLifecycleTaskFilterFlags st.toTrackingState inv.pid inv.tid with
  | none => simp [hflags] at hany
  | some flags =>
    rw [hflags,Option.any_some,Bool.not_eq_true'] at hany
    rw [traceSysExit_dispatches hreturns hflags hsig hselected,hany,if_neg Bool.false_ne_true]
    have hdone : Completed inv p (clearPendingForkFlags arch inv ctx.sysID st)
        (runExitProgram arch (routedExit routes ctx.sysID) inv ctx
          (clearPendingForkFlags arch inv ctx.sysID st)) :=
      runExitProgram_completed (by rw [clearPendingForkFlags_tracking]; exact h) hreturns
        hguard hhandles
    unfold Completed at hdone
    rw [clearPendingForkFlags_telemetry] at hdone
    exact hdone

/-- A return that is not admitted reports nothing and counts nothing. -/
theorem completeSyscall_skips (h : Holds inv.task p true st.toTrackingState)
    (hreturns : ReturnsFrom p inv.task inv ctx) (hsig : ctx.sysID≠sysRtSigreturn arch)
    (hselected : isSelected arch st.toTrackingState ctx.sysID=true)
    (hrefused : ¬Admitted arch routes inv ctx st.toTrackingState) :
    (completeSyscall arch routes inv ctx st).telemetry=st.telemetry := by
  obtain ⟨hrecv,hrest⟩ := not_or.mp hrefused
  unfold completeSyscall
  rw [if_neg hrecv]
  cases hflags : lookupLifecycleTaskFilterFlags st.toTrackingState inv.pid inv.tid with
  | none =>
    unfold traceSysExit
    rw [hflags,ite_self]
  | some flags =>
    rw [traceSysExit_dispatches hreturns hflags hsig hselected]
    cases hsuppressed : isPreExecSuppressedSyscall arch flags ctx.sysID with
    | true => rfl
    | false =>
      rw [if_neg Bool.false_ne_true,runExitProgram_skips
        (by rw [clearPendingForkFlags_tracking]; exact h) hreturns]
      · exact clearPendingForkFlags_telemetry ..
      · intro haccepts
        exact hrest ⟨by simp [hflags,hsuppressed],haccepts⟩

end Dispatch

end Returns

section Ownership

/-- A pending enter survives every run in which its task stays inside the syscall exactly when
no tracked thread id is freed in the context of the task; a later return then reports it with
its number, arguments and start time, unless the dispatcher does not admit the return. -/
theorem pending_iff_undisturbed (arch : Arch) (routes : Routes arch) (inv : Invocation)
    (ctx : EnterContext) (time : UInt64) (st : RuntimeState) (steps : List Step)
    (hsaves : Saves arch routes inv ctx time st.toTrackingState)
    (hquiet : ∀ step ∈ steps, Quiet arch inv.task ctx.sysID step) :
    let p := pendingSyscall inv ctx st.config time
    let entered := traceSysEnter arch routes inv ctx st
    let later := run arch routes steps entered
    (Holds inv.task p true later.toTrackingState ↔
      Undisturbed arch routes inv.task steps entered) ∧
    (Undisturbed arch routes inv.task steps entered →
      ∀ exitInv exitCtx, ReturnsFrom p inv.task exitInv exitCtx →
        (Admitted arch routes exitInv exitCtx later.toTrackingState →
          Completed exitInv p later (completeSyscall arch routes exitInv exitCtx later)) ∧
        (¬Admitted arch routes exitInv exitCtx later.toTrackingState →
          (completeSyscall arch routes exitInv exitCtx later).telemetry=later.telemetry)) := by
  intro p entered later
  obtain ⟨valid,hlater,hiff⟩ := hsaves.holds.run routes hquiet
  have hpending : Holds inv.task p true later.toTrackingState ↔
      Undisturbed arch routes inv.task steps entered := by
    constructor
    · rintro ⟨aux0,hlookup⟩
      obtain ⟨aux1,hlookup'⟩ := hlater
      rw [hlookup] at hlookup'
      injection hlookup' with hstate
      injection hstate with _ _ hvalid
      exact (hiff.mp hvalid.symm).2
    · intro hfree
      rw [hiff.mpr ⟨rfl,hfree⟩] at hlater
      exact hlater
  refine ⟨hpending,?_⟩
  intro hfree exitInv exitCtx hreturns
  have hsys : exitCtx.sysID=ctx.sysID := hreturns.sysID_eq
  have hholds : Holds exitInv.task p true later.toTrackingState := by
    rw [hreturns.task_eq]
    exact hpending.mpr hfree
  have htask : ReturnsFrom p exitInv.task exitInv exitCtx :=
    { hreturns with task_eq := rfl }
  have hsig : exitCtx.sysID≠sysRtSigreturn arch := by
    rw [hsys]
    exact hsaves.returns
  have hselected : isSelected arch later.toTrackingState exitCtx.sysID=true := by
    have htouch := apply_touches arch routes ⟨inv,.sysEnter ctx⟩ st
    rw [hsys,isSelected_run]
    exact (isSelected_congr htouch.config_eq htouch.syscallFilter_eq _).trans hsaves.selected
  exact ⟨completeSyscall_completed hholds htask hsig hselected,
    completeSyscall_skips hholds htask hsig hselected⟩

/-- A traced process with one thread, its children followed. -/
def tracedReader : RuntimeState where
  config := configFollowForks|||configEmitLifecycle
  filterMap := Finmap.singleton 100 filterTaskTracked

/-- The reader, inside or returning from `read`. -/
def readerInvocation (now : UInt64) : Invocation :=
  { Invocation.ofTask 1 100 100 with ktime := fun _ => now }

theorem tracedReader_saves (st : RuntimeState) (now : UInt64)
    (hflags : lookupLifecycleTaskFilterFlags st.toTrackingState 100 100=some filterTaskTracked)
    (hconfig : hasBit st.config configSyscallFilter=false) :
    Saves .amd64 (Routes.execOnly .amd64) (readerInvocation now) { sysID := 0 } now
      st.toTrackingState where
  reported := ⟨filterTaskTracked,hflags,by decide⟩
  native := rfl
  returns := by decide
  selected := by
    unfold isSelected shouldTraceSyscall
    rw [hconfig]
    rfl
  routed := rfl
  stored := .inr rfl

/-- A number that is freed after its entry is gone leaves the reader alone. -/
theorem untrackedFree_completes :
    Saves .amd64 (Routes.execOnly .amd64) (readerInvocation 7) { sysID := 0 } 7
      tracedReader.toTrackingState ∧
    Quiet .amd64 1 0 ⟨readerInvocation 8,.schedProcessFree 201⟩ ∧
    Completed (readerInvocation 9)
      (pendingSyscall (readerInvocation 7) { sysID := 0 } tracedReader.config 7)
      (run .amd64 (Routes.execOnly .amd64) [⟨readerInvocation 8,.schedProcessFree 201⟩]
        (traceSysEnter .amd64 (Routes.execOnly .amd64) (readerInvocation 7) { sysID := 0 }
          tracedReader))
      (completeSyscall .amd64 (Routes.execOnly .amd64) (readerInvocation 9) ⟨0,5,{},[]⟩
        (run .amd64 (Routes.execOnly .amd64) [⟨readerInvocation 8,.schedProcessFree 201⟩]
          (traceSysEnter .amd64 (Routes.execOnly .amd64) (readerInvocation 7) { sysID := 0 }
            tracedReader))) := by
  have hsaves := tracedReader_saves tracedReader 7 rfl (by decide)
  have hfrees : ¬Frees 1 ⟨readerInvocation 8,.schedProcessFree 201⟩
      (traceSysEnter .amd64 (Routes.execOnly .amd64) (readerInvocation 7) { sysID := 0 }
        tracedReader).toTrackingState := by
    rintro ⟨-,htracked⟩
    revert htracked
    decide +kernel
  obtain ⟨-,hreturn⟩ := pending_iff_undisturbed .amd64 (Routes.execOnly .amd64)
    (readerInvocation 7) { sysID := 0 } 7 tracedReader
    [⟨readerInvocation 8,.schedProcessFree 201⟩] hsaves (by simp [Quiet,Staying])
  refine ⟨hsaves,fun _ => trivial,?_⟩
  refine (hreturn ⟨hfrees,trivial⟩ (readerInvocation 9) ⟨0,5,{},[]⟩
    ⟨rfl,rfl,rfl,by decide,by decide⟩).1 (.inr ⟨?_,by decide,by decide⟩)
  decide +kernel

/-- A child of the reader with a second thread, which replaces the first one by an exec. -/
def replacedChildSteps : List Step :=
  [⟨Invocation.ofTask 1 100 100,.schedProcessFork 200⟩,
    ⟨Invocation.ofTask 2 200 200,.schedProcessFork 201⟩,
    ⟨Invocation.ofTask 3 200 201,.sysEnter { sysID := 59 }⟩,
    ⟨Invocation.ofTask 2 200 200,.schedProcessExit 0⟩,
    ⟨Invocation.ofTask 3 200 200,.schedProcessExec 201 "/bin/true"⟩]

/-- The traced tasks after the exec; the number of the exited first thread keeps its entry. -/
def replacedChild : RuntimeState :=
  run .amd64 (Routes.execOnly .amd64) replacedChildSteps tracedReader

/-- The reader enters `read`, and the exited first thread is freed while the reader runs. -/
def disturbedReader : RuntimeState :=
  run .amd64 (Routes.execOnly .amd64) [⟨readerInvocation 8,.schedProcessFree 201⟩]
    (traceSysEnter .amd64 (Routes.execOnly .amd64) (readerInvocation 7) { sysID := 0 }
      replacedChild)

/-- The reader loses its pending enter to the free of an unrelated task, and its return is
counted as an orphan without any record of it. -/
theorem disturbedReader_orphaned :
    Saves .amd64 (Routes.execOnly .amd64) (readerInvocation 7) { sysID := 0 } 7
      replacedChild.toTrackingState ∧
    Quiet .amd64 1 0 ⟨readerInvocation 8,.schedProcessFree 201⟩ ∧
    ¬Holds 1 (pendingSyscall (readerInvocation 7) { sysID := 0 } replacedChild.config 7) true
      disturbedReader.toTrackingState ∧
    ((completeSyscall .amd64 (Routes.execOnly .amd64) (readerInvocation 9) ⟨0,5,{},[]⟩
      disturbedReader).telemetry.stats 0).orphanExit=1 ∧
    (completeSyscall .amd64 (Routes.execOnly .amd64) (readerInvocation 9) ⟨0,5,{},[]⟩
      disturbedReader).telemetry.events.length=disturbedReader.telemetry.events.length := by
  refine ⟨tracedReader_saves _ 7 (by decide +kernel) (by decide +kernel),fun _ => trivial,?_,?_,?_⟩
  · rintro ⟨aux0,hlookup⟩
    have hvalid : (disturbedReader.pendingTaskStorage.lookup 1).map PendingTaskState.valid=
        some false := by decide +kernel
    rw [hlookup] at hvalid
    cases hvalid
  · decide +kernel
  · decide +kernel

end Ownership

end StraceGo.BpfPendingOwnership

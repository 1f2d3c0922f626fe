import StraceGo.BpfPendingOwnership

/-!
# What the programs do to the exec slot of a process

The slot of a process names a thread that may be about to replace its first
thread. A native exec enter of another thread arms it; a foreign syscall, a
return to a pending enter of something else, the failed return of the exec and
the exit of the named thread clear it. A return that the syscall filter drops
is the one edge of an exec that leaves the slot armed.
-/

namespace StraceGo.BpfExecSlot

open StraceGo.FiniteMaps StraceGo.EventEnvelope StraceGo.BpfRuntime StraceGo.BpfPendingState
open StraceGo.BpfEnterPrograms StraceGo.BpfLifecycle StraceGo.BpfDispatch StraceGo.BpfTracking
open StraceGo.BpfSyscallTracking StraceGo.BpfPendingOwnership

/-- Thread named by the exec slot of a process. -/
def slot (p : UInt32) (t : TrackingState) : Option UInt32 := t.pendingExecMap.lookup p

/-- Only exec syscalls are routed to the exec program. -/
def ExecRouted {arch : Arch} (routes : Routes arch) : Prop :=
  ∀ sysID, routes.enter sysID=some .exec → isExecPayloadDirectSyscall arch sysID=true

/-- The pending enter of the current task is not the syscall that its thread returns from. -/
def Stale (inv : Invocation) (sysID : UInt32) (t : TrackingState) : Prop :=
  ∃ pending, currentPendingSyscall inv t=some pending ∧
    ¬(pending.sysID=sysID ∧ pending.tid=inv.tid ∧ pending.pid=inv.pid)

section Tracked

variable {t t' : TrackingState} {p : UInt32}

/-- Every thread of a tracked process has filter flags. -/
theorem Tracks.flags (h : Tracks t p) (tid : UInt32) :
    ∃ flags, lookupLifecycleTaskFilterFlags t p tid=some flags := by
  obtain ⟨flags,hflags⟩ := Option.isSome_iff_exists.mp h
  refine ⟨flags,?_⟩
  unfold lookupLifecycleTaskFilterFlags
  rw [hflags]

/-- Every thread of a tracked process is traced. -/
theorem Tracks.traced (h : Tracks t p) (tid : UInt32) : isLifecycleTaskTracked t p tid=true :=
  (isLifecycleTaskTracked_iff t p tid).mpr (.inl h)

/-- Tracking of an id depends on its own filter entry. -/
theorem Tracks.of_lookup (h : t'.filterMap.lookup p=t.filterMap.lookup p) :
    Tracks t' p ↔ Tracks t p := by
  unfold Tracks trackedFlags
  rw [h]

/-- A first thread is traced through the entry of its process alone. -/
theorem isLifecycleTaskTracked_self : isLifecycleTaskTracked t p p=true ↔ Tracks t p := by
  rw [isLifecycleTaskTracked_iff,or_self]

end Tracked

section Enter

variable {arch : Arch} {routes : Routes arch} {inv : Invocation} {ctx : EnterContext}
  {t : TrackingState}

theorem saveProgram_maps (inv : Invocation) (ctx : EnterContext) (program : EnterProgram)
    (t : TrackingState) :
    (saveProgram inv ctx program t).pendingExecMap=t.pendingExecMap ∧
      (saveProgram inv ctx program t).filterMap=t.filterMap := by
  unfold saveProgram saveEnter store
  cases savedTime inv ctx program with
  | none => exact ⟨rfl,rfl⟩
  | some time =>
    dsimp only
    split_ifs
    · exact ⟨rfl,rfl⟩
    · exact ⟨rfl,rfl⟩

/-- An enter program arms the slot when it is the exec program of another thread. -/
theorem slot_enterProgram (inv : Invocation) (ctx : EnterContext) (program : EnterProgram)
    (t : TrackingState) :
    slot inv.pid (enterProgram inv ctx program t)=slot inv.pid t ∨
      program=.exec ∧ inv.tid≠inv.pid ∧
        slot inv.pid (enterProgram inv ctx program t)=some inv.tid := by
  have hsave := (saveProgram_maps inv ctx program t).1
  unfold enterProgram slot
  dsimp only
  split
  · split_ifs with harm
    · rw [Bool.and_eq_true,bne_iff_ne] at harm
      exact .inr ⟨rfl,harm.1,Finmap.lookup_insert _⟩
    · rw [hsave]
      exact .inl rfl
  · rw [hsave]
    exact .inl rfl

/-- Arming names the current thread or changes nothing. -/
theorem slot_armSlot (arch : Arch) (inv : Invocation) (sysID : UInt32) (t : TrackingState) :
    slot inv.pid (armSlot arch inv sysID t)=slot inv.pid t ∨
      isExecPayloadDirectSyscall arch sysID=true ∧ inv.tid≠inv.pid ∧
        slot inv.pid (armSlot arch inv sysID t)=some inv.tid := by
  unfold armSlot slot
  split_ifs with harm
  · simp only [Bool.and_eq_true,bne_iff_ne] at harm
    exact .inr ⟨harm.1.1.1,harm.1.1.2,Finmap.lookup_insert _⟩
  · exact .inl rfl

/-- Exec programs are reached by exec syscalls. -/
theorem routedEnter_exec (hroutes : ExecRouted routes)
    (h : (routedEnter routes ctx).1=.exec) : isExecPayloadDirectSyscall arch ctx.sysID=true := by
  apply hroutes
  unfold routedEnter at h
  cases hroute : routes.enter ctx.sysID with
  | none =>
    rw [hroute] at h
    cases h
  | some program =>
    rw [hroute] at h
    exact congrArg some h

/-- A native enter keeps the slot, or is the exec of a thread that the slot then names. -/
theorem slot_enter_native (hroutes : ExecRouted routes) (ctx : EnterContext) (t : TrackingState)
    (hnative : inv.nativeABI=true) :
    slot inv.pid (enter arch routes inv ctx t)=slot inv.pid t ∨
      isExecPayloadDirectSyscall arch ctx.sysID=true ∧ inv.tid≠inv.pid ∧
        slot inv.pid (enter arch routes inv ctx t)=some inv.tid := by
  have harm := slot_armSlot arch inv ctx.sysID t
  unfold enter
  cases lookupLifecycleTaskFilterFlags t inv.pid inv.tid with
  | none => exact .inl rfl
  | some flags =>
    dsimp only
    rw [hnative,if_neg (by simp)]
    split_ifs
    · exact .inl rfl
    · exact harm
    · rcases slot_enterProgram inv (routedEnter routes ctx).2 (routedEnter routes ctx).1
        (armSlot arch inv ctx.sysID t) with hkeep | ⟨hprogram,hne,hslot⟩
      · rw [hkeep]
        exact harm
      · exact .inr ⟨routedEnter_exec hroutes hprogram,hne,hslot⟩

/-- A foreign enter keeps or clears the slot. -/
theorem slot_enter_foreign (routes : Routes arch) (ctx : EnterContext) (t : TrackingState)
    (hforeign : inv.nativeABI=false) :
    slot inv.pid (enter arch routes inv ctx t)=slot inv.pid t ∨
      slot inv.pid (enter arch routes inv ctx t)=none := by
  unfold enter
  cases lookupLifecycleTaskFilterFlags t inv.pid inv.tid with
  | none => exact .inl rfl
  | some flags =>
    dsimp only
    rw [hforeign,Bool.not_false,if_pos rfl]
    exact .inr (Finmap.lookup_erase _ _)

/-- The exec enter of another thread of a tracked process arms the slot. -/
theorem slot_enter_exec (routes : Routes arch) (htracks : Tracks t inv.pid)
    (hnative : inv.nativeABI=true)
    (hexec : isExecPayloadDirectSyscall arch ctx.sysID=true) (hne : inv.tid≠inv.pid)
    (hroom : inv.updateSucceeds .armPendingExecReplacement=true) :
    slot inv.pid (enter arch routes inv ctx t)=some inv.tid := by
  have harm : slot inv.pid (armSlot arch inv ctx.sysID t)=some inv.tid := by
    unfold armSlot slot
    rw [if_pos (by simp [hexec,hne,hroom,Tracks.traced htracks])]
    exact Finmap.lookup_insert _
  obtain ⟨flags,hflags⟩ := Tracks.flags htracks inv.tid
  unfold enter
  rw [hflags]
  dsimp only
  rw [hnative,if_neg (by simp),if_neg (ne_sysRtSigreturn_of_exec hexec)]
  split_ifs
  · exact harm
  · rcases slot_enterProgram inv (routedEnter routes ctx).2 (routedEnter routes ctx).1
      (armSlot arch inv ctx.sysID t) with hkeep | ⟨-,-,hslot⟩
    · exact hkeep.trans harm
    · exact hslot

/-- No enter changes who is tracked. -/
theorem enter_filterMap (arch : Arch) (routes : Routes arch) (inv : Invocation)
    (ctx : EnterContext) (t : TrackingState) :
    (enter arch routes inv ctx t).filterMap=t.filterMap := by
  have harm : (armSlot arch inv ctx.sysID t).filterMap=t.filterMap := by
    unfold armSlot
    split_ifs <;> rfl
  have hprogram : ∀ ctx program t, (enterProgram inv ctx program t).filterMap=t.filterMap := by
    intro ctx program t
    unfold enterProgram
    dsimp only
    split
    · split_ifs
      · exact (saveProgram_maps inv ctx _ t).2
      · exact (saveProgram_maps inv ctx _ t).2
    · exact (saveProgram_maps inv ctx _ t).2
  unfold enter
  cases lookupLifecycleTaskFilterFlags t inv.pid inv.tid with
  | none => rfl
  | some flags =>
    dsimp only
    split_ifs
    · rfl
    · rfl
    · exact harm
    · exact (hprogram _ _ _).trans harm

/-- Exec enters save their start time whatever program they are routed to. -/
theorem routedEnter_savedTime (hexec : isExecPayloadDirectSyscall arch ctx.sysID=true) :
    savedTime inv (routedEnter routes ctx).2 (routedEnter routes ctx).1=
      some (inv.ktime (.handler 0)) := by
  unfold routedEnter
  cases hroute : routes.enter ctx.sysID with
  | none => rfl
  | some program =>
    rw [routes.enter_exec ctx.sysID hexec program hroute]
    rfl

/-- A selected exec enter of a tracked process leaves its metadata pending. -/
theorem enter_exec_holds (htracks : Tracks t inv.pid) (hnative : inv.nativeABI=true)
    (hexec : isExecPayloadDirectSyscall arch ctx.sysID=true)
    (hselected : isSelected arch t ctx.sysID=true)
    (hstored : t.pendingTaskStorage.lookup inv.task≠none ∨ inv.storageAvailable=true) :
    Holds inv.task (pendingSyscall inv ctx t.config (inv.ktime (.handler 0))) true
      (enter arch routes inv ctx t) := by
  obtain ⟨flags,hflags⟩ := Tracks.flags htracks inv.tid
  have hsaves : Saves arch routes inv ctx (inv.ktime (.handler 0)) t :=
    { reported := ⟨flags,hflags,by simp [isPreExecSuppressedSyscall,hexec]⟩
      native := hnative
      returns := ne_sysRtSigreturn_of_exec hexec
      selected := hselected
      routed := routedEnter_savedTime hexec
      stored := hstored }
  let st : RuntimeState := { toTrackingState := t }
  have hholds : Holds inv.task (pendingSyscall inv ctx t.config (inv.ktime (.handler 0))) true
      (traceSysEnter arch routes inv ctx st).toTrackingState := Saves.holds hsaves
  rw [traceSysEnter_tracking] at hholds
  exact hholds

end Enter

section Leave

variable {arch : Arch} {routes : Routes arch} {inv : Invocation} {ctx : ExitContext}
  {t : TrackingState}

/-- No return changes who is tracked. -/
theorem leave_filterMap (arch : Arch) (routes : Routes arch) (inv : Invocation)
    (ctx : ExitContext) (t : TrackingState) :
    (leave arch routes inv ctx t).filterMap=t.filterMap := by
  have hprogram : ∀ program, (exitProgram arch program inv ctx t).filterMap=t.filterMap := by
    intro program
    unfold exitProgram
    split_ifs
    · rfl
    · split
      · rfl
      · dsimp only
        split_ifs <;> rfl
  unfold leave
  cases lookupLifecycleTaskFilterFlags t inv.pid inv.tid with
  | none =>
    dsimp only
    split_ifs <;> rfl
  | some flags =>
    dsimp only
    split_ifs
    · rfl
    · rfl
    · rfl
    · rfl
    · exact hprogram _

/-- A pending enter that is not stale is found under the thread that returns. -/
theorem lookupPendingSyscallForExit_of_not_stale (arch : Arch) (hstale : ¬Stale inv ctx.sysID t) :
    lookupPendingSyscallForExit arch inv ctx.ret t=none ∨
      ∃ pending, lookupPendingSyscallForExit arch inv ctx.ret t=some ⟨pending,inv.tid,false⟩ ∧
        pending.sysID=ctx.sysID ∧ pending.tid=inv.tid ∧ pending.pid=inv.pid := by
  unfold lookupPendingSyscallForExit
  cases hpending : currentPendingSyscall inv t with
  | none => exact .inl rfl
  | some pending =>
    have hnames : pending.sysID=ctx.sysID ∧ pending.tid=inv.tid ∧ pending.pid=inv.pid := by
      by_contra hother
      exact hstale ⟨pending,hpending,hother⟩
    dsimp only
    rw [if_pos hnames.2.1]
    exact .inr ⟨pending,rfl,hnames⟩

/-- An exit program keeps the slot unless it meets a stale enter or completes the exec of another
thread. -/
theorem slot_exitProgram_keeps (program : ExitProgram) (hstale : ¬Stale inv ctx.sysID t)
    (hother : isExecPayloadDirectSyscall arch ctx.sysID=false ∨ inv.tid=inv.pid) :
    slot inv.pid (exitProgram arch program inv ctx t)=slot inv.pid t := by
  unfold exitProgram
  by_cases hguard : (!program.guard ctx.sysID)=true
  · rw [if_pos hguard]
  rw [if_neg hguard]
  rcases lookupPendingSyscallForExit_of_not_stale arch hstale with
    hnone | ⟨pending,hfound,hsys,htid,hpid⟩
  · rw [hnone]
  · rw [hfound]
    dsimp only
    rw [if_neg (not_not.mpr ⟨hsys,htid⟩)]
    split_ifs with hhandles hconsumes
    · rfl
    · exfalso
      rw [Bool.false_or,Bool.and_eq_true,bne_iff_ne,hsys,hpid] at hconsumes
      rcases hother with hno | hself
      · rw [hno] at hconsumes
        cases hconsumes.1
      · exact hconsumes.2 hself
    · rfl

/-- A native return keeps the slot unless a selected return meets a stale enter or completes the
exec of another thread. -/
theorem slot_leave_keeps (hnative : inv.nativeABI=true)
    (hstale : isSelected arch t ctx.sysID=true → ¬Stale inv ctx.sysID t)
    (hother : isExecPayloadDirectSyscall arch ctx.sysID=false ∨ inv.tid=inv.pid) :
    slot inv.pid (leave arch routes inv ctx t)=slot inv.pid t := by
  unfold leave
  by_cases hid : ctx.id < 0
  · rw [if_pos hid]
  rw [if_neg hid]
  cases lookupLifecycleTaskFilterFlags t inv.pid inv.tid with
  | none => rfl
  | some flags =>
    dsimp only
    rw [hnative,if_neg (by simp)]
    split_ifs with hsig hskip
    · rfl
    · rfl
    · apply slot_exitProgram_keeps _ (hstale _) hother
      rw [Bool.or_eq_true,not_or,Bool.not_eq_true',Bool.not_eq_false] at hskip
      exact hskip.2

/-- Every return keeps or clears the slot. -/
theorem slot_leave (arch : Arch) (routes : Routes arch) (inv : Invocation) (ctx : ExitContext)
    (t : TrackingState) :
    slot inv.pid (leave arch routes inv ctx t)=slot inv.pid t ∨
      slot inv.pid (leave arch routes inv ctx t)=none := by
  have herase : ∀ t : TrackingState, slot inv.pid
      { t with pendingExecMap := t.pendingExecMap.erase inv.pid }=none :=
    fun t => Finmap.lookup_erase _ _
  have hprogram : ∀ program, slot inv.pid (exitProgram arch program inv ctx t)=slot inv.pid t ∨
      slot inv.pid (exitProgram arch program inv ctx t)=none := by
    intro program
    unfold exitProgram
    split_ifs
    · exact .inl rfl
    · split
      · exact .inl rfl
      · dsimp only
        split_ifs
        · exact .inl rfl
        · exact .inr (herase (clearPending inv.task t))
        · exact .inl rfl
        · exact .inr (herase (clearPending inv.task t))
  unfold leave
  cases lookupLifecycleTaskFilterFlags t inv.pid inv.tid with
  | none =>
    dsimp only
    rw [ite_self]
    exact .inl rfl
  | some flags =>
    dsimp only
    split_ifs
    · exact .inl rfl
    · exact .inr (herase (clearPending inv.task t))
    · exact .inl rfl
    · exact .inl rfl
    · exact hprogram _

/-- Exit programs of exec syscalls accept them. -/
theorem routedExit_exec (routes : Routes arch)
    (hexec : isExecPayloadDirectSyscall arch ctx.sysID=true) :
    (routedExit routes ctx.sysID).guard ctx.sysID=true ∧
      (routedExit routes ctx.sysID).handles ctx.sysID=true := by
  unfold routedExit
  cases hroute : routes.exit ctx.sysID with
  | none => exact ⟨rfl,rfl⟩
  | some program => exact routes.exit_exec ctx.sysID hexec program hroute

/-- The selected return from the exec of another thread clears the slot. -/
theorem slot_leave_exec {pending : PendingSyscall} (htracks : Tracks t inv.pid)
    (hnative : inv.nativeABI=true) (hid : 0 ≤ ctx.id)
    (hexec : isExecPayloadDirectSyscall arch ctx.sysID=true)
    (hselected : isSelected arch t ctx.sysID=true) (hne : inv.tid≠inv.pid)
    (hholds : Holds inv.task pending true t) (hsys : pending.sysID=ctx.sysID)
    (htid : pending.tid=inv.tid) (hpid : pending.pid=inv.pid) :
    slot inv.pid (leave arch routes inv ctx t)=none := by
  obtain ⟨flags,hflags⟩ := Tracks.flags htracks inv.tid
  obtain ⟨hguard,hhandles⟩ := routedExit_exec routes hexec
  have hfound : lookupPendingSyscallForExit arch inv ctx.ret t=some ⟨pending,inv.tid,false⟩ := by
    unfold lookupPendingSyscallForExit
    rw [hholds.currentPendingSyscall rfl,if_pos rfl]
    dsimp only
    rw [if_pos htid]
  unfold leave
  rw [if_neg (Int64.not_lt.mpr hid),hflags]
  dsimp only
  rw [hnative,if_neg (by simp),if_neg (ne_sysRtSigreturn_of_exec hexec),
    if_neg (by simp [isPreExecSuppressedSyscall,hexec,hselected])]
  unfold exitProgram
  rw [hguard,if_neg (by simp),hfound]
  dsimp only
  rw [if_neg (not_not.mpr ⟨hsys,htid⟩),hsys,hhandles,if_neg (by simp),
    if_pos (by simp [hexec,hpid,hne])]
  exact Finmap.lookup_erase _ _

/-- The return from an exec that the filter drops leaves the maps as they are. -/
theorem leave_unselected (hnative : inv.nativeABI=true)
    (hdropped : isSelected arch t ctx.sysID=false) : leave arch routes inv ctx t=t := by
  unfold leave
  cases lookupLifecycleTaskFilterFlags t inv.pid inv.tid with
  | none =>
    dsimp only
    rw [ite_self]
  | some flags =>
    dsimp only
    simp [hnative,hdropped]

end Leave

section Lifecycle

variable {inv : Invocation} {t : TrackingState} {p : UInt32}

/-- Forks leave every slot alone. -/
theorem slot_fork (inv : Invocation) (child : UInt32) (t : TrackingState) (p : UInt32) :
    slot p (fork inv child t)=slot p t := by
  have harm : slot p (armChild inv child t)=slot p t := by
    unfold armChild slot
    split_ifs <;> rfl
  unfold fork
  dsimp only
  split_ifs
  · rw [←harm]
    unfold followChild slot
    split_ifs <;> rfl
  · exact harm

/-- Forks leave every filter entry but the child's alone. -/
theorem fork_filterMap (inv : Invocation) {child : UInt32} (t : TrackingState)
    (hne : p≠child) : (fork inv child t).filterMap.lookup p=t.filterMap.lookup p := by
  have harm : (armChild inv child t).filterMap.lookup p=t.filterMap.lookup p := by
    unfold armChild
    split_ifs
    · exact Finmap.lookup_insert_of_ne _ hne
    · rfl
  unfold fork
  dsimp only
  split_ifs
  · rw [←harm]
    unfold followChild
    split_ifs
    · exact Finmap.lookup_insert_of_ne _ hne
    · rfl
  · exact harm

/-- The exec of a process that is tracked afterwards clears its slot. -/
theorem slot_exec {arch : Arch} {oldPid : UInt32} (htid : inv.tid=inv.pid)
    (htracks : Tracks (exec arch inv oldPid t) inv.pid) :
    slot inv.pid (exec arch inv oldPid t)=none := by
  revert htracks
  unfold exec
  cases hadopt : adopt inv oldPid t with
  | none =>
    intro htracks
    exfalso
    unfold adopt at hadopt
    rw [htid,if_pos (Tracks.traced htracks inv.pid)] at hadopt
    cases hadopt
  | some adopted =>
    intro _
    exact Finmap.lookup_erase _ _

/-- The exit of another thread clears the slot that names it. -/
theorem slot_exit_thread (htracks : Tracks t inv.pid) (hne : inv.tid≠inv.pid) :
    slot inv.pid (exit inv t)=if slot inv.pid t=some inv.tid then none else slot inv.pid t := by
  unfold exit isExecReplacedLeader clearTask slot
  rw [Tracks.traced htracks,if_neg (by simp),if_neg (by simp [hne])]
  dsimp only
  rw [if_pos hne]
  by_cases hnamed : t.pendingExecMap.lookup inv.pid=some inv.tid
  · have hcleared : (clearPending inv.task t).pendingExecMap.lookup inv.pid=some inv.tid := hnamed
    rw [if_pos hcleared,if_pos hnamed]
    exact Finmap.lookup_erase _ _
  · have hcleared : (clearPending inv.task t).pendingExecMap.lookup inv.pid≠some inv.tid := hnamed
    rw [if_neg hcleared,if_neg hnamed]
    rfl

/-- The exit of another thread keeps the filter entry of the process. -/
theorem exit_thread_filterMap (hne : inv.tid≠inv.pid) :
    (exit inv t).filterMap.lookup inv.pid=t.filterMap.lookup inv.pid := by
  unfold exit isExecReplacedLeader clearTask
  split_ifs
  · rfl
  · rfl
  · exact Finmap.lookup_erase_ne hne.symm

/-- The exit of a first thread is swallowed when the slot names another thread. -/
theorem exit_swallowed {named : UInt32} (htid : inv.tid=inv.pid) (htracks : Tracks t inv.pid)
    (hslot : slot inv.pid t=some named) (hne : named≠inv.pid) :
    exit inv t=clearPending inv.task t := by
  unfold slot at hslot
  unfold exit isExecReplacedLeader
  rw [Tracks.traced htracks,if_neg (by simp),if_pos (by simp [htid,hslot,hne])]

/-- The exit of a first thread with an empty slot removes the process. -/
theorem exit_removes (htracks : Tracks t inv.pid)
    (hslot : slot inv.pid t=none) : exit inv t=clearTask inv inv.pid inv.tid t := by
  unfold slot at hslot
  unfold exit isExecReplacedLeader
  rw [Tracks.traced htracks,if_neg (by simp),if_neg (by simp [hslot])]

theorem clearTask_filterMap (inv : Invocation) (p : UInt32) (t : TrackingState) :
    (clearTask inv p p t).filterMap.lookup p=none := by
  unfold clearTask
  rw [if_neg (not_not.mpr rfl)]
  exact Finmap.lookup_erase _ _

end Lifecycle

end StraceGo.BpfExecSlot

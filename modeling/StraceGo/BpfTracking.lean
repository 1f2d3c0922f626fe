import StraceGo.BpfDispatch

/-!
# What the programs do to the tracking maps

Counters, records and the bookkeeping maps drop out here: each program acts on
the tracking maps by an operation that names only them. The later results use
these operations and never look inside a program again.
-/

namespace StraceGo.BpfTracking

open StraceGo.FiniteMaps StraceGo.EventEnvelope StraceGo.BpfRuntime StraceGo.BpfPendingState
open StraceGo.BpfEnterPrograms StraceGo.BpfLifecycle StraceGo.BpfDispatch

section Lookups

/-- Whether the filter holds a tracked entry for an id. -/
def Tracks (t : TrackingState) (id : UInt32) : Prop := (trackedFlags t id).isSome=true

/-- Tracked entries are entries with the tracked flag. -/
theorem tracks_iff (t : TrackingState) (id : UInt32) :
    Tracks t id ↔ ∃ flags, t.filterMap.lookup id=some flags ∧
      hasBit flags filterTaskTracked=true := by
  unfold Tracks trackedFlags
  rw [Option.isSome_iff_exists]
  simp only [Option.filter_eq_some_iff]

/-- A task is traced through its process or through its own entry. -/
theorem isLifecycleTaskTracked_iff (t : TrackingState) (pid tid : UInt32) :
    isLifecycleTaskTracked t pid tid=true ↔ Tracks t pid ∨ Tracks t tid := by
  unfold isLifecycleTaskTracked lookupLifecycleTaskFilterFlags Tracks
  cases hpid : trackedFlags t pid with
  | some flags => simp
  | none =>
    dsimp only
    by_cases heq : tid=pid
    · rw [if_neg (not_not.mpr heq),heq,hpid]
      simp
    · rw [if_pos heq]
      simp

/-- Tracking by id depends on the filter only. -/
theorem Tracks.congr {t t' : TrackingState} (h : t'.filterMap=t.filterMap) (id : UInt32) :
    Tracks t' id ↔ Tracks t id := by
  unfold Tracks trackedFlags
  rw [h]

end Lookups

section Fork

/-- Tracking part of arming a child. -/
def armChild (inv : Invocation) (childPid : UInt32) (t : TrackingState) : TrackingState :=
  if (t.armForkMap≠0 ∧ t.armForkMap=inv.pid) ∧ inv.updateSucceeds .installPreExecFilter=true then
    { t with filterMap := t.filterMap.insert childPid (filterTaskTracked|||filterTaskPreExec) }
  else t

/-- Tracking part of following a child. -/
def followChild (inv : Invocation) (childPid : UInt32) (t : TrackingState) : TrackingState :=
  if hasBit t.config configFollowForks=true ∧ inv.updateSucceeds .installTrackedFilter=true then
    let kept := ((t.filterMap.lookup childPid).getD 0)&&&filterTaskPreExec
    { t with filterMap := t.filterMap.insert childPid (filterTaskTracked|||kept) }
  else t

/-- Tracking part of a fork. -/
def fork (inv : Invocation) (childPid : UInt32) (t : TrackingState) : TrackingState :=
  let t := armChild inv childPid t
  if isLifecycleTaskTracked t inv.pid inv.tid then followChild inv childPid t else t

/-- Arming a child changes the filter only. -/
theorem armForkChild_tracking (inv : Invocation) (childPid : UInt32) (st : RuntimeState) :
    (armForkChild inv childPid st).toTrackingState=armChild inv childPid st.toTrackingState := by
  unfold armForkChild armChild installPreExecFilter
  by_cases harm : st.armForkMap≠0 ∧ st.armForkMap=inv.pid
  · rw [if_pos harm]
    by_cases hok : inv.updateSucceeds .installPreExecFilter=true
    · rw [if_pos hok,if_pos ⟨harm,hok⟩]
    · rw [if_neg hok,if_neg (fun h => hok h.2)]
      rfl
  · rw [if_neg harm,if_neg (fun h => harm h.1)]

/-- Following a child changes the filter only. -/
theorem followForkChild_tracking (inv : Invocation) (childPid : UInt32) (st : RuntimeState) :
    (followForkChild inv childPid st).toTrackingState=
      followChild inv childPid st.toTrackingState := by
  unfold followForkChild followChild installTrackedFilter
  by_cases hfollow : hasBit st.config configFollowForks=true
  · rw [if_pos hfollow]
    by_cases hok : inv.updateSucceeds .installTrackedFilter=true
    · rw [if_pos hok,if_pos ⟨hfollow,hok⟩]
      rfl
    · rw [if_neg hok,if_neg (fun h => hok h.2)]
      rfl
  · rw [if_neg hfollow,if_neg (fun h => hfollow h.1)]

/-- Lifecycle records do not decide tracking. -/
theorem emitLifecycleEvent_tracking (inv : Invocation) (action pid tid : UInt32)
    (arg0 arg1 : UInt64) (snapshot : String) (st : RuntimeState) :
    (emitLifecycleEvent inv action pid tid arg0 arg1 snapshot st).toTrackingState=
      st.toTrackingState := rfl

/-- Reports of a fork do not decide tracking. -/
theorem reportFork_tracking (inv : Invocation) (childPid : UInt32) (forkFlags : UInt64)
    (st : RuntimeState) :
    (reportFork inv childPid forkFlags st).toTrackingState=st.toTrackingState := by
  unfold reportFork markUnknownChild
  dsimp only
  split_ifs <;> rfl

/-- The fork program acts on the tracking maps as a fork. -/
theorem traceSchedProcessFork_tracking (inv : Invocation) (childPid : UInt32)
    (st : RuntimeState) :
    (traceSchedProcessFork inv childPid st).toTrackingState=
      fork inv childPid st.toTrackingState := by
  unfold traceSchedProcessFork fork
  dsimp only
  rw [armForkChild_tracking,RuntimeState.tell_toTrackingState]
  cases isLifecycleTaskTracked (armChild inv childPid st.toTrackingState) inv.pid inv.tid with
  | false => exact armForkChild_tracking inv childPid (st.tell (recordLifecycleForkSeen inv))
  | true =>
    rw [Bool.not_true,if_neg Bool.false_ne_true,if_pos rfl,reportFork_tracking,
      followForkChild_tracking,RuntimeState.tell_toTrackingState,armForkChild_tracking,
      RuntimeState.tell_toTrackingState]

end Fork

section Exec

/-- Tracking part of adopting an exec, absent when the task stays untraced. -/
def adopt (inv : Invocation) (oldTid : UInt32) (t : TrackingState) : Option TrackingState :=
  if isLifecycleTaskTracked t inv.pid inv.tid then some t
  else if oldTid=0 ∨ oldTid=inv.tid then none
  else
    match trackedFlags t oldTid with
    | none => none
    | some flags =>
      if inv.updateSucceeds .adoptExecTaskTracking then
        some { t with filterMap := (t.filterMap.insert inv.pid flags).erase oldTid }
      else none

/-- Tracking part of the first exec of an armed child. -/
def disarm (inv : Invocation) (t : TrackingState) : TrackingState :=
  match t.filterMap.lookup inv.tid with
  | none => t
  | some flags =>
    if hasBit flags filterTaskPreExec=true ∧ inv.updateSucceeds .clearPreExecFilter=true then
      { t with
        filterMap := t.filterMap.insert inv.tid (flags&&&~~~filterTaskPreExec),
        armForkMap := if inv.updateSucceeds .disarmFork then 0 else t.armForkMap }
    else t

/-- Tracking part of the completion of an exec. -/
def complete (arch : Arch) (inv : Invocation) (t : TrackingState) : TrackingState :=
  let t := if (currentPendingSyscall inv t).any
      (fun pending => isExecPayloadDirectSyscall arch pending.sysID) then
      clearPending inv.task t else t
  { t with pendingExecMap := t.pendingExecMap.erase inv.pid }

/-- Tracking part of an exec. -/
def exec (arch : Arch) (inv : Invocation) (oldPid : UInt32) (t : TrackingState) :
    TrackingState :=
  match adopt inv oldPid t with
  | none => t
  | some t => complete arch inv (disarm inv t)

/-- Adopting an exec changes the filter only. -/
theorem adoptExecTaskTracking_tracking (inv : Invocation) (oldTid : UInt32) (st : RuntimeState) :
    (adoptExecTaskTracking inv oldTid st).1.toTrackingState=
      (adopt inv oldTid st.toTrackingState).getD st.toTrackingState ∧
    (adoptExecTaskTracking inv oldTid st).2=(adopt inv oldTid st.toTrackingState).isSome := by
  unfold adoptExecTaskTracking adopt
  by_cases htracked : isLifecycleTaskTracked st.toTrackingState inv.pid inv.tid=true
  · rw [if_pos htracked,if_pos htracked]
    exact ⟨rfl,rfl⟩
  rw [if_neg htracked,if_neg htracked]
  by_cases hold : oldTid=0 ∨ oldTid=inv.tid
  · rw [if_pos hold,if_pos hold]
    exact ⟨rfl,rfl⟩
  rw [if_neg hold,if_neg hold]
  cases trackedFlags st.toTrackingState oldTid with
  | none => exact ⟨rfl,rfl⟩
  | some flags =>
    dsimp only
    by_cases hok : inv.updateSucceeds .adoptExecTaskTracking=true
    · rw [if_pos hok,if_pos hok]
      exact ⟨rfl,rfl⟩
    · rw [if_neg hok,if_neg hok]
      exact ⟨rfl,rfl⟩

/-- The first exec of an armed child changes its flags and the arm. -/
theorem disarmFork_tracking (inv : Invocation) (st : RuntimeState) :
    (disarmFork inv st).toTrackingState=disarm inv st.toTrackingState := by
  unfold disarmFork disarm clearPreExecFilter
  cases hlookup : st.filterMap.lookup inv.tid with
  | none => rfl
  | some flags =>
    dsimp only
    cases hbit : hasBit flags filterTaskPreExec with
    | false => rfl
    | true =>
      rw [Bool.not_true,if_neg Bool.false_ne_true]
      cases hok : inv.updateSucceeds .clearPreExecFilter with
      | false => rfl
      | true =>
        rw [if_pos rfl,if_pos ⟨rfl,rfl⟩]
        dsimp only
        by_cases harm : st.armForkMap=0
        · rw [if_pos harm,harm]
          split_ifs <;> rfl
        · rw [if_neg harm]
          cases inv.updateSucceeds .disarmFork <;> rfl

/-- Tracking part of clearing a completed enter. -/
theorem consumePendingSyscall_tracking (arch : Arch) (inv : Invocation) (found : PendingLookup)
    (st : RuntimeState) :
    (consumePendingSyscall arch inv found st).toTrackingState=
      { clearPending inv.task st.toTrackingState with pendingExecMap :=
        if found.pendingExecLookup || (isExecPayloadDirectSyscall arch found.pending.sysID &&
          found.pendingTid != found.pending.pid) then st.pendingExecMap.erase inv.pid
        else st.pendingExecMap } := by
  have hclear := clearPendingTaskState_tracking inv st
  have hslot : (clearPendingTaskState inv st).pendingExecMap=st.pendingExecMap := by
    rw [hclear]
    rfl
  unfold consumePendingSyscall
  dsimp only
  cases found.pendingExecLookup with
  | true =>
    rw [if_pos rfl,Bool.true_or,if_pos rfl,←hslot,←hclear]
  | false =>
    rw [if_neg Bool.false_ne_true,Bool.false_or]
    split_ifs
    · rw [←hslot,←hclear]
    · rw [←hslot,←hclear]

/-- Completing an exec clears its pending enter and the slot of its process. -/
theorem emitSuccessfulExecCompletion_tracking (arch : Arch) (inv : Invocation)
    (st : RuntimeState) :
    { (emitSuccessfulExecCompletion arch inv st).toTrackingState with pendingExecMap :=
        (emitSuccessfulExecCompletion arch inv st).pendingExecMap.erase inv.pid }=
      complete arch inv st.toTrackingState := by
  unfold emitSuccessfulExecCompletion complete
  cases hpending : currentPendingSyscall inv st.toTrackingState with
  | none => rfl
  | some pending =>
    dsimp only
    rw [Option.any_some]
    cases hexec : isExecPayloadDirectSyscall arch pending.sysID with
    | false => rfl
    | true =>
      rw [Bool.not_true,if_neg Bool.false_ne_true,if_pos rfl,consumePendingSyscall_tracking]
      dsimp only
      have herase : ∀ m : GoMap UInt32 UInt32, (m.erase inv.pid).erase inv.pid=m.erase inv.pid :=
        fun m => erase_eq_self (Finmap.lookup_erase inv.pid m)
      congr 1
      split_ifs
      · exact herase _
      · rfl

/-- The exec program acts on the tracking maps as an exec. -/
theorem traceSchedProcessExec_tracking (arch : Arch) (inv : Invocation) (oldPid : UInt32)
    (filename : String) (st : RuntimeState) :
    (traceSchedProcessExec arch inv oldPid filename st).toTrackingState=
      exec arch inv oldPid st.toTrackingState := by
  unfold traceSchedProcessExec exec
  have hadopt := adoptExecTaskTracking_tracking inv oldPid
    (st.tell (recordLifecycleExecSeen inv))
  rw [RuntimeState.tell_toTrackingState] at hadopt
  rcases hresult : adoptExecTaskTracking inv oldPid (st.tell (recordLifecycleExecSeen inv)) with
    ⟨adopted,tracked⟩
  rw [hresult] at hadopt
  cases htrack : adopt inv oldPid st.toTrackingState with
  | none =>
    rw [htrack] at hadopt
    obtain ⟨hstate,hflag⟩ := hadopt
    dsimp only at hstate hflag
    rw [hflag]
    exact hstate
  | some t =>
    rw [htrack] at hadopt
    obtain ⟨hstate,hflag⟩ := hadopt
    dsimp only at hstate hflag
    rw [hflag]
    dsimp only [Option.isSome_some]
    rw [emitLifecycleEvent_tracking,emitSuccessfulExecCompletion_tracking,disarmFork_tracking,
      hstate,Option.getD_some]

end Exec

section Exit

/-- Tracking part of removing an exiting task. -/
def clearTask (inv : Invocation) (pid tid : UInt32) (t : TrackingState) : TrackingState :=
  let t := clearPending inv.task t
  if tid≠pid then
    { t with
      pendingExecMap := if t.pendingExecMap.lookup pid=some tid then t.pendingExecMap.erase pid
        else t.pendingExecMap,
      filterMap := t.filterMap.erase tid }
  else
    { t with
      filterMap := t.filterMap.erase pid,
      pendingExecMap := t.pendingExecMap.erase pid,
      armForkMap := if t.armForkMap=pid ∧ inv.updateSucceeds .clearArmedForkParent=true then 0
        else t.armForkMap }

/-- Tracking part of an exit. -/
def exit (inv : Invocation) (t : TrackingState) : TrackingState :=
  if !isLifecycleTaskTracked t inv.pid inv.tid then t
  else if isExecReplacedLeader t inv.pid inv.tid then clearPending inv.task t
  else clearTask inv inv.pid inv.tid t

/-- Tracking part of a free. -/
def free (inv : Invocation) (tid : UInt32) (t : TrackingState) : TrackingState :=
  if tid=0 ∨ isLifecycleTaskTracked t tid tid=false then t else clearTask inv tid tid t

/-- Attached exits do not decide tracking. -/
theorem markAttachTaskExited_tracking (inv : Invocation) (tid : UInt32) (st : RuntimeState) :
    (markAttachTaskExited inv tid st).toTrackingState=st.toTrackingState := by
  unfold markAttachTaskExited
  split_ifs <;> rfl

/-- Exits of untraced children do not decide tracking. -/
theorem reportUnknownExit_tracking (inv : Invocation) (st : RuntimeState) :
    (reportUnknownExit inv st).toTrackingState=st.toTrackingState := by
  unfold reportUnknownExit
  cases st.unknownChildrenMap.lookup inv.tid with
  | none => rfl
  | some parent =>
    dsimp only
    split_ifs <;> rfl

/-- Removing a task changes the tracking maps as stated. -/
theorem clearLifecycleTaskState_tracking (inv : Invocation) (pid tid : UInt32)
    (st : RuntimeState) :
    (clearLifecycleTaskState inv pid tid st).toTrackingState=
      clearTask inv pid tid st.toTrackingState := by
  have hclear := clearPendingTaskState_tracking inv st
  unfold clearLifecycleTaskState clearTask
  rw [←hclear]
  dsimp only
  by_cases heq : tid=pid
  · rw [if_neg (not_not.mpr heq),if_neg (not_not.mpr heq)]
    unfold clearProcessLifecycleState clearArmedForkParent
    dsimp only
    by_cases harm : (clearPendingTaskState inv st).armForkMap=pid
    · rw [if_neg (not_not.mpr harm)]
      by_cases hok : inv.updateSucceeds .clearArmedForkParent=true
      · rw [if_pos hok,if_pos ⟨harm,hok⟩]
      · rw [if_neg hok,if_neg (fun h => hok h.2)]
        rfl
    · rw [if_pos harm,if_neg (fun h => harm h.1)]
  · rw [if_pos heq,if_pos heq]

/-- The exit program acts on the tracking maps as an exit. -/
theorem traceSchedProcessExit_tracking (inv : Invocation) (exitCode : UInt64)
    (st : RuntimeState) :
    (traceSchedProcessExit inv exitCode st).toTrackingState=exit inv st.toTrackingState := by
  unfold traceSchedProcessExit exit
  dsimp only
  rw [reportUnknownExit_tracking,RuntimeState.tell_toTrackingState]
  split_ifs
  · exact reportUnknownExit_tracking inv (st.tell (recordLifecycleExitSeen inv))
  · rw [clearPendingTaskState_tracking,reportUnknownExit_tracking,
      RuntimeState.tell_toTrackingState]
  · rw [emitLifecycleEvent_tracking,clearLifecycleTaskState_tracking,
      markAttachTaskExited_tracking,reportUnknownExit_tracking,RuntimeState.tell_toTrackingState]

/-- The free program acts on the tracking maps as a free. -/
theorem traceSchedProcessFree_tracking (inv : Invocation) (tid : UInt32) (st : RuntimeState) :
    (traceSchedProcessFree inv tid st).toTrackingState=free inv tid st.toTrackingState := by
  unfold traceSchedProcessFree free
  split_ifs
  · rfl
  · rw [emitLifecycleEvent_tracking,clearLifecycleTaskState_tracking]

end Exit

end StraceGo.BpfTracking

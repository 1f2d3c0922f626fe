import StraceGo.BpfPendingState

/-!
# Lifecycle programs

The tracepoint programs of fork, exec, exit and free, with the cleanup they
share. Process-scoped entries are removed by the first thread of a process,
thread-scoped ones by the thread they name. The exit of a first thread that a
successful exec replaces is told apart by the process-scoped exec slot.
-/

namespace StraceGo.BpfLifecycle

open StraceGo.FiniteMaps StraceGo.EventEnvelope StraceGo.BpfRuntime StraceGo.BpfPendingState

/-- Clone flag of a child that stays under its parent's tracer. -/
def clonePtraceFlag : UInt64 := 0x2000

/-- Clone flag of a child that becomes a sibling. -/
def cloneParentFlag : UInt64 := 0x8000

section Records

/-- A lifecycle record as the decoder projects it. -/
def lifecycleRecord (inv : Invocation) (action pid tid : UInt32) (arg0 arg1 : UInt64)
    (snapshot : String) : TraceEventEnvelope :=
  { eventType := .lifecycle
    pid := pid
    tid := tid
    lifecycleAction := action
    recordTime := inv.ktime (.lifecycle action)
    enterTime := inv.ktime (.lifecycle action)
    args := #v[if action=lifecycleFork then arg0&&&0xffffffff else arg0,arg1,0,0,0,0]
    snapshotText := snapshot }

/-- Emit a lifecycle record when configured. -/
def emitLifecycleEvent (inv : Invocation) (action pid tid : UInt32) (arg0 arg1 : UInt64)
    (snapshot : String) (st : RuntimeState) : RuntimeState :=
  st.tell (if hasBit st.config configEmitLifecycle then
    submit inv (lifecycleRecord inv action pid tid arg0 arg1 snapshot) else id)

end Records

section Counters

variable (inv : Invocation)

/-- Count a fork. -/
def recordLifecycleForkSeen : Telemetry → Telemetry :=
  bump inv (fun s => { s with lifecycleForkSeen := s.lifecycleForkSeen+1 })

/-- Count a fork of a tracked parent. -/
def recordLifecycleForkParentTracked : Telemetry → Telemetry :=
  bump inv (fun s => { s with lifecycleForkParentTracked := s.lifecycleForkParentTracked+1 })

/-- Count a fork of an untracked parent. -/
def recordLifecycleForkParentUntracked : Telemetry → Telemetry :=
  bump inv (fun s => { s with lifecycleForkParentUntracked := s.lifecycleForkParentUntracked+1 })

/-- Count the outcome of adding a child to the filter. -/
def recordLifecycleForkChildFilter (installed : Bool) (t : Telemetry) : Telemetry :=
  if installed then bump inv (fun s => { s with
    lifecycleForkChildFilterInstalled := s.lifecycleForkChildFilterInstalled+1 }) t
  else recordEventIntegrityLoss inv (bump inv (fun s => { s with
    lifecycleForkChildFilterFailed := s.lifecycleForkChildFilterFailed+1 }) t)

/-- Count an exec. -/
def recordLifecycleExecSeen : Telemetry → Telemetry :=
  bump inv (fun s => { s with lifecycleExecSeen := s.lifecycleExecSeen+1 })

/-- Count an exec of an untracked task. -/
def recordLifecycleExecUntracked : Telemetry → Telemetry :=
  bump inv (fun s => { s with lifecycleExecUntracked := s.lifecycleExecUntracked+1 })

/-- Count an exit. -/
def recordLifecycleExitSeen : Telemetry → Telemetry :=
  bump inv (fun s => { s with lifecycleExitSeen := s.lifecycleExitSeen+1 })

/-- Count an exit of an untracked task. -/
def recordLifecycleExitUntracked : Telemetry → Telemetry :=
  bump inv (fun s => { s with lifecycleExitUntracked := s.lifecycleExitUntracked+1 })

end Counters

section MapUpdates

/-- Remember the flags of a clone in flight. -/
def capturePendingForkFlags (arch : Arch) (inv : Invocation) (sysID : UInt32)
    (args : SyscallArgs) (cloneArgs : Option UInt64) (st : RuntimeState) : RuntimeState :=
  let flags := if sysID=sysClone arch then some (args.get 0)
    else if sysID=sysClone3 arch then (if args.get 0=0 then none else cloneArgs)
    else none
  match flags with
  | none => st
  | some flags =>
    if inv.updateSucceeds .capturePendingForkFlags then
      { st with pendingForkFlagsMap := st.pendingForkFlagsMap.insert inv.tid flags }
    else st.tell (recordLifecycleMapUpdateFail inv)

/-- Flags of a clone in flight, zero when unknown. -/
def pendingForkFlags (st : RuntimeState) (tid : UInt32) : UInt64 :=
  (st.pendingForkFlagsMap.lookup tid).getD 0

/-- Forget the flags of a clone that returns. -/
def clearPendingForkFlags (arch : Arch) (inv : Invocation) (sysID : UInt32) (st : RuntimeState) :
    RuntimeState :=
  if sysID=sysClone arch ∨ sysID=sysClone3 arch then
    { st with pendingForkFlagsMap := st.pendingForkFlagsMap.erase inv.tid }
  else st

/-- Remember an untraced child that its grandparent will reap. -/
def markUnknownChild (inv : Invocation) (tid parent : UInt32) (st : RuntimeState) :
    RuntimeState :=
  if inv.updateSucceeds .markUnknownChild then
    { st with unknownChildrenMap := st.unknownChildrenMap.insert tid parent }
  else st.tell (recordLifecycleMapUpdateFail inv)

/-- Stop tracing the children of a process that exits. -/
def clearArmedForkParent (inv : Invocation) (pid : UInt32) (st : RuntimeState) : RuntimeState :=
  if st.armForkMap≠pid then st
  else if inv.updateSucceeds .clearArmedForkParent then { st with armForkMap := 0 }
  else st.tell (recordLifecycleMapUpdateFail inv)

/-- Trace an armed child before its first exec. -/
def installPreExecFilter (inv : Invocation) (tid : UInt32) (st : RuntimeState) : RuntimeState :=
  if inv.updateSucceeds .installPreExecFilter then
    { st with filterMap := st.filterMap.insert tid (filterTaskTracked|||filterTaskPreExec) }
  else st.tell (recordLifecycleMapUpdateFail inv)

/-- Trace a child of a traced task, keeping its armed flag. -/
def installTrackedFilter (inv : Invocation) (tid : UInt32) (st : RuntimeState) :
    RuntimeState×Bool :=
  if inv.updateSucceeds .installTrackedFilter then
    let kept := ((st.filterMap.lookup tid).getD 0)&&&filterTaskPreExec
    ({ st with filterMap := st.filterMap.insert tid (filterTaskTracked|||kept) },true)
  else (st.tell (recordLifecycleMapUpdateFail inv),false)

/-- Drop the armed flag of a task and report whether it had one. -/
def clearPreExecFilter (inv : Invocation) (tid : UInt32) (st : RuntimeState) :
    RuntimeState×Bool :=
  match st.filterMap.lookup tid with
  | none => (st,false)
  | some flags =>
    if !hasBit flags filterTaskPreExec then (st,false)
    else if inv.updateSucceeds .clearPreExecFilter then
      ({ st with filterMap := st.filterMap.insert tid (flags&&&~~~filterTaskPreExec) },true)
    else (st.tell (recordLifecycleMapUpdateFail inv),false)

/-- Move the tracking of a thread to the identity its exec gives it. -/
def adoptExecTaskTracking (inv : Invocation) (oldTid : UInt32) (st : RuntimeState) :
    RuntimeState×Bool :=
  if isLifecycleTaskTracked st.toTrackingState inv.pid inv.tid then (st,true)
  else if oldTid=0 ∨ oldTid=inv.tid then (st,false)
  else
    match trackedFlags st.toTrackingState oldTid with
    | none => (st,false)
    | some flags =>
      if inv.updateSucceeds .adoptExecTaskTracking then
        ({ st with filterMap := (st.filterMap.insert inv.pid flags).erase oldTid },true)
      else (st.tell (recordLifecycleMapUpdateFail inv),false)

/-- Remember that an attached task has exited. -/
def markAttachTaskExited (inv : Invocation) (tid : UInt32) (st : RuntimeState) : RuntimeState :=
  if tid=0 ∨ st.attachRootsMap.lookup tid=none then st
  else if inv.updateSucceeds .markAttachTaskExited then
    { st with attachExitedMap := st.attachExitedMap.insert tid 1 }
  else st.tell (recordLifecycleMapUpdateFail inv)

/-- Remember the thread of a process that enters an exec. -/
def armPendingExecReplacement (arch : Arch) (inv : Invocation) (sysID : UInt32)
    (st : RuntimeState) : RuntimeState :=
  if !isExecPayloadDirectSyscall arch sysID || inv.tid==inv.pid ||
      !isLifecycleTaskTracked st.toTrackingState inv.pid inv.tid then st
  else if inv.updateSucceeds .armPendingExecReplacement then
    { st with pendingExecMap := st.pendingExecMap.insert inv.pid inv.tid }
  else st.tell (recordLifecycleMapUpdateFail inv)

end MapUpdates

section Cleanup

/-- Remove the entries of a process. -/
def clearProcessLifecycleState (inv : Invocation) (pid : UInt32) (st : RuntimeState) :
    RuntimeState :=
  clearArmedForkParent inv pid { st with
    filterMap := st.filterMap.erase pid,
    attachRootsMap := st.attachRootsMap.erase pid,
    pendingExecMap := st.pendingExecMap.erase pid,
    mainExitedMap := st.mainExitedMap.erase pid,
    pendingForkFlagsMap := st.pendingForkFlagsMap.erase pid,
    unknownChildrenMap := st.unknownChildrenMap.erase pid }

/-- Whether the exec slot explains the exit of a first thread. -/
def isExecReplacedLeader (st : TrackingState) (pid tid : UInt32) : Bool :=
  tid==pid && (st.pendingExecMap.lookup pid).any (fun pending => pending != pid)

/-- Remove the entries of an exiting task. -/
def clearLifecycleTaskState (inv : Invocation) (pid tid : UInt32) (st : RuntimeState) :
    RuntimeState :=
  let st := clearPendingTaskState inv st
  if tid≠pid then
    { st with
      pendingExecMap := if st.pendingExecMap.lookup pid=some tid then st.pendingExecMap.erase pid
        else st.pendingExecMap,
      filterMap := st.filterMap.erase tid,
      attachRootsMap := st.attachRootsMap.erase tid,
      pendingForkFlagsMap := st.pendingForkFlagsMap.erase tid,
      unknownChildrenMap := st.unknownChildrenMap.erase tid }
  else clearProcessLifecycleState inv pid st

/-- Refuse a syscall of a foreign interface, dropping what the task had pending. -/
def rejectUnsupportedSyscallABI (inv : Invocation) (sysID : UInt32) (st : RuntimeState) :
    RuntimeState×Bool :=
  if inv.nativeABI then (st,false)
  else
    let st := clearPendingTaskState inv st
    let st := { st with pendingExecMap := st.pendingExecMap.erase inv.pid }
    (st.tell (submit inv
      { eventType := .unsupportedABI
        pid := inv.pid
        tid := inv.tid
        sysID := sysID
        recordTime := inv.ktime .unsupportedABI
        enterTime := inv.ktime .unsupportedABI }),true)

end Cleanup

section Programs

/-- Emit the completion of a pending exec and clear it. -/
def emitSuccessfulExecCompletion (arch : Arch) (inv : Invocation) (st : RuntimeState) :
    RuntimeState :=
  match currentPendingSyscall inv st.toTrackingState with
  | none => st
  | some pending =>
    if !isExecPayloadDirectSyscall arch pending.sysID then st
    else consumePendingSyscall arch inv ⟨pending,pending.tid,false⟩
      (st.tell (submit inv (completedRecord inv 0 pending 0 0 {})))

/-- Trace a child of the armed process before its first exec. -/
def armForkChild (inv : Invocation) (childPid : UInt32) (st : RuntimeState) : RuntimeState :=
  if st.armForkMap≠0 ∧ st.armForkMap=inv.pid then installPreExecFilter inv childPid st else st

/-- Trace a child of a traced parent when children are followed. -/
def followForkChild (inv : Invocation) (childPid : UInt32) (st : RuntimeState) : RuntimeState :=
  if hasBit st.config configFollowForks then
    match installTrackedFilter inv childPid st with
    | (st,installed) => st.tell (recordLifecycleForkChildFilter inv installed)
  else st

/-- Report the fork of a traced parent, and a child that stays untraced. -/
def reportFork (inv : Invocation) (childPid : UInt32) (forkFlags : UInt64) (st : RuntimeState) :
    RuntimeState :=
  let followsChild := hasBit st.config configFollowForks
  let forkIdentity := ((forkFlags&&&0xffffffff)<<<32)|||inv.pid.toUInt64
  let st := emitLifecycleEvent inv lifecycleFork inv.pid inv.tid forkIdentity
    childPid.toUInt64 "" st
  let st := if !followsChild && forkFlags&&&clonePtraceFlag != 0 then
      emitLifecycleEvent inv lifecycleUnknownDetach inv.pid inv.tid childPid.toUInt64 0 "" st
    else st
  if !followsChild && forkFlags&&&cloneParentFlag != 0 then markUnknownChild inv childPid inv.pid st
  else st

/-- Program of the fork tracepoint, which runs in the parent. -/
def traceSchedProcessFork (inv : Invocation) (childPid : UInt32) (st : RuntimeState) :
    RuntimeState :=
  let forkFlags := pendingForkFlags st inv.tid
  let st := armForkChild inv childPid (st.tell (recordLifecycleForkSeen inv))
  if !isLifecycleTaskTracked st.toTrackingState inv.pid inv.tid then
    st.tell (recordLifecycleForkParentUntracked inv)
  else
    reportFork inv childPid forkFlags
      (followForkChild inv childPid (st.tell (recordLifecycleForkParentTracked inv)))

/-- Stop tracing the children of the armed process once one of them executes its program. -/
def disarmFork (inv : Invocation) (st : RuntimeState) : RuntimeState :=
  match clearPreExecFilter inv inv.tid st with
  | (st,false) => st
  | (st,true) =>
    if st.armForkMap=0 then st
    else if inv.updateSucceeds .disarmFork then { st with armForkMap := 0 }
    else st.tell (recordLifecycleMapUpdateFail inv)

/-- Program of the exec tracepoint, which runs under the new identity. -/
def traceSchedProcessExec (arch : Arch) (inv : Invocation) (oldPid : UInt32) (filename : String)
    (st : RuntimeState) : RuntimeState :=
  match adoptExecTaskTracking inv oldPid (st.tell (recordLifecycleExecSeen inv)) with
  | (st,false) => st.tell (recordLifecycleExecUntracked inv)
  | (st,true) =>
    let st := emitSuccessfulExecCompletion arch inv (disarmFork inv st)
    let st := emitLifecycleEvent inv lifecycleExec inv.pid inv.tid oldPid.toUInt64
      inv.tid.toUInt64 filename st
    { st with pendingExecMap := st.pendingExecMap.erase inv.pid }

/-- Report the exit of a child that was never traced to the process that reaps it. -/
def reportUnknownExit (inv : Invocation) (st : RuntimeState) : RuntimeState :=
  match st.unknownChildrenMap.lookup inv.tid with
  | none => st
  | some parent =>
    let st := { st with unknownChildrenMap := st.unknownChildrenMap.erase inv.tid }
    if parent=0 then st
    else emitLifecycleEvent inv lifecycleUnknownExit parent parent inv.tid.toUInt64 0 "" st

/-- Program of the exit tracepoint, which runs in the exiting task. -/
def traceSchedProcessExit (inv : Invocation) (exitCode : UInt64) (st : RuntimeState) :
    RuntimeState :=
  let st := reportUnknownExit inv (st.tell (recordLifecycleExitSeen inv))
  if !isLifecycleTaskTracked st.toTrackingState inv.pid inv.tid then
    st.tell (recordLifecycleExitUntracked inv)
  else if isExecReplacedLeader st.toTrackingState inv.pid inv.tid then clearPendingTaskState inv st
  else
    emitLifecycleEvent inv lifecycleExit inv.pid inv.tid exitCode 0 ""
      (clearLifecycleTaskState inv inv.pid inv.tid (markAttachTaskExited inv inv.tid st))

/-- Program of the free tracepoint, which runs in an unrelated task. -/
def traceSchedProcessFree (inv : Invocation) (tid : UInt32) (st : RuntimeState) : RuntimeState :=
  if tid=0 ∨ isLifecycleTaskTracked st.toTrackingState tid tid=false then st
  else emitLifecycleEvent inv lifecycleFree tid tid tid.toUInt64 0 ""
    (clearLifecycleTaskState inv tid tid st)

end Programs

end StraceGo.BpfLifecycle

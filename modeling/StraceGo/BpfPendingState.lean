import StraceGo.BpfRuntime

/-!
# Pending enters in task storage and the exit programs

An enter program saves its metadata in the storage of the current task; the
exit program of the same task looks it up, checks that it belongs to the
syscall that returns, emits the exit record and clears it. A successful exec by
a thread other than the first one changes the identity of its task, so its exit
may be found through the process-scoped slot instead.

The exit programs differ in the guards in front of and behind the lookup, in
the fragments they emit first, and in the memory they capture; the lookup, the
final record and the clearing are common to all of them.
-/

namespace StraceGo.BpfPendingState

open StraceGo.FiniteMaps StraceGo.EventEnvelope StraceGo.BpfRuntime

section TaskStorage

/-- Storage of the current task. -/
def currentPendingTaskState (inv : Invocation) (st : TrackingState) : Option PendingTaskState :=
  st.pendingTaskStorage.lookup inv.task

/-- Pending enter of the current task. -/
def currentPendingSyscall (inv : Invocation) (st : TrackingState) : Option PendingSyscall :=
  ((currentPendingTaskState inv st).filter PendingTaskState.valid).map PendingTaskState.syscall

/-- Forget the pending enter of the current task. -/
def clearPendingTaskState (inv : Invocation) (st : RuntimeState) : RuntimeState :=
  match currentPendingTaskState inv st.toTrackingState with
  | none => st
  | some state =>
    let cleared := { state with aux0 := 0, valid := false }
    { st with
      pendingStackMap := if state.valid && decide (0 ≤ state.syscall.stackID) then
        st.pendingStackMap.erase state.syscall.tid else st.pendingStackMap,
      pendingTaskStorage := st.pendingTaskStorage.insert inv.task cleared }

/-- The tracking part of forgetting a pending enter. -/
def clearPending (task : TaskID) (t : TrackingState) : TrackingState :=
  { t with pendingTaskStorage := match t.pendingTaskStorage.lookup task with
    | none => t.pendingTaskStorage
    | some state => t.pendingTaskStorage.insert task { state with aux0 := 0, valid := false } }

/-- Forgetting a pending enter touches the current task's storage only. -/
theorem clearPendingTaskState_tracking (inv : Invocation) (st : RuntimeState) :
    (clearPendingTaskState inv st).toTrackingState=clearPending inv.task st.toTrackingState := by
  unfold clearPendingTaskState clearPending currentPendingTaskState
  cases st.pendingTaskStorage.lookup inv.task <;> rfl

/-- Forgetting a pending enter counts and emits nothing. -/
theorem clearPendingTaskState_telemetry (inv : Invocation) (st : RuntimeState) :
    (clearPendingTaskState inv st).telemetry=st.telemetry := by
  unfold clearPendingTaskState
  split <;> rfl

/-- Storage after the current task forgets its pending enter. -/
theorem clearPending_lookup (task other : TaskID) (t : TrackingState) :
    (clearPending task t).pendingTaskStorage.lookup other=
      if other=task then (t.pendingTaskStorage.lookup task).map
        (fun state => { state with aux0 := 0, valid := false })
      else t.pendingTaskStorage.lookup other := by
  unfold clearPending
  dsimp only
  cases h : t.pendingTaskStorage.lookup task with
  | none =>
    dsimp only
    split_ifs with heq
    · rw [heq,h]
      rfl
    · rfl
  | some state =>
    dsimp only
    rw [lookup_insert_ite]
    rfl

/-- Save an enter in the storage of the current task and report success. -/
def savePendingSyscallValue (inv : Invocation) (pending : PendingSyscall) (st : RuntimeState) :
    RuntimeState×Bool :=
  if (currentPendingTaskState inv st.toTrackingState).isNone && !inv.storageAvailable then
    (st.tell (recordPendingUpdateFail inv),false)
  else
    let pending := { pending with cpuEnterTime := inv.cpuRuntime }
    let st := { st with
      pendingTaskStorage := st.pendingTaskStorage.insert inv.task ⟨pending,0,true⟩ }
    if decide (0 ≤ pending.stackID) then
      if inv.updateSucceeds .pendingStack then
        ({ st with pendingStackMap := st.pendingStackMap.insert pending.tid pending.stackID },true)
      else (st.tell (recordPendingUpdateFail inv),true)
    else (st,true)

/-- Save the auxiliary word of a pending enter. -/
def savePendingSyscallAux (inv : Invocation) (aux0 : UInt32) (st : RuntimeState) : RuntimeState :=
  match (currentPendingTaskState inv st.toTrackingState).filter PendingTaskState.valid with
  | none => st.tell (recordPendingUpdateFail inv)
  | some state =>
    let state := { state with aux0 := aux0 }
    { st with pendingTaskStorage := st.pendingTaskStorage.insert inv.task state }

end TaskStorage

section Exits

/-- Captured user memory of one record. -/
structure Capture where
  /-- Captured sections. -/
  sections : List PayloadSection := []
  /-- Whether a section was cut to its limit. -/
  truncated : Bool := false
  deriving DecidableEq, Repr

/-- Header bits of a capture. -/
def Capture.flags (capture : Capture) : UInt32 :=
  (if capture.sections.isEmpty then 0 else 2)|||(if capture.truncated then 4 else 0)

/-- Arguments of a `sys_exit` tracepoint. -/
structure ExitContext where
  /-- Raw syscall number. -/
  id : Int64
  /-- Raw return value. -/
  ret : Int64
  /-- Memory captured for the final record. -/
  capture : Capture := {}
  /-- Memory captured for the fragments in front of it. -/
  fragments : List Capture := []

/-- Syscall number as the programs read it. -/
def ExitContext.sysID (ctx : ExitContext) : UInt32 := ctx.id.toUInt64.toUInt32

/-- Start of a syscall, reconstructed by the decoder from an exit record. -/
def traceEventV2EnterTime (tsNS duration : UInt64) : UInt64 :=
  if tsNS < duration then tsNS else tsNS-duration

/-- Wall time since a pending enter. -/
def pendingSyscallDuration (inv : Invocation) (stage : ℕ) (p : PendingSyscall) : UInt64 :=
  if p.enterTime=0 then 0
  else if inv.ktime (.duration stage) ≤ p.enterTime then 0
  else inv.ktime (.duration stage)-p.enterTime

/-- Scheduled time since a pending enter. -/
def pendingSyscallCPUDuration (inv : Invocation) (p : PendingSyscall) : UInt64 :=
  if inv.cpuRuntime ≤ p.cpuEnterTime then 0 else inv.cpuRuntime-p.cpuEnterTime

/-- Exit record of a pending enter. -/
def exitRecord (inv : Invocation) (p : PendingSyscall) (ret : Int64) (tsNS duration : UInt64)
    (flags : UInt32) (capture : Capture) : TraceEventEnvelope :=
  { eventType := .exit
    pid := p.pid
    tid := p.tid
    sysID := p.sysID
    eventFlags := flags|||capture.flags
    recordTime := tsNS
    enterTime := traceEventV2EnterTime tsNS duration
    args := p.args
    ret := ret
    duration := duration
    cpuDuration := pendingSyscallCPUDuration inv p
    stackID := p.stackID
    payload := capture.sections }

/-- Exit record stamped with the end of the syscall. -/
def completedRecord (inv : Invocation) (stage : ℕ) (p : PendingSyscall) (ret : Int64)
    (flags : UInt32) (capture : Capture) : TraceEventEnvelope :=
  let duration := pendingSyscallDuration inv stage p
  exitRecord inv p ret (p.enterTime+duration) duration flags capture

/-- Return values that restart an interrupted exec. -/
def isExecRestartReturn (ret : Int64) : Bool :=
  ret== -512 || ret== -513 || ret== -514 || ret== -516

/-- Exits that never have a pending enter. -/
def isExpectedUnmatchedExit (arch : Arch) (sysID : UInt32) (ret : Int64) : Bool :=
  isTerminatingDirectSyscall arch sysID ||
    (isProcessCreationDirectSyscall arch sysID && ret==0) ||
    (isExecPayloadDirectSyscall arch sysID && ret==0) ||
    (isExecPayloadDirectSyscall arch sysID && isExecRestartReturn ret)

/-- Count an exit without an enter unless it is expected. -/
def recordUnmatchedExitIfNeeded (arch : Arch) (inv : Invocation) (sysID : UInt32) (ret : Int64)
    (st : RuntimeState) : RuntimeState :=
  if !isLifecycleTaskTracked st.toTrackingState inv.pid inv.tid then st
  else if (st.attachExitedMap.lookup inv.tid).any (fun exited => exited != 0) then st
  else if !isSelected arch st.toTrackingState sysID then st
  else if isExpectedUnmatchedExit arch sysID ret then st
  else st.tell (recordOrphanExit inv sysID ret orphanReasonNoPending)

/-- A pending enter found for an exit. -/
structure PendingLookup where
  /-- The pending enter. -/
  pending : PendingSyscall
  /-- Thread the enter is expected to name. -/
  pendingTid : UInt32
  /-- Whether the process-scoped exec slot names that thread. -/
  pendingExecLookup : Bool

/-- Pending enter of the current task, with the thread it must belong to. -/
def lookupPendingSyscallForExit (arch : Arch) (inv : Invocation) (ret : Int64)
    (st : TrackingState) : Option PendingLookup :=
  match currentPendingSyscall inv st with
  | none => none
  | some pending =>
    if pending.tid=inv.tid then some ⟨pending,inv.tid,false⟩
    else if ret=0 ∧ isExecPayloadDirectSyscall arch pending.sysID=true ∧
        st.pendingExecMap.lookup inv.pid=some pending.tid then
      some ⟨pending,pending.tid,true⟩
    else some ⟨pending,inv.tid,false⟩

/-- Check that a found enter belongs to the syscall that returns, or drop it. -/
def validatePendingSyscallExit (inv : Invocation) (found : PendingLookup) (sysID : UInt32)
    (st : RuntimeState) : RuntimeState×Bool :=
  if found.pending.sysID=sysID ∧ found.pending.tid=found.pendingTid then (st,true)
  else
    let st := clearPendingTaskState inv (st.tell (recordPendingMismatch inv))
    ({ st with pendingExecMap := st.pendingExecMap.erase inv.pid },false)

/-- Forget a completed enter and the exec slot it may hold. -/
def consumePendingSyscall (arch : Arch) (inv : Invocation) (found : PendingLookup)
    (st : RuntimeState) : RuntimeState :=
  let st := clearPendingTaskState inv st
  if found.pendingExecLookup then
    { st with
      pendingExecMap := st.pendingExecMap.erase inv.pid,
      mainExitedMap := st.mainExitedMap.erase inv.pid }
  else if isExecPayloadDirectSyscall arch found.pending.sysID &&
      found.pendingTid != found.pending.pid then
    { st with pendingExecMap := st.pendingExecMap.erase inv.pid }
  else st

/-- A `sys_exit` program: its guards and the fragments it emits first. -/
structure ExitProgram where
  /-- Guard in front of the pending lookup. -/
  guard : UInt32 → Bool := fun _ => true
  /-- Guard on the pending syscall. -/
  handles : UInt32 → Bool := fun _ => true
  /-- Records emitted in front of the final one. -/
  fragments : Invocation → ExitContext → PendingSyscall → List TraceEventEnvelope :=
    fun _ _ _ => []
  /-- Number of earlier programs of its chain. -/
  stage : ℕ := 0

/-- Records of an exit program, the final one last. -/
def ExitProgram.records (program : ExitProgram) (inv : Invocation) (ctx : ExitContext)
    (p : PendingSyscall) : List TraceEventEnvelope :=
  program.fragments inv ctx p++[completedRecord inv program.stage p ctx.ret 0 ctx.capture]

/-- Look up, check, emit and clear, as every exit program does. -/
def runExitProgram (arch : Arch) (program : ExitProgram) (inv : Invocation) (ctx : ExitContext)
    (st : RuntimeState) : RuntimeState :=
  if !program.guard ctx.sysID then st
  else
    match lookupPendingSyscallForExit arch inv ctx.ret st.toTrackingState with
    | none => recordUnmatchedExitIfNeeded arch inv ctx.sysID ctx.ret st
    | some found =>
      match validatePendingSyscallExit inv found ctx.sysID st with
      | (st,false) => st
      | (st,true) =>
        if !program.handles found.pending.sysID then st
        else consumePendingSyscall arch inv found
          (st.tell (submitAll inv (program.records inv ctx found.pending)))

/-- The unguarded single-record exit programs. -/
def exitGeneric : ExitProgram := {}

end Exits

end StraceGo.BpfPendingState

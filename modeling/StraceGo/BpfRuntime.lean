import StraceGo.EventEnvelope
import Mathlib.Logic.Function.Basic

/-!
# Shared state of the in-kernel tracing programs

The maps, the task storage, the counters and the ring buffer that the
tracepoint programs share, with the helper calls they make. One run of a
program is given the answers of the kernel as an invocation: the current task,
the clock readings, and the outcome of every map update and of every record
submission. Records are kept in the form in which the decoder projects them.

Syscall numbers are those of the two generated headers. The maps are keyed as
the source keys them: by thread id, by process id, and the task storage by the
task itself.
-/

namespace StraceGo.BpfRuntime

open StraceGo.FiniteMaps StraceGo.EventEnvelope

/-- Architectures with generated syscall numbers. -/
inductive Arch where
  | amd64
  | arm64
  deriving DecidableEq, Repr

section SyscallNumbers

/-- Number of `execve`. -/
def sysExecve : Arch → UInt32
  | .amd64 => 59
  | .arm64 => 221

/-- Number of `execveat`. -/
def sysExecveat : Arch → UInt32
  | .amd64 => 322
  | .arm64 => 281

/-- Number of `exit`. -/
def sysExit : Arch → UInt32
  | .amd64 => 60
  | .arm64 => 93

/-- Number of `exit_group`. -/
def sysExitGroup : Arch → UInt32
  | .amd64 => 231
  | .arm64 => 94

/-- Number of `rt_sigreturn`. -/
def sysRtSigreturn : Arch → UInt32
  | .amd64 => 15
  | .arm64 => 139

/-- Number of `clone`. -/
def sysClone : Arch → UInt32
  | .amd64 => 56
  | .arm64 => 220

/-- Number of `clone3`. -/
def sysClone3 : Arch → UInt32
  | .amd64 => 435
  | .arm64 => 435

/-- Number of `fork`, a placeholder where the architecture has none. -/
def sysFork : Arch → UInt32
  | .amd64 => 57
  | .arm64 => 4294901775

/-- Number of `vfork`, a placeholder where the architecture has none. -/
def sysVfork : Arch → UInt32
  | .amd64 => 58
  | .arm64 => 4294901816

/-- Syscalls that keep flowing for descriptor tracking. -/
def fdStateSyscalls : Arch → List UInt32
  | .amd64 => [2,257,437,428,85,3,436,32,33,292,213,283,284,290,291,253,294,282,289,72,22,293,
      53,41,80,81,269,439,268,258,262,5,0,1,434]
  | .arm64 => [4294901791,56,437,428,4294901767,57,436,23,4294901769,24,4294901770,85,
      4294901774,19,20,4294901782,26,4294901803,74,25,4294901793,59,199,198,49,50,48,439,53,34,
      79,80,63,64,434]

/-- Whether a syscall replaces the process image. -/
def isExecPayloadDirectSyscall (arch : Arch) (sysID : UInt32) : Bool :=
  sysID == sysExecve arch || sysID == sysExecveat arch

/-- Whether a syscall ends its task. -/
def isTerminatingDirectSyscall (arch : Arch) (sysID : UInt32) : Bool :=
  sysID == sysExit arch || sysID == sysExitGroup arch

/-- Whether a syscall creates a task. -/
def isProcessCreationDirectSyscall (arch : Arch) (sysID : UInt32) : Bool :=
  sysID == sysClone arch || sysID == sysClone3 arch || sysID == sysFork arch ||
    sysID == sysVfork arch

/-- Whether a syscall changes descriptor state. -/
def isFdStateDirectSyscall (arch : Arch) (sysID : UInt32) : Bool :=
  (fdStateSyscalls arch).contains sysID

/-- A program that replaces its image is not a return from a signal handler. -/
theorem ne_sysRtSigreturn_of_exec {arch : Arch} {sysID : UInt32}
    (h : isExecPayloadDirectSyscall arch sysID=true) : sysID≠sysRtSigreturn arch := by
  unfold isExecPayloadDirectSyscall at h
  rw [Bool.or_eq_true,beq_iff_eq,beq_iff_eq] at h
  rcases h with h | h
  · rw [h]
    cases arch <;> decide
  · rw [h]
    cases arch <;> decide

end SyscallNumbers

section ConfigBits

/-- Capture a user stack with each syscall. -/
def configCaptureStack : UInt32 := 1

/-- Track the children of tracked tasks. -/
def configFollowForks : UInt32 := 2

/-- Emit enter records. -/
def configEmitEnter : UInt32 := 4

/-- Consult the syscall filter map. -/
def configSyscallFilter : UInt32 := 8

/-- Invert the syscall filter map. -/
def configSyscallFilterNegated : UInt32 := 16

/-- Emit lifecycle records. -/
def configEmitLifecycle : UInt32 := 32

/-- Keep descriptor syscalls flowing. -/
def configFdState : UInt32 := 64

/-- Drop the enter record of listed syscalls. -/
def configElidePlainEnter : UInt32 := 128

/-- Emit signal records. -/
def configEmitSignal : UInt32 := 256

/-- Record the exit reason of virtual machines. -/
def configKvmExit : UInt32 := 2048

/-- Drop syscalls that the filter map does not list. -/
def configSyscallFilterStrictUnknown : UInt32 := 4096

/-- Filter flag of a tracked task. -/
def filterTaskTracked : UInt32 := 1

/-- Filter flag of an armed child that has not executed its program yet. -/
def filterTaskPreExec : UInt32 := 2

/-- Whether a word has one of the bits of a mask. -/
def hasBit (word mask : UInt32) : Bool := word&&&mask != 0

/-- The tracked flag is the lowest bit. -/
theorem hasBit_tracked (word : UInt32) :
    hasBit word filterTaskTracked=word.toBitVec.getLsbD 0 := by
  unfold hasBit filterTaskTracked
  rw [Bool.eq_iff_iff,bne_iff_ne,Ne,←UInt32.toBitVec_inj]
  simp [BitVec.and_one_eq_setWidth_ofBool_getLsbD]
  cases word.toBitVec[0]
  · decide
  · decide

/-- Adding flags keeps the tracked flag. -/
theorem hasBit_tracked_or (word : UInt32) :
    hasBit (filterTaskTracked|||word) filterTaskTracked=true := by
  rw [hasBit_tracked]
  simp [filterTaskTracked]

/-- Dropping the armed flag keeps the tracked flag. -/
theorem hasBit_tracked_dropPreExec (word : UInt32) :
    hasBit (word&&&~~~filterTaskPreExec) filterTaskTracked=hasBit word filterTaskTracked := by
  rw [hasBit_tracked,hasBit_tracked]
  simp [filterTaskPreExec]

end ConfigBits

/-- Identity of a kernel task, kept while its thread id changes. -/
abbrev TaskID : Type := ℕ

/-- Enter metadata kept until the matching exit. -/
structure PendingSyscall where
  /-- Clock reading of the enter program. -/
  enterTime : UInt64
  /-- Task runtime at the enter. -/
  cpuEnterTime : UInt64
  /-- Raw arguments. -/
  args : SyscallArgs
  /-- Process of the enter. -/
  pid : UInt32
  /-- Syscall number. -/
  sysID : UInt32
  /-- Thread of the enter. -/
  tid : UInt32
  /-- User stack, negative when none was captured. -/
  stackID : Int32
  deriving DecidableEq, Repr

/-- Value of the task storage. -/
structure PendingTaskState where
  /-- Saved enter. -/
  syscall : PendingSyscall
  /-- Auxiliary word of the syscall's family. -/
  aux0 : UInt32
  /-- Whether the saved enter is pending. -/
  valid : Bool
  deriving DecidableEq, Repr

/-- One reported exit without an enter. -/
structure OrphanExit where
  /-- Process of the exit. -/
  pid : UInt32
  /-- Thread of the exit. -/
  tid : UInt32
  /-- Syscall number. -/
  sysID : UInt32
  /-- Raw return value. -/
  ret : Int64
  /-- Reason code. -/
  reason : UInt64
  /-- Clock reading of the report. -/
  timeNS : UInt64
  deriving DecidableEq, Repr

/-- Counters of one cpu. -/
structure BpfStats where
  /-- Records the ring buffer had no room for. -/
  ringbufReserveFail : UInt64 := 0
  /-- Records that could not be written. -/
  ringbufCopyFail : UInt64 := 0
  /-- Enters that could not be saved. -/
  pendingUpdateFail : UInt64 := 0
  /-- Exits without an enter. -/
  orphanExit : UInt64 := 0
  /-- First exit without an enter. -/
  orphanFirst : Option OrphanExit := none
  /-- Latest exit without an enter. -/
  orphanLast : Option OrphanExit := none
  /-- Exits whose enter belongs to another syscall. -/
  pendingMismatch : UInt64 := 0
  /-- Failed updates of lifecycle maps. -/
  lifecycleMapUpdateFail : UInt64 := 0
  /-- Forks seen. -/
  lifecycleForkSeen : UInt64 := 0
  /-- Forks of tracked parents. -/
  lifecycleForkParentTracked : UInt64 := 0
  /-- Forks of untracked parents. -/
  lifecycleForkParentUntracked : UInt64 := 0
  /-- Children added to the filter. -/
  lifecycleForkChildFilterInstalled : UInt64 := 0
  /-- Children that could not be added to the filter. -/
  lifecycleForkChildFilterFailed : UInt64 := 0
  /-- Execs seen. -/
  lifecycleExecSeen : UInt64 := 0
  /-- Execs of untracked tasks. -/
  lifecycleExecUntracked : UInt64 := 0
  /-- Exits seen. -/
  lifecycleExitSeen : UInt64 := 0
  /-- Exits of untracked tasks. -/
  lifecycleExitUntracked : UInt64 := 0
  /-- Last sequence number given out. -/
  eventSeq : UInt64 := 0
  /-- First loss on this cpu, zero when none. -/
  integrityFirstTimeNS : UInt64 := 0
  deriving DecidableEq, Repr

/-- Counters, loss marker and ring buffer, written by every program. -/
structure Telemetry where
  /-- Counters of each cpu. -/
  stats : UInt32 → BpfStats := fun _ => {}
  /-- Number of losses. -/
  lossEpoch : UInt64 := 0
  /-- First loss, zero when none. -/
  lossTimeNS : UInt64 := 0
  /-- Submitted records, oldest first. -/
  events : List TraceEventEnvelope := []

/-- The maps that decide which tasks are traced and what each of them has pending. -/
structure TrackingState where
  /-- Configuration word. -/
  config : UInt32 := 0
  /-- Listed syscalls. -/
  syscallFilterMap : GoMap UInt32 UInt32 := ∅
  /-- Process whose next children are traced, zero when none. -/
  armForkMap : UInt32 := 0
  /-- Filter flags of traced tasks and processes. -/
  filterMap : GoMap UInt32 UInt32 := ∅
  /-- Thread inside an exec, for each process. -/
  pendingExecMap : GoMap UInt32 UInt32 := ∅
  /-- Pending enter of each task. -/
  pendingTaskStorage : GoMap TaskID PendingTaskState := ∅

/-- State shared by the programs. -/
structure RuntimeState extends TrackingState where
  /-- Syscalls whose enter record is dropped. -/
  plainEnterElideMap : GoMap UInt32 UInt32 := ∅
  /-- Attached tasks. -/
  attachRootsMap : GoMap UInt32 UInt32 := ∅
  /-- Attached tasks that have exited. -/
  attachExitedMap : GoMap UInt32 UInt32 := ∅
  /-- Processes whose first thread has called exit. -/
  mainExitedMap : GoMap UInt32 UInt32 := ∅
  /-- Clone flags of threads inside a clone. -/
  pendingForkFlagsMap : GoMap UInt32 UInt64 := ∅
  /-- Untraced children reparented to a tracer's process. -/
  unknownChildrenMap : GoMap UInt32 UInt32 := ∅
  /-- User stacks of pending enters. -/
  pendingStackMap : GoMap UInt32 Int32 := ∅
  /-- Counters and records. -/
  telemetry : Telemetry := {}

/-- Places where a program updates a map, which may be full. -/
inductive UpdateSite where
  | installPreExecFilter
  | installTrackedFilter
  | clearPreExecFilter
  | adoptExecTaskTracking
  | armPendingExecReplacement
  | enterExec
  | enterTerminating
  | capturePendingForkFlags
  | markUnknownChild
  | clearArmedForkParent
  | disarmFork
  | markAttachTaskExited
  | pendingStack
  deriving DecidableEq, Repr

/-- Places where a program reads the clock. -/
inductive ClockSite where
  | handler (stage : ℕ)
  | fragment (stage : ℕ)
  | duration (stage : ℕ)
  | lifecycle (action : UInt32)
  | unsupportedABI
  | orphan
  | loss
  deriving DecidableEq, Repr

/-- Outcome of a record submission. -/
inductive Submission where
  | submitted
  | reserveFailed
  | copyFailed
  deriving DecidableEq, Repr

/-- One run of a program: the current task and the kernel's answers. -/
structure Invocation where
  /-- Current task. -/
  task : TaskID
  /-- Process id of the current task. -/
  pid : UInt32
  /-- Thread id of the current task. -/
  tid : UInt32
  /-- Current cpu. -/
  cpu : UInt32 := 0
  /-- Task name, empty unless configured. -/
  comm : String := ""
  /-- Clock readings. -/
  ktime : ClockSite → UInt64 := fun _ => 0
  /-- Accumulated runtime of the current task. -/
  cpuRuntime : UInt64 := 0
  /-- Captured user stack. -/
  stackID : Int32 := -1
  /-- Whether the thread flags name the native syscall interface. -/
  nativeABI : Bool := true
  /-- Whether the task storage can be allocated. -/
  storageAvailable : Bool := true
  /-- Outcome of each map update. -/
  updateSucceeds : UpdateSite → Bool := fun _ => true
  /-- Outcome of each record submission. -/
  submission : TraceEventEnvelope → Submission := fun _ => .submitted

/-- A run in which every helper call succeeds and the clock stands still. -/
def Invocation.ofTask (task : TaskID) (pid tid : UInt32) : Invocation where
  task := task
  pid := pid
  tid := tid

section Counters

/-- Update the counters of the current cpu. -/
def bump (inv : Invocation) (f : BpfStats → BpfStats) (t : Telemetry) : Telemetry :=
  { t with stats := Function.update t.stats inv.cpu (f (t.stats inv.cpu)) }

/-- Advance the global loss marker. -/
def recordEventIntegrityLoss (inv : Invocation) (t : Telemetry) : Telemetry :=
  let now := inv.ktime .loss
  let mark := fun time : UInt64 => if time=0 then now else time
  let t := bump inv (fun s => { s with integrityFirstTimeNS := mark s.integrityFirstTimeNS }) t
  { t with lossTimeNS := mark t.lossTimeNS, lossEpoch := t.lossEpoch+1 }

/-- Count a record the ring buffer had no room for. -/
def recordRingbufReserveFail (inv : Invocation) (t : Telemetry) : Telemetry :=
  bump inv (fun s => { s with ringbufReserveFail := s.ringbufReserveFail+1 })
    (recordEventIntegrityLoss inv t)

/-- Count a record that could not be written. -/
def recordRingbufCopyFail (inv : Invocation) (t : Telemetry) : Telemetry :=
  bump inv (fun s => { s with ringbufCopyFail := s.ringbufCopyFail+1 })
    (recordEventIntegrityLoss inv t)

/-- Count an enter that could not be saved. -/
def recordPendingUpdateFail (inv : Invocation) (t : Telemetry) : Telemetry :=
  bump inv (fun s => { s with pendingUpdateFail := s.pendingUpdateFail+1 })
    (recordEventIntegrityLoss inv t)

/-- Count a failed update of a lifecycle map. -/
def recordLifecycleMapUpdateFail (inv : Invocation) (t : Telemetry) : Telemetry :=
  bump inv (fun s => { s with lifecycleMapUpdateFail := s.lifecycleMapUpdateFail+1 })
    (recordEventIntegrityLoss inv t)

/-- Count an exit whose enter belongs to another syscall. -/
def recordPendingMismatch (inv : Invocation) (t : Telemetry) : Telemetry :=
  bump inv (fun s => { s with pendingMismatch := s.pendingMismatch+1 })
    (recordEventIntegrityLoss inv t)

/-- Reason code of an exit without an enter. -/
def orphanReasonNoPending : UInt64 := 1

/-- Count and describe an exit without an enter. -/
def recordOrphanExit (inv : Invocation) (sysID : UInt32) (ret : Int64) (reason : UInt64)
    (t : Telemetry) : Telemetry :=
  let orphan : OrphanExit := ⟨inv.pid,inv.tid,sysID,ret,reason,inv.ktime .orphan⟩
  let unset := fun s : BpfStats => (s.orphanFirst.map OrphanExit.timeNS).getD 0==0
  bump inv (fun s => { s with
    orphanExit := s.orphanExit+1,
    orphanFirst := if unset s then some orphan else s.orphanFirst,
    orphanLast := some orphan }) t

end Counters

section Submissions

/-- Give out the next sequence number of the cpu and submit one record. -/
def submit (inv : Invocation) (record : TraceEventEnvelope) (t : Telemetry) : Telemetry :=
  let sequence := (t.stats inv.cpu).eventSeq+1
  let t := bump inv (fun s => { s with eventSeq := sequence }) t
  match inv.submission record with
  | .submitted =>
    { t with events := t.events++[{ record with
      seq := sequence,
      cpu := inv.cpu,
      comm := inv.comm,
      lossEpoch := t.lossEpoch,
      lossTimeNS := t.lossTimeNS }] }
  | .reserveFailed => recordRingbufReserveFail inv t
  | .copyFailed => recordRingbufCopyFail inv t

/-- Submit records in order. -/
def submitAll (inv : Invocation) (records : List TraceEventEnvelope) (t : Telemetry) : Telemetry :=
  records.foldl (fun t record => submit inv record t) t

end Submissions

/-- Apply a change of counters and records. -/
def RuntimeState.tell (st : RuntimeState) (f : Telemetry → Telemetry) : RuntimeState :=
  { st with telemetry := f st.telemetry }

/-- Counters and records do not decide tracking. -/
@[simp]
theorem RuntimeState.tell_toTrackingState (st : RuntimeState) (f : Telemetry → Telemetry) :
    (st.tell f).toTrackingState=st.toTrackingState := rfl

/-- The change of counters and records is the one given. -/
@[simp]
theorem RuntimeState.tell_telemetry (st : RuntimeState) (f : Telemetry → Telemetry) :
    (st.tell f).telemetry=f st.telemetry := rfl

/-- Whether the syscall filter selects a syscall. -/
def shouldTraceSyscall (st : TrackingState) (sysID : UInt32) : Bool :=
  if !hasBit st.config configSyscallFilter then true
  else
    match st.syscallFilterMap.lookup sysID with
    | none => !hasBit st.config configSyscallFilterStrictUnknown
    | some selected =>
      if hasBit st.config configSyscallFilterNegated then selected==0 else selected != 0

/-- Whether a syscall keeps flowing for descriptor tracking. -/
def isFdStateTracked (arch : Arch) (st : TrackingState) (sysID : UInt32) : Bool :=
  hasBit st.config configFdState && isFdStateDirectSyscall arch sysID

/-- Whether either syscall edge reports a syscall. -/
def isSelected (arch : Arch) (st : TrackingState) (sysID : UInt32) : Bool :=
  shouldTraceSyscall st sysID || isFdStateTracked arch st sysID

/-- Filter flags of an id, present when they mark it as tracked. -/
def trackedFlags (st : TrackingState) (id : UInt32) : Option UInt32 :=
  (st.filterMap.lookup id).filter (fun flags => hasBit flags filterTaskTracked)

/-- Tracked filter flags of a task, by process first and by thread otherwise. -/
def lookupLifecycleTaskFilterFlags (st : TrackingState) (pid tid : UInt32) : Option UInt32 :=
  match trackedFlags st pid with
  | some flags => some flags
  | none => if tid≠pid then trackedFlags st tid else none

/-- Whether a task is traced. -/
def isLifecycleTaskTracked (st : TrackingState) (pid tid : UInt32) : Bool :=
  (lookupLifecycleTaskFilterFlags st pid tid).isSome

end StraceGo.BpfRuntime

import StraceGo.BpfEnterPrograms
import StraceGo.BpfLifecycle

/-!
# Syscall dispatch and interleavings of the programs

The two raw syscall dispatchers, the remaining programs that look at the
pending enter of the current task, and runs: every run of the system is a list
of program runs, each in the context of some task.

Routes come from a table that user space loads. The table carries what the
exec handoff needs of it: both exec syscalls go to the exec program (or fall
back to the generic one), and their exit programs accept them.
-/

namespace StraceGo.BpfDispatch

open StraceGo.FiniteMaps StraceGo.EventEnvelope StraceGo.BpfRuntime StraceGo.BpfPendingState
open StraceGo.BpfEnterPrograms StraceGo.BpfLifecycle

/-- Route table of the two dispatchers. -/
structure Routes (arch : Arch) where
  /-- Enter program of each syscall, absent where the slot is empty. -/
  enter : UInt32 → Option EnterProgram
  /-- Exit program of each syscall, absent where the slot is empty. -/
  exit : UInt32 → Option ExitProgram
  /-- Exec syscalls are routed to the exec program. -/
  enter_exec : ∀ sysID, isExecPayloadDirectSyscall arch sysID=true →
    ∀ program, enter sysID=some program → program=.exec
  /-- Exit programs of exec syscalls accept them. -/
  exit_exec : ∀ sysID, isExecPayloadDirectSyscall arch sysID=true →
    ∀ program, exit sysID=some program →
      program.guard sysID=true ∧ program.handles sysID=true

/-- Table with the exec routes alone; every other syscall falls back to the generic programs. -/
def Routes.execOnly (arch : Arch) : Routes arch where
  enter := fun sysID => if isExecPayloadDirectSyscall arch sysID then some .exec else none
  exit := fun _ => none
  enter_exec := by
    intro sysID hexec program hroute
    rw [if_pos hexec] at hroute
    exact (Option.some.inj hroute).symm
  exit_exec := by
    intro sysID _ program hroute
    cases hroute

section Dispatchers

variable (arch : Arch) (routes : Routes arch) (inv : Invocation)

/-- Syscalls of an armed child that are not reported before its first exec. -/
def isPreExecSuppressedSyscall (flags sysID : UInt32) : Bool :=
  hasBit flags filterTaskPreExec && !isExecPayloadDirectSyscall arch sysID

/-- Enter dispatcher. -/
def traceSysEnter (ctx : EnterContext) (st : RuntimeState) : RuntimeState :=
  match lookupLifecycleTaskFilterFlags st.toTrackingState inv.pid inv.tid with
  | none => st
  | some flags =>
    match rejectUnsupportedSyscallABI inv ctx.sysID st with
    | (st,true) => st
    | (st,false) =>
      if ctx.sysID=sysRtSigreturn arch then st
      else
        let st := armPendingExecReplacement arch inv ctx.sysID st
        if isPreExecSuppressedSyscall arch flags ctx.sysID then st
        else
          let st := capturePendingForkFlags arch inv ctx.sysID ctx.args ctx.cloneArgs st
          if !isSelected arch st.toTrackingState ctx.sysID then st
          else
            match routes.enter ctx.sysID with
            | some program => runEnterProgram arch program inv ctx st
            | none => runEnterProgram arch .noPayloadGeneric inv { ctx with aux0 := none } st

/-- Exit dispatcher. -/
def traceSysExit (ctx : ExitContext) (st : RuntimeState) : RuntimeState :=
  if ctx.id < 0 then st
  else
    match lookupLifecycleTaskFilterFlags st.toTrackingState inv.pid inv.tid with
    | none => st
    | some flags =>
      match rejectUnsupportedSyscallABI inv ctx.sysID st with
      | (st,true) => st
      | (st,false) =>
        if ctx.sysID=sysRtSigreturn arch then st
        else if isPreExecSuppressedSyscall arch flags ctx.sysID then st
        else
          let st := clearPendingForkFlags arch inv ctx.sysID st
          if !isSelected arch st.toTrackingState ctx.sysID then st
          else
            match routes.exit ctx.sysID with
            | some program => runExitProgram arch program inv ctx st
            | none => runExitProgram arch exitGeneric inv ctx st

/-- Return probe of `recvmsg`: name and control fragments, then the completion. -/
def traceKretprobeRecvmsg (ctx : ExitContext) (st : RuntimeState) : RuntimeState :=
  match currentPendingSyscall inv st.toTrackingState with
  | none => st
  | some p =>
    if p.sysID≠sysRecvmsg arch then st
    else
      let fragments := ((ctx.fragments.take 2).zipIdx).map (fun fragment =>
        completedRecord inv fragment.2 p ctx.ret bpfEventFlagExitFragment fragment.1)
      consumePendingSyscall arch inv ⟨p,inv.tid,false⟩ (st.tell (submitAll inv
        (fragments++[completedRecord inv 2 p ctx.ret 0 ctx.capture])))

/-- Number of `ioctl`. -/
def sysIoctl : Arch → UInt32
  | .amd64 => 16
  | .arm64 => 29

/-- Request that runs a virtual machine. -/
def kvmRunIoctl : UInt64 := 0xae80

/-- Mark of a recorded exit reason. -/
def kvmExitAuxValid : UInt32 := 0x80000000

/-- Exit reason of a virtual machine, kept with the pending `ioctl`. -/
def traceKvmUserspaceExit (reason : UInt32) (error : Int32) (st : RuntimeState) : RuntimeState :=
  match (currentPendingTaskState inv st.toTrackingState).filter PendingTaskState.valid with
  | none => st
  | some state =>
    if !hasBit st.config configKvmExit || state.syscall.sysID != sysIoctl arch ||
        state.syscall.args.get 1 != kvmRunIoctl then st
    else
      let aux0 := if error < 0 then 0 else kvmExitAuxValid|||(reason&&&~~~kvmExitAuxValid)
      let state := { state with aux0 := aux0 }
      { st with pendingTaskStorage := st.pendingTaskStorage.insert inv.task state }

/-- Translated child number of a fork in another namespace, kept with the pending fork. -/
def traceNamespaceFork (translated : Option UInt32) (st : RuntimeState) : RuntimeState :=
  match (currentPendingTaskState inv st.toTrackingState).filter PendingTaskState.valid with
  | none => st
  | some state =>
    match translated with
    | none => st
    | some child =>
      if state.syscall.sysID != sysFork arch && state.syscall.sysID != sysVfork arch then st
      else
        let state := { state with aux0 := child }
        { st with pendingTaskStorage := st.pendingTaskStorage.insert inv.task state }

/-- Signal record of a traced task. -/
def traceSignal (pid tid : UInt32) (record : TraceEventEnvelope) (st : RuntimeState) :
    RuntimeState :=
  if isLifecycleTaskTracked st.toTrackingState pid tid && hasBit st.config configEmitSignal then
    st.tell (submit inv record)
  else st

end Dispatchers

/-- A program with its tracepoint arguments. -/
inductive Program where
  | sysEnter (ctx : EnterContext)
  | sysExit (ctx : ExitContext)
  | kretprobeRecvmsg (ctx : ExitContext)
  | kvmUserspaceExit (reason : UInt32) (error : Int32)
  | namespaceFork (translated : Option UInt32)
  | signal (pid tid : UInt32) (record : TraceEventEnvelope)
  | schedProcessFork (childPid : UInt32)
  | schedProcessExec (oldPid : UInt32) (filename : String)
  | schedProcessExit (exitCode : UInt64)
  | schedProcessFree (tid : UInt32)

/-- One program run in the context of a task. -/
structure Step where
  /-- Current task and kernel answers. -/
  inv : Invocation
  /-- The program. -/
  program : Program

section Runs

variable (arch : Arch) (routes : Routes arch)

/-- Run one program. -/
def Step.apply (step : Step) (st : RuntimeState) : RuntimeState :=
  match step.program with
  | .sysEnter ctx => traceSysEnter arch routes step.inv ctx st
  | .sysExit ctx => traceSysExit arch routes step.inv ctx st
  | .kretprobeRecvmsg ctx => traceKretprobeRecvmsg arch step.inv ctx st
  | .kvmUserspaceExit reason error => traceKvmUserspaceExit arch step.inv reason error st
  | .namespaceFork translated => traceNamespaceFork arch step.inv translated st
  | .signal pid tid record => traceSignal step.inv pid tid record st
  | .schedProcessFork childPid => traceSchedProcessFork step.inv childPid st
  | .schedProcessExec oldPid filename => traceSchedProcessExec arch step.inv oldPid filename st
  | .schedProcessExit exitCode => traceSchedProcessExit step.inv exitCode st
  | .schedProcessFree tid => traceSchedProcessFree step.inv tid st

/-- State after a sequence of program runs. -/
def run (steps : List Step) (st : RuntimeState) : RuntimeState :=
  steps.foldl (fun st step => step.apply arch routes st) st

end Runs

end StraceGo.BpfDispatch

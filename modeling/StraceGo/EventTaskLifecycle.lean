import StraceGo.EventEnvelope

/-!
# Task identity and lifecycle facts

Task records, unresolved forks and completion facts, with the targets of an
attach session. A fork record names its child before the child's process is
known; the relation waits until the child shows its own thread group. Syscall
names come from the generated syscall table, which is a parameter.
-/

namespace StraceGo.EventTaskLifecycle

open EventEnvelope FiniteMaps

/-- What the session looks up in the generated syscall tables. -/
structure SyscallTables where
  /-- Name of a syscall number. -/
  name : UInt32 → String
  /-- Whether a syscall has only the plain enter and exit routes. -/
  isPlainGenericEnterExitRoute : UInt32 → Bool
  /-- Whether a syscall's exit route stands without its enter. -/
  isStandaloneExitElisionRoute : UInt32 → Bool

/-- Syscall numbers that end a task. -/
structure SyscallLifecycleIDs where
  /-- Number of `exit`. -/
  exit : UInt32 := 0
  /-- Number of `exit_group`. -/
  exitGroup : UInt32 := 0
  /-- Whether the table has `exit`. -/
  hasExit : Bool := false
  /-- Whether the table has `exit_group`. -/
  hasExitGroup : Bool := false

namespace SyscallLifecycleIDs

/-- Whether the table has a terminating syscall. -/
def configured (ids : SyscallLifecycleIDs) : Bool := ids.hasExit || ids.hasExitGroup

/-- Whether a syscall number ends its task. -/
def isTerminating (ids : SyscallLifecycleIDs) (sysID : UInt32) : Bool :=
  (ids.hasExit && sysID==ids.exit) || (ids.hasExitGroup && sysID==ids.exitGroup)

end SyscallLifecycleIDs

/-- Whether a syscall name ends its task. -/
def isTerminatingSyscall (tables : SyscallTables) (view : SyscallEventView) : Bool :=
  tables.name view.sysID=="exit" || tables.name view.sysID=="exit_group"

/-- Latest lifecycle action of a task. -/
inductive TaskAction where
  | none
  | fork
  | exec
  | exit
  | free
  | unknown
  deriving DecidableEq, Repr

/-- What is known about a task. -/
structure TaskState where
  /-- Thread. -/
  tid : UInt32
  /-- Thread group, zero while unknown. -/
  tgid : UInt32 := 0
  /-- Forking thread, zero while unknown. -/
  parentTID : UInt32 := 0
  /-- Whether the task has not exited. -/
  alive : Bool := false
  /-- Whether the task has completed an exec. -/
  execed : Bool := false
  /-- Whether an exec moved the task to another thread number. -/
  execReplaced : Bool := false
  /-- Executable path. -/
  executable : String := ""
  /-- Latest lifecycle action. -/
  lastAction : TaskAction := .none
  /-- Time of the latest record. -/
  lastSeenNS : UInt64 := 0
  deriving DecidableEq

/-- A fork whose child has not shown its process. -/
structure PendingForkState where
  /-- Process of the forking thread. -/
  parentTGID : UInt32
  deriving DecidableEq

/-- A child process inherits its parent's process state. -/
structure ProcessStateInheritance where
  /-- Forking process. -/
  parentTGID : UInt32
  /-- New process. -/
  childTGID : UInt32
  deriving DecidableEq

/-- Owner of task identity and completion facts. -/
structure TraceTaskLifecycleState where
  /-- Whether forks are related to their children. -/
  trackForkIdentity : Bool := false
  /-- Inferred inheritance is blocked after a loss. -/
  historyTainted : Bool := false
  /-- Known tasks. -/
  tasks : GoMap UInt32 TaskState := ∅
  /-- Unresolved forks by child. -/
  pendingForks : GoMap UInt32 PendingForkState := ∅
  /-- Threads whose terminating syscall has returned. -/
  lifecyclePending : Finset UInt32 := ∅
  /-- Process started by the session, zero without one. -/
  commandTargetPID : UInt32 := 0
  /-- Threads and processes of the target seen to exit. -/
  lifecycleExited : Finset UInt32 := ∅

/-- Task a syscall record belongs to; a completed exec belongs to the leader. -/
def taskTIDForSyscall (tables : SyscallTables) (view : SyscallEventView) : UInt32 :=
  if view.isExit=false ∨ view.ret≠0 ∨ view.pid=0 ∨ view.pid=view.tid then view.tid
  else if tables.name view.sysID="execve" ∨ tables.name view.sysID="execveat" then view.pid
  else view.tid

namespace TraceTaskLifecycleState

variable (st : TraceTaskLifecycleState)

/-- A terminating syscall of a thread has returned. -/
def markLifecyclePending (tid : UInt32) : TraceTaskLifecycleState :=
  if tid=0 then st else {st with lifecyclePending := insert tid st.lifecyclePending}

/-- The lifecycle record of a thread has arrived. -/
def clearLifecyclePending (tid : UInt32) : TraceTaskLifecycleState :=
  {st with lifecyclePending := st.lifecyclePending.erase tid}

/-- Remember that the command target has exited. -/
def rememberLifecycleExit (pid tid : UInt32) : TraceTaskLifecycleState :=
  if st.commandTargetPID=0 ∨ st.commandTargetPID≠pid ∧ st.commandTargetPID≠tid then st
  else
    let exited := if pid≠0 then insert pid st.lifecycleExited else st.lifecycleExited
    {st with lifecycleExited := if tid≠0 then insert tid exited else exited}

/-- Whether nothing of a target is left: no task alive, no termination waiting, no fork of the
target unresolved. -/
def quiescent (pid : UInt32) : Bool :=
  if pid=0 then false
  else if st.tasks.any (fun _ task => task.alive) then false
  else if st.lifecyclePending≠∅ then false
  else if st.pendingForks.any (fun _ fork => decide (fork.parentTGID=pid)) then false
  else if st.trackForkIdentity ∧ st.historyTainted then false
  else true

/-- Task record of a thread with a known thread group filled in. -/
def ensuredTask (tid tgid : UInt32) : TaskState :=
  let task := (st.tasks.lookup tid).getD {tid := tid}
  if tgid≠0 then {task with tgid := tgid} else task

/-- Write a task record. -/
def setTask (tid : UInt32) (task : TaskState) : TraceTaskLifecycleState :=
  {st with tasks := st.tasks.insert tid task}

/-- A syscall record shows its task alive. -/
def noteSyscallTask (tables : SyscallTables) (view : SyscallEventView) : TraceTaskLifecycleState :=
  if view.tid=0 then st
  else
    let tid := taskTIDForSyscall tables view
    st.setTask tid {st.ensuredTask tid view.pid with alive := true, lastSeenNS := view.enterTime}

/-- Resolve the fork of a thread once its thread group is known. -/
def resolveForkIdentity (tid tgid : UInt32) :
    TraceTaskLifecycleState×Option ProcessStateInheritance :=
  if tid=0 then (st,none)
  else
    match st.pendingForks.lookup tid with
    | none => (st,none)
    | some relation =>
      if tgid=0 then (st,none)
      else
        let st := {st with pendingForks := st.pendingForks.erase tid}
        if tgid≠tid then (st,none) else (st,some ⟨relation.parentTGID,tgid⟩)

/-- Thread that forked. -/
def forkParentTID (view : LifecycleEventView) : UInt32 :=
  if view.tid=0 then view.args[0].toUInt32 else view.tid

/-- Process that forked. -/
def forkParentTGID (view : LifecycleEventView) : UInt32 :=
  if view.pid=0 then view.args[0].toUInt32 else view.pid

/-- Record of the forking thread. -/
def forkParent (view : LifecycleEventView) : TaskState :=
  {st.ensuredTask (forkParentTID view) (forkParentTGID view) with
    alive := true, lastAction := .fork, lastSeenNS := view.enterTime}

/-- Record of the forked thread; nothing is inferred after a loss. -/
def forkChild (view : LifecycleEventView) (parent : TaskState) : TaskState :=
  let child := if st.trackForkIdentity then st.ensuredTask view.args[1].toUInt32 0
    else {tid := view.args[1].toUInt32}
  let child := if st.historyTainted then child
    else {child with parentTID := forkParentTID view, executable := parent.executable}
  {child with alive := true, lastAction := .fork, lastSeenNS := view.enterTime}

/-- A fork record relates its child to the forking process. -/
def applyFork (view : LifecycleEventView) :
    TraceTaskLifecycleState×TaskState×Option ProcessStateInheritance :=
  let childTID := view.args[1].toUInt32
  let parent := st.forkParent view
  let st := st.setTask (forkParentTID view) parent
  let child := st.forkChild view parent
  let st := if st.trackForkIdentity then st.setTask childTID child else st
  let st := if st.trackForkIdentity ∧ st.historyTainted=false then
      {st with pendingForks := st.pendingForks.insert childTID ⟨forkParentTGID view⟩}
    else st
  let (st,processInherit) := st.resolveForkIdentity childTID child.tgid
  (st,child,processInherit)

/-- Task record that survives an exec; the calling thread takes over the leader's number. -/
def ensureExecTaskState (oldTID tid tgid : UInt32) : TraceTaskLifecycleState×TaskState :=
  if oldTID=0 ∨ oldTID=tid then (st,st.ensuredTask tid tgid)
  else
    let task := st.tasks.lookup tid
    let oldTask := st.tasks.lookup oldTID
    let st := {st with tasks := st.tasks.erase oldTID}
    match task,oldTask with
    | some task,_ => (st,if tgid≠0 then {task with tgid := tgid} else task)
    | none,none => (st,st.ensuredTask tid tgid)
    | none,some oldTask =>
      let oldTask := {oldTask with tid := tid}
      (st,if tgid≠0 then {oldTask with tgid := tgid} else oldTask)

/-- An exec record renews the task of the surviving thread. -/
def applyExec (view : LifecycleEventView) :
    TraceTaskLifecycleState×TaskState×Option ProcessStateInheritance :=
  let tid := if view.args[1].toUInt32=0 then view.tid else view.args[1].toUInt32
  let oldTID := view.args[0].toUInt32
  let identityTID := if oldTID≠0 then oldTID else tid
  let (st,processInherit) := st.resolveForkIdentity identityTID view.pid
  let (st,task) := st.ensureExecTaskState oldTID tid view.pid
  let task := {task with
    execed := true, execReplaced := decide (oldTID≠0 ∧ oldTID≠tid)
    executable := view.snapshotText, alive := true
    lastAction := .exec, lastSeenNS := view.enterTime}
  (st.setTask tid task,task,processInherit)

/-- An exit or free record ends its task. -/
def applyTaskExit (view : LifecycleEventView) :
    TraceTaskLifecycleState×TaskState×Option ProcessStateInheritance :=
  let (st,processInherit) := st.resolveForkIdentity view.tid view.pid
  let task := {st.ensuredTask view.tid view.pid with
    alive := false
    lastAction := if view.action=lifecycleExit then .exit else .free
    lastSeenNS := view.enterTime}
  (st.setTask view.tid task,task,processInherit)

/-- A lifecycle record with an action code unknown to the session. -/
def applyUnknown (view : LifecycleEventView) :
    TraceTaskLifecycleState×TaskState×Option ProcessStateInheritance :=
  let (st,processInherit) := st.resolveForkIdentity view.tid view.pid
  let task := {st.ensuredTask view.tid view.pid with
    lastAction := .unknown, lastSeenNS := view.enterTime}
  (st.setTask view.tid task,task,processInherit)

/-- Apply a lifecycle record. -/
def applyLifecycleEvent (view : LifecycleEventView) :
    TraceTaskLifecycleState×Option TaskState×Option ProcessStateInheritance :=
  if view.action=lifecycleUnknownDetach ∨ view.action=lifecycleUnknownExit then (st,none,none)
  else
    let (st,task,processInherit) :=
      if view.action=lifecycleFork then st.applyFork view
      else if view.action=lifecycleExec then st.applyExec view
      else if view.action=lifecycleExit ∨ view.action=lifecycleFree then st.applyTaskExit view
      else st.applyUnknown view
    (st,some task,processInherit)

/-- Forget the unresolved fork of a thread. -/
def clearTask (tid : UInt32) : TraceTaskLifecycleState :=
  {st with pendingForks := st.pendingForks.erase tid}

/-- Forget a task. -/
def retireTask (tid : UInt32) : TraceTaskLifecycleState :=
  if tid=0 then st else {st with tasks := st.tasks.erase tid}

/-- Facts inferred before a loss are dropped from a task record. -/
def taintedTask (task : TaskState) : TaskState :=
  {task with parentTID := 0, executable := "", execed := false, execReplaced := false}

/-- Drop the inferred facts of the visited tasks. -/
def taintTasks (order : List UInt32) : TraceTaskLifecycleState :=
  order.foldl (fun st tid =>
    match st.tasks.lookup tid with
    | none => st
    | some task => st.setTask tid (taintedTask task)) st

end TraceTaskLifecycleState

/-- Targets of an attach session that have not exited. -/
structure TraceAttachState where
  /-- Remaining targets. -/
  targets : Finset UInt32 := ∅

namespace TraceAttachState

variable (st : TraceAttachState)

/-- An exit removes the thread and, for a leader, the process. -/
def markTargetExited (pid tid : UInt32) : TraceAttachState :=
  let targets := if tid≠0 then st.targets.erase tid else st.targets
  {targets := if pid≠0 ∧ pid=tid then targets.erase pid else targets}

/-- A terminating syscall removes its thread, or its whole process. -/
def markTargetTerminated (tables : SyscallTables) (view : SyscallEventView) : TraceAttachState :=
  let st := st.markTargetExited view.pid view.tid
  if view.pid≠0 ∧ tables.name view.sysID="exit_group" then {targets := st.targets.erase view.pid}
  else st

end TraceAttachState

end StraceGo.EventTaskLifecycle

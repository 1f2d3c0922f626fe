import StraceGo.EventUnfinishedState

/-!
# Session state and record dispatch

The session state joins the correlation, unfinished, lifecycle and attach
owners. Every decoded record goes through one dispatch that updates the owners
and returns an update for the router. After a loss the history is tainted:
what was pending is dropped and later records are matched by their identity.
-/

namespace StraceGo.EventState

open EventEnvelope FiniteMaps ObjectPool EventPayloadStorage EventSyscallCorrelation
  EventTaskLifecycle EventUnfinishedState

/-- A stored exit released by a later record. -/
structure TraceDeferredExit where
  /-- The exit record. -/
  syscallView : SyscallEventView
  /-- Transferred payload. -/
  payloadStorage : Option Ref
  /-- Slice over the transferred payload. -/
  payloadSections : Option PayloadSlice
  /-- Snapshot of the enter that released it. -/
  pendingEnter : Option Ref

/-- Owner of the session's event state. -/
structure TraceState where
  /-- A loss has been observed. -/
  tainted : Bool := false
  /-- Exits without an enter wait for it. -/
  deferUnmatchedExits : Bool := false
  /-- The producer elides plain enters. -/
  elidePlainEnter : Bool := false
  /-- Only enters of non-blocking syscalls are elided. -/
  elideNonBlockingPlainEnter : Bool := false
  /-- Terminating syscall numbers. -/
  lifecycleIDs : SyscallLifecycleIDs := {}
  /-- Enter and exit correlation. -/
  correlation : TraceSyscallCorrelationState := {}
  /-- Unfinished line candidates. -/
  unfinished : TraceUnfinishedState := {}
  /-- Task identity. -/
  lifecycle : TraceTaskLifecycleState := {}
  /-- Attach targets. -/
  attach : TraceAttachState := {}

/-- Kind of an update. -/
inductive TraceStateEventKind where
  | syscallExit
  | syscallEnter
  | lifecycle
  | signal
  | syscallFragment
  deriving DecidableEq, Repr

/-- What the router receives for one record. -/
structure TraceStateUpdate where
  /-- Kind of the record. -/
  kind : TraceStateEventKind := .syscallExit
  /-- Whether the exit was stored to wait for its enter. -/
  deferred : Bool := false
  /-- Projection of a syscall record. -/
  syscallView : Option SyscallEventView := none
  /-- Projection of a lifecycle record. -/
  lifecycleView : Option LifecycleEventView := none
  /-- Projection of a signal record. -/
  signalView : Option SignalEventView := none
  /-- Borrowed payload of the record. -/
  payloadSections : List PayloadSection := []
  /-- Snapshot of the matching enter. -/
  pendingEnter : Option Ref := none
  /-- Task after a lifecycle record. -/
  lifecycleTask : Option TaskState := none
  /-- Process state the record's process inherits. -/
  processInherit : Option ProcessStateInheritance := none
  /-- Unfinished lines to print first. -/
  unfinished : List UnfinishedSyscallView := []
  /-- Stored exit the record released. -/
  deferredExit : Option TraceDeferredExit := none

namespace TraceState

variable (tables : SyscallTables) (st : TraceState)

/-- Whether a record's syscall ends its task. -/
def isTerminatingSyscall (view : SyscallEventView) : Bool :=
  if st.lifecycleIDs.configured then st.lifecycleIDs.isTerminating view.sysID
  else EventTaskLifecycle.isTerminatingSyscall tables view

/-- Whether nothing of a target is left. -/
def targetLifecycleQuiescent (pid : UInt32) : Bool := st.lifecycle.quiescent pid

/-- Remember an enter record and offer its thread for an unfinished line. -/
def rememberEnterEvent (view : SyscallEventView) (payload : List PayloadSection) : TraceState :=
  let (correlation,opened) := st.correlation.rememberEnterEvent view payload
  {st with
    correlation := correlation
    unfinished := if opened then
        (st.unfinished.deleteCandidate view.tid).enqueue tables view.tid view.sysID
      else st.unfinished}

/-- Remember a partial record; after a loss only with the identity of the open enter. -/
def rememberPayloadFragment (view : SyscallEventView) (payload : List PayloadSection) :
    TraceState :=
  if st.tainted ∧ (st.correlation.pendingSyscalls.lookup view.tid).all (fun pending =>
      decide (pending.enterTime≠view.enterTime ∨ pending.args≠view.args)) then st
  else {st with correlation := st.correlation.rememberPayloadFragment view payload}

/-- Whether an open enter is not the one of a record, after a loss. -/
def isStaleEnter (view : SyscallEventView) : Bool :=
  st.tainted && (st.correlation.pendingSyscalls.lookup view.tid).any fun pending =>
    decide (pending.enterTime≠view.enterTime ∨ pending.args≠view.args)

/-- Consume the open enter of an exit record. -/
def consumeEnterEvent (view : SyscallEventView) : TraceState×Option Ref :=
  let correlation := if st.isStaleEnter view then st.correlation.clearTask view.tid
    else st.correlation
  let (correlation,snapshot) := correlation.consumeEnterEvent view
  ({st with
    correlation := correlation
    unfinished := st.unfinished.deleteCandidate view.tid},snapshot)

/-- Drop what is pending for a thread in every owner. -/
def clearTaskPending (tid : UInt32) : TraceState :=
  {st with
    unfinished := st.unfinished.deleteCandidate tid
    correlation := st.correlation.clearTask tid
    lifecycle := st.lifecycle.clearTask tid}

/-- Forget a task in every owner. -/
def retireTask (tid : UInt32) : TraceState :=
  if tid=0 then st
  else
    let st := st.clearTaskPending tid
    {st with lifecycle := st.lifecycle.retireTask tid}

/-- A syscall record shows its task alive. -/
def noteSyscallTask (view : SyscallEventView) : TraceState :=
  {st with lifecycle := st.lifecycle.noteSyscallTask tables view}

/-- A terminating syscall has returned. -/
def terminate (view : SyscallEventView) : TraceState :=
  clearTaskPending {st with
    attach := st.attach.markTargetTerminated tables view
    lifecycle := st.lifecycle.markLifecyclePending view.tid} view.tid

/-- Thread that survives an exec. -/
def execTID (view : LifecycleEventView) : UInt32 :=
  if view.args[1].toUInt32=0 then view.tid else view.args[1].toUInt32

/-- Whether an exec moves its caller to another thread number. -/
def movesThread (view : LifecycleEventView) : Prop :=
  view.action=lifecycleExec ∧ view.args[0].toUInt32≠0 ∧ view.args[0].toUInt32≠execTID view

instance (view : LifecycleEventView) : Decidable (movesThread view) :=
  inferInstanceAs (Decidable (_ ∧ _ ∧ _))

/-- Apply a lifecycle record; an exec that moves a thread drops the replaced leader's data. -/
def applyLifecycleEvent (view : LifecycleEventView) :
    TraceState×Option TaskState×Option ProcessStateInheritance :=
  let st := if movesThread view then st.clearTaskPending (execTID view) else st
  let (lifecycle,task,processInherit) := st.lifecycle.applyLifecycleEvent view
  ({st with lifecycle := lifecycle},task,processInherit)

/-- After a loss an exec record drops the data of every thread it names. -/
def clearExecTasks (view : LifecycleEventView) : TraceState :=
  if st.tainted ∧ view.action=lifecycleExec then
    ((st.clearTaskPending view.tid).clearTaskPending view.args[0].toUInt32).clearTaskPending
      view.args[1].toUInt32
  else st

/-- An exit or free record completes its task and releases its stored exit. -/
def completeTask (view : LifecycleEventView) : TraceState×Option TraceDeferredExit :=
  let st := {st with
    lifecycle :=
      (st.lifecycle.rememberLifecycleExit view.pid view.tid).clearLifecyclePending view.tid
    attach := st.attach.markTargetExited view.pid view.tid}
  let (correlation,taken) := st.correlation.takePendingExitForTID view.tid
  let st := {st with correlation := correlation}
  (st.retireTask view.tid,taken.map fun pending =>
    {syscallView := pending.view
     payloadStorage := pending.payloadStorage
     payloadSections := pending.payloadSections
     pendingEnter := none})

/-- Handle a lifecycle record. -/
def handleLifecycleEnvelope (envelope : TraceEventEnvelope)
    (unfinished : List UnfinishedSyscallView) : TraceState×TraceStateUpdate :=
  let view := envelope.lifecycleView
  let st := st.clearExecTasks view
  let (st,task,processInherit) := st.applyLifecycleEvent view
  let update : TraceStateUpdate := {
    kind := .lifecycle
    lifecycleView := some view
    lifecycleTask := task
    processInherit := if st.tainted then none else processInherit
    unfinished := unfinished}
  if view.action≠lifecycleExit ∧ view.action≠lifecycleFree then (st,update)
  else
    let (st,deferredExit) := st.completeTask view
    (st,{update with deferredExit := deferredExit})

/-- Join a stored exit with the enter that just arrived. -/
def attachDeferredExit (pendingExit : PendingExitState) : TraceState×Option TraceDeferredExit :=
  match st.consumeEnterEvent pendingExit.view with
  | (st,none) => ({st with correlation := st.correlation.releasePendingExit pendingExit},none)
  | (st,some pendingEnter) =>
    (if st.isTerminatingSyscall tables pendingExit.view then st.terminate tables pendingExit.view
      else st,
     some {
      syscallView := pendingExit.view
      payloadStorage := pendingExit.payloadStorage
      payloadSections := pendingExit.payloadSections
      pendingEnter := some pendingEnter})

/-- Handle a generic enter record. -/
def handleSyscallEnter (update : TraceStateUpdate) (view : SyscallEventView)
    (payload : List PayloadSection) : TraceState×TraceStateUpdate :=
  let update := {update with kind := .syscallEnter, payloadSections := payload}
  let st := if st.tainted then {st with correlation := st.correlation.clearTask view.tid} else st
  let st := st.rememberEnterEvent tables view payload
  match st.correlation.takePendingExit view with
  | (correlation,none) => ({st with correlation := correlation},update)
  | (correlation,some pendingExit) =>
    let (st,deferredExit) := attachDeferredExit tables {st with correlation := correlation}
      pendingExit
    (st,{update with deferredExit := deferredExit})

/-- Handle a partial record. -/
def handleSyscallFragment (update : TraceStateUpdate) (view : SyscallEventView)
    (payload : List PayloadSection) : TraceState×TraceStateUpdate :=
  (st.rememberPayloadFragment view payload,
    {update with kind := .syscallFragment, payloadSections := payload})

/-- Whether an exit's enter was elided by the producer. -/
def shouldSynthesizeElidedPlainEnter (sysID : UInt32) : Bool :=
  st.elidePlainEnter && shouldElidePlainEnterForSyscall tables sysID st.elideNonBlockingPlainEnter

/-- Enter of an exit record: the open one, or one made up for an elided enter. -/
def matchEnter (view : SyscallEventView) : TraceState×Option Ref :=
  match st.consumeEnterEvent view with
  | (st,some pendingEnter) => (st,some pendingEnter)
  | (st,none) =>
    if st.shouldSynthesizeElidedPlainEnter tables view.sysID then
      let (correlation,pendingEnter) := st.correlation.synthesizeGenericEnter view
      ({st with correlation := correlation},some pendingEnter)
    else (st.noteSyscallTask tables view,none)

/-- Handle any other syscall record. -/
def handleSyscallExit (update : TraceStateUpdate) (view : SyscallEventView)
    (payload : List PayloadSection) : TraceState×TraceStateUpdate :=
  let update := {update with kind := .syscallExit, payloadSections := payload}
  let (st,pendingEnter) := st.matchEnter tables view
  if pendingEnter=none ∧ st.deferUnmatchedExits ∧ st.tainted=false then
    ({st with correlation := st.correlation.rememberPendingExit view payload},
      {update with deferred := true})
  else
    (if st.isTerminatingSyscall tables view then st.terminate tables view else st,
      {update with pendingEnter := pendingEnter})

/-- Handle a syscall record. -/
def handleSyscallEnvelope (envelope : TraceEventEnvelope)
    (unfinished : List UnfinishedSyscallView) : TraceState×TraceStateUpdate :=
  let view := envelope.syscallView
  let (lifecycle,processInherit) := st.lifecycle.resolveForkIdentity view.tid view.pid
  let st := {st with lifecycle := lifecycle}
  let update : TraceStateUpdate := {
    syscallView := some view
    processInherit := processInherit
    unfinished := unfinished}
  if view.isGenericEnter then
    (st.noteSyscallTask tables view).handleSyscallEnter tables update view envelope.payload
  else if view.isEnterFragment then
    (st.noteSyscallTask tables view).handleSyscallFragment update view envelope.payload
  else if view.isExitFragment then
    (st.noteSyscallTask tables view).handleSyscallFragment update view envelope.payload
  else st.handleSyscallExit tables update view envelope.payload

/-- Dispatch one record. -/
def handleEnvelope (envelope : TraceEventEnvelope) : TraceState×TraceStateUpdate :=
  let (candidates,unfinished) := st.unfinished.pendingForOtherTID tables envelope.tid st.correlation
  let st := {st with unfinished := candidates}
  if envelope.isSignal then
    (st,{kind := .signal, signalView := some envelope.signalView, unfinished := unfinished})
  else if envelope.isLifecycle then st.handleLifecycleEnvelope envelope unfinished
  else st.handleSyscallEnvelope tables envelope unfinished

/-- Recycle what an update carried. -/
def releaseTraceStateUpdate (update : TraceStateUpdate) : TraceState :=
  let correlation := st.correlation.releasePendingSnapshot update.pendingEnter
  match update.deferredExit with
  | none => {st with correlation := correlation}
  | some deferredExit =>
    let correlation := correlation.releasePendingSnapshot deferredExit.pendingEnter
    {st with correlation :=
      {correlation with
        payload := releasePayloadStorage correlation.payload deferredExit.payloadStorage}}

/-- Keep the rendered arguments of an exec; not after a loss. -/
def rememberPendingExecArgs (tid : ℤ) (argLine : String) : TraceState :=
  if st.tainted then st
  else {st with correlation := st.correlation.rememberPendingExecArgs tid argLine}

/-- Forget the rendered arguments of an exec. -/
def deletePendingExecArgs (tid : ℤ) : TraceState :=
  {st with correlation := st.correlation.deletePendingExecArgs tid}

/-- Hand out the rendered arguments of an exec once. -/
def takePendingExecArgs (tid : ℤ) : TraceState×Option String :=
  (st.deletePendingExecArgs tid,st.correlation.pendingExecArgs.lookup tid)

/-- Keep the name of a suspended syscall; not after a loss. -/
def rememberSuspendedSyscall (tid : ℤ) (name : String) : TraceState :=
  if st.tainted then st
  else {st with correlation := st.correlation.rememberSuspendedSyscall tid name}

/-- Forget a suspended syscall. -/
def deleteSuspendedSyscall (tid : ℤ) : TraceState :=
  {st with correlation := st.correlation.deleteSuspendedSyscall tid}

/-- Whether a thread had a suspended syscall, which is forgotten. -/
def consumeSuspendedSyscall (tid : ℤ) : TraceState×Bool :=
  (st.deleteSuspendedSyscall tid,(st.correlation.suspendedSyscalls.lookup tid).isSome)

/-- The unfinished line of a thread is out. -/
def markUnfinishedPrinted (tid : UInt32) : TraceState :=
  {st with
    correlation := st.correlation.markUnfinishedPrinted tid
    unfinished := st.unfinished.deleteCandidate tid}

/-- Switch text mode, rebuilding the index in some order of the open enters. -/
def setUnfinishedEnabled (enabled : Bool) (order : List UInt32) : TraceState :=
  {st with unfinished := TraceUnfinishedState.setEnabled tables enabled st.correlation order}

/-- Offer a thread's unfinished line again. -/
def requeueUnfinished (tid : UInt32) : TraceState :=
  {st with unfinished := st.unfinished.requeue tables tid st.correlation}

/-- Orders in which a loss visits the three maps. -/
structure TaintOrder where
  /-- Visit of the open enters. -/
  pending : List UInt32
  /-- Visit of the stored exits that are left. -/
  exits : List UInt32
  /-- Visit of the tasks. -/
  tasks : List UInt32

/-- Clear the visited threads. -/
def clearTasks (c : TraceSyscallCorrelationState) (order : List UInt32) :
    TraceSyscallCorrelationState :=
  order.foldl (·.clearTask ·) c

/-- Drop everything inferred before a loss. -/
def taintHistory (order : TaintOrder) : TraceState :=
  let correlation := clearTasks (clearTasks st.correlation order.pending) order.exits
  let correlation := {correlation with pendingExecArgs := ∅, suspendedSyscalls := ∅}
  let lifecycle := {st.lifecycle with pendingForks := ∅, historyTainted := true}
  {st with
    tainted := true
    correlation := correlation
    unfinished := TraceUnfinishedState.setEnabled tables false correlation []
    lifecycle := lifecycle.taintTasks order.tasks}

end TraceState

end StraceGo.EventState

import StraceGo.EventSyscallCorrelation
import StraceGo.EventTaskLifecycle
import Mathlib.Data.List.Sort

/-!
# Candidates for unfinished lines

Text output interrupts a pending syscall with an unfinished line when another
thread's record arrives. The candidates are two sets of threads: the unqueued
ones, offered with the next foreign record, and those in flight. The sets are
duplicate-free lists; the offered views are sorted by time and thread, so the
order inside the lists never shows.
-/

namespace StraceGo.EventUnfinishedState

open EventEnvelope ObjectPool EventPayloadStorage EventSyscallCorrelation EventTaskLifecycle

/-- Syscalls that never block long enough to be interrupted. -/
def isStableNonBlockingSyscall (name : String) : Bool :=
  name∈["getpid","gettid","getppid","getuid","geteuid","getgid","getegid","getresuid",
    "getresgid","getpgrp","getpgid","getsid","getcpu","gettimeofday","time","clock_gettime",
    "clock_gettime64","clock_getres","clock_getres_time64","arch_prctl","get_robust_list",
    "set_tid_address","set_robust_list","rseq"]

/-- Whether a syscall can have an unfinished line. -/
def shouldTrackUnfinishedSyscall (tables : SyscallTables) (sysID : UInt32) : Bool :=
  !isStableNonBlockingSyscall (tables.name sysID)

/-- Whether the producer elides a syscall's plain enter. -/
def shouldElidePlainEnterForSyscall (tables : SyscallTables) (sysID : UInt32)
    (nonBlockingOnly : Bool) : Bool :=
  if nonBlockingOnly then
    !shouldTrackUnfinishedSyscall tables sysID &&
      (tables.isPlainGenericEnterExitRoute sysID || tables.isStandaloneExitElisionRoute sysID)
  else tables.isPlainGenericEnterExitRoute sysID

/-- A pending enter offered for an unfinished line. -/
structure UnfinishedSyscallView where
  /-- Thread group. -/
  pid : UInt32
  /-- Thread. -/
  tid : UInt32
  /-- Syscall number. -/
  sysID : UInt32
  /-- Time of the enter. -/
  enterTime : UInt64
  /-- Raw arguments. -/
  args : SyscallArgs
  /-- Enter probe marker. -/
  probeRetEnter : Int32
  /-- Borrowed slice over the pending payload. -/
  payloadSections : Option PayloadSlice
  deriving DecidableEq

/-- The view of a pending enter. -/
def unfinishedView (pending : PendingSyscallState) : UnfinishedSyscallView where
  pid := pending.pid
  tid := pending.tid
  sysID := pending.sysID
  enterTime := pending.enterTime
  args := pending.args
  probeRetEnter := pending.probeRetEnter
  payloadSections := pending.payloadSections

/-- Output order of the offered views. -/
def viewBefore (left right : UnfinishedSyscallView) : Prop :=
  left.enterTime < right.enterTime ∨ left.enterTime=right.enterTime ∧ left.tid ≤ right.tid

instance (left right : UnfinishedSyscallView) : Decidable (viewBefore left right) :=
  inferInstanceAs (Decidable (left.enterTime < right.enterTime ∨
    left.enterTime=right.enterTime ∧ left.tid ≤ right.tid))

/-- Owner of the candidate index. -/
structure TraceUnfinishedState where
  /-- Text mode. -/
  enabled : Bool := false
  /-- Threads to offer with the next foreign record. -/
  unqueued : List UInt32 := []
  /-- Threads offered and not answered. -/
  inFlight : List UInt32 := []

/-- Whether a pending enter can still have an unfinished line. -/
def isCandidate (tables : SyscallTables) (pending : PendingSyscallState) : Bool :=
  !(pending.unfinishedPrinted || decide (2 ≤ pending.probeRetEnter) ||
    !shouldTrackUnfinishedSyscall tables pending.sysID)

namespace TraceUnfinishedState

variable (st : TraceUnfinishedState)

/-- Drop a thread from the index. -/
def deleteCandidate (tid : UInt32) : TraceUnfinishedState :=
  if st.enabled=false then st
  else {st with unqueued := st.unqueued.erase tid, inFlight := st.inFlight.erase tid}

/-- Add a thread with a new pending enter. -/
def enqueue (tables : SyscallTables) (tid sysID : UInt32) : TraceUnfinishedState :=
  if st.enabled=false ∨ tid=0 ∨ shouldTrackUnfinishedSyscall tables sysID=false then st
  else {st with unqueued := st.unqueued.insert tid}

/-- Rebuild the index from the pending enters, visited in some order. -/
def setEnabled (tables : SyscallTables) (enabled : Bool) (c : TraceSyscallCorrelationState)
    (order : List UInt32) : TraceUnfinishedState :=
  if enabled=false then {enabled := false}
  else
    {enabled := true
     unqueued := order.filter fun tid => (c.pendingSyscalls.lookup tid).any (isCandidate tables)}

/-- Offer one unqueued thread, or drop it when it is no candidate any more. -/
def offer (tables : SyscallTables) (c : TraceSyscallCorrelationState)
    (acc : TraceUnfinishedState×List UnfinishedSyscallView) (tid : UInt32) :
    TraceUnfinishedState×List UnfinishedSyscallView :=
  match (c.pendingSyscalls.lookup tid).filter (isCandidate tables) with
  | none => (acc.1.deleteCandidate tid,acc.2)
  | some pending =>
    ({acc.1 with
      unqueued := acc.1.unqueued.erase tid
      inFlight := acc.1.inFlight.insert tid},acc.2 ++ [unfinishedView pending])

/-- Offer the unqueued threads other than the arriving record's. -/
def pendingForOtherTID (tables : SyscallTables) (tid : UInt32) (c : TraceSyscallCorrelationState) :
    TraceUnfinishedState×List UnfinishedSyscallView :=
  if st.enabled=false ∨ tid=0 then (st,[])
  else
    let (st,candidates) := (st.unqueued.filter (· ≠ tid)).foldl (offer tables c) (st,[])
    (st,candidates.insertionSort viewBefore)

/-- Offer a thread again after its line could not be printed. -/
def requeue (tables : SyscallTables) (tid : UInt32) (c : TraceSyscallCorrelationState) :
    TraceUnfinishedState :=
  let st := {st with inFlight := st.inFlight.erase tid}
  match (c.pendingSyscalls.lookup tid).filter (isCandidate tables) with
  | none => {st with unqueued := st.unqueued.erase tid}
  | some _ => {st with unqueued := st.unqueued.insert tid}

/-- Without text mode nothing is offered. -/
theorem pendingForOtherTID_disabled (tables : SyscallTables) (tid : UInt32)
    (c : TraceSyscallCorrelationState) (h : st.enabled=false) :
    st.pendingForOtherTID tables tid c=(st,[]) := by
  unfold pendingForOtherTID
  rw [if_pos (.inl h)]

/-- Dropping a thread leaves the mode. -/
theorem deleteCandidate_enabled (tid : UInt32) : (st.deleteCandidate tid).enabled=st.enabled := by
  unfold deleteCandidate
  split_ifs <;> rfl

theorem enqueue_enabled (tables : SyscallTables) (tid sysID : UInt32) :
    (st.enqueue tables tid sysID).enabled=st.enabled := by
  unfold enqueue
  split_ifs <;> rfl

theorem requeue_enabled (tables : SyscallTables) (tid : UInt32)
    (c : TraceSyscallCorrelationState) : (st.requeue tables tid c).enabled=st.enabled := by
  unfold requeue
  dsimp only
  split <;> rfl

end TraceUnfinishedState

end StraceGo.EventUnfinishedState

import StraceGo.EventEnvelope

/-!
# Event-stream integrity accounting

The reader-side observer of producer sequence numbers. Each cpu keeps its
high-water sequence and the closed intervals that a forward jump skipped.
Intervals of one jump share a gap group. Groups live in an arena because
the source shares them by pointer; an interval names its group by position.
Taints invalidate the history owners through recorded calls, and per-task
trust is invalidated lazily by comparing epochs.

Loops over the cpu map take their visiting order as an argument, because the
source language leaves that order open.
-/

namespace StraceGo.EventIntegrity

open FiniteMaps EventEnvelope

/-- Largest forward distance, exclusive, still read as a jump. -/
def traceSequenceForwardLimit : UInt64 := 0x8000000000000000

/-- Position of a gap group in the arena. -/
abbrev GroupRef : Type := ℕ

/-- One forward jump and what is still missing from it. -/
structure TraceSequenceGapGroup where
  /-- Skipped numbers not yet observed. -/
  remaining : UInt64
  /-- Record at which the jump was seen. -/
  detectedRecord : UInt64
  /-- Previous record of the same cpu. -/
  previousRecord : UInt64
  /-- Sequence expected at the jump. -/
  expected : UInt64
  /-- Sequence observed at the jump. -/
  observed : UInt64
  /-- Carrier time of the jump. -/
  timestampNS : UInt64
  /-- Process of the detecting record. -/
  pid : UInt32
  /-- Thread of the detecting record. -/
  tid : UInt32
  /-- Cpu of the jump. -/
  cpu : UInt32
  /-- Whether the detecting record also reported new producer loss. -/
  confirmed : Bool
  deriving DecidableEq, Repr

/-- Closed interval of missing sequence numbers. -/
structure TraceSequenceGap where
  /-- First missing number. -/
  first : UInt64
  /-- Last missing number. -/
  last : UInt64
  /-- Jump that skipped the interval. -/
  group : Option GroupRef
  deriving DecidableEq, Repr

/-- Sequence state of one cpu. -/
structure TraceCPUSequence where
  /-- High-water sequence. -/
  sequence : UInt64 := 0
  /-- Record that set the high-water sequence. -/
  record : UInt64 := 0
  /-- Intervals still missing below the high-water sequence. -/
  gaps : List TraceSequenceGap := []
  deriving DecidableEq, Repr

/-- What one record says about its cpu's sequence. -/
structure TraceSequenceObservation where
  /-- Sequence expected before the record. -/
  expected : UInt64
  /-- Previous record of the cpu. -/
  previousRecord : UInt64
  /-- Group opened by a forward jump. -/
  gap : Option GroupRef := none
  /-- The record is neither new nor missing. -/
  invalid : Bool := false
  deriving DecidableEq, Repr

/-- Causes of a taint. -/
inductive TaintReason where
  | sequenceDiscontinuity
  | producerLoss
  | invalidRecord
  | finalStatsUnavailable
  | producerLossAtFinalization
  | sequenceGapAtFinalization
  | sequenceTailAtFinalization
  deriving DecidableEq, Repr

/-- Reported text of a taint cause. -/
def TaintReason.text : TaintReason → String
  | .sequenceDiscontinuity => "sequence_discontinuity"
  | .producerLoss => "producer_loss"
  | .invalidRecord => "invalid_record"
  | .finalStatsUnavailable => "final_stats_unavailable"
  | .producerLossAtFinalization => "producer_loss_at_finalization"
  | .sequenceGapAtFinalization => "sequence_gap_at_finalization"
  | .sequenceTailAtFinalization => "sequence_tail_at_finalization"

/-- Reported observation boundary. -/
structure TraceIntegritySnapshot where
  /-- Incremented by every taint. -/
  epoch : UInt64 := 0
  /-- Gap groups with numbers still missing. -/
  streamGaps : UInt64 := 0
  /-- Total of numbers still missing. -/
  estimatedLost : UInt64 := 0
  /-- Records behind the high-water sequence. -/
  sequenceReorders : UInt64 := 0
  /-- Number of taints. -/
  taintTransitions : UInt64 := 0
  /-- Tasks whose correlation was recovered. -/
  recoveredDomains : UInt64 := 0
  /-- Known tasks while tainted. -/
  taintedTasks : UInt64 := 0
  /-- Known tasks without recovered correlation. -/
  correlationTaintedTasks : UInt64 := 0
  /-- Attempts counted by the producer beyond the high-water sequences. -/
  unobservedTail : UInt64 := 0
  /-- Processes of the known tasks. -/
  taintedProcesses : UInt64 := 0
  /-- Tainted domains. -/
  domains : List IntegrityDomain := []
  /-- Records without sequence data. -/
  legacyRecords : UInt64 := 0
  /-- Process of the latest located discontinuity. -/
  pid : UInt32 := 0
  /-- Thread of the latest located discontinuity. -/
  tid : UInt32 := 0
  /-- Time of the latest located discontinuity. -/
  timestampNS : UInt64 := 0
  /-- Size of the jump of the latest record. -/
  lostCount : UInt64 := 0
  /-- Whether the session history is tainted. -/
  tainted : Bool := false
  /-- Scope of the report. -/
  scope : String := "session"
  /-- Cause of the latest taint. -/
  reason : Option TaintReason := none
  /-- Record of the latest taint. -/
  detectedAtRecord : UInt64 := 0
  /-- Previous record on the located cpu. -/
  previousCPURecord : UInt64 := 0
  /-- Located cpu. -/
  cpu : UInt32 := 0
  /-- Expected sequence at the located record. -/
  expectedSequence : UInt64 := 0
  /-- Observed sequence at the located record. -/
  observedSequence : UInt64 := 0
  /-- Largest loss epoch reported by the producer. -/
  lossEpoch : UInt64 := 0
  /-- Earliest reported loss time. -/
  firstLossTimeNS : UInt64 := 0
  /-- Records that were not the expected next one. -/
  discontinuities : UInt64 := 0
  deriving DecidableEq, Repr

/-- Trust in one task's enter/exit pairing, valid for one epoch. -/
structure TraceTaskIntegrity where
  /-- Process of the latest record. -/
  pid : UInt32 := 0
  /-- Epoch in which the entry was written. -/
  epoch : UInt64 := 0
  /-- The pairing is trusted. -/
  clean : Bool := false
  /-- A generic enter is waiting for its exit. -/
  candidate : Bool := false
  /-- Syscall of the waiting enter. -/
  sysID : UInt32 := 0
  /-- Start time of the waiting enter. -/
  enterTime : UInt64 := 0
  /-- Arguments of the waiting enter. -/
  args : SyscallArgs := Vector.replicate 6 0
  deriving DecidableEq, Repr

/-- Calls made on the observer's collaborators. -/
inductive IntegrityEffect where
  | taintState
  | taintFDState
  | notify (snapshot : TraceIntegritySnapshot)
  deriving DecidableEq, Repr

/-- The synchronous reader's observer. -/
structure TraceIntegrity where
  /-- Known tasks. -/
  tasks : GoMap UInt32 TraceTaskIntegrity := ∅
  /-- Observed cpus. -/
  cpus : GoMap UInt32 TraceCPUSequence := ∅
  /-- Arena of gap groups, in order of detection. -/
  groups : List TraceSequenceGapGroup := []
  /-- Records seen. -/
  records : UInt64 := 0
  /-- Reported counters. -/
  snapshot : TraceIntegritySnapshot := {}
  /-- Whether a trace state is attached. -/
  hasState : Bool := false
  /-- Whether a descriptor store is attached. -/
  hasFDState : Bool := false
  /-- Whether a notifier is attached. -/
  hasNotify : Bool := false
  /-- Calls made so far on the attached collaborators. -/
  effects : List IntegrityEffect := []

/-- Fresh observer with the given collaborators. -/
def newTraceIntegrity (state fdState notify : Bool) : TraceIntegrity :=
  {hasState := state, hasFDState := fdState, hasNotify := notify}

/-- Whether a number lies in the interval. -/
def TraceSequenceGap.contains (gap : TraceSequenceGap) (sequence : UInt64) : Bool :=
  !(decide (sequence < gap.first) || decide (gap.last < sequence))

/-- Remove one number from the interval at the given position. Interior
removal appends the upper part at the end of the list. -/
def removeSequenceFromGap (gaps : List TraceSequenceGap) (index : ℕ) (gap : TraceSequenceGap)
    (sequence : UInt64) : List TraceSequenceGap :=
  if gap.first=gap.last then gaps.eraseIdx index
  else if sequence=gap.first then gaps.set index {gap with first := gap.first+1}
  else if sequence=gap.last then gaps.set index {gap with last := gap.last-1}
  else gaps.set index {gap with last := sequence-1} ++
    [{first := sequence+1, last := gap.last, group := gap.group}]

/-- Intervals skipped by a jump; two when it wraps around the word. -/
def skippedGaps (expected last : UInt64) (ref : GroupRef) : List TraceSequenceGap :=
  if expected ≤ last then [⟨expected,last,some ref⟩]
  else [⟨expected,0xffffffffffffffff,some ref⟩,⟨0,last,some ref⟩]

namespace TraceIntegrity

/-- Allocate the group of a forward jump with the intervals that it skipped. -/
def addSequenceGap (i : TraceIntegrity) (state : TraceCPUSequence) (ev : TraceEventEnvelope)
    (expected delta : UInt64) : TraceIntegrity×TraceCPUSequence×GroupRef :=
  let group : TraceSequenceGapGroup :=
    {remaining := delta, detectedRecord := i.records, previousRecord := state.record,
      expected := expected, observed := ev.seq, timestampNS := ev.integrityTimestamp,
      pid := ev.pid, tid := ev.tid, cpu := ev.cpu, confirmed := false}
  let ref := i.groups.length
  ({i with
      groups := i.groups ++ [group]
      snapshot := {i.snapshot with
        streamGaps := i.snapshot.streamGaps+1
        estimatedLost := i.snapshot.estimatedLost+delta
        lostCount := delta}},
    {state with gaps := state.gaps ++ skippedGaps expected (ev.seq-1) ref},ref)

/-- Charge one observed number to its group, behind the source's guards. -/
def resolveGroup (i : TraceIntegrity) (group : Option GroupRef) : TraceIntegrity :=
  match group.bind (fun ref => (i.groups[ref]?).map (fun g => (ref,g))) with
  | none => i
  | some (ref,g) =>
    if g.remaining=0 then i
    else
      let remaining := g.remaining-1
      let lost := if i.snapshot.estimatedLost≠0 then i.snapshot.estimatedLost-1
        else i.snapshot.estimatedLost
      let gaps := if remaining=0 ∧ i.snapshot.streamGaps≠0 then i.snapshot.streamGaps-1
        else i.snapshot.streamGaps
      {i with
        groups := i.groups.set ref {g with remaining := remaining}
        snapshot := {i.snapshot with estimatedLost := lost, streamGaps := gaps}}

/-- Find the first interval holding a late number and remove it there. -/
def resolveSequenceGap (i : TraceIntegrity) (state : TraceCPUSequence) (sequence : UInt64) :
    Option (TraceIntegrity×TraceCPUSequence) :=
  match state.gaps.findIdx? (·.contains sequence) with
  | none => none
  | some index =>
    (state.gaps[index]?).map fun gap =>
      (i.resolveGroup gap.group,
        {state with gaps := removeSequenceFromGap state.gaps index gap sequence})

/-- Sequence expected next on a cpu. -/
def expectedSequence (i : TraceIntegrity) (cpu : UInt32) : UInt64 :=
  match i.cpus.lookup cpu with
  | none => 1
  | some state => state.sequence+1

/-- Classify one record as expected, a forward jump, late or invalid. -/
def observeSequence (i : TraceIntegrity) (ev : TraceEventEnvelope) :
    TraceIntegrity×TraceSequenceObservation :=
  let state := (i.cpus.lookup ev.cpu).getD {}
  let expected := i.expectedSequence ev.cpu
  let observation : TraceSequenceObservation :=
    {expected := expected, previousRecord := state.record}
  if ev.seq=expected then
    let state := {state with sequence := ev.seq, record := i.records}
    ({i with cpus := i.cpus.insert ev.cpu state},observation)
  else
    let i := {i with snapshot := {i.snapshot with
      discontinuities := i.snapshot.discontinuities+1}}
    let delta := ev.seq-expected
    if delta < traceSequenceForwardLimit then
      let (i,state,ref) := i.addSequenceGap state ev expected delta
      let state := {state with sequence := ev.seq, record := i.records}
      ({i with cpus := i.cpus.insert ev.cpu state},{observation with gap := some ref})
    else
      let i := {i with snapshot := {i.snapshot with
        sequenceReorders := i.snapshot.sequenceReorders+1}}
      match i.resolveSequenceGap state ev.seq with
      | some (i,state) => ({i with cpus := i.cpus.insert ev.cpu state},observation)
      | none => (i,{observation with invalid := true})

/-- Keep the earliest nonzero loss time. -/
def observeLossTime (i : TraceIntegrity) (ns : UInt64) : TraceIntegrity :=
  if ns≠0 ∧ (i.snapshot.firstLossTimeNS=0 ∨ ns < i.snapshot.firstLossTimeNS) then
    {i with snapshot := {i.snapshot with firstLossTimeNS := ns}}
  else i

/-- A task is trusted only by an entry of the current epoch. -/
def correlationTainted (i : TraceIntegrity) (tid : UInt32) : Bool :=
  if i.snapshot.tainted=false then false
  else match i.tasks.lookup tid with
    | none => true
    | some task => task.epoch != i.snapshot.epoch || !task.clean

/-- Reported snapshot. Task and process counts are taken over the known
tasks only after a taint. -/
def report (i : TraceIntegrity) : TraceIntegritySnapshot :=
  if i.snapshot.tainted=false then i.snapshot
  else
    let correlation := (i.tasks.keys.filter (fun tid => i.correlationTainted tid=true)).card
    let processes := (i.tasks.keys.image
      (fun tid => ((i.tasks.lookup tid).getD {}).pid)).erase 0
    let total := i.snapshot.correlationTaintedTasks+UInt64.ofNat correlation
    {i.snapshot with
      taintedTasks := i.snapshot.taintedTasks+UInt64.ofNat i.tasks.keys.card
      correlationTaintedTasks := total
      taintedProcesses := UInt64.ofNat processes.card
      domains := [.fdState,.lifecycle,.outputState] ++
        (if total≠0 then [.syscallCorrelation] else [])}

/-- Raise a taint: a new epoch, and the attached owners drop their history. -/
def taintAt (i : TraceIntegrity) (reason : TaintReason) (detectedRecord : UInt64) :
    TraceIntegrity :=
  let tainted := {i with snapshot := {i.snapshot with
    epoch := i.snapshot.epoch+1
    taintTransitions := i.snapshot.taintTransitions+1
    tainted := true
    reason := some reason
    detectedAtRecord := detectedRecord}}
  {tainted with effects := i.effects ++
    (if i.hasState then [.taintState] else []) ++
    (if i.hasFDState then [.taintFDState] else []) ++
    (if !i.snapshot.tainted && i.hasNotify then [.notify tainted.report] else [])}

/-- Raise a taint at the current record. -/
def taint (i : TraceIntegrity) (reason : TaintReason) : TraceIntegrity :=
  i.taintAt reason i.records

/-- Locate a discontinuity at the current record. -/
def setSequenceLocation (i : TraceIntegrity) (ev : TraceEventEnvelope)
    (observation : TraceSequenceObservation) : TraceIntegrity :=
  {i with snapshot := {i.snapshot with
    cpu := ev.cpu
    expectedSequence := observation.expected
    observedSequence := ev.seq
    previousCPURecord := observation.previousRecord
    pid := ev.pid
    tid := ev.tid
    timestampNS := ev.integrityTimestamp}}

/-- Locate the discontinuity of an unresolved jump. -/
def setSequenceGapLocation (i : TraceIntegrity) (gap : TraceSequenceGapGroup) : TraceIntegrity :=
  {i with snapshot := {i.snapshot with
    cpu := gap.cpu
    expectedSequence := gap.expected
    observedSequence := gap.observed
    previousCPURecord := gap.previousRecord
    pid := gap.pid
    tid := gap.tid
    timestampNS := gap.timestampNS
    detectedAtRecord := gap.detectedRecord
    lostCount := gap.remaining}}

/-- Thread that continues after an exec record. -/
def execTID (ev : TraceEventEnvelope) : UInt32 :=
  if ev.args[1].toUInt32=0 then ev.tid else ev.args[1].toUInt32

/-- Task entries follow the lifecycle: an ended task is forgotten, an exec
survivor and a fork child start over. -/
def observeTaskLifecycle (i : TraceIntegrity) (ev : TraceEventEnvelope) : TraceIntegrity :=
  if ev.lifecycleAction=lifecycleExit ∨ ev.lifecycleAction=lifecycleFree then
    {i with tasks := i.tasks.erase ev.tid}
  else if ev.lifecycleAction=lifecycleExec then
    let task := {pid := ev.pid, epoch := i.snapshot.epoch, clean := !i.snapshot.tainted}
    {i with tasks := (i.tasks.erase ev.args[0].toUInt32).insert (execTID ev) task}
  else if ev.lifecycleAction=lifecycleFork then
    let child := ev.args[1].toUInt32
    if child≠0 then
      let task := {epoch := i.snapshot.epoch, clean := !i.snapshot.tainted}
      {i with tasks := i.tasks.insert child task}
    else i
  else i

/-- Entry of a task in the current epoch; an older one is started over. -/
def currentTask (i : TraceIntegrity) (tid : UInt32) : TraceTaskIntegrity :=
  let task := (i.tasks.lookup tid).getD {}
  if task.epoch≠i.snapshot.epoch then {epoch := i.snapshot.epoch} else task

/-- A generic enter becomes the candidate; the next complete exit of the task
settles it and, on a match, recovers the task's correlation. -/
def observeTask (i : TraceIntegrity) (ev : TraceEventEnvelope) : TraceIntegrity :=
  if ev.tid=0 then i
  else if ev.isLifecycle then i.observeTaskLifecycle ev
  else
    let task := i.currentTask ev.tid
    let task := {task with pid := ev.pid}
    let task := if i.snapshot.tainted then task else {task with clean := true}
    let view := ev.syscallView
    if view.isGenericEnter then
      let task := {task with
        candidate := true, sysID := ev.sysID, enterTime := ev.enterTime, args := ev.args}
      {i with tasks := i.tasks.insert ev.tid task}
    else if view.isExit && !view.isExitFragment then
      let recovered := task.candidate && task.sysID==ev.sysID &&
        task.enterTime==ev.enterTime && task.args==ev.args && !task.clean
      let i := if recovered then
          {i with snapshot := {i.snapshot with
            recoveredDomains := i.snapshot.recoveredDomains+1}}
        else i
      let task := {task with clean := task.clean || recovered, candidate := false}
      {i with tasks := i.tasks.insert ev.tid task}
    else {i with tasks := i.tasks.insert ev.tid task}

/-- A jump whose own record reports new loss is confirmed. -/
def confirmGap (i : TraceIntegrity) (gap : Option GroupRef) : TraceIntegrity :=
  match gap with
  | none => i
  | some ref => {i with groups := i.groups.modify ref (fun g => {g with confirmed := true})}

/-- Integrity stamp written back into the observed record. -/
def stamp (i : TraceIntegrity) (ev : TraceEventEnvelope) : TraceEventEnvelope :=
  {ev with
    recordIndex := i.records
    tainted := i.snapshot.tainted
    integrityEpoch := i.snapshot.epoch
    correlationTainted := i.correlationTainted ev.tid}

/-- Keep the largest reported loss epoch. -/
def observeLossEpoch (i : TraceIntegrity) (epoch : UInt64) : TraceIntegrity :=
  if i.snapshot.lossEpoch < epoch then {i with snapshot := {i.snapshot with lossEpoch := epoch}}
  else i

/-- Locate and raise the taint of a record. Producer loss overrides an invalid
sequence number as the reported cause. -/
def raise (i : TraceIntegrity) (ev : TraceEventEnvelope) (sequence : TraceSequenceObservation)
    (producerLoss : Bool) : TraceIntegrity :=
  if producerLoss then
    ((i.confirmGap sequence.gap).setSequenceLocation ev sequence).taint .producerLoss
  else if sequence.invalid then
    (i.setSequenceLocation ev sequence).taint .sequenceDiscontinuity
  else i

/-- Count a sequenced record. -/
def countRecord (i : TraceIntegrity) : TraceIntegrity :=
  {i with records := i.records+1, snapshot := {i.snapshot with lostCount := 0}}

/-- Sequence and loss accounting of a sequenced record, before its task. -/
def observeStream (i : TraceIntegrity) (ev : TraceEventEnvelope) : TraceIntegrity :=
  let (i,sequence) := i.countRecord.observeSequence ev
  let newLoss := decide (i.snapshot.lossEpoch < ev.lossEpoch)
  let i := (i.observeLossEpoch ev.lossEpoch).observeLossTime ev.lossTimeNS
  let producerLoss := newLoss || (ev.lossTimeNS != 0 && !i.snapshot.tainted)
  i.raise ev sequence producerLoss

/-- Observe one decoded record and stamp it. Records without sequence data
are only counted. -/
def observe (i : TraceIntegrity) (ev : TraceEventEnvelope) : TraceIntegrity×TraceEventEnvelope :=
  if ev.legacyIntegrity then
    let i := {i with
      records := i.records+1
      snapshot := {i.snapshot with legacyRecords := i.snapshot.legacyRecords+1}}
    (i,i.stamp ev)
  else
    let i := (i.observeStream ev).observeTask ev
    (i,i.stamp ev)

/-- A record that could not be decoded taints the session. -/
def invalidRecord (i : TraceIntegrity) : TraceIntegrity :=
  {i with records := i.records+1}.taint .invalidRecord

/-- Group of an interval, if it is allocated. -/
def groupOf (i : TraceIntegrity) (gap : TraceSequenceGap) : Option TraceSequenceGapGroup :=
  gap.group.bind (fun ref => i.groups[ref]?)

/-- All intervals, cpu by cpu in the given visiting order. -/
def gapsIn (i : TraceIntegrity) (order : List UInt32) : List TraceSequenceGap :=
  order.flatMap (fun cpu => ((i.cpus.lookup cpu).getD {}).gaps)

/-- Keep the earlier detected of two groups with numbers still missing. -/
def earlierUnresolved (i : TraceIntegrity) (first : Option TraceSequenceGapGroup)
    (gap : TraceSequenceGap) : Option TraceSequenceGapGroup :=
  match i.groupOf gap with
  | none => first
  | some g =>
    if g.remaining=0 then first
    else match first with
      | none => some g
      | some f => if g.detectedRecord < f.detectedRecord then some g else some f

/-- Earliest detected group with numbers still missing; the first visited
one of the earliest. -/
def firstUnresolvedSequenceGap (i : TraceIntegrity) (order : List UInt32) :
    Option TraceSequenceGapGroup :=
  (i.gapsIn order).foldl i.earlierUnresolved none

/-- Whether an interval belongs to a confirmed jump. -/
def confirmedGap (i : TraceIntegrity) (gap : TraceSequenceGap) : Bool :=
  match i.groupOf gap with
  | none => false
  | some g => g.confirmed

/-- Take an unconfirmed group out of the counters once. -/
def discardSequenceGapGroup (i : TraceIntegrity) (group : Option GroupRef)
    (discarded : List GroupRef) : TraceIntegrity×List GroupRef :=
  match group.bind (fun ref => (i.groups[ref]?).map (fun g => (ref,g))) with
  | none => (i,discarded)
  | some (ref,g) =>
    if ref∈discarded then (i,discarded)
    else
      let gaps := if i.snapshot.streamGaps≠0 then i.snapshot.streamGaps-1
        else i.snapshot.streamGaps
      let lost := if g.remaining ≤ i.snapshot.estimatedLost then
          i.snapshot.estimatedLost-g.remaining
        else 0
      ({i with snapshot := {i.snapshot with streamGaps := gaps, estimatedLost := lost}},
        ref::discarded)

/-- One cpu of the abandoning loop: confirmed intervals are kept in order and
every other interval discards its group. -/
def abandonCPU (acc : TraceIntegrity×List GroupRef) (cpu : UInt32) :
    TraceIntegrity×List GroupRef :=
  let state := (acc.1.cpus.lookup cpu).getD {}
  let (i,discarded) := state.gaps.foldl (fun (acc : TraceIntegrity×List GroupRef) gap =>
    if acc.1.confirmedGap gap then acc
    else acc.1.discardSequenceGapGroup gap.group acc.2) acc
  ({i with cpus := i.cpus.insert cpu {state with gaps := state.gaps.filter i.confirmedGap}},
    discarded)

/-- Missing count of the group detected at the reported record. -/
def detectedSequenceGapLostCount (i : TraceIntegrity) (order : List UInt32) : UInt64 :=
  match (i.gapsIn order).findSome? (fun gap => (i.groupOf gap).filter
    (fun g => g.detectedRecord=i.snapshot.detectedAtRecord)) with
  | none => 0
  | some g => g.remaining

/-- Drop every interval whose jump was not confirmed by producer loss. The
two loops may visit the cpus in different orders. -/
def abandonUnconfirmedSequenceGaps (i : TraceIntegrity) (order order' : List UInt32) :
    TraceIntegrity :=
  let i := (order.foldl abandonCPU (i,[])).1
  {i with snapshot := {i.snapshot with lostCount := i.detectedSequenceGapLostCount order'}}

/-- An intentional stop does not turn the cut tail into loss. -/
def finalizeAtIntentionalStop (i : TraceIntegrity) (order order' : List UInt32) :
    TraceIntegrity :=
  i.abandonUnconfirmedSequenceGaps order order'

end TraceIntegrity

/-- Final producer counters read by the finalizer. -/
structure BpfRuntimeStats where
  /-- First loss time counted by the producer. -/
  integrityFirstTimeNS : UInt64 := 0
  /-- Sequence attempts of every possible cpu, by cpu number. -/
  eventSequences : List UInt64 := []
  /-- Ring buffer reservations that failed. -/
  ringbufReserveFail : UInt64 := 0
  /-- Ring buffer copies that failed. -/
  ringbufCopyFail : UInt64 := 0
  /-- Pending saves that failed. -/
  pendingUpdateFail : UInt64 := 0
  /-- Exits that did not match their pending enter. -/
  pendingMismatch : UInt64 := 0
  /-- Lifecycle map updates that failed. -/
  lifecycleMapUpdateFail : UInt64 := 0
  /-- Fork filters that could not be installed. -/
  lifecycleForkFailed : UInt64 := 0
  /-- Whether the counters could be read. -/
  available : Bool := false
  deriving DecidableEq, Repr

/-- Some producer failure counter checked by the finalizer is nonzero. -/
def BpfRuntimeStats.producerFailure (stats : BpfRuntimeStats) : Prop :=
  stats.integrityFirstTimeNS≠0 ∨ stats.ringbufReserveFail≠0 ∨ stats.ringbufCopyFail≠0 ∨
    stats.pendingUpdateFail≠0 ∨ stats.pendingMismatch≠0 ∨ stats.lifecycleMapUpdateFail≠0 ∨
    stats.lifecycleForkFailed≠0

instance (stats : BpfRuntimeStats) : Decidable stats.producerFailure :=
  inferInstanceAs (Decidable (_ ∨ _))

namespace TraceIntegrity

/-- Attempts of one cpu beyond its high-water sequence. -/
def tailDelta (i : TraceIntegrity) (cpu : ℕ) (sequence : UInt64) : UInt64 :=
  sequence-((i.cpus.lookup (UInt32.ofNat cpu)).getD {}).sequence

/-- Tail loop over the producer counters, with the found flag. -/
def countTail (i : TraceIntegrity) : ℕ → List UInt64 → TraceIntegrity×Bool
  | _, [] => (i,false)
  | cpu, sequence::rest =>
    let delta := i.tailDelta cpu sequence
    if delta=0 then i.countTail (cpu+1) rest
    else if delta < traceSequenceForwardLimit then
      let i := {i with snapshot := {i.snapshot with
        unobservedTail := i.snapshot.unobservedTail+delta}}
      ((i.countTail (cpu+1) rest).1,true)
    else i.countTail (cpu+1) rest

/-- Taint an untainted session for which the producer counted a failure. -/
def checkProducer (i : TraceIntegrity) (stats : BpfRuntimeStats) : TraceIntegrity :=
  if i.snapshot.tainted=false ∧ stats.producerFailure then
    i.taint .producerLossAtFinalization
  else i

/-- Report an unresolved jump of an untainted session. -/
def finalizeGaps (i : TraceIntegrity) (order : List UInt32) : TraceIntegrity :=
  match i.firstUnresolvedSequenceGap order with
  | none => i
  | some gap =>
    if i.snapshot.tainted then i
    else (i.setSequenceGapLocation gap).taintAt .sequenceGapAtFinalization gap.detectedRecord

/-- Close the session against the producer's final counters. -/
def finalize (i : TraceIntegrity) (stats : BpfRuntimeStats) (order : List UInt32) :
    TraceIntegrity :=
  let i := i.observeLossTime stats.integrityFirstTimeNS
  if stats.available=false then i.taint .finalStatsUnavailable
  else
    let i := (i.checkProducer stats).finalizeGaps order
    let (i,tail) := i.countTail 0 stats.eventSequences
    if tail then i.taint .sequenceTailAtFinalization else i

end TraceIntegrity

end StraceGo.EventIntegrity

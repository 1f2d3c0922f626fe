import Mathlib.Logic.Relation
import StraceGo.EventIntegrityLedger

/-!
# The channel of the events

On every cpu a program numbers its event, reserves a place in the ring buffer, writes
the record and submits it. Where it finds no place or cannot write, it publishes a
loss instead. The reader takes the records in the order of their places and at last
reads the counters of one cpu after the other. The single steps of all of them
interleave in any way.
-/

namespace StraceGo.EventChannel

open EventEnvelope EventIntegrity

section Programs

/-- Failures that the programs count. -/
inductive Failure where
  | ringbufReserve
  | ringbufCopy
  | pendingUpdate
  | pendingMismatch
  | lifecycleMapUpdate
  | lifecycleFork
  deriving DecidableEq, Repr

/-- Single steps of a program. -/
inductive Op where
  | nextEventSequence
  | reserve
  | firstStatsTime (now : UInt64)
  | firstLossTime (now : UInt64)
  | lossEpoch
  | load (failure : Failure)
  | store (failure : Failure)
  | captureEpoch
  | captureTime
  | submit
  | discard
  deriving DecidableEq, Repr

/-- Publish a loss. -/
def recordEventIntegrityLoss (now : UInt64) : List Op :=
  [.firstStatsTime now,.firstLossTime now,.lossEpoch]

/-- Publish a loss and count its failure; a fork that is not followed is counted first. -/
def recordFailure (failure : Failure) (now : UInt64) : List Op :=
  if failure=.lifecycleFork then [.load failure,.store failure] ++ recordEventIntegrityLoss now
  else recordEventIntegrityLoss now ++ [.load failure,.store failure]

/-- Copies of a payload that fail without the record being given up. -/
def failedCopies (times : List UInt64) : List Op := times.flatMap (recordFailure .ringbufCopy)

/-- Write the state of the losses into the header. -/
def captureEventIntegrity : List Op := [.captureEpoch,.captureTime]

/-- What a program does, with the clock at each of its failures. -/
inductive Emission where
  /-- There is no place for the record. -/
  | refused (now : UInt64)
  /-- The record is submitted. -/
  | submitted (copies : List UInt64)
  /-- The record is given up, before or behind its header. -/
  | discarded (copies : List UInt64) (captured : Bool) (now : UInt64)
  /-- A record that is written at once finds a place. -/
  | written
  /-- A record that is written at once finds no place. -/
  | unwritten (now : UInt64)
  /-- Something fails that is not the record of an event. -/
  | failed (failure : Failure) (now : UInt64)
  deriving DecidableEq, Repr

/-- Steps of a program. -/
def Emission.ops : Emission → List Op
  | .refused now => .nextEventSequence::recordFailure .ringbufReserve now
  | .submitted copies =>
    [.nextEventSequence,.reserve] ++ (failedCopies copies ++ (captureEventIntegrity ++ [.submit]))
  | .discarded copies captured now =>
    [.nextEventSequence,.reserve] ++ (failedCopies copies ++
      ((if captured then captureEventIntegrity else []) ++
        (recordFailure .ringbufCopy now ++ [.discard])))
  | .written => .nextEventSequence::(captureEventIntegrity ++ [.reserve,.submit])
  | .unwritten now =>
    .nextEventSequence::(captureEventIntegrity ++ recordFailure .ringbufReserve now)
  | .failed failure now => recordFailure failure now

/-- Clock at the failures of a program. -/
def Emission.times : Emission → List UInt64
  | .refused now => [now]
  | .submitted copies => copies
  | .discarded copies _ now => now::copies
  | .written => []
  | .unwritten now => [now]
  | .failed _ now => [now]

/-- What a program has done. -/
structure Flags where
  /-- It has numbered its event. -/
  sequenced : Bool := false
  /-- It has reserved a place. -/
  reserved : Bool := false
  /-- The place is still its own. -/
  held : Bool := false
  /-- The header has the loss epoch and time. -/
  epoch : Bool := false
  /-- The header has the loss time. -/
  time : Bool := false
  /-- It has marked a loss in the counters of its cpu. -/
  timed : Bool := false
  deriving DecidableEq, Repr

/-- A step is in its order. -/
def Op.enabled (f : Flags) : Op → Bool
  | .nextEventSequence => !f.sequenced
  | .reserve => f.sequenced && !f.reserved
  | .firstStatsTime now => now != 0
  | .firstLossTime _ => f.timed
  | .lossEpoch => f.timed
  | .load _ => true
  | .store _ => true
  | .captureEpoch => !f.epoch
  | .captureTime => !f.time
  | .submit => f.held && f.sequenced && f.epoch && f.time
  | .discard => f.held

/-- What is done behind a step. -/
def Op.after (f : Flags) : Op → Flags
  | .nextEventSequence => {f with sequenced := true}
  | .reserve => {f with reserved := true, held := true}
  | .firstStatsTime _ => {f with timed := true}
  | .firstLossTime _ => f
  | .lossEpoch => f
  | .load _ => f
  | .store _ => f
  | .captureEpoch => {f with epoch := true}
  | .captureTime => {f with time := true}
  | .submit => {f with held := false}
  | .discard => {f with held := false}

/-- Every step is in its order. -/
def Legal : Flags → List Op → Prop
  | _,[] => True
  | f,op::ops => op.enabled f=true ∧ Legal (op.after f) ops

theorem legal_recordFailure {f : Flags} (failure : Failure) {now : UInt64} (hnow : now≠0)
    {rest : List Op} (hrest : Legal {f with timed := true} rest) :
    Legal f (recordFailure failure now ++ rest) := by
  have hclock : (now != 0)=true := bne_iff_ne.mpr hnow
  rw [recordFailure,recordEventIntegrityLoss]
  split_ifs
  · exact ⟨rfl,rfl,hclock,rfl,rfl,hrest⟩
  · exact ⟨hclock,rfl,rfl,rfl,rfl,hrest⟩

/-- A failure at the end of a program. -/
theorem legal_lastFailure (f : Flags) (failure : Failure) {now : UInt64} (htimes : 0∉[now]) :
    Legal f (recordFailure failure now) := by
  have hnow : now≠0 := fun h => htimes (List.mem_singleton.mpr h.symm)
  have hfailure : Legal f (recordFailure failure now ++ []) :=
    legal_recordFailure failure hnow trivial
  rw [List.append_nil] at hfailure
  exact hfailure

theorem legal_failedCopies {f : Flags} {times : List UInt64} (htimes : 0∉times) {rest : List Op}
    (hrest : ∀ timed, Legal {f with timed := timed} rest) :
    Legal f (failedCopies times ++ rest) := by
  induction times generalizing f with
  | nil => exact hrest f.timed
  | cons now times ih =>
    rw [List.mem_cons,not_or] at htimes
    obtain ⟨hnow,hothers⟩ := htimes
    rw [failedCopies,List.flatMap_cons,List.append_assoc]
    exact legal_recordFailure _ (Ne.symm hnow) (ih hothers fun timed => hrest timed)

/-- Every program keeps the order of its steps. -/
theorem Emission.legal {work : Emission} (htimes : 0∉work.times) : Legal {} work.ops := by
  cases work with
  | refused now => exact ⟨rfl,legal_lastFailure _ _ htimes⟩
  | submitted copies =>
    exact ⟨rfl,rfl,legal_failedCopies htimes fun timed => ⟨rfl,rfl,rfl,trivial⟩⟩
  | discarded copies captured now =>
    rw [Emission.times,List.mem_cons,not_or] at htimes
    obtain ⟨hnow,hcopies⟩ := htimes
    refine ⟨rfl,rfl,legal_failedCopies hcopies fun timed => ?_⟩
    cases captured with
    | true => exact ⟨rfl,rfl,legal_recordFailure _ (Ne.symm hnow) ⟨rfl,trivial⟩⟩
    | false => exact legal_recordFailure _ (Ne.symm hnow) ⟨rfl,trivial⟩
  | written => exact ⟨rfl,rfl,rfl,rfl,rfl,trivial⟩
  | unwritten now => exact ⟨rfl,rfl,rfl,legal_lastFailure _ _ htimes⟩
  | failed failure now => exact legal_lastFailure _ _ htimes

end Programs

section Channel

/-- Counters of a cpu. -/
structure CpuStats where
  /-- Numbers handed out; the counter is this modulo a word. -/
  eventSeq : ℕ := 0
  /-- First loss that was published. -/
  integrityFirstTimeNS : UInt64 := 0
  /-- Counted failures. -/
  failures : Failure → UInt64 := fun _ => 0

/-- Losses of all cpus. -/
structure EventLossState where
  /-- Published losses. -/
  epoch : UInt64 := 0
  /-- First loss that was published. -/
  firstTimeNS : UInt64 := 0
  deriving DecidableEq, Repr

/-- A running program. -/
structure Producer where
  /-- Its cpu. -/
  cpu : UInt32
  /-- What its record tells. -/
  content : TraceEventEnvelope
  /-- Steps ahead. -/
  ops : List Op
  /-- Steps behind. -/
  flags : Flags := {}
  /-- Number of its event, zero while it has none. -/
  seq : ℕ := 0
  /-- Its place. -/
  slot : ℕ := 0
  /-- Loss epoch in its header. -/
  epoch : UInt64 := 0
  /-- Loss time in its header. -/
  time : UInt64 := 0
  /-- Counter that it has loaded. -/
  loaded : UInt64 := 0

/-- The record of a program. -/
def Producer.record (p : Producer) : TraceEventEnvelope :=
  { p.content with
    legacyIntegrity := false
    cpu := p.cpu
    seq := UInt64.ofNat p.seq
    lossEpoch := p.epoch
    lossTimeNS := p.time }

/-- State of a place. -/
inductive SlotState where
  | busy
  | discarded
  | submitted (number : ℕ) (record : TraceEventEnvelope)

/-- A place of the ring buffer. -/
structure Slot where
  /-- The program that reserved it. -/
  owner : ℕ
  /-- Its state. -/
  state : SlotState

/-- The submitted record of a place, with its number. -/
def Slot.event (s : Slot) : Option (ℕ×TraceEventEnvelope) :=
  match s.state with
  | .submitted number record => some (number,record)
  | .busy => none
  | .discarded => none

/-- Programs, ring buffer and reader. -/
structure Channel where
  /-- Counters of the cpus. -/
  stats : UInt32 → CpuStats := fun _ => {}
  /-- Losses of all cpus. -/
  loss : EventLossState := {}
  /-- Places in the order in which they were reserved. -/
  ring : List Slot := []
  /-- Programs in the order in which they were started. -/
  producers : List Producer := []
  /-- The place that is read next. -/
  position : ℕ := 0
  /-- Observer of the records. -/
  integrity : TraceIntegrity
  /-- Records that were read, each with its number. -/
  observed : List (ℕ×TraceEventEnvelope) := []
  /-- Counters that were read. -/
  readStats : List CpuStats := []

/-- The value of a word that is set once. -/
def setOnce (old new : UInt64) : UInt64 := if old=0 then new else old

namespace Channel

variable (c : Channel)

/-- Change the counters of a cpu. -/
def setStats (cpu : UInt32) (s : CpuStats) : Channel :=
  {c with stats := Function.update c.stats cpu s}

/-- Change the losses of all cpus. -/
def setLoss (loss : EventLossState) : Channel := {c with loss := loss}

/-- Change a program. -/
def setProducer (i : ℕ) (p : Producer) : Channel := {c with producers := c.producers.set i p}

/-- Reserve a place. -/
def addSlot (i : ℕ) : Channel := {c with ring := c.ring ++ [⟨i,.busy⟩]}

/-- Change the state of a place. -/
def setSlot (i a : ℕ) (state : SlotState) : Channel := {c with ring := c.ring.set a ⟨i,state⟩}

/-- Start a program. -/
def start (cpu : UInt32) (content : TraceEventEnvelope) (ops : List Op) : Channel :=
  {c with producers := c.producers ++ [{cpu := cpu, content := content, ops := ops}]}

/-- A step of a program. -/
def perform (i : ℕ) (p : Producer) : Op → Channel
  | .nextEventSequence =>
    let s := c.stats p.cpu
    (c.setStats p.cpu {s with eventSeq := s.eventSeq+1}).setProducer i {p with seq := s.eventSeq+1}
  | .reserve => (c.addSlot i).setProducer i {p with slot := c.ring.length}
  | .firstStatsTime now =>
    let s := c.stats p.cpu
    (c.setStats p.cpu {s with
      integrityFirstTimeNS := setOnce s.integrityFirstTimeNS now}).setProducer i p
  | .firstLossTime now =>
    (c.setLoss {c.loss with firstTimeNS := setOnce c.loss.firstTimeNS now}).setProducer i p
  | .lossEpoch => (c.setLoss {c.loss with epoch := c.loss.epoch+1}).setProducer i p
  | .load failure => c.setProducer i {p with loaded := (c.stats p.cpu).failures failure}
  | .store failure =>
    let s := c.stats p.cpu
    (c.setStats p.cpu {s with
      failures := Function.update s.failures failure (p.loaded+1)}).setProducer i p
  | .captureEpoch => c.setProducer i {p with epoch := c.loss.epoch}
  | .captureTime => c.setProducer i {p with time := c.loss.firstTimeNS}
  | .submit => (c.setSlot i p.slot (.submitted p.seq p.record)).setProducer i p
  | .discard => (c.setSlot i p.slot .discarded).setProducer i p

/-- Observe a record. -/
def read (number : ℕ) (ev : TraceEventEnvelope) : Channel :=
  { c with
    position := c.position+1
    integrity := (c.integrity.observe ev).1
    observed := c.observed ++ [(number,ev)] }

/-- Pass over a record that was given up. -/
def skip : Channel := {c with position := c.position+1}

/-- Read the counters of the next cpu. -/
def readNextStats : Channel :=
  {c with readStats := c.readStats ++ [c.stats (UInt32.ofNat c.readStats.length)]}

end Channel

/-- One step of a program or of the reader; the counters are read behind the records. -/
inductive Step (cpus : ℕ) : Channel → Channel → Prop where
  | start {c : Channel} {cpu : UInt32} (content : TraceEventEnvelope) {work : Emission}
      (hcpu : cpu.toNat < cpus) (htimes : 0∉work.times) :
      Step cpus c (c.start cpu content work.ops)
  | run {c : Channel} {i : ℕ} {p : Producer} {op : Op} {ops : List Op}
      (hp : c.producers[i]?=some p) (hops : p.ops=op::ops) :
      Step cpus c (c.perform i {p with ops := ops, flags := op.after p.flags} op)
  | read {c : Channel} {s : Slot} {number : ℕ} {ev : TraceEventEnvelope} (hstats : c.readStats=[])
      (hslot : c.ring[c.position]?=some s) (hstate : s.state=.submitted number ev) :
      Step cpus c (c.read number ev)
  | skip {c : Channel} {s : Slot} (hslot : c.ring[c.position]?=some s)
      (hstate : s.state=.discarded) : Step cpus c c.skip
  | readStats {c : Channel} (hnext : c.readStats.length < cpus) : Step cpus c c.readNextStats

/-- Channels that a session with these listeners comes to. -/
def Reachable (cpus : ℕ) (state fdState notify : Bool) (c : Channel) : Prop :=
  Relation.ReflTransGen (Step cpus) {integrity := newTraceIntegrity state fdState notify} c

/-- Earliest of two times, where zero is none. -/
def earliest (first other : UInt64) : UInt64 :=
  if other≠0 ∧ (first=0 ∨ other < first) then other else first

/-- Counters of all cpus together. -/
def sumBPFStatsValues (values : List CpuStats) : BpfRuntimeStats :=
  let total := fun failure => values.foldl (fun count s => count+s.failures failure) 0
  { available := true
    eventSequences := values.map fun s => UInt64.ofNat s.eventSeq
    integrityFirstTimeNS := values.foldl (fun first s => earliest first s.integrityFirstTimeNS) 0
    ringbufReserveFail := total .ringbufReserve
    ringbufCopyFail := total .ringbufCopy
    pendingUpdateFail := total .pendingUpdate
    pendingMismatch := total .pendingMismatch
    lifecycleMapUpdateFail := total .lifecycleMapUpdate
    lifecycleForkFailed := total .lifecycleFork }

/-- The report of a session that ends with the counters that were read. -/
def finalReport (c : Channel) (order : List UInt32) : TraceIntegritySnapshot :=
  (c.integrity.finalize (sumBPFStatsValues c.readStats) order).report

end Channel

end StraceGo.EventChannel

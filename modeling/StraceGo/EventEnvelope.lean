import StraceGo.FiniteMaps
import Mathlib.Algebra.Order.Ring.Int

/-!
# Decoded trace records and their projected views

The boundary object projected from one ring buffer record, with the views
handed to the session owners. Every scalar keeps its machine width. Event
kinds and section kinds are enumerations; flag words stay bit words because
the source tests individual bits. Stack, duration and signal scalars are only
carried to the output views.
-/

namespace StraceGo.EventEnvelope

/-- Record kinds accepted by the version 2 decoder. -/
inductive EventType where
  | enter
  | exit
  | lifecycle
  | signal
  | unsupportedABI
  deriving DecidableEq, Repr

/-- Header bit of a generic enter record. -/
def bpfEventFlagGenericEnter : UInt32 := 1

/-- Header bit of a partial exit record. -/
def bpfEventFlagExitFragment : UInt32 := 8

/-- Header bit of a partial enter record. -/
def bpfEventFlagEnterFragment : UInt32 := 32

/-- Lifecycle action codes of the event ABI. -/
def lifecycleFork : UInt32 := 1

/-- A thread has completed an exec. -/
def lifecycleExec : UInt32 := 2

/-- A task has exited. -/
def lifecycleExit : UInt32 := 3

/-- A task has been freed. -/
def lifecycleFree : UInt32 := 4

/-- A detached ptrace child, never tracked. -/
def lifecycleUnknownDetach : UInt32 := 5

/-- Exit of a child that was never tracked. -/
def lifecycleUnknownExit : UInt32 := 6

/-- Classes of captured user memory. -/
inductive PayloadKind where
  | string
  | bytes
  | struct
  | iovec
  | sockaddr
  | execArgs
  | cmsg
  | fdState
  | fdPath
  | eventFDState
  | taskNamespace
  | pidNamespace
  deriving DecidableEq, Repr

/-- Edge on which a payload section was captured. -/
inductive PayloadDirection where
  | input
  | output
  deriving DecidableEq, Repr

/-- One semantic slice of captured user memory. -/
structure PayloadSection where
  /-- Decoder class of the bytes. -/
  kind : PayloadKind
  /-- Capturing edge. -/
  direction : PayloadDirection
  /-- Syscall argument, or one of the reserved pseudo arguments. -/
  argIndex : ℤ
  /-- Address in the traced process. -/
  userPtr : UInt64
  /-- Length of the object in the traced process. -/
  userLen : UInt32
  /-- Number of bytes copied by the producer. -/
  copiedLen : UInt32
  /-- Result of the producer's copy. -/
  probeRet : Int32
  /-- Copied bytes. -/
  data : List UInt8
  deriving DecidableEq, Repr

/-- The six raw syscall arguments. -/
abbrev SyscallArgs : Type := Vector UInt64 6

/-- There are arguments to number. -/
instance syscallArgs_neZero : NeZero 6 := ⟨by decide⟩

/-- Arguments are read by position; there is none behind the sixth. -/
instance : GetElem SyscallArgs ℕ UInt64 fun _ _ => True where
  getElem args i _ := args.getD i 0

theorem SyscallArgs.getD_eq_get (args : SyscallArgs) {i : ℕ} (h : i < 6) :
    args.getD i 0=args.get ⟨i,h⟩ := by
  have hsize : i < args.toArray.size := by
    rw [args.size_toArray]
    exact h
  exact dif_pos hsize

/-- State domains reported as tainted. -/
inductive IntegrityDomain where
  | fdState
  | lifecycle
  | outputState
  | syscallCorrelation
  deriving DecidableEq, Repr

/-- Per-record integrity stamp carried into the output views. -/
structure TraceRecordIntegrity where
  /-- Taint epoch at observation. -/
  epoch : UInt64
  /-- Whether the task's enter/exit pairing is untrusted. -/
  correlationTainted : Bool
  /-- Whether the record has no sequence number. -/
  unsequenced : Bool
  /-- Tainted domains, absent before any taint. -/
  domains : Option (List IntegrityDomain)
  /-- Producing cpu. -/
  cpu : UInt32
  /-- Producer sequence number. -/
  sequence : UInt64
  /-- Producer loss epoch. -/
  lossEpoch : UInt64
  /-- Ordinal of the record in the session. -/
  record : UInt64
  /-- Whether the session was tainted. -/
  tainted : Bool
  deriving DecidableEq, Repr

/-- Boundary object projected from one decoded ring buffer record. -/
structure TraceEventEnvelope where
  /-- Records with the short base header carry no sequence. -/
  legacyIntegrity : Bool := false
  /-- Taint epoch, stamped by the observer. -/
  integrityEpoch : UInt64 := 0
  /-- Correlation trust, stamped by the observer. -/
  correlationTainted : Bool := false
  /-- Set by the decoder. -/
  valid : Bool := true
  /-- Per-cpu producer sequence. -/
  seq : UInt64 := 0
  /-- Producing cpu. -/
  cpu : UInt32 := 0
  /-- Producer loss epoch at emission. -/
  lossEpoch : UInt64 := 0
  /-- First producer loss time, zero when none. -/
  lossTimeNS : UInt64 := 0
  /-- Session ordinal, stamped by the observer. -/
  recordIndex : UInt64 := 0
  /-- Session taint, stamped by the observer. -/
  tainted : Bool := false
  /-- Wire version. -/
  eventVersion : UInt16 := 2
  /-- Thread group of the record. -/
  pid : UInt32 := 0
  /-- Thread of the record. -/
  tid : UInt32 := 0
  /-- Syscall number. -/
  sysID : UInt32 := 0
  /-- Record kind. -/
  eventType : EventType
  /-- Header flag bits. -/
  eventFlags : UInt32 := 0
  /-- Action code of a lifecycle record. -/
  lifecycleAction : UInt32 := 0
  /-- Carrier timestamp. -/
  recordTime : UInt64 := 0
  /-- Syscall start, reconstructed on exit records. -/
  enterTime : UInt64 := 0
  /-- Raw arguments. -/
  args : SyscallArgs := Vector.replicate 6 0
  /-- Raw return value. -/
  ret : Int64 := 0
  /-- Wall duration. -/
  duration : UInt64 := 0
  /-- Scheduled duration. -/
  cpuDuration : UInt64 := 0
  /-- User stack identity. -/
  stackID : Int32 := 0
  /-- Decoded KVM exit reason. -/
  kvmExitReason : UInt32 := 0
  /-- Enter probe marker. -/
  probeRetEnter : Int32 := 0
  /-- Exit probe marker. -/
  probeRetExit : Int32 := 0
  /-- Executable path of an exec lifecycle record. -/
  snapshotText : String := ""
  /-- Number of a signal record. -/
  signal : UInt32 := 0
  /-- Error code of the signal. -/
  signalErr : Int32 := 0
  /-- Origin code of the signal. -/
  signalCode : Int32 := 0
  /-- Sending process. -/
  senderPID : UInt32 := 0
  /-- Sending user. -/
  senderUID : UInt32 := 0
  /-- Fault address. -/
  signalAddress : UInt64 := 0
  /-- Child status. -/
  signalStatus : Int32 := 0
  /-- Child user time. -/
  signalUserTime : Int64 := 0
  /-- Child system time. -/
  signalSystemTime : Int64 := 0
  /-- Task name. -/
  comm : String := ""
  /-- Captured payload sections, borrowed from the ring buffer. -/
  payload : List PayloadSection := []

/-- Read-only projection used by the syscall pipeline. -/
structure SyscallEventView where
  /-- Integrity stamp. -/
  integrity : TraceRecordIntegrity
  /-- Validity of the source record. -/
  valid : Bool
  /-- Wire version. -/
  eventVersion : UInt16
  /-- Thread group. -/
  pid : UInt32
  /-- Thread. -/
  tid : UInt32
  /-- Syscall number. -/
  sysID : UInt32
  /-- Record kind. -/
  eventType : EventType
  /-- Header flag bits. -/
  eventFlags : UInt32
  /-- Raw arguments. -/
  args : SyscallArgs
  /-- Raw return value. -/
  ret : Int64
  /-- Wall duration. -/
  duration : UInt64
  /-- Scheduled duration. -/
  cpuDuration : UInt64
  /-- Syscall start. -/
  enterTime : UInt64
  /-- User stack identity. -/
  stackID : Int32
  /-- Decoded KVM exit reason. -/
  kvmExitReason : UInt32
  /-- Enter probe marker. -/
  probeRetEnter : Int32
  /-- Exit probe marker. -/
  probeRetExit : Int32
  /-- Task name. -/
  comm : String
  deriving DecidableEq

/-- Read-only projection used by the lifecycle owners. -/
structure LifecycleEventView where
  /-- Integrity stamp. -/
  integrity : TraceRecordIntegrity
  /-- Validity of the source record. -/
  valid : Bool
  /-- Wire version. -/
  eventVersion : UInt16
  /-- Record kind. -/
  eventType : EventType
  /-- Header flag bits. -/
  eventFlags : UInt32
  /-- Lifecycle action code. -/
  action : UInt32
  /-- Thread group. -/
  pid : UInt32
  /-- Thread. -/
  tid : UInt32
  /-- Action arguments. -/
  args : SyscallArgs
  /-- Record time. -/
  enterTime : UInt64
  /-- Executable path. -/
  snapshotText : String
  /-- Task name. -/
  comm : String
  deriving DecidableEq

/-- Read-only projection handed to the signal sink. -/
structure SignalEventView where
  /-- Thread group. -/
  pid : UInt32
  /-- Thread. -/
  tid : UInt32
  /-- Record time. -/
  enterTime : UInt64
  /-- Signal number. -/
  signo : UInt32
  /-- Error code. -/
  error : Int32
  /-- Origin code. -/
  code : Int32
  /-- Sending process. -/
  senderPID : UInt32
  /-- Sending user. -/
  senderUID : UInt32
  /-- User stack identity. -/
  stackID : Int32
  /-- Fault address. -/
  address : UInt64
  /-- Child status. -/
  status : Int32
  /-- Child user time. -/
  userTime : Int64
  /-- Child system time. -/
  systemTime : Int64
  deriving DecidableEq

/-- Domains stamped on a record, shared by all records of one taint level. -/
def integrityRecordDomains (tainted correlation : Bool) : Option (List IntegrityDomain) :=
  if tainted=false then none
  else if correlation then
    some [.fdState,.lifecycle,.outputState,.syscallCorrelation]
  else some [.fdState,.lifecycle,.outputState]

namespace TraceEventEnvelope

variable (envelope : TraceEventEnvelope)

/-- Integrity stamp of an observed record. -/
def recordIntegrity : TraceRecordIntegrity where
  epoch := envelope.integrityEpoch
  correlationTainted := envelope.correlationTainted
  unsequenced := envelope.legacyIntegrity
  domains := integrityRecordDomains envelope.tainted envelope.correlationTainted
  cpu := envelope.cpu
  sequence := envelope.seq
  lossEpoch := envelope.lossEpoch
  record := envelope.recordIndex
  tainted := envelope.tainted

/-- Projection consumed by the syscall owners. -/
def syscallView : SyscallEventView where
  integrity := envelope.recordIntegrity
  valid := envelope.valid
  eventVersion := envelope.eventVersion
  pid := envelope.pid
  tid := envelope.tid
  sysID := envelope.sysID
  eventType := envelope.eventType
  eventFlags := envelope.eventFlags
  args := envelope.args
  ret := envelope.ret
  duration := envelope.duration
  cpuDuration := envelope.cpuDuration
  enterTime := envelope.enterTime
  stackID := envelope.stackID
  kvmExitReason := envelope.kvmExitReason
  probeRetEnter := envelope.probeRetEnter
  probeRetExit := envelope.probeRetExit
  comm := envelope.comm

/-- Projection consumed by the lifecycle owners. -/
def lifecycleView : LifecycleEventView where
  integrity := envelope.recordIntegrity
  valid := envelope.valid
  eventVersion := envelope.eventVersion
  eventType := envelope.eventType
  eventFlags := envelope.eventFlags
  action := envelope.lifecycleAction
  pid := envelope.pid
  tid := envelope.tid
  args := envelope.args
  enterTime := envelope.enterTime
  snapshotText := envelope.snapshotText
  comm := envelope.comm

/-- Projection consumed by the signal sink. -/
def signalView : SignalEventView where
  pid := envelope.pid
  tid := envelope.tid
  enterTime := envelope.enterTime
  signo := envelope.signal
  error := envelope.signalErr
  code := envelope.signalCode
  senderPID := envelope.senderPID
  senderUID := envelope.senderUID
  stackID := envelope.stackID
  address := envelope.signalAddress
  status := envelope.signalStatus
  userTime := envelope.signalUserTime
  systemTime := envelope.signalSystemTime

/-- Whether the record is a lifecycle record. -/
def isLifecycle : Bool := envelope.eventType==.lifecycle

/-- Whether the record is a signal record. -/
def isSignal : Bool := envelope.eventType==.signal

/-- Carrier timestamp, falling back to the syscall start of old records. -/
def integrityTimestamp : UInt64 :=
  if envelope.recordTime≠0 then envelope.recordTime else envelope.enterTime

end TraceEventEnvelope

namespace SyscallEventView

variable (view : SyscallEventView)

/-- An enter record that opens or refreshes a pending syscall. -/
def isGenericEnter : Bool :=
  view.eventType==.enter && view.eventFlags &&& bpfEventFlagGenericEnter != 0

/-- A partial enter record. -/
def isEnterFragment : Bool :=
  view.eventType==.enter && view.eventFlags &&& bpfEventFlagEnterFragment != 0

/-- Any exit record, complete or partial. -/
def isExit : Bool := view.eventType==.exit

/-- A partial exit record. -/
def isExitFragment : Bool :=
  view.isExit && view.eventFlags &&& bpfEventFlagExitFragment != 0

end SyscallEventView

end StraceGo.EventEnvelope

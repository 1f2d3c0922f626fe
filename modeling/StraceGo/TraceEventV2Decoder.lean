import StraceGo.EventPayloadTLV
import StraceGo.BpfPendingState
import StraceGo.GoText

/-!
# Decoder of ring buffer records

A record is a header, a body of its type and captured payload bytes. The header
is either the short base header or the current one, possibly longer; the size
field bounds the body, and the capture length bounds the payload inside it. All
reads are bounds checked, so a slip in an offset would show as a panic.

A decoder's failure drops the envelope it was building: every caller looks at
the envelope only after success.
-/

namespace StraceGo.TraceEventV2Decoder

open ByteLayout EventEnvelope EventPayloadTLV

/-- Wire version of the event ABI. -/
def traceEventV2Version : UInt16 := 2

/-- Bytes of the short header without integrity fields. -/
def traceEventV2BaseHeaderLen : ℕ := 56

/-- Bytes of the current header. -/
def traceEventV2HeaderLen : ℕ := 80

/-- Bytes of an enter body. -/
def traceEventV2EnterBodyLen : ℕ := 72

/-- Bytes of a compact enter body. -/
def traceEventV2CompactEnterBodyLen : ℕ := 48

/-- Bytes of an exit body. -/
def traceEventV2ExitBodyLen : ℕ := 88

/-- Bytes of a lifecycle body. -/
def traceEventV2LifecycleBodyLen : ℕ := 56

/-- Bytes of a signal body. -/
def traceEventV2SignalBodyLen : ℕ := 56

/-- Bytes of the six arguments. -/
def traceEventV2ArgsSize : ℕ := 48

/-- Header bit of a record with payload sections. -/
def bpfEventFlagPayloadTLV : UInt32 := 2

/-- Header bit of an enter record with arguments only. -/
def bpfEventFlagCompactEnter : UInt32 := 16

/-- Wire code of a record kind. -/
def bpfEventType : EventType → UInt16
  | .enter => 1
  | .exit => 2
  | .lifecycle => 3
  | .signal => 4
  | .unsupportedABI => 5

/-- Record kind of a wire code. -/
def eventTypeFromCode (code : UInt16) : Option EventType :=
  if code=1 then some .enter
  else if code=2 then some .exit
  else if code=3 then some .lifecycle
  else if code=4 then some .signal
  else if code=5 then some .unsupportedABI
  else none

/-- Decoded header fields. -/
structure TraceEventV2Header where
  /-- Whether the record has the short base header. -/
  legacy : Bool
  /-- Per-cpu producer sequence. -/
  seq : UInt64
  /-- Producing cpu. -/
  cpu : UInt32
  /-- Producer loss epoch. -/
  lossEpoch : UInt64
  /-- First producer loss time. -/
  lossTimeNS : UInt64
  /-- Wire version. -/
  version : UInt16
  /-- Record kind. -/
  eventType : EventType
  /-- Flag bits. -/
  flags : UInt16
  /-- Thread group. -/
  pid : UInt32
  /-- Thread. -/
  tid : UInt32
  /-- Syscall number. -/
  sysID : UInt32
  /-- Carrier timestamp. -/
  tsNs : UInt64
  /-- Task name. -/
  comm : String

/-- Text of a byte array up to its first zero byte. -/
def decodeTraceEventV2Comm (raw : List UInt8) : String :=
  GoText.ofBytes (raw.takeWhile (·≠0))

/-- Text of a captured path up to its first zero byte. -/
def lifecycleSnapshotString (data : List UInt8) : String :=
  GoText.ofBytes (data.takeWhile (·≠0))

/-- Decode the header and cut out the body. -/
def decodeTraceEventV2Header (rawSample : List UInt8) :
    Checked (Option (TraceEventV2Header × List UInt8)) := do
  if rawSample.length < traceEventV2BaseHeaderLen then return none
  let version ← uint16At rawSample 0
  let code ← uint16At rawSample 2
  let headerLen ← uint16At rawSample 6
  let size ← uint32At rawSample 8
  match eventTypeFromCode code with
  | none => return none
  | some eventType =>
    if version≠traceEventV2Version ∨
        (headerLen.toNat≠traceEventV2BaseHeaderLen ∧ headerLen.toNat < traceEventV2HeaderLen) ∨
        headerLen.toUInt32 > size ∨ size > UInt32.ofNat rawSample.length then
      return none
    let seq ← uint64From rawSample 24
    let flags ← uint16At rawSample 4
    let pid ← uint32At rawSample 12
    let tid ← uint32At rawSample 16
    let sysID ← uint32At rawSample 20
    let tsNs ← uint64At rawSample 32
    let comm ← slice rawSample 40 (40+16)
    let legacy := decide (headerLen.toNat=traceEventV2BaseHeaderLen)
    let cpu ← if legacy then pure 0 else uint32From rawSample 56
    let lossEpoch ← if legacy then pure 0 else uint64From rawSample 64
    let lossTimeNS ← if legacy then pure 0 else uint64From rawSample 72
    let header : TraceEventV2Header := {
      legacy := legacy, seq := seq, cpu := cpu, lossEpoch := lossEpoch, lossTimeNS := lossTimeNS,
      version := version, eventType := eventType, flags := flags, pid := pid, tid := tid,
      sysID := sysID, tsNs := tsNs, comm := decodeTraceEventV2Comm comm }
    return some (header,← slice rawSample headerLen.toNat size.toNat)

/-- The six arguments. -/
def traceEventV2Args (data : List UInt8) : Checked SyscallArgs := do
  return #v[← uint64At data 0,← uint64At data 8,← uint64At data 16,← uint64At data 24,
    ← uint64At data 32,← uint64At data 40]

/-- Captured bytes behind a body of fixed size. -/
def traceEventV2Payload (body : List UInt8) (offset : ℕ) (captureLen : UInt32) :
    Checked (Option (List UInt8)) := do
  if offset > body.length then return none
  if captureLen > UInt32.ofNat (body.length-offset) then return none
  return some (← slice body offset (offset+captureLen.toNat))

/-- Event flags are the header's bits. -/
def traceEventV2EventFlags (header : TraceEventV2Header) : UInt32 := header.flags.toUInt32

/-- Sections of captured bytes, and the scratch slice afterwards. The flag of
the first result says that the record is in section form, also when its bytes
do not decode. -/
def payloadTLVSectionsForRawInto (eventFlags : UInt32) (data : List UInt8)
    (dst : Option (List PayloadSection)) :
    Checked (List PayloadSection × Bool × Option (List PayloadSection)) := do
  if eventFlags &&& bpfEventFlagPayloadTLV=0 then return ([],false,dst.map fun _ => [])
  match ← decodePayloadTLVSectionsInto data (dst.map fun _ => []) with
  | (some sections,scratch) => return (sections,true,scratch)
  | (none,_) => return ([],true,dst.map fun _ => [])

/-- Sections of a record; a record that is not in section form has none. -/
def payloadSectionsForRawPayloadEventInto (eventFlags : UInt32) (data : List UInt8)
    (dst : Option (List PayloadSection)) :
    Checked (List PayloadSection × Option (List PayloadSection)) := do
  let (sections,isTLV,scratch) ← payloadTLVSectionsForRawInto eventFlags data dst
  return (if isTLV then sections else [],scratch)

/-- Decode an enter record that carries arguments only. -/
def decodeTraceEventV2CompactEnterEnvelope (header : TraceEventV2Header) (body : List UInt8) :
    Checked (Option TraceEventEnvelope) := do
  let flags := header.flags.toUInt32
  if body.length≠traceEventV2CompactEnterBodyLen ∨ flags &&& bpfEventFlagGenericEnter=0 ∨
      flags &&& bpfEventFlagPayloadTLV≠0 then
    return none
  let args ← traceEventV2Args (← slice body 0 (0+traceEventV2ArgsSize))
  return some {
    eventVersion := header.version, pid := header.pid, tid := header.tid, comm := header.comm,
    sysID := header.sysID, eventType := header.eventType,
    eventFlags := traceEventV2EventFlags header, enterTime := header.tsNs, args := args,
    ret := 0, probeRetEnter := -1, probeRetExit := -1 }

/-- Decode an enter record. -/
def decodeTraceEventV2EnterEnvelope (header : TraceEventV2Header) (body : List UInt8)
    (payloadScratch : Option (List PayloadSection)) :
    Checked (Option TraceEventEnvelope × Option (List PayloadSection)) := do
  if header.flags.toUInt32 &&& bpfEventFlagCompactEnter≠0 then
    return (← decodeTraceEventV2CompactEnterEnvelope header body,payloadScratch)
  if body.length < traceEventV2EnterBodyLen then return (none,payloadScratch)
  let ret ← uint64At body 0
  let probeRetEnter ← uint32At body 8
  let probeRetExit ← uint32At body 12
  let args ← traceEventV2Args (← slice body 16 (16+traceEventV2ArgsSize))
  let captureLen ← uint32At body 64
  match ← traceEventV2Payload body traceEventV2EnterBodyLen captureLen with
  | none => return (none,payloadScratch)
  | some payload =>
    let eventFlags := traceEventV2EventFlags header
    let (sections,scratch) ←
      payloadSectionsForRawPayloadEventInto eventFlags payload payloadScratch
    let envelope : TraceEventEnvelope := {
      eventVersion := header.version, pid := header.pid, tid := header.tid, comm := header.comm,
      sysID := header.sysID, eventType := header.eventType, eventFlags := eventFlags,
      enterTime := header.tsNs, args := args, ret := ret.toInt64,
      probeRetEnter := probeRetEnter.toInt32, probeRetExit := probeRetExit.toInt32,
      payload := sections }
    return (some envelope,scratch)

/-- Decode an exit record. -/
def decodeTraceEventV2ExitEnvelope (header : TraceEventV2Header) (body : List UInt8)
    (payloadScratch : Option (List PayloadSection)) :
    Checked (Option TraceEventEnvelope × Option (List PayloadSection)) := do
  if body.length < traceEventV2ExitBodyLen then return (none,payloadScratch)
  let ret ← uint64At body 0
  let duration ← uint64At body 8
  let cpuDuration ← uint64At body 80
  let args ← traceEventV2Args (← slice body 16 (16+traceEventV2ArgsSize))
  let captureLen ← uint32At body 64
  let stackID ← uint32At body 72
  let kvmExitReason ← uint32At body 76
  match ← traceEventV2Payload body traceEventV2ExitBodyLen captureLen with
  | none => return (none,payloadScratch)
  | some payload =>
    let eventFlags := traceEventV2EventFlags header
    let (sections,scratch) ←
      payloadSectionsForRawPayloadEventInto eventFlags payload payloadScratch
    let envelope : TraceEventEnvelope := {
      eventVersion := header.version, pid := header.pid, tid := header.tid, comm := header.comm,
      sysID := header.sysID, eventType := header.eventType, eventFlags := eventFlags,
      enterTime := BpfPendingState.traceEventV2EnterTime header.tsNs duration, args := args,
      ret := ret.toInt64, duration := duration, cpuDuration := cpuDuration,
      stackID := stackID.toInt32, kvmExitReason := kvmExitReason, payload := sections }
    return (some envelope,scratch)

/-- Arguments of a lifecycle record; a fork keeps only the low half of the first. -/
def lifecycleArgs (action : UInt32) (args : SyscallArgs) : SyscallArgs :=
  if action=lifecycleFork then args.set 0 args[0].toUInt32.toUInt64 else args

/-- Decode a lifecycle record. -/
def decodeTraceEventV2LifecycleEnvelope (header : TraceEventV2Header) (body : List UInt8) :
    Checked (Option TraceEventEnvelope) := do
  if body.length < traceEventV2LifecycleBodyLen then return none
  let action ← uint32At body 0
  let captureLen ← uint32At body 4
  let args ← traceEventV2Args (← slice body 8 (8+traceEventV2ArgsSize))
  match ← traceEventV2Payload body traceEventV2LifecycleBodyLen captureLen with
  | none => return none
  | some payload =>
    return some {
      eventVersion := header.version, pid := header.pid, tid := header.tid, comm := header.comm,
      eventType := header.eventType, eventFlags := traceEventV2EventFlags header,
      lifecycleAction := action, enterTime := header.tsNs, args := lifecycleArgs action args,
      snapshotText := lifecycleSnapshotString payload }

/-- Decode a signal record. -/
def decodeTraceEventV2SignalEnvelope (header : TraceEventV2Header) (body : List UInt8) :
    Checked (Option TraceEventEnvelope) := do
  if body.length≠traceEventV2SignalBodyLen then return none
  let signal ← uint32From body 0
  let signalErr ← uint32From body 4
  let signalCode ← uint32From body 8
  let senderPID ← uint32From body 12
  let senderUID ← uint32From body 16
  let stackID ← uint32From body 20
  let signalAddress ← uint64From body 24
  let signalStatus ← uint32From body 32
  let signalUserTime ← uint64From body 40
  let signalSystemTime ← uint64From body 48
  return some {
    eventVersion := header.version, pid := header.pid, tid := header.tid, comm := header.comm,
    eventType := header.eventType, enterTime := header.tsNs, signal := signal,
    signalErr := signalErr.toInt32, signalCode := signalCode.toInt32, senderPID := senderPID,
    senderUID := senderUID, stackID := stackID.toInt32, signalAddress := signalAddress,
    signalStatus := signalStatus.toInt32, signalUserTime := signalUserTime.toInt64,
    signalSystemTime := signalSystemTime.toInt64 }

/-- Decode an unsupported-ABI record, which has no body. -/
def decodeTraceEventV2UnsupportedABI (header : TraceEventV2Header) (body : List UInt8) :
    Option TraceEventEnvelope :=
  if body.length≠0 then none
  else some {
    eventVersion := 0, eventType := header.eventType, pid := header.pid, tid := header.tid,
    sysID := header.sysID }

/-- Integrity fields of the header, stamped on every decoded envelope. -/
def stampHeader (header : TraceEventV2Header) (envelope : TraceEventEnvelope) :
    TraceEventEnvelope :=
  { envelope with
    seq := header.seq, legacyIntegrity := header.legacy, cpu := header.cpu,
    lossEpoch := header.lossEpoch, lossTimeNS := header.lossTimeNS, recordTime := header.tsNs }

/-- Decode the body of a record by its type. -/
def decodeTraceEventV2Body (header : TraceEventV2Header) (body : List UInt8)
    (payloadScratch : Option (List PayloadSection)) :
    Checked (Option TraceEventEnvelope × Option (List PayloadSection)) := do
  match header.eventType with
  | .unsupportedABI => return (decodeTraceEventV2UnsupportedABI header body,payloadScratch)
  | .enter => decodeTraceEventV2EnterEnvelope header body payloadScratch
  | .exit => decodeTraceEventV2ExitEnvelope header body payloadScratch
  | .lifecycle => return (← decodeTraceEventV2LifecycleEnvelope header body,payloadScratch)
  | .signal => return (← decodeTraceEventV2SignalEnvelope header body,payloadScratch)

/-- Decode a ring buffer record; the scratch slice is emptied first. -/
def decodeTraceEventV2EnvelopeInto (rawSample : List UInt8)
    (payloadScratch : Option (List PayloadSection)) :
    Checked (Option TraceEventEnvelope × Option (List PayloadSection)) := do
  let payloadScratch := payloadScratch.map fun _ => []
  match ← decodeTraceEventV2Header rawSample with
  | none => return (none,payloadScratch)
  | some (header,body) =>
    let (envelope,scratch) ← decodeTraceEventV2Body header body payloadScratch
    return (envelope.map (stampHeader header),scratch)

end StraceGo.TraceEventV2Decoder

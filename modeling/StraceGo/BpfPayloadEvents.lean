import StraceGo.BpfCaptures
import StraceGo.TraceEventV2Codec

/-!
# Events with captured memory

An event program reserves a record of the ring buffer, captures memory into its
end, writes the header and the body in front of it and submits the record. The
record holds whatever stood in the ring buffer before, and the captures seldom
fill their room. The decoder still reads off it exactly what the program wrote.
-/

namespace StraceGo.BpfPayloadEvents

open BpfCaptures BpfRuntime ByteLayout EventEnvelope EventPayloadTLV RecordBuffers
open TraceEventV2Codec TraceEventV2Decoder

section Programs

/-- What a program finds where it runs. -/
structure EventSource where
  /-- Thread group. -/
  pid : UInt32
  /-- Thread. -/
  tid : UInt32
  /-- Syscall number. -/
  sysID : UInt32
  /-- Timestamp. -/
  tsNs : UInt64
  /-- Per-cpu sequence. -/
  seq : UInt64
  /-- Task name array. -/
  comm : Vector UInt8 16
  /-- Producing cpu. -/
  cpu : UInt32
  /-- Producer loss epoch. -/
  lossEpoch : UInt64
  /-- First producer loss time. -/
  lossTimeNS : UInt64

/-- A ring buffer that may give a record, with whatever stands in it. -/
structure Ringbuf where
  /-- Reserve a record of a size. -/
  reserve : ℕ → Option (List UInt8)
  /-- The record has the size. -/
  reserve_length : ∀ size record, reserve size=some record → record.length=size

/-- What becomes of a record. -/
inductive Emitted where
  /-- The ring buffer has no room. -/
  | reserveFailed
  /-- The record is given back. -/
  | discarded (c : Capture)
  /-- The reader gets the record. -/
  | submitted (c : Capture)

/-- Flag of an enter event that a generic program emits. -/
def eventFlagGenericEnter : UInt16 := 1

/-- Flag of an event with a payload. -/
def eventFlagPayloadTLV : UInt16 := 2

/-- The header as it lies in the record. -/
def initSyscallEventV2HeaderDirect (source : EventSource) (eventType : EventType)
    (flags : UInt16) (outSize : ℕ) : List UInt8 :=
  [bytes 2 2,bytes 2 (bpfEventType eventType).toNat,bytes 2 flags.toNat,
    bytes 2 traceEventV2HeaderLen,bytes 4 outSize,bytes 4 source.pid.toNat,
    bytes 4 source.tid.toNat,bytes 4 source.sysID.toNat,bytes 8 source.seq.toNat,
    bytes 8 source.tsNs.toNat,source.comm.toList,bytes 4 source.cpu.toNat,bytes 4 0,
    bytes 8 source.lossEpoch.toNat,bytes 8 source.lossTimeNS.toNat].flatten

/-- The body of an enter event as it lies in the record. -/
def initSyscallEnterEventV2 (args : SyscallArgs) (payloadSize : ℕ) (ret : Int64)
    (probeRetEnter probeRetExit : Int32) : List UInt8 :=
  ([bytes 8 ret.toUInt64.toNat,bytes 4 probeRetEnter.toUInt32.toNat,
    bytes 4 probeRetExit.toUInt32.toNat]++encodeArgs args++[bytes 4 payloadSize,bytes 4 0]).flatten

/-- The body of an exit event as it lies in the record. -/
def initSyscallExitEventV2FromPending (p : PendingSyscall) (ret : Int64)
    (duration cpuDuration : UInt64) (payloadSize : ℕ) : List UInt8 :=
  ([bytes 8 ret.toUInt64.toNat,bytes 8 duration.toNat]++encodeArgs p.args++
    [bytes 4 payloadSize,bytes 4 0,bytes 4 p.stackID.toUInt32.toNat,bytes 4 0,
      bytes 8 cpuDuration.toNat]).flatten

/-- Emit an event: reserve its record, capture memory into the end of it, and write the header
and the body. -/
def emitEventV2Direct (ring : Ringbuf) (source : EventSource) (eventType : EventType)
    (flags : UInt16) (bodyLen capacity : ℕ) (capture : ℕ → Capture → Capture×ℕ)
    (body : ℕ → List UInt8) : Emitted :=
  let payloadOffset := traceEventV2HeaderLen+bodyLen
  let outSize := payloadOffset+capacity
  match ring.reserve outSize with
  | none => .reserveFailed
  | some record =>
    let (c,payloadSize) := capture payloadOffset {record := record, flags := flags}
    let flags := if payloadSize > 0 then c.flags ||| eventFlagPayloadTLV else c.flags
    match dynptrWrite 0 (initSyscallEventV2HeaderDirect source eventType flags outSize) c with
    | .error _ => .discarded (recordRingbufCopyFail c)
    | .ok c =>
      match dynptrWrite traceEventV2HeaderLen (body payloadSize) c with
      | .error _ => .discarded (recordRingbufCopyFail c)
      | .ok c => .submitted c

variable (arch : Arch) (mem : UserMemory) (ring : Ringbuf) (source : EventSource)

/-- Emit a generic enter event. -/
def emitEnterEventV2Direct (args : SyscallArgs) (capacity : ℕ)
    (capture : ℕ → Capture → Capture×ℕ) : Emitted :=
  emitEventV2Direct ring source .enter eventFlagGenericEnter traceEventV2EnterBodyLen capacity
    capture fun payloadSize => initSyscallEnterEventV2 args payloadSize 0 (-1) (-1)

/-- The enter event of a call without captured memory. -/
def emitSyscallEnterEventV2Direct (args : SyscallArgs) : Emitted :=
  emitEnterEventV2Direct ring source args 0 fun _ c => (c,0)

/-- The enter event of an open or a write. -/
def emitPayloadEnterEventV2Direct (args : SyscallArgs) : Emitted :=
  emitEnterEventV2Direct ring source args (payloadEnterCapacity arch source.sysID args)
    fun offset c => capturePayloadTLVDirect mem arch offset source.sysID args c

/-- The enter event of a vectored call. -/
def emitIovecEnterEventV2Direct (args : SyscallArgs) : Emitted :=
  emitEnterEventV2Direct ring source args (iovecPayloadsCapacity arch source.sysID)
    fun offset c => captureIovecPayloadsTLVDirect mem arch offset source.sysID args c

/-- Room for the bytes behind the entries. -/
def iovecBasePayloadCapacity (kind : BasePayloads) : ℕ :=
  kind.slotMax*(payloadTLVHeaderSize+kind.bytesMax)

/-- The second enter event of a vectored write. -/
def emitIovecBaseEnterEventV2Direct (args : SyscallArgs) : Emitted :=
  emitEnterEventV2Direct ring source args (iovecBasePayloadCapacity iovecBasePayloads)
    fun offset c => captureIovecBasePayloadsTLVDirectForArg mem iovecBasePayloads offset 1 args[1]
      args[2] c

variable (p : PendingSyscall) (ret : Int64) (duration cpuDuration : UInt64)

/-- Where an exit program of a pending call runs. -/
def pendingSource (tsNs : UInt64) : EventSource :=
  { source with pid := p.pid, tid := p.tid, sysID := p.sysID, tsNs := tsNs }

/-- Emit an exit event. -/
def emitExitEventV2Direct (tsNs : UInt64) (capacity : ℕ)
    (capture : ℕ → Capture → Capture×ℕ) : Emitted :=
  emitEventV2Direct ring (pendingSource source p tsNs) .exit 0 traceEventV2ExitBodyLen capacity
    capture (initSyscallExitEventV2FromPending p ret duration cpuDuration)

/-- Room for the bytes of a read. -/
def payloadExitCapacity : ℕ :=
  if ret > 0 then
    payloadTLVHeaderSize+payloadTLVDataBucket (payloadTLVCopyLen ret.toUInt64 payloadTLVBytesMax)
  else 0

/-- The exit event of a read. -/
def emitPayloadExitEventV2Direct : Emitted :=
  emitExitEventV2Direct ring source p ret duration cpuDuration (p.enterTime+duration)
    (payloadExitCapacity ret)
    fun offset c => captureReadBytesTLVDirect mem offset p.args ret c

/-- The exit event of a vectored read. -/
def emitIovecBaseExitEventV2Direct (now : UInt64) : Emitted :=
  emitExitEventV2Direct ring source p ret duration cpuDuration now
    (iovecBasePayloadCapacity iovecBaseExitPayloads)
    fun offset c => captureIovecBasePayloadsTLVDirectForArg mem iovecBaseExitPayloads offset 1
      p.args[1] p.args[2] c

end Programs

section Fronts

variable {left right : List UInt8} {bodyLen n offset width : ℕ}

/-- Samples with the same front have the same parts in it. -/
theorem part_of_take (h : left.take n=right.take n) (hn : offset+width ≤ n) :
    (left.drop offset).take width=(right.drop offset).take width := by
  have hmin : min width (n-offset)=width := by omega
  have hpart (data : List UInt8) :
      (data.drop offset).take width=((data.take n).drop offset).take width := by
    rw [List.drop_take,List.take_take,hmin]
  rw [hpart left,hpart right,h]

/-- Samples with the same front have the same fields in it. -/
theorem field_of_take (h : left.take n=right.take n) (hn : offset+width ≤ n) :
    field left offset width=field right offset width := by
  rw [field,field,part_of_take h hn]

theorem argsAt_of_take (h : left.take n=right.take n) (hn : offset+48 ≤ n) :
    argsAt left offset=argsAt right offset := by
  have hfield (i : ℕ) (hi : i+8 ≤ 48) : field left (offset+i) 8=field right (offset+i) 8 :=
    field_of_take h (by omega)
  rw [argsAt,argsAt,hfield 0 (by decide),hfield 8 (by decide),hfield 16 (by decide),
    hfield 24 (by decide),hfield 32 (by decide),hfield 40 (by decide)]

/-- The kinds of records with a captured payload behind fields of a length. -/
def FixedLen (eventType : EventType) (flags : UInt16) (bodyLen : ℕ) : Prop :=
  (eventType=.enter ∧ isCompact flags=false ∧ bodyLen=traceEventV2EnterBodyLen) ∨
    (eventType=.exit ∧ bodyLen=traceEventV2ExitBodyLen)

/-- The envelope of a body comes from its fields and its payload. -/
theorem envelopeOf_of_take {header : TraceEventV2Header}
    (hkind : FixedLen header.eventType header.flags bodyLen)
    (h : left.take (bodyLen+field right 64 4)=right.take (bodyLen+field right 64 4)) :
    envelopeOf header left=envelopeOf header right := by
  have hcaptured (hcapture : field left 64 4=field right 64 4) :
      captured left bodyLen (field left 64 4)=captured right bodyLen (field right 64 4) := by
    rw [captured,captured,hcapture]
    exact part_of_take h le_rfl
  rcases hkind with ⟨hkind,hcompact,rfl⟩ | ⟨hkind,rfl⟩
  · have hlen : traceEventV2EnterBodyLen=72 := rfl
    have hfield {offset width : ℕ} (hn : offset+width ≤ 72) :
        field left offset width=field right offset width := field_of_take h (by omega)
    have hargs : argsAt left 16=argsAt right 16 := argsAt_of_take h (by omega)
    rw [envelopeOf,envelopeOf,hkind]
    dsimp only
    rw [enterEnvelopeOf,enterEnvelopeOf,hcompact,if_neg Bool.false_ne_true,
      if_neg Bool.false_ne_true,hcaptured (hfield (by decide)),hargs,
      hfield (show 0+8 ≤ 72 by decide),hfield (show 8+4 ≤ 72 by decide),
      hfield (show 12+4 ≤ 72 by decide)]
  · have hlen : traceEventV2ExitBodyLen=88 := rfl
    have hfield {offset width : ℕ} (hn : offset+width ≤ 88) :
        field left offset width=field right offset width := field_of_take h (by omega)
    have hargs : argsAt left 16=argsAt right 16 := argsAt_of_take h (by omega)
    rw [envelopeOf,envelopeOf,hkind]
    dsimp only
    rw [exitEnvelopeOf,exitEnvelopeOf,hcaptured (hfield (by decide)),hargs,
      hfield (show 0+8 ≤ 88 by decide),hfield (show 8+8 ≤ 88 by decide),
      hfield (show 72+4 ≤ 88 by decide),hfield (show 76+4 ≤ 88 by decide),
      hfield (show 80+8 ≤ 88 by decide)]

/-- A body with a payload passes when it holds the fields and the payload. -/
theorem bodyAccepted_of_length {eventType : EventType} {flags : UInt16} {body : List UInt8}
    (hkind : FixedLen eventType flags bodyLen) (h : bodyLen+field body 64 4 ≤ body.length) :
    BodyAccepted eventType flags body := by
  rcases hkind with ⟨rfl,hcompact,rfl⟩ | ⟨rfl,rfl⟩
  · refine ⟨fun hother => ?_,fun _ => ⟨by omega,by omega⟩⟩
    rw [hcompact] at hother
    exact absurd hother Bool.false_ne_true
  · exact ⟨by omega,by omega⟩

/-- The header of a record comes from its front. -/
theorem headerOf_of_take (h : left.take n=right.take n) (hn : traceEventV2HeaderLen ≤ n)
    (eventType : EventType) : headerOf left eventType=headerOf right eventType := by
  have hlen : traceEventV2HeaderLen=80 := rfl
  have hfield {offset width : ℕ} (hbound : offset+width ≤ 80) :
      field left offset width=field right offset width := field_of_take h (by omega)
  have hcomm : (left.drop 40).take 16=(right.drop 40).take 16 := part_of_take h (by omega)
  rw [headerOf,headerOf,declaredHeaderLen,declaredHeaderLen,hcomm,
    hfield (show 6+2 ≤ 80 by decide),hfield (show 24+8 ≤ 80 by decide),
    hfield (show 56+4 ≤ 80 by decide),hfield (show 64+8 ≤ 80 by decide),
    hfield (show 72+8 ≤ 80 by decide),hfield (show 4+2 ≤ 80 by decide),
    hfield (show 12+4 ≤ 80 by decide),hfield (show 16+4 ≤ 80 by decide),
    hfield (show 20+4 ≤ 80 by decide),hfield (show 32+8 ≤ 80 by decide)]

/-- Rules on the header of a record look at its front and its length. -/
theorem headerAccepted_of_take (h : left.take n=right.take n) (hn : traceEventV2HeaderLen ≤ n)
    (hlength : left.length=right.length) (haccepted : HeaderAccepted right) :
    HeaderAccepted left := by
  have hlen : traceEventV2HeaderLen=80 := rfl
  have hfield {offset width : ℕ} (hbound : offset+width ≤ 80) :
      field left offset width=field right offset width := field_of_take h (by omega)
  rw [HeaderAccepted,eventTypeOf,declaredHeaderLen,declaredSize,hlength,
    hfield (show 0+2 ≤ 80 by decide),hfield (show 2+2 ≤ 80 by decide),
    hfield (show 6+2 ≤ 80 by decide),hfield (show 8+4 ≤ 80 by decide)]
  exact haccepted

end Fronts

section Decoding

variable {record : WireRecord} {raw payload : List UInt8} {bodyLen padding : ℕ}

/-- A record decodes whatever stands behind its payload. -/
theorem decode_of_front (hfits : record.Fits)
    (hlong : record.header.length=traceEventV2HeaderLen)
    (hkind : FixedLen record.body.eventType record.header.flags bodyLen)
    (hwidths : record.body.widths.sum=bodyLen)
    (htail : record.body.tail=payload ++ List.replicate padding 0)
    (hcapture : field record.body.encode 64 4=payload.length)
    (hlength : raw.length=record.size)
    (hfront : raw.take (traceEventV2HeaderLen+bodyLen+payload.length)=
      record.encode.take (traceEventV2HeaderLen+bodyLen+payload.length))
    (scratch : Option (List PayloadSection)) :
    ∃ left, decodeTraceEventV2EnvelopeInto raw scratch=
      some (some (stampHeader record.decodedHeader
        (record.body.envelope record.decodedHeader)),left) := by
  have hsize : record.size=traceEventV2HeaderLen+record.body.encode.length := by
    rw [WireRecord.size,hlong]
  have hbodyLen := length_encode htail hwidths
  have hencode : (record.encode ++ []).length < 2^32 := by
    rw [List.append_nil,record.length_encode]
    exact hfits.2.1
  have haccepted := accepted_encode hfits [] hencode
  have hkindOf := eventTypeOf_encode record []
  have hheaderOf := headerOf_encode hfits []
  have hdeclared := declaredHeaderLen_encode hfits []
  have hdeclaredSize := declaredSize_encode hfits []
  rw [List.append_nil] at haccepted hkindOf hheaderOf hdeclared hdeclaredSize
  have hheader : traceEventV2HeaderLen ≤ traceEventV2HeaderLen+bodyLen+payload.length := by omega
  have hlen : traceEventV2HeaderLen=80 := rfl
  have hfield {offset width : ℕ} (hbound : offset+width ≤ 80) :
      field raw offset width=field record.encode offset width := field_of_take hfront (by omega)
  have hrawKind : eventTypeOf raw=some record.body.eventType := by
    rw [eventTypeOf,hfield (show 2+2 ≤ 80 by decide)]
    exact hkindOf
  have hbody (sample : List UInt8) (hsample : sample.length=record.size)
      (hheaderLen : declaredHeaderLen sample=record.header.length)
      (hsizeLen : declaredSize sample=record.size) :
      bodyOf sample=sample.drop traceEventV2HeaderLen := by
    rw [bodyOf,hheaderLen,hsizeLen,hlong]
    exact List.take_of_length_le (by rw [List.length_drop,hsample])
  have hrawBody : bodyOf raw=raw.drop traceEventV2HeaderLen := by
    refine hbody raw hlength ?_ ?_
    · rw [declaredHeaderLen,hfield (show 6+2 ≤ 80 by decide)]
      exact hdeclared
    · rw [declaredSize,hfield (show 8+4 ≤ 80 by decide)]
      exact hdeclaredSize
  have hencodeBody : record.encode.drop traceEventV2HeaderLen=record.body.encode := by
    rw [←hbody record.encode record.length_encode hdeclared hdeclaredSize]
    have hbodyOf := bodyOf_encode hfits []
    rw [List.append_nil] at hbodyOf
    exact hbodyOf
  have hbodyFront : (bodyOf raw).take (bodyLen+payload.length)=
      record.body.encode.take (bodyLen+payload.length) := by
    rw [hrawBody,←hencodeBody]
    exact part_of_take hfront (by omega)
  have hbodyCapture : field (bodyOf raw) 64 4=payload.length := by
    rw [←hcapture]
    refine field_of_take hbodyFront ?_
    rcases hkind with ⟨_,_,rfl⟩ | ⟨_,rfl⟩
    · exact (show 64+4 ≤ traceEventV2EnterBodyLen by decide).trans (Nat.le_add_right _ _)
    · exact (show 64+4 ≤ traceEventV2ExitBodyLen by decide).trans (Nat.le_add_right _ _)
  have hrawHeader : headerOf raw record.body.eventType=record.decodedHeader := by
    rw [headerOf_of_take hfront hheader,hheaderOf]
  have hflags : UInt16.ofNat (field raw 4 2)=record.header.flags := by
    have hflags := congrArg TraceEventV2Header.flags hrawHeader
    exact hflags
  have hrawAccepted : Accepted raw := by
    refine ⟨headerAccepted_of_take hfront hheader (hlength.trans record.length_encode.symm)
      haccepted.1,record.body.eventType,hrawKind,?_⟩
    rw [hflags]
    refine bodyAccepted_of_length hkind ?_
    rw [hbodyCapture,hrawBody,List.length_drop,hlength]
    omega
  have henvelope : envelopeOf record.decodedHeader (bodyOf raw)=
      record.body.envelope record.decodedHeader := by
    rw [←envelopeOf_encode record.decodedHeader rfl hfits.2.2 (by
      have hrecordSize := hfits.2.1
      omega)]
    refine envelopeOf_of_take hkind ?_
    rw [hcapture]
    exact hbodyFront
  obtain ⟨outcome,hdecode,_,houtcome⟩ := decodeTraceEventV2EnvelopeInto_eq raw scratch
  have hsome := houtcome record.body.eventType hrawKind hrawAccepted
  rw [hrawHeader,henvelope] at hsome
  rw [hsome] at hdecode
  exact ⟨_,hdecode⟩

end Decoding

section Emitting

variable {ring : Ringbuf} {bodyLen capacity : ℕ} {capture : ℕ → Capture → Capture×ℕ}
variable {body : ℕ → List UInt8} {record : List UInt8} {captured : List Captured}

/-- Flags of an event with captured sections. -/
def eventFlags (flags : UInt16) (captured : List Captured) : UInt16 :=
  flags ||| cutFlags captured ||| if captured=[] then 0 else eventFlagPayloadTLV

/-- Captured sections have bytes. -/
theorem encodePayload_pos (captured : List Captured) :
    0 < (encodePayload (sections captured)).length ↔ captured≠[] := by
  cases captured with
  | nil =>
    rw [sections,List.map_nil,encodePayload,List.map_nil,List.flatten_nil,List.length_nil]
    exact ⟨fun h => absurd h (Nat.lt_irrefl 0),fun h => absurd rfl h⟩
  | cons first rest =>
    refine ⟨fun _ => List.cons_ne_nil _ _,fun _ => ?_⟩
    rw [sections,List.map_cons,encodePayload,List.map_cons,List.flatten_cons,List.length_append,
      encodeTLV,List.length_append,encodeTLVHeader]
    simp only [List.flatten_cons,List.length_append,length_bytes]
    omega

theorem length_initSyscallEventV2HeaderDirect (source : EventSource) (eventType : EventType)
    (flags : UInt16) (outSize : ℕ) :
    (initSyscallEventV2HeaderDirect source eventType flags outSize).length=
      traceEventV2HeaderLen := by
  simp [initSyscallEventV2HeaderDirect,traceEventV2HeaderLen]

/-- A program whose captures stay in their room submits its record: the header, the body and the
sections stand one behind the other, and no write fails. -/
theorem emitEventV2Direct_submits (source : EventSource) (eventType : EventType)
    (flags : UInt16) (hbody : ∀ size, (body size).length=bodyLen)
    (hreserve : ring.reserve (traceEventV2HeaderLen+bodyLen+capacity)=some record)
    (hcapture : ∀ c : Capture,
      traceEventV2HeaderLen+bodyLen+capacity ≤ c.record.length →
      Captures c (capture (traceEventV2HeaderLen+bodyLen) c) (traceEventV2HeaderLen+bodyLen)
        capacity captured) :
    ∃ c, emitEventV2Direct ring source eventType flags bodyLen capacity capture body=
        .submitted c ∧
      c.copyFails=0 ∧ c.truncations=captured.countP Captured.cut ∧
      (encodePayload (sections captured)).length ≤ capacity ∧
      Placed record c.record 0 (traceEventV2HeaderLen+bodyLen+capacity)
        (initSyscallEventV2HeaderDirect source eventType (eventFlags flags captured)
          (traceEventV2HeaderLen+bodyLen+capacity) ++
          body (encodePayload (sections captured)).length ++
          encodePayload (sections captured)) := by
  have hrecord := ring.reserve_length _ _ hreserve
  have hcaptures := hcapture {record := record, flags := flags} hrecord.ge
  rw [emitEventV2Direct,hreserve]
  dsimp only
  set out := capture (traceEventV2HeaderLen+bodyLen) {record := record, flags := flags}
  have hflags : (if out.2 > 0 then out.1.flags ||| eventFlagPayloadTLV else out.1.flags)=
      eventFlags flags captured := by
    rw [hcaptures.size,hcaptures.flags,eventFlags]
    by_cases hnone : captured=[]
    · rw [if_pos hnone,if_neg (fun h => (encodePayload_pos captured).mp h hnone)]
      exact UInt16.or_zero.symm
    · rw [if_neg hnone,if_pos ((encodePayload_pos captured).mpr hnone)]
  rw [hflags,hcaptures.size]
  set header := initSyscallEventV2HeaderDirect source eventType (eventFlags flags captured)
    (traceEventV2HeaderLen+bodyLen+capacity) with hheader
  set content := body (encodePayload (sections captured)).length with hcontent
  have hheaderLen : header.length=traceEventV2HeaderLen :=
    length_initSyscallEventV2HeaderDirect _ _ _ _
  have hcontentLen : content.length=bodyLen := hbody _
  have hout : out.1.record.length=record.length := hcaptures.placed.length
  have hfirst : 0+header.length ≤ out.1.record.length := by omega
  have hsecond : traceEventV2HeaderLen+content.length ≤
      (overwrite out.1.record 0 header).length := by
    rw [length_overwrite hfirst]
    omega
  rw [dynptrWrite_eq hfirst]
  dsimp only
  rw [dynptrWrite_eq hsecond]
  refine ⟨_,rfl,hcaptures.copyFails,hcaptures.truncations.trans (Nat.zero_add _),
    hcaptures.placed.fits,?_⟩
  have hwritten : Placed out.1.record
      (overwrite (overwrite out.1.record 0 header) traceEventV2HeaderLen content) 0
      (header.length+content.length) (header ++ content) := by
    refine (placed_overwrite hfirst).append ?_
    rw [Nat.zero_add,hheaderLen]
    exact placed_overwrite hsecond
  have hfrontLen : (header ++ content).length=header.length+content.length :=
    List.length_append
  have hpayload := hcaptures.placed
  rw [show traceEventV2HeaderLen+bodyLen=0+(header ++ content).length by omega] at hpayload
  have hall := hpayload.prepend (hfrontLen ▸ hwritten)
  rw [hfrontLen,hheaderLen,hcontentLen] at hall
  exact hall

/-- The record that a program writes, with its flags. -/
def wireRecord (source : EventSource) (flags : UInt16) (body : WireBody) : WireRecord where
  header :=
    { flags := flags, pid := source.pid, tid := source.tid, sysID := source.sysID
      seq := source.seq, tsNs := source.tsNs, comm := source.comm
      integrity := some
        { cpu := source.cpu, reserved := 0, lossEpoch := source.lossEpoch
          lossTimeNS := source.lossTimeNS, extension := [] } }
  body := body

theorem headerPieces_wireRecord (source : EventSource) (flags : UInt16) (body : WireBody) :
    (wireRecord source flags body).headerPieces.flatten=
      initSyscallEventV2HeaderDirect source body.eventType flags
        (wireRecord source flags body).size := by
  simp [wireRecord,WireRecord.headerPieces,initSyscallEventV2HeaderDirect,
    WireHeader.integrityPieces,WireHeader.length]

/-- An event with captured sections has the flag of a payload. -/
theorem payloadTLV_eventFlags (flags : UInt16) (hsome : captured≠[]) :
    (eventFlags flags captured).toUInt32 &&& bpfEventFlagPayloadTLV≠0 := by
  have hword : eventFlagPayloadTLV.toUInt32=bpfEventFlagPayloadTLV := rfl
  rw [eventFlags,if_neg hsome,UInt16.toUInt32_or,hword]
  intro h
  have hnat := congrArg UInt32.toNat h
  rw [UInt32.toNat_and,UInt32.toNat_or,Nat.and_or_distrib_right,Nat.and_self] at hnat
  exact absurd (Nat.or_eq_zero_iff.mp hnat).2 (by decide)

/-- The bytes of a section are in the payload. -/
theorem length_data_le {sections : List PayloadSection} {payload : PayloadSection}
    (h : payload∈sections) : payload.data.length ≤ (encodePayload sections).length := by
  have hmem : encodeTLV payload∈sections.map encodeTLV := List.mem_map_of_mem h
  have hpart := (List.sublist_flatten_of_mem hmem).length_le
  rw [encodeTLV,List.length_append] at hpart
  rw [encodePayload]
  omega

/-- Captured sections are read back. -/
theorem sectionsOf_eventFlags (captured : List Captured) (flags : UInt16)
    (hlength : (encodePayload (sections captured)).length < 2^32) :
    sectionsOf (eventFlags flags captured).toUInt32 (encodePayload (sections captured))=
      sections captured := by
  by_cases htlv : (eventFlags flags captured).toUInt32 &&& bpfEventFlagPayloadTLV=0
  · have hnone : captured=[] := not_not.mp fun hsome => payloadTLV_eventFlags flags hsome htlv
    rw [sectionsOf,if_pos htlv,hnone]
    rfl
  · have hencodable : ∀ payload ∈ sections captured, Encodable payload := by
      intro payload hmem
      obtain ⟨one,hone,rfl⟩ := List.mem_map.mp hmem
      refine ⟨one.argIndex.1,one.argIndex.2,lt_of_le_of_lt ?_ hlength⟩
      exact length_data_le hmem
    rw [sectionsOf_encodePayload htlv hencodable hlength,sections,List.map_map]
    exact List.map_congr_left fun one _ => one.measured

/-- The envelope of a generic enter event. -/
def enterEnvelope (source : EventSource) (args : SyscallArgs) (captured : List Captured) :
    TraceEventEnvelope where
  seq := source.seq
  cpu := source.cpu
  lossEpoch := source.lossEpoch
  lossTimeNS := source.lossTimeNS
  recordTime := source.tsNs
  pid := source.pid
  tid := source.tid
  comm := decodeTraceEventV2Comm source.comm.toList
  sysID := source.sysID
  eventType := .enter
  eventFlags := (eventFlags eventFlagGenericEnter captured).toUInt32
  enterTime := source.tsNs
  args := args
  probeRetEnter := -1
  probeRetExit := -1
  payload := sections captured

/-- The envelope of an exit event. -/
def exitEnvelope (source : EventSource) (p : PendingSyscall) (ret : Int64)
    (duration cpuDuration tsNs : UInt64) (captured : List Captured) : TraceEventEnvelope where
  seq := source.seq
  cpu := source.cpu
  lossEpoch := source.lossEpoch
  lossTimeNS := source.lossTimeNS
  recordTime := tsNs
  pid := p.pid
  tid := p.tid
  comm := decodeTraceEventV2Comm source.comm.toList
  sysID := p.sysID
  eventType := .exit
  eventFlags := (eventFlags 0 captured).toUInt32
  enterTime := BpfPendingState.traceEventV2EnterTime tsNs duration
  args := p.args
  ret := ret
  duration := duration
  cpuDuration := cpuDuration
  stackID := p.stackID
  payload := sections captured

/-- A record that holds a front of what is written decodes to it. -/
theorem decode_of_placed (source : EventSource) (wire : WireBody) {after payload : List UInt8}
    {eventFlags : UInt16} (hflags : wire.FlagsAgree eventFlags)
    (hkind : FixedLen wire.eventType eventFlags bodyLen) (hwidths : wire.widths.sum=bodyLen)
    (htail : wire.tail=payload ++ List.replicate (capacity-payload.length) 0)
    (hcapture : field wire.encode 64 4=payload.length) (hpayload : payload.length ≤ capacity)
    (hsize : traceEventV2HeaderLen+bodyLen+capacity < 2^32)
    (hrecord : record.length=traceEventV2HeaderLen+bodyLen+capacity)
    (hplaced : Placed record after 0 (traceEventV2HeaderLen+bodyLen+capacity)
      (initSyscallEventV2HeaderDirect source wire.eventType eventFlags
        (traceEventV2HeaderLen+bodyLen+capacity) ++ wire.pieces.flatten ++ payload))
    (scratch : Option (List PayloadSection)) :
    ∃ left, decodeTraceEventV2EnvelopeInto after scratch=
      some (some (stampHeader (wireRecord source eventFlags wire).decodedHeader
        (wire.envelope (wireRecord source eventFlags wire).decodedHeader)),left) := by
  have hlong : (wireRecord source eventFlags wire).header.length=traceEventV2HeaderLen := rfl
  have hencode := length_encode htail hwidths
  have htotal : (wireRecord source eventFlags wire).size=
      traceEventV2HeaderLen+bodyLen+capacity := by
    change traceEventV2HeaderLen+wire.encode.length=_
    omega
  have hfits : (wireRecord source eventFlags wire).Fits := by
    refine ⟨?_,?_,hflags⟩
    · rw [hlong]
      decide
    · rw [htotal]
      exact hsize
  have hfrontLen : (initSyscallEventV2HeaderDirect source wire.eventType eventFlags
      (traceEventV2HeaderLen+bodyLen+capacity) ++ wire.pieces.flatten ++ payload).length=
      traceEventV2HeaderLen+bodyLen+payload.length := by
    rw [List.length_append,List.length_append,length_initSyscallEventV2HeaderDirect,
      List.length_flatten,wire.map_length,hwidths]
  have hread := hplaced.read
  rw [List.drop_zero,hfrontLen] at hread
  refine decode_of_front hfits hlong hkind hwidths htail hcapture ?_ ?_ scratch
  · rw [hplaced.length,hrecord,htotal]
  · rw [hread,WireRecord.encode,headerPieces_wireRecord,htotal,←hfrontLen]
    change _=(_ ++ (wire.pieces.flatten ++ wire.tail)).take _
    rw [htail,←List.append_assoc,←List.append_assoc,List.take_left]

/-- A generic enter event decodes to the arguments and the captured sections. -/
theorem emitEnterEventV2Direct_decodes (source : EventSource) (args : SyscallArgs)
    (hsize : traceEventV2HeaderLen+traceEventV2EnterBodyLen+capacity < 2^32)
    (hreserve : ring.reserve (traceEventV2HeaderLen+traceEventV2EnterBodyLen+capacity)=
      some record)
    (hcapture : ∀ c : Capture,
      traceEventV2HeaderLen+traceEventV2EnterBodyLen+capacity ≤ c.record.length →
      Captures c (capture (traceEventV2HeaderLen+traceEventV2EnterBodyLen) c)
        (traceEventV2HeaderLen+traceEventV2EnterBodyLen) capacity captured)
    (scratch : Option (List PayloadSection)) :
    ∃ c left, emitEnterEventV2Direct ring source args capacity capture=.submitted c ∧
      c.copyFails=0 ∧ c.truncations=captured.countP Captured.cut ∧
      decodeTraceEventV2EnvelopeInto c.record scratch=
        some (some (enterEnvelope source args captured),left) := by
  set payload := encodePayload (sections captured) with hpayload
  set flags := eventFlags eventFlagGenericEnter captured with hflags
  set wire := WireBody.enter 0 (-1) (-1) args 0 payload (capacity-payload.length) with hwire
  have hbody (size : ℕ) : (initSyscallEnterEventV2 args size 0 (-1) (-1)).length=
      traceEventV2EnterBodyLen := by
    simp [initSyscallEnterEventV2,encodeArgs,traceEventV2EnterBodyLen]
  obtain ⟨c,hemit,hfails,hcut,hfits,hplaced⟩ := emitEventV2Direct_submits source .enter
    eventFlagGenericEnter hbody hreserve hcapture
  have hcompact : isCompact flags=false := by
    rw [hflags,eventFlags,cutFlags]
    split_ifs <;> decide
  have hbound : payload.length < 2^32 :=
    lt_of_le_of_lt hfits (lt_of_le_of_lt (Nat.le_add_left _ _) hsize)
  have hcaptureLen : field wire.encode 64 4=payload.length := field_encode wire 9 rfl rfl hbound
  obtain ⟨left,hdecode⟩ := decode_of_placed source wire hcompact (.inl ⟨rfl,hcompact,rfl⟩) rfl
    rfl hcaptureLen hfits hsize (ring.reserve_length _ _ hreserve) hplaced scratch
  refine ⟨c,left,hemit,hfails,hcut,?_⟩
  have hsections := sectionsOf_eventFlags captured eventFlagGenericEnter hbound
  have henvelope : stampHeader (wireRecord source flags wire).decodedHeader
      (wire.envelope (wireRecord source flags wire).decodedHeader)=
      enterEnvelope source args captured := by
    rw [enterEnvelope,←hsections]
    rfl
  rw [hdecode,henvelope]

/-- An exit event decodes to the result, the saved arguments and the captured sections. -/
theorem emitExitEventV2Direct_decodes (source : EventSource) (p : PendingSyscall) (ret : Int64)
    (duration cpuDuration tsNs : UInt64)
    (hsize : traceEventV2HeaderLen+traceEventV2ExitBodyLen+capacity < 2^32)
    (hreserve : ring.reserve (traceEventV2HeaderLen+traceEventV2ExitBodyLen+capacity)=
      some record)
    (hcapture : ∀ c : Capture,
      traceEventV2HeaderLen+traceEventV2ExitBodyLen+capacity ≤ c.record.length →
      Captures c (capture (traceEventV2HeaderLen+traceEventV2ExitBodyLen) c)
        (traceEventV2HeaderLen+traceEventV2ExitBodyLen) capacity captured)
    (scratch : Option (List PayloadSection)) :
    ∃ c left, emitExitEventV2Direct ring source p ret duration cpuDuration tsNs capacity capture=
        .submitted c ∧
      c.copyFails=0 ∧ c.truncations=captured.countP Captured.cut ∧
      decodeTraceEventV2EnvelopeInto c.record scratch=
        some (some (exitEnvelope source p ret duration cpuDuration tsNs captured),left) := by
  set payload := encodePayload (sections captured) with hpayload
  set flags := eventFlags 0 captured with hflags
  set wire := WireBody.exit ret duration p.args 0 p.stackID 0 cpuDuration payload
    (capacity-payload.length) with hwire
  have hbody (size : ℕ) : (initSyscallExitEventV2FromPending p ret duration cpuDuration
      size).length=traceEventV2ExitBodyLen := by
    simp [initSyscallExitEventV2FromPending,encodeArgs,traceEventV2ExitBodyLen]
  obtain ⟨c,hemit,hfails,hcut,hfits,hplaced⟩ := emitEventV2Direct_submits
    (pendingSource source p tsNs) .exit 0 hbody hreserve hcapture
  have hbound : payload.length < 2^32 :=
    lt_of_le_of_lt hfits (lt_of_le_of_lt (Nat.le_add_left _ _) hsize)
  have hcaptureLen : field wire.encode 64 4=payload.length := field_encode wire 8 rfl rfl hbound
  obtain ⟨left,hdecode⟩ := decode_of_placed (pendingSource source p tsNs) wire trivial
    (.inr ⟨rfl,rfl⟩) rfl rfl hcaptureLen hfits hsize (ring.reserve_length _ _ hreserve) hplaced
    scratch
  refine ⟨c,left,hemit,hfails,hcut,?_⟩
  have hsections := sectionsOf_eventFlags captured 0 hbound
  have henvelope : stampHeader (wireRecord (pendingSource source p tsNs) flags wire).decodedHeader
      (wire.envelope (wireRecord (pendingSource source p tsNs) flags wire).decodedHeader)=
      exitEnvelope source p ret duration cpuDuration tsNs captured := by
    rw [exitEnvelope,←hsections]
    rfl
  rw [hdecode,henvelope]

end Emitting

section Events

/-- The events that carry captured memory of opens, reads and writes. -/
inductive PayloadEvent where
  /-- Enter of a call without captured memory. -/
  | enter (args : SyscallArgs)
  /-- Enter of an open or a write. -/
  | payloadEnter (args : SyscallArgs)
  /-- Enter of a vectored call. -/
  | iovecEnter (args : SyscallArgs)
  /-- Second enter of a vectored write. -/
  | iovecBaseEnter (args : SyscallArgs)
  /-- Exit of a read. -/
  | payloadExit (p : PendingSyscall) (ret : Int64) (duration cpuDuration : UInt64)
  /-- Exit of a vectored read, with the time of its record. -/
  | iovecBaseExit (p : PendingSyscall) (ret : Int64) (duration cpuDuration now : UInt64)

variable (arch : Arch) (mem : UserMemory) (ring : Ringbuf) (source : EventSource)

/-- Run the program of an event. -/
def PayloadEvent.emit : PayloadEvent → Emitted
  | .enter args => emitSyscallEnterEventV2Direct ring source args
  | .payloadEnter args => emitPayloadEnterEventV2Direct arch mem ring source args
  | .iovecEnter args => emitIovecEnterEventV2Direct arch mem ring source args
  | .iovecBaseEnter args => emitIovecBaseEnterEventV2Direct mem ring source args
  | .payloadExit p ret duration cpuDuration =>
    emitPayloadExitEventV2Direct mem ring source p ret duration cpuDuration
  | .iovecBaseExit p ret duration cpuDuration now =>
    emitIovecBaseExitEventV2Direct mem ring source p ret duration cpuDuration now

/-- What is captured for an event. -/
def PayloadEvent.captured : PayloadEvent → List Captured
  | .enter _ => []
  | .payloadEnter args => capturedPayload mem arch source.sysID args
  | .iovecEnter args => capturedIovecPayloads mem arch source.sysID args
  | .iovecBaseEnter args => capturedIovecBasePayloads mem iovecBasePayloads 1 args[1] args[2]
  | .payloadExit p ret _ _ => capturedReadBytes mem p.args ret
  | .iovecBaseExit p _ _ _ _ =>
    capturedIovecBasePayloads mem iovecBaseExitPayloads 1 p.args[1] p.args[2]

/-- The envelope of an event. -/
def PayloadEvent.envelope (event : PayloadEvent) : TraceEventEnvelope :=
  let captured := event.captured arch mem source
  match event with
  | .enter args | .payloadEnter args | .iovecEnter args | .iovecBaseEnter args =>
    enterEnvelope source args captured
  | .payloadExit p ret duration cpuDuration =>
    exitEnvelope source p ret duration cpuDuration (p.enterTime+duration) captured
  | .iovecBaseExit p ret duration cpuDuration now =>
    exitEnvelope source p ret duration cpuDuration now captured

/-- The room an event asks for. -/
def PayloadEvent.outSize : PayloadEvent → ℕ
  | .enter _ => traceEventV2HeaderLen+traceEventV2EnterBodyLen+0
  | .payloadEnter args =>
    traceEventV2HeaderLen+traceEventV2EnterBodyLen+payloadEnterCapacity arch source.sysID args
  | .iovecEnter _ =>
    traceEventV2HeaderLen+traceEventV2EnterBodyLen+iovecPayloadsCapacity arch source.sysID
  | .iovecBaseEnter _ =>
    traceEventV2HeaderLen+traceEventV2EnterBodyLen+iovecBasePayloadCapacity iovecBasePayloads
  | .payloadExit _ ret _ _ =>
    traceEventV2HeaderLen+traceEventV2ExitBodyLen+payloadExitCapacity ret
  | .iovecBaseExit _ _ _ _ _ =>
    traceEventV2HeaderLen+traceEventV2ExitBodyLen+iovecBasePayloadCapacity iovecBaseExitPayloads

/-- Room for copied bytes is small. -/
theorem payloadTLVDataBucket_le (copiedLen : ℕ) : payloadTLVDataBucket copiedLen ≤ 512 := by
  rw [payloadTLVDataBucket]
  split_ifs <;> omega

theorem outSize_lt (event : PayloadEvent) : event.outSize arch source < 2^32 := by
  have hheader : traceEventV2HeaderLen=80 := rfl
  have henter : traceEventV2EnterBodyLen=72 := rfl
  have hexit : traceEventV2ExitBodyLen=88 := rfl
  have htlv : payloadTLVHeaderSize=32 := rfl
  have hmax : payloadTLVOpenatMax=512 := rfl
  have hbucket := payloadTLVDataBucket_le
  cases event with
  | enter args =>
    rw [PayloadEvent.outSize]
    omega
  | payloadEnter args =>
    have hle := hbucket (payloadTLVCopyLen args[2] payloadTLVBytesMax)
    rw [PayloadEvent.outSize,payloadEnterCapacity]
    split_ifs <;> omega
  | iovecEnter args =>
    rw [PayloadEvent.outSize,iovecPayloadsCapacity]
    split_ifs <;> omega
  | iovecBaseEnter args =>
    rw [PayloadEvent.outSize]
    decide
  | payloadExit p ret duration cpuDuration =>
    have hle := hbucket (payloadTLVCopyLen ret.toUInt64 payloadTLVBytesMax)
    rw [PayloadEvent.outSize,payloadExitCapacity]
    split_ifs <;> omega
  | iovecBaseExit p ret duration cpuDuration now =>
    rw [PayloadEvent.outSize]
    decide

/-- Memory that holds an image at an address. -/
def readImage (base : ℕ) (image : List UInt8) (addr : UInt64) (size : ℕ) :
    Except Int32 (List UInt8) :=
  if base ≤ addr.toNat ∧ addr.toNat-base+size ≤ image.length then
    .ok ((image.drop (addr.toNat-base)).take size)
  else .error (-14)

theorem length_readImage (base : ℕ) (image : List UInt8) (addr : UInt64) (size : ℕ)
    (data : List UInt8) (h : readImage base image addr size=.ok data) : data.length=size := by
  rw [readImage] at h
  split_ifs at h with hrange
  cases h
  rw [List.length_take,List.length_drop]
  omega

theorem error_readImage (base : ℕ) (image : List UInt8) (addr : UInt64) {size : ℕ}
    (err : Int32) (h : readImage base image addr size=.error err) : err < 0 := by
  rw [readImage] at h
  split_ifs at h with hrange
  cases h
  decide

/-- A process whose image holds no strings. -/
def imageMemory (base : ℕ) (image : List UInt8) : UserMemory where
  read := readImage base image
  read_length := length_readImage base image
  read_error := fun addr _ => error_readImage base image addr
  readStr := fun addr _ => readImage base image addr 0
  readStr_length := fun addr _ data h =>
    (length_readImage base image addr 0 data h).trans_le (Nat.zero_le _)
  readStr_error := fun addr _ => error_readImage base image addr

/-- A ring buffer with room and old bytes in it. -/
def usedRingbuf : Ringbuf where
  reserve := fun size => some (List.replicate size 170)
  reserve_length := fun _ _ h =>
    (congrArg List.length (Option.some.inj h)).symm.trans List.length_replicate

/-- An I/O vector whose second entry cannot be read whole, and eight bytes. -/
def vectorImage : List UInt8 := bytes 8 4112++bytes 8 9++[104,105,106,107,108,109,110,111]

/-- A thread that writes the vector. -/
def vectorSource : EventSource where
  pid := 7
  tid := 8
  sysID := 20
  tsNs := 1000
  seq := 3
  comm := Vector.replicate 16 0
  cpu := 1
  lossEpoch := 0
  lossTimeNS := 0

end Events

end StraceGo.BpfPayloadEvents

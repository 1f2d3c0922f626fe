import StraceGo.EventIntegrity
import StraceGo.TraceEventV2Codec

/-!
# The ring buffer boundary

The reader decodes a record, tells the integrity observer about it and hands
the envelope to the sink before it returns. A record that does not decode is
counted, taints the session and goes nowhere; a record of a foreign ABI stops
the reader. Captured bytes that are not a list of sections do not make a record
undecodable: the record is delivered without sections.
-/

namespace StraceGo.TraceEventReader

open ByteLayout EventEnvelope EventIntegrity EventPayloadTLV TraceEventV2Decoder
open TraceEventV2Codec

/-- Decoder of a session: the full one with its scratch slice, or the boundary
decoder of reader-only sessions. -/
inductive RecordDecoder where
  /-- Full decoder. -/
  | ringbuf (payloadSections : List PayloadSection)
  /-- Header-only decoder. -/
  | boundary

/-- Counters of the reader. Its timing counters are not modelled. -/
structure ReaderStats where
  /-- Records handed to the observer. -/
  recordsDecoded : UInt64 := 0
  /-- Records that did not decode. -/
  recordsInvalid : UInt64 := 0
  /-- Records handed to the sink. -/
  recordsRouted : UInt64 := 0
  deriving DecidableEq

/-- The reader, with the envelopes its sink has been given. -/
structure Reader where
  /-- Error that stopped the reader. -/
  terminalErr : Option String := none
  /-- Integrity observer. -/
  integrity : Option TraceIntegrity := none
  /-- Record decoder. -/
  decoder : Option RecordDecoder := none
  /-- Whether envelopes are handed on. -/
  hasSink : Bool := false
  /-- Envelopes handed to the sink, in order. -/
  routed : List TraceEventEnvelope := []
  /-- Counters. -/
  stats : ReaderStats := {}

/-- Envelope of the boundary decoder. -/
def boundaryEnvelope (header : TraceEventV2Header) : TraceEventEnvelope :=
  { eventVersion := 0, eventType := header.eventType, pid := header.pid, tid := header.tid,
    sysID := header.sysID, seq := header.seq, cpu := header.cpu, lossEpoch := header.lossEpoch,
    lossTimeNS := header.lossTimeNS, recordTime := header.tsNs, legacyIntegrity := header.legacy }

/-- Decode a record; a missing record does not decode. -/
def RecordDecoder.decode (decoder : RecordDecoder) (rec : Option (List UInt8)) :
    Checked (Option TraceEventEnvelope × RecordDecoder) := do
  match decoder,rec with
  | .ringbuf _, none => return (none,.ringbuf [])
  | .ringbuf payloadSections, some rawSample =>
    match ← decodeTraceEventV2EnvelopeInto rawSample (some payloadSections) with
    | (some envelope,scratch) => return (some envelope,.ringbuf (scratch.getD []))
    | (none,_) => return (none,.ringbuf [])
  | .boundary, none => return (none,.boundary)
  | .boundary, some rawSample =>
    match ← decodeTraceEventV2Header rawSample with
    | none => return (none,.boundary)
    | some (header,_) => return (some (boundaryEnvelope header),.boundary)

/-- Error of a record from a foreign syscall ABI. -/
def unsupportedABIError (envelope : TraceEventEnvelope) : String :=
  "unsupported syscall ABI: pid="++toString envelope.pid++" tid="++toString envelope.tid++
    " syscall="++toString envelope.sysID++
    "; native 64-bit ABI only (compat and x32 unsupported)"

/-- A record that did not decode. -/
def Reader.invalid (r : Reader) : Reader :=
  { r with
    stats := { r.stats with recordsInvalid := r.stats.recordsInvalid+1 }
    integrity := r.integrity.map TraceIntegrity.invalidRecord }

/-- A decoded record: observed, stamped and handed to the sink. -/
def Reader.deliver (r : Reader) (envelope : TraceEventEnvelope) : Reader :=
  let decoded := { r.stats with recordsDecoded := r.stats.recordsDecoded+1 }
  let observed := r.integrity.map fun integrity => integrity.observe envelope
  let stamped := (observed.map Prod.snd).getD envelope
  let r := { r with integrity := observed.map Prod.fst, stats := decoded }
  if r.hasSink then
    { r with
      routed := r.routed++[stamped]
      stats := { decoded with recordsRouted := decoded.recordsRouted+1 } }
  else r

/-- Handle one ring buffer record; the result says whether it was delivered. -/
def Reader.handleRecord (r : Reader) (rec : Option (List UInt8)) : Checked (Reader × Bool) := do
  match r.terminalErr,r.decoder with
  | none, some decoder =>
    let (outcome,decoder) ← decoder.decode rec
    let r := { r with decoder := some decoder }
    match outcome with
    | none => return (r.invalid,false)
    | some envelope =>
      if envelope.eventType=.unsupportedABI then
        return ({ r with terminalErr := some (unsupportedABIError envelope) },false)
      return (r.deliver envelope,true)
  | _, _ => return (r,false)

/-- Captured bytes of a record body. -/
def capturedOf (eventType : EventType) (body : List UInt8) : List UInt8 :=
  match eventType with
  | .enter => captured body traceEventV2EnterBodyLen (field body 64 4)
  | .exit => captured body traceEventV2ExitBodyLen (field body 64 4)
  | .lifecycle => captured body traceEventV2LifecycleBodyLen (field body 4 4)
  | .signal => []
  | .unsupportedABI => []

/-- An acceptable record in section form whose captured bytes are not a list of
whole sections. -/
structure Damaged (rawSample : List UInt8) (eventType : EventType) : Prop where
  /-- Header and body are acceptable. -/
  accepted : Accepted rawSample
  /-- Kind of the record. -/
  kind : eventTypeOf rawSample=some eventType
  /-- The record claims to carry sections. -/
  tlv : (UInt16.ofNat (field rawSample 4 2)).toUInt32 &&& bpfEventFlagPayloadTLV≠0
  /-- The captured bytes do not frame. -/
  broken : ∀ sections, ¬IsPayload (capturedOf eventType (bodyOf rawSample)) sections

/-- Bytes that do not frame give no section at all. -/
theorem sectionsOf_broken {eventFlags : UInt32} {data : List UInt8}
    (h : ∀ sections, ¬IsPayload data sections) : sectionsOf eventFlags data=[] := by
  obtain ⟨outcome,scratch,hdecode⟩ := decodePayloadTLVSectionsInto_total data none
  rw [sectionsOf,hdecode]
  cases outcome with
  | none => simp
  | some sections =>
    have hpayload := ((decodePayloadTLVSectionsInto_eq_some none).mp ⟨scratch,hdecode⟩).1
    exact absurd hpayload (h sections)

/-- The envelope of a damaged record has no sections. -/
theorem Damaged.payload_eq {rawSample : List UInt8} {eventType : EventType}
    (h : Damaged rawSample eventType) :
    (envelopeOf (headerOf rawSample eventType) (bodyOf rawSample)).payload=[] := by
  have hbroken := h.broken
  cases eventType with
  | enter =>
    change (enterEnvelopeOf (headerOf rawSample .enter) (bodyOf rawSample)).payload=[]
    unfold enterEnvelopeOf
    split_ifs with hcompact
    · rfl
    · exact sectionsOf_broken hbroken
  | exit => exact sectionsOf_broken hbroken
  | lifecycle => rfl
  | signal => rfl
  | unsupportedABI => rfl

/-- A damaged record is neither a signal nor a foreign-ABI record. -/
theorem Damaged.ne_unsupportedABI {rawSample : List UInt8} {eventType : EventType}
    (h : Damaged rawSample eventType) : eventType≠.unsupportedABI := by
  intro hkind
  have hbroken := h.broken
  rw [hkind] at hbroken
  exact hbroken [] .nil

/-- The kind of an envelope is the kind of its record. -/
theorem eventType_envelopeOf (header : TraceEventV2Header) (body : List UInt8) :
    (envelopeOf header body).eventType=header.eventType := by
  unfold envelopeOf
  cases hkind : header.eventType with
  | enter =>
    dsimp only
    unfold enterEnvelopeOf
    split_ifs <;> exact hkind
  | exit => exact hkind
  | lifecycle => exact hkind
  | signal => exact hkind
  | unsupportedABI => rfl

/-- Delivery to a sink counts the record and appends its stamped envelope. -/
theorem Reader.deliver_sink (r : Reader) (hsink : r.hasSink=true) (envelope : TraceEventEnvelope) :
    (r.deliver envelope).integrity=r.integrity.map (fun integrity =>
      (integrity.observe envelope).1) ∧
    (r.deliver envelope).stats={
      recordsDecoded := r.stats.recordsDecoded+1
      recordsInvalid := r.stats.recordsInvalid
      recordsRouted := r.stats.recordsRouted+1 } ∧
    ∃ stamped, (r.deliver envelope).routed=r.routed++[stamped] ∧
      stamped.payload=envelope.payload := by
  unfold Reader.deliver
  rw [if_pos hsink]
  refine ⟨by simp [Function.comp_def],rfl,_,rfl,?_⟩
  cases r.integrity with
  | none => rfl
  | some integrity =>
    dsimp only [Option.map_some,Option.getD_some]
    unfold TraceIntegrity.observe
    split_ifs <;> rfl

/-- Delivery leaves the decoder alone. -/
theorem Reader.deliver_decoder (r : Reader) (envelope : TraceEventEnvelope) :
    (r.deliver envelope).decoder=r.decoder := by
  unfold Reader.deliver
  dsimp only
  split_ifs <;> rfl

/-- One damaged record at the reader. -/
theorem Reader.handleRecord_damaged {r : Reader} {scratch : List PayloadSection}
    {rawSample : List UInt8} {eventType : EventType} (hrun : r.terminalErr=none)
    (hdecoder : r.decoder=some (.ringbuf scratch)) (h : Damaged rawSample eventType) :
    ∃ envelope, envelope=stampHeader (headerOf rawSample eventType)
        (envelopeOf (headerOf rawSample eventType) (bodyOf rawSample)) ∧
      envelope.payload=[] ∧ r.handleRecord (some rawSample)=
        some ({ r with decoder := some (.ringbuf []) }.deliver envelope,true) := by
  obtain ⟨outcome,hdecode,hsome,henvelope⟩ :=
    decodeTraceEventV2EnvelopeInto_eq rawSample (some scratch)
  have houtcome := henvelope eventType h.kind h.accepted
  have hpayload := h.payload_eq
  refine ⟨_,rfl,hpayload,?_⟩
  rw [houtcome] at hdecode
  have hscratch : scratchAfter (some scratch) (some (stampHeader (headerOf rawSample eventType)
      (envelopeOf (headerOf rawSample eventType) (bodyOf rawSample))))=some [] := by
    simpa [scratchAfter,stampHeader] using hpayload
  have hkind : (stampHeader (headerOf rawSample eventType)
      (envelopeOf (headerOf rawSample eventType) (bodyOf rawSample))).eventType=eventType :=
    eventType_envelopeOf _ _
  rw [hscratch] at hdecode
  unfold Reader.handleRecord RecordDecoder.decode
  simp only [hrun,hdecoder,hdecode,Option.bind_eq_bind,Option.bind_some,Option.pure_def,
    Option.getD_some,hkind,if_neg h.ne_unsupportedABI]

/-- A damaged payload is presented as an empty one. A running reader with a
sink counts the record as decoded, lets the observer see it like any other
record and hands its envelope on without sections; the scratch slice is left
empty and the count of invalid records stays. -/
theorem damaged_payload_delivered (r : Reader) (scratch : List PayloadSection)
    (rawSample : List UInt8) (eventType : EventType) (hrun : r.terminalErr=none)
    (hdecoder : r.decoder=some (.ringbuf scratch)) (hsink : r.hasSink=true)
    (h : Damaged rawSample eventType) :
    ∃ (r' : Reader) (envelope : TraceEventEnvelope),
      r.handleRecord (some rawSample)=some (r',true) ∧
      envelope=stampHeader (headerOf rawSample eventType)
        (envelopeOf (headerOf rawSample eventType) (bodyOf rawSample)) ∧
      envelope.payload=[] ∧
      r'.integrity=r.integrity.map (fun integrity => (integrity.observe envelope).1) ∧
      r'.stats={
        recordsDecoded := r.stats.recordsDecoded+1
        recordsInvalid := r.stats.recordsInvalid
        recordsRouted := r.stats.recordsRouted+1 } ∧
      (∃ stamped, r'.routed=r.routed++[stamped] ∧ stamped.payload=[]) ∧
      r'.decoder=some (.ringbuf []) := by
  obtain ⟨envelope,henvelope,hpayload,hhandle⟩ := r.handleRecord_damaged hrun hdecoder h
  obtain ⟨hintegrity,hstats,stamped,hrouted,hstamped⟩ :=
    Reader.deliver_sink { r with decoder := some (.ringbuf []) } hsink envelope
  refine ⟨_,envelope,hhandle,henvelope,hpayload,hintegrity,hstats,?_,?_⟩
  · exact ⟨stamped,hrouted,hstamped.trans hpayload⟩
  · rw [Reader.deliver_decoder]

/-- A write enter whose single captured byte is not a section. -/
def damagedWrite : WireRecord :=
  { header := {
      flags := 3, pid := 7, tid := 7, sysID := 1, seq := 1, tsNs := 500,
      comm := Vector.replicate 16 0,
      integrity := some {
        cpu := 0, reserved := 0, lossEpoch := 0, lossTimeNS := 0, extension := [] } }
    body := .enter 0 0 (-1) (Vector.replicate 6 0) 0 [255] 0 }

/-- A single byte is not a list of sections. -/
theorem not_isPayload_singleton (byte : UInt8) (sections : List PayloadSection) :
    ¬IsPayload [byte] sections := by
  intro h
  have hsize := h.length_eq
  have hheader : payloadTLVHeaderSize=32 := rfl
  cases sections with
  | nil => simp [payloadSize] at hsize
  | cons payload sections =>
    simp only [payloadSize,List.map_cons,List.sum_cons,List.length_singleton] at hsize
    omega

/-- The write enter fits its length fields. -/
theorem damagedWrite_fits : damagedWrite.Fits := by
  have hcompact : isCompact damagedWrite.header.flags=false := by decide
  exact ⟨by decide,by decide,hcompact⟩

/-- The write enter is a damaged record. -/
theorem damaged_damagedWrite : Damaged (damagedWrite.encode++[]) .enter := by
  have hfits := damagedWrite_fits
  have hlength : (damagedWrite.encode++[]).length < 2^32 := by
    rw [List.append_nil,WireRecord.length_encode]
    exact hfits.2.1
  have hflags : field (damagedWrite.encode++[]) 4 2=3 :=
    field_header damagedWrite 2 rfl rfl (by decide) []
  have hcapture : field damagedWrite.body.encode 64 4=1 :=
    field_encode damagedWrite.body 9 rfl rfl (by decide)
  have hcaptured : captured damagedWrite.body.encode traceEventV2EnterBodyLen 1=[255] :=
    captured_encode (show damagedWrite.body.tail=[255]++[] from rfl) rfl
  refine ⟨accepted_encode hfits [] hlength,eventTypeOf_encode damagedWrite [],?_,?_⟩
  · rw [hflags]
    decide
  · rw [bodyOf_encode hfits [],capturedOf,hcapture,hcaptured]
    exact not_isPayload_singleton 255

/-- A reader at the start of a session. -/
def freshReader : Reader :=
  { integrity := some (newTraceIntegrity false false false), decoder := some (.ringbuf []),
    hasSink := true }

/-- The damaged write at a fresh reader. -/
theorem damaged_payload_delivered_write :
    ∃ r' : Reader, freshReader.handleRecord (some (damagedWrite.encode++[]))=some (r',true) ∧
      r'.stats={ recordsDecoded := 1, recordsInvalid := 0, recordsRouted := 1 } := by
  obtain ⟨r',envelope,hhandle,-,-,-,hstats,-,-⟩ := damaged_payload_delivered freshReader []
    (damagedWrite.encode++[]) .enter rfl rfl rfl damaged_damagedWrite
  exact ⟨r',hhandle,hstats⟩

/-- The damaged write is not counted as invalid, leaves the session untainted
and reaches the sink. -/
theorem damaged_payload_not_invalid :
    Damaged (damagedWrite.encode++[]) .enter ∧
      ∃ r' : Reader, freshReader.handleRecord (some (damagedWrite.encode++[]))=some (r',true) ∧
        r'.stats.recordsInvalid=0 ∧ r'.routed.length=1 ∧
        r'.integrity.map (fun integrity => integrity.snapshot.tainted)=some false := by
  refine ⟨damaged_damagedWrite,?_⟩
  obtain ⟨envelope,henvelope,hpayload,hhandle⟩ :=
    freshReader.handleRecord_damaged rfl rfl damaged_damagedWrite
  obtain ⟨hintegrity,hstats,stamped,hrouted,hstamped⟩ :=
    Reader.deliver_sink { freshReader with decoder := some (.ringbuf []) } rfl envelope
  refine ⟨_,hhandle,?_,?_,?_⟩
  · rw [hstats]
    rfl
  · rw [hrouted]
    rfl
  · have hfits := damagedWrite_fits
    have hkind : damagedWrite.body.eventType=.enter := rfl
    rw [hintegrity,henvelope,← hkind,headerOf_encode hfits [],bodyOf_encode hfits [],
      envelopeOf_encode damagedWrite.decodedHeader rfl hfits.2.2 (by decide)]
    rfl

end StraceGo.TraceEventReader

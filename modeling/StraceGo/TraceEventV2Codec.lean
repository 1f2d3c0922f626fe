import Mathlib.Tactic.IntervalCases
import StraceGo.TraceEventV2Decoder

/-!
# The record codec

The decoder accepts a byte string exactly when its header and the body of its
type pass their length rules, and then returns the envelope read off fixed
offsets. The producer lays a record out at the same offsets, so decoding what
it writes gives the written fields back, for base, current and longer headers.
-/

namespace StraceGo.TraceEventV2Codec

open ByteLayout EventEnvelope EventPayloadTLV TraceEventV2Decoder

/-- Declared header length. -/
def declaredHeaderLen (rawSample : List UInt8) : ℕ := field rawSample 6 2

/-- Declared record size. -/
def declaredSize (rawSample : List UInt8) : ℕ := field rawSample 8 4

/-- Declared record kind, when it is a known one. -/
def eventTypeOf (rawSample : List UInt8) : Option EventType :=
  eventTypeFromCode (UInt16.ofNat (field rawSample 2 2))

/-- Bytes between the header and the declared size. -/
def bodyOf (rawSample : List UInt8) : List UInt8 :=
  (rawSample.drop (declaredHeaderLen rawSample)).take
    (declaredSize rawSample-declaredHeaderLen rawSample)

/-- Header fields at their offsets; the short header has no integrity fields. -/
def headerOf (rawSample : List UInt8) (eventType : EventType) : TraceEventV2Header :=
  let legacy := decide (declaredHeaderLen rawSample=traceEventV2BaseHeaderLen)
  { legacy := legacy
    seq := UInt64.ofNat (field rawSample 24 8)
    cpu := if legacy then 0 else UInt32.ofNat (field rawSample 56 4)
    lossEpoch := if legacy then 0 else UInt64.ofNat (field rawSample 64 8)
    lossTimeNS := if legacy then 0 else UInt64.ofNat (field rawSample 72 8)
    version := traceEventV2Version
    eventType := eventType
    flags := UInt16.ofNat (field rawSample 4 2)
    pid := UInt32.ofNat (field rawSample 12 4)
    tid := UInt32.ofNat (field rawSample 16 4)
    sysID := UInt32.ofNat (field rawSample 20 4)
    tsNs := UInt64.ofNat (field rawSample 32 8)
    comm := decodeTraceEventV2Comm ((rawSample.drop 40).take 16) }

/-- Rules on the header of a record, where the length of the byte string is
taken in 32 bits. -/
def HeaderAccepted (rawSample : List UInt8) : Prop :=
  traceEventV2BaseHeaderLen ≤ rawSample.length ∧ field rawSample 0 2=2 ∧
    (eventTypeOf rawSample).isSome ∧
    (declaredHeaderLen rawSample=traceEventV2BaseHeaderLen ∨
      traceEventV2HeaderLen ≤ declaredHeaderLen rawSample) ∧
    declaredHeaderLen rawSample ≤ declaredSize rawSample ∧ declaredSize rawSample ≤
      rawSample.length%2^32

instance (rawSample : List UInt8) : Decidable (HeaderAccepted rawSample) :=
  inferInstanceAs (Decidable (_ ∧ _ ∧ _ ∧ _ ∧ _ ∧ _))

/-- The reader's rejecting tests are the negation of the header rules. -/
theorem headerTests_iff {rawSample : List UInt8}
    (hlength : traceEventV2BaseHeaderLen ≤ rawSample.length)
    (hkind : (eventTypeOf rawSample).isSome) :
    (UInt16.ofNat (field rawSample 0 2)≠traceEventV2Version ∨
      ((UInt16.ofNat (field rawSample 6 2)).toNat≠traceEventV2BaseHeaderLen ∧
        (UInt16.ofNat (field rawSample 6 2)).toNat < traceEventV2HeaderLen) ∨
      (UInt16.ofNat (field rawSample 6 2)).toUInt32 > UInt32.ofNat (field rawSample 8 4) ∨
      UInt32.ofNat (field rawSample 8 4) > UInt32.ofNat rawSample.length) ↔
    ¬HeaderAccepted rawSample := by
  have hversion : UInt16.ofNat (field rawSample 0 2)=traceEventV2Version ↔
      field rawSample 0 2=2 := by
    rw [← UInt16.toNat_inj,toNat_field16]
    exact Iff.rfl
  have hsize : (UInt16.ofNat (field rawSample 6 2)).toUInt32 > UInt32.ofNat (field rawSample 8 4) ↔
      ¬declaredHeaderLen rawSample ≤ declaredSize rawSample := by
    rw [gt_iff_lt,UInt32.lt_iff_toNat_lt,UInt16.toNat_toUInt32,toNat_field16,toNat_field32]
    exact (Nat.not_le).symm
  have hbound : UInt32.ofNat (field rawSample 8 4) > UInt32.ofNat rawSample.length ↔
      ¬declaredSize rawSample ≤ rawSample.length%2^32 := by
    rw [gt_iff_lt,UInt32.lt_iff_toNat_lt,toNat_field32]
    simp [declaredSize]
  rw [hsize,hbound,ne_eq,hversion,toNat_field16]
  unfold HeaderAccepted
  simp only [hlength,hkind,true_and,declaredHeaderLen]
  omega

/-- The header decoder reads inside the slice and follows the header rules. -/
theorem decodeTraceEventV2Header_eq (rawSample : List UInt8) :
    decodeTraceEventV2Header rawSample=some
      (if HeaderAccepted rawSample
        then (eventTypeOf rawSample).map fun eventType =>
          (headerOf rawSample eventType,bodyOf rawSample)
        else none) := by
  by_cases hshort : rawSample.length < traceEventV2BaseHeaderLen
  · have hreject : ¬HeaderAccepted rawSample := fun h => absurd h.1 (by omega)
    rw [if_neg hreject,decodeTraceEventV2Header,if_pos hshort]
    rfl
  have hlength : traceEventV2BaseHeaderLen ≤ rawSample.length := by omega
  have hbase : traceEventV2BaseHeaderLen=56 := rfl
  have hversion := uint16At_eq (show 0+2 ≤ rawSample.length by omega)
  have hcode := uint16At_eq (show 2+2 ≤ rawSample.length by omega)
  have hflags := uint16At_eq (show 4+2 ≤ rawSample.length by omega)
  have hheaderLen := uint16At_eq (show 6+2 ≤ rawSample.length by omega)
  have hsize := uint32At_eq (show 8+4 ≤ rawSample.length by omega)
  have hpid := uint32At_eq (show 12+4 ≤ rawSample.length by omega)
  have htid := uint32At_eq (show 16+4 ≤ rawSample.length by omega)
  have hsysID := uint32At_eq (show 20+4 ≤ rawSample.length by omega)
  have hseq := uint64From_eq (show 24+8 ≤ rawSample.length by omega)
  have hts := uint64At_eq (show 32+8 ≤ rawSample.length by omega)
  have hcomm := slice_eq (show 40 ≤ 40+16 by omega) (show 40+16 ≤ rawSample.length by omega)
  rw [decodeTraceEventV2Header,if_neg hshort]
  simp only [hversion,hcode,hflags,hheaderLen,hsize,hpid,htid,hsysID,hseq,hts,hcomm,
    Option.bind_eq_bind,Option.bind_some,Option.pure_def]
  cases hkind : eventTypeFromCode (UInt16.ofNat (field rawSample 2 2)) with
  | none =>
    have hreject : ¬HeaderAccepted rawSample := by
      intro h
      have hsome := h.2.2.1
      rw [eventTypeOf,hkind] at hsome
      simp at hsome
    rw [if_neg hreject]
  | some eventType =>
    have hkindOf : eventTypeOf rawSample=some eventType := hkind
    have htests := headerTests_iff hlength (by rw [hkindOf]; rfl)
    dsimp only
    by_cases haccepted : HeaderAccepted rawSample
    · have hpass := fun hfail => (htests.mp hfail) haccepted
      have hrest : declaredHeaderLen rawSample ≤ declaredSize rawSample := haccepted.2.2.2.2.1
      have hfits : declaredSize rawSample ≤ rawSample.length :=
        Nat.le_trans haccepted.2.2.2.2.2 (Nat.mod_le _ _)
      have hbody : slice rawSample (declaredHeaderLen rawSample) (declaredSize rawSample)=
          some (bodyOf rawSample) := slice_eq hrest hfits
      have hversionEq : UInt16.ofNat (field rawSample 0 2)=traceEventV2Version := by
        rw [haccepted.2.1]
        rfl
      have hname : (UInt16.ofNat (field rawSample 6 2)).toNat=declaredHeaderLen rawSample :=
        toNat_field16 rawSample 6
      have hsizeName : (UInt32.ofNat (field rawSample 8 4)).toNat=declaredSize rawSample :=
        toNat_field32 rawSample 8
      rw [if_pos haccepted,if_neg hpass,hkindOf,Option.map_some]
      simp only [hname,hsizeName,hbody,hversionEq,Option.bind_some]
      by_cases hlegacy : declaredHeaderLen rawSample=traceEventV2BaseHeaderLen
      · simp [hlegacy,headerOf]
      · have hlong : traceEventV2HeaderLen ≤ declaredHeaderLen rawSample :=
          haccepted.2.2.2.1.resolve_left hlegacy
        have hcurrent : traceEventV2HeaderLen=80 := rfl
        have hcpu := uint32From_eq (show 56+4 ≤ rawSample.length by omega)
        have hepoch := uint64From_eq (show 64+8 ≤ rawSample.length by omega)
        have htime := uint64From_eq (show 72+8 ≤ rawSample.length by omega)
        simp [hlegacy,headerOf,hcpu,hepoch,htime]
    · rw [if_neg haccepted,if_pos (htests.mpr haccepted)]

/-- Six arguments at an offset. -/
def argsAt (body : List UInt8) (offset : ℕ) : SyscallArgs :=
  #v[UInt64.ofNat (field body (offset+0) 8),UInt64.ofNat (field body (offset+8) 8),
    UInt64.ofNat (field body (offset+16) 8),UInt64.ofNat (field body (offset+24) 8),
    UInt64.ofNat (field body (offset+32) 8),UInt64.ofNat (field body (offset+40) 8)]

/-- Reading the arguments through their slice stays inside it. -/
theorem traceEventV2Args_eq {body : List UInt8} {offset : ℕ}
    (h : offset+traceEventV2ArgsSize ≤ body.length) :
    (slice body offset (offset+traceEventV2ArgsSize)).bind traceEventV2Args=
      some (argsAt body offset) := by
  have hsize : traceEventV2ArgsSize=48 := rfl
  obtain ⟨part,hpart⟩ : ∃ part, part=(body.drop offset).take traceEventV2ArgsSize := ⟨_,rfl⟩
  have hlength : part.length=48 := by
    rw [hpart,List.length_take,List.length_drop]
    omega
  have hread : ∀ index, index+8 ≤ 48 →
      uint64At part index=some (UInt64.ofNat (field body (offset+index) 8)) := by
    intro index hindex
    rw [uint64At_eq (by omega),hpart,
      field_part body (show index+8 ≤ traceEventV2ArgsSize by omega)]
  rw [slice_eq (by omega) h,Nat.add_sub_cancel_left,← hpart,Option.bind_some,traceEventV2Args]
  simp only [hread 0 (by omega),hread 8 (by omega),hread 16 (by omega),hread 24 (by omega),
    hread 32 (by omega),hread 40 (by omega),Option.bind_eq_bind,Option.bind_some,Option.pure_def]
  rfl

/-- Captured bytes behind a body of fixed size. -/
def captured (body : List UInt8) (bodyLen captureLen : ℕ) : List UInt8 :=
  (body.drop bodyLen).take captureLen

/-- The payload is cut out exactly when the body holds it, for a body a size
field can announce. -/
theorem traceEventV2Payload_eq {body : List UInt8} {bodyLen : ℕ} (captureLen : UInt32)
    (hbody : bodyLen ≤ body.length) (hlength : body.length < 2^32) :
    traceEventV2Payload body bodyLen captureLen=some
      (if captureLen.toNat ≤ body.length-bodyLen
        then some (captured body bodyLen captureLen.toNat) else none) := by
  have hgt : captureLen > UInt32.ofNat (body.length-bodyLen) ↔
      ¬captureLen.toNat ≤ body.length-bodyLen := by
    have hword : (UInt32.ofNat (body.length-bodyLen)).toNat=body.length-bodyLen := by
      simp only [UInt32.toNat_ofNat']
      omega
    rw [gt_iff_lt,UInt32.lt_iff_toNat_lt,hword]
    omega
  rw [traceEventV2Payload,if_neg (by omega)]
  by_cases hfits : captureLen.toNat ≤ body.length-bodyLen
  · rw [if_neg (by rw [hgt]; simpa using hfits),if_pos hfits,slice_eq (by omega) (by omega),
      Nat.add_sub_cancel_left]
    rfl
  · rw [if_pos (hgt.mpr hfits),if_neg hfits]
    rfl

/-- Sections of a captured payload, none when it does not decode. -/
def sectionsOf (eventFlags : UInt32) (data : List UInt8) : List PayloadSection :=
  if eventFlags &&& bpfEventFlagPayloadTLV=0 then []
  else
    match decodePayloadTLVSectionsInto data none with
    | some (some sections,_) => sections
    | _ => []

/-- The section reader returns the sections and leaves them in the scratch slice. -/
theorem payloadSectionsForRawPayloadEventInto_eq (eventFlags : UInt32) (data : List UInt8)
    (dst : Option (List PayloadSection)) :
    payloadSectionsForRawPayloadEventInto eventFlags data dst=
      some (sectionsOf eventFlags data,dst.map fun _ => sectionsOf eventFlags data) := by
  obtain ⟨complete,taken,htaken⟩ := decodePayloadTLVLoop_total data []
  unfold payloadSectionsForRawPayloadEventInto payloadTLVSectionsForRawInto sectionsOf
  by_cases htlv : eventFlags &&& bpfEventFlagPayloadTLV=0
  · simp [htlv]
  · cases complete <;> simp [htlv,decodePayloadTLVSectionsInto,htaken,Function.comp_def]

/-- Whether an enter record is a compact one. -/
def isCompact (flags : UInt16) : Bool := flags.toUInt32 &&& bpfEventFlagCompactEnter≠0

/-- Rules on the body of a record. -/
def BodyAccepted (eventType : EventType) (flags : UInt16) (body : List UInt8) : Prop :=
  match eventType with
  | .unsupportedABI => body.length=0
  | .signal => body.length=traceEventV2SignalBodyLen
  | .lifecycle => traceEventV2LifecycleBodyLen ≤ body.length ∧
      field body 4 4 ≤ body.length-traceEventV2LifecycleBodyLen
  | .exit => traceEventV2ExitBodyLen ≤ body.length ∧
      field body 64 4 ≤ body.length-traceEventV2ExitBodyLen
  | .enter =>
    (isCompact flags=true → body.length=traceEventV2CompactEnterBodyLen ∧
        flags.toUInt32 &&& bpfEventFlagGenericEnter≠0 ∧
        flags.toUInt32 &&& bpfEventFlagPayloadTLV=0) ∧
      (isCompact flags=false → traceEventV2EnterBodyLen ≤ body.length ∧
        field body 64 4 ≤ body.length-traceEventV2EnterBodyLen)

instance (eventType : EventType) (flags : UInt16) (body : List UInt8) :
    Decidable (BodyAccepted eventType flags body) :=
  match eventType with
  | .unsupportedABI => inferInstanceAs (Decidable (_=_))
  | .signal => inferInstanceAs (Decidable (_=_))
  | .lifecycle => inferInstanceAs (Decidable (_ ∧ _))
  | .exit => inferInstanceAs (Decidable (_ ∧ _))
  | .enter => inferInstanceAs (Decidable ((_ → _) ∧ (_ → _)))

/-- Envelope of an enter record, read off its body. -/
def enterEnvelopeOf (header : TraceEventV2Header) (body : List UInt8) : TraceEventEnvelope :=
  if isCompact header.flags then
    { eventVersion := header.version, pid := header.pid, tid := header.tid, comm := header.comm,
      sysID := header.sysID, eventType := header.eventType,
      eventFlags := traceEventV2EventFlags header, enterTime := header.tsNs,
      args := argsAt body 0, ret := 0, probeRetEnter := -1, probeRetExit := -1 }
  else
    { eventVersion := header.version, pid := header.pid, tid := header.tid, comm := header.comm,
      sysID := header.sysID, eventType := header.eventType,
      eventFlags := traceEventV2EventFlags header, enterTime := header.tsNs,
      args := argsAt body 16, ret := (UInt64.ofNat (field body 0 8)).toInt64,
      probeRetEnter := (UInt32.ofNat (field body 8 4)).toInt32,
      probeRetExit := (UInt32.ofNat (field body 12 4)).toInt32,
      payload := sectionsOf (traceEventV2EventFlags header)
        (captured body traceEventV2EnterBodyLen (field body 64 4)) }

/-- Envelope of an exit record, read off its body. -/
def exitEnvelopeOf (header : TraceEventV2Header) (body : List UInt8) : TraceEventEnvelope :=
  { eventVersion := header.version, pid := header.pid, tid := header.tid, comm := header.comm,
    sysID := header.sysID, eventType := header.eventType,
    eventFlags := traceEventV2EventFlags header,
    enterTime := BpfPendingState.traceEventV2EnterTime header.tsNs
      (UInt64.ofNat (field body 8 8)),
    args := argsAt body 16, ret := (UInt64.ofNat (field body 0 8)).toInt64,
    duration := UInt64.ofNat (field body 8 8), cpuDuration := UInt64.ofNat (field body 80 8),
    stackID := (UInt32.ofNat (field body 72 4)).toInt32,
    kvmExitReason := UInt32.ofNat (field body 76 4),
    payload := sectionsOf (traceEventV2EventFlags header)
      (captured body traceEventV2ExitBodyLen (field body 64 4)) }

/-- Envelope of a lifecycle record, read off its body. -/
def lifecycleEnvelopeOf (header : TraceEventV2Header) (body : List UInt8) : TraceEventEnvelope :=
  { eventVersion := header.version, pid := header.pid, tid := header.tid, comm := header.comm,
    eventType := header.eventType, eventFlags := traceEventV2EventFlags header,
    lifecycleAction := UInt32.ofNat (field body 0 4), enterTime := header.tsNs,
    args := lifecycleArgs (UInt32.ofNat (field body 0 4)) (argsAt body 8),
    snapshotText := lifecycleSnapshotString
      (captured body traceEventV2LifecycleBodyLen (field body 4 4)) }

/-- Envelope of a signal record, read off its body. -/
def signalEnvelopeOf (header : TraceEventV2Header) (body : List UInt8) : TraceEventEnvelope :=
  { eventVersion := header.version, pid := header.pid, tid := header.tid, comm := header.comm,
    eventType := header.eventType, enterTime := header.tsNs,
    signal := UInt32.ofNat (field body 0 4),
    signalErr := (UInt32.ofNat (field body 4 4)).toInt32,
    signalCode := (UInt32.ofNat (field body 8 4)).toInt32,
    senderPID := UInt32.ofNat (field body 12 4), senderUID := UInt32.ofNat (field body 16 4),
    stackID := (UInt32.ofNat (field body 20 4)).toInt32,
    signalAddress := UInt64.ofNat (field body 24 8),
    signalStatus := (UInt32.ofNat (field body 32 4)).toInt32,
    signalUserTime := (UInt64.ofNat (field body 40 8)).toInt64,
    signalSystemTime := (UInt64.ofNat (field body 48 8)).toInt64 }

/-- Envelope of an accepted body, by its type. -/
def envelopeOf (header : TraceEventV2Header) (body : List UInt8) : TraceEventEnvelope :=
  match header.eventType with
  | .unsupportedABI =>
    { eventVersion := 0, eventType := header.eventType, pid := header.pid, tid := header.tid,
      sysID := header.sysID }
  | .enter => enterEnvelopeOf header body
  | .exit => exitEnvelopeOf header body
  | .lifecycle => lifecycleEnvelopeOf header body
  | .signal => signalEnvelopeOf header body

/-- Scratch slice after a decode that started with it emptied: the sections of
the envelope, or nothing. -/
def scratchAfter (scratch : Option (List PayloadSection)) (outcome : Option TraceEventEnvelope) :
    Option (List PayloadSection) :=
  scratch.map fun _ => (outcome.map TraceEventEnvelope.payload).getD []

/-- The compact enter decoder follows its body rule. -/
theorem decodeTraceEventV2CompactEnterEnvelope_eq {header : TraceEventV2Header}
    {body : List UInt8} (hcompact : isCompact header.flags=true) :
    decodeTraceEventV2CompactEnterEnvelope header body=some
      (if BodyAccepted .enter header.flags body then some (enterEnvelopeOf header body)
        else none) := by
  have hargsSize : traceEventV2ArgsSize=48 := rfl
  have hbodyLen : traceEventV2CompactEnterBodyLen=48 := rfl
  have htests : (body.length≠traceEventV2CompactEnterBodyLen ∨
      header.flags.toUInt32 &&& bpfEventFlagGenericEnter=0 ∨
      header.flags.toUInt32 &&& bpfEventFlagPayloadTLV≠0) ↔
      ¬BodyAccepted .enter header.flags body := by
    simp only [BodyAccepted,hcompact,true_implies,Bool.true_eq_false,false_implies,and_true]
    tauto
  rw [decodeTraceEventV2CompactEnterEnvelope]
  by_cases haccepted : BodyAccepted .enter header.flags body
  · have hpass := fun hfail => (htests.mp hfail) haccepted
    have hlength := (haccepted.1 hcompact).1
    have hargs := traceEventV2Args_eq (show 0+traceEventV2ArgsSize ≤ body.length by omega)
    rw [if_neg hpass,if_pos haccepted,enterEnvelopeOf,if_pos hcompact]
    simp only [Option.bind_eq_bind,← Option.bind_assoc,hargs,Option.bind_some,Option.pure_def]
  · rw [if_pos (htests.mpr haccepted),if_neg haccepted]
    rfl

/-- The enter decoder follows the body rules. -/
theorem decodeTraceEventV2EnterEnvelope_eq {header : TraceEventV2Header} {body : List UInt8}
    (hlength : body.length < 2^32) (scratch : Option (List PayloadSection)) :
    ∃ outcome, decodeTraceEventV2EnterEnvelope header body (scratch.map fun _ => [])=
        some (outcome,scratchAfter scratch outcome) ∧
      outcome=if BodyAccepted .enter header.flags body then some (enterEnvelopeOf header body)
        else none := by
  have hargsSize : traceEventV2ArgsSize=48 := rfl
  have hbodyLen : traceEventV2EnterBodyLen=72 := rfl
  rw [decodeTraceEventV2EnterEnvelope]
  by_cases hcompact : header.flags.toUInt32 &&& bpfEventFlagCompactEnter≠0
  · have hflag : isCompact header.flags=true := by simpa [isCompact] using hcompact
    refine ⟨_,?_,rfl⟩
    rw [if_pos hcompact,decodeTraceEventV2CompactEnterEnvelope_eq hflag]
    split_ifs with haccepted
    · simp [scratchAfter,enterEnvelopeOf,hflag]
    · simp [scratchAfter]
  have hflag : isCompact header.flags=false := by simpa [isCompact] using hcompact
  have haccept : BodyAccepted .enter header.flags body ↔ traceEventV2EnterBodyLen ≤ body.length ∧
      field body 64 4 ≤ body.length-traceEventV2EnterBodyLen := by
    simp only [BodyAccepted,hflag,true_implies,Bool.false_eq_true,false_implies,true_and]
  rw [if_neg hcompact]
  by_cases hshort : body.length < traceEventV2EnterBodyLen
  · refine ⟨none,?_,?_⟩
    · rw [if_pos hshort]
      rfl
    · rw [if_neg (by rw [haccept]; omega)]
  have hret := uint64At_eq (show 0+8 ≤ body.length by omega)
  have henter := uint32At_eq (show 8+4 ≤ body.length by omega)
  have hexit := uint32At_eq (show 12+4 ≤ body.length by omega)
  have hargs := traceEventV2Args_eq (show 16+traceEventV2ArgsSize ≤ body.length by omega)
  have hcapture := uint32At_eq (show 64+4 ≤ body.length by omega)
  have hpayload := traceEventV2Payload_eq (UInt32.ofNat (field body 64 4))
    (show traceEventV2EnterBodyLen ≤ body.length by omega) hlength
  rw [toNat_field32] at hpayload
  rw [if_neg hshort]
  simp only [hret,henter,hexit,hcapture,hpayload,Option.bind_eq_bind,Option.bind_some,
    ← Option.bind_assoc,hargs]
  by_cases hfits : field body 64 4 ≤ body.length-traceEventV2EnterBodyLen
  · refine ⟨some (enterEnvelopeOf header body),?_,?_⟩
    · rw [if_pos hfits,enterEnvelopeOf,if_neg (by rw [hflag]; decide)]
      simp [payloadSectionsForRawPayloadEventInto_eq,scratchAfter,Function.comp_def]
    · rw [if_pos (haccept.mpr ⟨by omega,hfits⟩)]
  · refine ⟨none,?_,?_⟩
    · rw [if_neg hfits]
      rfl
    · rw [if_neg (by rw [haccept]; tauto)]

/-- The exit decoder follows the body rule. -/
theorem decodeTraceEventV2ExitEnvelope_eq {header : TraceEventV2Header} {body : List UInt8}
    (hlength : body.length < 2^32) (scratch : Option (List PayloadSection)) :
    ∃ outcome, decodeTraceEventV2ExitEnvelope header body (scratch.map fun _ => [])=
        some (outcome,scratchAfter scratch outcome) ∧
      outcome=if BodyAccepted .exit header.flags body then some (exitEnvelopeOf header body)
        else none := by
  have hargsSize : traceEventV2ArgsSize=48 := rfl
  have hbodyLen : traceEventV2ExitBodyLen=88 := rfl
  rw [decodeTraceEventV2ExitEnvelope]
  by_cases hshort : body.length < traceEventV2ExitBodyLen
  · have hreject : ¬BodyAccepted .exit header.flags body := fun h => absurd h.1 (by omega)
    refine ⟨none,?_,?_⟩
    · rw [if_pos hshort]
      rfl
    · rw [if_neg hreject]
  have hret := uint64At_eq (show 0+8 ≤ body.length by omega)
  have hduration := uint64At_eq (show 8+8 ≤ body.length by omega)
  have hcpu := uint64At_eq (show 80+8 ≤ body.length by omega)
  have hargs := traceEventV2Args_eq (show 16+traceEventV2ArgsSize ≤ body.length by omega)
  have hcapture := uint32At_eq (show 64+4 ≤ body.length by omega)
  have hstack := uint32At_eq (show 72+4 ≤ body.length by omega)
  have hkvm := uint32At_eq (show 76+4 ≤ body.length by omega)
  have hpayload := traceEventV2Payload_eq (UInt32.ofNat (field body 64 4))
    (show traceEventV2ExitBodyLen ≤ body.length by omega) hlength
  rw [toNat_field32] at hpayload
  rw [if_neg hshort]
  simp only [hret,hduration,hcpu,hcapture,hstack,hkvm,hpayload,Option.bind_eq_bind,
    Option.bind_some,← Option.bind_assoc,hargs]
  by_cases hfits : field body 64 4 ≤ body.length-traceEventV2ExitBodyLen
  · have haccept : BodyAccepted .exit header.flags body := ⟨by omega,hfits⟩
    refine ⟨some (exitEnvelopeOf header body),?_,?_⟩
    · rw [if_pos hfits,exitEnvelopeOf]
      simp [payloadSectionsForRawPayloadEventInto_eq,scratchAfter,Function.comp_def]
    · rw [if_pos haccept]
  · have hreject : ¬BodyAccepted .exit header.flags body := fun h => hfits h.2
    refine ⟨none,?_,?_⟩
    · rw [if_neg hfits]
      rfl
    · rw [if_neg hreject]

/-- The lifecycle decoder follows the body rule. -/
theorem decodeTraceEventV2LifecycleEnvelope_eq {header : TraceEventV2Header}
    {body : List UInt8} (hlength : body.length < 2^32) :
    decodeTraceEventV2LifecycleEnvelope header body=some
      (if BodyAccepted .lifecycle header.flags body then some (lifecycleEnvelopeOf header body)
        else none) := by
  have hargsSize : traceEventV2ArgsSize=48 := rfl
  have hbodyLen : traceEventV2LifecycleBodyLen=56 := rfl
  rw [decodeTraceEventV2LifecycleEnvelope]
  by_cases hshort : body.length < traceEventV2LifecycleBodyLen
  · have hreject : ¬BodyAccepted .lifecycle header.flags body := fun h => absurd h.1 (by omega)
    rw [if_pos hshort,if_neg hreject]
    rfl
  have haction := uint32At_eq (show 0+4 ≤ body.length by omega)
  have hcapture := uint32At_eq (show 4+4 ≤ body.length by omega)
  have hargs := traceEventV2Args_eq (show 8+traceEventV2ArgsSize ≤ body.length by omega)
  have hpayload := traceEventV2Payload_eq (UInt32.ofNat (field body 4 4))
    (show traceEventV2LifecycleBodyLen ≤ body.length by omega) hlength
  rw [toNat_field32] at hpayload
  rw [if_neg hshort]
  simp only [haction,hcapture,hpayload,Option.bind_eq_bind,Option.bind_some,← Option.bind_assoc,
    hargs]
  by_cases hfits : field body 4 4 ≤ body.length-traceEventV2LifecycleBodyLen
  · have haccept : BodyAccepted .lifecycle header.flags body := ⟨by omega,hfits⟩
    rw [if_pos hfits,if_pos haccept,lifecycleEnvelopeOf]
    rfl
  · have hreject : ¬BodyAccepted .lifecycle header.flags body := fun h => hfits h.2
    rw [if_neg hfits,if_neg hreject]
    rfl

/-- The signal decoder follows the body rule. -/
theorem decodeTraceEventV2SignalEnvelope_eq (header : TraceEventV2Header) (body : List UInt8) :
    decodeTraceEventV2SignalEnvelope header body=some
      (if BodyAccepted .signal header.flags body then some (signalEnvelopeOf header body)
        else none) := by
  have hbodyLen : traceEventV2SignalBodyLen=56 := rfl
  rw [decodeTraceEventV2SignalEnvelope]
  by_cases hexact : body.length=traceEventV2SignalBodyLen
  · have haccept : BodyAccepted .signal header.flags body := hexact
    rw [if_neg (fun hne => hne hexact),if_pos haccept,signalEnvelopeOf]
    simp only [uint32From_eq (show 0+4 ≤ body.length by omega),
      uint32From_eq (show 4+4 ≤ body.length by omega),
      uint32From_eq (show 8+4 ≤ body.length by omega),
      uint32From_eq (show 12+4 ≤ body.length by omega),
      uint32From_eq (show 16+4 ≤ body.length by omega),
      uint32From_eq (show 20+4 ≤ body.length by omega),
      uint64From_eq (show 24+8 ≤ body.length by omega),
      uint32From_eq (show 32+4 ≤ body.length by omega),
      uint64From_eq (show 40+8 ≤ body.length by omega),
      uint64From_eq (show 48+8 ≤ body.length by omega),Option.bind_eq_bind,Option.bind_some,
      Option.pure_def]
  · have hreject : ¬BodyAccepted .signal header.flags body := hexact
    rw [if_pos hexact,if_neg hreject]
    rfl

/-- The body decoder of every type follows the rule of that type. -/
theorem decodeTraceEventV2Body_eq (header : TraceEventV2Header) {body : List UInt8}
    (hlength : body.length < 2^32) (scratch : Option (List PayloadSection)) :
    ∃ outcome, decodeTraceEventV2Body header body (scratch.map fun _ => [])=
        some (outcome,scratchAfter scratch outcome) ∧
      outcome=if BodyAccepted header.eventType header.flags body then some (envelopeOf header body)
        else none := by
  unfold decodeTraceEventV2Body envelopeOf
  cases hkind : header.eventType with
  | enter => exact decodeTraceEventV2EnterEnvelope_eq hlength scratch
  | exit => exact decodeTraceEventV2ExitEnvelope_eq hlength scratch
  | lifecycle =>
    refine ⟨_,?_,rfl⟩
    dsimp only
    rw [decodeTraceEventV2LifecycleEnvelope_eq hlength]
    split_ifs with haccepted
    · simp [scratchAfter,lifecycleEnvelopeOf]
    · simp [scratchAfter]
  | signal =>
    refine ⟨_,?_,rfl⟩
    dsimp only
    rw [decodeTraceEventV2SignalEnvelope_eq]
    split_ifs with haccepted
    · simp [scratchAfter,signalEnvelopeOf]
    · simp [scratchAfter]
  | unsupportedABI =>
    refine ⟨_,?_,rfl⟩
    by_cases hempty : body.length=0
    · simp [decodeTraceEventV2UnsupportedABI,BodyAccepted,hempty,hkind,scratchAfter]
    · simp [decodeTraceEventV2UnsupportedABI,BodyAccepted,hempty,scratchAfter]

/-- A byte string the decoder accepts: its header and the body of its type pass. -/
def Accepted (rawSample : List UInt8) : Prop :=
  HeaderAccepted rawSample ∧ ∃ eventType, eventTypeOf rawSample=some eventType ∧
    BodyAccepted eventType (UInt16.ofNat (field rawSample 4 2)) (bodyOf rawSample)

/-- A body cut out by a size field is shorter than 2^32 bytes. -/
theorem length_bodyOf_lt (rawSample : List UInt8) : (bodyOf rawSample).length < 2^32 := by
  have hsize : declaredSize rawSample < 256^4 := field_lt rawSample 8 4
  rw [bodyOf,List.length_take]
  omega

/-- The decoder returns on every byte string, with an envelope exactly for the
accepted ones. -/
theorem decodeTraceEventV2EnvelopeInto_eq (rawSample : List UInt8)
    (scratch : Option (List PayloadSection)) :
    ∃ outcome, decodeTraceEventV2EnvelopeInto rawSample scratch=
        some (outcome,scratchAfter scratch outcome) ∧
      (outcome.isSome ↔ Accepted rawSample) ∧
      ∀ eventType, eventTypeOf rawSample=some eventType → Accepted rawSample →
        outcome=some (stampHeader (headerOf rawSample eventType)
          (envelopeOf (headerOf rawSample eventType) (bodyOf rawSample))) := by
  unfold decodeTraceEventV2EnvelopeInto
  rw [decodeTraceEventV2Header_eq]
  by_cases hheader : HeaderAccepted rawSample
  · obtain ⟨eventType,hkind⟩ := Option.isSome_iff_exists.mp hheader.2.2.1
    obtain ⟨outcome,hdecode,houtcome⟩ := decodeTraceEventV2Body_eq (headerOf rawSample eventType)
      (length_bodyOf_lt rawSample) scratch
    have hiff : Accepted rawSample ↔ BodyAccepted (headerOf rawSample eventType).eventType
        (headerOf rawSample eventType).flags (bodyOf rawSample) := by
      constructor
      · intro h
        obtain ⟨other,hother,hbody⟩ := h.2
        have hsame : other=eventType := Option.some.inj (hother.symm.trans hkind)
        rw [hsame] at hbody
        exact hbody
      · intro hbody
        exact ⟨hheader,eventType,hkind,hbody⟩
    refine ⟨outcome.map (stampHeader (headerOf rawSample eventType)),?_,?_,?_⟩
    · rw [if_pos hheader,hkind]
      simp only [Option.map_some,Option.bind_eq_bind,Option.bind_some,hdecode,Option.pure_def]
      cases outcome <;> rfl
    · rw [hiff,houtcome]
      split_ifs with hbody
      · simp [hbody]
      · simp [hbody]
    · intro other hother haccepted
      have hsame : eventType=other := Option.some.inj (hkind.symm.trans hother)
      rw [houtcome,if_pos (hiff.mp haccepted),← hsame,Option.map_some]
  · refine ⟨none,?_,?_,?_⟩
    · rw [if_neg hheader]
      rfl
    · simp [Accepted,hheader]
    · intro eventType hkind haccepted
      exact absurd haccepted.1 hheader

/-- Integrity fields of a current or longer header. -/
structure WireIntegrity where
  /-- Producing cpu. -/
  cpu : UInt32
  /-- Reserved word. -/
  reserved : UInt32
  /-- Producer loss epoch. -/
  lossEpoch : UInt64
  /-- First producer loss time. -/
  lossTimeNS : UInt64
  /-- Header bytes of later producers. -/
  extension : List UInt8

/-- Header fields a producer writes. -/
structure WireHeader where
  /-- Flag bits. -/
  flags : UInt16
  /-- Thread group. -/
  pid : UInt32
  /-- Thread. -/
  tid : UInt32
  /-- Syscall number. -/
  sysID : UInt32
  /-- Per-cpu sequence. -/
  seq : UInt64
  /-- Timestamp. -/
  tsNs : UInt64
  /-- Task name array. -/
  comm : Vector UInt8 16
  /-- Integrity fields, absent in the base header. -/
  integrity : Option WireIntegrity

/-- Body a producer writes: the fields of its type, the captured bytes, and
the zero bytes up to the reserved size. -/
inductive WireBody where
  /-- Enter record. -/
  | enter (ret : Int64) (probeRetEnter probeRetExit : Int32) (args : SyscallArgs)
      (captureFlags : UInt32) (payload : List UInt8) (padding : ℕ)
  /-- Enter record with arguments only. -/
  | compactEnter (args : SyscallArgs)
  /-- Exit record. -/
  | exit (ret : Int64) (duration : UInt64) (args : SyscallArgs) (captureFlags : UInt32)
      (stackID : Int32) (reserved : UInt32) (cpuDuration : UInt64) (payload : List UInt8)
      (padding : ℕ)
  /-- Lifecycle record. -/
  | lifecycle (action : UInt32) (args : SyscallArgs) (payload : List UInt8) (padding : ℕ)
  /-- Signal record. -/
  | signal (signo : UInt32) (error code : Int32) (senderPID senderUID : UInt32)
      (stackID : Int32) (address : UInt64) (status : Int32) (reserved : UInt32)
      (userTime systemTime : Int64)
  /-- Unsupported-ABI record. -/
  | unsupportedABI

/-- Record kind of a body. -/
def WireBody.eventType : WireBody → EventType
  | .enter .. => .enter
  | .compactEnter .. => .enter
  | .exit .. => .exit
  | .lifecycle .. => .lifecycle
  | .signal .. => .signal
  | .unsupportedABI => .unsupportedABI

/-- The six arguments in wire order. -/
def encodeArgs (args : SyscallArgs) : List (List UInt8) :=
  [bytes 8 args[0].toNat,bytes 8 args[1].toNat,bytes 8 args[2].toNat,bytes 8 args[3].toNat,
    bytes 8 args[4].toNat,bytes 8 args[5].toNat]

/-- Fixed fields of a body in wire order. -/
def WireBody.pieces : WireBody → List (List UInt8)
  | .enter ret probeRetEnter probeRetExit args captureFlags payload _ =>
    [bytes 8 ret.toUInt64.toNat,bytes 4 probeRetEnter.toUInt32.toNat,
      bytes 4 probeRetExit.toUInt32.toNat]++encodeArgs args++
      [bytes 4 payload.length,bytes 4 captureFlags.toNat]
  | .compactEnter args => encodeArgs args
  | .exit ret duration args captureFlags stackID reserved cpuDuration payload _ =>
    [bytes 8 ret.toUInt64.toNat,bytes 8 duration.toNat]++encodeArgs args++
      [bytes 4 payload.length,bytes 4 captureFlags.toNat,bytes 4 stackID.toUInt32.toNat,
        bytes 4 reserved.toNat,bytes 8 cpuDuration.toNat]
  | .lifecycle action args payload _ =>
    [bytes 4 action.toNat,bytes 4 payload.length]++encodeArgs args
  | .signal signo error code senderPID senderUID stackID address status reserved userTime
      systemTime =>
    [bytes 4 signo.toNat,bytes 4 error.toUInt32.toNat,bytes 4 code.toUInt32.toNat,
      bytes 4 senderPID.toNat,bytes 4 senderUID.toNat,bytes 4 stackID.toUInt32.toNat,
      bytes 8 address.toNat,bytes 4 status.toUInt32.toNat,bytes 4 reserved.toNat,
      bytes 8 userTime.toUInt64.toNat,bytes 8 systemTime.toUInt64.toNat]
  | .unsupportedABI => []

/-- Captured bytes and padding behind the fixed fields. -/
def WireBody.tail : WireBody → List UInt8
  | .enter _ _ _ _ _ payload padding => payload++List.replicate padding 0
  | .exit _ _ _ _ _ _ _ payload padding => payload++List.replicate padding 0
  | .lifecycle _ _ payload padding => payload++List.replicate padding 0
  | _ => []

/-- Body bytes of a record. -/
def WireBody.encode (body : WireBody) : List UInt8 := body.pieces.flatten++body.tail

/-- Bytes of a header. -/
def WireHeader.length (header : WireHeader) : ℕ :=
  match header.integrity with
  | none => traceEventV2BaseHeaderLen
  | some integrity => traceEventV2HeaderLen+integrity.extension.length

/-- Integrity fields in wire order. -/
def WireHeader.integrityPieces (header : WireHeader) : List (List UInt8) :=
  match header.integrity with
  | none => []
  | some integrity =>
    [bytes 4 integrity.cpu.toNat,bytes 4 integrity.reserved.toNat,
      bytes 8 integrity.lossEpoch.toNat,bytes 8 integrity.lossTimeNS.toNat,integrity.extension]

/-- A record of a producer. -/
structure WireRecord where
  /-- Header fields. -/
  header : WireHeader
  /-- Body of the record's type. -/
  body : WireBody

/-- Declared size of a record. -/
def WireRecord.size (record : WireRecord) : ℕ := record.header.length+record.body.encode.length

/-- Header fields in wire order. -/
def WireRecord.headerPieces (record : WireRecord) : List (List UInt8) :=
  [bytes 2 2,bytes 2 (bpfEventType record.body.eventType).toNat,bytes 2 record.header.flags.toNat,
    bytes 2 record.header.length,bytes 4 record.size,bytes 4 record.header.pid.toNat,
    bytes 4 record.header.tid.toNat,bytes 4 record.header.sysID.toNat,
    bytes 8 record.header.seq.toNat,bytes 8 record.header.tsNs.toNat,record.header.comm.toList]++
    record.header.integrityPieces

/-- Bytes of a record. -/
def WireRecord.encode (record : WireRecord) : List UInt8 :=
  record.headerPieces.flatten++record.body.encode

/-- Decoded header of a written record. -/
def WireRecord.decodedHeader (record : WireRecord) : TraceEventV2Header :=
  { legacy := record.header.integrity.isNone
    seq := record.header.seq
    cpu := (record.header.integrity.map WireIntegrity.cpu).getD 0
    lossEpoch := (record.header.integrity.map WireIntegrity.lossEpoch).getD 0
    lossTimeNS := (record.header.integrity.map WireIntegrity.lossTimeNS).getD 0
    version := traceEventV2Version
    eventType := record.body.eventType
    flags := record.header.flags
    pid := record.header.pid
    tid := record.header.tid
    sysID := record.header.sysID
    tsNs := record.header.tsNs
    comm := decodeTraceEventV2Comm record.header.comm.toList }

/-- Envelope of a written body. Lifecycle and signal records have no syscall
number, and an unsupported-ABI record only names its task and syscall. -/
def WireBody.envelope (body : WireBody) (header : TraceEventV2Header) : TraceEventEnvelope :=
  let common : TraceEventEnvelope :=
    { eventVersion := header.version, pid := header.pid, tid := header.tid, comm := header.comm,
      eventType := header.eventType, enterTime := header.tsNs }
  match body with
  | .enter ret probeRetEnter probeRetExit args _ payload _ =>
    { common with
      sysID := header.sysID, eventFlags := header.flags.toUInt32, args := args, ret := ret,
      probeRetEnter := probeRetEnter, probeRetExit := probeRetExit,
      payload := sectionsOf header.flags.toUInt32 payload }
  | .compactEnter args =>
    { common with
      sysID := header.sysID, eventFlags := header.flags.toUInt32, args := args,
      probeRetEnter := -1, probeRetExit := -1 }
  | .exit ret duration args _ stackID reserved cpuDuration payload _ =>
    { common with
      sysID := header.sysID, eventFlags := header.flags.toUInt32, args := args, ret := ret,
      enterTime := BpfPendingState.traceEventV2EnterTime header.tsNs duration,
      duration := duration, cpuDuration := cpuDuration, stackID := stackID,
      kvmExitReason := reserved, payload := sectionsOf header.flags.toUInt32 payload }
  | .lifecycle action args payload _ =>
    { common with
      eventFlags := header.flags.toUInt32, lifecycleAction := action,
      args := lifecycleArgs action args, snapshotText := lifecycleSnapshotString payload }
  | .signal signo error code senderPID senderUID stackID address status _ userTime systemTime =>
    { common with
      signal := signo, signalErr := error, signalCode := code, senderPID := senderPID,
      senderUID := senderUID, stackID := stackID, signalAddress := address,
      signalStatus := status, signalUserTime := userTime, signalSystemTime := systemTime }
  | .unsupportedABI =>
    { eventVersion := 0, eventType := header.eventType, pid := header.pid, tid := header.tid,
      sysID := header.sysID }

/-- Flag bits that the shape of a body asks for. -/
def WireBody.FlagsAgree (body : WireBody) (flags : UInt16) : Prop :=
  match body with
  | .enter .. => isCompact flags=false
  | .compactEnter .. => isCompact flags=true ∧ flags.toUInt32 &&& bpfEventFlagGenericEnter≠0 ∧
      flags.toUInt32 &&& bpfEventFlagPayloadTLV=0
  | _ => True

/-- Records whose lengths fit their fields and whose flags agree with the body. -/
def WireRecord.Fits (record : WireRecord) : Prop :=
  record.header.length < 2^16 ∧ record.size < 2^32 ∧
    record.body.FlagsAgree record.header.flags

/-- Arguments behind a front are read back. -/
theorem argsAt_encodeArgs (front : List UInt8) (args : SyscallArgs) (rest : List UInt8) :
    argsAt (front++((encodeArgs args).flatten++rest)) front.length=args := by
  have hread : ∀ (index : ℕ) (h : index < 6), field (front++((encodeArgs args).flatten++rest))
      (front.length+8*index) 8=args[index].toNat := by
    intro index h
    rw [field_behind]
    have hword : args[index].toNat < 256^8 := UInt64.toNat_lt _
    interval_cases index
    · exact field_piece (encodeArgs args) 0 rfl rfl hword rest
    · exact field_piece (encodeArgs args) 1 rfl rfl hword rest
    · exact field_piece (encodeArgs args) 2 rfl rfl hword rest
    · exact field_piece (encodeArgs args) 3 rfl rfl hword rest
    · exact field_piece (encodeArgs args) 4 rfl rfl hword rest
    · exact field_piece (encodeArgs args) 5 rfl rfl hword rest
  have h0 := hread 0 (by omega)
  have h1 := hread 1 (by omega)
  have h2 := hread 2 (by omega)
  have h3 := hread 3 (by omega)
  have h4 := hread 4 (by omega)
  have h5 := hread 5 (by omega)
  simp only [Nat.mul_zero,Nat.mul_one,Nat.reduceMul] at h0 h1 h2 h3 h4 h5
  rw [argsAt,h0,h1,h2,h3,h4,h5]
  simp only [UInt64.ofNat_toNat]
  ext index hindex
  refine congrArg UInt64.toNat (Eq.trans ?_ (args.getD_eq_get hindex))
  interval_cases index <;> rfl

/-- Widths of the fixed fields of a body. -/
def WireBody.widths : WireBody → List ℕ
  | .enter .. => [8,4,4,8,8,8,8,8,8,4,4]
  | .compactEnter .. => [8,8,8,8,8,8]
  | .exit .. => [8,8,8,8,8,8,8,8,4,4,4,4,8]
  | .lifecycle .. => [4,4,8,8,8,8,8,8]
  | .signal .. => [4,4,4,4,4,4,8,4,4,8,8]
  | .unsupportedABI => []

/-- The fixed fields have their widths. -/
theorem WireBody.map_length (body : WireBody) : body.pieces.map List.length=body.widths := by
  cases body <;> simp [WireBody.pieces,WireBody.widths,encodeArgs]

/-- A number written in a fixed field of a body is read back. -/
theorem field_encode (body : WireBody) (index : ℕ) {offset width n : ℕ}
    (hpiece : body.pieces[index]?=some (bytes width n))
    (hoffset : (body.widths.take index).sum=offset) (hn : n < 256^width) :
    field body.encode offset width=n := by
  rw [← offsetOf_widths body.map_length] at hoffset
  exact field_piece body.pieces index hpiece hoffset hn body.tail

/-- Arguments in the middle of the fixed fields are read back. -/
theorem args_encode {body : WireBody} {args : SyscallArgs} {front back : List (List UInt8)}
    {offset : ℕ} (hpieces : body.pieces=front++encodeArgs args++back)
    (hoffset : front.flatten.length=offset) : argsAt body.encode offset=args := by
  have hencode : body.encode=
      front.flatten++((encodeArgs args).flatten++(back.flatten++body.tail)) := by
    rw [WireBody.encode,hpieces]
    simp only [List.flatten_append,List.append_assoc]
  rw [hencode,← hoffset]
  exact argsAt_encodeArgs front.flatten args (back.flatten++body.tail)

/-- Captured bytes behind the fixed fields are cut out. -/
theorem captured_encode {body : WireBody} {payload rest : List UInt8} {bodyLen : ℕ}
    (htail : body.tail=payload++rest) (hlength : body.widths.sum=bodyLen) :
    captured body.encode bodyLen payload.length=payload := by
  rw [captured,WireBody.encode,← hlength,← body.map_length,← List.length_flatten,List.drop_left,
    htail,List.take_left]

/-- A body with captured bytes is as long as its parts. -/
theorem length_encode {body : WireBody} {payload : List UInt8} {padding bodyLen : ℕ}
    (htail : body.tail=payload++List.replicate padding 0)
    (hlength : body.widths.sum=bodyLen) :
    body.encode.length=bodyLen+payload.length+padding := by
  rw [WireBody.encode,List.length_append,List.length_flatten,body.map_length,hlength,htail,
    List.length_append,List.length_replicate,
    Nat.add_assoc]

/-- The envelope of a written enter body. -/
theorem enterEnvelopeOf_enter {header : TraceEventV2Header} (ret : Int64)
    (probeRetEnter probeRetExit : Int32) (args : SyscallArgs) (captureFlags : UInt32)
    {payload : List UInt8} (padding : ℕ) (hcompact : isCompact header.flags=false)
    (hpayload : payload.length < 2^32) :
    enterEnvelopeOf header
      (WireBody.enter ret probeRetEnter probeRetExit args captureFlags payload padding).encode=
    (WireBody.enter ret probeRetEnter probeRetExit args captureFlags payload padding).envelope
      header := by
  obtain ⟨body,hbody⟩ : ∃ body, body=
    WireBody.enter ret probeRetEnter probeRetExit args captureFlags payload padding := ⟨_,rfl⟩
  have hret : field body.encode 0 8=ret.toUInt64.toNat :=
    field_encode body 0 (by rw [hbody]; rfl) (by rw [hbody]; rfl) (UInt64.toNat_lt _)
  have henter : field body.encode 8 4=probeRetEnter.toUInt32.toNat :=
    field_encode body 1 (by rw [hbody]; rfl) (by rw [hbody]; rfl) (UInt32.toNat_lt _)
  have hexit : field body.encode 12 4=probeRetExit.toUInt32.toNat :=
    field_encode body 2 (by rw [hbody]; rfl) (by rw [hbody]; rfl) (UInt32.toNat_lt _)
  have hcapture : field body.encode 64 4=payload.length :=
    field_encode body 9 (by rw [hbody]; rfl) (by rw [hbody]; rfl) hpayload
  have hcaptured : captured body.encode traceEventV2EnterBodyLen payload.length=payload :=
    captured_encode (by rw [hbody]; rfl) (by rw [hbody]; rfl)
  have hargs : argsAt body.encode 16=args := by
    rw [hbody]
    exact args_encode rfl rfl
  rw [← hbody,enterEnvelopeOf,if_neg (by rw [hcompact]; decide),hret,henter,hexit,hcapture,
    hcaptured,hargs]
  simp only [hbody,WireBody.envelope,UInt64.ofNat_toNat,UInt32.ofNat_toNat,
    Int64.toInt64_toUInt64,Int32.toInt32_toUInt32,traceEventV2EventFlags]

/-- The envelope of a written compact enter body. -/
theorem enterEnvelopeOf_compactEnter {header : TraceEventV2Header} (args : SyscallArgs)
    (hcompact : isCompact header.flags=true) :
    enterEnvelopeOf header (WireBody.compactEnter args).encode=
      (WireBody.compactEnter args).envelope header := by
  have hpieces : (WireBody.compactEnter args).pieces=[]++encodeArgs args++[] := by
    simp only [WireBody.pieces,List.nil_append,List.append_nil]
  have hargs : argsAt (WireBody.compactEnter args).encode 0=args := args_encode hpieces rfl
  rw [enterEnvelopeOf,if_pos hcompact,hargs]
  rfl

/-- The envelope of a written exit body. -/
theorem exitEnvelopeOf_exit {header : TraceEventV2Header} (ret : Int64) (duration : UInt64)
    (args : SyscallArgs) (captureFlags : UInt32) (stackID : Int32) (reserved : UInt32)
    (cpuDuration : UInt64) {payload : List UInt8} (padding : ℕ)
    (hpayload : payload.length < 2^32) :
    exitEnvelopeOf header
      (WireBody.exit ret duration args captureFlags stackID reserved cpuDuration payload
        padding).encode=
    (WireBody.exit ret duration args captureFlags stackID reserved cpuDuration payload
      padding).envelope header := by
  obtain ⟨body,hbody⟩ : ∃ body, body=
    WireBody.exit ret duration args captureFlags stackID reserved cpuDuration payload padding :=
    ⟨_,rfl⟩
  have hret : field body.encode 0 8=ret.toUInt64.toNat :=
    field_encode body 0 (by rw [hbody]; rfl) (by rw [hbody]; rfl) (UInt64.toNat_lt _)
  have hduration : field body.encode 8 8=duration.toNat :=
    field_encode body 1 (by rw [hbody]; rfl) (by rw [hbody]; rfl) (UInt64.toNat_lt _)
  have hcapture : field body.encode 64 4=payload.length :=
    field_encode body 8 (by rw [hbody]; rfl) (by rw [hbody]; rfl) hpayload
  have hstack : field body.encode 72 4=stackID.toUInt32.toNat :=
    field_encode body 10 (by rw [hbody]; rfl) (by rw [hbody]; rfl) (UInt32.toNat_lt _)
  have hreserved : field body.encode 76 4=reserved.toNat :=
    field_encode body 11 (by rw [hbody]; rfl) (by rw [hbody]; rfl) (UInt32.toNat_lt _)
  have hcpu : field body.encode 80 8=cpuDuration.toNat :=
    field_encode body 12 (by rw [hbody]; rfl) (by rw [hbody]; rfl) (UInt64.toNat_lt _)
  have hcaptured : captured body.encode traceEventV2ExitBodyLen payload.length=payload :=
    captured_encode (by rw [hbody]; rfl) (by rw [hbody]; rfl)
  have hargs : argsAt body.encode 16=args := by
    rw [hbody]
    exact args_encode rfl rfl
  rw [← hbody,exitEnvelopeOf,hret,hduration,hcapture,hstack,hreserved,hcpu,hcaptured,hargs]
  simp only [hbody,WireBody.envelope,UInt64.ofNat_toNat,UInt32.ofNat_toNat,
    Int64.toInt64_toUInt64,Int32.toInt32_toUInt32,traceEventV2EventFlags]

/-- The envelope of a written lifecycle body. -/
theorem lifecycleEnvelopeOf_lifecycle {header : TraceEventV2Header} (action : UInt32)
    (args : SyscallArgs) {payload : List UInt8} (padding : ℕ)
    (hpayload : payload.length < 2^32) :
    lifecycleEnvelopeOf header (WireBody.lifecycle action args payload padding).encode=
      (WireBody.lifecycle action args payload padding).envelope header := by
  obtain ⟨body,hbody⟩ : ∃ body, body=WireBody.lifecycle action args payload padding := ⟨_,rfl⟩
  have haction : field body.encode 0 4=action.toNat :=
    field_encode body 0 (by rw [hbody]; rfl) (by rw [hbody]; rfl) (UInt32.toNat_lt _)
  have hcapture : field body.encode 4 4=payload.length :=
    field_encode body 1 (by rw [hbody]; rfl) (by rw [hbody]; rfl) hpayload
  have hcaptured : captured body.encode traceEventV2LifecycleBodyLen payload.length=payload :=
    captured_encode (by rw [hbody]; rfl) (by rw [hbody]; rfl)
  have hpieces : body.pieces=
      [bytes 4 action.toNat,bytes 4 payload.length]++encodeArgs args++[] := by
    rw [hbody,List.append_nil]
    rfl
  have hargs : argsAt body.encode 8=args := args_encode hpieces rfl
  rw [← hbody,lifecycleEnvelopeOf,haction,hcapture,hcaptured,hargs]
  simp only [hbody,WireBody.envelope,UInt32.ofNat_toNat,traceEventV2EventFlags]

/-- The envelope of a written signal body. -/
theorem signalEnvelopeOf_signal {header : TraceEventV2Header} (signo : UInt32)
    (error code : Int32) (senderPID senderUID : UInt32) (stackID : Int32) (address : UInt64)
    (status : Int32) (reserved : UInt32) (userTime systemTime : Int64) :
    signalEnvelopeOf header
      (WireBody.signal signo error code senderPID senderUID stackID address status reserved
        userTime systemTime).encode=
    (WireBody.signal signo error code senderPID senderUID stackID address status reserved
      userTime systemTime).envelope header := by
  obtain ⟨body,hbody⟩ : ∃ body, body=WireBody.signal signo error code senderPID senderUID
    stackID address status reserved userTime systemTime := ⟨_,rfl⟩
  have hsigno : field body.encode 0 4=signo.toNat :=
    field_encode body 0 (by rw [hbody]; rfl) (by rw [hbody]; rfl) (UInt32.toNat_lt _)
  have herror : field body.encode 4 4=error.toUInt32.toNat :=
    field_encode body 1 (by rw [hbody]; rfl) (by rw [hbody]; rfl) (UInt32.toNat_lt _)
  have hcode : field body.encode 8 4=code.toUInt32.toNat :=
    field_encode body 2 (by rw [hbody]; rfl) (by rw [hbody]; rfl) (UInt32.toNat_lt _)
  have hpid : field body.encode 12 4=senderPID.toNat :=
    field_encode body 3 (by rw [hbody]; rfl) (by rw [hbody]; rfl) (UInt32.toNat_lt _)
  have huid : field body.encode 16 4=senderUID.toNat :=
    field_encode body 4 (by rw [hbody]; rfl) (by rw [hbody]; rfl) (UInt32.toNat_lt _)
  have hstack : field body.encode 20 4=stackID.toUInt32.toNat :=
    field_encode body 5 (by rw [hbody]; rfl) (by rw [hbody]; rfl) (UInt32.toNat_lt _)
  have haddress : field body.encode 24 8=address.toNat :=
    field_encode body 6 (by rw [hbody]; rfl) (by rw [hbody]; rfl) (UInt64.toNat_lt _)
  have hstatus : field body.encode 32 4=status.toUInt32.toNat :=
    field_encode body 7 (by rw [hbody]; rfl) (by rw [hbody]; rfl) (UInt32.toNat_lt _)
  have huser : field body.encode 40 8=userTime.toUInt64.toNat :=
    field_encode body 9 (by rw [hbody]; rfl) (by rw [hbody]; rfl) (UInt64.toNat_lt _)
  have hsystem : field body.encode 48 8=systemTime.toUInt64.toNat :=
    field_encode body 10 (by rw [hbody]; rfl) (by rw [hbody]; rfl) (UInt64.toNat_lt _)
  rw [← hbody,signalEnvelopeOf,hsigno,herror,hcode,hpid,huid,hstack,haddress,hstatus,huser,
    hsystem]
  simp only [hbody,WireBody.envelope,UInt64.ofNat_toNat,UInt32.ofNat_toNat,
    Int64.toInt64_toUInt64,Int32.toInt32_toUInt32]

/-- The envelope read off a written body is the envelope of its fields. -/
theorem envelopeOf_encode {body : WireBody} (header : TraceEventV2Header)
    (hkind : header.eventType=body.eventType) (hflags : body.FlagsAgree header.flags)
    (hlength : body.encode.length < 2^32) :
    envelopeOf header body.encode=body.envelope header := by
  unfold envelopeOf
  rw [hkind]
  cases body with
  | enter ret probeRetEnter probeRetExit args captureFlags payload padding =>
    rw [length_encode rfl rfl] at hlength
    exact enterEnvelopeOf_enter ret probeRetEnter probeRetExit args captureFlags padding hflags
      (by omega)
  | compactEnter args => exact enterEnvelopeOf_compactEnter args hflags.1
  | exit ret duration args captureFlags stackID reserved cpuDuration payload padding =>
    rw [length_encode rfl rfl] at hlength
    exact exitEnvelopeOf_exit ret duration args captureFlags stackID reserved cpuDuration padding
      (by omega)
  | lifecycle action args payload padding =>
    rw [length_encode rfl rfl] at hlength
    exact lifecycleEnvelopeOf_lifecycle action args padding (by omega)
  | signal signo error code senderPID senderUID stackID address status reserved userTime
      systemTime =>
    exact signalEnvelopeOf_signal signo error code senderPID senderUID stackID address status
      reserved userTime systemTime
  | unsupportedABI => simp [hkind,WireBody.eventType,WireBody.envelope]

/-- A capture length written for the captured bytes passes the bound on it. -/
theorem capture_accepted {body : WireBody} {payload : List UInt8} {padding bodyLen : ℕ}
    (index : ℕ) {offset : ℕ} (htail : body.tail=payload++List.replicate padding 0)
    (hpieces : body.widths.sum=bodyLen)
    (hpiece : body.pieces[index]?=some (bytes 4 payload.length))
    (hoffset : (body.widths.take index).sum=offset) (hlength : body.encode.length < 2^32) :
    bodyLen ≤ body.encode.length ∧ field body.encode offset 4 ≤ body.encode.length-bodyLen := by
  have hsum := length_encode htail hpieces
  have hread : field body.encode offset 4=payload.length :=
    field_encode body index hpiece hoffset (show payload.length < 256^4 by omega)
  omega

/-- A body whose length fits the size field passes the rule of its type. -/
theorem WireBody.accepted {body : WireBody} {flags : UInt16} (hflags : body.FlagsAgree flags)
    (hlength : body.encode.length < 2^32) : BodyAccepted body.eventType flags body.encode := by
  cases body with
  | enter ret probeRetEnter probeRetExit args captureFlags payload padding =>
    have hcompact : isCompact flags=false := hflags
    have hcapture := capture_accepted 9 rfl rfl rfl rfl hlength
    refine ⟨?_,fun _ => hcapture⟩
    intro hother
    rw [hcompact] at hother
    exact absurd hother (by decide)
  | compactEnter args =>
    have hlong : (WireBody.compactEnter args).encode.length=traceEventV2CompactEnterBodyLen := rfl
    refine ⟨fun _ => ⟨hlong,hflags.2.1,hflags.2.2⟩,?_⟩
    intro hother
    rw [hflags.1] at hother
    exact absurd hother (by decide)
  | exit ret duration args captureFlags stackID reserved cpuDuration payload padding =>
    exact capture_accepted 8 rfl rfl rfl rfl hlength
  | lifecycle action args payload padding => exact capture_accepted 1 rfl rfl rfl rfl hlength
  | signal signo error code senderPID senderUID stackID address status reserved userTime
      systemTime =>
    exact rfl
  | unsupportedABI => exact rfl

/-- Widths of the header fields of a record. -/
def WireRecord.headerWidths (record : WireRecord) : List ℕ :=
  [2,2,2,2,4,4,4,4,8,8,16]++record.header.integrityPieces.map List.length

/-- The header fields have their widths. -/
theorem WireRecord.map_length (record : WireRecord) :
    record.headerPieces.map List.length=record.headerWidths := by
  simp [WireRecord.headerPieces,WireRecord.headerWidths]

/-- A number written in a header field is read back, whatever follows. -/
theorem field_header (record : WireRecord) (index : ℕ) {offset width n : ℕ}
    (hpiece : record.headerPieces[index]?=some (bytes width n))
    (hoffset : (record.headerWidths.take index).sum=offset) (hn : n < 256^width)
    (slack : List UInt8) : field (record.encode++slack) offset width=n := by
  rw [← offsetOf_widths record.map_length] at hoffset
  rw [WireRecord.encode,List.append_assoc]
  exact field_piece record.headerPieces index hpiece hoffset hn (record.body.encode++slack)

/-- The kind codes are read back. -/
theorem eventTypeFromCode_bpfEventType (eventType : EventType) :
    eventTypeFromCode (bpfEventType eventType)=some eventType := by
  cases eventType <;> decide

/-- A header is as long as it declares. -/
theorem length_headerPieces (record : WireRecord) :
    record.headerPieces.flatten.length=record.header.length := by
  unfold WireRecord.headerPieces WireHeader.length WireHeader.integrityPieces
  cases record.header.integrity with
  | none => simp [traceEventV2BaseHeaderLen]
  | some integrity =>
    simp only [List.flatten_append,List.length_append,List.flatten_cons,List.flatten_nil,
      length_bytes,Vector.length_toList,List.length_nil,traceEventV2HeaderLen]
    omega

/-- A record is as long as it declares. -/
theorem WireRecord.length_encode (record : WireRecord) : record.encode.length=record.size := by
  rw [WireRecord.encode,List.length_append,length_headerPieces,WireRecord.size]

/-- The written kind is read back. -/
theorem eventTypeOf_encode (record : WireRecord) (slack : List UInt8) :
    eventTypeOf (record.encode++slack)=some record.body.eventType := by
  have hcode : field (record.encode++slack) 2 2=(bpfEventType record.body.eventType).toNat :=
    field_header record 1 rfl rfl (UInt16.toNat_lt _) slack
  rw [eventTypeOf,hcode,UInt16.ofNat_toNat,eventTypeFromCode_bpfEventType]

section Written

variable {record : WireRecord} (hfits : record.Fits) (slack : List UInt8)

include hfits

theorem declaredHeaderLen_encode :
    declaredHeaderLen (record.encode++slack)=record.header.length :=
  field_header record 3 rfl rfl hfits.1 slack

theorem declaredSize_encode : declaredSize (record.encode++slack)=record.size :=
  field_header record 4 rfl rfl hfits.2.1 slack

theorem bodyOf_encode : bodyOf (record.encode++slack)=record.body.encode := by
  rw [bodyOf,declaredHeaderLen_encode hfits slack,declaredSize_encode hfits slack,
    WireRecord.size,Nat.add_sub_cancel_left,WireRecord.encode,List.append_assoc,
    ← length_headerPieces,List.drop_left,List.take_left]

/-- The written integrity fields are read back; the base header has none. -/
theorem integrity_encode :
    (headerOf (record.encode++slack) record.body.eventType).legacy=
      record.decodedHeader.legacy ∧
    (headerOf (record.encode++slack) record.body.eventType).cpu=record.decodedHeader.cpu ∧
    (headerOf (record.encode++slack) record.body.eventType).lossEpoch=
      record.decodedHeader.lossEpoch ∧
    (headerOf (record.encode++slack) record.body.eventType).lossTimeNS=
      record.decodedHeader.lossTimeNS := by
  have hlen := declaredHeaderLen_encode hfits slack
  cases hintegrity : record.header.integrity with
  | none =>
    have hlegacy : declaredHeaderLen (record.encode++slack)=traceEventV2BaseHeaderLen := by
      rw [hlen,WireHeader.length,hintegrity]
    simp [headerOf,WireRecord.decodedHeader,hlegacy,hintegrity]
  | some integrity =>
    have hlong : declaredHeaderLen (record.encode++slack)≠traceEventV2BaseHeaderLen := by
      rw [hlen,WireHeader.length,hintegrity]
      simp only [traceEventV2HeaderLen,traceEventV2BaseHeaderLen]
      omega
    have hpieces : record.header.integrityPieces=[bytes 4 integrity.cpu.toNat,
        bytes 4 integrity.reserved.toNat,bytes 8 integrity.lossEpoch.toNat,
        bytes 8 integrity.lossTimeNS.toNat,integrity.extension] := by
      rw [WireHeader.integrityPieces,hintegrity]
    have hcpu : field (record.encode++slack) 56 4=integrity.cpu.toNat :=
      field_header record 11 (by simp [WireRecord.headerPieces,hpieces])
        (by simp [WireRecord.headerWidths,hpieces]) (UInt32.toNat_lt _) slack
    have hepoch : field (record.encode++slack) 64 8=integrity.lossEpoch.toNat :=
      field_header record 13 (by simp [WireRecord.headerPieces,hpieces])
        (by simp [WireRecord.headerWidths,hpieces]) (UInt64.toNat_lt _) slack
    have htime : field (record.encode++slack) 72 8=integrity.lossTimeNS.toNat :=
      field_header record 14 (by simp [WireRecord.headerPieces,hpieces])
        (by simp [WireRecord.headerWidths,hpieces]) (UInt64.toNat_lt _) slack
    simp [headerOf,WireRecord.decodedHeader,hlong,hintegrity,hcpu,hepoch,htime]

/-- The header read off a written record is the written header. -/
theorem headerOf_encode :
    headerOf (record.encode++slack) record.body.eventType=record.decodedHeader := by
  have hflags : field (record.encode++slack) 4 2=record.header.flags.toNat :=
    field_header record 2 rfl rfl (UInt16.toNat_lt _) slack
  have hpid : field (record.encode++slack) 12 4=record.header.pid.toNat :=
    field_header record 5 rfl rfl (UInt32.toNat_lt _) slack
  have htid : field (record.encode++slack) 16 4=record.header.tid.toNat :=
    field_header record 6 rfl rfl (UInt32.toNat_lt _) slack
  have hsysID : field (record.encode++slack) 20 4=record.header.sysID.toNat :=
    field_header record 7 rfl rfl (UInt32.toNat_lt _) slack
  have hseq : field (record.encode++slack) 24 8=record.header.seq.toNat :=
    field_header record 8 rfl rfl (UInt64.toNat_lt _) slack
  have hts : field (record.encode++slack) 32 8=record.header.tsNs.toNat :=
    field_header record 9 rfl rfl (UInt64.toNat_lt _) slack
  have hcomm : ((record.encode++slack).drop 40).take 16=record.header.comm.toList := by
    rw [WireRecord.encode,List.append_assoc]
    exact part_piece record.headerPieces 10 rfl (offsetOf_widths record.map_length 10)
      Vector.length_toList _
  obtain ⟨hlegacy,hcpu,hepoch,htime⟩ := integrity_encode hfits slack
  unfold headerOf WireRecord.decodedHeader
  simp only [TraceEventV2Header.mk.injEq,hflags,hpid,htid,hsysID,hseq,hts,hcomm,
    UInt16.ofNat_toNat,UInt32.ofNat_toNat,UInt64.ofNat_toNat,and_true,true_and]
  exact ⟨hlegacy,hcpu,hepoch,htime⟩

/-- A written record is accepted when the sample is shorter than 2^32 bytes. -/
theorem accepted_encode (hlength : (record.encode++slack).length < 2^32) :
    Accepted (record.encode++slack) := by
  have hkind := eventTypeOf_encode record slack
  have hlen := declaredHeaderLen_encode hfits slack
  have hsize := declaredSize_encode hfits slack
  have hflags : field (record.encode++slack) 4 2=record.header.flags.toNat :=
    field_header record 2 rfl rfl (UInt16.toNat_lt _) slack
  have hversion : field (record.encode++slack) 0 2=2 :=
    field_header record 0 rfl rfl (by decide) slack
  have hform : record.header.length=traceEventV2BaseHeaderLen ∨
      traceEventV2HeaderLen ≤ record.header.length := by
    unfold WireHeader.length
    cases record.header.integrity with
    | none => exact .inl rfl
    | some integrity => exact .inr (Nat.le_add_right _ _)
  have hbase : traceEventV2BaseHeaderLen=56 := rfl
  have hcurrent : traceEventV2HeaderLen=80 := rfl
  have hrecord : record.size=record.header.length+record.body.encode.length := rfl
  have hfull : record.encode.length=record.size := record.length_encode
  have htotal : (record.encode++slack).length=record.size+slack.length := by
    rw [List.length_append,hfull]
  have hbody : record.body.encode.length < 2^32 := by
    have hrecordSize := hfits.2.1
    omega
  refine ⟨⟨?_,hversion,?_,?_,?_,?_⟩,record.body.eventType,hkind,?_⟩
  · omega
  · rw [hkind]
    rfl
  · rw [hlen]
    exact hform
  · rw [hlen,hsize]
    omega
  · rw [hsize,Nat.mod_eq_of_lt hlength]
    omega
  · rw [hflags,UInt16.ofNat_toNat,bodyOf_encode hfits slack]
    exact WireBody.accepted hfits.2.2 hbody

end Written

/-- Sections of a written payload are read back. -/
theorem sectionsOf_encodePayload {eventFlags : UInt32} {sections : List PayloadSection}
    (htlv : eventFlags &&& bpfEventFlagPayloadTLV≠0)
    (hsections : ∀ payload ∈ sections, Encodable payload)
    (hlength : (encodePayload sections).length < 2^32) :
    sectionsOf eventFlags (encodePayload sections)=sections.map measured := by
  have hpayload := isPayload_encodePayload hsections
  obtain ⟨scratch,hscratch⟩ :=
    (decodePayloadTLVSectionsInto_eq_some none).mpr
      ⟨hpayload,countsFit_of_lt hpayload (by omega)⟩
  rw [sectionsOf,if_neg htlv,hscratch]

/-- The record codec. On every byte string the decoder returns without leaving
the slice, and accepts exactly by the header and body rules, where the length
of the byte string is taken modulo 2^32. The envelope of an accepted byte
string is read off fixed offsets. Every record whose lengths fit their fields
is accepted, padded to its size and followed by any slack below 2^32 bytes in
all, and decodes to the written fields, with its sections when they were
written as a payload. -/
theorem traceEventV2_codec (scratch : Option (List PayloadSection)) :
    (∀ rawSample, ∃ outcome left,
      decodeTraceEventV2EnvelopeInto rawSample scratch=some (outcome,left) ∧
        (outcome.isSome ↔ Accepted rawSample)) ∧
    (∀ rawSample eventType, eventTypeOf rawSample=some eventType → Accepted rawSample →
      ∃ left, decodeTraceEventV2EnvelopeInto rawSample scratch=
        some (some (stampHeader (headerOf rawSample eventType)
          (envelopeOf (headerOf rawSample eventType) (bodyOf rawSample))),left)) ∧
    (∀ (record : WireRecord) (slack : List UInt8), record.Fits →
      (record.encode++slack).length < 2^32 →
      ∃ left, decodeTraceEventV2EnvelopeInto (record.encode++slack) scratch=
        some (some (stampHeader record.decodedHeader
          (record.body.envelope record.decodedHeader)),left)) ∧
    ∀ (eventFlags : UInt32) (sections : List PayloadSection),
      eventFlags &&& bpfEventFlagPayloadTLV≠0 → (∀ payload ∈ sections, Encodable payload) →
      (encodePayload sections).length < 2^32 →
      sectionsOf eventFlags (encodePayload sections)=sections.map measured := by
  have hdecodes : ∀ rawSample eventType, eventTypeOf rawSample=some eventType →
      Accepted rawSample → ∃ left, decodeTraceEventV2EnvelopeInto rawSample scratch=
        some (some (stampHeader (headerOf rawSample eventType)
          (envelopeOf (headerOf rawSample eventType) (bodyOf rawSample))),left) := by
    intro rawSample eventType hkind haccepted
    obtain ⟨outcome,hdecode,hsome,henvelope⟩ :=
      decodeTraceEventV2EnvelopeInto_eq rawSample scratch
    rw [henvelope eventType hkind haccepted] at hdecode
    exact ⟨_,hdecode⟩
  refine ⟨?_,hdecodes,?_,?_⟩
  · intro rawSample
    obtain ⟨outcome,hdecode,hsome,henvelope⟩ :=
      decodeTraceEventV2EnvelopeInto_eq rawSample scratch
    exact ⟨outcome,_,hdecode,hsome⟩
  · intro record slack hfits hlength
    have hbody : record.body.encode.length < 2^32 := by
      have hsize : record.size=record.header.length+record.body.encode.length := rfl
      have hrecordSize := hfits.2.1
      omega
    obtain ⟨left,hdecode⟩ := hdecodes _ _ (eventTypeOf_encode record slack)
      (accepted_encode hfits slack hlength)
    rw [headerOf_encode hfits slack,bodyOf_encode hfits slack,
      envelopeOf_encode record.decodedHeader rfl hfits.2.2 hbody] at hdecode
    exact ⟨left,hdecode⟩
  · intro eventFlags sections htlv hsections hlength
    exact sectionsOf_encodePayload htlv hsections hlength

/-- The exit record of a getpid call with a current header. -/
def sampleExit : WireRecord :=
  { header := {
      flags := 0, pid := 7, tid := 7, sysID := 39, seq := 1, tsNs := 500,
      comm := Vector.replicate 16 0,
      integrity := some {
        cpu := 2, reserved := 0, lossEpoch := 3, lossTimeNS := 4, extension := [] } }
    body := .exit 7 100 (Vector.replicate 6 0) 0 (-1) 0 20 [] 0 }

/-- The codec at a getpid exit. -/
theorem traceEventV2_codec_exit :
    sampleExit.Fits ∧ ∃ left, decodeTraceEventV2EnvelopeInto (sampleExit.encode++[]) none=
      some (some (stampHeader sampleExit.decodedHeader
        (sampleExit.body.envelope sampleExit.decodedHeader)),left) := by
  have hfits : sampleExit.Fits := ⟨by decide,by decide,trivial⟩
  have hlength : (sampleExit.encode++[]).length < 2^32 := by
    rw [List.append_nil,WireRecord.length_encode]
    exact hfits.2.1
  exact ⟨hfits,(traceEventV2_codec none).2.2.1 sampleExit [] hfits hlength⟩

/-- An unsupported-ABI record with the base header. -/
def sampleForeign : WireRecord :=
  { header := {
      flags := 0, pid := 7, tid := 7, sysID := 1, seq := 0, tsNs := 0,
      comm := Vector.replicate 16 0, integrity := none }
    body := .unsupportedABI }

/-- A sample of exactly 2^32 bytes that meets every rule with its own length is
rejected, because its length is compared as zero. -/
theorem wrapped_sample_rejected :
    ∃ rawSample : List UInt8, traceEventV2BaseHeaderLen ≤ rawSample.length ∧
      field rawSample 0 2=2 ∧ eventTypeOf rawSample=some .unsupportedABI ∧
      declaredHeaderLen rawSample=traceEventV2BaseHeaderLen ∧
      declaredHeaderLen rawSample ≤ declaredSize rawSample ∧
      declaredSize rawSample ≤ rawSample.length ∧ bodyOf rawSample=[] ∧
      ∃ left, decodeTraceEventV2EnvelopeInto rawSample none=some (none,left) := by
  have hfits : sampleForeign.Fits := ⟨by decide,by decide,trivial⟩
  obtain ⟨slack,hslack⟩ : ∃ slack : List UInt8, slack=List.replicate (2^32-56) 0 := ⟨_,rfl⟩
  have hrecord : sampleForeign.encode.length=56 := by decide
  have htotal : (sampleForeign.encode++slack).length=2^32 := by
    rw [List.length_append,hrecord,hslack,List.length_replicate]
    omega
  have hlen : declaredHeaderLen (sampleForeign.encode++slack)=56 :=
    declaredHeaderLen_encode hfits slack
  have hsize : declaredSize (sampleForeign.encode++slack)=56 := declaredSize_encode hfits slack
  have hversion : field (sampleForeign.encode++slack) 0 2=2 :=
    field_header sampleForeign 0 rfl rfl (by decide) slack
  have hreject : ¬Accepted (sampleForeign.encode++slack) := by
    intro haccepted
    have hbound := haccepted.1.2.2.2.2.2
    rw [hsize,htotal,Nat.mod_self] at hbound
    omega
  have hbase : traceEventV2BaseHeaderLen=56 := rfl
  obtain ⟨outcome,hdecode,hsome,henvelope⟩ :=
    decodeTraceEventV2EnvelopeInto_eq (sampleForeign.encode++slack) none
  refine ⟨sampleForeign.encode++slack,by omega,hversion,eventTypeOf_encode sampleForeign slack,
    by omega,by omega,by omega,bodyOf_encode hfits slack,none,?_⟩
  cases outcome with
  | none => exact hdecode
  | some envelope => exact absurd (hsome.mp rfl) hreject

end StraceGo.TraceEventV2Codec

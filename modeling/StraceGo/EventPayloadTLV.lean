import StraceGo.ByteLayout
import StraceGo.EventEnvelope

/-!
# Captured payload sections on the wire

A payload is a sequence of sections, each a 32-byte header followed by the
copied bytes it announces. The reader walks the payload section by section and
keeps the sections in a scratch slice; the writer lays the same header out
field by field. The bytes left after a header are counted in 32 bits, so the
reader agrees with the format for payloads shorter than 2^32+32 bytes, which
covers every payload a record can announce.
-/

namespace StraceGo.EventPayloadTLV

open ByteLayout EventEnvelope

/-- Bytes of a section header. -/
def payloadTLVHeaderSize : ℕ := 32

/-- Header flag of a section captured on the exit edge. -/
def payloadTLVFlagDirectionOut : UInt16 := 1

/-- Wire code of a section kind. -/
def payloadTLVKind : PayloadKind → UInt16
  | .string => 1
  | .bytes => 2
  | .struct => 3
  | .iovec => 4
  | .sockaddr => 5
  | .execArgs => 6
  | .cmsg => 7
  | .fdState => 8
  | .fdPath => 9
  | .eventFDState => 10
  | .taskNamespace => 11
  | .pidNamespace => 12

/-- Section kind of a wire code. -/
def payloadKindFromTLV (kind : UInt16) : Option PayloadKind :=
  if kind=1 then some .string
  else if kind=2 then some .bytes
  else if kind=3 then some .struct
  else if kind=4 then some .iovec
  else if kind=5 then some .sockaddr
  else if kind=6 then some .execArgs
  else if kind=7 then some .cmsg
  else if kind=8 then some .fdState
  else if kind=9 then some .fdPath
  else if kind=10 then some .eventFDState
  else if kind=11 then some .taskNamespace
  else if kind=12 then some .pidNamespace
  else none

/-- Capturing edge of a flag word. -/
def payloadDirectionFromTLV (flags : UInt16) : PayloadDirection :=
  if flags &&& payloadTLVFlagDirectionOut ≠ 0 then .output else .input

/-- Decode the first section of a payload that holds at least a header. The
outer option is the bounds check, the inner one the decoder's verdict. -/
def decodePayloadTLVSection (data : List UInt8) :
    Checked (Option (PayloadSection × List UInt8)) := do
  match payloadKindFromTLV (← uint16At data 0) with
  | none => return none
  | some kind =>
    let copiedLen ← uint32At data 12
    if copiedLen > UInt32.ofNat (data.length-payloadTLVHeaderSize) then return none
    let totalLen := payloadTLVHeaderSize+copiedLen.toNat
    let payload : PayloadSection := {
      kind := kind
      direction := payloadDirectionFromTLV (← uint16At data 4)
      argIndex := (← uint16At data 2).toNat
      userLen := ← uint32At data 8
      copiedLen := copiedLen
      probeRet := (← uint32At data 16).toInt32
      userPtr := ← uint64At data 24
      data := ← slice data payloadTLVHeaderSize totalLen }
    return some (payload,← slice data totalLen data.length)

/-- Section described by the header bytes at the start of a payload. -/
def headerSection (kind : PayloadKind) (data : List UInt8) : PayloadSection :=
  let copiedLen := UInt32.ofNat (field data 12 4)
  { kind := kind
    direction := payloadDirectionFromTLV (UInt16.ofNat (field data 4 2))
    argIndex := (UInt16.ofNat (field data 2 2)).toNat
    userLen := UInt32.ofNat (field data 8 4)
    copiedLen := copiedLen
    probeRet := (UInt32.ofNat (field data 16 4)).toInt32
    userPtr := UInt64.ofNat (field data 24 8)
    data := (data.drop payloadTLVHeaderSize).take copiedLen.toNat }

/-- First section of a payload and the bytes behind it, with the length of the
bytes after the header truncated as the reader truncates it. -/
def firstSection (data : List UInt8) : Option (PayloadSection × List UInt8) :=
  match payloadKindFromTLV (UInt16.ofNat (field data 0 2)) with
  | none => none
  | some kind =>
    let payload := headerSection kind data
    if payload.copiedLen > UInt32.ofNat (data.length-payloadTLVHeaderSize) then none
    else some (payload,data.drop (payloadTLVHeaderSize+payload.copiedLen.toNat))

/-- A number that a truncated length admits fits the length. -/
theorem toNat_le_of_not_gt {copied : UInt32} {length : ℕ}
    (h : ¬copied > UInt32.ofNat length) : copied.toNat ≤ length := by
  have hle : copied.toNat ≤ (UInt32.ofNat length).toNat := by
    rw [gt_iff_lt,UInt32.lt_iff_toNat_lt] at h
    omega
  have hmod : (UInt32.ofNat length).toNat=length%2^32 := by simp
  have hsmall := Nat.mod_le length (2^32)
  omega

/-- On a payload with a whole header no read leaves the slice. -/
theorem decodePayloadTLVSection_eq {data : List UInt8}
    (hlength : payloadTLVHeaderSize ≤ data.length) :
    decodePayloadTLVSection data=some (firstSection data) := by
  have hsize : payloadTLVHeaderSize=32 := rfl
  have hkind := uint16At_eq (show 0+2 ≤ data.length by omega)
  have harg := uint16At_eq (show 2+2 ≤ data.length by omega)
  have hflags := uint16At_eq (show 4+2 ≤ data.length by omega)
  have huser := uint32At_eq (show 8+4 ≤ data.length by omega)
  have hcopied := uint32At_eq (show 12+4 ≤ data.length by omega)
  have hprobe := uint32At_eq (show 16+4 ≤ data.length by omega)
  have hptr := uint64At_eq (show 24+8 ≤ data.length by omega)
  unfold decodePayloadTLVSection firstSection
  simp only [hkind,harg,hflags,huser,hcopied,hprobe,hptr,Option.bind_eq_bind,Option.bind_some,
    Option.pure_def]
  cases payloadKindFromTLV (UInt16.ofNat (field data 0 2)) with
  | none => rfl
  | some kind =>
    dsimp only
    by_cases hlong : UInt32.ofNat (field data 12 4) >
        UInt32.ofNat (data.length-payloadTLVHeaderSize)
    · have hheader : (headerSection kind data).copiedLen >
          UInt32.ofNat (data.length-payloadTLVHeaderSize) := hlong
      rw [if_pos hlong,if_pos hheader]
    · have hheader : ¬(headerSection kind data).copiedLen >
          UInt32.ofNat (data.length-payloadTLVHeaderSize) := hlong
      have hfits := toNat_le_of_not_gt hlong
      rw [if_neg hlong,if_neg hheader,slice_eq (by omega) (by omega),slice_end (by omega)]
      simp only [Option.bind_some,Nat.add_sub_cancel_left,headerSection]

/-- The bytes behind a decoded section are shorter than the payload. -/
theorem firstSection_shorter {data next : List UInt8} {payload : PayloadSection}
    (hlength : payloadTLVHeaderSize ≤ data.length) (h : firstSection data=some (payload,next)) :
    next.length < data.length := by
  have hsize : payloadTLVHeaderSize=32 := rfl
  unfold firstSection at h
  cases hkind : payloadKindFromTLV (UInt16.ofNat (field data 0 2)) with
  | none => simp [hkind] at h
  | some kind =>
    simp only [hkind] at h
    split_ifs at h with hlong
    have hnext : next=data.drop
        (payloadTLVHeaderSize+(headerSection kind data).copiedLen.toNat) := by
      simp only [Option.some.injEq,Prod.mk.injEq] at h
      exact h.2.symm
    rw [hnext,List.length_drop]
    omega

/-- The reader's loop: sections decoded so far, and whether the payload ended
on a section boundary. -/
def decodePayloadTLVLoop (data : List UInt8) (sections : List PayloadSection) :
    Checked (Bool × List PayloadSection) :=
  if data.length=0 then some (true,sections)
  else if _hshort : data.length < payloadTLVHeaderSize then some (false,sections)
  else
    match _hfirst : decodePayloadTLVSection data with
    | none => none
    | some none => some (false,sections)
    | some (some (payload,next)) => decodePayloadTLVLoop next (sections++[payload])
termination_by data.length
decreasing_by
  have hlength : payloadTLVHeaderSize ≤ data.length := by omega
  rw [decodePayloadTLVSection_eq hlength] at _hfirst
  exact firstSection_shorter hlength (Option.some.inj _hfirst)

/-- Decode a whole payload. The scratch slice, when one is given, is emptied
first and holds the sections decoded so far afterwards, also on failure. -/
def decodePayloadTLVSectionsInto (data : List UInt8) (dst : Option (List PayloadSection)) :
    Checked (Option (List PayloadSection) × Option (List PayloadSection)) := do
  let (complete,sections) ← decodePayloadTLVLoop data []
  return (if complete then some sections else none,dst.map fun _ => sections)

/-- Section that a header announces for the copied bytes behind it. -/
def announced (kind : PayloadKind) (head body : List UInt8) : PayloadSection :=
  { headerSection kind head with data := body }

/-- A byte string made of whole sections of known kinds, and these sections. -/
inductive IsPayload : List UInt8 → List PayloadSection → Prop
  /-- The empty payload. -/
  | nil : IsPayload [] []
  /-- A header, the copied bytes it announces, and more sections. -/
  | cons {kind : PayloadKind} {head body rest : List UInt8} {sections : List PayloadSection}
      (hkind : payloadKindFromTLV (UInt16.ofNat (field head 0 2))=some kind)
      (hhead : head.length=payloadTLVHeaderSize)
      (hbody : (headerSection kind head).copiedLen.toNat=body.length)
      (hrest : IsPayload rest sections) :
      IsPayload (head++body++rest) (announced kind head body::sections)

/-- The copied length of every section fits the bytes behind its header when
those are counted in 32 bits. -/
def CountsFit : ℕ → List PayloadSection → Prop
  | _, [] => True
  | left, payload::sections =>
    payload.copiedLen.toNat ≤ (left-payloadTLVHeaderSize)%2^32 ∧
      CountsFit (left-payloadTLVHeaderSize-payload.copiedLen.toNat) sections

/-- The section at the start of a payload is the one its header announces. -/
theorem headerSection_append {kind : PayloadKind} {head body : List UInt8}
    (hhead : head.length=payloadTLVHeaderSize)
    (hbody : (headerSection kind head).copiedLen.toNat=body.length) (rest : List UInt8) :
    headerSection kind (head++body++rest)=announced kind head body := by
  have hsize : payloadTLVHeaderSize=32 := rfl
  have hcopied : (UInt32.ofNat (field head 12 4)).toNat=body.length := hbody
  have hdata : ((head++(body++rest)).drop payloadTLVHeaderSize).take body.length=body := by
    rw [← hhead,List.drop_left,List.take_left]
  rw [List.append_assoc]
  unfold headerSection announced headerSection
  dsimp only
  rw [field_append (show 12+4 ≤ head.length by omega),
    field_append (show 4+2 ≤ head.length by omega),
    field_append (show 2+2 ≤ head.length by omega),
    field_append (show 8+4 ≤ head.length by omega),
    field_append (show 16+4 ≤ head.length by omega),
    field_append (show 24+8 ≤ head.length by omega),hcopied,hdata]

/-- The first section of a framed payload is taken exactly when the reader's
32-bit count of the bytes behind the header covers it. -/
theorem firstSection_append {kind : PayloadKind} {head body : List UInt8}
    (hkind : payloadKindFromTLV (UInt16.ofNat (field head 0 2))=some kind)
    (hhead : head.length=payloadTLVHeaderSize)
    (hbody : (headerSection kind head).copiedLen.toNat=body.length) (rest : List UInt8) :
    firstSection (head++body++rest)=
      if body.length ≤ (body.length+rest.length)%2^32
      then some (announced kind head body,rest) else none := by
  have hsize : payloadTLVHeaderSize=32 := rfl
  have hread : field (head++body++rest) 0 2=field head 0 2 := by
    rw [List.append_assoc]
    exact field_append (by omega)
  have hcopied : (announced kind head body).copiedLen.toNat=body.length := hbody
  have hlength : (head++body++rest).length-payloadTLVHeaderSize=body.length+rest.length := by
    simp only [List.length_append]
    omega
  have hgt : (announced kind head body).copiedLen > UInt32.ofNat (body.length+rest.length) ↔
      ¬body.length ≤ (body.length+rest.length)%2^32 := by
    rw [gt_iff_lt,UInt32.lt_iff_toNat_lt,hcopied]
    simp
  have hnext : (head++body++rest).drop (payloadTLVHeaderSize+body.length)=rest := by
    rw [← hhead,← List.length_append,List.drop_left]
  unfold firstSection
  simp only [hread,hkind,headerSection_append hhead hbody,hlength,hgt,hcopied,hnext,ite_not]

/-- A taken section splits the payload into header, copied bytes and rest. -/
theorem firstSection_split {data next : List UInt8} {payload : PayloadSection}
    (hlength : payloadTLVHeaderSize ≤ data.length) (h : firstSection data=some (payload,next)) :
    ∃ kind head body, payloadKindFromTLV (UInt16.ofNat (field head 0 2))=some kind ∧
      head.length=payloadTLVHeaderSize ∧ (headerSection kind head).copiedLen.toNat=body.length ∧
      data=head++body++next ∧ payload=announced kind head body := by
  have hsize : payloadTLVHeaderSize=32 := rfl
  obtain ⟨head,hhead⟩ : ∃ head, head=data.take payloadTLVHeaderSize := ⟨_,rfl⟩
  obtain ⟨tail,htail⟩ : ∃ tail, tail=data.drop payloadTLVHeaderSize := ⟨_,rfl⟩
  have hdata : data=head++tail := by rw [hhead,htail,List.take_append_drop]
  have hheadLength : head.length=payloadTLVHeaderSize := by
    rw [hhead,List.length_take]
    omega
  unfold firstSection at h
  cases hkind : payloadKindFromTLV (UInt16.ofNat (field data 0 2)) with
  | none => simp [hkind] at h
  | some kind =>
    simp only [hkind] at h
    split_ifs at h with hlong
    have hfits := toNat_le_of_not_gt hlong
    simp only [Option.some.injEq,Prod.mk.injEq] at h
    have hcopied : (headerSection kind data).copiedLen=(headerSection kind head).copiedLen := by
      simp only [headerSection]
      rw [hdata,field_append (by omega)]
    have htailLength : tail.length=data.length-payloadTLVHeaderSize := by
      rw [htail,List.length_drop]
    obtain ⟨body,hbody⟩ : ∃ body, body=tail.take (headerSection kind head).copiedLen.toNat :=
      ⟨_,rfl⟩
    have hnext : next=tail.drop (headerSection kind head).copiedLen.toNat := by
      rw [← h.2,htail,List.drop_drop,hcopied]
    have hbodyLength : (headerSection kind head).copiedLen.toNat=body.length := by
      rw [hbody,List.length_take]
      rw [hcopied] at hfits
      omega
    have hsplit : data=head++body++next := by
      rw [List.append_assoc,hbody,hnext,List.take_append_drop,← hdata]
    refine ⟨kind,head,body,?_,hheadLength,hbodyLength,hsplit,?_⟩
    · rw [← hkind,hdata,field_append (by omega)]
    · rw [← h.1,hsplit,headerSection_append hheadLength hbodyLength]

/-- The loop stops with success at the end of the payload. -/
theorem decodePayloadTLVLoop_nil (sections : List PayloadSection) :
    decodePayloadTLVLoop [] sections=some (true,sections) := by
  rw [decodePayloadTLVLoop]
  simp

/-- A header cut short stops the loop. -/
theorem decodePayloadTLVLoop_short {data : List UInt8} (hne : data.length≠0)
    (hshort : data.length < payloadTLVHeaderSize) (sections : List PayloadSection) :
    decodePayloadTLVLoop data sections=some (false,sections) := by
  rw [decodePayloadTLVLoop,if_neg hne,dif_pos hshort]

/-- A section that is not taken stops the loop. -/
theorem decodePayloadTLVLoop_reject {data : List UInt8}
    (hlength : payloadTLVHeaderSize ≤ data.length) (h : firstSection data=none)
    (sections : List PayloadSection) :
    decodePayloadTLVLoop data sections=some (false,sections) := by
  have hsize : payloadTLVHeaderSize=32 := rfl
  have hdecode := decodePayloadTLVSection_eq hlength
  rw [h] at hdecode
  rw [decodePayloadTLVLoop,if_neg (by omega),dif_neg (by omega)]
  split
  · simp_all
  · rfl
  · simp_all

/-- A taken section is appended and the loop goes on behind it. -/
theorem decodePayloadTLVLoop_step {data next : List UInt8} {payload : PayloadSection}
    (hlength : payloadTLVHeaderSize ≤ data.length) (h : firstSection data=some (payload,next))
    (sections : List PayloadSection) :
    decodePayloadTLVLoop data sections=decodePayloadTLVLoop next (sections++[payload]) := by
  have hsize : payloadTLVHeaderSize=32 := rfl
  have hdecode := decodePayloadTLVSection_eq hlength
  rw [h] at hdecode
  rw [decodePayloadTLVLoop,if_neg (by omega),dif_neg (by omega)]
  split
  · simp_all
  · simp_all
  · rename_i found rest hfound
    rw [hdecode] at hfound
    simp only [Option.some.injEq,Prod.mk.injEq] at hfound
    rw [hfound.1,hfound.2]

/-- The loop ends on every input without leaving the slice, and the sections it
has taken are there in both outcomes. -/
theorem decodePayloadTLVLoop_total (data : List UInt8) (sections : List PayloadSection) :
    ∃ complete taken, decodePayloadTLVLoop data sections=some (complete,sections++taken) := by
  obtain ⟨bound,hbound⟩ : ∃ bound, data.length ≤ bound := ⟨_,le_rfl⟩
  induction bound generalizing data sections with
  | zero =>
    have hnil : data=[] := List.length_eq_zero_iff.mp (by omega)
    exact ⟨true,[],by rw [hnil,decodePayloadTLVLoop_nil,List.append_nil]⟩
  | succ bound ih =>
    by_cases hzero : data.length=0
    · have hnil : data=[] := List.length_eq_zero_iff.mp hzero
      exact ⟨true,[],by rw [hnil,decodePayloadTLVLoop_nil,List.append_nil]⟩
    by_cases hshort : data.length < payloadTLVHeaderSize
    · exact ⟨false,[],by rw [decodePayloadTLVLoop_short hzero hshort,List.append_nil]⟩
    have hlength : payloadTLVHeaderSize ≤ data.length := by omega
    cases hfirst : firstSection data with
    | none => exact ⟨false,[],by rw [decodePayloadTLVLoop_reject hlength hfirst,List.append_nil]⟩
    | some found =>
      have hshorter := firstSection_shorter hlength hfirst
      obtain ⟨complete,taken,htaken⟩ := ih found.2 (sections++[found.1]) (by omega)
      refine ⟨complete,found.1::taken,?_⟩
      rw [decodePayloadTLVLoop_step hlength hfirst,htaken,List.append_assoc,List.singleton_append]

/-- A payload whose counts fit is walked to its end. -/
theorem IsPayload.decodes {data : List UInt8} {sections : List PayloadSection}
    (h : IsPayload data sections) (hfits : CountsFit data.length sections)
    (taken : List PayloadSection) :
    decodePayloadTLVLoop data taken=some (true,taken++sections) := by
  induction h generalizing taken with
  | nil => rw [decodePayloadTLVLoop_nil,List.append_nil]
  | @cons kind head body rest sections hkind hhead hbody hrest ih =>
    have hlength : payloadTLVHeaderSize ≤ (head++body++rest).length := by
      simp only [List.length_append]
      omega
    have hleft : (head++body++rest).length-payloadTLVHeaderSize=body.length+rest.length := by
      simp only [List.length_append]
      omega
    have hcopied : (announced kind head body).copiedLen.toNat=body.length := hbody
    rw [CountsFit,hleft,hcopied,Nat.add_sub_cancel_left] at hfits
    have hfirst := firstSection_append hkind hhead hbody rest
    rw [if_pos hfits.1] at hfirst
    rw [decodePayloadTLVLoop_step hlength hfirst,ih hfits.2,List.append_assoc,
      List.singleton_append]

/-- A walk that reaches the end has read a payload whose counts fit. -/
theorem isPayload_of_decodes {data : List UInt8} {taken result : List PayloadSection}
    (h : decodePayloadTLVLoop data taken=some (true,result)) :
    ∃ sections, result=taken++sections ∧ IsPayload data sections ∧
      CountsFit data.length sections := by
  obtain ⟨bound,hbound⟩ : ∃ bound, data.length ≤ bound := ⟨_,le_rfl⟩
  induction bound generalizing data taken with
  | zero =>
    have hnil : data=[] := List.length_eq_zero_iff.mp (by omega)
    rw [hnil,decodePayloadTLVLoop_nil] at h
    refine ⟨[],?_,?_,trivial⟩
    · simp_all
    · rw [hnil]
      exact .nil
  | succ bound ih =>
    by_cases hzero : data.length=0
    · exact ih h (by omega)
    by_cases hshort : data.length < payloadTLVHeaderSize
    · rw [decodePayloadTLVLoop_short hzero hshort] at h
      simp at h
    have hlength : payloadTLVHeaderSize ≤ data.length := by omega
    cases hfirst : firstSection data with
    | none =>
      rw [decodePayloadTLVLoop_reject hlength hfirst] at h
      simp at h
    | some found =>
      obtain ⟨payload,next⟩ := found
      have hshorter := firstSection_shorter hlength hfirst
      rw [decodePayloadTLVLoop_step hlength hfirst] at h
      obtain ⟨sections,hresult,hpayload,hcounts⟩ := ih h (by omega)
      obtain ⟨kind,head,body,hkind,hhead,hbody,hdata,hannounced⟩ :=
        firstSection_split hlength hfirst
      refine ⟨payload::sections,?_,?_,?_⟩
      · rw [hresult,List.append_assoc,List.singleton_append]
      · rw [hdata,hannounced]
        exact .cons hkind hhead hbody hpayload
      · have hcopied : payload.copiedLen.toNat=body.length := by
          rw [hannounced]
          exact hbody
        have hleft : data.length-payloadTLVHeaderSize=body.length+next.length := by
          rw [hdata]
          simp only [List.length_append]
          omega
        rw [hdata,firstSection_append hkind hhead hbody] at hfirst
        rw [CountsFit,hcopied,hleft,Nat.add_sub_cancel_left]
        refine ⟨?_,hcounts⟩
        by_contra hover
        rw [if_neg hover] at hfirst
        simp at hfirst

/-- The whole reader: it always returns, with the sections of a payload whose
counts fit and with nothing otherwise. -/
theorem decodePayloadTLVSectionsInto_eq_some {data : List UInt8}
    (dst : Option (List PayloadSection)) {sections : List PayloadSection} :
    (∃ scratch, decodePayloadTLVSectionsInto data dst=some (some sections,scratch)) ↔
      IsPayload data sections ∧ CountsFit data.length sections := by
  constructor
  · intro h
    obtain ⟨scratch,hscratch⟩ := h
    obtain ⟨complete,taken,htaken⟩ := decodePayloadTLVLoop_total data []
    simp only [decodePayloadTLVSectionsInto,htaken,bind,Option.bind_some,pure,Option.some.injEq,
      Prod.mk.injEq] at hscratch
    cases complete with
    | false => simp at hscratch
    | true =>
      obtain ⟨found,hfound,hpayload,hcounts⟩ := isPayload_of_decodes htaken
      have hsame : found=sections := by simp_all
      rw [hsame] at hpayload hcounts
      exact ⟨hpayload,hcounts⟩
  · intro h
    refine ⟨dst.map fun _ => sections,?_⟩
    simp [decodePayloadTLVSectionsInto,h.1.decodes h.2]

/-- The reader returns on every byte string. -/
theorem decodePayloadTLVSectionsInto_total (data : List UInt8)
    (dst : Option (List PayloadSection)) :
    ∃ outcome scratch, decodePayloadTLVSectionsInto data dst=some (outcome,scratch) := by
  obtain ⟨complete,taken,htaken⟩ := decodePayloadTLVLoop_total data []
  exact ⟨_,_,by simp [decodePayloadTLVSectionsInto,htaken]; exact ⟨rfl,rfl⟩⟩

/-- Counts fit whenever the bytes behind the first header fit in 32 bits. -/
theorem countsFit_of_lt {data : List UInt8} {sections : List PayloadSection}
    (h : IsPayload data sections) (hlength : data.length < 2^32+payloadTLVHeaderSize) :
    CountsFit data.length sections := by
  induction h with
  | nil => trivial
  | @cons kind head body rest sections hkind hhead hbody hrest ih =>
    have hleft : (head++body++rest).length-payloadTLVHeaderSize=body.length+rest.length := by
      simp only [List.length_append]
      omega
    have hcopied : (announced kind head body).copiedLen.toNat=body.length := hbody
    have hbound : body.length+rest.length < 2^32 := by omega
    rw [CountsFit,hleft,hcopied,Nat.add_sub_cancel_left,Nat.mod_eq_of_lt hbound]
    exact ⟨by omega,ih (by omega)⟩

/-- Two payloads one after the other are a payload. -/
theorem IsPayload.append {first second : List UInt8} {left right : List PayloadSection}
    (hfirst : IsPayload first left) (hsecond : IsPayload second right) :
    IsPayload (first++second) (left++right) := by
  induction hfirst with
  | nil => exact hsecond
  | cons hkind hhead hbody hrest ih =>
    rw [List.append_assoc,List.cons_append]
    exact .cons hkind hhead hbody ih

/-- Bytes of the sections with their headers. -/
def payloadSize (sections : List PayloadSection) : ℕ :=
  (sections.map fun payload => payloadTLVHeaderSize+payload.copiedLen.toNat).sum

/-- Position of the copied bytes of a section: behind the sections before it
and its own header. -/
def dataOffset (sections : List PayloadSection) (index : ℕ) : ℕ :=
  payloadSize (sections.take index)+payloadTLVHeaderSize

/-- The sections of a payload cover it. -/
theorem IsPayload.length_eq {data : List UInt8} {sections : List PayloadSection}
    (h : IsPayload data sections) : payloadSize sections=data.length := by
  induction h with
  | nil => rfl
  | @cons kind head body rest sections hkind hhead hbody hrest ih =>
    have hcopied : (announced kind head body).copiedLen.toNat=body.length := hbody
    simp only [payloadSize,List.map_cons,List.sum_cons,List.length_append] at ih ⊢
    omega

/-- The copied bytes of a section are the input's bytes at its data offset. -/
theorem IsPayload.data_eq {data : List UInt8} {sections : List PayloadSection}
    (h : IsPayload data sections) {index : ℕ} {payload : PayloadSection}
    (hpayload : sections[index]?=some payload) :
    payload.data=(data.drop (dataOffset sections index)).take payload.copiedLen.toNat ∧
      payload.data.length=payload.copiedLen.toNat := by
  induction h generalizing index with
  | nil => simp at hpayload
  | @cons kind head body rest sections hkind hhead hbody hrest ih =>
    have hcopied : (announced kind head body).copiedLen.toNat=body.length := hbody
    cases index with
    | zero =>
      simp only [List.getElem?_cons_zero,Option.some.injEq] at hpayload
      rw [← hpayload,hcopied]
      have hoffset : dataOffset (announced kind head body::sections) 0=head.length := by
        simp [dataOffset,payloadSize,hhead]
      rw [hoffset,List.append_assoc,List.drop_left,List.take_left]
      exact ⟨rfl,rfl⟩
    | succ index =>
      simp only [List.getElem?_cons_succ] at hpayload
      have hoffset : dataOffset (announced kind head body::sections) (index+1)=
          (head++body).length+dataOffset sections index := by
        simp only [dataOffset,payloadSize,List.take_succ_cons,List.map_cons,List.sum_cons,
          List.length_append]
        omega
      rw [hoffset,← List.drop_drop,List.drop_left]
      exact ih hpayload

/-- Flag word of a capturing edge. -/
def payloadTLVFlags : PayloadDirection → UInt16
  | .input => 0
  | .output => payloadTLVFlagDirectionOut

/-- Header fields in wire order, with both reserved fields zero. -/
def encodeTLVHeader (payload : PayloadSection) : List (List UInt8) :=
  [bytes 2 (payloadTLVKind payload.kind).toNat,bytes 2 payload.argIndex.toNat,
    bytes 2 (payloadTLVFlags payload.direction).toNat,bytes 2 0,
    bytes 4 payload.userLen.toNat,bytes 4 payload.data.length,
    bytes 4 payload.probeRet.toUInt32.toNat,bytes 4 0,bytes 8 payload.userPtr.toNat]

/-- A section as the producer writes it. -/
def encodeTLV (payload : PayloadSection) : List UInt8 :=
  (encodeTLVHeader payload).flatten++payload.data

/-- A payload as the producer writes it. -/
def encodePayload (sections : List PayloadSection) : List UInt8 :=
  (sections.map encodeTLV).flatten

/-- Sections whose argument index and data length fit their header fields. -/
def Encodable (payload : PayloadSection) : Prop :=
  0 ≤ payload.argIndex ∧ payload.argIndex < 2^16 ∧ payload.data.length < 2^32

/-- A section whose copied length is the length of its data. -/
def measured (payload : PayloadSection) : PayloadSection :=
  { payload with copiedLen := UInt32.ofNat payload.data.length }

/-- The kind codes are read back. -/
theorem payloadKindFromTLV_payloadTLVKind (kind : PayloadKind) :
    payloadKindFromTLV (payloadTLVKind kind)=some kind := by
  cases kind <;> decide

/-- The direction flag is read back. -/
theorem payloadDirectionFromTLV_payloadTLVFlags (direction : PayloadDirection) :
    payloadDirectionFromTLV (payloadTLVFlags direction)=direction := by
  cases direction <;> decide

/-- A number written in a header field is read back from it. -/
theorem field_encodeTLVHeader {payload : PayloadSection} (index : ℕ) {offset width n : ℕ}
    (hpiece : (encodeTLVHeader payload)[index]?=some (bytes width n))
    (hoffset : offsetOf (encodeTLVHeader payload) index=offset) (hn : n < 256^width) :
    field (encodeTLVHeader payload).flatten offset width=n := by
  have hfield := field_piece (encodeTLVHeader payload) index hpiece hoffset hn []
  rwa [List.append_nil] at hfield

/-- A header announces the section it was written for. -/
theorem announced_encodeTLVHeader {payload : PayloadSection} (h : Encodable payload) :
    announced payload.kind (encodeTLVHeader payload).flatten payload.data=measured payload := by
  unfold Encodable at h
  have hindex : payload.argIndex.toNat < 2^16 := by omega
  have harg : field (encodeTLVHeader payload).flatten 2 2=payload.argIndex.toNat :=
    field_encodeTLVHeader 1 rfl rfl hindex
  have hflags : field (encodeTLVHeader payload).flatten 4 2=
      (payloadTLVFlags payload.direction).toNat :=
    field_encodeTLVHeader 2 rfl rfl (UInt16.toNat_lt _)
  have huser : field (encodeTLVHeader payload).flatten 8 4=payload.userLen.toNat :=
    field_encodeTLVHeader 4 rfl rfl (UInt32.toNat_lt _)
  have hcopied : field (encodeTLVHeader payload).flatten 12 4=payload.data.length :=
    field_encodeTLVHeader 5 rfl rfl h.2.2
  have hprobe : field (encodeTLVHeader payload).flatten 16 4=payload.probeRet.toUInt32.toNat :=
    field_encodeTLVHeader 6 rfl rfl (UInt32.toNat_lt _)
  have hptr : field (encodeTLVHeader payload).flatten 24 8=payload.userPtr.toNat :=
    field_encodeTLVHeader 8 rfl rfl (UInt64.toNat_lt _)
  have hargWord : ((UInt16.ofNat payload.argIndex.toNat).toNat : ℤ)=payload.argIndex := by
    have hword : (UInt16.ofNat payload.argIndex.toNat).toNat=payload.argIndex.toNat := by
      simpa using hindex
    rw [hword]
    omega
  unfold announced headerSection measured
  simp only [harg,hflags,huser,hcopied,hprobe,hptr,hargWord,UInt16.ofNat_toNat,
    UInt32.ofNat_toNat,UInt64.ofNat_toNat,payloadDirectionFromTLV_payloadTLVFlags,
    Int32.toInt32_toUInt32]

/-- What the producer writes is a payload of the sections it wrote. -/
theorem isPayload_encodePayload {sections : List PayloadSection}
    (h : ∀ payload ∈ sections, Encodable payload) :
    IsPayload (encodePayload sections) (sections.map measured) := by
  induction sections with
  | nil => exact .nil
  | cons payload sections ih =>
    have hpayload : Encodable payload := h payload (by simp)
    have hrest := ih fun other hother => h other (by simp [hother])
    have hkind : field (encodeTLVHeader payload).flatten 0 2=(payloadTLVKind payload.kind).toNat :=
      field_encodeTLVHeader 0 rfl rfl (UInt16.toNat_lt _)
    have hcopied : field (encodeTLVHeader payload).flatten 12 4=payload.data.length :=
      field_encodeTLVHeader 5 rfl rfl hpayload.2.2
    have hlength : (UInt32.ofNat payload.data.length).toNat=payload.data.length := by
      simpa using hpayload.2.2
    rw [List.map_cons,← announced_encodeTLVHeader hpayload]
    have hencode : encodePayload (payload::sections)=
        (encodeTLVHeader payload).flatten++payload.data++encodePayload sections := rfl
    rw [hencode]
    refine .cons ?_ rfl ?_ hrest
    · rw [hkind,UInt16.ofNat_toNat,payloadKindFromTLV_payloadTLVKind]
    · simp only [headerSection,hcopied,hlength]

/-- The payload codec. On every byte string the reader returns without leaving
the slice. It returns sections exactly for a list of whole sections whose
copied lengths fit the 32-bit count of the bytes behind their headers, which
holds whenever the input is shorter than 2^32+32 bytes; the sections then cover
the input and hold its bytes at consecutive places. Below that length the
reader returns the producer's sections, with their data lengths, and reads two
accepted inputs one after the other as the two lists one after the other. -/
theorem payloadTLV_codec (dst : Option (List PayloadSection)) :
    (∀ data, ∃ outcome scratch, decodePayloadTLVSectionsInto data dst=some (outcome,scratch)) ∧
    (∀ sections : List PayloadSection, (∀ payload ∈ sections, Encodable payload) →
      (encodePayload sections).length < 2^32+payloadTLVHeaderSize →
      ∃ scratch, decodePayloadTLVSectionsInto (encodePayload sections) dst=
        some (some (sections.map measured),scratch)) ∧
    (∀ data sections,
      (∃ scratch, decodePayloadTLVSectionsInto data dst=some (some sections,scratch)) ↔
        IsPayload data sections ∧ CountsFit data.length sections) ∧
    (∀ data sections, IsPayload data sections → data.length < 2^32+payloadTLVHeaderSize →
      CountsFit data.length sections) ∧
    (∀ data sections scratch,
      decodePayloadTLVSectionsInto data dst=some (some sections,scratch) →
      payloadSize sections=data.length ∧
      ∀ index payload, sections[index]?=some payload →
        payload.data=(data.drop (dataOffset sections index)).take payload.copiedLen.toNat ∧
        payload.data.length=payload.copiedLen.toNat) ∧
    ∀ first second left right leftScratch rightScratch,
      decodePayloadTLVSectionsInto first dst=some (some left,leftScratch) →
      decodePayloadTLVSectionsInto second dst=some (some right,rightScratch) →
      (first++second).length < 2^32+payloadTLVHeaderSize →
      ∃ scratch, decodePayloadTLVSectionsInto (first++second) dst=
        some (some (left++right),scratch) := by
  refine ⟨fun data => decodePayloadTLVSectionsInto_total data dst,?_,?_,?_,?_,?_⟩
  · intro sections hsections hlength
    have hpayload := isPayload_encodePayload hsections
    exact (decodePayloadTLVSectionsInto_eq_some dst).mpr ⟨hpayload,countsFit_of_lt hpayload hlength⟩
  · intro data sections
    exact decodePayloadTLVSectionsInto_eq_some dst
  · intro data sections hpayload hlength
    exact countsFit_of_lt hpayload hlength
  · intro data sections scratch h
    have hpayload := ((decodePayloadTLVSectionsInto_eq_some dst).mp ⟨scratch,h⟩).1
    exact ⟨hpayload.length_eq,fun index payload hindex => hpayload.data_eq hindex⟩
  · intro first second left right leftScratch rightScratch hfirst hsecond hlength
    have hleft := ((decodePayloadTLVSectionsInto_eq_some dst).mp ⟨leftScratch,hfirst⟩).1
    have hright := ((decodePayloadTLVSectionsInto_eq_some dst).mp ⟨rightScratch,hsecond⟩).1
    have hpayload := hleft.append hright
    exact (decodePayloadTLVSectionsInto_eq_some dst).mpr ⟨hpayload,countsFit_of_lt hpayload hlength⟩

/-- A path captured on the enter edge of an open. -/
def samplePath : PayloadSection :=
  { kind := .string, direction := .input, argIndex := 1, userPtr := 4096, userLen := 5,
    copiedLen := 5, probeRet := 5, data := [47,116,109,112,0] }

/-- The codec at a payload of one path. -/
theorem payloadTLV_codec_path : ∃ scratch,
    decodePayloadTLVSectionsInto (encodePayload [samplePath]) none=
      some (some [samplePath],scratch) := by
  have hencodable : ∀ payload ∈ [samplePath], Encodable payload := by
    intro payload hmem
    rw [List.mem_singleton.mp hmem]
    exact ⟨by decide,by decide,by decide⟩
  exact (payloadTLV_codec none).2.1 [samplePath] hencodable (by decide)

/-- A second section that brings the bytes behind the first header to 2^32. -/
def hugeSection : PayloadSection :=
  { kind := .bytes, direction := .input, argIndex := 2, userPtr := 8192, userLen := 0,
    copiedLen := 0, probeRet := 0, data := List.replicate (2^32-37) 0 }

/-- Past 2^32 bytes the count of the bytes left wraps and a whole list of
sections is refused. -/
theorem wrapped_payload_refused :
    (∀ payload ∈ [samplePath,hugeSection], Encodable payload) ∧
      ∀ sections scratch,
        decodePayloadTLVSectionsInto (encodePayload [samplePath,hugeSection]) none≠
          some (some sections,scratch) := by
  have hhuge : hugeSection.data.length=2^32-37 := List.length_replicate
  have hencodable : ∀ payload ∈ [samplePath,hugeSection], Encodable payload := by
    intro payload hmem
    simp only [List.mem_cons,List.not_mem_nil,or_false] at hmem
    cases hmem with
    | inl hpath =>
      rw [hpath]
      exact ⟨by decide,by decide,by decide⟩
    | inr hother =>
      rw [hother]
      exact ⟨by decide,by decide,by rw [hhuge]; decide⟩
  refine ⟨hencodable,?_⟩
  intro sections scratch hdecode
  have hkind : payloadKindFromTLV
      (UInt16.ofNat (field (encodeTLVHeader samplePath).flatten 0 2))=some .string := by decide
  have hcopied : (headerSection .string (encodeTLVHeader samplePath).flatten).copiedLen.toNat=
      samplePath.data.length := by decide
  have hfirst := firstSection_append hkind rfl hcopied (encodePayload [hugeSection])
  have hlength : (encodePayload [hugeSection]).length=2^32-5 := by
    simp only [encodePayload,encodeTLV,List.map_cons,List.map_nil,List.flatten_cons,
      List.flatten_nil,List.append_nil,List.length_append,hhuge]
    rfl
  rw [hlength,if_neg (by decide)] at hfirst
  have hheader : (encodeTLVHeader samplePath).flatten.length=payloadTLVHeaderSize := rfl
  have hlong : payloadTLVHeaderSize ≤ ((encodeTLVHeader samplePath).flatten++samplePath.data++
      encodePayload [hugeSection]).length := by
    simp only [List.length_append]
    omega
  have hloop := decodePayloadTLVLoop_reject hlong hfirst []
  have hencode : encodePayload [samplePath,hugeSection]=
      (encodeTLVHeader samplePath).flatten++samplePath.data++encodePayload [hugeSection] := rfl
  rw [hencode,decodePayloadTLVSectionsInto,hloop] at hdecode
  simp at hdecode

end StraceGo.EventPayloadTLV

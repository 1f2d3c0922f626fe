import StraceGo.JsonSyscallEncoder
import StraceGo.JsonText

/-!
# The JSON syscall encoders agree

Every append function puts a piece of its own behind the bytes it is given. The
lines of the three encoders are then made of the same pieces: a materialised
event gives, field by field, what the decided fields of the same record give,
and a plain record gives what its decided fields give.
-/

namespace StraceGo.JsonSyscallAgreement

open Utf8Text Base64Text JsonSyscallEncoder
open JsonText (joined joined_cons)

section Numbers

theorem ascii_append (s t : String) : ascii (s ++ t)=ascii s ++ ascii t := by
  unfold ascii
  rw [String.toList_append,List.map_append]

/-- A number below ten has one digit. -/
theorem decimal_of_lt {n : ℕ} (h : n < 10) : decimal n=[48+n.toUInt8] := by
  have hdigit : ∀ d < 10, UInt8.ofNat (Nat.digitChar d).toNat=48+d.toUInt8 := by decide
  have hlist : (toString n).toList=Nat.toDigits 10 n := Nat.toList_repr
  unfold decimal ascii
  rw [hlist,Nat.toDigits_of_lt_base h,List.map_singleton,hdigit n h]

/-- The last digit of a longer number stands behind those of its tenth. -/
theorem decimal_of_le {n : ℕ} (h : 10 ≤ n) : decimal n=decimal (n/10) ++ [48+(n%10).toUInt8] := by
  have hdigit : ∀ d < 10, UInt8.ofNat (Nat.digitChar d).toNat=48+d.toUInt8 := by decide
  have hlist : ∀ m : ℕ, (toString m).toList=Nat.toDigits 10 m := fun m => Nat.toList_repr
  unfold decimal ascii
  rw [hlist,hlist,Nat.toDigits_of_base_le (by omega) h,List.map_append,List.map_singleton,
    hdigit _ (Nat.mod_lt _ (by omega))]

/-- The digit by digit paths give the decimal digits. -/
theorem appendJSONUint_eq (dst : Bytes) (value : UInt64) :
    appendJSONUint dst value=dst ++ decimal value.toNat := by
  have hbyte : ∀ v : UInt64, v.toUInt8=v.toNat.toUInt8 := by
    intro v
    rfl
  unfold appendJSONUint
  simp only [UInt64.lt_iff_toNat_lt,hbyte,UInt64.toNat_div,UInt64.toNat_mod,UInt64.reduceToNat]
  split_ifs with hone htwo hthree
  · rw [decimal_of_lt hone]
  · rw [decimal_of_le (by omega),decimal_of_lt (by omega)]
    rfl
  · rw [decimal_of_le (by omega),decimal_of_le (by omega),decimal_of_lt (by omega),
      Nat.div_div_eq_div_mul]
    simp
  · rfl

/-- The short paths give the decimal digits behind the sign. -/
theorem appendJSONInt_eq (dst : Bytes) (value : Int64) :
    appendJSONInt dst value=dst ++ decimalInt value.toInt := by
  have hle : ∀ v : Int64, 0 ≤ v ↔ 0 ≤ v.toInt := fun v => Int64.le_iff_toInt_le
  unfold appendJSONInt decimalInt
  rw [GoText.toString_int_eq]
  by_cases hsign : 0 ≤ value
  · rw [if_pos hsign,if_pos ((hle value).mp hsign),appendJSONUint_eq,
      Int64.toNat_toUInt64_of_le hsign]
    rfl
  · rw [if_neg hsign,if_neg fun h => hsign ((hle value).mpr h),ascii_append]
    by_cases hshort : -1000 < value
    · have hlow : -1000 < value.toInt := Int64.lt_iff_toInt_lt.mp hshort
      have hhigh : value.toInt < 0 := by
        rw [hle] at hsign
        omega
      have hneg : (-value).toInt= -value.toInt := by
        rw [←Int64.ofInt_toInt value,Int64.neg_ofInt,Int64.toInt_ofInt_of_le (by omega) (by omega),
          Int64.ofInt_toInt]
      have hpositive : 0 ≤ -value := by
        rw [hle,hneg]
        omega
      have hnat : (-value).toUInt64.toNat=(-value.toInt).toNat := by
        rw [Int64.toNat_toUInt64_of_le hpositive,←hneg]
        rfl
      rw [if_pos hshort,appendJSONUint_eq,hnat,List.append_assoc]
      rfl
    · rw [if_neg hshort]

end Numbers

section Pieces

/-- Pieces of conditional parts. -/
theorem ite_append {c : Prop} [Decidable c] (dst piece : Bytes) :
    (if c then dst ++ piece else dst)=dst ++ if c then piece else [] := by
  split_ifs
  · rfl
  · rw [List.append_nil]

theorem ite_append₂ {c : Prop} [Decidable c] (dst token piece : Bytes) :
    (if c then dst ++ token ++ piece else dst)=dst ++ if c then token ++ piece else [] := by
  rw [List.append_assoc]
  exact ite_append dst (token ++ piece)

theorem ite_append₃ {c : Prop} [Decidable c] (dst token piece last : Bytes) :
    (if c then dst ++ token ++ piece ++ last else dst)=
      dst ++ if c then token ++ piece ++ last else [] := by
  rw [List.append_assoc dst,List.append_assoc dst]
  exact ite_append dst (token ++ piece ++ last)

theorem appendJSONASCII_eq (dst : Bytes) (value : UInt8) :
    appendJSONASCII dst value=dst ++ appendJSONASCII [] value := by
  have hpush : ∀ (c : Prop) [Decidable c] (a b : Bytes),
      (dst ++ if c then a else b)=if c then dst ++ a else dst ++ b := by
    intro c _ a b
    exact apply_ite (dst ++ ·) c a b
  simp only [appendJSONASCII,appendUnicodeEscape,List.nil_append,hpush]

theorem appendJSONUnit_eq (dst : Bytes) (unit : RuneUnit) :
    appendJSONUnit dst unit=dst ++ appendJSONUnit [] unit := by
  unfold appendJSONUnit
  cases unit.bytes with
  | nil => simp
  | cons first rest =>
    dsimp only
    split_ifs
    · exact appendJSONASCII_eq dst first
    · rfl
    · rfl
    · rfl

/-- Text of a string between its quotes. -/
def stringBody (value : Bytes) : Bytes := (units value).flatMap (appendJSONUnit [])

theorem appendJSONString_eq (dst value : Bytes) :
    appendJSONString dst value=dst ++ ([34] ++ stringBody value ++ [34]) := by
  have hfold : ∀ (parts : List RuneUnit) (start : Bytes),
      parts.foldl appendJSONUnit start=start ++ parts.flatMap (appendJSONUnit []) := by
    intro parts
    induction parts with
    | nil => simp
    | cons unit rest ih =>
      intro start
      rw [List.foldl_cons,ih,appendJSONUnit_eq,List.flatMap_cons,List.append_assoc]
  unfold appendJSONString stringBody
  rw [hfold]
  simp only [List.append_assoc]

theorem appendJSONSyscallName_eq (dst value : Bytes) :
    appendJSONSyscallName dst value=dst ++ appendJSONSyscallName [] value := by
  unfold appendJSONSyscallName
  split_ifs
  · simp only [List.append_assoc,List.nil_append]
  · rw [appendJSONString_eq,appendJSONString_eq [],List.nil_append]

/-- Append functions that put the same pieces behind their bytes make arrays alike. -/
theorem appendJSONArray_eq {A : Type} {append : Bytes → A → Bytes} {piece : A → Bytes}
    (h : ∀ dst value, append dst value=dst ++ piece value) (dst : Bytes) (values : List A) :
    appendJSONArray append dst values=dst ++ ([91] ++ joined (values.map piece) ++ [93]) := by
  have hfold : ∀ (rest : List A) (start : Bytes),
      rest.foldl (fun dst value => append (dst ++ [44]) value) start=
        start ++ rest.flatMap fun value => [44] ++ piece value := by
    intro rest
    induction rest with
    | nil => simp
    | cons value rest ih =>
      intro start
      rw [List.foldl_cons,ih,h,List.flatMap_cons]
      simp only [List.append_assoc]
  unfold appendJSONArray
  cases values with
  | nil => simp [joined]
  | cons first rest =>
    dsimp only
    rw [hfold,h,List.map_cons,joined_cons,List.flatMap_map]
    simp only [List.append_assoc]

theorem appendJSONStringArray_eq (dst : Bytes) (values : List Bytes) :
    appendJSONStringArray dst values=dst ++ appendJSONStringArray [] values := by
  unfold appendJSONStringArray
  rw [appendJSONArray_eq appendJSONString_eq,appendJSONArray_eq appendJSONString_eq []]
  rfl

/-- Six zeros have the text that stands for them. -/
theorem appendJSONArray_zeros :
    [91] ++
      joined ((Vector.replicate 6 (0 : UInt64)).toList.map fun value => decimal value.toNat) ++
      [93]=ascii "[0,0,0,0,0,0]" := by
  decide

theorem appendJSONUint64Array_eq (dst : Bytes) (values : Vector UInt64 6) :
    appendJSONUint64Array dst values=
      dst ++ ([91] ++ joined (values.toList.map fun value => decimal value.toNat) ++ [93]) := by
  unfold appendJSONUint64Array
  split_ifs with hzero
  · rw [hzero,appendJSONArray_zeros]
  · exact appendJSONArray_eq appendJSONUint_eq dst values.toList

theorem appendJSONPayloadData_eq (dst : Bytes) (fields : JsonPayloadSectionFields) :
    appendJSONPayloadData dst fields=dst ++ appendJSONPayloadData [] fields := by
  unfold appendJSONPayloadData
  cases fields.rawData <;> rfl

theorem appendJSONPayloadSectionFields_eq (dst : Bytes) (fields : JsonPayloadSectionFields) :
    appendJSONPayloadSectionFields dst fields=
      dst ++ (ascii "\x7b\"kind\":" ++ ([34] ++ stringBody fields.kind ++ [34]) ++
        ascii ",\"direction\":" ++ ([34] ++ stringBody fields.direction ++ [34]) ++
        ascii ",\"arg_index\":" ++ decimalInt fields.argIndex.toInt ++
        (if fields.userPtr≠0 then ascii ",\"user_ptr\":" ++ decimal fields.userPtr.toNat else []) ++
        (if fields.userLen≠0 then ascii ",\"user_len\":" ++ decimal fields.userLen.toNat else []) ++
        ascii ",\"copied_len\":" ++ decimal fields.copiedLen.toNat ++
        ascii ",\"probe_ret\":" ++ decimalInt fields.probeRet.toInt ++
        (if fields.rawData.getD []≠[] ∨ fields.dataBase64≠[] then
          ascii ",\"data_base64\":\"" ++ appendJSONPayloadData [] fields ++ [34] else []) ++
        [125]) := by
  unfold appendJSONPayloadSectionFields
  simp only [appendJSONString_eq,appendJSONInt_eq,appendJSONUint_eq,
    appendJSONPayloadData_eq (_ ++ _),
    ite_append₂,ite_append₃]
  simp only [List.append_assoc]

theorem appendJSONPayloadSection_eq (dst : Bytes) (value : JsonPayloadSection) :
    appendJSONPayloadSection dst value=dst ++ appendJSONPayloadSection [] value := by
  unfold appendJSONPayloadSection
  rw [appendJSONPayloadSectionFields_eq,appendJSONPayloadSectionFields_eq [],List.nil_append]

theorem appendJSONPayloadSections_eq (dst : Bytes) (values : List JsonPayloadSection) :
    appendJSONPayloadSections dst values=dst ++ appendJSONPayloadSections [] values := by
  unfold appendJSONPayloadSections
  rw [appendJSONArray_eq appendJSONPayloadSection_eq,
    appendJSONArray_eq appendJSONPayloadSection_eq []]
  rfl

/-- Captured sections and their materialised copies have one text. -/
theorem appendJSONHandlerPayloadSections_eq (dst : Bytes) (values : List PayloadSection) :
    appendJSONHandlerPayloadSections dst values=
      dst ++ appendJSONPayloadSections [] (jsonPayloadSectionsIntoRaw values) := by
  have hsection : ∀ (start : Bytes) (value : PayloadSection),
      appendJSONHandlerPayloadSection start value=start ++
        appendJSONPayloadSection [] {newJSONPayloadSection value with rawData := value.data} := by
    intro start value
    unfold appendJSONHandlerPayloadSection appendJSONPayloadSection
    rw [appendJSONPayloadSectionFields_eq,appendJSONPayloadSectionFields_eq [],List.nil_append]
    rfl
  unfold appendJSONHandlerPayloadSections appendJSONPayloadSections jsonPayloadSectionsIntoRaw
  rw [appendJSONArray_eq hsection,appendJSONArray_eq appendJSONPayloadSection_eq,List.map_map]
  rfl

variable {V : Type} (texts : Texts V)

theorem appendJSONSyscallReturn_eq (dst name : Bytes) (ret : Int64) (res : Result)
    (ctx : Option (Context V)) :
    appendJSONSyscallReturn texts dst name ret res ctx=
      dst ++ appendJSONSyscallReturn texts [] name ret res ctx := by
  unfold appendJSONSyscallReturn
  split_ifs
  · simp only [List.append_assoc,List.nil_append]
  · rw [appendJSONString_eq,appendJSONString_eq [],List.nil_append]

end Pieces

section Builder

variable {V : Type} (texts : Texts V) (data token : Bytes)

/-- A field behind others. -/
def fieldPiece (token value : Bytes) : Bytes := [44] ++ token ++ value

theorem stringField_eq (value : Bytes) :
    JsonLineBuilder.stringField ⟨data,false⟩ token value false=
      ⟨data ++ fieldPiece token ([34] ++ stringBody value ++ [34]),false⟩ := by
  simp [JsonLineBuilder.stringField,JsonLineBuilder.beginFieldToken,appendJSONString_eq,fieldPiece]

theorem syscallNameField_eq (value : Bytes) :
    JsonLineBuilder.syscallNameField ⟨data,false⟩ token value=
      ⟨data ++ fieldPiece token (appendJSONSyscallName [] value),false⟩ := by
  unfold JsonLineBuilder.syscallNameField
  simp only [JsonLineBuilder.beginFieldToken,fieldPiece]
  rw [appendJSONSyscallName_eq]
  simp

theorem uintField_eq (value : UInt64) :
    JsonLineBuilder.uintField ⟨data,false⟩ token value false=
      ⟨data ++ fieldPiece token (decimal value.toNat),false⟩ := by
  simp [JsonLineBuilder.uintField,JsonLineBuilder.beginFieldToken,appendJSONUint_eq,fieldPiece]

theorem uintField_omit (value : UInt64) :
    JsonLineBuilder.uintField ⟨data,false⟩ token value true=
      ⟨data ++ if value≠0 then fieldPiece token (decimal value.toNat) else [],false⟩ := by
  by_cases hzero : value=0
  · simp [JsonLineBuilder.uintField,hzero]
  · simp [JsonLineBuilder.uintField,JsonLineBuilder.beginFieldToken,appendJSONUint_eq,fieldPiece,
      hzero]

theorem intField_eq (value : Int64) :
    JsonLineBuilder.intField ⟨data,false⟩ token value=
      ⟨data ++ fieldPiece token (decimalInt value.toInt),false⟩ := by
  simp [JsonLineBuilder.intField,JsonLineBuilder.beginFieldToken,appendJSONInt_eq,fieldPiece]

theorem intFieldIfNonZero_eq (value : Int64) :
    JsonLineBuilder.intFieldIfNonZero ⟨data,false⟩ token value=
      ⟨data ++ if value≠0 then fieldPiece token (decimalInt value.toInt) else [],false⟩ := by
  unfold JsonLineBuilder.intFieldIfNonZero
  by_cases hzero : value=0
  · simp [hzero]
  · rw [if_neg hzero,if_pos hzero,intField_eq]

/-- Text of a truth value. -/
def boolText (value : Bool) : Bytes := if value then ascii "true" else ascii "false"

theorem boolField_eq (value : Bool) :
    JsonLineBuilder.boolField ⟨data,false⟩ token value false=
      ⟨data ++ fieldPiece token (boolText value),false⟩ := by
  simp [JsonLineBuilder.boolField,JsonLineBuilder.beginFieldToken,fieldPiece,boolText]

theorem boolField_omit (value : Bool) :
    JsonLineBuilder.boolField ⟨data,false⟩ token value true=
      ⟨data ++ if value then fieldPiece token (ascii "true") else [],false⟩ := by
  cases value <;> simp [JsonLineBuilder.boolField,JsonLineBuilder.beginFieldToken,fieldPiece]

theorem uint64ArrayField_eq (values : Vector UInt64 6) :
    JsonLineBuilder.uint64ArrayField ⟨data,false⟩ token values=
      ⟨data ++ fieldPiece token ([91] ++
        joined (values.toList.map fun value => decimal value.toNat) ++ [93]),false⟩ := by
  unfold JsonLineBuilder.uint64ArrayField
  simp only [JsonLineBuilder.beginFieldToken,Bool.false_eq_true,if_false]
  split_ifs with hzero
  · rw [hzero,appendJSONArray_zeros]
    simp [fieldPiece]
  · rw [appendJSONArray_eq (fun _ _ => rfl)]
    simp [fieldPiece]

theorem stringArrayField_eq (values : List Bytes) :
    JsonLineBuilder.stringArrayField ⟨data,false⟩ token values=
      ⟨data ++ if values≠[] then fieldPiece token (appendJSONStringArray [] values) else [],
        false⟩ := by
  unfold JsonLineBuilder.stringArrayField
  by_cases hempty : values=[]
  · simp [hempty]
  · rw [if_neg hempty,if_pos hempty]
    dsimp only [JsonLineBuilder.beginFieldToken]
    rw [appendJSONStringArray_eq]
    simp [fieldPiece]

theorem payloadSectionsField_eq (values : List JsonPayloadSection) :
    JsonLineBuilder.payloadSectionsField ⟨data,false⟩ token values=
      ⟨data ++ if values.isEmpty=false then
        fieldPiece token (appendJSONPayloadSections [] values) else [],false⟩ := by
  unfold JsonLineBuilder.payloadSectionsField
  cases values.isEmpty with
  | true => simp
  | false =>
    dsimp only [JsonLineBuilder.beginFieldToken]
    rw [appendJSONPayloadSections_eq]
    simp [fieldPiece]

/-- Text of the return value of an event, if it has one. -/
def returnPiece (event : JsonSyscallEvent V) : Bytes :=
  if event.returnText≠[] then
    fieldPiece (ascii "\"return_text\":") ([34] ++ stringBody event.returnText ++ [34])
  else if event.hasReturnText then
    fieldPiece (ascii "\"return_text\":") (appendJSONSyscallReturn texts [] event.returnTextName
      event.returnTextRet event.returnTextRes event.returnTextCtx)
  else []

theorem returnTextField_eq (event : JsonSyscallEvent V) :
    JsonLineBuilder.returnTextField texts ⟨data,false⟩ event=
      ⟨data ++ returnPiece texts event,false⟩ := by
  unfold JsonLineBuilder.returnTextField returnPiece
  by_cases htext : event.returnText≠[]
  · rw [if_pos htext,if_pos htext,stringField_eq]
  · rw [if_neg htext,if_neg htext]
    cases event.hasReturnText with
    | false => simp
    | true =>
      dsimp only [JsonLineBuilder.beginFieldToken]
      rw [appendJSONSyscallReturn_eq]
      simp [fieldPiece]

/-- Pieces of the integrity stamp. -/
def integrityPieces (integrity : RecordIntegrity) : List Bytes :=
  [if integrity.cpu.toUInt64≠0 then
      fieldPiece (ascii "\"cpu\":") (decimal integrity.cpu.toUInt64.toNat) else [],
    if integrity.sequence≠0 then
      fieldPiece (ascii "\"seq\":") (decimal integrity.sequence.toNat) else [],
    if integrity.lossEpoch≠0 then
      fieldPiece (ascii "\"loss_epoch\":") (decimal integrity.lossEpoch.toNat) else [],
    if integrity.record≠0 then
      fieldPiece (ascii "\"record_index\":") (decimal integrity.record.toNat) else [],
    if integrity.tainted then fieldPiece (ascii "\"tainted\":") (ascii "true") else [],
    if integrity.epoch≠0 then
      fieldPiece (ascii "\"integrity_epoch\":") (decimal integrity.epoch.toNat) else [],
    if integrity.correlationTainted then
      fieldPiece (ascii "\"correlation_tainted\":") (ascii "true") else [],
    if integrity.unsequenced then
      fieldPiece (ascii "\"unsequenced\":") (ascii "true") else [],
    if integrity.domains.getD []≠[] then
      fieldPiece (ascii "\"tainted_domains\":")
        (appendJSONStringArray [] (integrity.domains.getD [])) else []]

theorem appendJSONRecordIntegrity_eq (integrity : RecordIntegrity) :
    appendJSONRecordIntegrity data integrity=data ++ (integrityPieces integrity).flatten := by
  unfold appendJSONRecordIntegrity integrityPieces
  simp only [uintField_omit,boolField_omit]
  cases integrity.domains with
  | none => simp
  | some domains =>
    dsimp only
    rw [stringArrayField_eq]
    simp only [List.append_assoc,Option.getD_some,List.flatten_cons,List.flatten_nil,
      List.append_nil]

end Builder

section Lines

variable {V : Type} (texts : Texts V)

/-- Pieces of a materialised event behind its type. -/
def eventPieces (event : JsonSyscallEvent V) : List Bytes :=
  [if event.eventVersion.toUInt64≠0 then
      fieldPiece (ascii "\"event_version\":") (decimal event.eventVersion.toUInt64.toNat) else [],
    fieldPiece (ascii "\"event_type\":") ([34] ++ stringBody event.eventType ++ [34]),
    if event.eventTypeID.toUInt64≠0 then
      fieldPiece (ascii "\"event_type_id\":") (decimal event.eventTypeID.toUInt64.toNat) else [],
    if event.eventFlags.toUInt64≠0 then
      fieldPiece (ascii "\"event_flags\":") (decimal event.eventFlags.toUInt64.toNat) else [],
    fieldPiece (ascii "\"pid\":") (decimal event.pid.toUInt64.toNat),
    fieldPiece (ascii "\"tid\":") (decimal event.tid.toUInt64.toNat),
    fieldPiece (ascii "\"sys_id\":") (decimal event.sysID.toUInt64.toNat),
    fieldPiece (ascii "\"syscall\":") (appendJSONSyscallName [] event.syscall),
    fieldPiece (ascii "\"args\":") ([91] ++
      joined (event.args.toList.map fun value => decimal value.toNat) ++ [93]),
    if event.argText≠[] then
      fieldPiece (ascii "\"arg_text\":") (appendJSONStringArray [] event.argText) else [],
    fieldPiece (ascii "\"ret\":") (decimalInt event.ret.toInt),
    returnPiece texts event,
    fieldPiece (ascii "\"failed\":") (boolText event.failed),
    if event.errno≠0 then
      fieldPiece (ascii "\"errno\":") (decimalInt event.errno.toInt) else [],
    fieldPiece (ascii "\"duration_ns\":") (decimal event.durationNS.toNat),
    fieldPiece (ascii "\"enter_time_ns\":") (decimal event.enterTimeNS.toNat),
    fieldPiece (ascii "\"stack_id\":") (decimalInt event.stackID.toInt64.toInt),
    if event.payloadSections.isEmpty=false then
      fieldPiece (ascii "\"payload_sections\":")
        (appendJSONPayloadSections [] event.payloadSections) else [],
    fieldPiece (ascii "\"probe_ret_enter\":") (decimalInt event.probeRetEnter.toInt64.toInt),
    fieldPiece (ascii "\"probe_ret_exit\":") (decimalInt event.probeRetExit.toInt64.toInt),
    if event.pairedEnter then fieldPiece (ascii "\"paired_enter\":") (ascii "true") else []] ++
  integrityPieces event.integrity

/-- The line of a materialised event: a brace, the type, and the pieces of the fields. -/
theorem appendJSONSyscallEvent_eq (dst : Bytes) (event : JsonSyscallEvent V) :
    appendJSONSyscallEvent texts dst (some event)=
      dst ++ ([123] ++ (ascii "\"type\":" ++ ([34] ++ stringBody event.type ++ [34])) ++
        (eventPieces texts event).flatten ++ [125] ++ [10]) := by
  have htype : JsonLineBuilder.stringField (JsonLineBuilder.beginObject ⟨dst,false⟩)
      (ascii "\"type\":") event.type false=⟨dst ++ [123] ++
        (ascii "\"type\":" ++ ([34] ++ stringBody event.type ++ [34])),false⟩ := by
    simp [JsonLineBuilder.stringField,JsonLineBuilder.beginFieldToken,JsonLineBuilder.beginObject,
      appendJSONString_eq]
  unfold appendJSONSyscallEvent
  simp only [htype,uintField_omit,stringField_eq,uintField_eq,syscallNameField_eq,
    uint64ArrayField_eq,stringArrayField_eq,intField_eq,returnTextField_eq,boolField_eq,
    intFieldIfNonZero_eq,payloadSectionsField_eq,boolField_omit,appendJSONRecordIntegrity_eq]
  simp only [JsonLineBuilder.endLine,eventPieces,List.flatten_append,List.flatten_cons,
    List.flatten_nil,List.append_assoc,List.append_nil]

/-- Materialised event of decided fields. -/
def materialized (event : JsonSyscallWireEvent V) : JsonSyscallEvent V where
  integrity := event.integrity
  type := ascii "syscall"
  eventVersion := event.eventVersion
  eventType := bpfEventTypeNameFromID event.eventType
  eventTypeID := event.eventType
  eventFlags := event.eventFlags
  pid := event.pid
  tid := event.tid
  sysID := event.sysID
  syscall := event.syscall
  args := event.args
  argText := event.argText
  ret := event.ret
  failed := event.failed
  errno := event.errno
  durationNS := event.duration
  enterTimeNS := event.enterTime
  stackID := event.stackID
  payloadSections := jsonPayloadSectionsIntoRaw event.payloadSections
  probeRetEnter := event.probeRetEnter
  probeRetExit := event.probeRetExit
  pairedEnter := event.pairedEnter
  returnTextName := event.returnTextName
  returnTextRet := event.returnTextRet
  returnTextRes := event.returnTextResult
  returnTextCtx := event.returnTextContext
  hasReturnText := event.hasReturnText

/-- Names of record kinds need no escapes. -/
theorem stringBody_eventTypeName (eventType : UInt16) :
    stringBody (bpfEventTypeNameFromID eventType)=bpfEventTypeNameFromID eventType := by
  unfold bpfEventTypeNameFromID
  split_ifs <;> decide

theorem toUInt64_ne_zero₁₆ (value : UInt16) : value.toUInt64≠0 ↔ value≠0 := by
  rw [not_iff_not]
  constructor
  · intro h
    rw [←UInt16.toNat_inj]
    have hnat := congrArg UInt64.toNat h
    simpa using hnat
  · rintro rfl
    rfl

theorem toUInt64_ne_zero₃₂ (value : UInt32) : value.toUInt64≠0 ↔ value≠0 := by
  rw [not_iff_not]
  constructor
  · intro h
    rw [←UInt32.toNat_inj]
    have hnat := congrArg UInt64.toNat h
    simpa using hnat
  · rintro rfl
    rfl

/-- Version, kind and flags of decided fields. -/
theorem appendJSONSyscallWireHeader_eq (dst : Bytes) (event : JsonSyscallWireEvent V) :
    appendJSONSyscallWireHeader dst event=
      dst ++ ((eventPieces texts (materialized event)).take 4).flatten := by
  unfold appendJSONSyscallWireHeader
  simp only [appendJSONUint_eq,ite_append₂]
  simp only [eventPieces,materialized,List.cons_append,List.take,List.flatten_cons,List.flatten_nil,
    stringBody_eventTypeName,toUInt64_ne_zero₁₆,toUInt64_ne_zero₃₂,fieldPiece,List.append_assoc,
    List.append_nil]
  rfl

/-- Task, syscall and arguments of decided fields. -/
theorem appendJSONSyscallWireIdentity_eq (dst : Bytes) (event : JsonSyscallWireEvent V) :
    appendJSONSyscallWireIdentity dst event=
      dst ++ (((eventPieces texts (materialized event)).drop 4).take 6).flatten := by
  unfold appendJSONSyscallWireIdentity
  simp only [appendJSONUint_eq,appendJSONSyscallName_eq (_ ++ _),appendJSONUint64Array_eq,
    appendJSONStringArray_eq (_ ++ _),ite_append₂]
  simp only [eventPieces,materialized,List.cons_append,List.drop,List.take,List.flatten_cons,
    List.flatten_nil,fieldPiece,List.append_assoc,List.append_nil]
  rfl

/-- Return value of decided fields. -/
theorem appendJSONSyscallWireReturn_eq (dst : Bytes) (event : JsonSyscallWireEvent V) :
    appendJSONSyscallWireReturn texts dst event=
      dst ++ (((eventPieces texts (materialized event)).drop 10).take 4).flatten := by
  have hfailed : ∀ start : Bytes, (if event.failed=true then start ++ ascii "true"
      else start ++ ascii "false")=start ++ boolText event.failed := by
    intro start
    unfold boolText
    cases event.failed <;> rfl
  unfold appendJSONSyscallWireReturn
  simp only [appendJSONInt_eq,appendJSONSyscallReturn_eq texts (_ ++ _),ite_append₂,hfailed]
  simp only [eventPieces,returnPiece,materialized,List.cons_append,List.drop,List.take,
    List.flatten_cons,
    List.flatten_nil,fieldPiece,List.append_assoc,List.append_nil]
  rfl

/-- Times, stack, captured memory and probe markers of decided fields. -/
theorem appendJSONSyscallWireMetadata_eq (dst : Bytes) (event : JsonSyscallWireEvent V) :
    appendJSONSyscallWireMetadata dst event=
      dst ++ (((eventPieces texts (materialized event)).drop 14).take 7).flatten := by
  have hempty : (jsonPayloadSectionsIntoRaw event.payloadSections).isEmpty=
      event.payloadSections.isEmpty := by
    unfold jsonPayloadSectionsIntoRaw
    cases event.payloadSections <;> rfl
  have hkeys : ascii ",\"duration_ns\":"=[44] ++ ascii "\"duration_ns\":" ∧
      ascii ",\"enter_time_ns\":"=[44] ++ ascii "\"enter_time_ns\":" ∧
      ascii ",\"stack_id\":"=[44] ++ ascii "\"stack_id\":" ∧
      ascii ",\"payload_sections\":"=[44] ++ ascii "\"payload_sections\":" ∧
      ascii ",\"probe_ret_enter\":"=[44] ++ ascii "\"probe_ret_enter\":" ∧
      ascii ",\"probe_ret_exit\":"=[44] ++ ascii "\"probe_ret_exit\":" ∧
      ascii ",\"paired_enter\":true"=[44] ++ (ascii "\"paired_enter\":" ++ ascii "true") := by
    decide
  unfold appendJSONSyscallWireMetadata
  simp only [appendJSONUint_eq,appendJSONInt_eq,appendJSONHandlerPayloadSections_eq,ite_append₂,
    ite_append]
  simp only [eventPieces,materialized,hempty,hkeys,List.cons_append,List.drop,List.take,
    List.flatten_cons,
    List.flatten_nil,fieldPiece,List.append_assoc,List.append_nil]

/-- The line of decided fields is that of their materialised event. -/
theorem appendJSONSyscallWireEvent_eq (dst : Bytes) (event : JsonSyscallWireEvent V) :
    appendJSONSyscallWireEvent texts dst event=
      appendJSONSyscallEvent texts dst (some (materialized event)) := by
  have hpieces : (eventPieces texts (materialized event)).flatten=
      ((eventPieces texts (materialized event)).take 4).flatten ++
      ((((eventPieces texts (materialized event)).drop 4).take 6).flatten ++
      ((((eventPieces texts (materialized event)).drop 10).take 4).flatten ++
      ((((eventPieces texts (materialized event)).drop 14).take 7).flatten ++
      (integrityPieces event.integrity).flatten))) := by
    simp only [eventPieces,materialized,List.cons_append,List.nil_append,List.drop,List.take,
      List.flatten_cons,List.flatten_nil,List.append_assoc,List.append_nil]
  have htype : stringBody (materialized event).type=ascii "syscall" := by
    change stringBody (ascii "syscall")=ascii "syscall"
    decide
  have hbrace : ascii "\x7b\"type\":\"syscall\""=
      [123] ++ (ascii "\"type\":" ++ ([34] ++ ascii "syscall" ++ [34])) := by
    decide
  unfold appendJSONSyscallWireEvent
  dsimp only
  rw [appendJSONSyscallEvent_eq,hpieces,htype,appendJSONSyscallWireHeader_eq texts,
    appendJSONSyscallWireIdentity_eq texts,appendJSONSyscallWireReturn_eq,
    appendJSONSyscallWireMetadata_eq texts,appendJSONRecordIntegrity_eq,hbrace]
  simp only [List.append_assoc]
  rfl

/-- Decided fields of a record with no argument texts, captured memory or context. -/
def plainWireEvent (ev : EventContext V) (res : Result) : JsonSyscallWireEvent V :=
  {decodedWireEvent texts ev res with
    argText := []
    returnTextContext := none
    payloadSections := []}

/-- The straight encoder writes the decided fields of a plain record. -/
theorem appendJSONPlainDecodedSyscallEvent_eq (dst : Bytes) (ev : EventContext V) (res : Result) :
    appendJSONPlainDecodedSyscallEvent texts dst ev res=
      appendJSONSyscallWireEvent texts dst (plainWireEvent texts ev res) := by
  unfold appendJSONPlainDecodedSyscallEvent appendJSONSyscallWireEvent appendJSONSyscallWireHeader
    appendJSONSyscallWireIdentity appendJSONSyscallWireReturn appendJSONSyscallWireMetadata
    plainWireEvent decodedWireEvent
  simp only [ne_eq,not_true_eq_false,if_false,if_true]
  rfl

/-- A record without a context and argument texts is plain. -/
theorem plainWireEvent_eq {ev : EventContext V} {res : Result}
    (h : canUsePlainDecodedJSON ev res=true) :
    plainWireEvent texts ev res=decodedWireEvent texts ev res := by
  unfold canUsePlainDecodedJSON at h
  have hcontext : ev.handlerContext=none := by
    cases hctx : ev.handlerContext with
    | none => rfl
    | some ctx =>
      rw [hctx] at h
      exact absurd h (by simp)
  have hparts : res.argParts=[] := by
    by_contra hne
    rw [hcontext] at h
    simp [hne] at h
  unfold plainWireEvent decodedWireEvent
  simp only [hparts,hcontext,EventContext.handlerContextForFormatting,
    EventContext.decodedPayloadSections]

/-- A materialised event is written behind the bytes that are there. -/
theorem appendJSONSyscallEvent_appends (event : Option (JsonSyscallEvent V)) (dst : Bytes) :
    appendJSONSyscallEvent texts dst event=dst ++ appendJSONSyscallEvent texts [] event := by
  cases event with
  | none => rfl
  | some event => rw [appendJSONSyscallEvent_eq,appendJSONSyscallEvent_eq,List.nil_append]

/-- Decided fields are written behind the bytes that are there. -/
theorem appendJSONSyscallWireEvent_appends (event : JsonSyscallWireEvent V) (dst : Bytes) :
    appendJSONSyscallWireEvent texts dst event=
      dst ++ appendJSONSyscallWireEvent texts [] event := by
  rw [appendJSONSyscallWireEvent_eq,appendJSONSyscallWireEvent_eq,appendJSONSyscallEvent_appends]

/-- A decoded record has the line of its materialised event. -/
theorem appendJSONDecodedSyscallEvent_eq (dst : Bytes) (ev : EventContext V) (res : Result) :
    appendJSONDecodedSyscallEvent texts dst ev res=
      appendJSONSyscallEvent texts dst (some (newJSONDecodedSyscallEvent texts ev res)) := by
  have hwire : appendJSONDecodedSyscallEvent texts dst ev res=
      appendJSONSyscallWireEvent texts dst (decodedWireEvent texts ev res) := by
    unfold appendJSONDecodedSyscallEvent
    split_ifs with hplain
    · rw [appendJSONPlainDecodedSyscallEvent_eq,plainWireEvent_eq texts hplain]
    · rfl
  rw [hwire,appendJSONSyscallWireEvent_eq]
  rfl

/-- A raw record has the line of its materialised event. -/
theorem appendJSONRawSyscallEvent_eq (dst : Bytes) (ev : EventContext V) :
    appendJSONRawSyscallEvent texts dst ev=
      appendJSONSyscallEvent texts dst (some (newJSONRawSyscallEvent ev)) := by
  unfold appendJSONRawSyscallEvent
  rw [appendJSONSyscallWireEvent_eq]
  rfl

/-- The encoders agree byte for byte, and each puts its line behind the bytes it is
given. -/
theorem encoders_agree (ev : EventContext V) (res : Result) (dst : Bytes) :
    (canUsePlainDecodedJSON ev res=true →
      appendJSONPlainDecodedSyscallEvent texts dst ev res=
        appendJSONSyscallWireEvent texts dst (decodedWireEvent texts ev res)) ∧
    appendJSONDecodedSyscallEvent texts dst ev res=
      appendJSONSyscallEvent texts dst (some (newJSONDecodedSyscallEvent texts ev res)) ∧
    appendJSONRawSyscallEvent texts dst ev=
      appendJSONSyscallEvent texts dst (some (newJSONRawSyscallEvent ev)) ∧
    (∀ wire : JsonSyscallWireEvent V, appendJSONSyscallWireEvent texts dst wire=
      dst ++ appendJSONSyscallWireEvent texts [] wire) ∧
    (∀ event : Option (JsonSyscallEvent V), appendJSONSyscallEvent texts dst event=
      dst ++ appendJSONSyscallEvent texts [] event) ∧
    appendJSONPlainDecodedSyscallEvent texts dst ev res=
      dst ++ appendJSONPlainDecodedSyscallEvent texts [] ev res ∧
    appendJSONDecodedSyscallEvent texts dst ev res=
      dst ++ appendJSONDecodedSyscallEvent texts [] ev res ∧
    appendJSONRawSyscallEvent texts dst ev=dst ++ appendJSONRawSyscallEvent texts [] ev := by
  refine ⟨?_,appendJSONDecodedSyscallEvent_eq texts dst ev res,
    appendJSONRawSyscallEvent_eq texts dst ev,?_,?_,?_,?_,?_⟩
  · intro hplain
    rw [appendJSONPlainDecodedSyscallEvent_eq,plainWireEvent_eq texts hplain]
  · intro wire
    exact appendJSONSyscallWireEvent_appends texts wire dst
  · intro event
    exact appendJSONSyscallEvent_appends texts event dst
  · rw [appendJSONPlainDecodedSyscallEvent_eq,appendJSONPlainDecodedSyscallEvent_eq,
      appendJSONSyscallWireEvent_appends]
  · rw [appendJSONDecodedSyscallEvent_eq,appendJSONDecodedSyscallEvent_eq,
      appendJSONSyscallEvent_appends]
  · rw [appendJSONRawSyscallEvent_eq,appendJSONRawSyscallEvent_eq,appendJSONSyscallEvent_appends]

/-- Texts of a session that tracks no descriptor; a descriptor is its number. -/
def untrackedTexts : Texts Unit where
  formatFdWithPath := fun _ fd => decimalInt fd.toInt
  errnoText := fun number => ascii "errno " ++ decimal number
  errnoName := fun number => if number=2 then some (ascii "ENOENT") else none
  emptyView := fun _ => true

/-- A matched exit of `getpid`. -/
def getpidExit : EventContext Unit where
  view := {
    eventVersion := 2, eventType := 2, pid := 101, tid := 102, sysID := 39, ret := 101,
    duration := 55, enterTime := 77, stackID := -1 }
  metaName := ascii "getpid"
  pendingEnter := some true
  returnFDView := ()

theorem encoders_agree_getpid :
    canUsePlainDecodedJSON getpidExit {}=true ∧
    appendJSONPlainDecodedSyscallEvent untrackedTexts [] getpidExit {}=
      appendJSONSyscallWireEvent untrackedTexts [] (decodedWireEvent untrackedTexts getpidExit {}) ∧
    appendJSONDecodedSyscallEvent untrackedTexts [] getpidExit {}=
      appendJSONSyscallEvent untrackedTexts []
        (some (newJSONDecodedSyscallEvent untrackedTexts getpidExit {})) := by
  have hplain : canUsePlainDecodedJSON getpidExit {}=true := by decide
  have hagree := encoders_agree untrackedTexts getpidExit {} []
  exact ⟨hplain,hagree.1 hplain,hagree.2.1⟩

end Lines

end StraceGo.JsonSyscallAgreement

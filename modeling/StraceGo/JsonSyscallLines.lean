import StraceGo.JsonSyscallAgreement

/-!
# The JSON syscall lines

A line parses to an object with the fields of the event. Numbers are read back
exactly, strings as the characters of their bytes, and the captured memory as a
base64 text of its bytes. A table of the fields says which keys are left out: it
is the specification that the pieces of the line are compared with.
-/

namespace StraceGo.JsonSyscallLines

open Utf8Text Base64Text JsonSyscallEncoder JsonSyscallAgreement JsonText

section Numbers

theorem digitsValue_append (digits : Bytes) (b : UInt8) :
    digitsValue (digits ++ [b])=digitsValue digits*10+(b.toNat-48) := by
  unfold digitsValue
  rw [List.foldl_append]
  rfl

/-- Byte of a decimal digit. -/
theorem digit_byte {d : ℕ} (h : d < 10) :
    isDigit (48+d.toUInt8)=true ∧ (48+d.toUInt8).toNat-48=d ∧ (48+d.toUInt8=48 → d=0) := by
  have hall : ∀ d < 10, isDigit (48+d.toUInt8)=true ∧ (48+d.toUInt8).toNat-48=d ∧
      (48+d.toUInt8=48 → d=0) := by decide
  exact hall d h

/-- The digits of a number are read back as the number. -/
theorem digitsValue_decimal (n : ℕ) : digitsValue (decimal n)=n := by
  induction n using Nat.strong_induction_on with
  | _ n ih =>
    by_cases hshort : n < 10
    · rw [decimal_of_lt hshort]
      have hdigit := (digit_byte hshort).2.1
      simpa [digitsValue] using hdigit
    · have hdigit := (digit_byte (Nat.mod_lt n (by omega : 0 < 10))).2.1
      rw [decimal_of_le (by omega),digitsValue_append,ih (n/10) (by omega),hdigit]
      omega

/-- Decimal digits form a numeral: only zero starts with a zero. -/
theorem decimal_digits (n : ℕ) :
    (∀ b∈decimal n, isDigit b=true) ∧ decimal n≠[] ∧ ((decimal n).head?=some 48 → n=0) := by
  induction n using Nat.strong_induction_on with
  | _ n ih =>
    by_cases hshort : n < 10
    · obtain ⟨hdigit,-,hzero⟩ := digit_byte hshort
      rw [decimal_of_lt hshort]
      simpa using And.intro hdigit hzero
    · obtain ⟨hdigits,hne,hhead⟩ := ih (n/10) (by omega)
      have hdigit := (digit_byte (Nat.mod_lt n (by omega : 0 < 10))).1
      rw [decimal_of_le (by omega)]
      refine ⟨?_,by simp,?_⟩
      · intro b hb
        rcases List.mem_append.mp hb with hb | hb
        · exact hdigits b hb
        · rw [List.mem_singleton.mp hb]
          exact hdigit
      · intro hzero
        rw [List.head?_append_of_ne_nil _ hne] at hzero
        have := hhead hzero
        omega

theorem decimal_numeral (n : ℕ) : Numeral (decimal n) where
  decimal := (decimal_digits n).1
  nonempty := (decimal_digits n).2.1
  leading := by
    rintro ⟨hhead,hlength⟩
    rw [(decimal_digits n).2.2 hhead,decimal_of_lt (by omega)] at hlength
    exact absurd hlength (by simp)

theorem prints_decimal (n : ℕ) : Prints (decimal n) (.number n 0) := by
  have h := Prints.number (decimal_numeral n)
  rwa [digitsValue_decimal] at h

theorem decimalInt_eq (z : ℤ) :
    decimalInt z=if 0 ≤ z then decimal z.toNat else 45::decimal (-z).toNat := by
  unfold decimalInt
  rw [GoText.toString_int_eq]
  split_ifs
  · rfl
  · rw [ascii_append]
    rfl

theorem prints_decimalInt (z : ℤ) : Prints (decimalInt z) (.number z 0) := by
  rw [decimalInt_eq]
  split_ifs with hsign
  · have h := prints_decimal z.toNat
    rwa [Int.toNat_of_nonneg hsign] at h
  · have h := Prints.negative (decimal_numeral (-z).toNat)
    rwa [digitsValue_decimal,Int.toNat_of_nonneg (by omega),Int.neg_neg] at h

/-- The digits of an integer need no escapes. -/
theorem decimalInt_plain (z : ℤ) : ∀ b∈decimalInt z, isPlain b=true ∧ b < 0x80 := by
  have hall : ∀ n : ℕ, ∀ b∈decimal n, isPlain b=true ∧ b < 0x80 := by
    intro n b hb
    have hdigit := of_decide_eq_true ((decimal_digits n).1 b hb)
    simp only [isPlain,decide_eq_true_eq,UInt8.le_iff_toNat_le,UInt8.lt_iff_toNat_lt,ne_eq,
      ←UInt8.toNat_inj,UInt8.reduceToNat] at hdigit ⊢
    omega
  rw [decimalInt_eq]
  split_ifs
  · exact hall z.toNat
  · rw [List.forall_mem_cons]
    exact ⟨by decide,hall (-z).toNat⟩

end Numbers

section Strings

/-- An escape of four hexadecimal digits prints its character. -/
theorem printsChar_appendUnicodeEscape {n : ℕ} (h : n < 0xD800 ∨ 0xDFFF < n ∧ n < 0x10000) :
    PrintsChar (appendUnicodeEscape [] n) (Char.ofNat n) := by
  have hhex : ∀ d < 16, hexValue (hexDigit d)=some d ∧ 32 ≤ hexDigit d := by decide
  have hvalue : ∀ m, hexValue (hexDigit (m%16))=some (m%16) ∧ 32 ≤ hexDigit (m%16) :=
    fun m => hhex _ (Nat.mod_lt m (by omega))
  refine PrintsChar.escape ?_ fun rest => ?_
  · simp only [List.forall_mem_cons]
    exact ⟨by decide,(hvalue _).2,(hvalue _).2,(hvalue _).2,(hvalue _).2,by simp⟩
  · have hparse : parseHex ([hexDigit (n/4096%16),hexDigit (n/256%16),hexDigit (n/16%16),
        hexDigit (n%16)] ++ rest)=some (n,rest) := by
      simp only [List.cons_append,List.nil_append,parseHex,(hvalue _).1]
      congr 2
      omega
    exact parseEscape_unicode hparse (by omega)

/-- An ASCII byte prints its character. -/
theorem printsChar_appendJSONASCII {value : UInt8} (h : value < 0x80) :
    PrintsChar (appendJSONASCII [] value) (Char.ofNat value.toNat) := by
  unfold appendJSONASCII
  split_ifs with hquote hb hf hn hr ht hlt hgt hand hcontrol
  · rcases hquote with rfl | rfl
    · exact PrintsChar.escape (by simp) fun _ => rfl
    · exact PrintsChar.escape (by simp) fun _ => rfl
  · rw [hb]
    exact PrintsChar.escape (by simp) fun _ => rfl
  · rw [hf]
    exact PrintsChar.escape (by simp) fun _ => rfl
  · rw [hn]
    exact PrintsChar.escape (by simp) fun _ => rfl
  · rw [hr]
    exact PrintsChar.escape (by simp) fun _ => rfl
  · rw [ht]
    exact PrintsChar.escape (by simp) fun _ => rfl
  · rw [hlt]
    exact printsChar_appendUnicodeEscape (by decide)
  · rw [hgt]
    exact printsChar_appendUnicodeEscape (by decide)
  · rw [hand]
    exact printsChar_appendUnicodeEscape (by decide)
  · have hbyte := value.toNat_lt
    exact printsChar_appendUnicodeEscape (by omega)
  · refine PrintsChar.plain (decide_eq_true ⟨UInt8.not_lt.mp hcontrol,h,?_,?_⟩)
    · exact fun heq => hquote (Or.inl heq)
    · exact fun heq => hquote (Or.inr heq)

/-- A unit of a string prints its character. -/
theorem printsChar_appendJSONUnit {value : Bytes} {unit : RuneUnit} (h : unit∈units value) :
    PrintsChar (appendJSONUnit [] unit) (Char.ofNat unit.rune) := by
  obtain ⟨first,rest,rfl⟩ := exists_of_mem_unitsFrom h
  obtain ⟨hwide,hbound⟩ := decodeRune_width first rest
  obtain ⟨width,hwidth⟩ : ∃ width, (decodeRune (first::rest)).2=width+1 :=
    ⟨_,(Nat.sub_add_cancel hwide).symm⟩
  unfold appendJSONUnit
  simp only [hwidth,List.take_succ_cons]
  split_ifs with hascii hinvalid hline
  · rw [decodeRune_ascii hascii]
    exact printsChar_appendJSONASCII hascii
  · unfold RuneUnit.invalid at hinvalid
    rw [Bool.and_eq_true,beq_iff_eq] at hinvalid
    have hrune : (decodeRune (first::rest)).1=runeError := hinvalid.1
    rw [hrune]
    exact printsChar_appendUnicodeEscape (by decide)
  · refine printsChar_appendUnicodeEscape ?_
    omega
  · have hvalid : decodeRune (first::rest)≠(runeError,1) := by
      intro heq
      rw [heq] at hwidth
      obtain rfl : width=0 := by omega
      exact hinvalid (by simp [RuneUnit.invalid,heq])
    have hsame := decodeRune_take first rest [] hvalid
    rw [List.append_nil,hwidth,List.take_succ_cons] at hsame
    have hclean : ∀ b∈rest.take width, 32 ≤ b := by
      have htail := decodeRune_tail hascii hvalid
      rw [hwidth,Nat.add_sub_cancel] at htail
      intro b hb
      exact UInt8.le_trans (by decide) (htail b hb)
    have hprints := @PrintsChar.rune first (rest.take width) hascii
    rw [hsame] at hprints
    refine hprints hvalid hclean ?_
    rw [hwidth] at hbound
    rw [hwidth,List.length_cons,List.length_take]
    rw [List.length_cons] at hbound
    omega

/-- A string is read back as the characters of its bytes. -/
theorem printsString_stringBody (value : Bytes) :
    PrintsString (stringBody value) (runes value) := by
  have hunits : ∀ parts : List RuneUnit,
      (∀ unit∈parts, PrintsChar (appendJSONUnit [] unit) (Char.ofNat unit.rune)) →
      PrintsString (parts.flatMap (appendJSONUnit []))
        (parts.map fun unit => Char.ofNat unit.rune) := by
    intro parts
    induction parts with
    | nil => exact fun _ => PrintsString.nil
    | cons unit rest ih =>
      intro hparts
      rw [List.forall_mem_cons] at hparts
      exact PrintsString.cons hparts.1 (ih hparts.2)
  exact hunits (units value) fun unit => printsChar_appendJSONUnit

theorem prints_string (value : Bytes) :
    Prints ([34] ++ stringBody value ++ [34]) (.string (runes value)) :=
  Prints.string (printsString_stringBody value)

/-- Bytes that stand for themselves are read back as the characters of their bytes. -/
theorem prints_plain {value : Bytes} (h : ∀ b∈value, isPlain b=true ∧ b < 0x80) :
    Prints ([34] ++ value ++ [34]) (.string (runes value)) := by
  rw [runes_ascii fun b hb => (h b hb).2]
  exact Prints.string (PrintsString.plain fun b hb => (h b hb).1)

theorem prints_syscallName (value : Bytes) :
    Prints (appendJSONSyscallName [] value) (.string (runes value)) := by
  unfold appendJSONSyscallName
  split_ifs with hname
  · unfold isJSONIdentifier at hname
    rw [Bool.and_eq_true,List.all_eq_true] at hname
    refine prints_plain fun b hb => ?_
    have hchar := hname.2 b hb
    simp only [Bool.or_eq_true,Bool.and_eq_true,decide_eq_true_eq,beq_iff_eq,isPlain,
      UInt8.le_iff_toNat_le,UInt8.lt_iff_toNat_lt,ne_eq,←UInt8.toNat_inj,
      UInt8.reduceToNat] at hchar ⊢
    omega
  · rw [appendJSONString_eq]
    exact prints_string value

theorem prints_base64 (bytes : Bytes) :
    Prints ([34] ++ base64 bytes ++ [34]) (.string (runes (base64 bytes))) := by
  refine prints_plain fun b hb => ?_
  have hchar := base64_alphabet bytes b hb
  have hcases : (65 ≤ b ∧ b ≤ 90) ∨ (97 ≤ b ∧ b ≤ 122) ∨ (48 ≤ b ∧ b ≤ 57) ∨
      b=43 ∨ b=47 ∨ b=61 := by
    unfold isBase64Char base64Value at hchar
    split_ifs at hchar <;> simp_all
  simp only [decide_eq_true_eq,isPlain,UInt8.le_iff_toNat_le,UInt8.lt_iff_toNat_lt,ne_eq,
    ←UInt8.toNat_inj,UInt8.reduceToNat] at hcases ⊢
  omega

/-- Strings are read back one by one. -/
theorem prints_stringArray (values : List Bytes) :
    Prints (appendJSONStringArray [] values)
      (.array (values.map fun value => .string (runes value))) := by
  have h := Prints.array (values.map fun value => ⟨_,_,prints_string value⟩)
  rw [List.map_map,List.map_map] at h
  unfold appendJSONStringArray
  rw [appendJSONArray_eq appendJSONString_eq]
  exact h

theorem prints_uint64Array (values : Vector UInt64 6) :
    Prints ([91] ++ joined (values.toList.map fun value => decimal value.toNat) ++ [93])
      (.array (values.toList.map fun value => .number value.toNat 0)) := by
  have h := Prints.array (values.toList.map fun value => ⟨_,_,prints_decimal value.toNat⟩)
  rw [List.map_map,List.map_map] at h
  exact h

end Strings

section Sections

/-- A section carries bytes, raw or as their base64 text. -/
def Carries (value : JsonPayloadSection) (bytes : Bytes) : Prop :=
  value.rawData=some bytes ∧ value.dataBase64=[] ∨
    value.rawData=none ∧ value.dataBase64=base64 bytes

/-- Base64 text of a section. -/
def dataText (value : JsonPayloadSection) : Bytes :=
  match value.rawData with
  | some raw => base64 raw
  | none => value.dataBase64

theorem Carries.dataText_eq {value : JsonPayloadSection} {bytes : Bytes}
    (h : Carries value bytes) : dataText value=base64 bytes := by
  unfold dataText
  rcases h with ⟨hraw,-⟩ | ⟨hraw,htext⟩
  · rw [hraw]
  · rw [hraw]
    exact htext

/-- The text of a section is there when one of its two sources is. -/
theorem Carries.dataText_ne_nil {value : JsonPayloadSection} {bytes : Bytes}
    (h : Carries value bytes) :
    (value.rawData.getD []≠[] ∨ value.dataBase64≠[]) ↔ dataText value≠[] := by
  have hnil : base64 bytes=[] ↔ bytes=[] := by
    constructor
    · exact base64_eq_nil
    · rintro rfl
      rfl
  rw [h.dataText_eq]
  simp only [ne_eq,hnil]
  rcases h with ⟨hraw,htext⟩ | ⟨hraw,htext⟩
  · simp [hraw,htext]
  · simp [hraw,htext,hnil]

/-- Fields of a section. -/
def sectionFields (value : JsonPayloadSection) : List Field :=
  [⟨"kind",false,.string (runes value.kind)⟩,
    ⟨"direction",false,.string (runes value.direction)⟩,
    ⟨"arg_index",false,.number value.argIndex.toInt 0⟩,
    ⟨"user_ptr",value.userPtr==0,.number value.userPtr.toNat 0⟩,
    ⟨"user_len",value.userLen==0,.number value.userLen.toNat 0⟩,
    ⟨"copied_len",false,.number value.copiedLen.toNat 0⟩,
    ⟨"probe_ret",false,.number value.probeRet.toInt 0⟩,
    ⟨"data_base64",dataText value==[],.string (runes (dataText value))⟩]

/-- Keys of a section. -/
theorem sectionFields_keys (value : JsonPayloadSection) :
    (sectionFields value).map Field.key=["kind","direction","arg_index","user_ptr","user_len",
      "copied_len","probe_ret","data_base64"] := rfl

theorem sectionFields_nodup (value : JsonPayloadSection) :
    ((sectionFields value).map Field.key).Nodup := by
  rw [sectionFields_keys]
  decide

theorem plainKey_sectionFields (value : JsonPayloadSection) :
    ∀ field∈sectionFields value, plainKey field.key=true := by
  have hkeys : ∀ key∈(sectionFields value).map Field.key, plainKey key=true := by
    rw [sectionFields_keys]
    decide
  intro field hfield
  exact hkeys field.key (List.mem_map_of_mem hfield)

/-- A field that is always written prints from its value. -/
theorem printsField_always {key : String} {token text : Bytes} {value : Json}
    (htoken : token=[34] ++ ascii key ++ [34,58]) (h : Prints text value) :
    PrintsField (fieldPiece token text) ⟨key,false,value⟩ := by
  unfold PrintsField
  rw [if_neg (by simp)]
  exact ⟨text,h,by rw [htoken]; rfl⟩

/-- A field that is left out under a condition prints from its value. -/
theorem printsField_unless {c : Prop} [Decidable c] {key : String} {omitted : Bool}
    {token text : Bytes} {value : Json} (hc : c ↔ omitted=false)
    (htoken : token=[34] ++ ascii key ++ [34,58]) (h : Prints text value) :
    PrintsField (if c then fieldPiece token text else []) ⟨key,omitted,value⟩ := by
  cases omitted with
  | false =>
    rw [if_pos (hc.mpr rfl)]
    exact printsField_always htoken h
  | true =>
    rw [if_neg fun hwritten => Bool.noConfusion (hc.mp hwritten)]
    rfl

/-- Pieces of a section behind its kind. -/
def sectionPieces (value : JsonPayloadSection) : List Bytes :=
  [fieldPiece (ascii "\"direction\":") ([34] ++ stringBody value.direction ++ [34]),
    fieldPiece (ascii "\"arg_index\":") (decimalInt value.argIndex.toInt),
    if value.userPtr≠0 then
      fieldPiece (ascii "\"user_ptr\":") (decimal value.userPtr.toNat) else [],
    if value.userLen≠0 then
      fieldPiece (ascii "\"user_len\":") (decimal value.userLen.toNat) else [],
    fieldPiece (ascii "\"copied_len\":") (decimal value.copiedLen.toNat),
    fieldPiece (ascii "\"probe_ret\":") (decimalInt value.probeRet.toInt),
    if dataText value≠[] then
      fieldPiece (ascii "\"data_base64\":") ([34] ++ dataText value ++ [34]) else []]

theorem appendJSONPayloadSection_pieces {value : JsonPayloadSection} {bytes : Bytes}
    (h : Carries value bytes) :
    appendJSONPayloadSection [] value=
      [123] ++ ([34] ++ ascii "kind" ++ [34,58] ++ ([34] ++ stringBody value.kind ++ [34])) ++
        (sectionPieces value).flatten ++ [125] := by
  have hdata : ∀ fields : JsonPayloadSectionFields, fields.rawData=value.rawData →
      fields.dataBase64=value.dataBase64 → appendJSONPayloadData [] fields=dataText value := by
    intro fields hraw htext
    unfold appendJSONPayloadData dataText
    rw [hraw,htext]
    cases value.rawData <;> rfl
  have hlen : ∀ n : UInt32, n.toUInt64≠0 ↔ n≠0 := by
    intro n
    simp [←UInt64.toNat_inj,←UInt32.toNat_inj]
  unfold appendJSONPayloadSection
  rw [appendJSONPayloadSectionFields_eq,hdata _ rfl rfl]
  simp only [h.dataText_ne_nil,hlen,UInt32.toNat_toUInt64,Int32.toInt_toInt64,sectionPieces,
    fieldPiece,List.flatten_cons,List.flatten_nil,List.append_assoc,List.append_nil,List.nil_append]
  rfl

/-- A section is read back as its fields. -/
theorem prints_section {value : JsonPayloadSection} {bytes : Bytes} (h : Carries value bytes) :
    Prints (appendJSONPayloadSection [] value) (.object (written (sectionFields value))) := by
  have hpieces : List.Forall₂ PrintsField (sectionPieces value) (sectionFields value).tail := by
    unfold sectionPieces sectionFields
    simp only [List.tail_cons,List.forall₂_cons,List.forall₂_nil_left_iff,and_true]
    refine ⟨printsField_always rfl (prints_string _),printsField_always rfl (prints_decimalInt _),
      printsField_unless (by simp) rfl (prints_decimal _),
      printsField_unless (by simp) rfl (prints_decimal _),
      printsField_always rfl (prints_decimal _),printsField_always rfl (prints_decimalInt _),
      printsField_unless (by simp) rfl ?_⟩
    rw [h.dataText_eq]
    exact prints_base64 bytes
  rw [appendJSONPayloadSection_pieces h]
  exact Prints.fields ⟨"kind",false,.string (runes value.kind)⟩ rfl (prints_string value.kind)
    hpieces (plainKey_sectionFields value)

/-- Sections are read back one by one. -/
theorem prints_sections {values : List JsonPayloadSection}
    (h : ∀ value∈values, ∃ bytes, Carries value bytes) :
    Prints (appendJSONPayloadSections [] values)
      (.array (values.map fun value => .object (written (sectionFields value)))) := by
  have hprints : ∀ value : {value // value∈values}, Prints (appendJSONPayloadSection [] value.1)
      (.object (written (sectionFields value.1))) := by
    intro value
    obtain ⟨bytes,hbytes⟩ := h value.1 value.2
    exact prints_section hbytes
  have harray := Prints.array (values.attach.map fun value => ⟨_,_,hprints value⟩)
  rw [List.map_map,List.map_map] at harray
  have htexts := List.attach_map_val (l := values) (f := appendJSONPayloadSection [])
  have hvalues := List.attach_map_val (l := values)
    (f := fun value => Json.object (written (sectionFields value)))
  unfold appendJSONPayloadSections
  rw [appendJSONArray_eq appendJSONPayloadSection_eq,List.nil_append,←htexts,←hvalues]
  exact harray

end Sections

section Lines

variable {V : Type} (texts : Texts V)

/-- The short path writes the text of the return value. -/
theorem formatSyscallRet_plain {name : Bytes} {ret : Int64} {res : Result}
    {ctx : Option (Context V)} (h : canAppendPlainSyscallReturn name ret res ctx=true) :
    formatSyscallRet texts name ret res ctx=decimalInt ret.toInt := by
  unfold canAppendPlainSyscallReturn at h
  split_ifs at h with hplain hpath
  simp only [not_or,not_not,Bool.not_eq_true] at hplain
  obtain ⟨hsign,hdesc,hshow⟩ := hplain
  simp only [List.contains_eq_mem,List.mem_cons,List.not_mem_nil,or_false,Bool.not_eq_true',
    decide_eq_false_iff_not,not_or] at h
  obtain ⟨hexit,hgroup,hfcntl,hfcntl64,humask,hbrk,hmmap,hmremap,hadjtimex,hclock⟩ := h
  have hfd : isFcntlFDStateSyscall name=false := by
    simp [isFcntlFDStateSyscall,hfcntl,hfcntl64]
  unfold formatSyscallRet
  cases ctx <;>
    simp [hexit,hgroup,hpath,hfd,humask,hbrk,hmmap,hmremap,hadjtimex,hclock,hsign,hdesc,hshow]

theorem prints_return (name : Bytes) (ret : Int64) (res : Result) (ctx : Option (Context V)) :
    Prints (appendJSONSyscallReturn texts [] name ret res ctx)
      (.string (runes (formatSyscallRet texts name ret res ctx))) := by
  unfold appendJSONSyscallReturn
  split_ifs with hplain
  · rw [formatSyscallRet_plain texts hplain]
    exact prints_plain (decimalInt_plain ret.toInt)
  · rw [appendJSONString_eq]
    exact prints_string _

/-- Text of an event's return value: the one it has, else the one rendered with the line. -/
def lineReturnText (event : JsonSyscallEvent V) : Bytes :=
  if event.returnText≠[] then event.returnText
  else formatSyscallRet texts event.returnTextName event.returnTextRet event.returnTextRes
    event.returnTextCtx

/-- Fields of an integrity stamp. -/
def integrityFields (integrity : RecordIntegrity) : List Field :=
  [⟨"cpu",integrity.cpu==0,.number integrity.cpu.toNat 0⟩,
    ⟨"seq",integrity.sequence==0,.number integrity.sequence.toNat 0⟩,
    ⟨"loss_epoch",integrity.lossEpoch==0,.number integrity.lossEpoch.toNat 0⟩,
    ⟨"record_index",integrity.record==0,.number integrity.record.toNat 0⟩,
    ⟨"tainted",!integrity.tainted,.bool integrity.tainted⟩,
    ⟨"integrity_epoch",integrity.epoch==0,.number integrity.epoch.toNat 0⟩,
    ⟨"correlation_tainted",!integrity.correlationTainted,.bool integrity.correlationTainted⟩,
    ⟨"unsequenced",!integrity.unsequenced,.bool integrity.unsequenced⟩,
    ⟨"tainted_domains",integrity.domains.getD []==[],
      .array ((integrity.domains.getD []).map fun domain => .string (runes domain))⟩]

/-- Fields of an event. -/
def eventFields (event : JsonSyscallEvent V) : List Field :=
  [⟨"type",false,.string (runes event.type)⟩,
    ⟨"event_version",event.eventVersion==0,.number event.eventVersion.toNat 0⟩,
    ⟨"event_type",false,.string (runes event.eventType)⟩,
    ⟨"event_type_id",event.eventTypeID==0,.number event.eventTypeID.toNat 0⟩,
    ⟨"event_flags",event.eventFlags==0,.number event.eventFlags.toNat 0⟩,
    ⟨"pid",false,.number event.pid.toNat 0⟩,
    ⟨"tid",false,.number event.tid.toNat 0⟩,
    ⟨"sys_id",false,.number event.sysID.toNat 0⟩,
    ⟨"syscall",false,.string (runes event.syscall)⟩,
    ⟨"args",false,.array (event.args.toList.map fun value => .number value.toNat 0)⟩,
    ⟨"arg_text",event.argText==[],.array (event.argText.map fun value => .string (runes value))⟩,
    ⟨"ret",false,.number event.ret.toInt 0⟩,
    ⟨"return_text",event.returnText==[] && !event.hasReturnText,
      .string (runes (lineReturnText texts event))⟩,
    ⟨"failed",false,.bool event.failed⟩,
    ⟨"errno",event.errno==0,.number event.errno.toInt 0⟩,
    ⟨"duration_ns",false,.number event.durationNS.toNat 0⟩,
    ⟨"enter_time_ns",false,.number event.enterTimeNS.toNat 0⟩,
    ⟨"stack_id",false,.number event.stackID.toInt 0⟩,
    ⟨"payload_sections",event.payloadSections.isEmpty,
      .array (event.payloadSections.map fun value => .object (written (sectionFields value)))⟩,
    ⟨"probe_ret_enter",false,.number event.probeRetEnter.toInt 0⟩,
    ⟨"probe_ret_exit",false,.number event.probeRetExit.toInt 0⟩,
    ⟨"paired_enter",!event.pairedEnter,.bool event.pairedEnter⟩] ++
  integrityFields event.integrity

theorem eventFields_keys (event : JsonSyscallEvent V) :
    (eventFields texts event).map Field.key=["type","event_version","event_type","event_type_id",
      "event_flags","pid","tid","sys_id","syscall","args","arg_text","ret","return_text","failed",
      "errno","duration_ns","enter_time_ns","stack_id","payload_sections","probe_ret_enter",
      "probe_ret_exit","paired_enter","cpu","seq","loss_epoch","record_index","tainted",
      "integrity_epoch","correlation_tainted","unsequenced","tainted_domains"] := rfl

theorem eventFields_nodup (event : JsonSyscallEvent V) :
    ((eventFields texts event).map Field.key).Nodup := by
  rw [eventFields_keys]
  decide

theorem plainKey_eventFields (event : JsonSyscallEvent V) :
    ∀ field∈eventFields texts event, plainKey field.key=true := by
  have hkeys : ∀ key∈(eventFields texts event).map Field.key, plainKey key=true := by
    rw [eventFields_keys]
    decide
  intro field hfield
  exact hkeys field.key (List.mem_map_of_mem hfield)

/-- A truth value that is written only when it holds. -/
theorem printsField_flag {key : String} {token : Bytes} (value : Bool)
    (htoken : token=[34] ++ ascii key ++ [34,58]) :
    PrintsField (if value then fieldPiece token (ascii "true") else [])
      ⟨key,!value,.bool value⟩ := by
  cases value with
  | false => rfl
  | true => exact printsField_always htoken (Prints.bool true)

theorem printsField_integrity (integrity : RecordIntegrity) :
    List.Forall₂ PrintsField (integrityPieces integrity) (integrityFields integrity) := by
  have hcpu : integrity.cpu.toUInt64≠0 ↔ (integrity.cpu==0)=false := by
    simp [←UInt64.toNat_inj,←UInt32.toNat_inj]
  unfold integrityPieces integrityFields
  simp only [UInt32.toNat_toUInt64,List.forall₂_cons,List.forall₂_nil_left_iff,and_true]
  exact ⟨printsField_unless hcpu rfl (prints_decimal _),
    printsField_unless (by simp) rfl (prints_decimal _),
    printsField_unless (by simp) rfl (prints_decimal _),
    printsField_unless (by simp) rfl (prints_decimal _),
    printsField_flag _ rfl,printsField_unless (by simp) rfl (prints_decimal _),
    printsField_flag _ rfl,printsField_flag _ rfl,
    printsField_unless (by simp) rfl (prints_stringArray _)⟩

theorem printsField_return (event : JsonSyscallEvent V) :
    PrintsField (returnPiece texts event)
      ⟨"return_text",event.returnText==[] && !event.hasReturnText,
        .string (runes (lineReturnText texts event))⟩ := by
  unfold returnPiece lineReturnText
  by_cases htext : event.returnText≠[]
  · have hwritten : (event.returnText==[] && !event.hasReturnText)=false := by simp [htext]
    rw [if_pos htext,if_pos htext,hwritten]
    exact printsField_always rfl (prints_string _)
  · rw [if_neg htext,if_neg htext,not_not.mp htext]
    cases event.hasReturnText with
    | false => rfl
    | true => exact printsField_always rfl (prints_return texts _ _ _ _)

/-- Every piece of the line prints its field of the table. -/
theorem printsField_event (event : JsonSyscallEvent V)
    (h : ∀ value∈event.payloadSections, ∃ bytes, Carries value bytes) :
    List.Forall₂ PrintsField (eventPieces texts event) (eventFields texts event).tail := by
  have hshort : ∀ n : UInt16, n.toUInt64≠0 ↔ (n==0)=false := by
    intro n
    simp [←UInt64.toNat_inj,←UInt16.toNat_inj]
  have hflags : event.eventFlags.toUInt64≠0 ↔ (event.eventFlags==0)=false := by
    simp [←UInt64.toNat_inj,←UInt32.toNat_inj]
  unfold eventPieces eventFields
  simp only [List.cons_append,List.nil_append,List.tail_cons,UInt16.toNat_toUInt64,
    UInt32.toNat_toUInt64,Int32.toInt_toInt64,List.forall₂_cons]
  exact ⟨printsField_unless (hshort _) rfl (prints_decimal _),
    printsField_always rfl (prints_string _),
    printsField_unless (hshort _) rfl (prints_decimal _),
    printsField_unless hflags rfl (prints_decimal _),
    printsField_always rfl (prints_decimal _),printsField_always rfl (prints_decimal _),
    printsField_always rfl (prints_decimal _),printsField_always rfl (prints_syscallName _),
    printsField_always rfl (prints_uint64Array _),
    printsField_unless (by simp) rfl (prints_stringArray _),
    printsField_always rfl (prints_decimalInt _),printsField_return texts event,
    printsField_always rfl (Prints.bool _),
    printsField_unless (by simp) rfl (prints_decimalInt _),
    printsField_always rfl (prints_decimal _),printsField_always rfl (prints_decimal _),
    printsField_always rfl (prints_decimalInt _),
    printsField_unless Iff.rfl rfl (prints_sections h),
    printsField_always rfl (prints_decimalInt _),printsField_always rfl (prints_decimalInt _),
    printsField_flag _ rfl,printsField_integrity event.integrity⟩

/-- The line of an event is a text without control bytes that parses to its fields. -/
theorem exists_line (event : JsonSyscallEvent V)
    (h : ∀ value∈event.payloadSections, ∃ bytes, Carries value bytes) :
    ∃ line, Prints line (.object (written (eventFields texts event))) ∧
      ∀ dst, appendJSONSyscallEvent texts dst (some event)=dst ++ (line ++ [10]) := by
  refine ⟨_,Prints.fields ⟨"type",false,.string (runes event.type)⟩ rfl (prints_string event.type)
    (printsField_event texts event h) (plainKey_eventFields texts event),fun dst => ?_⟩
  rw [appendJSONSyscallEvent_eq]
  have htoken : ascii "\"type\":"=[34] ++ ascii "type" ++ [34,58] := rfl
  rw [htoken]

/-- Every line ends with its only newline, has no other control byte and parses to an
object with distinct keys that holds every field of the event, where a key is absent exactly when
its field is left out; the captured memory decodes to the bytes of its section. -/
theorem syscall_line_lossless (event : JsonSyscallEvent V)
    (h : ∀ value∈event.payloadSections, ∃ bytes, Carries value bytes) (dst : Bytes) :
    ∃ line, appendJSONSyscallEvent texts dst (some event)=dst ++ (line ++ [10]) ∧
      (line ++ [10]).count 10=1 ∧ (∀ b∈line, 0x20 ≤ b) ∧
      parse (line ++ [10])=some (.object (written (eventFields texts event))) ∧
      ((written (eventFields texts event)).map Prod.fst).Nodup ∧
      (∀ field∈eventFields texts event,
        (written (eventFields texts event)).lookup field.key.toList=
          if field.omitted then none else some field.value) ∧
      ∀ value∈event.payloadSections,
        ((written (sectionFields value)).map Prod.fst).Nodup ∧
        (∀ field∈sectionFields value, (written (sectionFields value)).lookup field.key.toList=
          if field.omitted then none else some field.value) ∧
        ∀ bytes, Carries value bytes →
          decodeBase64 (dataText value)=some bytes ∧ (dataText value=[] ↔ bytes=[]) := by
  obtain ⟨line,hprints,hline⟩ := exists_line texts event h
  have hnewline : 10∉line := fun hmem => absurd (hprints.clean 10 hmem) (by decide)
  refine ⟨line,hline dst,?_,hprints.clean,hprints.parse_line,
    written_nodup (eventFields_nodup texts event),
    fun field hfield => lookup_written (eventFields_nodup texts event) hfield,fun value _ => ?_⟩
  · rw [List.count_append,List.count_eq_zero_of_not_mem hnewline]
    rfl
  · refine ⟨written_nodup (sectionFields_nodup value),
      fun field hfield => lookup_written (sectionFields_nodup value) hfield,fun bytes hbytes => ?_⟩
    rw [hbytes.dataText_eq]
    refine ⟨decodeBase64_base64 bytes,base64_eq_nil,?_⟩
    rintro rfl
    rfl

/-- A failed `open` with a captured path and a buffer whose base64 text is known. -/
def openExit : JsonSyscallEvent Unit where
  type := ascii "syscall"
  eventType := ascii "exit"
  eventTypeID := 2
  syscall := ascii "open"
  ret := -2
  failed := true
  errno := 2
  payloadSections := [
    {kind := ascii "string", direction := ascii "enter", argIndex := 0, userPtr := 4096,
      userLen := 3, copiedLen := 3, probeRet := 0, rawData := some [47,255,10]},
    {kind := ascii "buffer", direction := ascii "exit", argIndex := 1, userPtr := 0,
      userLen := 0, copiedLen := 2, probeRet := -14, dataBase64 := ascii "AP8="}]

theorem syscall_line_lossless_open :
    ∃ line, appendJSONSyscallEvent untrackedTexts [] (some openExit)=line ++ [10] ∧
      parse (line ++ [10])=some (.object (written (eventFields untrackedTexts openExit))) := by
  have hsections : ∀ value∈openExit.payloadSections, ∃ bytes, Carries value bytes := by
    unfold openExit
    simp only [List.forall_mem_cons]
    exact ⟨⟨[47,255,10],Or.inl ⟨rfl,rfl⟩⟩,⟨[0,255],Or.inr ⟨rfl,by decide⟩⟩,by simp⟩
  obtain ⟨line,hline,-,-,hparse,-⟩ := syscall_line_lossless untrackedTexts openExit hsections []
  exact ⟨line,hline,hparse⟩

/-- The text of the return value on the line. -/
theorem lookup_return_text (event : JsonSyscallEvent V) :
    (written (eventFields texts event)).lookup "return_text".toList=
      if (event.returnText==[] && !event.hasReturnText)=true then none
      else some (.string (runes (lineReturnText texts event))) := by
  have hfield : ⟨"return_text",event.returnText==[] && !event.hasReturnText,
      .string (runes (lineReturnText texts event))⟩∈eventFields texts event := by
    unfold eventFields
    exact List.mem_append_left _ (by simp only [List.mem_cons,true_or,or_true])
  exact lookup_written (eventFields_nodup texts event) hfield

/-- An event without a text of its return value may still have one on its line: it is
rendered there. -/
theorem return_text_rendered :
    (newJSONDecodedSyscallEvent untrackedTexts getpidExit {}).returnText=[] ∧
    (newJSONDecodedSyscallEvent untrackedTexts getpidExit {}).payloadSections=[] ∧
    ∃ members, parse (appendJSONSyscallEvent untrackedTexts []
        (some (newJSONDecodedSyscallEvent untrackedTexts getpidExit {})))=some (.object members) ∧
      members.lookup "return_text".toList=some (.string "101".toList) := by
  have hsections : ∀ value∈
      (newJSONDecodedSyscallEvent untrackedTexts getpidExit {}).payloadSections,
      ∃ bytes, Carries value bytes := fun value hvalue => absurd hvalue List.not_mem_nil
  obtain ⟨line,hprints,hline⟩ := exists_line untrackedTexts _ hsections
  have hlookup := lookup_return_text untrackedTexts (newJSONDecodedSyscallEvent untrackedTexts
    getpidExit {})
  have htext : runes (lineReturnText untrackedTexts (newJSONDecodedSyscallEvent untrackedTexts
      getpidExit {}))="101".toList := by decide
  rw [htext] at hlookup
  have hparse := hprints.parse_line
  rw [←List.nil_append (line ++ [10]),←hline] at hparse
  exact ⟨rfl,rfl,_,hparse,hlookup⟩

end Lines

end StraceGo.JsonSyscallLines

import StraceGo.ByteLayout
import StraceGo.EventEnvelope
import StraceGo.MachineIntegers
import StraceGo.StringRendering

/-!
# Dumps of vectored input and output

Decoding of a captured array of buffers, and the distribution of the bytes that
a call has transferred over them. Both functions that walk the array read the
same entries and fill them in order; the requested number of buffers is
converted to a signed number, so a count of the upper half of the unsigned range
is negative when the entries are counted.
-/

namespace StraceGo.IovecDumps

open ByteLayout EventEnvelope GoText MachineIntegers StringRendering

/-- Size of an entry. -/
def iovecSize : ℕ := 16

/-- Number of entries that are shown at most. -/
def iovecDisplayLimit : ℤ := 16

/-- Number of entries whose buffers are captured. -/
def iovecBasePayloadSlotLimit : ℤ := 7

/-- Options the formatter reads. -/
structure IovecOptions where
  /-- String limit. -/
  stringLimit : ℤ
  /-- Whether writes to a descriptor are dumped. -/
  traceWriteFD : Int32 → Bool
  /-- Whether reads from a descriptor are dumped. -/
  traceReadFD : Int32 → Bool

/-- What the formatter reads of its context. -/
structure IovecContext where
  /-- Name of the syscall. -/
  sysName : String
  /-- First argument. -/
  descriptor : UInt64
  /-- Return value. -/
  ret : Int64
  /-- Result of the exit probe. -/
  probeRetExit : Int32
  /-- Thread that made the call. -/
  tid : Int32
  /-- Options, if there are any. -/
  opts : Option IovecOptions
  /-- Escape mode of the decoder. -/
  escapeMode : ℤ
  /-- Captured sections. -/
  payloadSections : List PayloadSection

/-- An entry of the array. -/
structure IovecEntry where
  /-- Its position. -/
  slot : ℕ
  /-- Address of its buffer. -/
  base : UInt64
  /-- Length of its buffer. -/
  length : UInt64
  deriving DecidableEq

/-- An entry with what is shown of it. -/
structure DisplayedEntry where
  /-- The entry. -/
  entry : IovecEntry
  /-- Number of bytes that are accounted to it. -/
  displayLength : UInt64
  /-- Text that is written for it. -/
  text : String

section Sections

/-- Edge on which the buffers are captured: at the end of a call that fills them. -/
def iovecBasePayloadDirection (ctx : IovecContext) (argIndex : ℤ) : Option PayloadDirection :=
  if argIndex≠1 ∧ argIndex≠151 ∧ argIndex≠181 ∧ argIndex≠211 then none
  else
    match ctx.sysName with
    | "writev" | "pwritev" | "pwritev2" | "vmsplice" | "process_vm_writev" | "sendmsg"
    | "sendmmsg" => some .input
    | "readv" | "preadv" | "preadv2" | "process_vm_readv" | "recvmsg" | "recvmmsg" => some .output
    | _ => none

/-- Argument of the captured buffer of an entry. -/
def iovecBasePayloadArgIndex (argIndex : ℤ) (slot : ℕ) : ℤ :=
  match argIndex with
  | 1 => 120+slot
  | 3 => 140+slot
  | 151 => 160+slot
  | 181 => 180+slot
  | 211 => 200+slot
  | _ => -1

/-- Captured buffer of an entry. -/
def iovecBasePayloadSection (ctx : IovecContext) (argIndex : ℤ) (slot : ℕ) (base : UInt64)
    (direction : PayloadDirection) : Option PayloadSection :=
  let payloadArg := iovecBasePayloadArgIndex argIndex slot
  if payloadArg < 0 then none
  else ctx.payloadSections.find? fun s => s.argIndex==payloadArg && s.kind==.bytes &&
    s.direction==direction && s.probeRet==0 && decide (s.data≠[]) &&
    (s.userPtr==0 || s.userPtr==base)

/-- Captured array. -/
def iovecPayloadSection (ctx : IovecContext) (argIndex : ℤ) (direction : PayloadDirection) :
    Option PayloadSection :=
  ctx.payloadSections.find? fun s => s.argIndex==argIndex && s.kind==.iovec &&
    s.direction==direction && s.probeRet==0 && decide (s.data≠[])

/-- Number of entries that are shown at most. -/
def iovecDisplayLimitForContext (ctx : IovecContext) (argIndex : ℤ) : ℤ :=
  match ctx.opts with
  | none => iovecDisplayLimit
  | some opts =>
    if opts.stringLimit ≤ 0 then iovecDisplayLimit
    else
      let limit := if opts.stringLimit < iovecDisplayLimit then opts.stringLimit
        else iovecDisplayLimit
      if (iovecBasePayloadDirection ctx argIndex).isSome=true ∧ iovecBasePayloadSlotLimit < limit
      then iovecBasePayloadSlotLimit else limit

/-- Number of entries to read: the requested one as a signed number, up to the display limit. -/
def readCount (ctx : IovecContext) (argIndex : ℤ) (count : UInt64) : ℤ :=
  if iovecDisplayLimitForContext ctx argIndex < int64 count.toNat then
    iovecDisplayLimitForContext ctx argIndex
  else int64 count.toNat

/-- Number of entries that are shown of some captured ones. -/
def displayCount (ctx : IovecContext) (argIndex : ℤ) (count : UInt64) (data : List UInt8) : ℤ :=
  if readCount ctx argIndex count < (data.length/iovecSize : ℕ) then readCount ctx argIndex count
  else (data.length/iovecSize : ℕ)

/-- Entry at a position of the captured array. -/
def iovecEntryAt (data : List UInt8) (slot : ℕ) : Checked IovecEntry := do
  let base ← uint64At data (slot*iovecSize)
  let length ← uint64At data (slot*iovecSize+8)
  return ⟨slot,base,length⟩

end Sections

section Distribution

/-- Number of bytes to account to a buffer, and the bytes that remain for the next ones. -/
def iovecOutDisplayLength (iovLen : UInt64) (remaining : ℤ) : UInt64×ℤ :=
  if remaining ≤ 0 then (0,remaining)
  else if iovLen.toNat ≤ uint64 remaining then (iovLen,int64 (remaining-int64 iovLen.toNat))
  else (UInt64.ofNat (uint64 remaining),0)

/-- Bytes to distribute over the buffers of a call that has filled them; negative if none are. -/
def iovecBasePayloadOutRemaining (ctx : IovecContext) (argIndex : ℤ) : ℤ :=
  match iovecBasePayloadDirection ctx argIndex with
  | some .output => if ctx.ret.toInt < 0 ∨ ctx.probeRetExit.toInt < 0 then -1 else ctx.ret.toInt
  | _ => -1

end Distribution

section Texts

/-- Bytes up to a length. -/
def cutTo (length : UInt64) (data : List UInt8) : Checked (List UInt8) :=
  if length.toNat < data.length then slice data 0 length.toNat else some data

/-- Text of the captured bytes of a buffer. -/
def iovecBasePayloadString (ctx : IovecContext) (argIndex : ℤ) (entry : IovecEntry)
    (displayLength : UInt64) : Checked (Option String) :=
  match iovecBasePayloadDirection ctx argIndex with
  | none => some none
  | some direction =>
    if entry.length=0 ∨ displayLength=0 then some (some "\"\"")
    else
      match iovecBasePayloadSection ctx argIndex entry.slot entry.base direction with
      | none => some none
      | some section' => do
        let data ← cutTo displayLength section'.data
        let limit := int64 displayLength.toNat
        let limit :=
          match ctx.opts with
          | some opts => if 0 < opts.stringLimit ∧ opts.stringLimit < limit then opts.stringLimit
            else limit
          | none => limit
        return some (bufferEscape data limit (int64 displayLength.toNat) ctx.escapeMode)

/-- Text of a buffer: its bytes, or its address. -/
def formatIovecBase (ctx : IovecContext) (argIndex : ℤ) (entry : IovecEntry)
    (displayLength : UInt64) : Checked String :=
  if entry.base=0 then some "NULL"
  else do
    match ← iovecBasePayloadString ctx argIndex entry displayLength with
    | some text => return text
    | none => return prefixedHex entry.base.toNat

/-- Text behind the shown entries when the array has more. -/
def iovecEllipsisSuffix (captured : PayloadSection) (addr requestedCount : UInt64)
    (shown actualCount displayLimit : ℤ) : String :=
  if captured.copiedLen < captured.userLen ∧
      (actualCount < displayLimit ∨ requestedCount.toNat ≤ uint64 (displayLimit+1)) then
    ", ... /* " ++ prefixedHex (uint64 (addr.toNat+uint64 (shown*iovecSize))) ++ " */]"
  else ", ...]"

/-- Row of a dump: its offset, its bytes, and those of them that are printable. -/
def hexdumpRow (width offset : ℕ) (row : List UInt8) : String :=
  let cells := row.mapIdx fun j b => (if j=8 then " " else "") ++ twoDigits b ++ " "
  let hexStr := trimSuffix (String.join cells) " "
  let asciiStr := String.ofList (row.map fun b =>
    if 32 ≤ b ∧ b ≤ 126 then Char.ofNat b.toNat else '.')
  " | " ++ String.ofList ((hex offset).toList.leftpad width '0') ++ "  " ++
    String.ofList (hexStr.toList.rightpad 48 ' ') ++ "  " ++
    String.ofList (asciiStr.toList.rightpad 16 ' ') ++ " |"

/-- Dump of some bytes, sixteen to a row. -/
def hexdump (data : List UInt8) (targetSize : ℤ) : Checked String := do
  let maxOff := if data=[] then 0 else targetSize-1
  let width := if 0xfffffff < maxOff then 8 else if 0xffffff < maxOff then 7
    else if 0xfffff < maxOff then 6 else 5
  let rows ← (List.range ((data.length+15)/16)).mapM fun i => do
    return hexdumpRow width (i*16) (← slice data (i*16) (min (i*16+16) data.length))
  return if rows=[] then "" else "\n".intercalate rows ++ "\n"

/-- Note about the bytes of a buffer that were not captured. -/
def appendIovecCannotFetch (ctx : IovecContext) (base dumpLen : UInt64) (copied : ℕ) : String :=
  if dumpLen.toNat ≤ copied then ""
  else
    let miss := int64 (int64 dumpLen.toNat-copied)
    " | <Cannot fetch " ++ toString miss ++ " " ++ (if miss=1 then "byte" else "bytes") ++
      " from pid " ++ toString ctx.tid.toInt ++ " @0x" ++
      hex (uint64 (base.toNat+uint64 copied)) ++ ">\n"

/-- Dump of a buffer. -/
def appendIovecEntryHexDump (ctx : IovecContext) (argIndex : ℤ) (direction : PayloadDirection)
    (entry : IovecEntry) (dumpLen : UInt64) : Checked String :=
  if dumpLen=0 ∨ entry.base=0 then some ""
  else
    match iovecBasePayloadSection ctx argIndex entry.slot entry.base direction with
    | none => some ""
    | some section' => do
      let data ← cutTo dumpLen section'.data
      let dump ← hexdump data (int64 dumpLen.toNat)
      return " * " ++ toString dumpLen.toNat ++ " bytes in buffer " ++ toString entry.slot ++
        "\n" ++ dump ++ appendIovecCannotFetch ctx entry.base dumpLen data.length

end Texts

section Loops

/-- Entries of the captured array; a negative number of them cannot be allocated. -/
def capturedIovecEntries (ctx : IovecContext) (argIndex : ℤ) (count : UInt64) :
    Checked (List IovecEntry) :=
  match iovecPayloadSection ctx argIndex .input with
  | none => some []
  | some captured =>
    if displayCount ctx argIndex count captured.data < 0 then none
    else (List.range (displayCount ctx argIndex count captured.data).toNat).mapM
      (iovecEntryAt captured.data)

/-- Loop that dumps the buffers until the bytes are used up. -/
def dumpLoop (ctx : IovecContext) (argIndex : ℤ) (direction : PayloadDirection) :
    List IovecEntry → ℤ → Checked (List DisplayedEntry)
  | [],_ => some []
  | entry::entries,remaining => do
    let account := iovecOutDisplayLength entry.length remaining
    let text ← appendIovecEntryHexDump ctx argIndex direction entry account.1
    if account.2 ≤ 0 then return [⟨entry,account.1,text⟩]
    return ⟨entry,account.1,text⟩::(← dumpLoop ctx argIndex direction entries account.2)

/-- Descriptor of a call whose buffers can be dumped. -/
def iovecHexDumpFD (ctx : IovecContext) : Option Int32 :=
  if ctx.sysName∈["readv","writev","preadv","pwritev","preadv2","pwritev2","vmsplice","sendmsg",
      "recvmsg","sendmmsg","recvmmsg"] then some ctx.descriptor.toUInt32.toInt32 else none

/-- Whether the buffers of a call are dumped. -/
def shouldTraceIovecHexDump (ctx : IovecContext) (opts : IovecOptions)
    (direction : PayloadDirection) : Bool :=
  match iovecHexDumpFD ctx with
  | none => false
  | some fd =>
    match direction with
    | .input => opts.traceWriteFD fd
    | .output => opts.traceReadFD fd

/-- Entries with their dumps, if the buffers of the call are dumped. -/
def addIovecHexDump (ctx : IovecContext) (argIndex : ℤ) (count : UInt64) :
    Checked (Option (List DisplayedEntry)) :=
  match ctx.opts,iovecBasePayloadDirection ctx argIndex with
  | some opts,some direction =>
    if ctx.ret.toInt ≤ 0 ∨ shouldTraceIovecHexDump ctx opts direction=false then some none
    else do
      let entries ← capturedIovecEntries ctx argIndex count
      return some (← dumpLoop ctx argIndex direction entries ctx.ret.toInt)
  | _,_ => some none

/-- Text of a dump. -/
def hexDumpStr (shown : List DisplayedEntry) : String := String.join (shown.map (·.text))

/-- Loop that decodes the entries at some positions. -/
def decodeLoop (ctx : IovecContext) (argIndex : ℤ) (data : List UInt8) :
    List ℕ → ℤ → Checked (List DisplayedEntry)
  | [],_ => some []
  | slot::slots,remaining => do
    let entry ← iovecEntryAt data slot
    let account := if 0 ≤ remaining then iovecOutDisplayLength entry.length remaining
      else (entry.length,remaining)
    let baseText ← formatIovecBase ctx argIndex entry account.1
    let text := "\x7biov_base=" ++ baseText ++ ", iov_len=" ++ toString entry.length.toNat ++ "\x7d"
    return ⟨entry,account.1,text⟩::(← decodeLoop ctx argIndex data slots account.2)

/-- Text of an array and the entries that it shows. -/
def decodeIovecArray (ctx : IovecContext) (argIndex : ℤ) (addr count : UInt64) :
    Checked (String×List DisplayedEntry) :=
  if addr=0 then some ("NULL",[])
  else if count=0 then some ("[]",[])
  else
    match iovecPayloadSection ctx argIndex .input with
    | none => some (prefixedHex addr.toNat,[])
    | some captured => do
      let shown := displayCount ctx argIndex count captured.data
      let displayLimit := iovecDisplayLimitForContext ctx argIndex
      let actualCount := captured.data.length/iovecSize
      let parts ← decodeLoop ctx argIndex captured.data (List.range shown.toNat)
        (iovecBasePayloadOutRemaining ctx argIndex)
      let res := bracketed (parts.map (·.text))
      if captured.data.length < int64 (readCount ctx argIndex count*iovecSize) ∨
          shown < actualCount ∨ displayLimit < int64 count.toNat then
        if parts=[] then return (prefixedHex addr.toNat,[])
        return (trimSuffix res "]" ++
          iovecEllipsisSuffix captured addr count shown actualCount displayLimit,parts)
      return (res,parts)

end Loops

section Specification

/-- Whole entries of a captured array. -/
def wholeEntries (data : List UInt8) : List IovecEntry :=
  (List.range (data.length/iovecSize)).map fun slot =>
    ⟨slot,UInt64.ofNat (field data (slot*iovecSize) 8),
      UInt64.ofNat (field data (slot*iovecSize+8) 8)⟩

/-- Whole entries that were captured for an argument. -/
def capturedEntries (ctx : IovecContext) (argIndex : ℤ) : List IovecEntry :=
  match iovecPayloadSection ctx argIndex .input with
  | none => []
  | some captured => wholeEntries captured.data

/-- Entries to show: as many as are requested and fit the display limit. -/
def shownEntries (ctx : IovecContext) (argIndex : ℤ) (count : UInt64) : List IovecEntry :=
  (capturedEntries ctx argIndex).take
    (min count.toNat (iovecDisplayLimitForContext ctx argIndex).toNat)

/-- Some bytes are distributed over buffers in order, each filled before the next. -/
structure Distributes (bytes : ℕ) (shown : List DisplayedEntry) : Prop where
  /-- No buffer gets more than its length. -/
  bounded : ∀ e∈shown, e.displayLength ≤ e.entry.length
  /-- Every buffer in front of one that gets bytes is full. -/
  filled : ∀ front e behind, shown=front ++ e::behind → 0 < e.displayLength →
    ∀ full∈front, full.displayLength=full.entry.length
  /-- All bytes that fit are distributed. -/
  total : (shown.map (·.displayLength.toNat)).sum=
    min bytes (shown.map (·.entry.length.toNat)).sum

end Specification

section Texts

theorem cutTo_isSome (length : UInt64) (data : List UInt8) :
    (cutTo length data).isSome=true := by
  unfold cutTo
  exact ite_isSome (fun _ => slice_isSome (by omega) (by omega)) fun _ => rfl

theorem iovecBasePayloadString_isSome (ctx : IovecContext) (argIndex : ℤ) (entry : IovecEntry)
    (displayLength : UInt64) :
    (iovecBasePayloadString ctx argIndex entry displayLength).isSome=true := by
  unfold iovecBasePayloadString
  cases iovecBasePayloadDirection ctx argIndex with
  | none => rfl
  | some direction =>
    refine ite_isSome (fun _ => rfl) fun _ => ?_
    cases iovecBasePayloadSection ctx argIndex entry.slot entry.base direction with
    | none => rfl
    | some captured => exact bind_isSome (cutTo_isSome _ _) fun _ _ => rfl

theorem formatIovecBase_isSome (ctx : IovecContext) (argIndex : ℤ) (entry : IovecEntry)
    (displayLength : UInt64) :
    (formatIovecBase ctx argIndex entry displayLength).isSome=true := by
  unfold formatIovecBase
  refine ite_isSome (fun _ => rfl) fun _ => ?_
  refine bind_isSome (iovecBasePayloadString_isSome _ _ _ _) fun text _ => ?_
  cases text with
  | none => rfl
  | some text => rfl

theorem hexdump_isSome (data : List UInt8) (targetSize : ℤ) :
    (hexdump data targetSize).isSome=true := by
  unfold hexdump
  refine bind_isSome (mapM_isSome fun i hi => ?_) fun _ _ => rfl
  have hi := List.mem_range.mp hi
  exact bind_isSome (slice_isSome (by omega) (by omega)) fun _ _ => rfl

theorem appendIovecEntryHexDump_isSome (ctx : IovecContext) (argIndex : ℤ)
    (direction : PayloadDirection) (entry : IovecEntry) (dumpLen : UInt64) :
    (appendIovecEntryHexDump ctx argIndex direction entry dumpLen).isSome=true := by
  unfold appendIovecEntryHexDump
  refine ite_isSome (fun _ => rfl) fun _ => ?_
  cases iovecBasePayloadSection ctx argIndex entry.slot entry.base direction with
  | none => rfl
  | some captured =>
    refine bind_isSome (cutTo_isSome _ _) fun data _ => ?_
    exact bind_isSome (hexdump_isSome data _) fun _ _ => rfl

end Texts

section Entries

variable {ctx : IovecContext} {argIndex : ℤ} {count : UInt64} {data : List UInt8}

theorem iovecDisplayLimitForContext_pos (ctx : IovecContext) (argIndex : ℤ) :
    0 < iovecDisplayLimitForContext ctx argIndex := by
  unfold iovecDisplayLimitForContext iovecDisplayLimit iovecBasePayloadSlotLimit
  split
  · omega
  · dsimp only
    split_ifs <;> omega

/-- A count that is a signed number is cut at the captured entries and at the display limit. -/
theorem displayCount_eq (hcount : count.toNat < 2^63) (data : List UInt8) :
    displayCount ctx argIndex count data=
      (min (min count.toNat (iovecDisplayLimitForContext ctx argIndex).toNat)
        (data.length/iovecSize) : ℕ) := by
  have hlimit := iovecDisplayLimitForContext_pos ctx argIndex
  unfold displayCount readCount
  rw [int64_eq (by omega) (by omega)]
  split_ifs <;> omega

/-- Such a count reads positions of whole entries only. -/
theorem displayCount_toNat (hcount : count.toNat < 2^63) (data : List UInt8) :
    0 ≤ displayCount ctx argIndex count data ∧
      (displayCount ctx argIndex count data).toNat ≤ data.length/iovecSize := by
  rw [displayCount_eq hcount,Int.toNat_natCast]
  exact ⟨Int.natCast_nonneg _,Nat.min_le_right _ _⟩

/-- A count of the upper half is negative. -/
theorem displayCount_of_upper (hcount : 2^63 ≤ count.toNat) (data : List UInt8) :
    displayCount ctx argIndex count data < 0 := by
  have hlimit := iovecDisplayLimitForContext_pos ctx argIndex
  have hlt := count.toNat_lt
  unfold displayCount readCount
  rw [int64_of_upper (by omega) (by omega)]
  split_ifs <;> omega

theorem iovecEntryAt_eq {slot : ℕ} (h : slot < data.length/iovecSize) :
    iovecEntryAt data slot=some ⟨slot,UInt64.ofNat (field data (slot*iovecSize) 8),
      UInt64.ofNat (field data (slot*iovecSize+8) 8)⟩ := by
  unfold iovecSize at h ⊢
  unfold iovecEntryAt iovecSize
  rw [uint64At_eq (by omega),uint64At_eq (by omega)]
  rfl

theorem iovecEntryAt_isSome {slot : ℕ} (h : slot < data.length/iovecSize) :
    (iovecEntryAt data slot).isSome=true := by
  rw [iovecEntryAt_eq h]
  rfl

/-- The shown entries are those at the positions that are read. -/
theorem shownEntries_eq {captured : PayloadSection}
    (hsection : iovecPayloadSection ctx argIndex .input=some captured)
    (hcount : count.toNat < 2^63) :
    shownEntries ctx argIndex count=
      (wholeEntries captured.data).take (displayCount ctx argIndex count captured.data).toNat := by
  have hcaptured : capturedEntries ctx argIndex=wholeEntries captured.data := by
    unfold capturedEntries
    rw [hsection]
  have hlength : (wholeEntries captured.data).length=captured.data.length/iovecSize := by
    unfold wholeEntries
    rw [List.length_map,List.length_range]
  unfold shownEntries
  rw [hcaptured,displayCount_eq hcount,Int.toNat_natCast,List.take_eq_take_iff,hlength]
  omega

/-- Entries at the first positions of an array. -/
theorem take_wholeEntries {n : ℕ} (hn : n ≤ data.length/iovecSize) :
    (wholeEntries data).take n=(List.range n).map fun slot =>
      ⟨slot,UInt64.ofNat (field data (slot*iovecSize) 8),
        UInt64.ofNat (field data (slot*iovecSize+8) 8)⟩ := by
  unfold wholeEntries
  rw [← List.map_take,List.take_range,Nat.min_eq_left hn]

/-- The entries at some positions are read one by one. -/
theorem mapM_iovecEntryAt {slots : List ℕ} (h : ∀ slot∈slots, slot < data.length/iovecSize) :
    slots.mapM (iovecEntryAt data)=some (slots.map fun slot =>
      ⟨slot,UInt64.ofNat (field data (slot*iovecSize) 8),
        UInt64.ofNat (field data (slot*iovecSize+8) 8)⟩) := by
  induction slots with
  | nil => rfl
  | cons slot slots ih =>
    have hrest := ih fun other hother => h other (List.mem_cons_of_mem _ hother)
    rw [List.mapM_cons,iovecEntryAt_eq (h slot List.mem_cons_self),hrest]
    rfl

/-- The dumped entries are the shown ones, unless their number is negative. -/
theorem capturedIovecEntries_eq (h : iovecPayloadSection ctx argIndex .input=none ∨
    count.toNat < 2^63) :
    capturedIovecEntries ctx argIndex count=some (shownEntries ctx argIndex count) := by
  cases hsection : iovecPayloadSection ctx argIndex .input with
  | none =>
    unfold capturedIovecEntries shownEntries capturedEntries
    rw [hsection]
    dsimp only
    rw [List.take_nil]
  | some captured =>
    have hcount : count.toNat < 2^63 := by
      rcases h with hnone | hcount
      · rw [hsection] at hnone
        exact absurd hnone (Option.some_ne_none _)
      · exact hcount
    have hread := @displayCount_toNat ctx argIndex _ hcount captured.data
    unfold capturedIovecEntries
    rw [hsection]
    dsimp only
    rw [if_neg (Int.not_lt.mpr hread.1),shownEntries_eq hsection hcount,take_wholeEntries hread.2,
      mapM_iovecEntryAt]
    intro slot hslot
    exact Nat.lt_of_lt_of_le (List.mem_range.mp hslot) hread.2

/-- A negative number of entries stops the program. -/
theorem capturedIovecEntries_panics {captured : PayloadSection}
    (hsection : iovecPayloadSection ctx argIndex .input=some captured)
    (hcount : 2^63 ≤ count.toNat) : capturedIovecEntries ctx argIndex count=none := by
  unfold capturedIovecEntries
  rw [hsection]
  exact if_pos (displayCount_of_upper hcount captured.data)

end Entries

section Distribution

variable {ctx : IovecContext} {argIndex : ℤ}

/-- A buffer gets what remains, up to its length. -/
theorem iovecOutDisplayLength_eq {remaining : ℤ} (hlow : 0 ≤ remaining) (hhigh : remaining < 2^63)
    (iovLen : UInt64) :
    (iovecOutDisplayLength iovLen remaining).1.toNat=min remaining.toNat iovLen.toNat ∧
      (iovecOutDisplayLength iovLen remaining).2=
        remaining-(iovecOutDisplayLength iovLen remaining).1.toNat := by
  have hunsigned : uint64 remaining=remaining.toNat := by
    unfold uint64
    omega
  unfold iovecOutDisplayLength
  rw [hunsigned]
  split_ifs with hdone hfits
  · have hzero : (0 : UInt64).toNat=0 := rfl
    dsimp only
    omega
  · dsimp only
    rw [int64_eq (a := iovLen.toNat) (by omega) (by omega),int64_eq (by omega) (by omega)]
    omega
  · have hnat : (UInt64.ofNat remaining.toNat).toNat=remaining.toNat := by
      have hlt : remaining.toNat < 2^64 := by omega
      simpa using hlt
    dsimp only
    rw [hnat]
    omega

theorem distributes_nil (bytes : ℕ) : Distributes bytes [] where
  bounded e he := absurd he List.not_mem_nil
  filled front e behind h := by
    have hlength := congrArg List.length h
    rw [List.length_append,List.length_cons,List.length_nil] at hlength
    omega
  total := by
    rw [List.map_nil,List.map_nil,List.sum_nil,Nat.min_zero]

/-- A buffer in front takes its part, the others get the rest. -/
theorem distributes_cons {bytes : ℕ} {e : DisplayedEntry} {shown : List DisplayedEntry}
    (htake : e.displayLength.toNat=min bytes e.entry.length.toNat)
    (hrest : Distributes (bytes-e.displayLength.toNat) shown) :
    Distributes bytes (e::shown) where
  bounded other hother := by
    rcases List.mem_cons.mp hother with hself | hmem
    · rw [hself,UInt64.le_iff_toNat_le]
      omega
    · exact hrest.bounded other hmem
  filled front other behind h hpositive full hfull := by
    cases front with
    | nil => exact absurd hfull List.not_mem_nil
    | cons first front =>
      rw [List.cons_append,List.cons.injEq] at h
      rcases List.mem_cons.mp hfull with hself | hmem
      · have hsome : other.displayLength.toNat ≤ bytes-e.displayLength.toNat := by
          have htotal := hrest.total
          rw [h.2,List.map_append,List.map_cons,List.sum_append,List.sum_cons] at htotal
          omega
        rw [UInt64.lt_iff_toNat_lt] at hpositive
        have hzero : (0 : UInt64).toNat=0 := rfl
        rw [hself,← h.1,← UInt64.toNat_inj]
        omega
      · exact hrest.filled front other behind h.2 hpositive full hmem
  total := by
    have htotal := hrest.total
    rw [List.map_cons,List.map_cons,List.sum_cons,List.sum_cons,htotal,htake]
    omega

/-- The dump of a call visits entries in order and distributes the transferred bytes. -/
theorem dumpLoop_spec (direction : PayloadDirection) {entries : List IovecEntry} {remaining : ℤ}
    (hlow : 0 < remaining) (hhigh : remaining < 2^63) :
    ∃ shown, dumpLoop ctx argIndex direction entries remaining=some shown ∧
      shown.map (·.entry) <+: entries ∧ Distributes remaining.toNat shown := by
  induction entries generalizing remaining with
  | nil => exact ⟨[],rfl,List.prefix_refl _,distributes_nil _⟩
  | cons entry entries ih =>
    have haccount := iovecOutDisplayLength_eq (by omega) hhigh entry.length
    rcases Option.isSome_iff_exists.mp (appendIovecEntryHexDump_isSome ctx argIndex direction
      entry (iovecOutDisplayLength entry.length remaining).1) with ⟨text,htext⟩
    unfold dumpLoop
    dsimp only
    rw [htext]
    by_cases hdone : (iovecOutDisplayLength entry.length remaining).2 ≤ 0
    · refine ⟨_,if_pos hdone,?_,distributes_cons haccount.1 (distributes_nil _)⟩
      exact List.cons_prefix_cons.mpr ⟨rfl,List.nil_prefix⟩
    · rcases @ih (iovecOutDisplayLength entry.length remaining).2 (by omega) (by omega) with
        ⟨shown,hshown,hvisited,hdistributes⟩
      refine ⟨⟨entry,(iovecOutDisplayLength entry.length remaining).1,text⟩::shown,?_,?_,?_⟩
      · change (if _ then _ else _)=_
        rw [if_neg hdone,hshown]
        rfl
      · exact List.cons_prefix_cons.mpr ⟨rfl,hvisited⟩
      · apply distributes_cons haccount.1
        have hrest : remaining.toNat-(iovecOutDisplayLength entry.length remaining).1.toNat=
            (iovecOutDisplayLength entry.length remaining).2.toNat := by omega
        dsimp only
        rw [hrest]
        exact hdistributes

/-- Decoding visits the entries at all positions and distributes the transferred bytes, if there
are any to distribute. -/
theorem decodeLoop_spec {data : List UInt8} {slots : List ℕ} {remaining : ℤ}
    (hslots : ∀ slot∈slots, slot < data.length/iovecSize) (hhigh : remaining < 2^63) :
    ∃ shown, decodeLoop ctx argIndex data slots remaining=some shown ∧
      slots.mapM (iovecEntryAt data)=some (shown.map (·.entry)) ∧
      (0 ≤ remaining → Distributes remaining.toNat shown) := by
  induction slots generalizing remaining with
  | nil => exact ⟨[],rfl,rfl,fun _ => distributes_nil _⟩
  | cons slot slots ih =>
    have hslot := hslots slot List.mem_cons_self
    have hrest := fun other hother => hslots other (List.mem_cons_of_mem _ hother)
    rcases Option.isSome_iff_exists.mp (iovecEntryAt_isSome hslot) with ⟨entry,hentry⟩
    have haccount : ∃ account : UInt64×ℤ, account=(if 0 ≤ remaining then
        iovecOutDisplayLength entry.length remaining else (entry.length,remaining)) ∧
        account.2 < 2^63 ∧ (0 ≤ remaining → 0 ≤ account.2 ∧
          account.1.toNat=min remaining.toNat entry.length.toNat ∧
          account.2=remaining-account.1.toNat) := by
      refine ⟨_,rfl,?_⟩
      split_ifs with hlow
      · have hspec := iovecOutDisplayLength_eq hlow hhigh entry.length
        omega
      · exact ⟨hhigh,fun h => absurd h hlow⟩
    rcases haccount with ⟨account,hdef,hbound,hspec⟩
    rcases Option.isSome_iff_exists.mp (formatIovecBase_isSome ctx argIndex entry account.1) with
      ⟨text,htext⟩
    rcases @ih account.2 hrest hbound with ⟨shown,hshown,hentries,hdistributes⟩
    refine ⟨⟨entry,account.1,"\x7biov_base=" ++ text ++ ", iov_len=" ++
      toString entry.length.toNat ++ "\x7d"⟩::shown,?_,?_,fun hlow => ?_⟩
    · unfold decodeLoop
      rw [hentry]
      dsimp only [bind,Option.bind_some]
      rw [← hdef,htext]
      dsimp only [bind,Option.bind_some]
      rw [hshown]
      rfl
    · rw [List.mapM_cons,hentry,hentries]
      rfl
    · have haccount := hspec hlow
      apply distributes_cons haccount.2.1
      have hleft : remaining.toNat-account.1.toNat=account.2.toNat := by omega
      dsimp only
      rw [hleft]
      exact hdistributes haccount.1

end Distribution

section Accounting

variable {ctx : IovecContext} {argIndex : ℤ} {count : UInt64}

/-- What is right about the decoding and the dump of an array. -/
structure AccountsExactly (ctx : IovecContext) (argIndex : ℤ) (addr count : UInt64) : Prop where
  /-- The entries that are dumped are those to show. -/
  captures : capturedIovecEntries ctx argIndex count=some (shownEntries ctx argIndex count)
  /-- So are those that are decoded, where there is an array; they account for the bytes that a
  successful call has filled. -/
  decodes : ∃ text shown, decodeIovecArray ctx argIndex addr count=some (text,shown) ∧
    (addr≠0 → shown.map (·.entry)=shownEntries ctx argIndex count) ∧
    (iovecBasePayloadDirection ctx argIndex=some .output → 0 ≤ ctx.ret.toInt →
      0 ≤ ctx.probeRetExit.toInt → Distributes ctx.ret.toInt.toNat shown)
  /-- A dump visits them in order and accounts for the transferred bytes. -/
  dumps : ∃ dump, addIovecHexDump ctx argIndex count=some dump ∧ ∀ shown, dump=some shown →
    0 < ctx.ret.toInt ∧ shown.map (·.entry) <+: shownEntries ctx argIndex count ∧
      Distributes ctx.ret.toInt.toNat shown

theorem dumps_of_captures
    (hcaptures : capturedIovecEntries ctx argIndex count=some (shownEntries ctx argIndex count)) :
    ∃ dump, addIovecHexDump ctx argIndex count=some dump ∧ ∀ shown, dump=some shown →
      0 < ctx.ret.toInt ∧ shown.map (·.entry) <+: shownEntries ctx argIndex count ∧
        Distributes ctx.ret.toInt.toNat shown := by
  unfold addIovecHexDump
  split
  · rename_i opts direction _ _
    by_cases hgate : ctx.ret.toInt ≤ 0 ∨ shouldTraceIovecHexDump ctx opts direction=false
    · exact ⟨none,if_pos hgate,fun shown h => absurd h.symm (Option.some_ne_none _)⟩
    · have hpositive : 0 < ctx.ret.toInt := by omega
      have hhigh : ctx.ret.toInt < 2^63 := Int64.toInt_lt ctx.ret
      rcases @dumpLoop_spec ctx argIndex direction (shownEntries ctx argIndex count) _ hpositive
        hhigh with ⟨shown,hshown,hvisited,hdistributes⟩
      refine ⟨some shown,?_,fun other h => ?_⟩
      · rw [if_neg hgate,hcaptures]
        change (dumpLoop ctx argIndex direction _ _).bind _=_
        rw [hshown]
        rfl
      · rw [← Option.some_inj.mp h]
        exact ⟨hpositive,hvisited,hdistributes⟩
  · exact ⟨none,rfl,fun shown h => absurd h.symm (Option.some_ne_none _)⟩

/-- The bytes that a call has filled are the ones that its decoding distributes. -/
theorem outRemaining_eq (hdirection : iovecBasePayloadDirection ctx argIndex=some .output)
    (hret : 0 ≤ ctx.ret.toInt) (hprobe : 0 ≤ ctx.probeRetExit.toInt) :
    iovecBasePayloadOutRemaining ctx argIndex=ctx.ret.toInt := by
  unfold iovecBasePayloadOutRemaining
  rw [hdirection]
  exact if_neg (by omega)

theorem outRemaining_lt (ctx : IovecContext) (argIndex : ℤ) :
    iovecBasePayloadOutRemaining ctx argIndex < 2^63 := by
  have hret : ctx.ret.toInt < 2^63 := Int64.toInt_lt ctx.ret
  unfold iovecBasePayloadOutRemaining
  split
  · split_ifs <;> omega
  · omega

/-- The text of an array comes with the entries that were decoded for it. -/
theorem decodeIovecArray_eq {addr : UInt64} {captured : PayloadSection} (haddr : addr≠0)
    (hcount : count≠0) (hsection : iovecPayloadSection ctx argIndex .input=some captured)
    {parts : List DisplayedEntry}
    (hparts : decodeLoop ctx argIndex captured.data
      (List.range (displayCount ctx argIndex count captured.data).toNat)
      (iovecBasePayloadOutRemaining ctx argIndex)=some parts) :
    ∃ text, decodeIovecArray ctx argIndex addr count=some (text,parts) := by
  unfold decodeIovecArray
  rw [if_neg haddr,if_neg hcount,hsection]
  dsimp only [bind]
  rw [hparts,Option.bind_some]
  split_ifs with hmore hempty
  · rw [hempty]
    exact ⟨_,rfl⟩
  · exact ⟨_,rfl⟩
  · exact ⟨_,rfl⟩

theorem decodes_of_count (addr : UInt64) (h : iovecPayloadSection ctx argIndex .input=none ∨
    count.toNat < 2^63) :
    ∃ text shown, decodeIovecArray ctx argIndex addr count=some (text,shown) ∧
      (addr≠0 → shown.map (·.entry)=shownEntries ctx argIndex count) ∧
      (iovecBasePayloadDirection ctx argIndex=some .output → 0 ≤ ctx.ret.toInt →
        0 ≤ ctx.probeRetExit.toInt → Distributes ctx.ret.toInt.toNat shown) := by
  by_cases haddr : addr=0
  · exact ⟨"NULL",[],if_pos haddr,fun hne => absurd haddr hne,fun _ _ _ => distributes_nil _⟩
  · by_cases hzero : count=0
    · refine ⟨"[]",[],?_,fun _ => ?_,fun _ _ _ => distributes_nil _⟩
      · unfold decodeIovecArray
        rw [if_neg haddr,if_pos hzero]
      · have hnat : (0 : UInt64).toNat=0 := rfl
        unfold shownEntries
        rw [hzero,hnat,Nat.zero_min,List.take_zero]
        rfl
    · cases hsection : iovecPayloadSection ctx argIndex .input with
      | none =>
        refine ⟨prefixedHex addr.toNat,[],?_,fun _ => ?_,fun _ _ _ => distributes_nil _⟩
        · unfold decodeIovecArray
          rw [if_neg haddr,if_neg hzero,hsection]
        · unfold shownEntries capturedEntries
          rw [hsection]
          dsimp only
          rw [List.take_nil]
          rfl
      | some captured =>
        have hcount : count.toNat < 2^63 := by
          rcases h with hnone | hcount
          · rw [hsection] at hnone
            exact absurd hnone (Option.some_ne_none _)
          · exact hcount
        have hread := @displayCount_toNat ctx argIndex _ hcount captured.data
        have hslots : ∀ slot∈List.range (displayCount ctx argIndex count captured.data).toNat,
            slot < captured.data.length/iovecSize := fun slot hslot =>
          Nat.lt_of_lt_of_le (List.mem_range.mp hslot) hread.2
        rcases @decodeLoop_spec ctx argIndex captured.data _ _ hslots
          (outRemaining_lt ctx argIndex) with ⟨parts,hparts,hentries,hdistributes⟩
        rcases decodeIovecArray_eq haddr hzero hsection hparts with ⟨text,htext⟩
        refine ⟨text,parts,htext,fun _ => ?_,fun hdirection hret hprobe => ?_⟩
        · rw [mapM_iovecEntryAt hslots,Option.some_inj] at hentries
          rw [shownEntries_eq hsection hcount,take_wholeEntries hread.2,hentries]
        · have hremaining := outRemaining_eq hdirection hret hprobe
          rw [hremaining] at hdistributes
          exact hdistributes hret

/-- An array is accounted for exactly, in its decoding and in its dump, if and only if none was
captured or the requested number of entries is a signed number. -/
theorem iovec_accounting_iff (ctx : IovecContext) (argIndex : ℤ) (addr count : UInt64) :
    AccountsExactly ctx argIndex addr count ↔
      iovecPayloadSection ctx argIndex .input=none ∨ count.toNat < 2^63 := by
  constructor
  · intro h
    by_contra hupper
    rw [not_or,Nat.not_lt] at hupper
    rcases Option.ne_none_iff_exists'.mp hupper.1 with ⟨captured,hsection⟩
    have hpanics := capturedIovecEntries_panics hsection hupper.2
    rw [h.captures] at hpanics
    exact absurd hpanics (Option.some_ne_none _)
  · intro h
    have hcaptures := capturedIovecEntries_eq h
    exact ⟨hcaptures,decodes_of_count addr h,dumps_of_captures hcaptures⟩

/-- A successful read into one buffer, its count with the top bit set. -/
def upperCountRead : IovecContext where
  sysName := "readv"
  descriptor := 3
  ret := 1
  probeRetExit := 0
  tid := 7
  opts := some ⟨32,fun _ => true,fun _ => true⟩
  escapeMode := 0
  payloadSections :=
    [⟨.iovec,.input,1,0x1000,0xffffffff,16,0,[0,0x20,0,0,0,0,0,0,1,0,0,0,0,0,0,0]⟩]

/-- Its dump allocates a negative number of entries, and its decoding shows none. -/
theorem upper_count_panics :
    addIovecHexDump upperCountRead 1 0x8000000000000001=none ∧
      (decodeIovecArray upperCountRead 1 0x1000 0x8000000000000001).map (·.1)=some "0x1000" ∧
      ¬AccountsExactly upperCountRead 1 0x1000 0x8000000000000001 := by
  have hpanics : capturedIovecEntries upperCountRead 1 0x8000000000000001=none := by decide
  refine ⟨by decide,by decide,fun h => ?_⟩
  have hcaptures := h.captures
  rw [hpanics] at hcaptures
  exact absurd hcaptures.symm (Option.some_ne_none _)

end Accounting

end StraceGo.IovecDumps

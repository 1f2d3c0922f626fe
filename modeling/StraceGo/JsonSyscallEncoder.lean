import StraceGo.Base64Text
import StraceGo.EventEnvelope
import StraceGo.GoText
import Mathlib.Data.Nat.Digits.Defs

/-!
# The JSON syscall encoders

Three encoders write the line of a syscall: one from a materialised event, one
from the decided fields, and one for plain decoded syscalls that copies the
fields straight from the event context. Every one of them puts the same pieces
behind the bytes it is given: a brace, the type, and then a comma, a key and a
value for each field that is not left out.
-/

namespace StraceGo.JsonSyscallEncoder

open Utf8Text Base64Text

section Texts

/-- Decimal digits of a number. -/
def decimal (value : ℕ) : Bytes := ascii (toString value)

/-- Decimal digits of an integer, behind its sign. -/
def decimalInt (value : ℤ) : Bytes := ascii (toString value)

/-- Append a number; short ones digit by digit. -/
def appendJSONUint (dst : Bytes) (value : UInt64) : Bytes :=
  if value < 10 then dst ++ [48+value.toUInt8]
  else if value < 100 then dst ++ [48+(value/10).toUInt8,48+(value%10).toUInt8]
  else if value < 1000 then
    dst ++ [48+(value/100).toUInt8,48+(value/10%10).toUInt8,48+(value%10).toUInt8]
  else dst ++ decimal value.toNat

/-- Append an integer; short ones behind a sign. -/
def appendJSONInt (dst : Bytes) (value : Int64) : Bytes :=
  if 0 ≤ value then appendJSONUint dst value.toUInt64
  else if -1000 < value then appendJSONUint (dst ++ [45]) (-value).toUInt64
  else dst ++ decimalInt value.toInt

/-- Lower case hexadecimal digit. -/
def hexDigit (value : ℕ) : UInt8 :=
  if value < 10 then 48+value.toUInt8 else 87+value.toUInt8

/-- Append the escape of a character. -/
def appendUnicodeEscape (dst : Bytes) (value : ℕ) : Bytes :=
  dst ++ [92,117,hexDigit (value/4096%16),hexDigit (value/256%16),hexDigit (value/16%16),
    hexDigit (value%16)]

/-- Append an ASCII byte, escaped where JSON or HTML need it. -/
def appendJSONASCII (dst : Bytes) (value : UInt8) : Bytes :=
  if value=34 ∨ value=92 then dst ++ [92,value]
  else if value=8 then dst ++ [92,98]
  else if value=12 then dst ++ [92,102]
  else if value=10 then dst ++ [92,110]
  else if value=13 then dst ++ [92,114]
  else if value=9 then dst ++ [92,116]
  else if value=60 then appendUnicodeEscape dst 60
  else if value=62 then appendUnicodeEscape dst 62
  else if value=38 then appendUnicodeEscape dst 38
  else if value < 32 then appendUnicodeEscape dst value.toNat
  else dst ++ [value]

/-- Append one character of a string. -/
def appendJSONUnit (dst : Bytes) (unit : RuneUnit) : Bytes :=
  match unit.bytes with
  | [] => dst
  | first::_ =>
    if first < runeSelf then appendJSONASCII dst first
    else if unit.invalid then appendUnicodeEscape dst runeError
    else if unit.rune=0x2028 ∨ unit.rune=0x2029 then appendUnicodeEscape dst unit.rune
    else dst ++ unit.bytes

/-- Append a string. -/
def appendJSONString (dst value : Bytes) : Bytes :=
  (units value).foldl appendJSONUnit (dst ++ [34]) ++ [34]

/-- Whether a string consists of letters, digits and underscores. -/
def isJSONIdentifier (value : Bytes) : Bool :=
  value != [] && value.all fun char =>
    97 ≤ char && char ≤ 122 || 65 ≤ char && char ≤ 90 || 48 ≤ char && char ≤ 57 || char==95

/-- Append a syscall name; an identifier needs no escapes. -/
def appendJSONSyscallName (dst value : Bytes) : Bytes :=
  if isJSONIdentifier value then dst ++ [34] ++ value ++ [34] else appendJSONString dst value

/-- Append the elements of an array between commas. -/
def appendJSONArray {A : Type} (append : Bytes → A → Bytes) (dst : Bytes) (values : List A) :
    Bytes :=
  match values with
  | [] => dst ++ [91] ++ [93]
  | first::rest =>
    rest.foldl (fun dst value => append (dst ++ [44]) value) (append (dst ++ [91]) first) ++ [93]

/-- Append an array of strings. -/
def appendJSONStringArray (dst : Bytes) (values : List Bytes) : Bytes :=
  appendJSONArray appendJSONString dst values

/-- Append six numbers. -/
def appendJSONUint64Array (dst : Bytes) (values : Vector UInt64 6) : Bytes :=
  if values=Vector.replicate 6 0 then dst ++ ascii "[0,0,0,0,0,0]"
  else appendJSONArray appendJSONUint dst values.toList

end Texts

section Sections

/-- Captured user memory, as the handlers see it; absent data differs from no bytes. -/
structure PayloadSection where
  /-- Decoder class. -/
  kind : Bytes
  /-- Capturing edge. -/
  direction : Bytes
  /-- Syscall argument. -/
  argIndex : Int64
  /-- Address in the traced process. -/
  userPtr : UInt64
  /-- Length in the traced process. -/
  userLen : UInt32
  /-- Number of copied bytes. -/
  copiedLen : UInt32
  /-- Result of the copy. -/
  probeRet : Int32
  /-- Copied bytes. -/
  data : Option Bytes

/-- Captured user memory of a materialised event. -/
structure JsonPayloadSection where
  /-- Decoder class. -/
  kind : Bytes
  /-- Capturing edge. -/
  direction : Bytes
  /-- Syscall argument. -/
  argIndex : Int64
  /-- Address in the traced process. -/
  userPtr : UInt64
  /-- Length in the traced process. -/
  userLen : UInt32
  /-- Number of copied bytes. -/
  copiedLen : UInt32
  /-- Result of the copy. -/
  probeRet : Int32
  /-- Base64 text of the bytes. -/
  dataBase64 : Bytes := []
  /-- The bytes themselves. -/
  rawData : Option Bytes := none

/-- Fields of a section as they are written. -/
structure JsonPayloadSectionFields where
  /-- Decoder class. -/
  kind : Bytes
  /-- Capturing edge. -/
  direction : Bytes
  /-- Syscall argument. -/
  argIndex : Int64
  /-- Address in the traced process. -/
  userPtr : UInt64
  /-- Length in the traced process. -/
  userLen : UInt64
  /-- Number of copied bytes. -/
  copiedLen : UInt64
  /-- Result of the copy. -/
  probeRet : Int64
  /-- Base64 text of the bytes. -/
  dataBase64 : Bytes
  /-- The bytes themselves. -/
  rawData : Option Bytes

/-- Append the base64 text of a section's bytes; bytes that are there win over a text. -/
def appendJSONPayloadData (dst : Bytes) (fields : JsonPayloadSectionFields) : Bytes :=
  match fields.rawData with
  | some raw => dst ++ base64 raw
  | none => dst ++ fields.dataBase64

/-- Append a section. -/
def appendJSONPayloadSectionFields (dst : Bytes) (fields : JsonPayloadSectionFields) : Bytes :=
  let dst := dst ++ ascii "\x7b\"kind\":"
  let dst := appendJSONString dst fields.kind
  let dst := dst ++ ascii ",\"direction\":"
  let dst := appendJSONString dst fields.direction
  let dst := dst ++ ascii ",\"arg_index\":"
  let dst := appendJSONInt dst fields.argIndex
  let dst := if fields.userPtr≠0 then
    appendJSONUint (dst ++ ascii ",\"user_ptr\":") fields.userPtr else dst
  let dst := if fields.userLen≠0 then
    appendJSONUint (dst ++ ascii ",\"user_len\":") fields.userLen else dst
  let dst := dst ++ ascii ",\"copied_len\":"
  let dst := appendJSONUint dst fields.copiedLen
  let dst := dst ++ ascii ",\"probe_ret\":"
  let dst := appendJSONInt dst fields.probeRet
  let dst := if fields.rawData.getD []≠[] ∨ fields.dataBase64≠[] then
    appendJSONPayloadData (dst ++ ascii ",\"data_base64\":\"") fields ++ [34] else dst
  dst ++ [125]

/-- Append a section of a materialised event. -/
def appendJSONPayloadSection (dst : Bytes) (value : JsonPayloadSection) : Bytes :=
  appendJSONPayloadSectionFields dst {
    kind := value.kind
    direction := value.direction
    argIndex := value.argIndex
    userPtr := value.userPtr
    userLen := value.userLen.toUInt64
    copiedLen := value.copiedLen.toUInt64
    probeRet := value.probeRet.toInt64
    dataBase64 := value.dataBase64
    rawData := value.rawData }

/-- Append a captured section. -/
def appendJSONHandlerPayloadSection (dst : Bytes) (value : PayloadSection) : Bytes :=
  appendJSONPayloadSectionFields dst {
    kind := value.kind
    direction := value.direction
    argIndex := value.argIndex
    userPtr := value.userPtr
    userLen := value.userLen.toUInt64
    copiedLen := value.copiedLen.toUInt64
    probeRet := value.probeRet.toInt64
    dataBase64 := []
    rawData := value.data }

/-- Append the sections of a materialised event. -/
def appendJSONPayloadSections (dst : Bytes) (values : List JsonPayloadSection) : Bytes :=
  appendJSONArray appendJSONPayloadSection dst values

/-- Append captured sections. -/
def appendJSONHandlerPayloadSections (dst : Bytes) (values : List PayloadSection) : Bytes :=
  appendJSONArray appendJSONHandlerPayloadSection dst values

/-- Section of a materialised event without its bytes. -/
def newJSONPayloadSection (value : PayloadSection) : JsonPayloadSection where
  kind := value.kind
  direction := value.direction
  argIndex := value.argIndex
  userPtr := value.userPtr
  userLen := value.userLen
  copiedLen := value.copiedLen
  probeRet := value.probeRet

/-- Sections of a materialised event, with the bytes as they are. -/
def jsonPayloadSectionsIntoRaw (sections : List PayloadSection) : List JsonPayloadSection :=
  sections.map fun value => {newJSONPayloadSection value with rawData := value.data}

end Sections

section Contexts

/-- Integrity stamp of a record; the domains are a pointer to a list. -/
structure RecordIntegrity where
  /-- Taint epoch. -/
  epoch : UInt64 := 0
  /-- Whether the pairing is untrusted. -/
  correlationTainted : Bool := false
  /-- Whether the record has no sequence number. -/
  unsequenced : Bool := false
  /-- Tainted domains. -/
  domains : Option (List Bytes) := none
  /-- Producing cpu. -/
  cpu : UInt32 := 0
  /-- Sequence number. -/
  sequence : UInt64 := 0
  /-- Loss epoch. -/
  lossEpoch : UInt64 := 0
  /-- Ordinal of the record. -/
  record : UInt64 := 0
  /-- Whether the session was tainted. -/
  tainted : Bool := false

/-- Fields of a syscall record that the encoders read. -/
structure SyscallView where
  /-- Integrity stamp. -/
  integrity : RecordIntegrity := {}
  /-- Wire version. -/
  eventVersion : UInt16 := 0
  /-- Record kind. -/
  eventType : UInt16 := 0
  /-- Flag bits. -/
  eventFlags : UInt32 := 0
  /-- Process. -/
  pid : UInt32 := 0
  /-- Thread. -/
  tid : UInt32 := 0
  /-- Syscall number. -/
  sysID : UInt32 := 0
  /-- Arguments. -/
  args : Vector UInt64 6 := Vector.replicate 6 0
  /-- Return value. -/
  ret : Int64 := 0
  /-- Duration. -/
  duration : UInt64 := 0
  /-- Start. -/
  enterTime : UInt64 := 0
  /-- Stack. -/
  stackID : Int32 := 0
  /-- Enter probe marker. -/
  probeRetEnter : Int32 := 0
  /-- Exit probe marker. -/
  probeRetExit : Int32 := 0

/-- Text a handler has made of a syscall. -/
structure Result where
  /-- Argument texts. -/
  argParts : List Bytes := []
  /-- Dump of the data. -/
  hexDumpStr : Bytes := []
  /-- Text behind the return value. -/
  returnDesc : Bytes := []
  /-- Whether an empty text behind the return value is shown. -/
  showEmptyReturnDesc : Bool := false

/-- What a handler sees of a syscall, over the type of descriptor views. -/
structure Context (V : Type) where
  /-- Arguments. -/
  args : Vector UInt64 6 := Vector.replicate 6 0
  /-- Whether descriptors are shown with their paths, if there are options. -/
  showPaths : Option Bool := none
  /-- Name of the syscall's description. -/
  scMetaName : Bytes := []
  /-- Name of the syscall. -/
  sysName : Bytes := []
  /-- Captured memory. -/
  payloadSections : List PayloadSection := []
  /-- Descriptor view of the event. -/
  eventFDView : Option V := none

/-- Texts from outside the encoders: descriptors with their paths, error texts of the
system and error names of the table, and whether a descriptor view is empty. -/
structure Texts (V : Type) where
  /-- Text of a descriptor with its path. -/
  formatFdWithPath : Context V → Int32 → Bytes
  /-- Text of an error number. -/
  errnoText : ℕ → Bytes
  /-- Name of an error number. -/
  errnoName : ℕ → Option Bytes
  /-- Whether a view has no paths, no states and no directory. -/
  emptyView : V → Bool

/-- What the pipeline knows about a syscall record. -/
structure EventContext (V : Type) where
  /-- The record. -/
  view : SyscallView := {}
  /-- Name of the syscall's description. -/
  metaName : Bytes := []
  /-- Whether the matched enter was a generic one, if there is one. -/
  pendingEnter : Option Bool := none
  /-- What the handler saw, if there was one. -/
  handlerContext : Option (Context V) := none
  /-- Captured memory. -/
  payloadSections : List PayloadSection := []
  /-- Descriptor view at the return. -/
  returnFDView : V
  /-- Whether there is a descriptor view at the return. -/
  hasReturnFDView : Bool := false

variable {V : Type}

namespace EventContext

variable (ev : EventContext V)

/-- Name of the syscall, from the description or from the handler's context. -/
def effectiveSyscallName : Bytes :=
  if ev.metaName≠[] then ev.metaName
  else
    match ev.handlerContext with
    | some ctx =>
      if ctx.scMetaName≠[] then ctx.scMetaName
      else if ctx.sysName≠[] then ctx.sysName
      else ev.metaName
    | none => ev.metaName

/-- Name of the syscall. -/
def syscallName : Bytes :=
  if ev.metaName≠[] then ev.metaName else ev.effectiveSyscallName

/-- Context for the return value, with the descriptor view of the return. -/
def handlerContextForFormatting (texts : Texts V) : Option (Context V) :=
  match ev.handlerContext with
  | none => none
  | some ctx =>
    if ev.hasReturnFDView=false then some ctx
    else some {ctx with eventFDView :=
      if texts.emptyView ev.returnFDView then none else some ev.returnFDView}

/-- Captured memory that the handler saw. -/
def decodedPayloadSections : List PayloadSection :=
  match ev.handlerContext with
  | none => []
  | some ctx => ctx.payloadSections

/-- Whether the record was matched with a generic enter. -/
def pairedGenericEnter : Bool := ev.pendingEnter==some true

end EventContext

/-- Whether a return value is an error, and which. -/
def syscallFailure (ret : Int64) : Bool×Int64 :=
  if ret < 0 ∧ -4095 ≤ ret then (true,-ret) else (false,0)

/-- Name of a record kind. -/
def bpfEventTypeNameFromID (eventType : UInt16) : Bytes :=
  if eventType=1 then ascii "enter"
  else if eventType=2 then ascii "exit"
  else if eventType=3 then ascii "lifecycle"
  else ascii "unknown"

end Contexts

section Returns

variable {V : Type} (texts : Texts V)

/-- Whether a syscall returns a descriptor. -/
def isFdReturnSyscall (name : Bytes) : Bool :=
  if name=ascii "socketpair" then false
  else ([ascii "open",ascii "dup",ascii "socket",ascii "accept",ascii "eventfd",
      ascii "epoll_create",ascii "signalfd"].any fun start => start.isPrefixOf name) ||
    [ascii "inotify_init",ascii "inotify_init1",ascii "creat",ascii "timerfd_create",
      ascii "pidfd_open",ascii "userfaultfd"].contains name

/-- Whether a syscall is `fcntl`. -/
def isFcntlFDStateSyscall (name : Bytes) : Bool := name==ascii "fcntl" || name==ascii "fcntl64"

/-- Whether an `fcntl` command duplicates a descriptor. -/
def isFcntlFDStateCommand (args : Vector UInt64 6) : Bool :=
  (args.get 1).toUInt32==0 || (args.get 1).toUInt32==1030

/-- Whether a return value is a descriptor that is shown with its path. -/
def showsReturnPath (name : Bytes) : Option (Context V) → Bool
  | none => false
  | some ctx => ctx.showPaths==some true &&
      (isFdReturnSyscall name || isFcntlFDStateSyscall name && isFcntlFDStateCommand ctx.args)

/-- Text of a clock state. -/
def timeStateName (ret : Int64) : Bytes :=
  if ret=1 then ascii "TIME_INS"
  else if ret=2 then ascii "TIME_DEL"
  else if ret=3 then ascii "TIME_OOP"
  else if ret=4 then ascii "TIME_WAIT"
  else if ret=5 then ascii "TIME_ERROR"
  else ascii "TIME_OK"

/-- Text with its first letter in upper case. -/
def upperFirst : Bytes → Bytes
  | [] => []
  | first::rest => (if 97 ≤ first ∧ first ≤ 122 then first-32 else first)::rest

/-- Text of an error number. -/
def formatErrnoReturn (errNum : ℕ) : Bytes :=
  if errNum=516 then ascii "? ERESTART_RESTARTBLOCK (Interrupted by signal)"
  else if errNum=514 then ascii "? ERESTARTNOHAND (To be restarted if no handler)"
  else if errNum=513 then ascii "? ERESTARTNOINTR (To be restarted)"
  else if errNum=512 then ascii "? ERESTARTSYS (To be restarted if SA_RESTART is set)"
  else
    let errDesc := upperFirst (texts.errnoText errNum)
    match texts.errnoName errNum with
    | some errName => ascii "-1 " ++ errName ++ ascii " (" ++ errDesc ++ ascii ")"
    | none => ascii "-1 E" ++ decimal errNum ++ ascii " (" ++ errDesc ++ ascii ")"

/-- Octal text of a file mode mask. -/
def umaskText (mask : UInt32) : Bytes :=
  let digits := ascii (String.ofList (Nat.toDigits 8 mask.toNat))
  let padded := List.replicate (3-digits.length) 48 ++ digits
  if padded.head? != some 48 then 48::padded else padded

/-- Hexadecimal text of a number behind its prefix. -/
def hexText (value : Int64) : Bytes :=
  ascii "0x" ++ ascii (String.ofList (Nat.toDigits 16 value.toInt.toNat))

/-- Text of a return value. -/
def formatSyscallRet (name : Bytes) (ret : Int64) (res : Result) (ctx : Option (Context V)) :
    Bytes :=
  if name=ascii "exit" ∨ name=ascii "exit_group" then ascii "?"
  else
    let retStr := decimalInt ret.toInt
    let retStr := match ctx with
      | some context =>
        if 0 ≤ ret ∧ showsReturnPath name ctx then
          texts.formatFdWithPath context ret.toInt32
        else retStr
      | none => retStr
    let retStr := match ctx with
      | some context =>
        if 0 < ret ∧ isFcntlFDStateSyscall name ∧
            [1,3,1025].contains (context.args.get 1).toUInt32 then hexText ret
        else retStr
      | none => retStr
    let retStr := if 0 ≤ ret ∧ name=ascii "umask" then umaskText ret.toUInt64.toUInt32 else retStr
    let retStr := if 0 ≤ ret ∧
        (name=ascii "brk" ∨ name=ascii "mmap" ∨ name=ascii "mremap") then hexText ret else retStr
    let retStr := if 0 ≤ ret ∧ (name=ascii "adjtimex" ∨ name=ascii "clock_adjtime") then
        decimalInt ret.toInt ++ ascii " (" ++ timeStateName ret ++ ascii ")" else retStr
    let retStr := if ret < 0 ∧ -4095 ≤ ret then
        formatErrnoReturn texts (-ret).toInt.toNat else retStr
    if res.returnDesc≠[] ∨ res.showEmptyReturnDesc then
      retStr ++ ascii " (" ++ res.returnDesc ++ ascii ")"
    else retStr

/-- Whether the text of a return value is its decimal digits. -/
def canAppendPlainSyscallReturn (name : Bytes) (ret : Int64) (res : Result)
    (ctx : Option (Context V)) : Bool :=
  if ret < 0 ∨ res.returnDesc≠[] ∨ res.showEmptyReturnDesc then false
  else if showsReturnPath name ctx then false
  else !([ascii "exit",ascii "exit_group",ascii "fcntl",ascii "fcntl64",ascii "umask",ascii "brk",
    ascii "mmap",ascii "mremap",ascii "adjtimex",ascii "clock_adjtime"].contains name)

/-- Append the text of a return value. -/
def appendJSONSyscallReturn (dst name : Bytes) (ret : Int64) (res : Result)
    (ctx : Option (Context V)) : Bytes :=
  if canAppendPlainSyscallReturn name ret res ctx then
    dst ++ [34] ++ decimalInt ret.toInt ++ [34]
  else appendJSONString dst (formatSyscallRet texts name ret res ctx)

end Returns

section Builder

/-- A line under construction; the first field has no comma. -/
structure JsonLineBuilder where
  /-- Bytes so far. -/
  data : Bytes
  /-- Whether no field has been written. -/
  first : Bool := false

namespace JsonLineBuilder

variable (b : JsonLineBuilder)

/-- Open an object. -/
def beginObject : JsonLineBuilder := {data := b.data ++ [123], first := true}

/-- Write a comma where one is due, and a key. -/
def beginFieldToken (token : Bytes) : JsonLineBuilder where
  data := (if b.first then b.data else b.data ++ [44]) ++ token
  first := false

/-- Write a string. -/
def stringField (token value : Bytes) (leaveOut : Bool) : JsonLineBuilder :=
  if leaveOut && value==[] then b
  else
    let b := b.beginFieldToken token
    {b with data := appendJSONString b.data value}

/-- Write a syscall name. -/
def syscallNameField (token value : Bytes) : JsonLineBuilder :=
  let b := b.beginFieldToken token
  {b with data := appendJSONSyscallName b.data value}

/-- Write a number. -/
def uintField (token : Bytes) (value : UInt64) (leaveOut : Bool) : JsonLineBuilder :=
  if leaveOut && value==0 then b
  else
    let b := b.beginFieldToken token
    {b with data := appendJSONUint b.data value}

/-- Write an integer. -/
def intField (token : Bytes) (value : Int64) : JsonLineBuilder :=
  let b := b.beginFieldToken token
  {b with data := appendJSONInt b.data value}

/-- Write an integer that is not zero. -/
def intFieldIfNonZero (token : Bytes) (value : Int64) : JsonLineBuilder :=
  if value=0 then b else b.intField token value

/-- Write a truth value. -/
def boolField (token : Bytes) (value leaveOut : Bool) : JsonLineBuilder :=
  if leaveOut && !value then b
  else
    let b := b.beginFieldToken token
    {b with data := b.data ++ if value then ascii "true" else ascii "false"}

/-- Write six numbers. -/
def uint64ArrayField (token : Bytes) (values : Vector UInt64 6) : JsonLineBuilder :=
  let b := b.beginFieldToken token
  if values=Vector.replicate 6 0 then {b with data := b.data ++ ascii "[0,0,0,0,0,0]"}
  else
    {b with
      data := appendJSONArray (fun dst value => dst ++ decimal value.toNat) b.data values.toList}

/-- Write strings, if there are any. -/
def stringArrayField (token : Bytes) (values : List Bytes) : JsonLineBuilder :=
  if values=[] then b
  else
    let b := b.beginFieldToken token
    {b with data := appendJSONStringArray b.data values}

/-- Write sections, if there are any. -/
def payloadSectionsField (token : Bytes) (values : List JsonPayloadSection) : JsonLineBuilder :=
  if values.isEmpty then b
  else
    let b := b.beginFieldToken token
    {b with data := appendJSONPayloadSections b.data values}

/-- Close the object and the line. -/
def endLine : Bytes := b.data ++ [125] ++ [10]

end JsonLineBuilder

/-- Append the integrity stamp, behind at least one field. -/
def appendJSONRecordIntegrity (dst : Bytes) (integrity : RecordIntegrity) : Bytes :=
  let b : JsonLineBuilder := {data := dst}
  let b := b.uintField (ascii "\"cpu\":") integrity.cpu.toUInt64 true
  let b := b.uintField (ascii "\"seq\":") integrity.sequence true
  let b := b.uintField (ascii "\"loss_epoch\":") integrity.lossEpoch true
  let b := b.uintField (ascii "\"record_index\":") integrity.record true
  let b := b.boolField (ascii "\"tainted\":") integrity.tainted true
  let b := b.uintField (ascii "\"integrity_epoch\":") integrity.epoch true
  let b := b.boolField (ascii "\"correlation_tainted\":") integrity.correlationTainted true
  let b := b.boolField (ascii "\"unsequenced\":") integrity.unsequenced true
  let b := match integrity.domains with
    | some domains => b.stringArrayField (ascii "\"tainted_domains\":") domains
    | none => b
  b.data

end Builder

section Encoders

variable {V : Type} (texts : Texts V)

/-- A materialised syscall event. -/
structure JsonSyscallEvent (V : Type) where
  /-- Integrity stamp. -/
  integrity : RecordIntegrity := {}
  /-- Record type. -/
  type : Bytes
  /-- Wire version. -/
  eventVersion : UInt16 := 0
  /-- Name of the record kind. -/
  eventType : Bytes
  /-- Record kind. -/
  eventTypeID : UInt16 := 0
  /-- Flag bits. -/
  eventFlags : UInt32 := 0
  /-- Process. -/
  pid : UInt32 := 0
  /-- Thread. -/
  tid : UInt32 := 0
  /-- Syscall number. -/
  sysID : UInt32 := 0
  /-- Syscall name. -/
  syscall : Bytes
  /-- Arguments. -/
  args : Vector UInt64 6 := Vector.replicate 6 0
  /-- Argument texts. -/
  argText : List Bytes := []
  /-- Return value. -/
  ret : Int64 := 0
  /-- Text of the return value. -/
  returnText : Bytes := []
  /-- Whether the syscall failed. -/
  failed : Bool := false
  /-- Error number. -/
  errno : Int64 := 0
  /-- Duration. -/
  durationNS : UInt64 := 0
  /-- Start. -/
  enterTimeNS : UInt64 := 0
  /-- Stack. -/
  stackID : Int32 := 0
  /-- Captured memory. -/
  payloadSections : List JsonPayloadSection := []
  /-- Enter probe marker. -/
  probeRetEnter : Int32 := 0
  /-- Exit probe marker. -/
  probeRetExit : Int32 := 0
  /-- Whether the record was matched with a generic enter. -/
  pairedEnter : Bool := false
  /-- Syscall whose return value is formatted with the line. -/
  returnTextName : Bytes := []
  /-- Return value that is formatted with the line. -/
  returnTextRet : Int64 := 0
  /-- Handler's result for the return value. -/
  returnTextRes : Result := {}
  /-- Handler's context for the return value. -/
  returnTextCtx : Option (Context V) := none
  /-- Whether a return value is formatted with the line. -/
  hasReturnText : Bool := false

/-- Write the text of the return value. -/
def JsonLineBuilder.returnTextField (b : JsonLineBuilder) (event : JsonSyscallEvent V) :
    JsonLineBuilder :=
  if event.returnText≠[] then b.stringField (ascii "\"return_text\":") event.returnText false
  else if event.hasReturnText=false then b
  else
    let b := b.beginFieldToken (ascii "\"return_text\":")
    {b with
      data := appendJSONSyscallReturn texts b.data event.returnTextName event.returnTextRet
        event.returnTextRes event.returnTextCtx}

/-- Append the line of a materialised event. -/
def appendJSONSyscallEvent (dst : Bytes) : Option (JsonSyscallEvent V) → Bytes
  | none => dst ++ ascii "null\n"
  | some event =>
    let b : JsonLineBuilder := {data := dst}
    let b := b.beginObject
    let b := b.stringField (ascii "\"type\":") event.type false
    let b := b.uintField (ascii "\"event_version\":") event.eventVersion.toUInt64 true
    let b := b.stringField (ascii "\"event_type\":") event.eventType false
    let b := b.uintField (ascii "\"event_type_id\":") event.eventTypeID.toUInt64 true
    let b := b.uintField (ascii "\"event_flags\":") event.eventFlags.toUInt64 true
    let b := b.uintField (ascii "\"pid\":") event.pid.toUInt64 false
    let b := b.uintField (ascii "\"tid\":") event.tid.toUInt64 false
    let b := b.uintField (ascii "\"sys_id\":") event.sysID.toUInt64 false
    let b := b.syscallNameField (ascii "\"syscall\":") event.syscall
    let b := b.uint64ArrayField (ascii "\"args\":") event.args
    let b := b.stringArrayField (ascii "\"arg_text\":") event.argText
    let b := b.intField (ascii "\"ret\":") event.ret
    let b := b.returnTextField texts event
    let b := b.boolField (ascii "\"failed\":") event.failed false
    let b := b.intFieldIfNonZero (ascii "\"errno\":") event.errno
    let b := b.uintField (ascii "\"duration_ns\":") event.durationNS false
    let b := b.uintField (ascii "\"enter_time_ns\":") event.enterTimeNS false
    let b := b.intField (ascii "\"stack_id\":") event.stackID.toInt64
    let b := b.payloadSectionsField (ascii "\"payload_sections\":") event.payloadSections
    let b := b.intField (ascii "\"probe_ret_enter\":") event.probeRetEnter.toInt64
    let b := b.intField (ascii "\"probe_ret_exit\":") event.probeRetExit.toInt64
    let b := b.boolField (ascii "\"paired_enter\":") event.pairedEnter true
    let b := {b with data := appendJSONRecordIntegrity b.data event.integrity}
    b.endLine

/-- A syscall event whose fields are decided. -/
structure JsonSyscallWireEvent (V : Type) where
  /-- Integrity stamp. -/
  integrity : RecordIntegrity
  /-- Wire version. -/
  eventVersion : UInt16
  /-- Record kind. -/
  eventType : UInt16
  /-- Flag bits. -/
  eventFlags : UInt32
  /-- Process. -/
  pid : UInt32
  /-- Thread. -/
  tid : UInt32
  /-- Syscall number. -/
  sysID : UInt32
  /-- Syscall name. -/
  syscall : Bytes
  /-- Arguments. -/
  args : Vector UInt64 6
  /-- Argument texts. -/
  argText : List Bytes := []
  /-- Return value. -/
  ret : Int64
  /-- Whether the text of the return value is written. -/
  hasReturnText : Bool := false
  /-- Syscall of the return value. -/
  returnTextName : Bytes := []
  /-- Return value of the text. -/
  returnTextRet : Int64 := 0
  /-- Handler's result. -/
  returnTextResult : Result := {}
  /-- Handler's context. -/
  returnTextContext : Option (Context V) := none
  /-- Whether the syscall failed. -/
  failed : Bool
  /-- Error number. -/
  errno : Int64
  /-- Duration. -/
  duration : UInt64
  /-- Start. -/
  enterTime : UInt64
  /-- Stack. -/
  stackID : Int32
  /-- Captured memory. -/
  payloadSections : List PayloadSection
  /-- Enter probe marker. -/
  probeRetEnter : Int32
  /-- Exit probe marker. -/
  probeRetExit : Int32
  /-- Whether the record was matched with a generic enter. -/
  pairedEnter : Bool := false

/-- Append version, kind and flags. -/
def appendJSONSyscallWireHeader (dst : Bytes) (event : JsonSyscallWireEvent V) : Bytes :=
  let dst := if event.eventVersion≠0 then
    appendJSONUint (dst ++ ascii ",\"event_version\":") event.eventVersion.toUInt64 else dst
  let dst := dst ++ ascii ",\"event_type\":\""
  let dst := dst ++ bpfEventTypeNameFromID event.eventType
  let dst := dst ++ [34]
  let dst := if event.eventType≠0 then
    appendJSONUint (dst ++ ascii ",\"event_type_id\":") event.eventType.toUInt64 else dst
  if event.eventFlags≠0 then
    appendJSONUint (dst ++ ascii ",\"event_flags\":") event.eventFlags.toUInt64 else dst

/-- Append task, syscall and arguments. -/
def appendJSONSyscallWireIdentity (dst : Bytes) (event : JsonSyscallWireEvent V) : Bytes :=
  let dst := appendJSONUint (dst ++ ascii ",\"pid\":") event.pid.toUInt64
  let dst := appendJSONUint (dst ++ ascii ",\"tid\":") event.tid.toUInt64
  let dst := appendJSONUint (dst ++ ascii ",\"sys_id\":") event.sysID.toUInt64
  let dst := appendJSONSyscallName (dst ++ ascii ",\"syscall\":") event.syscall
  let dst := appendJSONUint64Array (dst ++ ascii ",\"args\":") event.args
  if event.argText≠[] then
    appendJSONStringArray (dst ++ ascii ",\"arg_text\":") event.argText else dst

/-- Append the return value. -/
def appendJSONSyscallWireReturn (dst : Bytes) (event : JsonSyscallWireEvent V) : Bytes :=
  let dst := appendJSONInt (dst ++ ascii ",\"ret\":") event.ret
  let dst := if event.hasReturnText then
    appendJSONSyscallReturn texts (dst ++ ascii ",\"return_text\":") event.returnTextName
      event.returnTextRet event.returnTextResult event.returnTextContext else dst
  let dst := dst ++ ascii ",\"failed\":"
  let dst := if event.failed then dst ++ ascii "true" else dst ++ ascii "false"
  if event.errno≠0 then appendJSONInt (dst ++ ascii ",\"errno\":") event.errno else dst

/-- Append times, stack, captured memory and probe markers. -/
def appendJSONSyscallWireMetadata (dst : Bytes) (event : JsonSyscallWireEvent V) : Bytes :=
  let dst := appendJSONUint (dst ++ ascii ",\"duration_ns\":") event.duration
  let dst := appendJSONUint (dst ++ ascii ",\"enter_time_ns\":") event.enterTime
  let dst := appendJSONInt (dst ++ ascii ",\"stack_id\":") event.stackID.toInt64
  let dst := if event.payloadSections.isEmpty=false then
    appendJSONHandlerPayloadSections (dst ++ ascii ",\"payload_sections\":")
      event.payloadSections else dst
  let dst := appendJSONInt (dst ++ ascii ",\"probe_ret_enter\":") event.probeRetEnter.toInt64
  let dst := appendJSONInt (dst ++ ascii ",\"probe_ret_exit\":") event.probeRetExit.toInt64
  if event.pairedEnter then dst ++ ascii ",\"paired_enter\":true" else dst

/-- Append the line of decided fields. -/
def appendJSONSyscallWireEvent (dst : Bytes) (event : JsonSyscallWireEvent V) : Bytes :=
  let dst := dst ++ ascii "\x7b\"type\":\"syscall\""
  let dst := appendJSONSyscallWireHeader dst event
  let dst := appendJSONSyscallWireIdentity dst event
  let dst := appendJSONSyscallWireReturn texts dst event
  let dst := appendJSONSyscallWireMetadata dst event
  let dst := appendJSONRecordIntegrity dst event.integrity
  dst ++ ascii "\x7d\n"

/-- Decided fields of a raw record. -/
def rawWireEvent (ev : EventContext V) : JsonSyscallWireEvent V where
  integrity := ev.view.integrity
  eventVersion := ev.view.eventVersion
  eventType := ev.view.eventType
  eventFlags := ev.view.eventFlags
  pid := ev.view.pid
  tid := ev.view.tid
  sysID := ev.view.sysID
  syscall := ev.effectiveSyscallName
  args := ev.view.args
  ret := ev.view.ret
  failed := (syscallFailure ev.view.ret).1
  errno := (syscallFailure ev.view.ret).2
  duration := ev.view.duration
  enterTime := ev.view.enterTime
  stackID := ev.view.stackID
  payloadSections := ev.payloadSections
  probeRetEnter := ev.view.probeRetEnter
  probeRetExit := ev.view.probeRetExit

/-- Append the line of a raw record. -/
def appendJSONRawSyscallEvent (dst : Bytes) (ev : EventContext V) : Bytes :=
  appendJSONSyscallWireEvent texts dst (rawWireEvent ev)

/-- Decided fields of a decoded record. -/
def decodedWireEvent (ev : EventContext V) (res : Result) : JsonSyscallWireEvent V where
  integrity := ev.view.integrity
  eventVersion := ev.view.eventVersion
  eventType := ev.view.eventType
  eventFlags := ev.view.eventFlags
  pid := ev.view.pid
  tid := ev.view.tid
  sysID := ev.view.sysID
  syscall := ev.effectiveSyscallName
  args := ev.view.args
  argText := res.argParts
  ret := ev.view.ret
  hasReturnText := true
  returnTextName := ev.syscallName
  returnTextRet := ev.view.ret
  returnTextResult := res
  returnTextContext := ev.handlerContextForFormatting texts
  failed := (syscallFailure ev.view.ret).1
  errno := (syscallFailure ev.view.ret).2
  duration := ev.view.duration
  enterTime := ev.view.enterTime
  stackID := ev.view.stackID
  payloadSections := ev.decodedPayloadSections
  probeRetEnter := ev.view.probeRetEnter
  probeRetExit := ev.view.probeRetExit
  pairedEnter := ev.pairedGenericEnter

/-- Whether a decoded record has nothing but plain fields. -/
def canUsePlainDecodedJSON (ev : EventContext V) (res : Result) : Bool :=
  if ev.handlerContext.isSome || !ev.payloadSections.isEmpty then false
  else if res.argParts≠[] ∨ res.hexDumpStr≠[] ∨ res.returnDesc≠[] ∨ res.showEmptyReturnDesc then
    false
  else canAppendPlainSyscallReturn (V := V) ev.syscallName ev.view.ret res none

/-- Append the line of a plain decoded record, straight from its context. -/
def appendJSONPlainDecodedSyscallEvent (dst : Bytes) (ev : EventContext V) (res : Result) :
    Bytes :=
  let view := ev.view
  let (failed,errno) := syscallFailure view.ret
  let dst := dst ++ ascii "\x7b\"type\":\"syscall\""
  let dst := if view.eventVersion≠0 then
    appendJSONUint (dst ++ ascii ",\"event_version\":") view.eventVersion.toUInt64 else dst
  let dst := dst ++ ascii ",\"event_type\":\""
  let dst := dst ++ bpfEventTypeNameFromID view.eventType
  let dst := dst ++ ascii "\""
  let dst := if view.eventType≠0 then
    appendJSONUint (dst ++ ascii ",\"event_type_id\":") view.eventType.toUInt64 else dst
  let dst := if view.eventFlags≠0 then
    appendJSONUint (dst ++ ascii ",\"event_flags\":") view.eventFlags.toUInt64 else dst
  let dst := appendJSONUint (dst ++ ascii ",\"pid\":") view.pid.toUInt64
  let dst := appendJSONUint (dst ++ ascii ",\"tid\":") view.tid.toUInt64
  let dst := appendJSONUint (dst ++ ascii ",\"sys_id\":") view.sysID.toUInt64
  let dst := appendJSONSyscallName (dst ++ ascii ",\"syscall\":") ev.effectiveSyscallName
  let dst := appendJSONUint64Array (dst ++ ascii ",\"args\":") view.args
  let dst := appendJSONInt (dst ++ ascii ",\"ret\":") view.ret
  let dst := appendJSONSyscallReturn texts (dst ++ ascii ",\"return_text\":") ev.syscallName
    view.ret res none
  let dst := dst ++ ascii ",\"failed\":"
  let dst := if failed then dst ++ ascii "true" else dst ++ ascii "false"
  let dst := if errno≠0 then appendJSONInt (dst ++ ascii ",\"errno\":") errno else dst
  let dst := appendJSONUint (dst ++ ascii ",\"duration_ns\":") view.duration
  let dst := appendJSONUint (dst ++ ascii ",\"enter_time_ns\":") view.enterTime
  let dst := appendJSONInt (dst ++ ascii ",\"stack_id\":") view.stackID.toInt64
  let dst := appendJSONInt (dst ++ ascii ",\"probe_ret_enter\":") view.probeRetEnter.toInt64
  let dst := appendJSONInt (dst ++ ascii ",\"probe_ret_exit\":") view.probeRetExit.toInt64
  let dst := if ev.pairedGenericEnter then dst ++ ascii ",\"paired_enter\":true" else dst
  let dst := appendJSONRecordIntegrity dst view.integrity
  dst ++ ascii "\x7d\n"

/-- Append the line of a decoded record. -/
def appendJSONDecodedSyscallEvent (dst : Bytes) (ev : EventContext V) (res : Result) : Bytes :=
  if canUsePlainDecodedJSON ev res then appendJSONPlainDecodedSyscallEvent texts dst ev res
  else appendJSONSyscallWireEvent texts dst (decodedWireEvent texts ev res)

/-- Materialised event of a record with its captured memory. -/
def newJSONSyscallEventFromView (view : SyscallView) (name : Bytes)
    (sections : List PayloadSection) : JsonSyscallEvent V where
  integrity := view.integrity
  type := ascii "syscall"
  eventVersion := view.eventVersion
  eventType := bpfEventTypeNameFromID view.eventType
  eventTypeID := view.eventType
  eventFlags := view.eventFlags
  pid := view.pid
  tid := view.tid
  sysID := view.sysID
  syscall := name
  args := view.args
  ret := view.ret
  failed := (syscallFailure view.ret).1
  errno := (syscallFailure view.ret).2
  durationNS := view.duration
  enterTimeNS := view.enterTime
  stackID := view.stackID
  payloadSections := jsonPayloadSectionsIntoRaw sections
  probeRetEnter := view.probeRetEnter
  probeRetExit := view.probeRetExit

/-- Materialised event of a raw record. -/
def newJSONRawSyscallEvent (ev : EventContext V) : JsonSyscallEvent V :=
  newJSONSyscallEventFromView ev.view ev.effectiveSyscallName ev.payloadSections

/-- Materialised event of a decoded record. -/
def newJSONDecodedSyscallEvent (ev : EventContext V) (res : Result) : JsonSyscallEvent V :=
  let event : JsonSyscallEvent V :=
    newJSONSyscallEventFromView ev.view ev.effectiveSyscallName ev.decodedPayloadSections
  {event with
    argText := res.argParts
    returnTextName := ev.syscallName
    returnTextRet := ev.view.ret
    returnTextRes := res
    returnTextCtx := ev.handlerContextForFormatting texts
    hasReturnText := true
    pairedEnter := ev.pairedGenericEnter}

end Encoders

end StraceGo.JsonSyscallEncoder

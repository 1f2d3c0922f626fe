import StraceGo.ByteLayout
import StraceGo.MachineIntegers
import StraceGo.StringRendering
import StraceGo.Utf8Text
import Mathlib.Data.List.DropRight

/-!
# Control messages of a socket call

The formatter of a captured control buffer: the walk over its headers, whose
lengths the traced process chooses, and the text of each message. The walk
follows the exact chain of headers unless a sum of 64 bits leaves the signed
range, and both kinds of such sums are described: the sum of the loop condition
and the conversion of a length.
-/

namespace StraceGo.ControlMessages

open ByteLayout GoText MachineIntegers StringRendering Utf8Text

/-- Size of a message header. -/
def cmsgHeaderSize : ℕ := 16

/-- Size of the credentials of a message. -/
def cmsgUcredSize : ℕ := 12

/-- Size of a time. -/
def cmsgTimeSize : ℕ := 16

/-- Number of elements that are shown of an array. -/
def cmsgArrayDisplayLimit : ℕ := 32

/-- Captured bytes; like every slice they are fewer than a signed number can count. -/
structure CapturedBytes where
  /-- The bytes. -/
  data : List UInt8
  /-- Their number is a signed number of 64 bits. -/
  fits : data.length < 2^63

/-- What the formatter reads of its context. -/
structure MessageContext where
  /-- String limit of the options, if there are any. -/
  stringLimit : Option ℤ
  /-- Escape mode of the decoder. -/
  escapeMode : ℤ
  /-- Name of a network interface of the host. -/
  interfaceName : UInt32 → Option Bytes
  /-- Quoted text of some bytes, as the format package writes it. -/
  quote : Bytes → String

/-- A message of the buffer. -/
structure ControlMessage where
  /-- Length in its header, as a signed number. -/
  cmsgLen : ℤ
  /-- Level in its header. -/
  level : Int32
  /-- Type in its header. -/
  cmsgType : Int32
  /-- Bytes behind its header. -/
  payload : List UInt8
  deriving DecidableEq

section Addresses

/-- Two-byte number in network order. -/
def bigEndian16At (data : List UInt8) (offset : ℕ) : Checked ℕ := do
  return (← data[offset]?).toNat*256+(← data[offset+1]?).toNat

/-- Dotted text of four bytes. -/
def dotted (data : List UInt8) : Checked String := do
  return toString (← data[0]?).toNat ++ "." ++ toString (← data[1]?).toNat ++ "." ++
    toString (← data[2]?).toNat ++ "." ++ toString (← data[3]?).toNat

/-- Text of sixteen bytes in pairs. -/
def colonSeparated (data : List UInt8) : Checked String := do
  let pairs ← (List.range 8).mapM fun i => do
    return twoDigits (← data[2*i]?) ++ twoDigits (← data[2*i+1]?)
  return ":".intercalate pairs

/-- Text of a path socket's address, cut at its active length. -/
def unixSockaddr (ctx : MessageContext) (data : List UInt8) (alen : UInt32) : Checked String := do
  if data.length ≤ 2 ∨ alen ≤ 2 then return "\x7bsa_family=AF_UNIX\x7d"
  let pathBytes ← slice data 2 data.length
  let pathBytes ← slice pathBytes 0 (min (alen.toNat-2) pathBytes.length)
  if pathBytes≠[] ∧ pathBytes[0]?=some 0 then
    return "\x7bsa_family=AF_UNIX, sun_path=" ++ bufferEscape pathBytes 0 pathBytes.length 0 ++
      "\x7d"
  let path := pathBytes.rdropWhile (·==0)
  return "\x7bsa_family=AF_UNIX, sun_path=" ++ ctx.quote path ++ "\x7d"

/-- Text of a socket address. -/
def sockaddr (ctx : MessageContext) (data : List UInt8) (alen : UInt32) : Checked String := do
  if data.length < 2 then return "\x7b...\x7d"
  let family ← uint16At data 0
  match family.toNat with
  | 1 => unixSockaddr ctx data alen
  | 2 => do
    if data.length < 8 then return "\x7bsa_family=AF_INET, ...\x7d"
    let port ← bigEndian16At (← slice data 2 4) 0
    let ip ← slice data 4 8
    return "\x7bsa_family=AF_INET, sin_port=htons(" ++ toString port ++ "), sin_addr=inet_addr(" ++
      ctx.quote (ascii (← dotted ip)) ++ ")\x7d"
  | 10 => do
    if data.length < 28 then return "\x7bsa_family=AF_INET6, ...\x7d"
    let port ← bigEndian16At (← slice data 2 4) 0
    let ip ← slice data 8 24
    return "\x7bsa_family=AF_INET6, sin6_port=htons(" ++ toString port ++
      "), sin6_addr=inet_pty(" ++ ctx.quote (ascii (← colonSeparated ip)) ++ ")\x7d"
  | 16 => do
    if data.length < 12 then return "\x7bsa_family=AF_NETLINK, ...\x7d"
    let pid ← uint32At data 4
    let groups ← uint32At data 8
    return "\x7bsa_family=AF_NETLINK, nl_pid=" ++ toString pid.toNat ++ ", nl_groups=" ++
      String.ofList ((hex groups.toNat).toList.leftpad 8 '0') ++ "\x7d"
  | n => return "\x7bsa_family=" ++ toString n ++ ", ...\x7d"

end Addresses

section Payloads

/-- Interface of an index. -/
def translateIfindex (ctx : MessageContext) (ifindex : UInt32) : String :=
  if ifindex=0 then "0"
  else
    match ctx.interfaceName ifindex with
    | some name => "if_nametoindex(" ++ ctx.quote name ++ ")"
    | none => toString ifindex.toNat

/-- Address of four bytes. -/
def formatIPv4 (data : List UInt8) : Checked String :=
  if data.length < 4 then some "0.0.0.0" else dotted data

/-- Interface and addresses of a received packet. -/
def formatIPCmsgPktinfo (ctx : MessageContext) (data : List UInt8) : Checked String := do
  let ifindex ← uint32At data 0
  let destination ← formatIPv4 (← slice data 4 8)
  let address ← formatIPv4 (← slice data 8 12)
  return "\x7bipi_ifindex=" ++ translateIfindex ctx ifindex ++ ", ipi_spec_dst=inet_addr(" ++
    ctx.quote (ascii destination) ++ "), ipi_addr=inet_addr(" ++ ctx.quote (ascii address) ++
    ")\x7d"

/-- Error that the network reported. -/
def formatCmsgIPRecvErr (ctx : MessageContext) (data : List UInt8) : Checked String := do
  let errno ← uint32At data 0
  let origin ← data[4]?
  let type ← data[5]?
  let code ← data[6]?
  let info ← uint32At data 8
  let value ← uint32At data 12
  let offender ← sockaddr ctx (← slice data 16 32) 16
  return "\x7bee_errno=" ++ toString errno.toNat ++ ", ee_origin=" ++ toString origin.toNat ++
    ", ee_type=" ++ toString type.toNat ++ ", ee_code=" ++ toString code.toNat ++ ", ee_info=" ++
    toString info.toNat ++ ", ee_data=" ++ toString value.toNat ++ ", offender=" ++ offender ++
    "\x7d"

/-- Four-byte elements of an array, each written by a function. -/
def wordItems (data : List UInt8) (count : ℕ) (write : UInt32 → String) :
    Checked (List String) :=
  (List.range count).mapM fun i => do return write (← uint32At data (i*4))

/-- Array of numbers. -/
def formatCmsgUintArray (data : List UInt8) : Checked String := do
  return bracketed (← wordItems data (data.length/4) fun word => toString word.toNat)

/-- Array of protocols. -/
def formatCmsgProtocolArray (data : List UInt8) : Checked String := do
  return bracketed (← wordItems data (data.length/4) fun protocol =>
    if protocol=255 then "IPPROTO_RAW" else toString protocol.toNat)

/-- Array of bytes, cut at the display limit. -/
def formatCmsgXint8Array (data : List UInt8) : Checked String := do
  let items ← (List.range (min data.length cmsgArrayDisplayLimit)).mapM fun i => do
    return "0x" ++ twoDigits (← data[i]?)
  return bracketed (items ++ if cmsgArrayDisplayLimit < data.length then ["..."] else [])

/-- Bytes in hexadecimal. -/
def formatCmsgHex (data : List UInt8) : String := bufferEscape data data.length data.length 2

/-- Bytes as a string. -/
def formatCmsgText (ctx : MessageContext) (data : List UInt8) : String :=
  let limit :=
    match ctx.stringLimit with
    | some limit => if 0 < limit then limit else data.length
    | none => data.length
  bufferEscape data limit data.length ctx.escapeMode

/-- Array of descriptors, cut at the display limit. -/
def formatCmsgRights (data : List UInt8) : Checked String := do
  if data.length < 4 then return formatCmsgHex data
  let fds ← wordItems data (min (data.length/4) cmsgArrayDisplayLimit) fun fd =>
    toString fd.toInt32.toInt
  return bracketed (fds ++ if cmsgArrayDisplayLimit < data.length/4 then ["..."] else [])

/-- Sender of a message. -/
def formatCmsgCredentials (data : List UInt8) : Checked String := do
  let pid ← uint32At data 0
  let uid ← uint32At data 4
  let gid ← uint32At data 8
  return "\x7bpid=" ++ toString pid.toInt32.toInt ++ ", uid=" ++ toString uid.toNat ++ ", gid=" ++
    toString gid.toNat ++ "\x7d"

/-- Seconds and a fraction, whose field has a name. -/
def secondsAnd (fraction : String) (data : List UInt8) : Checked String := do
  if data.length < 16 then return "\x7b...\x7d"
  let sec ← uint64At data 0
  let rest ← uint64At data 8
  return "\x7btv_sec=" ++ toString sec.toInt64.toInt ++ ", " ++ fraction ++ "=" ++
    toString rest.toNat ++ "\x7d"

/-- Time with nanoseconds. -/
def timespec (data : List UInt8) : Checked String := secondsAnd "tv_nsec" data

/-- Time with microseconds. -/
def timeval (data : List UInt8) : Checked String := secondsAnd "tv_usec" data

/-- Time at the start of a payload. -/
def formatCmsgTime (data : List UInt8) (decode : List UInt8 → Checked String) :
    Checked String := do
  if data.length < cmsgTimeSize then return "???"
  decode (← slice data 0 cmsgTimeSize)

/-- Three times of a packet. -/
def formatCmsgTimestamping (data : List UInt8) : Checked String := do
  if data.length < cmsgTimeSize*3 then return "???"
  let items ← (List.range 3).mapM fun i => do
    timespec (← slice data (i*cmsgTimeSize) (i*cmsgTimeSize+cmsgTimeSize))
  return bracketed items

/-- Payload of a message of the internet protocol. -/
def formatIPCmsgData (ctx : MessageContext) (cmsgType : Int32) (data : List UInt8) :
    Checked String := do
  match cmsgType.toInt with
  | 8 =>
    if 12 ≤ data.length then
      return ", cmsg_data=" ++ (← formatIPCmsgPktinfo ctx data)
    return ", cmsg_data=" ++ formatCmsgHex data
  | 2 | 23 =>
    if 4 ≤ data.length then
      return ", cmsg_data=" ++ (← formatCmsgUintArray data)
    return ", cmsg_data=" ++ formatCmsgHex data
  | 11 =>
    if 32 ≤ data.length then
      return ", cmsg_data=" ++ (← formatCmsgIPRecvErr ctx data)
    return ", cmsg_data=" ++ formatCmsgHex data
  | 1 | 6 | 7 => return ", cmsg_data=" ++ (← formatCmsgXint8Array data)
  | 20 =>
    if 16 ≤ data.length then
      return ", cmsg_data=" ++ (← sockaddr ctx data (UInt32.ofNat data.length))
    return ", cmsg_data=" ++ formatCmsgHex data
  | 52 =>
    if 4 ≤ data.length then
      return ", cmsg_data=" ++ (← formatCmsgProtocolArray data)
    return ", cmsg_data=" ++ formatCmsgHex data
  | 3 => return ", cmsg_data=" ++ formatCmsgText ctx data
  | _ => return ", cmsg_data=" ++ formatCmsgHex data

/-- Payload of a message. -/
def formatCmsgData (ctx : MessageContext) (level cmsgType : Int32) (data : List UInt8) :
    Checked String := do
  if data=[] then return ""
  if level=0 then return ← formatIPCmsgData ctx cmsgType data
  if level=1 ∧ cmsgType=1 then return ", cmsg_data=" ++ (← formatCmsgRights data)
  if level=1 ∧ cmsgType=2 ∧ cmsgUcredSize ≤ data.length then
    return ", cmsg_data=" ++ (← formatCmsgCredentials data)
  if level=1 ∧ cmsgType=3 then return ", cmsg_data=" ++ formatCmsgText ctx data
  if level=1 ∧ (cmsgType=29 ∨ cmsgType=63) then
    return ", cmsg_data=" ++ (← formatCmsgTime data timeval)
  if level=1 ∧ (cmsgType=35 ∨ cmsgType=64) then
    return ", cmsg_data=" ++ (← formatCmsgTime data timespec)
  if level=1 ∧ (cmsgType=37 ∨ cmsgType=65) then
    return ", cmsg_data=" ++ (← formatCmsgTimestamping data)
  return ", cmsg_data=" ++ formatCmsgHex data

/-- Name of a level. -/
def formatCmsgLevel (level : Int32) : String :=
  match level.toInt with
  | 0 => "SOL_IP"
  | 1 => "SOL_SOCKET"
  | 6 => "SOL_TCP"
  | _ => prefixedHex level.toUInt32.toNat

/-- Name of a type of the internet protocol. -/
def formatIPCmsgType (cmsgType : Int32) : String :=
  match cmsgType.toInt with
  | 1 => "IP_TOS"
  | 2 => "IP_TTL"
  | 6 => "IP_RECVOPTS"
  | 7 => "IP_RETOPTS"
  | 8 => "IP_PKTINFO"
  | 11 => "IP_RECVERR"
  | 20 => "IP_ORIGDSTADDR"
  | 23 => "IP_CHECKSUM"
  | 52 => "IP_PROTOCOL"
  | 3 => "SCM_SECURITY"
  | _ => prefixedHex cmsgType.toUInt32.toNat ++ " /* IP_??? */"

/-- Name of a type. -/
def formatCmsgType (level cmsgType : Int32) : String :=
  if level≠1 then
    if level=0 then formatIPCmsgType cmsgType else prefixedHex cmsgType.toUInt32.toNat
  else
    match cmsgType.toInt with
    | 1 => "SCM_RIGHTS"
    | 2 => "SCM_CREDENTIALS"
    | 3 => "SCM_SECURITY"
    | 29 => "SO_TIMESTAMP_OLD"
    | 35 => "SO_TIMESTAMPNS_OLD"
    | 37 => "SO_TIMESTAMPING_OLD"
    | 63 => "SO_TIMESTAMP_NEW"
    | 64 => "SO_TIMESTAMPNS_NEW"
    | 65 => "SO_TIMESTAMPING_NEW"
    | _ => prefixedHex cmsgType.toUInt32.toNat ++ " /* SCM_??? */"

/-- Text of a message's payload; a message shorter than its header has none. -/
def ControlMessage.payloadText (ctx : MessageContext) (message : ControlMessage) :
    Checked String :=
  if message.cmsgLen < cmsgHeaderSize then some ""
  else formatCmsgData ctx message.level message.cmsgType message.payload

/-- Text of a message. -/
def ControlMessage.text (ctx : MessageContext) (message : ControlMessage) : Checked String := do
  let payload ← message.payloadText ctx
  return "\x7bcmsg_len=" ++ toString message.cmsgLen ++ ", cmsg_level=" ++
    formatCmsgLevel message.level ++ ", cmsg_type=" ++
    formatCmsgType message.level message.cmsgType ++ payload ++ "\x7d"

end Payloads

section Walk

/-- Length of a message rounded up to the alignment. -/
def alignCmsgLen (length : ℤ) : ℤ :=
  if length ≤ cmsgHeaderSize then cmsgHeaderSize else alignEight length

/-- Length, level and type of the header at the start of some bytes. -/
def readHeader (data : List UInt8) : Checked (ℤ×Int32×Int32) := do
  return (int64 (← uint64At data 0).toNat,(← uint32At data 8).toInt32,(← uint32At data 12).toInt32)

/-- Message at the start of some bytes, if they hold its header. -/
def formatControlMessage (data : List UInt8) : Checked (Option ControlMessage) :=
  if data.length < cmsgHeaderSize then some none
  else
    (readHeader data).bind fun (cmsgLen,level,cmsgType) =>
      if cmsgLen < cmsgHeaderSize then some (some ⟨cmsgLen,level,cmsgType,[]⟩)
      else
        (slice data cmsgHeaderSize (min cmsgLen.toNat data.length)).map fun payload =>
          some ⟨cmsgLen,level,cmsgType,payload⟩

/-- Slice expression with a signed start. -/
def sliceFrom (data : List UInt8) (low : ℤ) (high : ℕ) : Checked (List UInt8) :=
  if low < 0 then none else slice data low.toNat high

/-- Messages that the loop collects, where it stopped, and whether at a malformed header. -/
structure WalkReport where
  /-- Messages in the order of their headers. -/
  items : List ControlMessage
  /-- Offset behind the last one. -/
  offset : ℤ
  /-- Whether the last one was shorter than its header. -/
  stoppedMalformed : Bool

/-- Report with one more message in front. -/
def WalkReport.prepend (message : ControlMessage) (report : WalkReport) : WalkReport :=
  { report with items := message::report.items }

/-- Loop over the messages between an offset and the limit. -/
def walk (data : List UInt8) (controlLen : UInt64) (limit : ℕ) (offset : ℤ) :
    Checked WalkReport :=
  if int64 (offset+cmsgHeaderSize) ≤ limit then
    match (sliceFrom data offset limit).bind formatControlMessage with
    | none => none
    | some none => some ⟨[],offset,false⟩
    | some (some item) =>
      if item.cmsgLen < cmsgHeaderSize then
        some ⟨[item],int64 (offset+cmsgHeaderSize),true⟩
      else if _hnext : alignCmsgLen item.cmsgLen < cmsgHeaderSize ∨
          int64 (offset+alignCmsgLen item.cmsgLen) ≤ offset then
        some ⟨[item],offset,false⟩
      else if controlLen.toNat <
          uint64 (uint64 (int64 (offset+alignCmsgLen item.cmsgLen))+cmsgHeaderSize) then
        some ⟨[item],int64 (offset+alignCmsgLen item.cmsgLen),false⟩
      else
        (walk data controlLen limit (int64 (offset+alignCmsgLen item.cmsgLen))).map
          (WalkReport.prepend item)
  else some ⟨[],offset,false⟩
termination_by (2^63-offset).toNat
decreasing_by
  have hlt := int64_lt (offset+alignCmsgLen item.cmsgLen)
  omega

/-- Number of bytes of the buffer that belong to the control data. -/
def controlLimit (data : List UInt8) (controlLen : UInt64) : ℕ :=
  if controlLen.toNat < data.length then controlLen.toNat else data.length

/-- Messages of a buffer. -/
def controlMessages (data : List UInt8) (controlLen : UInt64) : Checked WalkReport :=
  walk data controlLen (controlLimit data controlLen) 0

/-- What stands behind the messages: an address, dots, or nothing. -/
def walkSuffix (controlPtr controlLen : UInt64) (data : List UInt8) (report : WalkReport) :
    String :=
  if (report.stoppedMalformed=true ∨
      controlLimit data controlLen < int64 (report.offset+cmsgHeaderSize)) ∧
      uint64 report.offset < controlLen.toNat ∧ uint64 report.offset ≤ data.length then
    ", ... /* " ++ prefixedHex (uint64 (controlPtr.toNat+uint64 report.offset)) ++ " */"
  else if data.length < controlLen.toNat then ", ..." else ""

/-- Text of a control buffer, if it has a message. -/
def formatControlMessages (ctx : MessageContext) (controlPtr controlLen : UInt64)
    (data : List UInt8) : Checked (Option String) := do
  let report ← controlMessages data controlLen
  let items ← report.items.mapM (ControlMessage.text ctx)
  if items=[] then return none
  return some ("[" ++ ", ".intercalate items ++ walkSuffix controlPtr controlLen data report ++ "]")

end Walk

section Totality

variable {data : List UInt8}

theorem dotted_isSome (h : 4 ≤ data.length) : (dotted data).isSome=true := by
  unfold dotted
  refine bind_isSome (getElem?_isSome (by omega)) fun _ _ => ?_
  refine bind_isSome (getElem?_isSome (by omega)) fun _ _ => ?_
  refine bind_isSome (getElem?_isSome (by omega)) fun _ _ => ?_
  exact bind_isSome (getElem?_isSome (by omega)) fun _ _ => rfl

theorem colonSeparated_isSome (h : 16 ≤ data.length) : (colonSeparated data).isSome=true := by
  unfold colonSeparated
  refine bind_isSome (mapM_isSome fun i hi => ?_) fun _ _ => rfl
  have hi := List.mem_range.mp hi
  refine bind_isSome (getElem?_isSome (by omega)) fun _ _ => ?_
  exact bind_isSome (getElem?_isSome (by omega)) fun _ _ => rfl

theorem bigEndian16At_isSome {i : ℕ} (h : i+2 ≤ data.length) :
    (bigEndian16At data i).isSome=true := by
  unfold bigEndian16At
  refine bind_isSome (getElem?_isSome (by omega)) fun _ _ => ?_
  exact bind_isSome (getElem?_isSome (by omega)) fun _ _ => rfl

theorem unixSockaddr_isSome (ctx : MessageContext) (data : List UInt8) (alen : UInt32) :
    (unixSockaddr ctx data alen).isSome=true := by
  unfold unixSockaddr
  refine ite_isSome (fun _ => rfl) fun _ => ?_
  refine bind_isSome (slice_isSome (by omega) (by omega)) fun path _ => ?_
  refine bind_isSome (slice_isSome (by omega) (by omega)) fun active _ => ?_
  exact ite_isSome (fun _ => rfl) fun _ => rfl

/-- Every address has a text. -/
theorem sockaddr_isSome (ctx : MessageContext) (data : List UInt8) (alen : UInt32) :
    (sockaddr ctx data alen).isSome=true := by
  unfold sockaddr
  refine ite_isSome (fun _ => rfl) fun _ => ?_
  refine bind_isSome (by rw [uint16At_eq (by omega)]; rfl) fun family _ => ?_
  split
  · exact unixSockaddr_isSome ctx data alen
  · refine ite_isSome (fun _ => rfl) fun _ => ?_
    refine bind_isSome (slice_isSome (by omega) (by omega)) fun port hport => ?_
    have hlength := length_slice hport
    refine bind_isSome (bigEndian16At_isSome (by omega)) fun _ _ => ?_
    refine bind_isSome (slice_isSome (by omega) (by omega)) fun ip hip => ?_
    have hlength := length_slice hip
    exact bind_isSome (dotted_isSome (by omega)) fun _ _ => rfl
  · refine ite_isSome (fun _ => rfl) fun _ => ?_
    refine bind_isSome (slice_isSome (by omega) (by omega)) fun port hport => ?_
    have hlength := length_slice hport
    refine bind_isSome (bigEndian16At_isSome (by omega)) fun _ _ => ?_
    refine bind_isSome (slice_isSome (by omega) (by omega)) fun ip hip => ?_
    have hlength := length_slice hip
    exact bind_isSome (colonSeparated_isSome (by omega)) fun _ _ => rfl
  · refine ite_isSome (fun _ => rfl) fun _ => ?_
    refine bind_isSome (uint32At_isSome (by omega)) fun _ _ => ?_
    exact bind_isSome (uint32At_isSome (by omega)) fun _ _ => rfl
  · rfl

theorem wordItems_isSome {count : ℕ} (h : count*4 ≤ data.length) (write : UInt32 → String) :
    (wordItems data count write).isSome=true := by
  refine mapM_isSome fun i hi => ?_
  have hi := List.mem_range.mp hi
  exact bind_isSome (uint32At_isSome (by omega)) fun _ _ => rfl

theorem formatCmsgUintArray_isSome (data : List UInt8) :
    (formatCmsgUintArray data).isSome=true := by
  unfold formatCmsgUintArray
  exact bind_isSome (wordItems_isSome (by omega) _) fun _ _ => rfl

theorem formatCmsgProtocolArray_isSome (data : List UInt8) :
    (formatCmsgProtocolArray data).isSome=true := by
  unfold formatCmsgProtocolArray
  exact bind_isSome (wordItems_isSome (by omega) _) fun _ _ => rfl

theorem formatIPv4_isSome (data : List UInt8) : (formatIPv4 data).isSome=true := by
  unfold formatIPv4
  exact ite_isSome (fun _ => rfl) fun _ => dotted_isSome (by omega)

theorem formatIPCmsgPktinfo_isSome (ctx : MessageContext) (h : 12 ≤ data.length) :
    (formatIPCmsgPktinfo ctx data).isSome=true := by
  unfold formatIPCmsgPktinfo
  refine bind_isSome (uint32At_isSome (by omega)) fun _ _ => ?_
  refine bind_isSome (slice_isSome (by omega) (by omega)) fun destination _ => ?_
  refine bind_isSome (formatIPv4_isSome destination) fun _ _ => ?_
  refine bind_isSome (slice_isSome (by omega) (by omega)) fun address _ => ?_
  exact bind_isSome (formatIPv4_isSome address) fun _ _ => rfl

theorem formatCmsgIPRecvErr_isSome (ctx : MessageContext) (h : 32 ≤ data.length) :
    (formatCmsgIPRecvErr ctx data).isSome=true := by
  unfold formatCmsgIPRecvErr
  refine bind_isSome (uint32At_isSome (by omega)) fun _ _ => ?_
  refine bind_isSome (getElem?_isSome (by omega)) fun _ _ => ?_
  refine bind_isSome (getElem?_isSome (by omega)) fun _ _ => ?_
  refine bind_isSome (getElem?_isSome (by omega)) fun _ _ => ?_
  refine bind_isSome (uint32At_isSome (by omega)) fun _ _ => ?_
  refine bind_isSome (uint32At_isSome (by omega)) fun _ _ => ?_
  refine bind_isSome (slice_isSome (by omega) (by omega)) fun offender _ => ?_
  exact bind_isSome (sockaddr_isSome ctx offender 16) fun _ _ => rfl

theorem formatCmsgXint8Array_isSome (data : List UInt8) :
    (formatCmsgXint8Array data).isSome=true := by
  unfold formatCmsgXint8Array
  refine bind_isSome (mapM_isSome fun i hi => ?_) fun _ _ => rfl
  have hi := List.mem_range.mp hi
  exact bind_isSome (getElem?_isSome (by omega)) fun _ _ => rfl

theorem formatCmsgRights_isSome (data : List UInt8) : (formatCmsgRights data).isSome=true := by
  unfold formatCmsgRights
  refine ite_isSome (fun _ => rfl) fun _ => ?_
  exact bind_isSome (wordItems_isSome (by omega) _) fun _ _ => rfl

theorem formatCmsgCredentials_isSome (h : 12 ≤ data.length) :
    (formatCmsgCredentials data).isSome=true := by
  unfold formatCmsgCredentials
  refine bind_isSome (uint32At_isSome (by omega)) fun _ _ => ?_
  refine bind_isSome (uint32At_isSome (by omega)) fun _ _ => ?_
  exact bind_isSome (uint32At_isSome (by omega)) fun _ _ => rfl

theorem secondsAnd_isSome (fraction : String) (data : List UInt8) :
    (secondsAnd fraction data).isSome=true := by
  unfold secondsAnd
  refine ite_isSome (fun _ => rfl) fun _ => ?_
  refine bind_isSome (by rw [uint64At_eq (by omega)]; rfl) fun _ _ => ?_
  exact bind_isSome (by rw [uint64At_eq (by omega)]; rfl) fun _ _ => rfl

theorem formatCmsgTime_isSome (fraction : String) (data : List UInt8) :
    (formatCmsgTime data (secondsAnd fraction)).isSome=true := by
  unfold formatCmsgTime cmsgTimeSize
  refine ite_isSome (fun _ => rfl) fun _ => ?_
  exact bind_isSome (slice_isSome (by omega) (by omega)) fun _ _ => secondsAnd_isSome _ _

theorem formatCmsgTimestamping_isSome (data : List UInt8) :
    (formatCmsgTimestamping data).isSome=true := by
  unfold formatCmsgTimestamping cmsgTimeSize
  refine ite_isSome (fun _ => rfl) fun _ => ?_
  refine bind_isSome (mapM_isSome fun i hi => ?_) fun _ _ => rfl
  have hi := List.mem_range.mp hi
  exact bind_isSome (slice_isSome (by omega) (by omega)) fun _ _ => secondsAnd_isSome _ _

theorem formatIPCmsgData_isSome (ctx : MessageContext) (cmsgType : Int32) (data : List UInt8) :
    (formatIPCmsgData ctx cmsgType data).isSome=true := by
  unfold formatIPCmsgData
  split
  · refine ite_isSome (fun h => ?_) fun _ => rfl
    exact bind_isSome (formatIPCmsgPktinfo_isSome ctx h) fun _ _ => rfl
  · refine ite_isSome (fun h => ?_) fun _ => rfl
    exact bind_isSome (formatCmsgUintArray_isSome data) fun _ _ => rfl
  · refine ite_isSome (fun h => ?_) fun _ => rfl
    exact bind_isSome (formatCmsgUintArray_isSome data) fun _ _ => rfl
  · refine ite_isSome (fun h => ?_) fun _ => rfl
    exact bind_isSome (formatCmsgIPRecvErr_isSome ctx h) fun _ _ => rfl
  · exact bind_isSome (formatCmsgXint8Array_isSome data) fun _ _ => rfl
  · exact bind_isSome (formatCmsgXint8Array_isSome data) fun _ _ => rfl
  · exact bind_isSome (formatCmsgXint8Array_isSome data) fun _ _ => rfl
  · refine ite_isSome (fun h => ?_) fun _ => rfl
    exact bind_isSome (sockaddr_isSome ctx data _) fun _ _ => rfl
  · refine ite_isSome (fun h => ?_) fun _ => rfl
    exact bind_isSome (formatCmsgProtocolArray_isSome data) fun _ _ => rfl
  · rfl
  · rfl

/-- Every payload has a text. -/
theorem formatCmsgData_isSome (ctx : MessageContext) (level cmsgType : Int32)
    (data : List UInt8) : (formatCmsgData ctx level cmsgType data).isSome=true := by
  unfold formatCmsgData
  refine ite_isSome (fun _ => rfl) fun _ => ?_
  refine ite_isSome (fun _ => ?_) fun _ => ?_
  · exact formatIPCmsgData_isSome ctx cmsgType data
  refine ite_isSome (fun _ => ?_) fun _ => ?_
  · exact bind_isSome (formatCmsgRights_isSome data) fun _ _ => rfl
  refine ite_isSome (fun h => ?_) fun _ => ?_
  · exact bind_isSome (formatCmsgCredentials_isSome h.2.2) fun _ _ => rfl
  refine ite_isSome (fun _ => rfl) fun _ => ?_
  refine ite_isSome (fun _ => ?_) fun _ => ?_
  · exact bind_isSome (formatCmsgTime_isSome _ data) fun _ _ => rfl
  refine ite_isSome (fun _ => ?_) fun _ => ?_
  · exact bind_isSome (formatCmsgTime_isSome _ data) fun _ _ => rfl
  refine ite_isSome (fun _ => ?_) fun _ => rfl
  exact bind_isSome (formatCmsgTimestamping_isSome data) fun _ _ => rfl

/-- Every message has a text. -/
theorem text_isSome (ctx : MessageContext) (message : ControlMessage) :
    (message.text ctx).isSome=true := by
  unfold ControlMessage.text ControlMessage.payloadText
  refine bind_isSome ?_ fun _ _ => rfl
  exact ite_isSome (fun _ => rfl) fun _ => formatCmsgData_isSome ctx _ _ _

end Totality

section Headers

/-- Length in the header at an offset. -/
def cmsgLenAt (data : List UInt8) (o : ℕ) : ℕ := field data o 8

/-- Offset behind the message at an offset. -/
def nextHeader (data : List UInt8) (o : ℕ) : ℕ := o+(cmsgLenAt data o+7)/8*8

/-- Offsets of the chain of headers from an offset on, in exact numbers: each header lies whole in
the bytes and in the control length, and each but the last one is no shorter than a header. -/
def headersFrom (data : List UInt8) (controlLen o : ℕ) : List ℕ :=
  if o+16 ≤ data.length ∧ o+16 ≤ controlLen then
    if 16 ≤ cmsgLenAt data o then o::headersFrom data controlLen (nextHeader data o) else [o]
  else []
termination_by data.length-o
decreasing_by
  unfold nextHeader
  omega

/-- Message of the header at an offset, its payload cut at a bound. -/
def messageAt (data : List UInt8) (bound o : ℕ) : ControlMessage where
  cmsgLen := int64 (cmsgLenAt data o)
  level := (UInt32.ofNat (field data (o+8) 4)).toInt32
  cmsgType := (UInt32.ofNat (field data (o+12) 4)).toInt32
  payload := ((data.take bound).drop (o+16)).take (cmsgLenAt data o-16)

/-- Message that the formatter reads at an offset; lengths of the upper half have no payload. -/
def readMessage (data : List UInt8) (bound o : ℕ) : ControlMessage :=
  { messageAt data bound o with
    payload := if cmsgLenAt data o < 2^63 then (messageAt data bound o).payload else [] }

theorem cmsgLenAt_lt (data : List UInt8) (o : ℕ) : cmsgLenAt data o < 2^64 := field_lt data o 8

theorem int64_cmsgLenAt (data : List UInt8) (o : ℕ) :
    int64 (cmsgLenAt data o) < 16 ↔ cmsgLenAt data o < 16 ∨ 2^63 ≤ cmsgLenAt data o := by
  have hlt := cmsgLenAt_lt data o
  by_cases hupper : 2^63 ≤ cmsgLenAt data o
  · rw [int64_of_upper (by omega) (by omega)]
    omega
  · rw [int64_eq (by omega) (by omega)]
    omega

/-- Bytes behind a header in the front of the data, cut twice. -/
theorem payload_eq (data : List UInt8) {bound o n : ℕ} (hbound : bound ≤ data.length)
    (ho : o+16 ≤ bound) (hn : 16 ≤ n) :
    ((((data.drop o).take (bound-o)).drop 16).take (min n (bound-o)-16))=
      ((data.take bound).drop (o+16)).take (n-16) := by
  have hpart : (data.drop o).take (bound-o)=(data.take bound).drop o := List.drop_take.symm
  rw [hpart,List.drop_drop]
  apply List.take_eq_take_iff.mpr
  rw [List.length_drop,List.length_take]
  omega

theorem readHeader_eq {data : List UInt8} (h : 16 ≤ data.length) :
    readHeader data=some (int64 (field data 0 8),(UInt32.ofNat (field data 8 4)).toInt32,
      (UInt32.ofNat (field data 12 4)).toInt32) := by
  have hnat : (UInt64.ofNat (field data 0 8)).toNat=field data 0 8 := by
    have hlt := field_lt data 0 8
    simpa using hlt
  unfold readHeader
  rw [uint64At_eq (by omega),uint32At_eq (by omega),uint32At_eq (by omega)]
  change some (int64 (UInt64.ofNat (field data 0 8)).toNat,_,_)=_
  rw [hnat]

/-- A header inside the limit is read as it stands. -/
theorem formatControlMessage_eq {data : List UInt8} {limit o : ℕ} (hlimit : limit ≤ data.length)
    (ho : o+16 ≤ limit) :
    (sliceFrom data o limit).bind formatControlMessage=some (some (readMessage data limit o)) := by
  have hslice : sliceFrom data o limit=some ((data.drop o).take (limit-o)) := by
    unfold sliceFrom
    rw [if_neg (by omega),Int.toNat_natCast,slice_eq (by omega) hlimit]
  have hlength : ((data.drop o).take (limit-o)).length=limit-o := by
    rw [List.length_take,List.length_drop]
    omega
  have hheader : readHeader ((data.drop o).take (limit-o))=
      some (int64 (cmsgLenAt data o),(messageAt data limit o).level,
        (messageAt data limit o).cmsgType) := by
    rw [readHeader_eq (by omega),field_part data (by omega),field_part data (by omega),
      field_part data (by omega)]
    rfl
  have hguard : ¬((data.drop o).take (limit-o)).length < cmsgHeaderSize := by
    rw [hlength]
    unfold cmsgHeaderSize
    omega
  rw [hslice,Option.bind_some]
  unfold formatControlMessage
  rw [if_neg hguard,hheader,Option.bind_some]
  dsimp only
  have hlt := int64_cmsgLenAt data o
  by_cases hshort : int64 (cmsgLenAt data o) < cmsgHeaderSize
  · have hkinds := hlt.mp hshort
    have hpayload : (readMessage data limit o).payload=[] := by
      unfold readMessage messageAt
      dsimp only
      split_ifs with hlower
      · have hzero : cmsgLenAt data o-16=0 := by omega
        rw [hzero,List.take_zero]
      · rfl
    rw [if_pos hshort,← hpayload]
    rfl
  · have hkinds := (not_congr hlt).mp hshort
    have hlower : 16 ≤ cmsgLenAt data o ∧ cmsgLenAt data o < 2^63 := by omega
    have hsigned : int64 (cmsgLenAt data o)=cmsgLenAt data o :=
      int64_eq (by omega) (by omega)
    have hpayload : (readMessage data limit o).payload=
        ((data.take limit).drop (o+16)).take (cmsgLenAt data o-16) := if_pos hlower.2
    rw [if_neg hshort,hsigned,Int.toNat_natCast,hlength,
      slice_eq (by unfold cmsgHeaderSize; omega) (by omega),Option.map_some]
    unfold cmsgHeaderSize
    have hcmsgLen : (readMessage data limit o).cmsgLen=cmsgLenAt data o := hsigned
    rw [payload_eq data hlimit ho hlower.1,← hpayload,← hcmsgLen]
    rfl

end Headers

section Chain

variable {data : List UInt8} {controlLen : UInt64} {limit o : ℕ}

/-- The loop ends where no header fits. -/
theorem walk_end (ho : o+16 < 2^63) (hend : limit < o+16) :
    walk data controlLen limit o=some ⟨[],o,false⟩ := by
  have hsum : int64 ((o : ℤ)+cmsgHeaderSize)=o+16 := by
    unfold cmsgHeaderSize
    exact int64_eq (by omega) (by omega)
  rw [walk,hsum,if_neg (by omega)]

/-- At the end of the signed range the loop condition overflows and the slice is out of bounds,
unless the buffer reaches this far. -/
theorem walk_past (ho : 2^63 ≤ o+16) (hrange : o < 2^63) (hlimit : limit ≤ data.length)
    (hfits : data.length < 2^63) :
    walk data controlLen limit o=if limit < o then none else some ⟨[],o,false⟩ := by
  have hsum : int64 ((o : ℤ)+cmsgHeaderSize)=o+16-2^64 := by
    unfold cmsgHeaderSize
    exact int64_of_upper (by omega) (by omega)
  rw [walk,hsum,if_pos (by omega)]
  unfold sliceFrom
  rw [if_neg (by omega),Int.toNat_natCast]
  by_cases hout : limit < o
  · have hslice : slice data o limit=none := by
      unfold slice
      rw [if_neg (by omega)]
    rw [hslice,if_pos hout]
    rfl
  · have hshort : ((data.drop o).take (limit-o)).length < cmsgHeaderSize := by
      rw [List.length_take,List.length_drop]
      unfold cmsgHeaderSize
      omega
    have hnone : formatControlMessage ((data.drop o).take (limit-o))=some none := if_pos hshort
    rw [slice_eq (by omega) hlimit,Option.bind_some,if_neg hout,hnone]

theorem alignCmsgLen_eq {n : ℕ} (hlow : 16 ≤ n) (hhigh : n+7 < 2^63) :
    alignCmsgLen n=((n+7)/8*8 : ℕ) := by
  unfold alignCmsgLen cmsgHeaderSize
  split_ifs with hsmall
  · have hn : n=16 := by omega
    rw [hn]
  · exact alignEight_eq hhigh

/-- The step to the next header is broken off exactly if it leaves the signed range. -/
theorem step_breaks (hlow : 16 ≤ cmsgLenAt data o) (hhigh : cmsgLenAt data o < 2^63)
    (ho : o < 2^63) :
    (alignCmsgLen (cmsgLenAt data o) < cmsgHeaderSize ∨
      int64 (o+alignCmsgLen (cmsgLenAt data o)) ≤ o) ↔ 2^63 ≤ nextHeader data o := by
  unfold nextHeader
  by_cases hround : cmsgLenAt data o+7 < 2^63
  · rw [alignCmsgLen_eq hlow hround]
    unfold cmsgHeaderSize
    by_cases hupper : 2^63 ≤ o+(cmsgLenAt data o+7)/8*8
    · rw [int64_of_upper (by omega) (by omega)]
      omega
    · rw [int64_eq (by omega) (by omega)]
      omega
  · have hneg : alignCmsgLen (cmsgLenAt data o) < 0 := by
      unfold alignCmsgLen
      rw [if_neg (by unfold cmsgHeaderSize; omega)]
      exact alignEight_of_upper (by omega) hhigh
    unfold cmsgHeaderSize
    omega

/-- A step inside the signed range leads to the next header. -/
theorem step_eq (hlow : 16 ≤ cmsgLenAt data o) (hnext : nextHeader data o < 2^63) :
    int64 (o+alignCmsgLen (cmsgLenAt data o))=nextHeader data o := by
  have hround : cmsgLenAt data o+7 < 2^63 := by
    unfold nextHeader at hnext
    omega
  rw [alignCmsgLen_eq hlow hround,int64_eq (by omega) (by unfold nextHeader at hnext; omega)]
  unfold nextHeader
  omega

/-- One turn of the loop at a header inside the limit. -/
theorem walk_step (hlimit : limit ≤ data.length) (hfits : data.length < 2^63)
    (ho : o+16 ≤ limit) :
    walk data controlLen limit o=
      if cmsgLenAt data o < 16 ∨ 2^63 ≤ cmsgLenAt data o then
        some ⟨[readMessage data limit o],(o+16 : ℕ),true⟩
      else if 2^63 ≤ nextHeader data o then some ⟨[readMessage data limit o],o,false⟩
      else if controlLen.toNat < nextHeader data o+16 then
        some ⟨[readMessage data limit o],nextHeader data o,false⟩
      else
        (walk data controlLen limit (nextHeader data o)).map
          (WalkReport.prepend (readMessage data limit o)) := by
  have hsum : int64 ((o : ℤ)+cmsgHeaderSize)=(o+16 : ℕ) := by
    unfold cmsgHeaderSize
    exact int64_eq (by omega) (by omega)
  have hlength : (readMessage data limit o).cmsgLen=int64 (cmsgLenAt data o) := rfl
  have hshort : int64 (cmsgLenAt data o) < (cmsgHeaderSize : ℕ) ↔
      cmsgLenAt data o < 16 ∨ 2^63 ≤ cmsgLenAt data o := int64_cmsgLenAt data o
  rw [walk,hsum,if_pos (by omega),formatControlMessage_eq hlimit ho]
  dsimp only
  rw [hlength]
  by_cases hkind : cmsgLenAt data o < 16 ∨ 2^63 ≤ cmsgLenAt data o
  · rw [if_pos (hshort.mpr hkind),if_pos hkind]
  · rw [if_neg (mt hshort.mp hkind),if_neg hkind]
    have hsigned : int64 (cmsgLenAt data o)=cmsgLenAt data o := int64_eq (by omega) (by omega)
    have hbreaks : _ ↔ 2^63 ≤ nextHeader data o :=
      step_breaks (by omega) (by omega) (by omega)
    rw [hsigned]
    by_cases hnext : 2^63 ≤ nextHeader data o
    · rw [dif_pos (hbreaks.mpr hnext),if_pos hnext]
    · have hsum : uint64 (uint64 (nextHeader data o)+cmsgHeaderSize)=nextHeader data o+16 := by
        rw [uint64_ofNat (by omega)]
        unfold cmsgHeaderSize
        exact uint64_ofNat (by omega)
      rw [dif_neg (mt hbreaks.mp hnext),if_neg hnext,step_eq (by omega) (by omega),hsum]

/-- A message after which the loop condition overflows, outside the buffer. -/
def Overruns (data : List UInt8) (controlLen : UInt64) (o : ℕ) : Prop :=
  16 ≤ cmsgLenAt data o ∧ 2^63 ≤ nextHeader data o+16 ∧ nextHeader data o < 2^63 ∧
    data.length < nextHeader data o ∧ nextHeader data o+16 ≤ controlLen.toNat

theorem controlLimit_eq (data : List UInt8) (controlLen : UInt64) :
    controlLimit data controlLen=min data.length controlLen.toNat := by
  unfold controlLimit
  split_ifs <;> omega

theorem headersFrom_end {n : ℕ} (h : data.length < o+16 ∨ n < o+16) :
    headersFrom data n o=[] := by
  rw [headersFrom,if_neg (by omega)]

theorem headersFrom_last {n : ℕ} (hdata : o+16 ≤ data.length) (hcontrol : o+16 ≤ n)
    (hnext : cmsgLenAt data o < 16 ∨ data.length < nextHeader data o+16 ∨
      n < nextHeader data o+16) :
    headersFrom data n o=[o] := by
  rw [headersFrom,if_pos ⟨hdata,hcontrol⟩]
  split_ifs with hshort
  · rw [headersFrom_end (by omega)]
  · rfl

theorem headersFrom_cons {n : ℕ} (hdata : o+16 ≤ data.length) (hcontrol : o+16 ≤ n)
    (hshort : 16 ≤ cmsgLenAt data o) :
    headersFrom data n o=o::headersFrom data n (nextHeader data o) := by
  rw [headersFrom,if_pos ⟨hdata,hcontrol⟩,if_pos hshort]

/-- From an offset on the loop lists the chain of headers, or panics behind a message that
overruns. -/
structure Follows (data : List UInt8) (controlLen : UInt64) (o : ℕ) : Prop where
  /-- Without such a message every header is listed. -/
  lists : (∀ h∈headersFrom data controlLen.toNat o, ¬Overruns data controlLen h) →
    ∃ report, walk data controlLen (controlLimit data controlLen) o=some report ∧
      report.items=(headersFrom data controlLen.toNat o).map
        (readMessage data (controlLimit data controlLen))
  /-- Such a message stops the program. -/
  panics : (∃ h∈headersFrom data controlLen.toNat o, Overruns data controlLen h) →
    walk data controlLen (controlLimit data controlLen) o=none

/-- The loop stops at the last header of a chain. -/
theorem follows_last {report : WalkReport} (hchain : headersFrom data controlLen.toNat o=[o])
    (hsound : ¬Overruns data controlLen o)
    (hwalk : walk data controlLen (controlLimit data controlLen) o=some report)
    (hitems : report.items=[readMessage data (controlLimit data controlLen) o]) :
    Follows data controlLen o where
  lists _ := by
    rw [hchain]
    exact ⟨report,hwalk,hitems⟩
  panics h := by
    rcases h with ⟨h,hmem,hover⟩
    rw [hchain,List.mem_singleton] at hmem
    rw [hmem] at hover
    exact absurd hover hsound

/-- The loop goes on to the next header. -/
theorem follows_cons
    (hchain : headersFrom data controlLen.toNat o=
      o::headersFrom data controlLen.toNat (nextHeader data o))
    (hsound : ¬Overruns data controlLen o)
    (hwalk : walk data controlLen (controlLimit data controlLen) o=
      (walk data controlLen (controlLimit data controlLen) (nextHeader data o)).map
        (WalkReport.prepend (readMessage data (controlLimit data controlLen) o)))
    (hnext : Follows data controlLen (nextHeader data o)) :
    Follows data controlLen o where
  lists h := by
    rw [hchain] at h
    rcases hnext.lists fun a ha => h a (List.mem_cons_of_mem _ ha) with ⟨report,hreport,hitems⟩
    refine ⟨report.prepend (readMessage data (controlLimit data controlLen) o),?_,?_⟩
    · rw [hwalk,hreport,Option.map_some]
    · rw [hchain,List.map_cons,← hitems]
      rfl
  panics h := by
    rcases h with ⟨h,hmem,hover⟩
    rw [hchain] at hmem
    rcases List.mem_cons.mp hmem with hself | hrest
    · rw [hself] at hover
      exact absurd hover hsound
    · rw [hwalk,hnext.panics ⟨h,hrest,hover⟩,Option.map_none]

/-- Behind the end of the signed range the loop panics, unless the buffer reaches this far. -/
theorem follows_past (hfits : data.length < 2^63) (hfit : o+16 ≤ controlLimit data controlLen)
    (hlow : 16 ≤ cmsgLenAt data o) (hpast : 2^63 ≤ nextHeader data o+16)
    (hupper : nextHeader data o < 2^63)
    (hcontrol : nextHeader data o+16 ≤ controlLen.toNat)
    (hwalk : walk data controlLen (controlLimit data controlLen) o=
      (walk data controlLen (controlLimit data controlLen) (nextHeader data o)).map
        (WalkReport.prepend (readMessage data (controlLimit data controlLen) o))) :
    Follows data controlLen o := by
  have hlimit := controlLimit_eq data controlLen
  have hchain : headersFrom data controlLen.toNat o=[o] :=
    headersFrom_last (by omega) (by omega) (by omega)
  rw [walk_past hpast hupper (by omega) hfits] at hwalk
  by_cases hout : controlLimit data controlLen < nextHeader data o
  · rw [if_pos hout,Option.map_none] at hwalk
    have hover : Overruns data controlLen o := ⟨hlow,hpast,hupper,by omega,hcontrol⟩
    constructor
    · intro h
      rw [hchain] at h
      exact absurd hover (h o (List.mem_singleton_self o))
    · exact fun _ => hwalk
  · rw [if_neg hout,Option.map_some] at hwalk
    refine follows_last hchain ?_ hwalk rfl
    unfold Overruns
    omega

/-- From an offset inside the signed range the loop follows the chain. -/
theorem walk_follows (hfits : data.length < 2^63) (ho : o+16 < 2^63) :
    Follows data controlLen o := by
  have hlimit := controlLimit_eq data controlLen
  induction hmeasure : data.length-o using Nat.strongRecOn generalizing o with
  | ind n ih =>
    by_cases hfit : o+16 ≤ data.length ∧ o+16 ≤ controlLen.toNat
    · have hstep : walk data controlLen (controlLimit data controlLen) o=_ :=
        walk_step (by omega) hfits (by omega)
      by_cases hkind : cmsgLenAt data o < 16 ∨ 2^63 ≤ cmsgLenAt data o
      · rw [if_pos hkind] at hstep
        refine follows_last (headersFrom_last hfit.1 hfit.2 ?_) ?_ hstep rfl
        · unfold nextHeader
          omega
        · unfold Overruns nextHeader
          omega
      · rw [if_neg hkind] at hstep
        by_cases hupper : 2^63 ≤ nextHeader data o
        · rw [if_pos hupper] at hstep
          refine follows_last (headersFrom_last hfit.1 hfit.2 (by omega)) ?_ hstep rfl
          unfold Overruns
          omega
        · rw [if_neg hupper] at hstep
          by_cases hcontrol : controlLen.toNat < nextHeader data o+16
          · rw [if_pos hcontrol] at hstep
            refine follows_last (headersFrom_last hfit.1 hfit.2 (by omega)) ?_ hstep rfl
            unfold Overruns
            omega
          · rw [if_neg hcontrol] at hstep
            by_cases hpast : 2^63 ≤ nextHeader data o+16
            · exact follows_past hfits (by omega) (by omega) hpast (by omega) (by omega) hstep
            · have hforward : o < nextHeader data o := by
                unfold nextHeader
                omega
              refine follows_cons (headersFrom_cons hfit.1 hfit.2 (by omega)) ?_ hstep
                (ih _ (by omega) (by omega) rfl)
              unfold Overruns
              omega
    · constructor
      · intro _
        rw [headersFrom_end (by omega),walk_end ho (by omega)]
        exact ⟨_,rfl,rfl⟩
      · rintro ⟨h,hmem,_⟩
        rw [headersFrom_end (by omega)] at hmem
        exact absurd hmem List.not_mem_nil

end Chain

section Faithfulness

/-- The formatter shows a list of messages: the loop collects them, and the text is that of the
messages in order. -/
def Shows (ctx : MessageContext) (controlPtr controlLen : UInt64) (data : List UInt8)
    (messages : List ControlMessage) : Prop :=
  ∃ report items, controlMessages data controlLen=some report ∧ report.items=messages ∧
    messages.mapM (ControlMessage.text ctx)=some items ∧
    formatControlMessages ctx controlPtr controlLen data=some (if items=[] then none
      else some ("[" ++ ", ".intercalate items ++
        walkSuffix controlPtr controlLen data report ++ "]"))

/-- The text follows from the messages, since each has one. -/
theorem shows_iff (ctx : MessageContext) (controlPtr controlLen : UInt64) (data : List UInt8)
    (messages : List ControlMessage) :
    Shows ctx controlPtr controlLen data messages ↔
      ∃ report, controlMessages data controlLen=some report ∧ report.items=messages := by
  constructor
  · rintro ⟨report,items,hwalk,hitems,-⟩
    exact ⟨report,hwalk,hitems⟩
  · rintro ⟨report,hwalk,hitems⟩
    have htexts : (messages.mapM (ControlMessage.text ctx)).isSome=true :=
      mapM_isSome fun message _ => text_isSome ctx message
    rcases Option.isSome_iff_exists.mp htexts with ⟨items,htexts⟩
    refine ⟨report,items,hwalk,hitems,htexts,?_⟩
    rw [← hitems] at htexts
    unfold formatControlMessages
    rw [hwalk]
    change ((report.items.mapM (ControlMessage.text ctx)).bind fun items => _)=_
    rw [htexts,Option.bind_some]
    split_ifs <;> rfl

/-- A payload is a front of the bytes behind its header. -/
theorem payload_messageAt (data : List UInt8) (bound o : ℕ) :
    (messageAt data bound o).payload=
      (data.drop (o+16)).take (min (cmsgLenAt data o-16) (bound-(o+16))) := by
  unfold messageAt
  dsimp only
  rw [List.drop_take,List.take_take]

/-- Reading a message cuts its payload at the limit; it agrees with a cut at a later bound
exactly if nothing of the payload lies between the two, nor any of it is lost with its length. -/
theorem readMessage_eq_iff {data : List UInt8} {limit bound o : ℕ} (hlimit : limit ≤ bound)
    (hbound : bound ≤ data.length) (hfits : data.length < 2^63) (ho : o+16 ≤ limit) :
    readMessage data limit o=messageAt data bound o ↔
      (2^63 ≤ cmsgLenAt data o → bound=o+16) ∧
        (o+cmsgLenAt data o ≤ limit ∨ bound=limit) := by
  have hfields : readMessage data limit o=messageAt data bound o ↔
      (readMessage data limit o).payload=(messageAt data bound o).payload := by
    constructor
    · exact fun h => congrArg ControlMessage.payload h
    · intro h
      unfold readMessage at h ⊢
      dsimp only at h
      rw [h]
      rfl
  have hread : (readMessage data limit o).payload=(data.drop (o+16)).take
      (if cmsgLenAt data o < 2^63 then min (cmsgLenAt data o-16) (limit-(o+16)) else 0) := by
    unfold readMessage
    dsimp only
    rw [payload_messageAt]
    split_ifs
    · rfl
    · rw [List.take_zero]
  rw [hfields,hread,payload_messageAt,List.take_eq_take_iff,List.length_drop]
  split_ifs with hlower
  · omega
  · omega

/-- The chain of headers stays inside the bytes and the control length. -/
theorem bounds_of_mem {data : List UInt8} {n o h : ℕ} (hmem : h∈headersFrom data n o) :
    h+16 ≤ data.length ∧ h+16 ≤ n := by
  induction hmeasure : data.length-o using Nat.strongRecOn generalizing o with
  | ind m ih =>
    rw [headersFrom] at hmem
    split_ifs at hmem with hfit hlow
    · rcases List.mem_cons.mp hmem with hself | hrest
      · rw [hself]
        exact hfit
      · refine ih _ ?_ hrest rfl
        unfold nextHeader
        omega
    · rw [List.mem_singleton.mp hmem]
      exact hfit
    · exact absurd hmem List.not_mem_nil

/-- A buffer is shown with payloads cut at a bound exactly if no message overruns, and reading
each of its messages agrees with that cut. -/
theorem shows_messages_iff (ctx : MessageContext) (controlPtr controlLen : UInt64)
    (captured : CapturedBytes) {bound : ℕ}
    (hlimit : controlLimit captured.data controlLen ≤ bound)
    (hbound : bound ≤ captured.data.length) :
    Shows ctx controlPtr controlLen captured.data
        ((headersFrom captured.data controlLen.toNat 0).map (messageAt captured.data bound)) ↔
      ∀ o∈headersFrom captured.data controlLen.toNat 0,
        ¬Overruns captured.data controlLen o ∧
        (2^63 ≤ cmsgLenAt captured.data o → bound=o+16) ∧
        (o+cmsgLenAt captured.data o ≤ controlLimit captured.data controlLen ∨
          bound=controlLimit captured.data controlLen) := by
  have hfollows : Follows captured.data controlLen 0 :=
    walk_follows captured.fits (by omega)
  have hsame : ∀ o∈headersFrom captured.data controlLen.toNat 0,
      (readMessage captured.data (controlLimit captured.data controlLen) o=
        messageAt captured.data bound o ↔ _) := fun o ho => by
    have hbounds := bounds_of_mem ho
    have heq := controlLimit_eq captured.data controlLen
    exact readMessage_eq_iff hlimit hbound captured.fits (by omega)
  rw [shows_iff]
  constructor
  · rintro ⟨report,hwalk,hitems⟩
    have hsound : ∀ o∈headersFrom captured.data controlLen.toNat 0,
        ¬Overruns captured.data controlLen o := by
      intro o ho hover
      have hnone := hfollows.panics ⟨o,ho,hover⟩
      exact absurd (hwalk.symm.trans hnone) (Option.some_ne_none _)
    rcases hfollows.lists hsound with ⟨listed,hlisted,hread⟩
    rw [Option.some_inj.mp (hwalk.symm.trans hlisted),hread] at hitems
    exact fun o ho => ⟨hsound o ho,(hsame o ho).mp (List.map_inj_left.mp hitems o ho)⟩
  · intro h
    rcases hfollows.lists fun o ho => (h o ho).1 with ⟨report,hwalk,hread⟩
    refine ⟨report,hwalk,hread.trans ?_⟩
    exact List.map_inj_left.mpr fun o ho => (hsame o ho).mpr (h o ho).2

/-- The formatter lists the chain of headers with payloads cut at the end of the captured control
bytes exactly if no message overruns, and none with captured payload bytes has a length of the
upper half of the unsigned range; cut at the end of the whole buffer, exactly if in addition no
payload reaches past a control length that ends inside the buffer. -/
theorem control_messages_listed_iff (ctx : MessageContext) (controlPtr controlLen : UInt64)
    (captured : CapturedBytes) :
    (Shows ctx controlPtr controlLen captured.data
        ((headersFrom captured.data controlLen.toNat 0).map
          (messageAt captured.data (min captured.data.length controlLen.toNat))) ↔
      ∀ o∈headersFrom captured.data controlLen.toNat 0,
        ¬Overruns captured.data controlLen o ∧
        (2^63 ≤ cmsgLenAt captured.data o →
          min captured.data.length controlLen.toNat=o+16)) ∧
    (Shows ctx controlPtr controlLen captured.data
        ((headersFrom captured.data controlLen.toNat 0).map
          (messageAt captured.data captured.data.length)) ↔
      ∀ o∈headersFrom captured.data controlLen.toNat 0,
        ¬Overruns captured.data controlLen o ∧
        (2^63 ≤ cmsgLenAt captured.data o → captured.data.length=o+16) ∧
        (o+cmsgLenAt captured.data o ≤ controlLen.toNat ∨
          captured.data.length ≤ controlLen.toNat)) := by
  have heq := controlLimit_eq captured.data controlLen
  constructor
  · rw [shows_messages_iff ctx controlPtr controlLen captured (by omega) (by omega)]
    refine forall₂_congr fun o ho => and_congr_right fun _ => ?_
    rw [heq]
    exact and_iff_left (Or.inr rfl)
  · rw [shows_messages_iff ctx controlPtr controlLen captured (by omega) (Nat.le_refl _)]
    refine forall₂_congr fun o ho => and_congr_right fun _ => and_congr_right fun hupper => ?_
    have hbounds := bounds_of_mem ho
    have hfits := captured.fits
    rw [heq]
    by_cases hlen : 2^63 ≤ cmsgLenAt captured.data o
    · have hend := hupper hlen
      omega
    · omega

/-- A header whose aligned length is sixteen short of the signed range. -/
def overrunBuffer : List UInt8 :=
  [0xF0,0xFF,0xFF,0xFF,0xFF,0xFF,0xFF,0x7F,1,0,0,0,1,0,0,0]

/-- With a control length beyond that header the loop slices outside the buffer. -/
theorem overrun_panics :
    formatControlMessages ⟨none,0,fun _ => none,fun _ => ""⟩ 0x5000 0x8000000000000000
        overrunBuffer=none ∧
      ¬Shows ⟨none,0,fun _ => none,fun _ => ""⟩ 0x5000 0x8000000000000000 overrunBuffer
        ((headersFrom overrunBuffer 0x8000000000000000 0).map (messageAt overrunBuffer 16)) := by
  have hlen : cmsgLenAt overrunBuffer 0=2^63-16 := by decide
  have hover : Overruns overrunBuffer 0x8000000000000000 0 := by
    unfold Overruns nextHeader
    rw [hlen]
    decide
  have hmem : 0∈headersFrom overrunBuffer (0x8000000000000000 : UInt64).toNat 0 := by
    rw [headersFrom_cons (by decide) (by decide) (by rw [hlen]; decide)]
    exact List.mem_cons_self
  have hpanics : controlMessages overrunBuffer 0x8000000000000000=none :=
    (walk_follows (by decide) (by decide)).panics ⟨0,hmem,hover⟩
  constructor
  · unfold formatControlMessages
    rw [hpanics]
    rfl
  · rw [shows_iff,hpanics]
    rintro ⟨report,hwalk,-⟩
    exact absurd hwalk.symm (Option.some_ne_none _)

end Faithfulness

end StraceGo.ControlMessages

import StraceGo.BpfRuntime
import StraceGo.EventPayloadTLV
import StraceGo.RecordBuffers

/-!
# Captures of user memory

A capture program copies memory of the traced process into the payload of a
record: paths, written and read bytes, the entries of an I/O vector and the first
bytes behind each of them. Whatever can be read of the memory and whatever the
record held before, the program stays in its part of the record and leaves there
exactly the sections that say what it read.
-/

namespace StraceGo.BpfCaptures

open BpfRuntime ByteLayout EventEnvelope EventPayloadTLV RecordBuffers

section SyscallNumbers

/-- Number of `open`, a placeholder where the architecture has none. -/
def sysOpen : Arch → UInt32
  | .amd64 => 2
  | .arm64 => 4294901791

/-- Number of `creat`, a placeholder where the architecture has none. -/
def sysCreat : Arch → UInt32
  | .amd64 => 85
  | .arm64 => 4294901767

/-- Number of `openat`. -/
def sysOpenat : Arch → UInt32
  | .amd64 => 257
  | .arm64 => 56

/-- Numbers of `write` and `pwrite64`. -/
def isWritePayloadDirectSyscall (arch : Arch) (sysID : UInt32) : Bool :=
  match arch with
  | .amd64 => sysID==1 || sysID==18
  | .arm64 => sysID==64 || sysID==68

/-- Numbers of `process_vm_readv` and `process_vm_writev`. -/
def isProcessVMIovecDirectSyscall (arch : Arch) (sysID : UInt32) : Bool :=
  match arch with
  | .amd64 => sysID==310 || sysID==311
  | .arm64 => sysID==270 || sysID==271

end SyscallNumbers

section Memory

/-- Memory of the traced process as a program can read it. -/
structure UserMemory where
  /-- Read a number of bytes at an address. -/
  read : UInt64 → ℕ → Except Int32 (List UInt8)
  /-- A read that succeeds has all bytes. -/
  read_length : ∀ addr size data, read addr size=.ok data → data.length=size
  /-- Errors are negative. -/
  read_error : ∀ addr size err, read addr size=.error err → err < 0
  /-- Read a string with its end, at most a number of bytes. -/
  readStr : UInt64 → ℕ → Except Int32 (List UInt8)
  /-- A string that is read fits. -/
  readStr_length : ∀ addr size data, readStr addr size=.ok data → data.length ≤ size
  /-- Errors are negative. -/
  readStr_error : ∀ addr size err, readStr addr size=.error err → err < 0

/-- A record that is being filled. -/
structure Capture where
  /-- The reserved bytes. -/
  record : List UInt8
  /-- Flags of the event. -/
  flags : UInt16
  /-- Failed writes. -/
  copyFails : ℕ := 0
  /-- Payloads that were cut. -/
  truncations : ℕ := 0

/-- Flag of an event whose payload was cut. -/
def eventFlagTruncated : UInt16 := 4

/-- Count a failed write. -/
def recordRingbufCopyFail (c : Capture) : Capture := {c with copyFails := c.copyFails+1}

/-- Mark an event whose payload is cut. -/
def markTruncated (c : Capture) : Capture :=
  {c with flags := c.flags ||| eventFlagTruncated, truncations := c.truncations+1}

/-- Write bytes into the record. -/
def dynptrWrite (offset : ℕ) (piece : List UInt8) (c : Capture) : Except Int32 Capture :=
  match write c.record offset piece with
  | some record => .ok {c with record := record}
  | none => .error (-7)

/-- Whether a part of the record can be written directly. -/
def dynptrData (offset size : ℕ) (c : Capture) : Bool := decide (offset+size ≤ c.record.length)

/-- Read memory into a part of the record, which a failed read clears. -/
def probeReadUser (mem : UserMemory) (offset size : ℕ) (addr : UInt64) (c : Capture) :
    Capture×Except Int32 (List UInt8) :=
  match mem.read addr size with
  | .ok data => ({c with record := overwrite c.record offset data},.ok data)
  | .error err =>
    ({c with record := overwrite c.record offset (List.replicate size 0)},.error err)

/-- Read a string into a part of the record, which a failed read clears. -/
def probeReadUserStr (mem : UserMemory) (offset size : ℕ) (addr : UInt64) (c : Capture) :
    Capture×Except Int32 (List UInt8) :=
  match mem.readStr addr size with
  | .ok data => ({c with record := overwrite c.record offset data},.ok data)
  | .error err =>
    ({c with record := overwrite c.record offset (List.replicate size 0)},.error err)

end Memory

section Sections

/-- Header of a section as it lies in the record. -/
def payloadTLVHeader (kind argIndex flags : UInt16) (userLen copiedLen : ℕ) (probeRet : Int32)
    (userPtr : UInt64) : List UInt8 :=
  [bytes 2 kind.toNat,bytes 2 argIndex.toNat,bytes 2 flags.toNat,bytes 2 0,bytes 4 userLen,
    bytes 4 copiedLen,bytes 4 probeRet.toUInt32.toNat,bytes 4 0,bytes 8 userPtr.toNat].flatten

/-- Mark a cut payload and write the header in front of it; the size of the section. -/
def finishSection (offset : ℕ) (kind argIndex flags : UInt16) (userLen copiedLen : ℕ)
    (cut : Bool) (probeRet : Int32) (userPtr : UInt64) (c : Capture) : Capture×ℕ :=
  let c := if cut then markTruncated c else c
  match dynptrWrite offset
      (payloadTLVHeader kind argIndex flags userLen copiedLen probeRet userPtr) c with
  | .error _ => (recordRingbufCopyFail c,0)
  | .ok c => (c,payloadTLVHeaderSize+copiedLen)

/-- Whether a payload without an error has bytes, but not all. -/
def isCut (probeRet : Int32) (copiedLen wanted : ℕ) : Bool :=
  probeRet==0 && decide (0 < copiedLen) && decide (copiedLen < wanted)

/-- A length in 32 bits, the largest for what does not fit. -/
def payloadTLVClampU32 (value : UInt64) : ℕ := min value.toNat 0xffffffff

/-- How much of a payload is copied. -/
def payloadTLVCopyLen (value : UInt64) (max : ℕ) : ℕ := min value.toNat max

/-- Room for copied bytes. -/
def payloadTLVDataBucket (copiedLen : ℕ) : ℕ :=
  if copiedLen=0 then 0
  else if copiedLen ≤ 64 then 64
  else if copiedLen ≤ 128 then 128
  else if copiedLen ≤ 256 then 256
  else 512

/-- Whether there is room for copied bytes at a place. -/
def payloadTLVDataDirect (offset copiedLen : ℕ) (c : Capture) : Bool :=
  decide (copiedLen≠0) && dynptrData offset (payloadTLVDataBucket copiedLen) c

end Sections

section Programs

variable (mem : UserMemory)

/-- Longest path of an open. -/
def payloadTLVOpenatMax : ℕ := 512

/-- Most bytes of a read or a write. -/
def payloadTLVBytesMax : ℕ := 512

/-- Read the path of an open into the room behind a header; how much, and the error. -/
def copyPath (dataOffset : ℕ) (userPtr : UInt64) (c : Capture) : Capture×ℕ×Int32 :=
  if userPtr=0 then (c,0,-1)
  else if !dynptrData dataOffset payloadTLVOpenatMax c then (recordRingbufCopyFail c,0,-1)
  else
    match probeReadUserStr mem dataOffset payloadTLVOpenatMax userPtr c with
    | (c,.error err) => (c,0,err)
    | (c,.ok data) => (c,min data.length payloadTLVOpenatMax,0)

/-- Capture the path of an open. -/
def captureOpenatPathTLVDirect (offset : ℕ) (argIndex : UInt16) (userPtr : UInt64) (c : Capture) :
    Capture×ℕ :=
  let (c,copiedLen,probeRet) := copyPath mem (offset+payloadTLVHeaderSize) userPtr c
  finishSection offset (payloadTLVKind .string) argIndex 0 copiedLen copiedLen false probeRet
    userPtr c

/-- Read bytes into a part of the record; how many, and the error. -/
def readInto (dataOffset copiedLen : ℕ) (userPtr : UInt64) (c : Capture) : Capture×ℕ×Int32 :=
  match probeReadUser mem dataOffset copiedLen userPtr c with
  | (c,.error err) => (c,0,err)
  | (c,.ok _) => (c,copiedLen,0)

/-- Read bytes into the room behind a header; how many, and the error. -/
def copyBytes (dataOffset copiedLen : ℕ) (userPtr : UInt64) (c : Capture) : Capture×ℕ×Int32 :=
  if userPtr=0 then (c,0,-1)
  else if !payloadTLVDataDirect dataOffset copiedLen c then (recordRingbufCopyFail c,0,-1)
  else readInto mem dataOffset copiedLen userPtr c

/-- Capture the bytes of a write. -/
def captureWriteBytesTLVDirect (offset : ℕ) (args : SyscallArgs) (c : Capture) : Capture×ℕ :=
  let userPtr := args[1]
  let userLen := payloadTLVClampU32 args[2]
  let copiedLen := payloadTLVCopyLen args[2] payloadTLVBytesMax
  let (c,copiedLen,probeRet) :=
    if copiedLen > 0 then copyBytes mem (offset+payloadTLVHeaderSize) copiedLen userPtr c
    else (c,copiedLen,0)
  finishSection offset (payloadTLVKind .bytes) 1 0 userLen copiedLen
    (isCut probeRet copiedLen userLen) probeRet userPtr c

/-- Capture the bytes of a read. -/
def captureReadBytesTLVDirect (offset : ℕ) (args : SyscallArgs) (ret : Int64) (c : Capture) :
    Capture×ℕ :=
  if ret ≤ 0 then (c,0)
  else
    let userPtr := args[1]
    let userLen := payloadTLVClampU32 ret.toUInt64
    let copiedLen := payloadTLVCopyLen ret.toUInt64 payloadTLVBytesMax
    let (c,copiedLen,probeRet) :=
      copyBytes mem (offset+payloadTLVHeaderSize) copiedLen userPtr c
    finishSection offset (payloadTLVKind .bytes) 1 payloadTLVFlagDirectionOut userLen copiedLen
      (isCut probeRet copiedLen userLen) probeRet userPtr c

/-- Bytes of an entry of an I/O vector. -/
def iovecDirectElemSize : ℕ := 16

/-- Most entries that are captured. -/
def iovecDirectSlotMax : ℕ := 16

/-- Length of an I/O vector in bytes, the largest for what does not fit. -/
def iovecDirectUserLen (count : UInt64) : ℕ :=
  if count.toNat > 0xfffffff then 0xffffffff else count.toNat*iovecDirectElemSize

/-- Bytes of the entries that are captured. -/
def iovecDirectCopyLen (count : UInt64) : ℕ :=
  if count.toNat > iovecDirectSlotMax then 256 else count.toNat*iovecDirectElemSize

/-- Copy entries one by one up to the first that cannot be read; the number of copied bytes, and
the error when there are none. -/
def copyEntries (userPtr : UInt64) (dataOffset targetLen : ℕ) :
    ℕ → ℕ → ℕ → Capture → Capture×ℕ×Int32
  | 0,_,copiedLen,c => (c,copiedLen,0)
  | rounds+1,i,copiedLen,c =>
    let slotOffset := i*iovecDirectElemSize
    if slotOffset ≥ targetLen then (c,copiedLen,0)
    else
      match mem.read (userPtr+UInt64.ofNat slotOffset) iovecDirectElemSize with
      | .error err => (c,copiedLen,if copiedLen=0 then err else 0)
      | .ok data =>
        match dynptrWrite (dataOffset+copiedLen) data c with
        | .error err => (recordRingbufCopyFail c,copiedLen,if copiedLen=0 then err else 0)
        | .ok c =>
          copyEntries userPtr dataOffset targetLen rounds (i+1) (copiedLen+iovecDirectElemSize) c

/-- Capture the entries of an I/O vector. -/
def captureIovecTLVDirect (offset : ℕ) (argIndex : UInt16) (userPtr count : UInt64)
    (c : Capture) : Capture×ℕ :=
  let userLen := iovecDirectUserLen count
  if userLen=0 || userPtr==0 then (c,0)
  else
    let (c,copiedLen,probeRet) := copyEntries mem userPtr (offset+payloadTLVHeaderSize)
      (iovecDirectCopyLen count) iovecDirectSlotMax 0 0 c
    finishSection offset (payloadTLVKind .iovec) argIndex 0 userLen copiedLen
      (isCut probeRet copiedLen userLen) probeRet userPtr c

/-- How the bytes behind the entries are captured. -/
structure BasePayloads where
  /-- Most entries. -/
  slotMax : ℕ
  /-- Most bytes of an entry. -/
  bytesMax : ℕ
  /-- Edge of the sections. -/
  direction : PayloadDirection
  /-- Whether the bytes are read into the record at once. -/
  direct : Bool

/-- Captured at the enter. -/
def iovecBasePayloads : BasePayloads := ⟨7,7,.input,false⟩

/-- Captured at the exit. -/
def iovecBaseExitPayloads : BasePayloads := ⟨5,8,.output,true⟩

/-- Section index of the bytes behind an entry. -/
def iovecBasePayloadArgIndex (iovecArgIndex : UInt16) (slot : ℕ) : UInt16 :=
  let first : UInt16 :=
    if iovecArgIndex=3 then 140
    else if iovecArgIndex=151 then 160
    else if iovecArgIndex=181 then 180
    else if iovecArgIndex=211 then 200
    else 120
  first+UInt16.ofNat slot

/-- Read bytes and write them into the record; how many, and the error. -/
def copyThrough (dataOffset copiedLen : ℕ) (userPtr : UInt64) (c : Capture) : Capture×ℕ×Int32 :=
  match mem.read userPtr copiedLen with
  | .error err => (c,0,err)
  | .ok data =>
    match dynptrWrite dataOffset data c with
    | .error err => (recordRingbufCopyFail c,0,err)
    | .ok c => (c,copiedLen,0)

/-- Read bytes into a part of the record of a fixed size; how many, and the error. -/
def copyInto (dataOffset room copiedLen : ℕ) (userPtr : UInt64) (c : Capture) :
    Capture×ℕ×Int32 :=
  if !dynptrData dataOffset room c then (recordRingbufCopyFail c,0,-1)
  else readInto mem dataOffset copiedLen userPtr c

variable (kind : BasePayloads)

/-- Capture the first bytes behind an entry. -/
def captureIovecBaseTLVDirect (offset : ℕ) (argIndex : UInt16) (userPtr userLen : UInt64)
    (c : Capture) : Capture×ℕ :=
  if userPtr=0 || userLen==0 then (c,0)
  else
    let copiedLen := min userLen.toNat kind.bytesMax
    let (c,copiedLen,probeRet) :=
      if kind.direct then
        copyInto mem (offset+payloadTLVHeaderSize) kind.bytesMax copiedLen userPtr c
      else copyThrough mem (offset+payloadTLVHeaderSize) copiedLen userPtr c
    finishSection offset (payloadTLVKind .bytes) argIndex (payloadTLVFlags kind.direction)
      (userLen.toNat%2^32) copiedLen (isCut probeRet copiedLen userLen.toNat) probeRet userPtr c

/-- The address and the length in an entry. -/
def readEntry (slot : UInt64) : Option (UInt64×UInt64) :=
  match mem.read slot 8 with
  | .error _ => none
  | .ok base =>
    match mem.read (slot+8) 8 with
    | .error _ => none
    | .ok len => some (UInt64.ofNat (value base),UInt64.ofNat (value len))

/-- Capture the bytes behind the entries up to the first that cannot be read. -/
def captureSlots (iovecArgIndex : UInt16) (iovecPtr count : UInt64) (offset : ℕ) :
    ℕ → ℕ → ℕ → Capture → Capture×ℕ
  | 0,_,payloadSize,c => (c,payloadSize)
  | rounds+1,i,payloadSize,c =>
    if i ≥ count.toNat then (c,payloadSize)
    else
      match readEntry mem (iovecPtr+UInt64.ofNat (i*iovecDirectElemSize)) with
      | none => (c,payloadSize)
      | some (base,len) =>
        let (c,size) := captureIovecBaseTLVDirect mem kind (offset+payloadSize)
          (iovecBasePayloadArgIndex iovecArgIndex i) base len c
        captureSlots iovecArgIndex iovecPtr count offset rounds (i+1) (payloadSize+size) c

/-- Capture the bytes behind the entries of an I/O vector. -/
def captureIovecBasePayloadsTLVDirectForArg (offset : ℕ) (iovecArgIndex : UInt16)
    (iovecPtr count : UInt64) (c : Capture) : Capture×ℕ :=
  if iovecPtr=0 || count==0 then (c,0)
  else captureSlots mem kind iovecArgIndex iovecPtr count offset kind.slotMax 0 0 c

/-- Capture the vectors of a vectored call, of which some calls have two. -/
def captureIovecPayloadsTLVDirect (arch : Arch) (offset : ℕ) (sysID : UInt32)
    (args : SyscallArgs) (c : Capture) : Capture×ℕ :=
  let (c,payloadSize) := captureIovecTLVDirect mem offset 1 args[1] args[2] c
  if isProcessVMIovecDirectSyscall arch sysID then
    let (c,size) := captureIovecTLVDirect mem (offset+payloadSize) 3 args[3] args[4] c
    (c,payloadSize+size)
  else (c,payloadSize)

/-- Capture the path or the bytes of a call. -/
def capturePayloadTLVDirect (arch : Arch) (offset : ℕ) (sysID : UInt32) (args : SyscallArgs)
    (c : Capture) : Capture×ℕ :=
  if sysID=sysOpen arch || sysID==sysCreat arch then
    captureOpenatPathTLVDirect mem offset 0 args[0] c
  else if sysID=sysOpenat arch then captureOpenatPathTLVDirect mem offset 1 args[1] c
  else if isWritePayloadDirectSyscall arch sysID then captureWriteBytesTLVDirect mem offset args c
  else (c,0)

end Programs

section Expected

variable (mem : UserMemory)

/-- Section of bytes that were read. -/
def sectionOf (kind : PayloadKind) (direction : PayloadDirection) (argIndex : UInt16)
    (userPtr : UInt64) (userLen : ℕ) (read : List UInt8×Int32) : PayloadSection where
  kind := kind
  direction := direction
  argIndex := argIndex.toNat
  userPtr := userPtr
  userLen := UInt32.ofNat userLen
  copiedLen := UInt32.ofNat read.1.length
  probeRet := read.2
  data := read.1

theorem argIndex_sectionOf (kind : PayloadKind) (direction : PayloadDirection)
    (argIndex : UInt16) (userPtr : UInt64) (userLen : ℕ) (read : List UInt8×Int32) :
    0 ≤ (sectionOf kind direction argIndex userPtr userLen read).argIndex ∧
      (sectionOf kind direction argIndex userPtr userLen read).argIndex < 2^16 := by
  have hword := UInt16.toNat_lt argIndex
  rw [sectionOf]
  dsimp only
  omega

theorem measured_sectionOf (kind : PayloadKind) (direction : PayloadDirection)
    (argIndex : UInt16) (userPtr : UInt64) (userLen : ℕ) (read : List UInt8×Int32) :
    measured (sectionOf kind direction argIndex userPtr userLen read)=
      sectionOf kind direction argIndex userPtr userLen read := rfl

/-- A captured section and whether it was cut. -/
structure Captured where
  /-- The section. -/
  payload : PayloadSection
  /-- Whether bytes are missing without an error. -/
  cut : Bool
  /-- Its index fits the header. -/
  argIndex : 0 ≤ payload.argIndex ∧ payload.argIndex < 2^16
  /-- Its copied length is the length of its bytes. -/
  measured : measured payload=payload

/-- Section of captured bytes, of which a number was wanted. -/
def capturedOf (kind : PayloadKind) (direction : PayloadDirection) (argIndex : UInt16)
    (userPtr : UInt64) (userLen wanted : ℕ) (read : List UInt8×Int32) : Captured where
  payload := sectionOf kind direction argIndex userPtr userLen read
  cut := isCut read.2 read.1.length wanted
  argIndex := argIndex_sectionOf kind direction argIndex userPtr userLen read
  measured := measured_sectionOf kind direction argIndex userPtr userLen read

/-- What a read gives: the bytes, or none and the error. -/
def readResult (result : Except Int32 (List UInt8)) : List UInt8×Int32 :=
  match result with
  | .error err => ([],err)
  | .ok data => (data,0)

/-- What is read at an address unless it is null. -/
def readUnlessNull (userPtr : UInt64) (result : Except Int32 (List UInt8)) : List UInt8×Int32 :=
  if userPtr=0 then ([],-1) else readResult result

/-- The path of an open. -/
def capturedOpenatPath (argIndex : UInt16) (userPtr : UInt64) : Captured :=
  let read := readUnlessNull userPtr (mem.readStr userPtr payloadTLVOpenatMax)
  capturedOf .string .input argIndex userPtr read.1.length read.1.length read

/-- The bytes of a write. -/
def capturedWriteBytes (args : SyscallArgs) : Captured :=
  let copiedLen := payloadTLVCopyLen args[2] payloadTLVBytesMax
  let userLen := payloadTLVClampU32 args[2]
  capturedOf .bytes .input 1 args[1] userLen userLen
    (if copiedLen > 0 then readUnlessNull args[1] (mem.read args[1] copiedLen) else ([],0))

/-- The bytes of a read. -/
def capturedReadBytes (args : SyscallArgs) (ret : Int64) : List Captured :=
  if ret ≤ 0 then []
  else
    let copiedLen := payloadTLVCopyLen ret.toUInt64 payloadTLVBytesMax
    let userLen := payloadTLVClampU32 ret.toUInt64
    [capturedOf .bytes .output 1 args[1] userLen userLen
      (readUnlessNull args[1] (mem.read args[1] copiedLen))]

/-- Entries that can be read, up to the first that cannot, and its error. -/
def entriesRead (userPtr : UInt64) (targetLen : ℕ) : ℕ → ℕ → List UInt8×Option Int32
  | 0,_ => ([],none)
  | rounds+1,i =>
    if i*iovecDirectElemSize ≥ targetLen then ([],none)
    else
      match mem.read (userPtr+UInt64.ofNat (i*iovecDirectElemSize)) iovecDirectElemSize with
      | .error err => ([],some err)
      | .ok data =>
        let (rest,err) := entriesRead userPtr targetLen rounds (i+1)
        (data ++ rest,err)

/-- The entries of an I/O vector. -/
def capturedIovec (argIndex : UInt16) (userPtr count : UInt64) : List Captured :=
  let userLen := iovecDirectUserLen count
  if userLen=0 || userPtr==0 then []
  else
    let (data,err) := entriesRead mem userPtr (iovecDirectCopyLen count) iovecDirectSlotMax 0
    [capturedOf .iovec .input argIndex userPtr userLen userLen
      (data,if data=[] then err.getD 0 else 0)]

variable (kind : BasePayloads)

/-- The first bytes behind an entry. -/
def capturedIovecBase (argIndex : UInt16) (userPtr userLen : UInt64) : List Captured :=
  if userPtr=0 || userLen==0 then []
  else
    [capturedOf .bytes kind.direction argIndex userPtr (userLen.toNat%2^32) userLen.toNat
      (readResult (mem.read userPtr (min userLen.toNat kind.bytesMax)))]

/-- The first bytes behind the entries, up to the first entry that cannot be read. -/
def capturedSlots (iovecArgIndex : UInt16) (iovecPtr count : UInt64) : ℕ → ℕ → List Captured
  | 0,_ => []
  | rounds+1,i =>
    if i ≥ count.toNat then []
    else
      match readEntry mem (iovecPtr+UInt64.ofNat (i*iovecDirectElemSize)) with
      | none => []
      | some (base,len) =>
        capturedIovecBase mem kind (iovecBasePayloadArgIndex iovecArgIndex i) base len ++
          capturedSlots iovecArgIndex iovecPtr count rounds (i+1)

/-- The first bytes behind the entries of an I/O vector. -/
def capturedIovecBasePayloads (iovecArgIndex : UInt16) (iovecPtr count : UInt64) :
    List Captured :=
  if iovecPtr=0 || count==0 then []
  else capturedSlots mem kind iovecArgIndex iovecPtr count kind.slotMax 0

/-- The vectors of a vectored call. -/
def capturedIovecPayloads (arch : Arch) (sysID : UInt32) (args : SyscallArgs) : List Captured :=
  capturedIovec mem 1 args[1] args[2] ++
    if isProcessVMIovecDirectSyscall arch sysID then capturedIovec mem 3 args[3] args[4] else []

/-- The path or the bytes of a call. -/
def capturedPayload (arch : Arch) (sysID : UInt32) (args : SyscallArgs) : List Captured :=
  if sysID=sysOpen arch || sysID==sysCreat arch then [capturedOpenatPath mem 0 args[0]]
  else if sysID=sysOpenat arch then [capturedOpenatPath mem 1 args[1]]
  else if isWritePayloadDirectSyscall arch sysID then [capturedWriteBytes mem args]
  else []

end Expected

section Capturing

variable {before c : Capture} {out : Capture×ℕ} {offset capacity room : ℕ}

/-- Sections of captures. -/
def sections (captured : List Captured) : List PayloadSection := captured.map Captured.payload

/-- Flags that captures add to an event. -/
def cutFlags (captured : List Captured) : UInt16 :=
  if captured.any Captured.cut then eventFlagTruncated else 0

/-- A program leaves the sections of captures in its part of the record. -/
structure Captures (before : Capture) (out : Capture×ℕ) (offset capacity : ℕ)
    (captured : List Captured) : Prop where
  /-- The sections stand at the start of its part. -/
  placed : Placed before.record out.1.record offset capacity (encodePayload (sections captured))
  /-- Their size is returned. -/
  size : out.2=(encodePayload (sections captured)).length
  /-- Cut sections mark the event. -/
  flags : out.1.flags=before.flags ||| cutFlags captured
  /-- No write fails. -/
  copyFails : out.1.copyFails=before.copyFails
  /-- Cut sections are counted. -/
  truncations : out.1.truncations=before.truncations+captured.countP Captured.cut

theorem captures_nil (before : Capture) (offset capacity : ℕ) :
    Captures before (before,0) offset capacity [] :=
  ⟨placed_nil _ _ _,rfl,(UInt16.or_zero).symm,rfl,rfl⟩

theorem cutFlags_append (first second : List Captured) :
    cutFlags (first ++ second)=cutFlags first ||| cutFlags second := by
  rw [cutFlags,cutFlags,cutFlags,List.any_append]
  cases first.any Captured.cut <;> cases second.any Captured.cut <;> decide

theorem encodePayload_append (first second : List Captured) :
    encodePayload (sections (first ++ second))=
      encodePayload (sections first) ++ encodePayload (sections second) := by
  rw [encodePayload,sections,List.map_append,List.map_append,List.flatten_append]
  rfl

/-- A second program behind the first. -/
theorem Captures.append {out' : Capture×ℕ} {capacity' : ℕ} {first second : List Captured}
    (hfirst : Captures before out offset capacity first)
    (hsecond : Captures out.1 out' (offset+out.2) capacity' second) :
    Captures before (out'.1,out.2+out'.2) offset (capacity+capacity') (first ++ second) := by
  have hplaced := hsecond.placed
  rw [hfirst.size] at hplaced
  refine ⟨?_,?_,?_,hsecond.copyFails.trans hfirst.copyFails,?_⟩
  · rw [encodePayload_append]
    exact hfirst.placed.append hplaced
  · rw [encodePayload_append,List.length_append,←hfirst.size,←hsecond.size]
  · rw [hsecond.flags,hfirst.flags,cutFlags_append,UInt16.or_assoc]
  · rw [hsecond.truncations,hfirst.truncations,List.countP_append]
    omega

/-- What the first program leaves of the room is there for the second. -/
theorem Captures.remaining {capacity' : ℕ} {captured : List Captured}
    (h : Captures before out offset capacity captured)
    (hroom : offset+(capacity+capacity') ≤ before.record.length) :
    offset+out.2+capacity' ≤ out.1.record.length := by
  have hfits := h.placed.fits
  rw [←h.size] at hfits
  rw [h.placed.length]
  omega

/-- Bytes that a program copied behind the place of a header. -/
structure Copied (before : Capture) (out : Capture×ℕ×Int32) (dataOffset room : ℕ)
    (read : List UInt8×Int32) : Prop where
  /-- They stand there. -/
  placed : Placed before.record out.1.record dataOffset room read.1
  /-- Their number. -/
  length : out.2.1=read.1.length
  /-- The error. -/
  error : out.2.2=read.2
  /-- Nothing is marked yet. -/
  flags : out.1.flags=before.flags
  /-- No write fails. -/
  copyFails : out.1.copyFails=before.copyFails
  /-- Nothing is counted yet. -/
  truncations : out.1.truncations=before.truncations

theorem dynptrWrite_eq {piece : List UInt8} (h : offset+piece.length ≤ c.record.length) :
    dynptrWrite offset piece c=.ok {c with record := overwrite c.record offset piece} := by
  rw [dynptrWrite,write,if_pos h]

theorem dynptrData_eq (h : offset+room ≤ c.record.length) : dynptrData offset room c=true :=
  decide_eq_true h

/-- The header in the record is that of the section. -/
theorem payloadTLVHeader_eq (payload : PayloadSection) (argIndex flags : UInt16) (userLen : ℕ)
    (harg : payload.argIndex=argIndex.toNat) (hflags : payloadTLVFlags payload.direction=flags)
    (huser : payload.userLen=UInt32.ofNat userLen) (hlt : userLen < 2^32) :
    payloadTLVHeader (payloadTLVKind payload.kind) argIndex flags userLen payload.data.length
      payload.probeRet payload.userPtr=(encodeTLVHeader payload).flatten := by
  have hword : (UInt32.ofNat userLen).toNat=userLen := by
    rw [UInt32.toNat_ofNat',Nat.mod_eq_of_lt hlt]
  rw [payloadTLVHeader,encodeTLVHeader,harg,hflags,huser,hword]
  rfl

theorem length_payloadTLVHeader (kind argIndex flags : UInt16) (userLen copiedLen : ℕ)
    (probeRet : Int32) (userPtr : UInt64) :
    (payloadTLVHeader kind argIndex flags userLen copiedLen probeRet userPtr).length=
      payloadTLVHeaderSize := by
  simp [payloadTLVHeader,payloadTLVHeaderSize]

/-- The header in front of copied bytes makes them a section. -/
theorem finishSection_captures {out : Capture×ℕ×Int32} {read : List UInt8×Int32}
    (hcopied : Copied before out (offset+payloadTLVHeaderSize) room read)
    (hroom : offset+(payloadTLVHeaderSize+room) ≤ before.record.length)
    (kind : PayloadKind) (direction : PayloadDirection) (argIndex : UInt16) (userPtr : UInt64)
    {userLen : ℕ} (wanted : ℕ) (hlt : userLen < 2^32) :
    Captures before
      (finishSection offset (payloadTLVKind kind) argIndex (payloadTLVFlags direction) userLen
        out.2.1 (isCut out.2.2 out.2.1 wanted) out.2.2 userPtr out.1)
      offset (payloadTLVHeaderSize+room)
      [capturedOf kind direction argIndex userPtr userLen wanted read] := by
  rw [hcopied.length,hcopied.error]
  set captured := capturedOf kind direction argIndex userPtr userLen wanted read with hdef
  set header := payloadTLVHeader (payloadTLVKind kind) argIndex (payloadTLVFlags direction)
    userLen read.1.length read.2 userPtr with hheader
  have hencode : header=(encodeTLVHeader captured.payload).flatten :=
    payloadTLVHeader_eq captured.payload argIndex _ userLen rfl rfl rfl hlt
  have hsize : header.length=payloadTLVHeaderSize := length_payloadTLVHeader _ _ _ _ _ _ _
  have hcut : isCut read.2 read.1.length wanted=captured.cut := rfl
  set marked := if captured.cut then markTruncated out.1 else out.1 with hmarked
  have hrecord : marked.record=out.1.record := by
    rw [hmarked]
    split_ifs <;> rfl
  have hfits : offset+header.length ≤ marked.record.length := by
    rw [hrecord,hcopied.placed.length]
    omega
  have hwrite : dynptrWrite offset header marked=
      .ok {marked with record := overwrite marked.record offset header} := dynptrWrite_eq hfits
  have hsections : encodePayload (sections [captured])=header ++ read.1 := by
    rw [encodePayload,sections,List.map_singleton,List.map_singleton,List.flatten_singleton,
      encodeTLV,←hencode]
    rfl
  rw [finishSection,hcut,←hmarked,hwrite]
  refine ⟨?_,?_,?_,?_,?_⟩
  · have hfirst : Placed marked.record (overwrite marked.record offset header) offset
        header.length header := placed_overwrite hfits
    have hsecond := hcopied.placed
    rw [←hrecord,←hsize] at hsecond
    rw [hsections,←hsize]
    exact hsecond.prepend hfirst
  · rw [hsections,List.length_append,hsize]
  · change marked.flags=_
    rw [hmarked,cutFlags,List.any_cons,List.any_nil,Bool.or_false]
    cases captured.cut with
    | true =>
      change out.1.flags ||| eventFlagTruncated=_
      rw [hcopied.flags]
      rfl
    | false =>
      change out.1.flags=_
      rw [hcopied.flags]
      exact UInt16.or_zero.symm
  · change marked.copyFails=_
    rw [hmarked,←hcopied.copyFails]
    split_ifs <;> rfl
  · change marked.truncations=_
    rw [hmarked,List.countP_cons,List.countP_nil,Nat.zero_add,←hcopied.truncations]
    cases captured.cut <;> rfl

/-- Nothing is copied. -/
theorem copied_nothing (c : Capture) (dataOffset room : ℕ) (err : Int32) :
    Copied c (c,0,err) dataOffset room ([],err) :=
  ⟨placed_nil _ _ _,rfl,rfl,rfl,rfl,rfl⟩

/-- A piece is copied. -/
theorem copied_piece {piece : List UInt8} {size : ℕ} (hsize : size=piece.length)
    (hpiece : piece.length ≤ room) (hroom : offset+room ≤ c.record.length) :
    Copied c ({c with record := overwrite c.record offset piece},size,0) offset room (piece,0) :=
  ⟨(placed_overwrite (by omega)).mono hpiece,hsize,rfl,rfl,rfl,rfl⟩

/-- A part of the record is cleared. -/
theorem copied_cleared {size : ℕ} (hsize : size ≤ room) (hroom : offset+room ≤ c.record.length)
    (err : Int32) :
    Copied c ({c with record := overwrite c.record offset (List.replicate size 0)},0,err) offset
      room ([],err) := by
  have hlength : (List.replicate size (0 : UInt8)).length=size := List.length_replicate
  refine ⟨?_,rfl,rfl,rfl,rfl,rfl⟩
  exact ((placed_overwrite (by omega)).mono (by omega)).forget

variable (mem : UserMemory) {copiedLen : ℕ} (userPtr : UInt64)

theorem copyThrough_copied (hcopied : copiedLen ≤ room)
    (hroom : offset+room ≤ c.record.length) :
    Copied c (copyThrough mem offset copiedLen userPtr c) offset room
      (readResult (mem.read userPtr copiedLen)) := by
  rw [copyThrough]
  cases hread : mem.read userPtr copiedLen with
  | error err => exact copied_nothing c offset room err
  | ok data =>
    have hlength := mem.read_length _ _ _ hread
    dsimp only
    rw [dynptrWrite_eq (by omega)]
    exact copied_piece hlength.symm (by omega) hroom

theorem readInto_copied (hcopied : copiedLen ≤ room) (hroom : offset+room ≤ c.record.length) :
    Copied c (readInto mem offset copiedLen userPtr c) offset room
      (readResult (mem.read userPtr copiedLen)) := by
  rw [readInto,probeReadUser]
  cases hread : mem.read userPtr copiedLen with
  | error err => exact copied_cleared hcopied hroom err
  | ok data =>
    have hlength := mem.read_length _ _ _ hread
    exact copied_piece hlength.symm (by omega) hroom

theorem copyInto_copied (hcopied : copiedLen ≤ room) (hroom : offset+room ≤ c.record.length) :
    Copied c (copyInto mem offset room copiedLen userPtr c) offset room
      (readResult (mem.read userPtr copiedLen)) := by
  rw [copyInto,dynptrData_eq hroom]
  exact readInto_copied mem userPtr hcopied hroom

/-- The room for copied bytes holds them. -/
theorem le_payloadTLVDataBucket (h : copiedLen ≤ 512) :
    copiedLen ≤ payloadTLVDataBucket copiedLen := by
  rw [payloadTLVDataBucket]
  split_ifs <;> omega

theorem copyBytes_copied (hpos : copiedLen > 0) (hcopied : copiedLen ≤ 512)
    (hroom : offset+payloadTLVDataBucket copiedLen ≤ c.record.length) :
    Copied c (copyBytes mem offset copiedLen userPtr c) offset (payloadTLVDataBucket copiedLen)
      (readUnlessNull userPtr (mem.read userPtr copiedLen)) := by
  rw [copyBytes,readUnlessNull]
  split_ifs with hnull hdata
  · exact copied_nothing _ _ _ _
  · rw [payloadTLVDataDirect,dynptrData_eq hroom,decide_eq_true (by omega)] at hdata
    exact absurd hdata (by decide)
  · exact readInto_copied mem userPtr (le_payloadTLVDataBucket hcopied) hroom

/-- A length in 32 bits. -/
theorem payloadTLVClampU32_lt (len : UInt64) : payloadTLVClampU32 len < 2^32 := by
  rw [payloadTLVClampU32]
  omega

theorem copyPath_copied (hroom : offset+payloadTLVOpenatMax ≤ c.record.length) :
    Copied c (copyPath mem offset userPtr c) offset payloadTLVOpenatMax
      (readUnlessNull userPtr (mem.readStr userPtr payloadTLVOpenatMax)) := by
  rw [copyPath,readUnlessNull]
  split_ifs with hnull hdata
  · exact copied_nothing _ _ _ _
  · rw [dynptrData_eq hroom] at hdata
    exact absurd hdata (by decide)
  · rw [probeReadUserStr]
    cases hread : mem.readStr userPtr payloadTLVOpenatMax with
    | error err => exact copied_cleared le_rfl hroom err
    | ok data =>
      have hlength := mem.readStr_length _ _ _ hread
      exact copied_piece (Nat.min_eq_left hlength) hlength hroom

/-- A captured path; nothing tells that it was cut. -/
theorem captureOpenatPath_captures (argIndex : UInt16)
    (hroom : offset+(payloadTLVHeaderSize+payloadTLVOpenatMax) ≤ c.record.length) :
    Captures c (captureOpenatPathTLVDirect mem offset argIndex userPtr c) offset
      (payloadTLVHeaderSize+payloadTLVOpenatMax) [capturedOpenatPath mem argIndex userPtr] := by
  have hmax : payloadTLVOpenatMax=512 := rfl
  have hcopied : Copied c (copyPath mem (offset+payloadTLVHeaderSize) userPtr c)
      (offset+payloadTLVHeaderSize) payloadTLVOpenatMax
      (readUnlessNull userPtr (mem.readStr userPtr payloadTLVOpenatMax)) :=
    copyPath_copied mem userPtr (by omega)
  have hfits := hcopied.placed.fits
  rw [captureOpenatPathTLVDirect,capturedOpenatPath]
  set out := copyPath mem (offset+payloadTLVHeaderSize) userPtr c
  set read := readUnlessNull userPtr (mem.readStr userPtr payloadTLVOpenatMax)
  have hlt : read.1.length < 2^32 := by omega
  have h := finishSection_captures hcopied hroom .string .input argIndex userPtr read.1.length hlt
  have hcut : isCut out.2.2 out.2.1 read.1.length=false := by
    rw [isCut,hcopied.length,decide_eq_false (Nat.lt_irrefl _),Bool.and_false]
  rw [hcut] at h
  dsimp only
  rw [hcopied.length] at h ⊢
  exact h

/-- Captured bytes of a write. -/
theorem captureWriteBytes_captures (args : SyscallArgs) {capacity : ℕ}
    (hcapacity : capacity=payloadTLVHeaderSize+
      payloadTLVDataBucket (payloadTLVCopyLen args[2] payloadTLVBytesMax))
    (hroom : offset+capacity ≤ c.record.length) :
    Captures c (captureWriteBytesTLVDirect mem offset args c) offset capacity
      [capturedWriteBytes mem args] := by
  subst hcapacity
  have hmax : payloadTLVCopyLen args[2] payloadTLVBytesMax ≤ 512 := Nat.min_le_right _ _
  rw [captureWriteBytesTLVDirect,capturedWriteBytes]
  dsimp only
  split_ifs with hpos
  · exact finishSection_captures (copyBytes_copied mem args[1] hpos hmax (by omega)) hroom .bytes
      .input 1 args[1] _ (payloadTLVClampU32_lt _)
  · have hzero : payloadTLVCopyLen args[2] payloadTLVBytesMax=0 := by omega
    rw [hzero]
    rw [hzero] at hroom
    exact finishSection_captures (copied_nothing c _ _ _) hroom .bytes .input 1 args[1] _
      (payloadTLVClampU32_lt _)

/-- Captured bytes of a read. -/
theorem captureReadBytes_captures (args : SyscallArgs) (ret : Int64) {capacity : ℕ}
    (hcapacity : ¬ret ≤ 0 → capacity=payloadTLVHeaderSize+
      payloadTLVDataBucket (payloadTLVCopyLen ret.toUInt64 payloadTLVBytesMax))
    (hroom : offset+capacity ≤ c.record.length) :
    Captures c (captureReadBytesTLVDirect mem offset args ret c) offset capacity
      (capturedReadBytes mem args ret) := by
  have hmax : payloadTLVCopyLen ret.toUInt64 payloadTLVBytesMax ≤ 512 := Nat.min_le_right _ _
  rw [captureReadBytesTLVDirect,capturedReadBytes]
  split_ifs with hret
  · exact captures_nil _ _ _
  · have hpos : payloadTLVCopyLen ret.toUInt64 payloadTLVBytesMax > 0 := by
      rw [payloadTLVCopyLen]
      refine Nat.lt_min.mpr ⟨Nat.pos_of_ne_zero fun hzero => hret ?_,by decide⟩
      have hword : ret.toUInt64=(0 : Int64).toUInt64 := UInt64.toNat_inj.mp hzero
      have hint : ret=0 := congrArg UInt64.toInt64 hword
      rw [hint]
      decide
    obtain rfl := hcapacity hret
    exact finishSection_captures (copyBytes_copied mem args[1] hpos hmax (by omega)) hroom .bytes
      .output 1 args[1] _ (payloadTLVClampU32_lt _)

theorem Copied.mono {out : Capture×ℕ×Int32} {read : List UInt8×Int32} {room' : ℕ}
    (h : Copied before out offset room read) (hroom : room ≤ room') :
    Copied before out offset room' read :=
  ⟨h.placed.mono hroom,h.length,h.error,h.flags,h.copyFails,h.truncations⟩

/-- Entries that were read, and the error when there are none. -/
def entriesResult (front : List UInt8) (read : List UInt8×Option Int32) : List UInt8×Int32 :=
  (front ++ read.1,if front ++ read.1=[] then read.2.getD 0 else 0)

theorem entriesResult_nil (front : List UInt8) : entriesResult front ([],none)=(front,0) := by
  rw [entriesResult,List.append_nil,Option.getD_none,ite_self]

/-- The entries that are read fill the target at most. -/
theorem length_entriesRead_le (targetLen rounds i : ℕ) (hi : i*iovecDirectElemSize ≤ targetLen)
    (hwhole : targetLen%iovecDirectElemSize=0) :
    i*iovecDirectElemSize+(entriesRead mem userPtr targetLen rounds i).1.length ≤ targetLen := by
  have hsize : iovecDirectElemSize=16 := rfl
  induction rounds generalizing i with
  | zero => exact hi
  | succ rounds ih =>
    rw [entriesRead]
    by_cases hdone : i*iovecDirectElemSize ≥ targetLen
    · rw [if_pos hdone]
      exact hi
    · rw [if_neg hdone]
      cases hread : mem.read (userPtr+UInt64.ofNat (i*iovecDirectElemSize)) iovecDirectElemSize with
      | error err => exact hi
      | ok data =>
        have hdata := mem.read_length _ _ _ hread
        have hnext : (i+1)*iovecDirectElemSize=i*iovecDirectElemSize+iovecDirectElemSize := by
          rw [Nat.add_mul,Nat.one_mul]
        have hbound : (i+1)*iovecDirectElemSize ≤ targetLen := by
          rw [hsize] at hdone hwhole hnext ⊢
          omega
        have hrest := ih (i+1) hbound
        dsimp only
        rw [List.length_append]
        omega

/-- Entries are copied one behind the other. -/
theorem copyEntries_copied {targetLen : ℕ} (hwhole : targetLen%iovecDirectElemSize=0)
    (hroom : offset+targetLen ≤ before.record.length) (rounds i : ℕ) (front : List UInt8)
    (hfront : front.length=i*iovecDirectElemSize)
    (hc : Copied before (c,front.length,0) offset front.length (front,0)) :
    Copied before (copyEntries mem userPtr offset targetLen rounds i front.length c) offset
      (entriesResult front (entriesRead mem userPtr targetLen rounds i)).1.length
      (entriesResult front (entriesRead mem userPtr targetLen rounds i)) := by
  have hsize : iovecDirectElemSize=16 := rfl
  induction rounds generalizing i front c with
  | zero =>
    rw [copyEntries,entriesRead,entriesResult_nil]
    exact hc
  | succ rounds ih =>
    rw [copyEntries,entriesRead]
    dsimp only
    by_cases hdone : i*iovecDirectElemSize ≥ targetLen
    · rw [if_pos hdone,if_pos hdone,entriesResult_nil]
      exact hc
    · rw [if_neg hdone,if_neg hdone]
      cases hread : mem.read (userPtr+UInt64.ofNat (i*iovecDirectElemSize)) iovecDirectElemSize with
      | error err =>
        dsimp only
        rw [entriesResult,List.append_nil,Option.getD_some]
        refine ⟨hc.placed,rfl,?_,hc.flags,hc.copyFails,hc.truncations⟩
        exact if_congr List.length_eq_zero_iff rfl rfl
      | ok data =>
        have hdata := mem.read_length _ _ _ hread
        have hrecord : c.record.length=before.record.length := hc.placed.length
        have hfits : offset+front.length+data.length ≤ c.record.length := by
          rw [hsize] at hdone hwhole hfront hdata
          omega
        have hlength : (front ++ data).length=front.length+iovecDirectElemSize := by
          rw [List.length_append,hdata]
        have hnext : (front ++ data).length=(i+1)*iovecDirectElemSize := by
          rw [hlength,hfront,Nat.add_mul,Nat.one_mul]
        have hresult : entriesResult front
            (data ++ (entriesRead mem userPtr targetLen rounds (i+1)).1,
              (entriesRead mem userPtr targetLen rounds (i+1)).2)=
            entriesResult (front ++ data) (entriesRead mem userPtr targetLen rounds (i+1)) := by
          rw [entriesResult,entriesResult,List.append_assoc]
        dsimp only
        rw [dynptrWrite_eq hfits,hresult]
        dsimp only
        rw [←hlength]
        refine ih _ _ hnext ⟨?_,rfl,rfl,hc.flags,hc.copyFails,hc.truncations⟩
        rw [List.length_append]
        exact hc.placed.append (placed_overwrite hfits)

/-- The bytes of captured entries. -/
theorem iovecDirectCopyLen_le (count : UInt64) :
    iovecDirectCopyLen count ≤ 256 ∧ iovecDirectCopyLen count%iovecDirectElemSize=0 := by
  have hsize : iovecDirectElemSize=16 := rfl
  have hmax : iovecDirectSlotMax=16 := rfl
  rw [iovecDirectCopyLen,hsize]
  split_ifs <;> omega

theorem iovecDirectUserLen_lt (count : UInt64) : iovecDirectUserLen count < 2^32 := by
  have hsize : iovecDirectElemSize=16 := rfl
  rw [iovecDirectUserLen,hsize]
  split_ifs <;> omega

/-- Captured entries of an I/O vector. -/
theorem captureIovec_captures (argIndex : UInt16) (count : UInt64)
    (hroom : offset+(payloadTLVHeaderSize+256) ≤ c.record.length) :
    Captures c (captureIovecTLVDirect mem offset argIndex userPtr count c) offset
      (payloadTLVHeaderSize+256) (capturedIovec mem argIndex userPtr count) := by
  obtain ⟨htarget,hwhole⟩ := iovecDirectCopyLen_le count
  have hentries : offset+payloadTLVHeaderSize+iovecDirectCopyLen count ≤ c.record.length := by
    rw [Nat.add_assoc]
    exact (Nat.add_le_add_left (Nat.add_le_add_left htarget _) _).trans hroom
  rw [captureIovecTLVDirect,capturedIovec]
  dsimp only
  by_cases hnone : (decide (iovecDirectUserLen count=0) || userPtr==0)=true
  · rw [if_pos hnone,if_pos hnone]
    exact captures_nil _ _ _
  · rw [if_neg hnone,if_neg hnone]
    set read := entriesRead mem userPtr (iovecDirectCopyLen count) iovecDirectSlotMax 0
    have hall : Copied c (copyEntries mem userPtr (offset+payloadTLVHeaderSize)
        (iovecDirectCopyLen count) iovecDirectSlotMax 0 0 c) (offset+payloadTLVHeaderSize)
        (entriesResult [] read).1.length (entriesResult [] read) :=
      copyEntries_copied mem userPtr hwhole hentries _ 0 [] (Nat.zero_mul _).symm
        (copied_nothing c _ 0 0)
    have hle := length_entriesRead_le mem userPtr (iovecDirectCopyLen count) iovecDirectSlotMax 0
      ((Nat.zero_mul _).trans_le (Nat.zero_le _)) hwhole
    have hsmall : (entriesResult [] read).1.length ≤ 256 := by
      rw [entriesResult,List.nil_append]
      exact ((Nat.le_add_left _ _).trans hle).trans htarget
    exact finishSection_captures (hall.mono hsmall) hroom .iovec .input argIndex userPtr _
      (iovecDirectUserLen_lt count)

variable (kind : BasePayloads)

/-- The captured first bytes behind an entry. -/
theorem captureIovecBase_captures (argIndex : UInt16) (userLen : UInt64)
    (hroom : offset+(payloadTLVHeaderSize+kind.bytesMax) ≤ c.record.length) :
    Captures c (captureIovecBaseTLVDirect mem kind offset argIndex userPtr userLen c) offset
      (payloadTLVHeaderSize+kind.bytesMax)
      (capturedIovecBase mem kind argIndex userPtr userLen) := by
  have hlt : userLen.toNat%2^32 < 2^32 := Nat.mod_lt _ (by decide)
  have hmin : min userLen.toNat kind.bytesMax ≤ kind.bytesMax := Nat.min_le_right _ _
  rw [captureIovecBaseTLVDirect,capturedIovecBase]
  by_cases hnone : (decide (userPtr=0) || userLen==0)=true
  · rw [if_pos hnone,if_pos hnone]
    exact captures_nil _ _ _
  · rw [if_neg hnone,if_neg hnone]
    dsimp only
    cases kind.direct with
    | true =>
      exact finishSection_captures (copyInto_copied mem userPtr hmin (by omega)) hroom .bytes
        kind.direction argIndex userPtr _ hlt
    | false =>
      exact finishSection_captures (copyThrough_copied mem userPtr hmin (by omega)) hroom .bytes
        kind.direction argIndex userPtr _ hlt

/-- The captured first bytes behind entries, one entry behind the other. -/
theorem captureSlots_captures (iovecArgIndex : UInt16) (iovecPtr count : UInt64)
    (rounds i payloadSize : ℕ)
    (hroom : offset+payloadSize+rounds*(payloadTLVHeaderSize+kind.bytesMax) ≤ c.record.length) :
    ∃ c' size, captureSlots mem kind iovecArgIndex iovecPtr count offset rounds i payloadSize c=
        (c',payloadSize+size) ∧
      Captures c (c',size) (offset+payloadSize)
        (rounds*(payloadTLVHeaderSize+kind.bytesMax))
        (capturedSlots mem kind iovecArgIndex iovecPtr count rounds i) := by
  induction rounds generalizing i payloadSize c with
  | zero => exact ⟨c,0,rfl,captures_nil _ _ _⟩
  | succ rounds ih =>
    rw [captureSlots,capturedSlots]
    by_cases hcount : i ≥ count.toNat
    · rw [if_pos hcount,if_pos hcount]
      exact ⟨c,0,rfl,captures_nil _ _ _⟩
    · rw [if_neg hcount,if_neg hcount]
      cases readEntry mem (iovecPtr+UInt64.ofNat (i*iovecDirectElemSize)) with
      | none => exact ⟨c,0,rfl,captures_nil _ _ _⟩
      | some entry =>
        obtain ⟨base,len⟩ := entry
        have hrounds : (rounds+1)*(payloadTLVHeaderSize+kind.bytesMax)=
            payloadTLVHeaderSize+kind.bytesMax+rounds*(payloadTLVHeaderSize+kind.bytesMax) := by
          rw [Nat.add_mul,Nat.one_mul,Nat.add_comm]
        rw [hrounds] at hroom ⊢
        have hone : Captures c
            (captureIovecBaseTLVDirect mem kind (offset+payloadSize)
              (iovecBasePayloadArgIndex iovecArgIndex i) base len c) (offset+payloadSize)
            (payloadTLVHeaderSize+kind.bytesMax)
            (capturedIovecBase mem kind (iovecBasePayloadArgIndex iovecArgIndex i) base len) :=
          captureIovecBase_captures mem base kind _ len (by omega)
        dsimp only
        set out := captureIovecBaseTLVDirect mem kind (offset+payloadSize)
          (iovecBasePayloadArgIndex iovecArgIndex i) base len c
        have hrest := hone.remaining hroom
        rw [Nat.add_assoc offset] at hrest
        obtain ⟨c',size,hrest,hcaptures⟩ := ih (i+1) (payloadSize+out.2) hrest
        rw [←Nat.add_assoc] at hcaptures
        refine ⟨c',out.2+size,?_,hone.append hcaptures⟩
        rw [←Nat.add_assoc]
        exact hrest

/-- The captured first bytes behind the entries of an I/O vector. -/
theorem captureIovecBasePayloads_captures (iovecArgIndex : UInt16) (iovecPtr count : UInt64)
    (hroom : offset+kind.slotMax*(payloadTLVHeaderSize+kind.bytesMax) ≤ c.record.length) :
    Captures c
      (captureIovecBasePayloadsTLVDirectForArg mem kind offset iovecArgIndex iovecPtr count c)
      offset (kind.slotMax*(payloadTLVHeaderSize+kind.bytesMax))
      (capturedIovecBasePayloads mem kind iovecArgIndex iovecPtr count) := by
  rw [captureIovecBasePayloadsTLVDirectForArg,capturedIovecBasePayloads]
  by_cases hnone : (decide (iovecPtr=0) || count==0)=true
  · rw [if_pos hnone,if_pos hnone]
    exact captures_nil _ _ _
  · rw [if_neg hnone,if_neg hnone]
    obtain ⟨c',size,hslots,hcaptures⟩ := captureSlots_captures mem kind iovecArgIndex iovecPtr
      count kind.slotMax 0 0 hroom
    rw [hslots,Nat.zero_add]
    exact hcaptures

/-- Room for the vectors of a vectored call. -/
def iovecPayloadsCapacity (arch : Arch) (sysID : UInt32) : ℕ :=
  if isProcessVMIovecDirectSyscall arch sysID then (payloadTLVHeaderSize+256)*2
  else payloadTLVHeaderSize+256

/-- Captured vectors of a vectored call. -/
theorem captureIovecPayloads_captures (arch : Arch) (sysID : UInt32) (args : SyscallArgs)
    (hroom : offset+iovecPayloadsCapacity arch sysID ≤ c.record.length) :
    Captures c (captureIovecPayloadsTLVDirect mem arch offset sysID args c) offset
      (iovecPayloadsCapacity arch sysID) (capturedIovecPayloads mem arch sysID args) := by
  rw [captureIovecPayloadsTLVDirect,capturedIovecPayloads]
  rw [iovecPayloadsCapacity] at hroom ⊢
  by_cases htwo : isProcessVMIovecDirectSyscall arch sysID=true
  · rw [if_pos htwo,Nat.mul_two] at hroom
    have hfirst := captureIovec_captures mem args[1] 1 args[2]
      ((Nat.add_le_add_left (Nat.le_add_right _ _) _).trans hroom)
    have hsecond := captureIovec_captures mem args[3] 3 args[4] (hfirst.remaining hroom)
    dsimp only
    rw [if_pos htwo,if_pos htwo,if_pos htwo,Nat.mul_two]
    exact hfirst.append hsecond
  · rw [if_neg htwo] at hroom
    have hfirst := captureIovec_captures mem args[1] 1 args[2] hroom
    dsimp only
    rw [if_neg htwo,if_neg htwo,if_neg htwo,List.append_nil]
    exact hfirst

/-- Room for the path or the bytes of a call. -/
def payloadEnterCapacity (arch : Arch) (sysID : UInt32) (args : SyscallArgs) : ℕ :=
  if isWritePayloadDirectSyscall arch sysID then
    payloadTLVHeaderSize+payloadTLVDataBucket (payloadTLVCopyLen args[2] payloadTLVBytesMax)
  else payloadTLVHeaderSize+payloadTLVOpenatMax

/-- A call with a path has no bytes. -/
theorem payloadEnterCapacity_of_path {arch : Arch} {sysID : UInt32} (args : SyscallArgs)
    (hpath : sysID=sysOpen arch ∨ sysID=sysCreat arch ∨ sysID=sysOpenat arch) :
    payloadEnterCapacity arch sysID args=payloadTLVHeaderSize+payloadTLVOpenatMax := by
  have hwrite : isWritePayloadDirectSyscall arch sysID=false := by
    rcases hpath with rfl | rfl | rfl <;> cases arch <;> decide
  rw [payloadEnterCapacity,hwrite,if_neg Bool.false_ne_true]

/-- The captured path or bytes of a call. -/
theorem capturePayload_captures (arch : Arch) (sysID : UInt32) (args : SyscallArgs)
    (hroom : offset+payloadEnterCapacity arch sysID args ≤ c.record.length) :
    Captures c (capturePayloadTLVDirect mem arch offset sysID args c) offset
      (payloadEnterCapacity arch sysID args) (capturedPayload mem arch sysID args) := by
  rw [capturePayloadTLVDirect,capturedPayload]
  by_cases hopen : (decide (sysID=sysOpen arch) || sysID==sysCreat arch)=true
  · rw [if_pos hopen,if_pos hopen]
    rw [Bool.or_eq_true,decide_eq_true_eq,beq_iff_eq] at hopen
    rw [payloadEnterCapacity_of_path args (hopen.imp_right .inl)] at hroom ⊢
    exact captureOpenatPath_captures mem args[0] 0 hroom
  · rw [if_neg hopen,if_neg hopen]
    by_cases hopenat : sysID=sysOpenat arch
    · rw [if_pos hopenat,if_pos hopenat]
      rw [payloadEnterCapacity_of_path args (.inr (.inr hopenat))] at hroom ⊢
      exact captureOpenatPath_captures mem args[1] 1 hroom
    · rw [if_neg hopenat,if_neg hopenat]
      by_cases hwrite : isWritePayloadDirectSyscall arch sysID=true
      · rw [if_pos hwrite,if_pos hwrite]
        rw [payloadEnterCapacity,if_pos hwrite] at hroom ⊢
        exact captureWriteBytes_captures mem args rfl hroom
      · rw [if_neg hwrite,if_neg hwrite]
        exact captures_nil _ _ _

end Capturing

end StraceGo.BpfCaptures

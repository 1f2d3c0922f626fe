import StraceGo.EventTaskLifecycle
import StraceGo.GoText
import Mathlib.Data.List.DropRight

/-!
# What an event says about descriptors

Decoding of the descriptor snapshots a record carries, classification of the
syscalls that create, duplicate, close and move descriptors, and the policies
of the anonymous descriptor creators. Nothing here reads the descriptor store.
-/

namespace StraceGo.FDStateEvents

open EventEnvelope FiniteMaps EventTaskLifecycle GoText

/-- Syscalls the descriptor store tells apart. -/
inductive SyscallName where
  | «open»
  | openat
  | openat2
  | openTree
  | creat
  | dup
  | dup2
  | dup3
  | fcntl
  | fcntl64
  | pipe
  | pipe2
  | socketpair
  | socket
  | bind
  | getsockname
  | close
  | closeRange
  | chdir
  | fchdir
  | read
  | write
  | pwrite64
  | lseek
  | signalfd
  | signalfd4
  | eventfd
  | eventfd2
  | epollCreate
  | epollCreate1
  | timerfdCreate
  | inotifyInit
  | inotifyInit1
  | pidfdOpen
  | other
  deriving DecidableEq, Repr

/-- Syscall of a table name. -/
def syscallName (name : String) : SyscallName :=
  match name with
  | "open" => .«open»
  | "openat" => .openat
  | "openat2" => .openat2
  | "open_tree" => .openTree
  | "creat" => .creat
  | "dup" => .dup
  | "dup2" => .dup2
  | "dup3" => .dup3
  | "fcntl" => .fcntl
  | "fcntl64" => .fcntl64
  | "pipe" => .pipe
  | "pipe2" => .pipe2
  | "socketpair" => .socketpair
  | "socket" => .socket
  | "bind" => .bind
  | "getsockname" => .getsockname
  | "close" => .close
  | "close_range" => .closeRange
  | "chdir" => .chdir
  | "fchdir" => .fchdir
  | "read" => .read
  | "write" => .write
  | "pwrite64" => .pwrite64
  | "lseek" => .lseek
  | "signalfd" => .signalfd
  | "signalfd4" => .signalfd4
  | "eventfd" => .eventfd
  | "eventfd2" => .eventfd2
  | "epoll_create" => .epollCreate
  | "epoll_create1" => .epollCreate1
  | "timerfd_create" => .timerfdCreate
  | "inotify_init" => .inotifyInit
  | "inotify_init1" => .inotifyInit1
  | "pidfd_open" => .pidfdOpen
  | _ => .other

/-- Descriptor number in an argument. -/
def fdArg (arg : UInt64) : Int32 := arg.toUInt32.toInt32

/-- Descriptor number in a return value. -/
def fdRet (view : SyscallEventView) : Int32 := view.ret.toInt32

/-- Value of little-endian bytes. -/
def leNat : List UInt8 → ℕ
  | [] => 0
  | byte::bytes => byte.toNat+256*leNat bytes

/-- Two bytes at an offset. -/
def uint16At (data : List UInt8) (offset : ℕ) : UInt16 :=
  UInt16.ofNat (leNat ((data.drop offset).take 2))

/-- Four bytes at an offset. -/
def uint32At (data : List UInt8) (offset : ℕ) : UInt32 :=
  UInt32.ofNat (leNat ((data.drop offset).take 4))

/-- Eight bytes at an offset. -/
def uint64At (data : List UInt8) (offset : ℕ) : UInt64 :=
  UInt64.ofNat (leNat ((data.drop offset).take 8))

/-- Length of a descriptor snapshot. -/
def fdStateSnapshotSize : ℕ := 48

/-- A snapshot identifies its inode. -/
def fdStateFlagIdentity : UInt32 := 1

/-- A snapshot holds the file offset. -/
def fdStateFlagOffset : UInt32 := 2

/-- Pseudo argument of a descriptor snapshot. -/
def payloadFDStateArgIndex : ℤ := 0xffff

/-- Pseudo argument of the working directory. -/
def payloadFDPathCwdArgIndex : ℤ := 0xfffe

/-- Pseudo argument of a descriptor nested in a structure. -/
def payloadFDPathNestedArgIndex : ℤ := 0xfffd

/-- Pseudo argument of an event counter. -/
def payloadEventFDStateArgIndex : ℤ := 0xfffc

/-- Length of an event counter snapshot. -/
def eventFDStateSnapshotSize : ℕ := 16

/-- Length of a descriptor pair. -/
def fdArrayPayloadSize : ℕ := 8

/-- Stands for the working directory. -/
def atFdcwd : Int32 := -100

/-- Close-on-exec bit of the open flags, shared by the socket flags. -/
def oCloexec : UInt64 := 0x80000

/-- Snapshot of one descriptor at the time of an event. -/
structure FDStateObservation where
  /-- Descriptor. -/
  fd : Int32
  /-- Which fields hold. -/
  flags : UInt32
  /-- File mode. -/
  mode : UInt32
  /-- Device of the inode. -/
  dev : UInt64
  /-- Device a special file stands for. -/
  rdev : UInt64
  /-- Inode number. -/
  inode : UInt64
  /-- File offset. -/
  offset : Int64
  deriving DecidableEq

/-- Decode a descriptor snapshot. -/
def decodeFDStateObservation (data : List UInt8) : Option FDStateObservation :=
  if data.length < fdStateSnapshotSize then none
  else some {
    fd := (uint32At data 0).toInt32
    flags := uint32At data 4
    mode := uint32At data 8
    dev := uint64At data 16
    rdev := uint64At data 24
    inode := uint64At data 32
    offset := (uint64At data 40).toInt64}

/-- A descriptor's path with an optional snapshot. -/
structure FDPathSnapshot where
  /-- Path. -/
  path : String
  /-- Snapshot, if its prefix could be read. -/
  observation : Option FDStateObservation
  deriving DecidableEq

/-- Text of a path without its trailing zeros. -/
def decodeFDPathText (data : List UInt8) : Option String :=
  if data.rdropWhile (·==0)=[] then none else some (ofBytes (data.rdropWhile (·==0)))

/-- Snapshot in front of a path, if it is one. -/
def fdPathObservation (data : List UInt8) : Option FDStateObservation :=
  if data.length < fdStateSnapshotSize then none
  else (decodeFDStateObservation (data.take fdStateSnapshotSize)).filter fun observation =>
    decide (0 ≤ observation.fd) &&
      observation.flags &&& ~~~(fdStateFlagIdentity ||| fdStateFlagOffset)==0

/-- Decode a path with an optional snapshot in front. -/
def decodeFDPathSnapshot (data : List UInt8) : Option FDPathSnapshot :=
  (decodeFDPathText (if (fdPathObservation data).isSome then data.drop fdStateSnapshotSize
    else data)).map fun path => ⟨path,fdPathObservation data⟩

/-- Snapshot of one event counter. -/
structure EventFDState where
  /-- Counter. -/
  count : UInt64
  /-- Identity of the object. -/
  id : Int32
  /-- Whether reads take one unit. -/
  semaphore : UInt32

/-- Decode an event counter snapshot. -/
def decodeEventFDState (data : List UInt8) : Option EventFDState :=
  if data.length < eventFDStateSnapshotSize then none
  else if (uint32At data 8).toInt32 < 0 ∨ 1 < uint32At data 12 then none
  else some ⟨uint64At data 0,(uint32At data 8).toInt32,uint32At data 12⟩

/-- Event of a descriptor update: the record with all its sections. -/
structure FDStateSource where
  /-- The record. -/
  view : SyscallEventView
  /-- Its payload, with that of its enter. -/
  payloadSections : List PayloadSection

/-- Snapshot a section holds. -/
def fdStateObservationFromSection (s : PayloadSection) : Option FDStateObservation :=
  if s.kind≠.fdState ∨ s.direction≠.output ∨ s.argIndex≠payloadFDStateArgIndex ∨ s.probeRet≠0 then
    none
  else (decodeFDStateObservation s.data).filter fun observation => decide (0 ≤ observation.fd)

/-- First snapshot of a descriptor among the sections. -/
def snapshotForFD (src : FDStateSource) (fd : Int32) : Option FDStateObservation :=
  src.payloadSections.findSome? fun s =>
    (fdStateObservationFromSection s).filter fun observation => decide (observation.fd=fd)

/-- Whether the sections hold a snapshot of a descriptor. -/
def hasFDStateSnapshotForFD (src : FDStateSource) (fd : Int32) : Bool :=
  (snapshotForFD src fd).isSome

/-- Descriptor pair among the sections. -/
def fdArrayPayloadData (sections : List PayloadSection) (argIndex : ℤ) : Option (Int32×Int32) :=
  (sections.find? fun s => s.kind==.struct && s.direction==.output && s.argIndex==argIndex &&
    s.probeRet==0 && decide (fdArrayPayloadSize ≤ s.data.length)).map fun s =>
    ((uint32At s.data 0).toInt32,(uint32At s.data 4).toInt32)

/-- Paths a record carries for the descriptors it names. -/
structure FDPathOverlay where
  /-- Snapshots by argument. -/
  byArg : GoMap ℤ FDPathSnapshot := ∅
  /-- Snapshots by descriptor. -/
  byFD : GoMap Int32 FDPathSnapshot := ∅
  /-- Working directory, empty without one. -/
  cwdPath : String := ""

/-- Take the path of one section. -/
def overlaySection (overlay : FDPathOverlay) (s : PayloadSection) : FDPathOverlay :=
  if s.kind≠.fdPath ∨ s.direction≠.input ∨ s.probeRet≠0 then overlay
  else if s.argIndex=payloadFDPathCwdArgIndex then
    match decodeFDPathText s.data with
    | none => overlay
    | some path => {overlay with cwdPath := path}
  else
    match decodeFDPathSnapshot s.data with
    | none => overlay
    | some snapshot =>
      if s.argIndex=payloadFDPathNestedArgIndex then
        match snapshot.observation with
        | none => overlay
        | some observation =>
          if observation.fd < 0 then overlay
          else {overlay with byFD := overlay.byFD.insert observation.fd snapshot}
      else if s.argIndex < 0 ∨ 6 ≤ s.argIndex then overlay
      else {overlay with byArg := overlay.byArg.insert s.argIndex snapshot}

/-- Paths of all sections. -/
def fdPathOverlayFromSections (sections : List PayloadSection) : FDPathOverlay :=
  sections.foldl overlaySection {}

/-- Paths and snapshots by descriptor. -/
structure EventFDStateView where
  /-- Paths. -/
  paths : GoMap Int32 String := ∅
  /-- Snapshots. -/
  states : GoMap Int32 FDStateObservation := ∅

/-- Orders in which one event's loops visit the maps it builds. -/
structure OverlayOrder where
  /-- Visit of the snapshots by descriptor. -/
  byFD : List Int32 := []
  /-- Visit of the snapshots by argument. -/
  byArg : List ℤ := []
  /-- Visit of the resolved paths. -/
  paths : List Int32 := []
  /-- Visit of the resolved snapshots. -/
  states : List Int32 := []

/-- Write the snapshot of one nested descriptor. -/
def resolveFD (overlay : FDPathOverlay) (resolved : EventFDStateView) (fd : Int32) :
    EventFDStateView :=
  match overlay.byFD.lookup fd with
  | none => resolved
  | some snapshot =>
    {paths := resolved.paths.insert fd snapshot.path
     states := match snapshot.observation with
      | none => resolved.states
      | some observation => resolved.states.insert fd observation}

/-- Write the snapshot of one argument. -/
def resolveArg (overlay : FDPathOverlay) (view : SyscallEventView) (resolved : EventFDStateView)
    (argIndex : ℤ) : EventFDStateView :=
  match overlay.byArg.lookup argIndex with
  | none => resolved
  | some snapshot =>
    let fd := fdArg (view.args.toList.getD argIndex.toNat 0)
    if fd < 0 ∨ fd=atFdcwd ∨ snapshot.path="" then resolved
    else
      {paths := resolved.paths.insert fd snapshot.path
       states := match snapshot.observation with
        | none => resolved.states
        | some observation =>
          if observation.fd=fd then resolved.states.insert fd observation else resolved.states}

/-- Paths and snapshots of the descriptors a record names. -/
def FDPathOverlay.resolve (overlay : FDPathOverlay) (view : SyscallEventView)
    (order : OverlayOrder) : EventFDStateView :=
  if view.valid=false then {}
  else order.byArg.foldl (resolveArg overlay view) (order.byFD.foldl (resolveFD overlay) {})

/-- Whether a syscall opens a path. -/
def isOpenedPathFDStateSyscall : SyscallName → Bool
  | .«open» | .openat | .openat2 | .openTree | .creat => true
  | _ => false

/-- Whether a syscall creates an anonymous descriptor. -/
def isFDStateCreatorName : SyscallName → Bool
  | .signalfd | .signalfd4 | .eventfd | .eventfd2 | .epollCreate | .epollCreate1
  | .timerfdCreate | .inotifyInit | .inotifyInit1 | .pidfdOpen => true
  | _ => false

/-- Whether a syscall creates a descriptor pair. -/
def isFDArrayFDStateSyscall : SyscallName → Bool
  | .pipe | .pipe2 | .socketpair => true
  | _ => false

/-- Whether a syscall is a descriptor control. -/
def isFcntlFDStateSyscall : SyscallName → Bool
  | .fcntl | .fcntl64 => true
  | _ => false

/-- Whether a syscall duplicates a descriptor. -/
def isDuplicatedFDStateSyscall : SyscallName → Bool
  | .dup | .dup2 | .dup3 => true
  | _ => false

/-- Whether a descriptor control duplicates. -/
def isFcntlFDStateCommand (args : SyscallArgs) : Bool :=
  args[1].toUInt32==0 || args[1].toUInt32==1030

/-- Whether a syscall's record may hold snapshots of new descriptors. -/
def isFDStateObservationSyscall (name : SyscallName) : Bool :=
  isOpenedPathFDStateSyscall name || name==.socket || isFDStateCreatorName name ||
    isDuplicatedFDStateSyscall name || isFDArrayFDStateSyscall name || isFcntlFDStateSyscall name

/-- Whether a syscall replaces what its result number stood for. -/
def fdStateTargetReplaced (view : SyscallEventView) (name : SyscallName) : Bool :=
  if isOpenedPathFDStateSyscall name || isFDStateCreatorName name || name==.socket ||
      name==.dup || isFcntlFDStateSyscall name then true
  else if name=.dup2 ∨ name=.dup3 then fdArg view.args[0] != fdArg view.args[1]
  else false

/-- Effects an event may have on the store. -/
structure SyscallEventTraits where
  /-- May change descriptors. -/
  state : Bool := false
  /-- May change an event counter. -/
  stateIo : Bool := false
  /-- May change an offset. -/
  offset : Bool := false
  /-- Moves an offset by its result. -/
  offsetIo : Bool := false
  /-- Creates an anonymous descriptor. -/
  creator : Bool := false
  /-- Closes a descriptor. -/
  close : Bool := false

/-- Effects of a syscall. -/
def syscallEventTraitsForName (name : SyscallName) : SyscallEventTraits where
  state := isFDStateCreatorName name || isOpenedPathFDStateSyscall name ||
    isDuplicatedFDStateSyscall name || isFcntlFDStateSyscall name ||
    name==.socket || name==.chdir || name==.fchdir || name==.closeRange
  stateIo := name==.read || name==.write
  offset := isFDStateCreatorName name || isOpenedPathFDStateSyscall name ||
    isDuplicatedFDStateSyscall name || isFcntlFDStateSyscall name || name==.lseek
  offsetIo := name==.read || name==.write
  creator := isFDStateCreatorName name
  close := name==.close

/-- Length of the table of effects. -/
def syscallEventTraitTableSize : UInt32 := 512

/-- Table of effects by syscall number. -/
def syscallEventTraitsByID (tables : SyscallTables) (id : UInt32) : SyscallEventTraits :=
  syscallEventTraitsForName (syscallName (tables.name id))

/-- Effects of an event. -/
def syscallEventTraitsForView (tables : SyscallTables) (view : SyscallEventView)
    (name : SyscallName) : SyscallEventTraits :=
  if view.sysID=0 then syscallEventTraitsForName name
  else if view.sysID < syscallEventTraitTableSize then syscallEventTraitsByID tables view.sysID
  else syscallEventTraitsForName name

/-- Whether an event is applied to the store. -/
def shouldApplyFDStateEvent (tables : SyscallTables) (view : SyscallEventView)
    (name : SyscallName) (sections : List PayloadSection) : Bool :=
  if sections≠[] then true
  else if view.valid=false then false
  else if (syscallEventTraitsForView tables view name).stateIo then view.ret==8
  else (syscallEventTraitsForView tables view name).state

/-- Whether an event is applied to the offsets. -/
def shouldApplyFDOffsetEvent (tables : SyscallTables) (view : SyscallEventView)
    (name : SyscallName) : Bool :=
  if view.valid=false ∨ view.probeRetEnter=3 ∨ view.ret < 0 then false
  else if (syscallEventTraitsForView tables view name).creator then true
  else if (syscallEventTraitsForView tables view name).offset then true
  else if (syscallEventTraitsForView tables view name).offsetIo then view.ret != 0
  else false

/-- Whether an event closes a descriptor. -/
def shouldCleanupClosedFDEvent (tables : SyscallTables) (view : SyscallEventView)
    (name : SyscallName) : Bool :=
  view.valid && (syscallEventTraitsForView tables view name).close && view.ret==0

/-- Descriptors of a duplication: the old one and the new one. -/
def duplicatedFDsFromView (view : SyscallEventView) (name : SyscallName) : Option (Int32×Int32) :=
  if view.valid=false ∨ view.ret < 0 then none
  else if isDuplicatedFDStateSyscall name ||
      isFcntlFDStateSyscall name && isFcntlFDStateCommand view.args then
    some (fdArg view.args[0],fdRet view)
  else none

/-- What the creator of an anonymous descriptor says about it. -/
structure FDCreatorState where
  /-- Path, if known. -/
  path : Option String := none
  /-- Close-on-exec, if known. -/
  cloexec : Option Bool := none

/-- Whether the flags in an argument ask for close-on-exec. -/
def cloexecArg (view : SyscallEventView) (argIndex : Fin 6) : Bool :=
  view.args[argIndex].toUInt32.toUInt64 &&& oCloexec != 0

/-- Creator with a fixed path, and flags in an argument or a fixed close-on-exec. -/
def simpleFDCreatorPolicy (path : String) (flagsArg : Option (Fin 6)) (src : FDStateSource) :
    FDCreatorState where
  path := some path
  cloexec := match flagsArg with
    | none => some false
    | some argIndex => some (cloexecArg src.view argIndex)

/-- Names of the standard signals. -/
def signalNames : List String :=
  ["HUP","INT","QUIT","ILL","TRAP","ABRT","BUS","FPE","KILL","USR1","SEGV","USR2","PIPE","ALRM",
    "TERM","STKFLT","CHLD","CONT","STOP","TSTP","TTIN","TTOU","URG","XCPU","XFSZ","VTALRM","PROF",
    "WINCH","IO","PWR","SYS"]

/-- Whether a signal mask has a bit. -/
def maskBit (mask : UInt64) (i : ℕ) : Bool := mask.toNat.testBit i

/-- Text of a signal mask; masks with most bits set are shown inverted. -/
def sigset (mask : UInt64) : String :=
  if mask=0 then "[]"
  else if mask = ~~~0 then "~[]"
  else
    let inverted := decide (32 < ((List.range 64).filter (maskBit mask)).length)
    let shown := if inverted then ~~~mask else mask
    let names := (signalNames.zipIdx.filter fun e => maskBit shown e.2).map (·.1)
    let numbers := ((List.range 32).map (·+32)).filter fun i => maskBit shown (i-1)
    let texts := names ++ numbers.map toString
    if texts=[] ∧ inverted=false then "[]"
    else (if inverted then "~" else "") ++ "[" ++ String.intercalate " " texts ++ "]"

/-- Signal mask of a record. -/
def signalfdMaskFromSource (src : FDStateSource) : Option UInt64 :=
  if src.view.args[2]≠8 then none
  else (src.payloadSections.find? fun s => s.kind==.struct && s.direction==.input &&
    s.argIndex==1 && s.userLen==8 && decide (8 ≤ s.copiedLen) && s.probeRet==0 &&
    decide (8 ≤ s.data.length)).map fun s => uint64At s.data 0

/-- Creator of a signal descriptor; an existing one keeps its close-on-exec. -/
def signalfdPolicy (flagsArg : Option (Fin 6)) (src : FDStateSource) : FDCreatorState where
  path := (signalfdMaskFromSource src).map fun mask => "signalfd:" ++ sigset mask
  cloexec := if fdArg src.view.args[0]≠-1 then none
    else match flagsArg with
      | none => some false
      | some argIndex => some (cloexecArg src.view argIndex)

/-- Creator of a process descriptor. -/
def pidfdCreatorPolicy (src : FDStateSource) : FDCreatorState where
  path := if fdArg src.view.args[0] ≤ 0 then none
    else some ("anon_inode:[pidfd],pid=" ++ toString (fdArg src.view.args[0]).toInt)
  cloexec := some true

/-- Policy of an anonymous creator. -/
def fdCreatorPolicyFor (name : SyscallName) : Option (FDStateSource → FDCreatorState) :=
  match name with
  | .signalfd => some (signalfdPolicy none)
  | .signalfd4 => some (signalfdPolicy (some 3))
  | .eventfd => some (simpleFDCreatorPolicy "anon_inode:[eventfd]" none)
  | .eventfd2 => some (simpleFDCreatorPolicy "anon_inode:[eventfd]" (some 1))
  | .pidfdOpen => some pidfdCreatorPolicy
  | .epollCreate => some (simpleFDCreatorPolicy "anon_inode:[eventpoll]" none)
  | .epollCreate1 => some (simpleFDCreatorPolicy "anon_inode:[eventpoll]" (some 0))
  | .timerfdCreate => some (simpleFDCreatorPolicy "anon_inode:[timerfd]" (some 1))
  | .inotifyInit => some (simpleFDCreatorPolicy "anon_inode:inotify" none)
  | .inotifyInit1 => some (simpleFDCreatorPolicy "anon_inode:inotify" (some 0))
  | _ => none

/-- Open flags captured with an extended open. -/
def openHowFlagsFromPayload (sections : List PayloadSection) : Option UInt64 :=
  (sections.find? fun s => s.kind==.struct && s.direction==.input && s.argIndex==2 &&
    s.probeRet==0 && decide (8 ≤ s.data.length)).map fun s => uint64At s.data 0

/-- Close-on-exec of an opened descriptor, if known. -/
def createdFDCloexecState (src : FDStateSource) (name : SyscallName) : Option Bool :=
  match name with
  | .«open» => some (src.view.args[1] &&& oCloexec != 0)
  | .openat | .openTree => some (src.view.args[2] &&& oCloexec != 0)
  | .creat => some false
  | .openat2 => (openHowFlagsFromPayload src.payloadSections).map (· &&& oCloexec != 0)
  | _ => none

/-- Close-on-exec of a duplicated descriptor, if known. -/
def duplicatedFDCloexecState (view : SyscallEventView) (name : SyscallName) : Option Bool :=
  match name with
  | .dup | .dup2 => some false
  | .dup3 => some (view.args[2] &&& oCloexec != 0)
  | .fcntl | .fcntl64 =>
    if view.args[1].toUInt32=0 then some false
    else if view.args[1].toUInt32=1030 then some true
    else none
  | _ => none

/-- Argument that receives a descriptor pair. -/
def fdArrayArgIndex (name : SyscallName) : ℤ := if name=.socketpair then 3 else 0

/-- Whether a descriptor pair is created close-on-exec. -/
def arrayFDCloexecEnabled (view : SyscallEventView) (name : SyscallName) : Bool :=
  if name=.socketpair then view.args[1] &&& oCloexec != 0
  else name==.pipe2 && view.args[1] &&& oCloexec != 0

/-- Decoder of the generated flag tables. -/
abbrev FDFlagDecoder : Type := UInt64 → String → String

/-- Protocol text of a socket. -/
def socketFDInfoFromFlags (flagDecoder : Option FDFlagDecoder) (view : SyscallEventView) : String :=
  match flagDecoder with
  | none => ""
  | some decode =>
    if view.args[0]=16 then
      decode view.args[0] "addrfams" ++ ":" ++ decode view.args[2] "netlink_protocols"
    else decode view.args[0] "addrfams"

/-- Inode text of a new socket. -/
def socketInode (src : FDStateSource) : String :=
  match src.payloadSections.findSome? (fun s => (fdStateObservationFromSection s).filter
      fun observation => decide (observation.fd=fdRet src.view ∧ observation.inode≠0)) with
  | none => "unknown"
  | some observation => toString observation.inode.toNat

/-- Address captured with a socket call. -/
def netlinkSockaddrPayload (src : FDStateSource) (name : SyscallName) : Option (List UInt8) :=
  if src.view.eventType≠.enter ∧ src.view.eventType≠.exit then none
  else (src.payloadSections.find? fun s => s.kind==.struct &&
    s.direction==(if name=.getsockname then PayloadDirection.output else .input) &&
    s.argIndex==1 && s.probeRet==0 && decide (8 ≤ s.data.length)).map (·.data.take 8)

/-- Whether a path argument was captured as text. -/
def isPathText (pathText : String) : Bool :=
  !(pathText=="" || hasPrefix pathText "0x" || pathText=="NULL")

/-- Path argument without its quotes. -/
def unquotedPath (pathText : String) : String := trimSuffix (trimPrefix pathText "\"") "\""

/-- Components of a path after dots are resolved. -/
def cleanComponents (parts : List String) : List String :=
  parts.foldl (fun result part =>
    if part="" ∨ part="." then result
    else if part=".." then result.dropLast
    else result ++ [part]) []

/-- Absolute path after dots are resolved. -/
def cleanAbsoluteFDStatePath (path : String) : String :=
  "/" ++ String.intercalate "/" (cleanComponents (split path '/'))

/-- Path relative to a base. -/
def cleanFDStatePath (base relative : String) : String :=
  if hasPrefix relative "/" then cleanAbsoluteFDStatePath relative
  else if base="" then relative
  else cleanAbsoluteFDStatePath (base ++ "/" ++ relative)

/-- Text of an event counter's value. -/
def formatEventFDStateCount (count : UInt64) : String :=
  if count=0 then "0" else "0x" ++ hex count.toNat

/-- Text of an event counter. -/
def eventFDStateTarget (state : EventFDState) : String :=
  "anon_inode:[eventfd],eventfd-count=" ++ formatEventFDStateCount state.count ++ ",eventfd-id=" ++
    toString state.id.toInt ++ ",eventfd-semaphore=" ++ toString state.semaphore.toNat

/-- Event counter among the sections; the first candidate decides. -/
def eventFDStateFromSections (sections : List PayloadSection) : Option EventFDState :=
  (sections.find? fun s => s.kind==.eventFDState && s.direction==.output &&
    s.argIndex==payloadEventFDStateArgIndex && s.userLen.toNat==eventFDStateSnapshotSize &&
    decide (eventFDStateSnapshotSize ≤ s.copiedLen.toNat) && s.probeRet==0).bind fun s =>
    decodeEventFDState s.data

/-- Text split around the value of an event counter, with the value. -/
def eventFDCountFromTarget (target : String) : Option (String×UInt64×String) :=
  let marker := "eventfd-count=".toList
  if hasPrefix target "anon_inode:[eventfd],"=false then none
  else
    match index marker target.toList with
    | none => none
    | some start =>
      let rest := target.toList.drop (start+marker.length)
      let value := rest.takeWhile (· ≠ ',')
      (parseLiteral 64 (String.ofList value)).map fun count =>
        (String.ofList (target.toList.take (start+marker.length)),UInt64.ofNat count,
          String.ofList (rest.drop value.length))

/-- Value written to an event counter. -/
def eventFDWriteValue (sections : List PayloadSection) : Option UInt64 :=
  (sections.find? fun s => s.kind==.bytes && s.direction==.input && s.argIndex==1 &&
    s.userLen==8 && decide (8 ≤ s.copiedLen) && s.probeRet==0 && decide (8 ≤ s.data.length)).map
    fun s => uint64At s.data 0

/-- Largest value of an event counter. -/
def maxEventFDCount : UInt64 := ~~~0-1

/-- Event counter after a read or a write. -/
def eventFDCountAfterIO (src : FDStateSource) (name : SyscallName) (target : String)
    (count : UInt64) : Option UInt64 :=
  if name=.read then
    if contains target "eventfd-semaphore=1" ∧ 0 < count then some (count-1) else some 0
  else
    (eventFDWriteValue src.payloadSections).bind fun value =>
      if maxEventFDCount-count < value then none else some (count+value)

end StraceGo.FDStateEvents

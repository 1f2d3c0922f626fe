import StraceGo.FDStateEvents
import StraceGo.KeyedMaps

/-!
# The descriptor store

Paths, offsets, snapshots and close-on-exec bits of the traced descriptors, in
four maps whose keys are texts of a process number and a descriptor. An event
changes a map by writes at slots of one process. The loops over whole maps
take the order in which they visit them.
-/

namespace StraceGo.FDState

open EventEnvelope FiniteMaps EventTaskLifecycle GoText KeyedMaps FDStateEvents

/-- What a process keeps records for. -/
inductive FDSlot where
  | fd (n : Int32)
  | cwd
  deriving DecidableEq

/-- Key of a descriptor. -/
def fdStateKey (targetPid : ℤ) (fd : Int32) : String :=
  toString targetPid ++ ":" ++ toString fd.toInt

/-- Key of a working directory. -/
def cwdKey (targetPid : ℤ) : String := toString targetPid ++ ":cwd"

/-- Start of every key of a process. -/
def fdMapPrefix (pid : ℤ) : String := toString pid ++ ":"

/-- Key of a slot. -/
def slotKey (targetPid : ℤ) : FDSlot → String
  | .fd n => fdStateKey targetPid n
  | .cwd => cwdKey targetPid

/-- Whether a key starts like the keys of a process. -/
def hasPidPrefix (pid : ℤ) (key : String) : Bool := hasPrefix key (fdMapPrefix pid)

/-- Key of a child process for a key of its parent. -/
def inheritedKey (parentPID childPID : ℤ) (key : String) : String :=
  toString childPID ++ ":" ++ trimPrefix key (fdMapPrefix parentPID)

/-- Records of the traced descriptors. -/
@[ext] structure FDStateStore where
  /-- Whether history was lost. -/
  tainted : Bool := false
  /-- Paths. -/
  paths : GoMap String String := ∅
  /-- File offsets. -/
  offsets : GoMap String Int64 := ∅
  /-- Snapshots. -/
  fdStates : GoMap String FDStateObservation := ∅
  /-- Close-on-exec bits. -/
  fdCloexec : GoMap String Bool := ∅

/-- Orders in which the loops of one operation visit the four maps. -/
structure LoopOrders where
  /-- Visit of the paths. -/
  paths : List String := []
  /-- Visit of the offsets. -/
  offsets : List String := []
  /-- Visit of the snapshots. -/
  fdStates : List String := []
  /-- Visit of the close-on-exec bits. -/
  fdCloexec : List String := []

/-- One event, as the store receives it. -/
structure FDStateUpdate where
  /-- The event. -/
  source : FDStateSource
  /-- Its syscall. -/
  name : SyscallName
  /-- Decoder of flags, if any. -/
  flagDecoder : Option FDFlagDecoder := none
  /-- Text of the path argument. -/
  pathText : String := ""
  /-- Process. -/
  targetPID : ℤ
  /-- Orders of the loops over what the event carries. -/
  order : OverlayOrder := {}

/-- Writes at the slots of one process. -/
abbrev Writes (V : Type) : Type := List (Write FDSlot V)

/-- Records of one process. -/
abbrev Reader (V : Type) : Type := FDSlot → Option V

/-- Set the record of a descriptor. -/
def remember {V : Type} (fd : Int32) (v : V) : Write FDSlot V := ⟨.fd fd,some v⟩

/-- Delete the record of a descriptor. -/
def forget {V : Type} (fd : Int32) : Write FDSlot V := ⟨.fd fd,none⟩

/-- Record every entry of a map of the event. -/
def mapWrites {V : Type} (order : List Int32) (m : GoMap Int32 V) : Writes V :=
  order.filterMap fun fd => (m.lookup fd).map (remember fd)

section PathWrites

variable (update : FDStateUpdate)

/-- Paths and snapshots of the descriptors the event names. -/
def FDStateUpdate.resolved : EventFDStateView :=
  (fdPathOverlayFromSections update.source.payloadSections).resolve update.source.view update.order

/-- Paths of the descriptors the event names. -/
def overlayPathWrites : Writes String := mapWrites update.order.paths update.resolved.paths

/-- Working directory the event carries, if none is known. -/
def overlayCwdWrites (read : Reader String) : Writes String :=
  if (fdPathOverlayFromSections update.source.payloadSections).cwdPath≠"" ∧
      update.source.view.valid=true ∧ read .cwd=none then
    [⟨.cwd,some (fdPathOverlayFromSections update.source.payloadSections).cwdPath⟩]
  else []

/-- Path of an anonymous descriptor; unknown without a snapshot. -/
def updateFdReturnMapFromSource : Writes String :=
  if update.source.view.valid=false ∨ update.source.view.ret < 0 then []
  else
    match fdCreatorPolicyFor update.name with
    | none => []
    | some policy =>
      if hasFDStateSnapshotForFD update.source (fdRet update.source.view)=false then
        [forget (fdRet update.source.view)]
      else [⟨.fd (fdRet update.source.view),(policy update.source).path⟩]

/-- Path of an opened descriptor, empty if the event does not tell. -/
def openedPathStateTarget (read : Reader String) : String :=
  if isPathText update.pathText=false then ""
  else if unquotedPath update.pathText≠"" ∨ update.name≠.openTree then unquotedPath update.pathText
  else if fdArg update.source.view.args[0]=atFdcwd then (read .cwd).getD ""
  else (read (.fd (fdArg update.source.view.args[0]))).getD ""

/-- Path of an opened descriptor. -/
def updateOpenedPathFDMapFromView (read : Reader String) : Writes String :=
  if update.source.view.valid=false ∨ update.source.view.ret < 0 ∨
      isOpenedPathFDStateSyscall update.name=false then []
  else if openedPathStateTarget update read="" then []
  else [remember (fdRet update.source.view) (openedPathStateTarget update read)]

/-- Path of a duplicated descriptor. -/
def updateDupFDMapFromSource (read : Reader String) : Writes String :=
  match duplicatedFDsFromView update.source.view update.name with
  | none => []
  | some (oldFd,newFd) =>
    (if oldFd≠newFd then [forget newFd] else []) ++
      if isFcntlFDStateSyscall update.name && !hasFDStateSnapshotForFD update.source newFd then []
      else
        match read (.fd oldFd) with
        | none => []
        | some path => [remember newFd path]

/-- Both members of a descriptor pair get one text. -/
def pairWrites (argIndex : ℤ) (target : String) : Writes String :=
  match fdArrayPayloadData update.source.payloadSections argIndex with
  | none => []
  | some (fd1,fd2) => [remember fd1 target,remember fd2 target]

/-- Paths of a new pipe. -/
def updatePipeFDMapFromPayload : Writes String :=
  if update.source.view.valid=false ∨ update.source.view.ret≠0 ∨
      update.name≠.pipe ∧ update.name≠.pipe2 then []
  else pairWrites update 0 "pipe:[unknown]"

/-- Paths of a new socket pair. -/
def updateSocketpairFDMap : Writes String :=
  if update.source.view.valid=false ∨ update.name≠.socketpair ∨ update.source.view.ret≠0 then []
  else pairWrites update 3
    ("socket:[unknown]|" ++ socketFDInfoFromFlags update.flagDecoder update.source.view)

/-- First part of a socket's path, for a path that has one. -/
def socketBase (path : String) : String :=
  match split path '|' with
  | [] => "socket:[unknown]"
  | part::_ => if hasPrefix part "socket:[" then part else "socket:[unknown]"

/-- Path of a socket with a netlink address. -/
def updateNetlinkFDMap (read : Reader String) : Writes String :=
  if update.source.view.valid=false ∨ update.source.view.ret≠0 ∨
      update.name≠.bind ∧ update.name≠.getsockname then []
  else
    match netlinkSockaddrPayload update.source update.name with
    | none => []
    | some data =>
      if uint16At data 0≠16 then []
      else [remember (fdArg update.source.view.args[0])
        (socketBase ((read (.fd (fdArg update.source.view.args[0]))).getD "") ++
          "|AF_NETLINK:NETLINK_SOCK_DIAG|SOCK_DIAG:" ++ toString (uint32At data 4).toNat)]

/-- Path of a new socket. -/
def updateSocketFDMapFromSource : Writes String :=
  if update.source.view.valid=false ∨ update.name≠.socket ∨ update.source.view.ret < 0 then []
  else [remember (fdRet update.source.view) ("socket:[" ++ socketInode update.source ++ "]|" ++
    socketFDInfoFromFlags update.flagDecoder update.source.view)]

/-- Working directory after a change of directory. -/
def updateCwdFDMapFromView (read : Reader String) : Writes String :=
  if update.source.view.valid=false ∨ update.source.view.ret≠0 then []
  else if update.name=.chdir then
    if isPathText update.pathText=false then []
    else [⟨.cwd,some (cleanFDStatePath ((read .cwd).getD "") (unquotedPath update.pathText))⟩]
  else if update.name=.fchdir then
    match read (.fd (fdArg update.source.view.args[0])) with
    | none => []
    | some path => [⟨.cwd,some path⟩]
  else []

/-- Path of a new event counter. -/
def updateEventFDMapFromSource : Writes String :=
  if update.source.view.valid=false ∨ update.source.view.ret < 0 ∨
      update.name≠.eventfd ∧ update.name≠.eventfd2 then []
  else
    match eventFDStateFromSections update.source.payloadSections with
    | none => []
    | some state => [remember (fdRet update.source.view) (eventFDStateTarget state)]

/-- Path of an event counter after a read or a write. -/
def updateEventFDCountFromSource (read : Reader String) : Writes String :=
  if update.source.view.valid=false ∨ update.source.view.ret≠8 ∨
      update.name≠.read ∧ update.name≠.write then []
  else
    match read (.fd (fdArg update.source.view.args[0])) with
    | none => []
    | some target =>
      match eventFDCountFromTarget target with
      | none => []
      | some (before,count,after) =>
        match eventFDCountAfterIO update.source update.name target count with
        | none => []
        | some next => [remember (fdArg update.source.view.args[0])
          (before ++ formatEventFDStateCount next ++ after)]

/-- What an event does to the paths, in order; each step sees the ones before it. -/
def pathWriters : List (Reader String → Writes String) :=
  [fun _ => overlayPathWrites update,
   overlayCwdWrites update,
   fun _ => updateFdReturnMapFromSource update,
   updateOpenedPathFDMapFromView update,
   updateDupFDMapFromSource update,
   fun _ => updatePipeFDMapFromPayload update,
   fun _ => updateSocketpairFDMap update,
   updateNetlinkFDMap update,
   fun _ => updateSocketFDMapFromSource update,
   updateCwdFDMapFromView update,
   fun _ => updateEventFDMapFromSource update,
   updateEventFDCountFromSource update]

end PathWrites

section StateWrites

variable (src : FDStateSource) (name : SyscallName)

/-- Snapshots among the sections. -/
def sectionObservations : List FDStateObservation :=
  src.payloadSections.filterMap fdStateObservationFromSection

/-- Snapshots of a descriptor pair. -/
def updateFDArrayStateObservations : Writes FDStateObservation :=
  (sectionObservations src).map fun observation => remember observation.fd observation

/-- Snapshot of a new descriptor. -/
def updateFDStateObservationFromSource : Writes FDStateObservation :=
  if src.view.valid=false ∨ src.view.ret < 0 ∨ isFDStateObservationSyscall name=false then []
  else if isFcntlFDStateSyscall name=true ∧ isFcntlFDStateCommand src.view.args=false then []
  else if isFDArrayFDStateSyscall name then
    if src.view.ret≠0 then [] else updateFDArrayStateObservations src
  else
    (if fdStateTargetReplaced src.view name then [forget (fdRet src.view)] else []) ++
      ((snapshotForFD src (fdRet src.view)).map (remember (fdRet src.view))).toList

/-- Whether a snapshot holds an offset. -/
def hasOffset (observation : FDStateObservation) : Bool :=
  observation.flags &&& fdStateFlagOffset != 0

/-- Offsets of a descriptor pair. -/
def updateFDStateOffsetsFromSource : Writes Int64 :=
  if src.view.valid=false ∨ src.view.ret≠0 ∨ isFDArrayFDStateSyscall name=false then []
  else ((sectionObservations src).filter hasOffset).map fun observation =>
    remember observation.fd observation.offset

/-- Replace a close-on-exec bit, by none if it is not known. -/
def replaceFDCloexec (targetPID : ℤ) (fd : Int32) (state : Option Bool) : Writes Bool :=
  if targetPID ≤ 0 ∨ fd < 0 then [] else [⟨.fd fd,state⟩]

/-- Close-on-exec bit of a duplicated descriptor. -/
def updateDuplicatedFDCloexec (view : SyscallEventView) (targetPID : ℤ) : Writes Bool :=
  match duplicatedFDsFromView view name with
  | none => []
  | some (oldFD,newFD) =>
    if oldFD=newFD then []
    else replaceFDCloexec targetPID newFD (duplicatedFDCloexecState view name)

/-- Close-on-exec bit after a descriptor control. -/
def updateFcntlFDCloexec (view : SyscallEventView) (targetPID : ℤ) : Writes Bool :=
  if view.args[1].toUInt32=2 ∧ view.ret=0 then
    replaceFDCloexec targetPID (fdArg view.args[0]) (some (view.args[2] &&& 1 != 0))
  else updateDuplicatedFDCloexec name view targetPID

/-- Close-on-exec bits of a descriptor pair. -/
def updateArrayFDCloexec (targetPID : ℤ) : Writes Bool :=
  match fdArrayPayloadData src.payloadSections (fdArrayArgIndex name) with
  | none => []
  | some (first,second) =>
    replaceFDCloexec targetPID first (some (arrayFDCloexecEnabled src.view name)) ++
      replaceFDCloexec targetPID second (some (arrayFDCloexecEnabled src.view name))

/-- Close-on-exec bits after an event other than a close of a range. -/
def updateFDCloexecFromSource (targetPID : ℤ) : Writes Bool :=
  if src.view.valid=false ∨ src.view.ret < 0 then []
  else
    match fdCreatorPolicyFor name with
    | some policy =>
      if hasFDStateSnapshotForFD src (fdRet src.view)=false then
        replaceFDCloexec targetPID (fdRet src.view) none
      else
        match (policy src).cloexec with
        | none => []
        | some cloexec => replaceFDCloexec targetPID (fdRet src.view) (some cloexec)
    | none =>
      if isOpenedPathFDStateSyscall name then
        replaceFDCloexec targetPID (fdRet src.view) (createdFDCloexecState src name)
      else if isDuplicatedFDStateSyscall name then
        updateDuplicatedFDCloexec name src.view targetPID
      else if isFcntlFDStateSyscall name then updateFcntlFDCloexec name src.view targetPID
      else if isFDArrayFDStateSyscall name then updateArrayFDCloexec src name targetPID
      else []

/-- Offsets after an event that returns a descriptor or moves one. -/
def updateOffsetsFromView (view : SyscallEventView) (states : Reader FDStateObservation)
    (read : Reader Int64) : Writes Int64 :=
  if view.valid=false ∨ view.probeRetEnter=3 ∨ view.ret < 0 then []
  else if isFDStateCreatorName name then
    match (states (.fd (fdRet view))).filter hasOffset with
    | none => [forget (fdRet view)]
    | some observation => [remember (fdRet view) observation.offset]
  else if isOpenedPathFDStateSyscall name then
    remember (fdRet view) 0::
      (((states (.fd (fdRet view))).filter hasOffset).map fun observation =>
        remember (fdRet view) observation.offset).toList
  else if isDuplicatedFDStateSyscall name || isFcntlFDStateSyscall name then
    match duplicatedFDsFromView view name with
    | none => []
    | some (oldFD,newFD) =>
      (if oldFD≠newFD then [forget newFD] else []) ++
        if isFcntlFDStateSyscall name && (states (.fd newFD)).isNone then []
        else
          match read (.fd oldFD) with
          | none => []
          | some offset => [remember newFD offset]
  else if name=.read ∨ name=.write then
    if view.ret=0 then []
    else
      match read (.fd (fdArg view.args[0])) with
      | none => []
      | some offset => [remember (fdArg view.args[0]) (offset+view.ret)]
  else if name=.lseek then [remember (fdArg view.args[0]) view.ret]
  else []

end StateWrites

section Operations

variable (tables : SyscallTables)

/-- Run one step of an event on a map. -/
def runWriter {V : Type} (pid : ℤ) (m : GoMap String V) (writer : Reader V → Writes V) :
    GoMap String V :=
  applyWrites (slotKey pid) m (writer fun slot => m.lookup (slotKey pid slot))

/-- Whether a key of a process names a descriptor of a range. -/
def closeRangeKeyInRange (targetPID : ℤ) (first last : UInt32) (key : String) : Bool :=
  hasPidPrefix targetPID key &&
    ((parseDecimal 32 (trimPrefix key (fdMapPrefix targetPID))).any fun fd =>
      decide (first.toNat ≤ fd) && decide (fd ≤ last.toNat))

namespace FDStateStore

variable (st : FDStateStore)

/-- Mark the known descriptors of a range close-on-exec. -/
def markCloseRangeCloexec (orders : LoopOrders) (targetPID : ℤ) (first last : UInt32) :
    FDStateStore :=
  let inRange := closeRangeKeyInRange targetPID first last
  let fdCloexec := markWhere (visited orders.paths st.paths) inRange true st.fdCloexec
  let fdCloexec := markWhere (visited orders.offsets st.offsets) inRange true fdCloexec
  let fdCloexec := markWhere (visited orders.fdStates st.fdStates) inRange true fdCloexec
  {st with fdCloexec := markWhere (visited orders.fdCloexec fdCloexec) inRange true fdCloexec}

/-- Forget the descriptors of a range. -/
def removeCloseRangeState (orders : LoopOrders) (targetPID : ℤ) (first last : UInt32) :
    FDStateStore :=
  let inRange := closeRangeKeyInRange targetPID first last
  {st with
    paths := deleteWhere orders.paths (fun key _ => inRange key) st.paths
    offsets := deleteWhere orders.offsets (fun key _ => inRange key) st.offsets
    fdStates := deleteWhere orders.fdStates (fun key _ => inRange key) st.fdStates
    fdCloexec := deleteWhere orders.fdCloexec (fun key _ => inRange key) st.fdCloexec}

/-- Whether an event closes or marks a range of descriptors. -/
def closesRange (view : SyscallEventView) (targetPID : ℤ) : Bool :=
  view.valid && view.eventType==.exit && view.ret==0 && view.probeRetEnter != 3 &&
    decide (0 < targetPID) && decide (view.args[0].toUInt32 ≤ view.args[1].toUInt32) &&
    (view.args[2].toUInt32 &&& ~~~6)==0

/-- Close or mark a range of descriptors. -/
def updateCloseRangeState (orders : LoopOrders) (view : SyscallEventView) (targetPID : ℤ) :
    FDStateStore :=
  if closesRange view targetPID=false then st
  else if view.args[2].toUInt32 &&& 4≠0 then
    st.markCloseRangeCloexec orders targetPID view.args[0].toUInt32 view.args[1].toUInt32
  else st.removeCloseRangeState orders targetPID view.args[0].toUInt32 view.args[1].toUInt32

/-- What an event other than a close of a range records. -/
def recordFDState (update : FDStateUpdate) : FDStateStore :=
  {st with
    paths := (pathWriters update).foldl (runWriter update.targetPID) st.paths
    fdStates := applyWrites (slotKey update.targetPID) st.fdStates
      (mapWrites update.order.states update.resolved.states ++
        updateFDStateObservationFromSource update.source update.name)
    offsets := applyWrites (slotKey update.targetPID) st.offsets
      (updateFDStateOffsetsFromSource update.source update.name)
    fdCloexec := applyWrites (slotKey update.targetPID) st.fdCloexec
      (updateFDCloexecFromSource update.source update.name update.targetPID)}

/-- Record what an event says about descriptors. -/
def applyFDState (update : FDStateUpdate) (orders : LoopOrders) : FDStateStore :=
  if st.tainted=true ∨
      shouldApplyFDStateEvent tables update.source.view update.name
        update.source.payloadSections=false then st
  else if update.name=.closeRange then
    (st.recordFDState update).updateCloseRangeState orders update.source.view update.targetPID
  else st.recordFDState update

/-- Record the offset an event leaves. -/
def applyFDOffsets (view : SyscallEventView) (name : SyscallName) (statePID : ℤ) :
    FDStateStore :=
  if st.tainted=true then st
  else
    let states : Reader FDStateObservation := fun slot => st.fdStates.lookup (slotKey statePID slot)
    {st with offsets := runWriter statePID st.offsets (updateOffsetsFromView name view states)}

/-- Forget a closed descriptor. -/
def cleanupClosedFD (view : SyscallEventView) (name : SyscallName) (statePID : ℤ) :
    FDStateStore :=
  if shouldCleanupClosedFDEvent tables view name=false then st
  else
    let fd := fdArg view.args[0]
    {st with
      paths := applyWrites (slotKey statePID) st.paths [forget fd]
      offsets := applyWrites (slotKey statePID) st.offsets [forget fd]
      fdStates := applyWrites (slotKey statePID) st.fdStates [forget fd]
      fdCloexec := if name=.close then applyWrites (slotKey statePID) st.fdCloexec [forget fd]
        else st.fdCloexec}

/-- Copy the entries of a process to its child. -/
def inheritEntries {V : Type} (order : List String) (parentPID childPID : ℤ)
    (m : GoMap String V) : GoMap String V :=
  copyWhere order (hasPidPrefix parentPID) (inheritedKey parentPID childPID) m

/-- Copy the records of a process to its child. -/
def inheritProcessState (orders : LoopOrders) (parentPID childPID : ℤ) : FDStateStore :=
  if parentPID ≤ 0 ∨ childPID ≤ 0 ∨ parentPID=childPID then st
  else {st with
    paths := inheritEntries orders.paths parentPID childPID st.paths
    offsets := inheritEntries orders.offsets parentPID childPID st.offsets
    fdStates := inheritEntries orders.fdStates parentPID childPID st.fdStates
    fdCloexec := inheritEntries orders.fdCloexec parentPID childPID st.fdCloexec}

/-- Forget the records of a process. -/
def cleanupProcess (orders : LoopOrders) (pid : ℤ) : FDStateStore :=
  {st with
    paths := deleteWhere orders.paths (fun key _ => hasPidPrefix pid key) st.paths
    offsets := deleteWhere orders.offsets (fun key _ => hasPidPrefix pid key) st.offsets
    fdStates := deleteWhere orders.fdStates (fun key _ => hasPidPrefix pid key) st.fdStates
    fdCloexec := deleteWhere orders.fdCloexec (fun key _ => hasPidPrefix pid key) st.fdCloexec}

/-- Whether the records of a key survive an exec. -/
def retainAfterExec (key : String) : Bool :=
  hasSuffix key ":cwd" || st.fdCloexec.lookup key==some false

/-- Forget the descriptors of a process that are not known to survive an exec. -/
def closeOnExecProcess (orders : LoopOrders) (pid : ℤ) : FDStateStore :=
  if pid ≤ 0 then st
  else
    let drops := fun key => hasPidPrefix pid key && !st.retainAfterExec key
    {st with
      paths := deleteWhere orders.paths (fun key _ => drops key) st.paths
      offsets := deleteWhere orders.offsets (fun key _ => drops key) st.offsets
      fdStates := deleteWhere orders.fdStates (fun key _ => drops key) st.fdStates
      fdCloexec := deleteWhere orders.fdCloexec (fun key enabled => hasPidPrefix pid key && enabled)
        st.fdCloexec}

/-- Drop all history after a loss. -/
def taintHistory : FDStateStore := if st.tainted then st else {tainted := true}

/-- Path of a descriptor. -/
def path (pid : ℤ) (fd : Int32) : Option String :=
  if st.tainted then none else st.paths.lookup (slotKey pid (.fd fd))

/-- Working directory of a process. -/
def cwd (pid : ℤ) : Option String :=
  if st.tainted then none else st.paths.lookup (slotKey pid .cwd)

/-- Snapshot of a descriptor. -/
def observation (pid : ℤ) (fd : Int32) : Option FDStateObservation :=
  if st.tainted then none else st.fdStates.lookup (slotKey pid (.fd fd))

/-- Offset a buffer is written to. -/
def bufferFileOffsetFromView (view : SyscallEventView) (name : SyscallName) (statePID : ℤ) :
    Option Int64 :=
  if view.valid=false then none
  else if name=.write then
    if st.tainted then none else st.offsets.lookup (slotKey statePID (.fd (fdArg view.args[0])))
  else if name=.pwrite64 then some view.args[3].toInt64
  else none

end FDStateStore

/-- Working directory known before the first event. -/
def newCwdFDStateSeed (targetPID : ℤ) (cwd : String) : Writes String :=
  if targetPID ≤ 0 ∨ hasPrefix cwd "/"=false then []
  else [⟨.cwd,some (cleanAbsoluteFDStatePath cwd)⟩]

/-- Paths of merged seeds. -/
def seedPaths (seeds : List (ℤ×String)) : GoMap String String :=
  seeds.foldl (fun paths seed =>
    applyWrites (slotKey seed.1) paths (newCwdFDStateSeed seed.1 seed.2)) ∅

/-- Store with the paths and offsets of a snapshot. -/
def newFDStateStoreFromMaps (paths : GoMap String String) (offsets : GoMap String Int64) :
    FDStateStore :=
  {paths := paths,offsets := offsets}

/-- Store with the merged seeds. -/
def newFDStateStoreFromSeed (seeds : List (ℤ×String)) : FDStateStore :=
  newFDStateStoreFromMaps (seedPaths seeds) ∅

/-- Operations of the store. -/
inductive FDStateOp where
  | applyFDState (update : FDStateUpdate)
  | applyFDOffsets (view : SyscallEventView) (name : SyscallName) (statePID : ℤ)
  | cleanupClosedFD (view : SyscallEventView) (name : SyscallName) (statePID : ℤ)
  | inheritProcessState (parentPID childPID : ℤ)
  | cleanupProcess (pid : ℤ)
  | closeOnExecProcess (pid : ℤ)
  | taintHistory

/-- Perform an operation, with the orders of its loops. -/
def FDStateStore.perform (st : FDStateStore) (op : FDStateOp) (orders : LoopOrders) :
    FDStateStore :=
  match op with
  | .applyFDState update => st.applyFDState tables update orders
  | .applyFDOffsets view name statePID => st.applyFDOffsets view name statePID
  | .cleanupClosedFD view name statePID => st.cleanupClosedFD tables view name statePID
  | .inheritProcessState parentPID childPID => st.inheritProcessState orders parentPID childPID
  | .cleanupProcess pid => st.cleanupProcess orders pid
  | .closeOnExecProcess pid => st.closeOnExecProcess orders pid
  | .taintHistory => st.taintHistory

/-- Perform operations in order. -/
def FDStateStore.run (st : FDStateStore) (ops : List (FDStateOp×LoopOrders)) :
    FDStateStore :=
  ops.foldl (fun st op => st.perform tables op.1 op.2) st

end Operations

end StraceGo.FDState

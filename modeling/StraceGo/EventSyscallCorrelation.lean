import StraceGo.EventPayloadStorage

/-!
# Syscall enter and exit correlation

The owner of enter data that must survive until the matching exit. Pending
enters, stored exits, transferred snapshots and payload storages are all
recycled: each lives in a pool, and an operation hands its cell to the next
holder or puts it on the free stack. The operations here follow the source,
cell by cell.
-/

namespace StraceGo.EventSyscallCorrelation

open EventEnvelope FiniteMaps ObjectPool EventPayloadStorage

/-- The scalar data of one syscall enter. -/
structure SyscallEnterData where
  /-- Thread group. -/
  pid : UInt32 := 0
  /-- Thread. -/
  tid : UInt32 := 0
  /-- Syscall number. -/
  sysID : UInt32 := 0
  /-- Time of the enter. -/
  enterTime : UInt64 := 0
  /-- Raw arguments. -/
  args : SyscallArgs := Vector.replicate 6 0
  /-- Enter probe marker. -/
  probeRetEnter : Int32 := 0
  /-- Whether a generic enter contributed. -/
  genericEnterRaw : Bool := false
  /-- Whether the unfinished line has been printed. -/
  unfinishedPrinted : Bool := false
  deriving DecidableEq, Inhabited

/-- Enter data waiting for its exit. -/
structure PendingSyscallState extends SyscallEnterData where
  /-- Owned payload. -/
  payloadStorage : Option Ref := none
  /-- Slice over the owned payload. -/
  payloadSections : Option PayloadSlice := none
  deriving Inhabited

/-- Enter data transferred to the router with its exit. -/
structure PendingSyscallSnapshot extends SyscallEnterData where
  /-- Transferred payload. -/
  payloadStorage : Option Ref := none
  /-- Slice over the transferred payload. -/
  payloadSections : Option PayloadSlice := none
  deriving Inhabited

/-- Content of a zeroed record cell. -/
instance : Inhabited SyscallEventView := ⟨{eventType := .enter : TraceEventEnvelope}.syscallView⟩

/-- An exit that arrived before its enter. -/
structure PendingExitState where
  /-- The exit record. -/
  view : SyscallEventView
  /-- Owned payload. -/
  payloadStorage : Option Ref := none
  /-- Slice over the owned payload. -/
  payloadSections : Option PayloadSlice := none
  deriving Inhabited

/-- Owner of syscall edge data. -/
structure TraceSyscallCorrelationState where
  /-- Open enters by thread. -/
  pendingSyscalls : Table UInt32 PendingSyscallState := {}
  /-- Snapshots held by updates. -/
  snapshots : Pool PendingSyscallSnapshot := {}
  /-- Payload storages. -/
  payload : PayloadPool := {}
  /-- Exits that arrived before their enter, by thread. -/
  pendingExits : Table UInt32 PendingExitState := {}
  /-- Rendered exec arguments by thread. -/
  pendingExecArgs : GoMap ℤ String := ∅
  /-- Names of suspended syscalls by thread. -/
  suspendedSyscalls : GoMap ℤ String := ∅

namespace TraceSyscallCorrelationState

variable (c : TraceSyscallCorrelationState)

/-- Number of unconsumed enters. -/
def pendingCount : ℕ := c.pendingSyscalls.index.keys.card

/-- Take a thread's pending enter out of the map and recycle it with its payload. -/
def releasePendingSyscall (tid : UInt32) : TraceSyscallCorrelationState :=
  match c.pendingSyscalls.lookup tid with
  | none => c
  | some pending =>
    {c with
      payload := releasePayloadStorage c.payload pending.payloadStorage
      pendingSyscalls := c.pendingSyscalls.discard tid}

/-- Pending enter with its scalars and a storage it owns. -/
def pendingWith (data : SyscallEnterData) (pool : PayloadPool) (storage : Option Ref) :
    PendingSyscallState where
  toSyscallEnterData := data
  payloadStorage := storage
  payloadSections := payloadSectionsFromStorage pool storage

/-- Scalars of a pending enter opened by an enter record. -/
def enterData (view : SyscallEventView) : SyscallEnterData where
  pid := view.pid
  tid := view.tid
  sysID := view.sysID
  enterTime := view.enterTime
  args := view.args
  probeRetEnter := view.probeRetEnter
  genericEnterRaw := view.isGenericEnter
  unfinishedPrinted := decide (2 ≤ view.probeRetEnter)

/-- Open a pending enter for a thread that has none. -/
def openPendingSyscall (view : SyscallEventView) (payload : List PayloadSection) :
    TraceSyscallCorrelationState :=
  let (pool,storage) := copyPayloadSectionsIntoStorage c.payload payload
  {c with
    payload := pool
    pendingSyscalls := c.pendingSyscalls.store view.tid (pendingWith (enterData view) pool storage)}

/-- Merge sections into a thread's pending enter and overwrite its scalars. -/
def mergePending (tid : UInt32) (pending : PendingSyscallState) (data : SyscallEnterData)
    (payload : List PayloadSection) : TraceSyscallCorrelationState :=
  let (pool,storage) := mergePayloadSectionsIntoStorage c.payload pending.payloadStorage payload
  {c with
    payload := pool
    pendingSyscalls := c.pendingSyscalls.modify tid (pendingWith data pool storage)}

/-- Scalars of a pending enter after another enter record of the same syscall. -/
def mergedEnterData (data : SyscallEnterData) (view : SyscallEventView) : SyscallEnterData :=
  {data with
    genericEnterRaw := data.genericEnterRaw || view.isGenericEnter
    unfinishedPrinted := data.unfinishedPrinted || decide (2 ≤ view.probeRetEnter)}

/-- Store an enter record; the result says whether a new syscall was opened. -/
def rememberEnterEvent (view : SyscallEventView) (payload : List PayloadSection) :
    TraceSyscallCorrelationState×Bool :=
  match c.pendingSyscalls.lookup view.tid with
  | none => (c.openPendingSyscall view payload,true)
  | some pending =>
    if pending.sysID=view.sysID then
      (c.mergePending view.tid pending
        (mergedEnterData pending.toSyscallEnterData view) payload,false)
    else ((c.releasePendingSyscall view.tid).openPendingSyscall view payload,true)

/-- Merge a partial record into the pending enter of the same syscall. -/
def rememberPayloadFragment (view : SyscallEventView) (payload : List PayloadSection) :
    TraceSyscallCorrelationState :=
  match c.pendingSyscalls.lookup view.tid with
  | none => c
  | some pending =>
    if pending.sysID≠view.sysID then c
    else c.mergePending view.tid pending pending.toSyscallEnterData payload

/-- Give back the payload of an exit taken out of the state. -/
def releasePendingExit (pending : PendingExitState) : TraceSyscallCorrelationState :=
  {c with payload := releasePayloadStorage c.payload pending.payloadStorage}

/-- Take a thread's stored exit, leaving its payload with the caller. -/
def takePendingExitForTID (tid : UInt32) : TraceSyscallCorrelationState×Option PendingExitState :=
  match c.pendingExits.lookup tid with
  | none => (c,none)
  | some pending => ({c with pendingExits := c.pendingExits.discard tid},some pending)

/-- Take a thread's stored exit if it belongs to an enter, else drop it. -/
def takePendingExit (view : SyscallEventView) :
    TraceSyscallCorrelationState×Option PendingExitState :=
  match c.takePendingExitForTID view.tid with
  | (c,none) => (c,none)
  | (c,some pending) =>
    if pending.view.sysID≠view.sysID ∨ pending.view.enterTime≠view.enterTime then
      (c.releasePendingExit pending,none)
    else (c,some pending)

/-- Drop a thread's stored exit. -/
def dropPendingExit (tid : UInt32) : TraceSyscallCorrelationState :=
  match c.takePendingExitForTID tid with
  | (c,none) => c
  | (c,some pending) => c.releasePendingExit pending

/-- Store an exit for a thread that has none. -/
def openPendingExit (view : SyscallEventView) (payload : List PayloadSection) :
    TraceSyscallCorrelationState :=
  let (pool,storage) := copyPayloadSectionsIntoStorage c.payload payload
  {c with
    payload := pool
    pendingExits := c.pendingExits.store view.tid
      {view := view
       payloadStorage := storage
       payloadSections := payloadSectionsFromStorage pool storage}}

/-- Store an exit that has no enter yet, replacing an earlier one of its thread. -/
def rememberPendingExit (view : SyscallEventView) (payload : List PayloadSection) :
    TraceSyscallCorrelationState :=
  (c.dropPendingExit view.tid).openPendingExit view payload

/-- Write a snapshot into a recycled cell. -/
def storeSnapshot (snapshot : PendingSyscallSnapshot) : TraceSyscallCorrelationState×Ref :=
  let (pool,ref) := c.snapshots.acquire
  ({c with snapshots := pool.write ref snapshot},ref)

/-- Snapshot of a pending enter, sharing its payload storage. -/
def acquirePendingSnapshot (pending : PendingSyscallState) : TraceSyscallCorrelationState×Ref :=
  c.storeSnapshot
    {toSyscallEnterData := pending.toSyscallEnterData
     payloadStorage := pending.payloadStorage
     payloadSections := payloadSectionsFromStorage c.payload pending.payloadStorage}

/-- Take a thread's pending enter without its payload, which a snapshot now owns. -/
def detachPending (tid : UInt32) : TraceSyscallCorrelationState :=
  {c with pendingSyscalls := c.pendingSyscalls.discard tid}

/-- Consume the pending enter of an exit record, as a snapshot if it is the same syscall. -/
def consumeEnterEvent (view : SyscallEventView) : TraceSyscallCorrelationState×Option Ref :=
  if view.isExit=false then (c,none)
  else
    match c.pendingSyscalls.lookup view.tid with
    | none => (c,none)
    | some pending =>
      if pending.sysID≠view.sysID then (c.releasePendingSyscall view.tid,none)
      else
        let (c,snapshot) := c.acquirePendingSnapshot pending
        (c.detachPending view.tid,some snapshot)

/-- Snapshot made up from an exit whose enter the producer elides. -/
def synthesizeGenericEnter (view : SyscallEventView) : TraceSyscallCorrelationState×Ref :=
  c.storeSnapshot
    {pid := view.pid
     tid := view.tid
     sysID := view.sysID
     enterTime := view.enterTime
     args := view.args
     probeRetEnter := -1
     genericEnterRaw := true}

/-- Recycle a snapshot and its payload. -/
def releasePendingSnapshot (snapshot : Option Ref) : TraceSyscallCorrelationState :=
  match snapshot with
  | none => c
  | some ref =>
    {c with
      payload := releasePayloadStorage c.payload (c.snapshots.read ref).payloadStorage
      snapshots := c.snapshots.release ref {}}

/-- Store the rendered arguments of an exec. -/
def rememberPendingExecArgs (tid : ℤ) (argLine : String) : TraceSyscallCorrelationState :=
  {c with pendingExecArgs := c.pendingExecArgs.insert tid argLine}

/-- Forget the rendered arguments of an exec. -/
def deletePendingExecArgs (tid : ℤ) : TraceSyscallCorrelationState :=
  {c with pendingExecArgs := c.pendingExecArgs.erase tid}

/-- Remember the name of a suspended syscall. -/
def rememberSuspendedSyscall (tid : ℤ) (name : String) : TraceSyscallCorrelationState :=
  {c with suspendedSyscalls := c.suspendedSyscalls.insert tid name}

/-- Forget a suspended syscall. -/
def deleteSuspendedSyscall (tid : ℤ) : TraceSyscallCorrelationState :=
  {c with suspendedSyscalls := c.suspendedSyscalls.erase tid}

/-- Note that the unfinished line of a pending enter is out. -/
def markUnfinishedPrinted (tid : UInt32) : TraceSyscallCorrelationState :=
  match c.pendingSyscalls.lookup tid with
  | none => c
  | some pending =>
    {c with
      pendingSyscalls := c.pendingSyscalls.modify tid {pending with unfinishedPrinted := true}}

/-- Drop everything kept for a thread. -/
def clearTask (tid : UInt32) : TraceSyscallCorrelationState :=
  let c := (c.deletePendingExecArgs tid.toNat).deleteSuspendedSyscall tid.toNat
  (c.releasePendingSyscall tid).dropPendingExit tid

end TraceSyscallCorrelationState

end StraceGo.EventSyscallCorrelation

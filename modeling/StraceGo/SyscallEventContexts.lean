import StraceGo.DescriptorPaths
import StraceGo.EventPayloadStorage
import StraceGo.TextFastLines
import StraceGo.TraceEventV2Decoder

/-!
# Contexts of syscall events

Everything the outputs know about a syscall is gathered in one context before
its handler runs. An event without captured memory, in a session that filters
nothing, gets its context from a short branch; all others get theirs from a
long one that merges the memory of the enter, overlays the descriptors it
names, decodes the paths and asks the filter. The runner decodes the event and
records its descriptors; what is printed afterwards reads the records.
-/

namespace StraceGo.SyscallEventContexts

open EventEnvelope FiniteMaps EventTaskLifecycle GoText Utf8Text FDStateEvents FDState
open SyscallExitPipeline PathSelection StringRendering DescriptorPaths
open EventPayloadStorage (hasEquivalentPayloadSection TracePayloadStorage)
open JsonSyscallEncoder (Context EventContext Result SyscallView RecordIntegrity Texts decimal)

section Contexts

/-- What the syscall table says about a syscall, with the types of its arguments. -/
structure Syscall extends SyscallMeta where
  /-- Types of the arguments. -/
  argTypes : List String := []

/-- Effects of a syscall, and whether its handler runs for hidden events. -/
structure Traits extends SyscallEventTraits where
  /-- The handler runs. -/
  handler : Bool := false

/-- What was kept of the enter of a syscall. -/
structure PendingSyscallSnapshot where
  /-- Captured memory. -/
  payloadSections : List PayloadSection := []
  /-- Owner of the captured memory. -/
  payloadStorage : Option TracePayloadStorage := none
  /-- The enter was a generic one. -/
  genericEnterRaw : Bool := false
  /-- The enter was printed as unfinished. -/
  unfinishedPrinted : Bool := false

/-- What a handler receives. -/
structure HandlerContext where
  /-- Process. -/
  pid : ℤ
  /-- Thread. -/
  tid : ℤ
  /-- Process of the records. -/
  targetPid : ℤ
  /-- Syscall number. -/
  sysId : UInt32
  /-- Name of the syscall. -/
  sysName : String
  /-- Arguments. -/
  args : SyscallArgs
  /-- Return value. -/
  ret : Int64
  /-- Enter probe marker. -/
  probeRetEnter : Int32
  /-- Exit probe marker. -/
  probeRetExit : Int32
  /-- Captured memory. -/
  payloadSections : List PayloadSection
  /-- Description. -/
  scMeta : Syscall
  /-- Descriptors that the event names. -/
  eventFDView : Option EventFDView
  /-- Options, if there are any. -/
  opts : Option HandlerOptions
  /-- There are records of descriptors. -/
  fdState : Bool

/-- What the outputs know about a syscall. -/
structure SyscallEventContext where
  /-- The record. -/
  view : SyscallEventView
  /-- Process of the records. -/
  statePID : ℤ
  /-- Description. -/
  scMeta : Syscall
  /-- Effects. -/
  traits : Traits
  /-- The effects were taken from the session's table. -/
  traitsBound : Bool
  /-- Decoder of flags. -/
  fdFlags : Option FDFlagDecoder
  /-- Filter, if there is one. -/
  filter : Option TraceFilter
  /-- Text of the path argument. -/
  pathText : String := ""
  /-- Path arguments. -/
  pathArguments : List PathArgument := []
  /-- The event is shown. -/
  shouldPrint : Bool
  /-- What was kept of the enter. -/
  pendingEnter : Option PendingSyscallSnapshot
  /-- What the handler receives. -/
  handlerContext : Option HandlerContext := none
  /-- Captured memory. -/
  payloadSections : List PayloadSection := []
  /-- Descriptors that the event names. -/
  eventFDView : EventFDView := {}
  /-- Descriptors at the return. -/
  returnFDView : EventFDView := {}
  /-- There are descriptors at the return. -/
  hasReturnFDView : Bool := false

/-- What a session gives to the contexts. -/
structure Deps where
  /-- Syscall tables. -/
  tables : SyscallTables
  /-- Names of the arguments of a syscall number. -/
  args : UInt32 → List String := fun _ => []
  /-- Types of the arguments of a syscall number. -/
  argTypes : UInt32 → List String := fun _ => []
  /-- Numbers in the session's copy of the tables, if it has one. -/
  syscallMetadata : Option (UInt32 → Bool) := none
  /-- Renderer of strings. -/
  decoder : Decoder := {}
  /-- Options of the handlers. -/
  handlerOpts : Option HandlerOptions := none
  /-- Filter, if there is one. -/
  filter : Option TraceFilter := none
  /-- The tracer's own working directory. -/
  getwd : Option String := none
  /-- Decoder of flags. -/
  catalog : Option FDFlagDecoder := none
  /-- There are records of descriptors. -/
  fdState : Bool := true
  /-- Whether a syscall has a handler that reads its context. -/
  needsDecode : UInt32 → String → Bool := fun _ _ => true

end Contexts

section Names

/-- Effects of a syscall name. -/
def traitsForName (name : String) : Traits :=
  {syscallEventTraitsForName (syscallName name) with handler := isHandlerName name}

/-- Effects of a syscall number in the table of effects. -/
def traitsByID (tables : SyscallTables) (id : UInt32) : Traits := traitsForName (tables.name id)

/-- Effects of a record; number zero stands for none. -/
def traitsForView (tables : SyscallTables) (view : SyscallEventView) (name : String) : Traits :=
  if view.sysID=0 then traitsForName name
  else if view.sysID < syscallEventTraitTableSize then traitsByID tables view.sysID
  else traitsForName name

/-- Length of the session's copy of the tables. -/
def syscallMetadataTableSize : UInt32 := 512

variable (deps : Deps)

/-- Description of a syscall number. -/
def syscallMeta (sysID : UInt32) : Syscall where
  name := deps.tables.name sysID
  args := deps.args sysID
  argTypes := deps.argTypes sysID

/-- Description and effects of a record, and whether they stand in the session's copy. -/
def lookupSyscallMetadataWithTraits (view : SyscallEventView) : Syscall×Traits×Bool :=
  let scMeta := syscallMeta deps view.sysID
  if (deps.syscallMetadata.any fun present =>
      decide (view.sysID < syscallMetadataTableSize) && present view.sysID) then
    (scMeta,traitsForName scMeta.name,true)
  else (scMeta,traitsForView deps.tables view scMeta.name,false)

namespace SyscallEventContext

variable (ev : SyscallEventContext)

/-- Description of an event, its own or that of the handler. -/
def effectiveSyscallMeta : Syscall :=
  if ev.scMeta.name≠"" then ev.scMeta
  else
    match ev.handlerContext with
    | some ctx =>
      if ctx.scMeta.name≠"" then ctx.scMeta
      else if ctx.sysName≠"" then {name := ctx.sysName}
      else ev.scMeta
    | none => ev.scMeta

/-- Name of an event's syscall. -/
def syscallName : String :=
  if ev.scMeta.name≠"" then ev.scMeta.name else ev.effectiveSyscallMeta.name

/-- Effects of an event. -/
def eventTraits : Traits :=
  if ev.traitsBound then ev.traits
  else if 0 < ev.view.sysID ∧ ev.view.sysID < syscallEventTraitTableSize then
    traitsByID deps.tables ev.view.sysID
  else traitsForView deps.tables ev.view
    (if ev.scMeta.name="" then ev.syscallName else ev.scMeta.name)

/-- Whether an event's handler runs. -/
def shouldRunHandler : Bool := ev.shouldPrint || (ev.eventTraits deps).handler

/-- Whether an event has descriptors to record. -/
def shouldUpdateFDState : Bool :=
  if ev.payloadSections≠[] then true
  else if ev.view.valid=false then false
  else if (ev.eventTraits deps).stateIo then ev.view.ret==8
  else (ev.eventTraits deps).state

/-- Whether an event may leave an offset. -/
def shouldUpdateFDOffsets : Bool :=
  if ev.view.valid=false ∨ ev.view.probeRetEnter=3 ∨ ev.view.ret < 0 then false
  else if (ev.eventTraits deps).creator then true
  else if (ev.eventTraits deps).offset then true
  else if (ev.eventTraits deps).offsetIo then ev.view.ret != 0
  else false

/-- Whether an event closes a descriptor. -/
def shouldCleanupClosedFD : Bool :=
  ev.view.valid && (ev.eventTraits deps).close && ev.view.ret==0

/-- Whether the event was matched with a generic enter. -/
def pairedGenericEnter : Bool := ev.pendingEnter.any fun pending => pending.genericEnterRaw

end SyscallEventContext

end Names

section Builders

/-- Captured memory of an enter that the exit does not repeat, then the exit's own; the enter keeps
the same. -/
def mergePendingPayloadSections (pendingEnter : Option PendingSyscallSnapshot)
    (current : List PayloadSection) : Option PendingSyscallSnapshot×List PayloadSection :=
  match pendingEnter with
  | none => (none,current)
  | some pending =>
    if pending.payloadSections=[] then (some pending,current)
    else if current=[] then (some pending,pending.payloadSections)
    else
      match pending.payloadStorage with
      | some storage =>
        let (storage,merged) := storage.mergeView current
        (some {pending with payloadSections := merged, payloadStorage := some storage},merged)
      | none =>
        let owned :=
          pending.payloadSections.filter (!hasEquivalentPayloadSection current ·) ++ current
        (some {pending with payloadSections := owned},owned)

/-- Descriptors that captured memory names. -/
def eventFDViewFromSections (view : SyscallEventView) (sections : List PayloadSection)
    (order : OverlayOrder) : EventFDView where
  toEventFDStateView := (fdPathOverlayFromSections sections).resolve view order
  cwd := (fdPathOverlayFromSections sections).cwdPath

/-- Path without quotes. -/
def normalizeTrackedFDPath (path : String) : String := unquotePath path

/-- Descriptors once one was duplicated over another, if the path of the old one is known. -/
def dupReturnFDView (eventView : EventFDView) (name : String) (view : SyscallEventView)
    (fdState : Option FDStateStore) (statePID : ℤ) : EventFDView×Bool :=
  if (name≠"dup2" ∧ name≠"dup3") ∨ view.valid=false ∨ view.eventType≠.exit ∨ view.ret < 0 then
    (eventView,false)
  else
    let oldFD := fdArg view.args[0]
    let newFD := fdRet view
    if oldFD=newFD then (eventView,false)
    else
      let path := (eventView.path oldFD).or (fdState.bind fun st => st.path statePID oldFD)
      let observation := (eventView.observation oldFD).or
        (fdState.bind fun st => st.observation statePID oldFD)
      match path with
      | none => (eventView,false)
      | some path =>
        if path="" then (eventView,false)
        else
          ({eventView with
            paths := eventView.paths.insert newFD (normalizeTrackedFDPath path)
            states := match observation with
              | none => eventView.states
              | some observation => eventView.states.insert newFD observation},true)

/-- Descriptors once a signal descriptor was created, if its mask was captured. -/
def signalfdReturnFDView (eventView : EventFDView) (name : String) (view : SyscallEventView)
    (sections : List PayloadSection) : EventFDView×Bool :=
  if view.eventType≠.exit ∨ view.ret < 0 then (eventView,false)
  else if name≠"signalfd" ∧ name≠"signalfd4" then (eventView,false)
  else
    match fdCreatorPolicyFor (syscallName name) with
    | none => (eventView,false)
    | some policy =>
      match (policy ⟨view,sections⟩).path with
      | none => (eventView,false)
      | some path => ({eventView with paths := eventView.paths.insert (fdRet view) path},true)

/-- Whether nothing has to be known about an event. -/
def canUseFastSyscallEventContext (view : SyscallEventView)
    (pendingEnter : Option PendingSyscallSnapshot) (currentPayload : List PayloadSection)
    (filter : Option TraceFilter) : Bool :=
  if view.valid=false ∨ currentPayload≠[] then false
  else if (pendingEnter.any fun pending => !pending.payloadSections.isEmpty) then false
  else filter.all TraceFilter.isUnfiltered

variable (deps : Deps) (ev : SyscallEventContext)

/-- Whether a return value is shown as a descriptor with its path. -/
def handlerContextNeededForReturn : Bool :=
  match deps.handlerOpts with
  | none => false
  | some opts =>
    if opts.showPaths=false then false
    else if JsonSyscallEncoder.isFdReturnSyscall (ascii ev.syscallName) then true
    else isFcntlFDStateSyscall (syscallName ev.syscallName) && isFcntlFDStateCommand ev.view.args

/-- Whether an event gets a context for its handler. -/
def shouldBuildHandlerContext : Bool :=
  if ev.shouldRunHandler deps=false then false
  else if ev.payloadSections≠[] then true
  else if handlerContextNeededForReturn deps ev then true
  else deps.needsDecode ev.view.sysID ev.syscallName

/-- What a handler receives of an event. -/
def newHandlerContext : HandlerContext where
  pid := ev.view.pid.toNat
  tid := ev.view.tid.toNat
  targetPid := ev.statePID
  sysId := ev.view.sysID
  sysName := ev.effectiveSyscallMeta.name
  args := ev.view.args
  ret := ev.view.ret
  probeRetEnter := ev.view.probeRetEnter
  probeRetExit := ev.view.probeRetExit
  payloadSections := ev.payloadSections
  scMeta := ev.effectiveSyscallMeta
  eventFDView := if ev.eventFDView.isEmpty then none else some ev.eventFDView
  opts := deps.handlerOpts
  fdState := deps.fdState

/-- An event with the context for its handler, if it gets one. -/
def withHandlerContext : SyscallEventContext :=
  if shouldBuildHandlerContext deps ev then
    {ev with handlerContext := some (newHandlerContext deps ev)} else ev

variable (st : FDStateStore) (order : OverlayOrder) (view : SyscallEventView) (statePID : ℤ)
  (pendingEnter : Option PendingSyscallSnapshot) (currentPayload : List PayloadSection)

/-- The short branch. -/
def fastSyscallEventContext : SyscallEventContext :=
  let (scMeta,traits,traitsBound) := lookupSyscallMetadataWithTraits deps view
  withHandlerContext deps {
    view := view
    statePID := statePID
    scMeta := scMeta
    traits := traits
    traitsBound := traitsBound
    fdFlags := deps.catalog
    filter := deps.filter
    shouldPrint := true
    pendingEnter := pendingEnter }

/-- Descriptors at the return of an event. -/
def returnFDViewOf (eventView : EventFDView) (name : String) (sections : List PayloadSection) :
    EventFDView×Bool :=
  let signalfd := signalfdReturnFDView eventView name view sections
  if signalfd.2 then signalfd
  else dupReturnFDView eventView name view (if deps.fdState then some st else none) statePID

/-- Whether the filter shows an event. -/
def shouldPrintOf (scMeta : SyscallMeta) (pathArguments : List PathArgument)
    (eventView : EventFDView) (sections : List PayloadSection) : Bool :=
  match deps.filter with
  | none => true
  | some filter =>
    if filter.isUnfiltered then true
    else checkShouldPrintFromView deps.getwd filter (if deps.fdState then st else {}) {
      view := view
      scMeta := scMeta
      pathArguments := pathArguments
      targetPid := statePID
      eventFD := ⟨eventView.paths,eventView.cwd⟩
      payloadSections := sections }

/-- The long branch. -/
def fullSyscallEventContext : SyscallEventContext :=
  let (scMeta,traits,traitsBound) := lookupSyscallMetadataWithTraits deps view
  let (pendingEnter,payloadSections) := mergePendingPayloadSections pendingEnter currentPayload
  let eventFDView := eventFDViewFromSections view payloadSections order
  let returned := returnFDViewOf deps st view statePID eventFDView scMeta.name payloadSections
  let pathArguments :=
    decodePathArguments deps.decoder scMeta.toSyscallMeta ⟨view,payloadSections⟩
  withHandlerContext deps {
    view := view
    statePID := statePID
    scMeta := scMeta
    traits := traits
    traitsBound := traitsBound
    fdFlags := deps.catalog
    filter := deps.filter
    pathText := primaryPathText pathArguments
    pathArguments := pathArguments
    shouldPrint := shouldPrintOf deps st view statePID scMeta.toSyscallMeta pathArguments
      eventFDView payloadSections
    pendingEnter := pendingEnter
    payloadSections := payloadSections
    eventFDView := eventFDView
    returnFDView := returned.1
    hasReturnFDView := returned.2 }

/-- The context of an event. -/
def newSyscallEventContextFromViewWithDeps : SyscallEventContext :=
  if canUseFastSyscallEventContext view pendingEnter currentPayload deps.filter then
    fastSyscallEventContext deps view statePID pendingEnter
  else fullSyscallEventContext deps st order view statePID pendingEnter currentPayload

end Builders

section Runner

/-- Names of the reasons to leave a virtual machine. -/
def kvmExitReasonNames : List String :=
  ["UNKNOWN","EXCEPTION","IO","HYPERCALL","DEBUG","HLT","MMIO","IRQ_WINDOW_OPEN","SHUTDOWN",
    "FAIL_ENTRY","INTR","SET_TPR","TPR_ACCESS","S390_SIEIC","S390_RESET","DCR","NMI",
    "INTERNAL_ERROR","OSI","PAPR_HCALL","S390_UCONTROL","WATCHDOG","S390_TSCH","EPR",
    "SYSTEM_EVENT","S390_STSI","IOAPIC_EOI","HYPERV","ARM_NISV","X86_RDMSR","X86_WRMSR",
    "DIRTY_RING_FULL","AP_RESET_HOLD","X86_BUS_LOCK","XEN","RISCV_SBI","RISCV_CSR","NOTIFY",
    "LOONGARCH_IOCSR","MEMORY_FAULT","TDX","ARM_SEA","ARM_LDST64B","SNP_REQ_CERTS"]

/-- Name of a reason to leave a virtual machine. -/
def kvmExitReasonName (reason : UInt32) : Bytes :=
  ascii ("KVM_EXIT_" ++ kvmExitReasonNames.getD reason.toNat "???")

/-- A result with one more text behind its return value. -/
def appendReturnDesc (res : Result) (description : Bytes) : Result :=
  {res with returnDesc :=
    if res.returnDesc=[] then description else res.returnDesc ++ ascii ", " ++ description}

/-- Result with the reason to leave a virtual machine. -/
def decorateKVMResult (res : Result) (name : String) (view : SyscallEventView) : Result :=
  if name≠"ioctl" ∨ view.eventType≠.exit ∨ view.ret < 0 ∨ view.args[1]≠0xae80 ∨
      view.eventFlags &&& 64=0 then res
  else appendReturnDesc res (kvmExitReasonName view.kvmExitReason)

/-- Flags, names and places of the namespaces in their snapshot. -/
def namespaceFields : List (UInt64×String×ℕ) :=
  [(0x202000000,"cgroup",8),(0x08000000,"ipc",12),(0x00020000,"mnt",16),(0x40000000,"net",20),
    (0x20000000,"pid",24),(0x80,"time",28),(0x04000000,"uts",32),(0x10000000,"user",36)]

/-- Snapshot of namespaces among the sections. -/
def namespaceSnapshotData (sections : List PayloadSection) : Option (List UInt8) :=
  (sections.find? fun s => s.kind==.taskNamespace && s.direction==.output &&
    s.argIndex==0xfffb && s.probeRet==0 && s.copiedLen==40 && s.data.length==40).map (·.data)

/-- Text of the namespaces of a new task. -/
def namespaceReturnDescription (ctx : HandlerContext) : String :=
  if ctx.ret < 0 then ""
  else
    match namespaceSnapshotData ctx.payloadSections with
    | none => ""
    | some data =>
      ", ".intercalate (namespaceFields.filterMap fun field =>
        if uint64At data 0 &&& field.1=0 ∨ uint32At data field.2.2=0 then none
        else some (field.2.1 ++ ":[" ++ toString (uint32At data field.2.2).toNat ++ "]"))

/-- Result with the namespaces of a new task. -/
def decorateNamespaceResult (res : Result) (ctx : HandlerContext) : Result :=
  if namespaceReturnDescription ctx="" then res
  else appendReturnDesc res (ascii (namespaceReturnDescription ctx))

/-- What the runner and the renderers call. -/
structure Ports where
  /-- Handler of a syscall; it may read the records. -/
  handle : String → HandlerContext → FDStateStore → Result
  /-- Text of an error number. -/
  errnoText : ℕ → Bytes := fun _ => []
  /-- Name of an error number. -/
  errnoName : ℕ → Option Bytes := fun _ => none

variable (deps : Deps) (ports : Ports) (st : FDStateStore) (ev : SyscallEventContext)

/-- What an event records. -/
def fdStateUpdate (order : OverlayOrder) : FDStateUpdate where
  source := ⟨ev.view,ev.payloadSections⟩
  name := syscallName ev.effectiveSyscallMeta.name
  flagDecoder := ev.fdFlags
  pathText := ev.pathText
  targetPID := ev.statePID
  order := order

/-- The records after an event. -/
def update (order : OverlayOrder) (orders : LoopOrders) : FDStateStore :=
  if ev.shouldUpdateFDState deps then
    st.applyFDState deps.tables (fdStateUpdate ev order) orders else st

/-- Arguments of an unknown syscall. -/
def formatUnknownSyscallArguments (view : SyscallEventView) : Result :=
  {argParts := view.args.toList.map fun argument => ascii ("0x" ++ hex argument.toNat)}

/-- Result of an event, and whether it is shown. -/
def handle : Result×Bool :=
  if hasPrefix ev.syscallName "syscall_0x" then
    (formatUnknownSyscallArguments ev.view,ev.shouldPrint)
  else
    match ev.handlerContext with
    | none => (decorateKVMResult {} ev.syscallName ev.view,ev.shouldPrint)
    | some ctx =>
      if ev.shouldRunHandler deps=false then ({},false)
      else
        let res := ports.handle ev.syscallName ctx st
        (decorateKVMResult (decorateNamespaceResult res ctx) ev.syscallName ev.view,
          ev.shouldPrint)

/-- The records once an event is finished. -/
def finalize : FDStateStore :=
  let name := syscallName ev.effectiveSyscallMeta.name
  let st := if ev.shouldUpdateFDOffsets deps then
    st.applyFDOffsets ev.view name ev.statePID else st
  if ev.shouldCleanupClosedFD deps then
    st.cleanupClosedFD deps.tables ev.view name ev.statePID else st

end Runner

section Rendering

/-- Name of a domain. -/
def domainName : IntegrityDomain → Bytes
  | .fdState => ascii "fd_state"
  | .lifecycle => ascii "lifecycle"
  | .outputState => ascii "output_state"
  | .syscallCorrelation => ascii "syscall_correlation"

/-- Integrity stamp, as the renderers see it. -/
def renderedIntegrity (integrity : TraceRecordIntegrity) : RecordIntegrity where
  epoch := integrity.epoch
  correlationTainted := integrity.correlationTainted
  unsequenced := integrity.unsequenced
  domains := integrity.domains.map fun domains => domains.map domainName
  cpu := integrity.cpu
  sequence := integrity.sequence
  lossEpoch := integrity.lossEpoch
  record := integrity.record
  tainted := integrity.tainted

/-- A record, as the renderers see it. -/
def renderedView (view : SyscallEventView) : SyscallView where
  integrity := renderedIntegrity view.integrity
  eventVersion := view.eventVersion
  eventType := TraceEventV2Decoder.bpfEventType view.eventType
  eventFlags := view.eventFlags
  pid := view.pid
  tid := view.tid
  sysID := view.sysID
  args := view.args
  ret := view.ret
  duration := view.duration
  enterTime := view.enterTime
  stackID := view.stackID
  probeRetEnter := view.probeRetEnter
  probeRetExit := view.probeRetExit

/-- Name of a decoder class. -/
def kindName : PayloadKind → Bytes
  | .string => ascii "string"
  | .bytes => ascii "bytes"
  | .struct => ascii "struct"
  | .iovec => ascii "iovec"
  | .sockaddr => ascii "sockaddr"
  | .execArgs => ascii "exec_args"
  | .cmsg => ascii "cmsg"
  | .fdState => ascii "fd_state"
  | .fdPath => ascii "fd_path"
  | .eventFDState => ascii "eventfd_state"
  | .taskNamespace => ascii "namespace"
  | .pidNamespace => ascii "pid_namespace"

/-- Captured memory, as the renderers see it. -/
def renderedSection (captured : PayloadSection) : JsonSyscallEncoder.PayloadSection where
  kind := kindName captured.kind
  direction := if captured.direction=.input then ascii "in" else ascii "out"
  argIndex := Int64.ofInt captured.argIndex
  userPtr := captured.userPtr
  userLen := captured.userLen
  copiedLen := captured.copiedLen
  probeRet := captured.probeRet
  data := some captured.data

/-- What a handler receives, as the renderers see it. -/
def renderedContext (ctx : HandlerContext) : Context EventFDView where
  args := ctx.args
  showPaths := ctx.opts.map fun opts => opts.showPaths
  scMetaName := ascii ctx.scMeta.name
  sysName := ascii ctx.sysName
  payloadSections := ctx.payloadSections.map renderedSection
  eventFDView := ctx.eventFDView

/-- Arguments of a description, as the renderers see them. -/
def renderedSignature (scMeta : Syscall) : TextLines.Signature where
  args := scMeta.args.map ascii
  argTypes := scMeta.argTypes.map ascii

variable (ports : Ports) (st : FDStateStore) (ev : SyscallEventContext)

/-- An event, as the renderer of text sees it. -/
def rendered : TextLines.SyscallEvent EventFDView where
  view := renderedView ev.view
  metaName := ascii ev.scMeta.name
  pendingEnter := ev.pendingEnter.map fun pending => pending.genericEnterRaw
  handlerContext := ev.handlerContext.map renderedContext
  payloadSections := ev.payloadSections.map renderedSection
  returnFDView := ev.returnFDView
  hasReturnFDView := ev.hasReturnFDView
  comm := ascii ev.view.comm
  unfinishedPrinted := ev.pendingEnter.any fun pending => pending.unfinishedPrinted
  signature := renderedSignature ev.scMeta
  handlerSignature := (ev.handlerContext.map fun ctx => renderedSignature ctx.scMeta).getD {}

/-- What the text of a descriptor is made from, for an event. -/
def readersOf (ctx : HandlerContext) (eventFDView : Option EventFDView) : FDReaders where
  opts := ctx.opts
  targetPid := ctx.targetPid
  pid := ctx.pid
  eventFDView := eventFDView
  fdStateView := if ctx.fdState then some st else none

/-- Texts that the renderers take from the records. -/
def textsOf : Texts EventFDView where
  formatFdWithPath context fd :=
    match ev.handlerContext with
    | none => ascii (fdText fd)
    | some ctx => ascii (formatFdWithPath (readersOf st ctx context.eventFDView) fd)
  errnoText := ports.errnoText
  errnoName := ports.errnoName
  emptyView := EventFDView.isEmpty

end Rendering

end StraceGo.SyscallEventContexts

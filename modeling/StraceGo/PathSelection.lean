import StraceGo.SyscallExitPipeline
import StraceGo.SyscallFilterPushdown
import StraceGo.StringRendering

/-!
# Selection by path

Events are selected by the paths they name: those of their descriptors and
those of their arguments, the latter in the text that is shown. The same text
reaches the descriptor store. Two sessions that differ only in how they show
strings select the same events and keep the same store as long as both render
the paths that are read for this alike.
-/

namespace StraceGo.PathSelection

open EventEnvelope FiniteMaps EventTaskLifecycle GoText FDStateEvents FDState FDStateTable
open SyscallExitPipeline StringRendering
open SyscallFilterPushdown (CliTraceFilter)

section Arguments

/-- What the syscall table says about a syscall. -/
structure SyscallMeta where
  /-- Name. -/
  name : String
  /-- Names of the arguments. -/
  args : List String := []

/-- Whether an argument's name is that of a path. -/
def isPrimaryPathArgName (name : String) : Bool :=
  ["filename","pathname","path","oldname","newname","oldpath","newpath","from_pathname",
    "to_pathname","fs_name"].contains name

/-- Whether an argument's name is that of a descriptor. -/
def isFdArgName (name : String) : Bool :=
  ["fd","dfd","fildes","oldfd","newfd"].contains name || hasSuffix name "fd" ||
    hasSuffix name "_fd"

/-- Whether a syscall has a path argument. -/
def syscallHasPathArg (scMeta : SyscallMeta) : Bool :=
  scMeta.name=="fsconfig" || scMeta.args.any isPrimaryPathArgName

/-- First path argument, among six. -/
def primaryPathArgIndex (scMeta : SyscallMeta) : Option ℕ :=
  (scMeta.args.take 6).findIdx? isPrimaryPathArgName

/-- Path argument of a syscall with one captured path. -/
def simplePathPayloadArgIndex (scName : String) : Option ℕ :=
  if ["open","creat","access","chdir","chroot","chmod","chown","lchown","mkdir","mknod","rmdir",
      "unlink","swapon","swapoff","acct","truncate","fsopen"].contains scName then some 0
  else if ["mkdirat","mknodat","chmodat","fchmodat","faccessat","faccessat2","unlinkat","fchownat",
      "fspick","open_tree"].contains scName then some 1
  else none

/-- Path arguments of a syscall, as far as its name tells. -/
def pathFilterArgIndices (scName : String) (args : SyscallArgs) : List ℕ :=
  if ["move_mount","renameat","renameat2","linkat"].contains scName then [1,3]
  else if ["rename","link","mount","pivot_root"].contains scName then [0,1]
  else if scName="symlink" then [1]
  else if scName="symlinkat" then [2]
  else if scName="fsconfig" then
    if args[1].toUInt32=3 ∨ args[1].toUInt32=4 then [3] else []
  else (simplePathPayloadArgIndex scName).toList

/-- Path arguments of an event. -/
def pathArgumentIndices (scMeta : SyscallMeta) (args : SyscallArgs) : List ℕ :=
  let indices := pathFilterArgIndices scMeta.name args
  let indices := if indices=[] ∧ syscallHasPathArg scMeta=true then
    (primaryPathArgIndex scMeta).toList else indices
  indices.filter fun index => decide (index < scMeta.args.length) && decide (index < 6)

/-- An argument's value. -/
def argument (args : SyscallArgs) (index : ℕ) : UInt64 := args.toList.getD index 0

/-- A path argument with the descriptor it is relative to. -/
structure PathArgument where
  /-- Text. -/
  text : String
  /-- Directory. -/
  dirFD : Int32

/-- Descriptor a path argument is relative to. -/
def pathArgumentDirFD (scMeta : SyscallMeta) (args : SyscallArgs) (pathIndex : ℕ) : Int32 :=
  if scMeta.name="fsconfig" then fdArg args[4]
  else if 0 < pathIndex ∧ pathIndex-1 < scMeta.args.length ∧
      isFdArgName (scMeta.args.getD (pathIndex-1) "")=true then
    fdArg (argument args (pathIndex-1))
  else atFdcwd

/-- Captured string of an argument. -/
def stringPayloadSection (payloadSections : List PayloadSection) (argIndex : ℕ) :
    Option PayloadSection :=
  payloadSections.find? fun s => s.kind==.string && s.direction==.input &&
    s.argIndex==(argIndex : ℤ) && s.probeRet==0 && !s.data.isEmpty

variable (d : Decoder)

/-- Text of a path argument. -/
def pathArgumentText (source : FDStateSource) (argIndex : ℕ) : String :=
  match stringPayloadSection source.payloadSections argIndex with
  | some s => d.decodeString s.userPtr s.data s.probeRet 0
  | none => d.decodeString (argument source.view.args argIndex) [] (-1) 0

/-- Path arguments of an event with their texts. -/
def decodePathArguments (scMeta : SyscallMeta) (source : FDStateSource) : List PathArgument :=
  (pathArgumentIndices scMeta source.view.args).map fun index =>
    ⟨pathArgumentText d source index,pathArgumentDirFD scMeta source.view.args index⟩

/-- Text of the first path argument. -/
def primaryPathText (paths : List PathArgument) : String :=
  match paths with
  | [] => ""
  | path::_ => path.text

end Arguments

section Matching

/-- Paths an event carries itself. -/
structure EventFDPaths where
  /-- Paths of descriptors. -/
  paths : GoMap Int32 String := ∅
  /-- Working directory, empty without one. -/
  cwd : String := ""

/-- Paths an event carries itself, from its payload. -/
def eventFDViewFromSections (source : FDStateSource) (order : OverlayOrder) : EventFDPaths where
  paths := ((fdPathOverlayFromSections source.payloadSections).resolve source.view order).paths
  cwd := (fdPathOverlayFromSections source.payloadSections).cwdPath

/-- Text between quotes. -/
def unquotePath (path : String) : String :=
  let text := path.toList
  if 2 ≤ text.length ∧ text.head?=some (Char.ofNat 34) ∧ text.getLast?=some (Char.ofNat 34) then
    String.ofList (text.drop 1).dropLast
  else path

/-- Whether a path is a traced path or lies below it. -/
def pathMatchesTracePath (getwd : Option String) (path tracePath : String) : Bool :=
  if path==tracePath || hasPrefix path (tracePath ++ "/") then true
  else
    let absTracePath := if hasPrefix tracePath "/" then tracePath
      else match getwd with
        | some cwd => cwd ++ "/" ++ tracePath
        | none => tracePath
    path==absTracePath || hasPrefix path (absTracePath ++ "/")

/-- Whether a path lies below some traced path. -/
def tracePathsMatch (getwd : Option String) (tracePaths : Finset String) (path : String) : Bool :=
  decide (∃ tracePath∈tracePaths, pathMatchesTracePath getwd (unquotePath path) tracePath=true)

/-- Whether an argument's text holds a path. -/
def usablePathArgument (pathArg : PathArgument) : Bool :=
  pathArg.text != "" && pathArg.text != "NULL" && !hasPrefix pathArg.text "0x"

variable (pid : ℤ) (fdState : FDStateStore) (eventFD : EventFDPaths)

/-- Paths of descriptors; what the event carries comes first. -/
def fdCandidatePaths (fds : List Int32) : List String :=
  fds.filterMap fun fd =>
    if fd = -1 then none else (eventFD.paths.lookup fd).or (fdState.path pid fd)

/-- Directory a relative path starts from, empty if it is not known. -/
def relativePathBase (baseFd : Int32) : String :=
  if baseFd≠ -1 ∧ baseFd≠ -100 then
    ((eventFD.paths.lookup baseFd).or (fdState.path pid baseFd)).getD ""
  else if (fdState.cwd pid).getD ""≠"" then (fdState.cwd pid).getD ""
  else eventFD.cwd

/-- Paths an argument may stand for. -/
def pathArgumentCandidates (pathArg : PathArgument) : List String :=
  if usablePathArgument pathArg=false then []
  else
    let path := unquotePath pathArg.text
    if hasPrefix path "/" then [path]
    else
      let base := relativePathBase pid fdState eventFD pathArg.dirFD
      if base≠"" then [path,base ++ "/" ++ path] else [path,path]

/-- Whether an event names a traced path. -/
def matchPath (getwd : Option String) (tracePaths : Finset String) (fds : List Int32)
    (pathArguments : List PathArgument) : Bool :=
  if tracePaths=∅ then true
  else
    (fdCandidatePaths pid fdState eventFD fds ++
      pathArguments.flatMap (pathArgumentCandidates pid fdState eventFD)).any
        (tracePathsMatch getwd tracePaths)

end Matching

section Filter

/-- Number that stands for every descriptor. -/
def traceAllFDs : Int32 := -1

/-- The session's filter. -/
structure TraceFilter where
  /-- Every enter is written for debugging. -/
  debug : Bool := false
  /-- Selected syscalls. -/
  syscalls : CliTraceFilter
  /-- Traced descriptors. -/
  traceFDs : Finset Int32 := ∅
  /-- Descriptors were given. -/
  traceFDsConfigured : Bool := false
  /-- All others are traced. -/
  traceFDsNegated : Bool := false
  /-- Descriptors whose reads are dumped. -/
  traceReadFDs : Finset Int32 := ∅
  /-- Reads of all others are dumped. -/
  traceReadNegated : Bool := false
  /-- Descriptors whose writes are dumped. -/
  traceWriteFDs : Finset Int32 := ∅
  /-- Writes of all others are dumped. -/
  traceWriteNegated : Bool := false
  /-- Traced paths. -/
  tracePaths : Finset String := ∅

/-- Whether a descriptor is among some, or among all others. -/
def matchTraceFD (fd : Int32) (values : Finset Int32) (negated : Bool) : Bool :=
  if negated then decide (traceAllFDs∉values ∧ fd∉values)
  else decide (traceAllFDs∈values ∨ fd∈values)

namespace TraceFilter

variable (filter : TraceFilter)

/-- Whether the filter selects every event. -/
def isUnfiltered : Bool :=
  (!filter.syscalls.traceConfigured || filter.syscalls.traceMatchesAll) &&
    !filter.traceFDsConfigured && decide (filter.traceReadFDs=∅) && !filter.traceReadNegated &&
    decide (filter.traceWriteFDs=∅) && !filter.traceWriteNegated && decide (filter.tracePaths=∅)

/-- Whether some descriptor is traced. -/
def matchFDs (fds : List Int32) : Bool :=
  if filter.traceFDsConfigured=false then false
  else
    let valid := fds.filter fun fd => decide (0 ≤ fd)
    let listed := fun fd => decide (traceAllFDs∈filter.traceFDs ∨ fd∈filter.traceFDs)
    if filter.traceFDsNegated then valid.any fun fd => !listed fd else valid.any listed

end TraceFilter

/-- Descriptors of a poll among the sections. -/
def pollPayloadFDs (scName : String) (payloadSections : List PayloadSection) : List Int32 :=
  if scName≠"poll" ∧ scName≠"ppoll" then []
  else
    match payloadSections.find? fun s => s.kind==.struct && s.direction==.input &&
        s.argIndex==0 && s.probeRet==0 with
    | some s => (List.range (s.data.length/8)).map fun i => (uint32At s.data (8*i)).toInt32
    | none => []

/-- Descriptors of a set. -/
def selectFDsFromData (data : List UInt8) (nfds : ℤ) : List Int32 :=
  ((List.range (min nfds (min (data.length*8) (128*8) : ℕ)).toNat).filter fun fd =>
    (data.getD (fd/8) 0).toNat.testBit (fd%8)).map fun fd => Int32.ofNat fd

/-- Descriptors of a select among the sections. -/
def selectPayloadFDs (scName : String) (args : SyscallArgs)
    (payloadSections : List PayloadSection) : List Int32 :=
  if scName≠"select" ∧ scName≠"_newselect" then []
  else if (fdArg args[0]).toInt ≤ 0 then []
  else
    (payloadSections.filter fun s => s.kind==.bytes && s.direction==.input &&
      decide (1 ≤ s.argIndex) && decide (s.argIndex ≤ 3) && s.probeRet==0).flatMap fun s =>
        selectFDsFromData s.data (fdArg args[0]).toInt

/-- Descriptor of a file system configuration. -/
def fsconfigPayloadFDs (scName : String) (args : SyscallArgs) : List Int32 :=
  if scName≠"fsconfig" then []
  else if args[1].toUInt32=3 ∨ args[1].toUInt32=4 ∨ args[1].toUInt32=5 then [fdArg args[4]]
  else []

/-- What the filter looks at. -/
structure PrintFilterRequest where
  /-- The event. -/
  view : SyscallEventView
  /-- Its syscall. -/
  scMeta : SyscallMeta
  /-- Its path arguments. -/
  pathArguments : List PathArgument
  /-- Its process. -/
  targetPid : ℤ
  /-- Paths it carries itself. -/
  eventFD : EventFDPaths
  /-- Its payload. -/
  payloadSections : List PayloadSection

namespace PrintFilterRequest

variable (req : PrintFilterRequest)

/-- Descriptors an event names, minus one without any. -/
def candidateFDs : List Int32 :=
  let named := (req.scMeta.args.zipIdx.filter fun arg =>
    !(req.scMeta.name=="fsconfig" && arg.2==0) && isFdArgName arg.1).map fun arg =>
      fdArg (argument req.view.args arg.2)
  let fds := named ++ (pollPayloadFDs req.scMeta.name req.payloadSections ++
    selectPayloadFDs req.scMeta.name req.view.args req.payloadSections ++
    fsconfigPayloadFDs req.scMeta.name req.view.args)
  if fds=[] then [-1] else fds

/-- Whether a read or a write is to be dumped. -/
def matchesReadWriteFD (filter : TraceFilter) : Bool :=
  req.candidateFDs.any fun fd =>
    req.scMeta.name=="read" && matchTraceFD fd filter.traceReadFDs filter.traceReadNegated ||
      req.scMeta.name=="write" && matchTraceFD fd filter.traceWriteFDs filter.traceWriteNegated

end PrintFilterRequest

/-- How the parts of a filter work together. -/
def filtersMatch (matchedPath matchedFD requestedRW : Bool) (filter : TraceFilter) : Bool :=
  if filter.tracePaths=∅ ∧ filter.traceFDsConfigured=false then true
  else decide (filter.tracePaths≠∅) && matchedPath || filter.traceFDsConfigured && matchedFD ||
    requestedRW

/-- Whether a filter selects an event. -/
def checkShouldPrintFromView (getwd : Option String) (filter : TraceFilter)
    (fdState : FDStateStore) (req : PrintFilterRequest) : Bool :=
  filter.syscalls.matchSyscall req.scMeta.name &&
    filtersMatch
      (matchPath req.targetPid fdState req.eventFD getwd filter.tracePaths req.candidateFDs
        req.pathArguments)
      (filter.matchFDs req.candidateFDs) (req.matchesReadWriteFD filter) filter

end Filter

section Sessions

/-- What a session knows besides its decoder. -/
structure Session where
  /-- Syscall tables. -/
  tables : SyscallTables
  /-- What is written. -/
  policy : OutputPolicy := {}
  /-- Filter, if there is one. -/
  filter : Option TraceFilter := none
  /-- The tracer's own working directory. -/
  getwd : Option String := none
  /-- Whether there is a context for an event's handler. -/
  handlerContext : FDStateStore → SyscallEvent → Bool := fun _ _ => true

/-- A syscall event with its captured memory, before any text is made of it. -/
structure TracedEvent where
  /-- Its syscall. -/
  scMeta : SyscallMeta
  /-- The record with its payload. -/
  source : FDStateSource
  /-- Decoder of flags. -/
  fdFlags : Option FDFlagDecoder := none
  /-- Process. -/
  statePID : ℤ
  /-- Orders of the loops over what the event carries. -/
  order : OverlayOrder := {}

/-- What reaches a session. -/
inductive TracedInput where
  | syscallEnter (ev : TracedEvent)
  | syscallExit (ev : TracedEvent)
  | lifecycle (view : LifecycleEventView) (task : Option TaskState)
  | inherit (parentPID childPID : ℤ)
  | historyLost

namespace Session

variable (s : Session) (d : Decoder)

/-- Whether nothing has to be known about an event. -/
def canUseFastSyscallEventContext (ev : TracedEvent) : Bool :=
  ev.source.view.valid && ev.source.payloadSections.isEmpty &&
    s.filter.all TraceFilter.isUnfiltered

/-- Path text of an exit. -/
def pathText (ev : TracedEvent) : String :=
  if s.canUseFastSyscallEventContext ev then ""
  else primaryPathText (decodePathArguments d ev.scMeta ev.source)

/-- An exit, as the pipeline receives it. -/
def context (ev : TracedEvent) : SyscallEvent where
  name := ev.scMeta.name
  source := ev.source
  fdFlags := ev.fdFlags
  pathText := s.pathText d ev
  statePID := ev.statePID
  order := ev.order

/-- Whether an exit is selected. -/
def shouldPrint (st : FDStateStore) (ev : TracedEvent) : Bool :=
  match s.filter with
  | none => true
  | some filter =>
    if filter.isUnfiltered then true
    else checkShouldPrintFromView s.getwd filter st {
      view := ev.source.view
      scMeta := ev.scMeta
      pathArguments := decodePathArguments d ev.scMeta ev.source
      targetPid := ev.statePID
      eventFD := eventFDViewFromSections ev.source ev.order
      payloadSections := ev.source.payloadSections}

/-- Whether an enter is written for debugging; its path arguments are not looked at. -/
def shouldEmitRawEnter (st : FDStateStore) (ev : TracedEvent) : Bool :=
  match s.filter with
  | none => false
  | some filter =>
    if filter.debug then true
    else checkShouldPrintFromView s.getwd filter st {
      view := ev.source.view
      scMeta := ev.scMeta
      pathArguments := []
      targetPid := ev.statePID
      eventFD := eventFDViewFromSections ev.source ev.order
      payloadSections := []}

/-- Whether an input is selected. -/
def selects (st : FDStateStore) : TracedInput → Bool
  | .syscallEnter ev => s.shouldEmitRawEnter st ev
  | .syscallExit ev => s.shouldPrint d st ev
  | _ => false

/-- What an input does to the store. -/
def storeOperations (st : FDStateStore) : TracedInput → List FDStateOp
  | .syscallEnter _ => []
  | .syscallExit ev =>
    operations s.tables s.policy ⟨fun st _ => s.shouldPrint d st ev,s.handlerContext⟩ st
      (.syscallExit (s.context d ev))
  | .lifecycle view task => handleLifecycle view task
  | .inherit parentPID childPID => [.inheritProcessState parentPID childPID]
  | .historyLost => [.taintHistory]

/-- What an input does to the store, with the orders of its loops. -/
def ordered (st : FDStateStore) (input : TracedInput×LoopOrders) : List (FDStateOp×LoopOrders) :=
  (s.storeOperations d st input.1).map fun op => (op,input.2)

/-- Process inputs in their order: the verdict on each and the store after it. -/
def run : FDStateStore → List (TracedInput×LoopOrders) → List (Bool×FDStateStore)
  | _,[] => []
  | st,input::rest =>
    (s.selects d st input.1,st.run s.tables (s.ordered d st input))::
      run (st.run s.tables (s.ordered d st input)) rest

/-- The loops of every operation visit their maps. -/
def CoveredInputs : FDStateStore → List (TracedInput×LoopOrders) → Prop
  | _,[] => True
  | st,input::rest =>
    CoveredRun s.tables st (s.ordered d st input) ∧
      CoveredInputs (st.run s.tables (s.ordered d st input)) rest

/-- Whether events are selected by their paths. -/
def tracesPaths : Bool :=
  match s.filter with
  | none => false
  | some filter => decide (filter.tracePaths≠∅)

end Session

end Sessions

section Agreement

/-- Whether the store reads the path text of an event: that of a path that was opened or made the
working directory. -/
def readsPathText (view : SyscallEventView) (name : SyscallName) : Bool :=
  view.valid && (decide (0 ≤ view.ret) && isOpenedPathFDStateSyscall name ||
    decide (view.ret=0) && decide (name=.chdir))

/-- Two modes render the captured string of an argument alike. -/
def ArgumentAlike (m n : ℤ) (payloadSections : List PayloadSection) (argIndex : ℕ) : Prop :=
  ∀ s∈stringPayloadSection payloadSections argIndex,
    s.userPtr≠0 → RendersAlike m n s.data s.probeRet

/-- Two modes render alike what is read of an input: the path arguments, where paths are traced,
and the first one, where the store takes it. -/
def Session.ReadAlike (s : Session) (m n : ℤ) : TracedInput → Prop
  | .syscallExit ev =>
    (s.tracesPaths=true → ∀ i∈pathArgumentIndices ev.scMeta ev.source.view.args,
      ArgumentAlike m n ev.source.payloadSections i) ∧
    (readsPathText ev.source.view (syscallName ev.scMeta.name)=true →
      ∀ i∈(pathArgumentIndices ev.scMeta ev.source.view.args).head?,
        ArgumentAlike m n ev.source.payloadSections i)
  | _ => True

variable {d e : Decoder}

/-- Decoders that render a captured string alike give its argument the same text. -/
theorem pathArgumentText_eq {source : FDStateSource} {argIndex : ℕ}
    (h : ArgumentAlike d.hexEscapeMode e.hexEscapeMode source.payloadSections argIndex) :
    pathArgumentText d source argIndex=pathArgumentText e source argIndex := by
  unfold pathArgumentText
  unfold ArgumentAlike at h
  cases hsection : stringPayloadSection source.payloadSections argIndex with
  | none => rfl
  | some s =>
    dsimp only
    by_cases hptr : s.userPtr=0
    · unfold Decoder.decodeString
      rw [if_pos hptr,if_pos hptr]
    · exact (decodeString_eq_iff d e hptr s.data s.probeRet).mpr (h s hsection hptr)

theorem decodePathArguments_eq {scMeta : SyscallMeta} {source : FDStateSource}
    (h : ∀ i∈pathArgumentIndices scMeta source.view.args,
      ArgumentAlike d.hexEscapeMode e.hexEscapeMode source.payloadSections i) :
    decodePathArguments d scMeta source=decodePathArguments e scMeta source := by
  unfold decodePathArguments
  refine List.map_congr_left fun i hi => ?_
  rw [pathArgumentText_eq (h i hi)]

theorem primaryPathText_eq {scMeta : SyscallMeta} {source : FDStateSource}
    (h : ∀ i∈(pathArgumentIndices scMeta source.view.args).head?,
      ArgumentAlike d.hexEscapeMode e.hexEscapeMode source.payloadSections i) :
    primaryPathText (decodePathArguments d scMeta source)=
      primaryPathText (decodePathArguments e scMeta source) := by
  unfold decodePathArguments
  cases hindices : pathArgumentIndices scMeta source.view.args with
  | nil => rw [List.map_nil,List.map_nil]
  | cons index rest =>
    rw [hindices] at h
    exact pathArgumentText_eq (h index rfl)

variable (s : Session)

/-- Path arguments do not matter to a filter without paths. -/
theorem matchPath_of_empty (pid : ℤ) (st : FDStateStore) (eventFD : EventFDPaths)
    (getwd : Option String) {tracePaths : Finset String} (h : tracePaths=∅) (fds : List Int32)
    (pathArguments : List PathArgument) :
    matchPath pid st eventFD getwd tracePaths fds pathArguments=true :=
  if_pos h

/-- Decoders that render what is read alike select the same exits. -/
theorem shouldPrint_eq {ev : TracedEvent}
    (h : s.ReadAlike d.hexEscapeMode e.hexEscapeMode (.syscallExit ev)) (st : FDStateStore) :
    s.shouldPrint d st ev=s.shouldPrint e st ev := by
  have htraced := h.1
  unfold Session.shouldPrint
  unfold Session.tracesPaths at htraced
  cases hfilter : s.filter with
  | none => rfl
  | some filter =>
    rw [hfilter] at htraced
    dsimp only at htraced ⊢
    by_cases hpaths : filter.tracePaths=∅
    · unfold checkShouldPrintFromView
      dsimp only [PrintFilterRequest.candidateFDs,PrintFilterRequest.matchesReadWriteFD]
      rw [matchPath_of_empty _ _ _ _ hpaths,matchPath_of_empty _ _ _ _ hpaths]
    · rw [decodePathArguments_eq (htraced (decide_eq_true hpaths))]

theorem selects_eq {input : TracedInput}
    (h : s.ReadAlike d.hexEscapeMode e.hexEscapeMode input) (st : FDStateStore) :
    s.selects d st input=s.selects e st input := by
  cases input with
  | syscallExit ev => exact shouldPrint_eq s h st
  | syscallEnter ev => rfl
  | lifecycle view task => rfl
  | inherit parentPID childPID => rfl
  | historyLost => rfl

/-- The paths of an event depend on its path text only where it is read. -/
theorem pathWriters_eq {update : FDStateUpdate} {text : String}
    (h : readsPathText update.source.view update.name=true → update.pathText=text) :
    pathWriters {update with pathText := text}=pathWriters update := by
  by_cases hread : readsPathText update.source.view update.name=true
  · rw [←h hread]
  · unfold readsPathText at hread
    have hopened : updateOpenedPathFDMapFromView {update with pathText := text}=
        updateOpenedPathFDMapFromView update := by
      funext read
      unfold updateOpenedPathFDMapFromView
      dsimp only
      have hskip : update.source.view.valid=false ∨ update.source.view.ret < 0 ∨
          isOpenedPathFDStateSyscall update.name=false := by
        by_contra hall
        rw [not_or,not_or,Bool.not_eq_false,Bool.not_eq_false,Int64.not_lt] at hall
        exact hread (by simp [hall.1,hall.2.1,hall.2.2])
      rw [if_pos hskip,if_pos hskip]
    have hcwd : updateCwdFDMapFromView {update with pathText := text}=
        updateCwdFDMapFromView update := by
      funext read
      unfold updateCwdFDMapFromView
      dsimp only
      by_cases hskip : update.source.view.valid=false ∨ update.source.view.ret≠0
      · rw [if_pos hskip,if_pos hskip]
      · have hname : update.name≠.chdir := by
          intro hname
          rw [not_or,Bool.not_eq_false,not_not] at hskip
          exact hread (by simp [hskip.1,hskip.2,hname])
        rw [if_neg hskip,if_neg hskip,if_neg hname,if_neg hname]
    unfold pathWriters
    rw [hopened,hcwd]
    rfl

/-- Recording an event depends on its path text only where it is read. -/
theorem applyFDState_pathText (tables : SyscallTables) (t : DescriptorTable)
    {update : FDStateUpdate} {text : String}
    (h : readsPathText update.source.view update.name=true → update.pathText=text) :
    t.applyFDState tables {update with pathText := text}=t.applyFDState tables update := by
  have hrecord : t.recordFDState {update with pathText := text}=t.recordFDState update := by
    unfold DescriptorTable.recordFDState
    rw [pathWriters_eq h]
    rfl
  unfold DescriptorTable.applyFDState
  rw [hrecord]

/-- What an input does to the store, whatever is selected. -/
def Session.tableOperations (s : Session) (d : Decoder) : TracedInput → List FDStateOp
  | .syscallEnter _ => []
  | .syscallExit ev => storeInput s.tables s.policy (.syscallExit (s.context d ev))
  | .lifecycle view task => handleLifecycle view task
  | .inherit parentPID childPID => [.inheritProcessState parentPID childPID]
  | .historyLost => [.taintHistory]

theorem storeOperations_eq (d : Decoder) (st : FDStateStore) (input : TracedInput) :
    s.storeOperations d st input=s.tableOperations d input := by
  cases input with
  | syscallExit ev =>
    unfold Session.storeOperations Session.tableOperations
    dsimp only
    rw [operations_eq]
  | syscallEnter ev => rfl
  | lifecycle view task => rfl
  | inherit parentPID childPID => rfl
  | historyLost => rfl

/-- One input on the store is its image on the table. -/
theorem represents_ordered {st : FDStateStore} {t : DescriptorTable} (h : Represents st t)
    {input : TracedInput×LoopOrders} (hcovered : CoveredRun s.tables st (s.ordered d st input)) :
    Represents (st.run s.tables (s.ordered d st input))
      (t.run s.tables (s.tableOperations d input.1)) := by
  have hops : (s.ordered d st input).map Prod.fst=s.tableOperations d input.1 := by
    unfold Session.ordered
    rw [List.map_map,storeOperations_eq]
    exact List.map_id _
  rw [←hops]
  exact h.run hcovered

/-- Decoders that render what is read alike do the same to a table. -/
theorem run_tableOperations_eq {input : TracedInput}
    (h : s.ReadAlike d.hexEscapeMode e.hexEscapeMode input) (t : DescriptorTable) :
    t.run s.tables (s.tableOperations d input)=t.run s.tables (s.tableOperations e input) := by
  cases input with
  | syscallExit ev =>
    have htext : readsPathText ev.source.view (syscallName ev.scMeta.name)=true →
        s.pathText d ev=s.pathText e ev := by
      intro hread
      unfold Session.pathText
      rw [primaryPathText_eq (h.2 hread)]
    have happly : t.perform s.tables (.applyFDState (s.context e ev).fdStateUpdate)=
        t.perform s.tables (.applyFDState (s.context d ev).fdStateUpdate) := by
      have hupdate : (s.context e ev).fdStateUpdate=
          {(s.context d ev).fdStateUpdate with pathText := s.pathText e ev} := rfl
      rw [hupdate]
      exact applyFDState_pathText s.tables t htext
    have hrecordable : (s.context d ev).recordable s.tables=
        (s.context e ev).recordable s.tables := by
      unfold SyscallEvent.recordable SyscallEvent.shouldSuppressOutput
      unfold SyscallEvent.isExitSyscallEvent SyscallEvent.shouldUpdateFDState SyscallEvent.traitName
      dsimp only [Session.context]
      rfl
    have hfinal : finalize s.tables (s.context d ev)=finalize s.tables (s.context e ev) := by
      unfold finalize SyscallEvent.shouldUpdateFDOffsets SyscallEvent.shouldCleanupClosedFD
      dsimp only [Session.context]
      rfl
    unfold Session.tableOperations storeInput DescriptorTable.run
    dsimp only
    rw [hrecordable,hfinal,List.foldl_append,List.foldl_append]
    split_ifs
    · rw [List.foldl_cons,List.foldl_cons,happly]
    · rfl
  | syscallEnter ev => rfl
  | lifecycle view task => rfl
  | inherit parentPID childPID => rfl
  | historyLost => rfl

/-- From a store that a table stands for, decoders that render what is read alike reach the same
verdicts and the same stores. -/
theorem run_eq_of_represents {st : FDStateStore} {t : DescriptorTable} (h : Represents st t)
    {inputs other : List (TracedInput×LoopOrders)}
    (hsame : inputs.map Prod.fst=other.map Prod.fst) (hinputs : s.CoveredInputs d st inputs)
    (hother : s.CoveredInputs e st other)
    (halike : ∀ input∈inputs, s.ReadAlike d.hexEscapeMode e.hexEscapeMode input.1) :
    s.run d st inputs=s.run e st other := by
  induction inputs generalizing st t other with
  | nil =>
    rw [List.map_nil,eq_comm,List.map_eq_nil_iff] at hsame
    rw [hsame]
    rfl
  | cons input rest ih =>
    cases other with
    | nil => exact absurd hsame (List.cons_ne_nil _ _)
    | cons first others =>
      rw [List.map_cons,List.map_cons,List.cons.injEq] at hsame
      rw [List.forall_mem_cons] at halike
      have hleft := represents_ordered s h hinputs.1
      have hright := represents_ordered s h hother.1
      rw [←hsame.1,←run_tableOperations_eq s halike.1] at hright
      have hstore := hleft.eq hright
      have hrest := hother.2
      rw [←hstore] at hrest
      unfold Session.run
      rw [←hstore,←hsame.1,selects_eq s halike.1,ih hleft hsame.2 hinputs.2 hrest halike.2]

/-- Two sessions over the same inputs that differ only in how they show strings select the same
inputs and reach the same stores, whatever their string limits, if their escape modes render alike
the paths that are read. -/
theorem display_invisible_when_read_alike (seeds : List (ℤ×String)) (d e : Decoder)
    (inputs other : List (TracedInput×LoopOrders))
    (hsame : inputs.map Prod.fst=other.map Prod.fst)
    (hinputs : s.CoveredInputs d (newFDStateStoreFromSeed seeds) inputs)
    (hother : s.CoveredInputs e (newFDStateStoreFromSeed seeds) other)
    (h : ∀ input∈inputs, s.ReadAlike d.hexEscapeMode e.hexEscapeMode input.1) :
    s.run d (newFDStateStoreFromSeed seeds) inputs=
      s.run e (newFDStateStoreFromSeed seeds) other :=
  run_eq_of_represents s (represents_newFDStateStoreFromSeed seeds) hsame hinputs hother h

/-- A session that traces `/x`. -/
def tracesX : Session where
  tables := openTables
  filter := some {
    syscalls := ⟨∅,[],false,false,false,false⟩
    tracePaths := {"/x"}}

/-- Process seven opens `/x` as descriptor three. -/
def opensX : TracedEvent where
  scMeta := ⟨"open",["filename","flags","mode"]⟩
  source := openedBySeven.source
  statePID := 7

theorem coveredInputs_opensX (d : Decoder) (st : FDStateStore) :
    tracesX.CoveredInputs d st [(.syscallExit opensX,{})] := by
  have hname : syscallName (tracesX.context d opensX).name≠.closeRange := by
    change syscallName "open"≠.closeRange
    decide
  exact coveredInputs_syscallExit openTables hname {}

/-- A path of printable characters is traced alike by default and with escapes in hexadecimal. -/
theorem display_invisible_opensX :
    tracesX.run {} (newFDStateStoreFromSeed []) [(.syscallExit opensX,{})]=
      tracesX.run {hexEscapeMode := 1, stringLimit := 1} (newFDStateStoreFromSeed [])
        [(.syscallExit opensX,{})] := by
  have hindices : pathArgumentIndices opensX.scMeta opensX.source.view.args=[0] := by decide
  have hargument : ArgumentAlike 0 1 opensX.source.payloadSections 0 := by
    intro captured hcaptured _
    have hbytes : captured∈opensX.source.payloadSections := List.mem_of_find?_eq_some hcaptured
    rw [List.mem_singleton.mp hbytes]
    unfold RendersAlike
    decide +kernel
  have halike : tracesX.ReadAlike 0 1 (.syscallExit opensX) := by
    unfold Session.ReadAlike
    dsimp only
    rw [hindices]
    constructor
    · intro _ i hi
      rw [List.mem_singleton.mp hi]
      exact hargument
    · intro _ i hi
      rw [←Option.some.inj hi]
      exact hargument
  exact display_invisible_when_read_alike tracesX [] {} {hexEscapeMode := 1, stringLimit := 1}
    [(.syscallExit opensX,{})] [(.syscallExit opensX,{})] rfl (coveredInputs_opensX _ _)
    (coveredInputs_opensX _ _) (by simpa using halike)

/-- Shown in hexadecimal, a traced path is not selected, and its escapes are recorded. -/
theorem traced_path_lost_in_hexadecimal :
    ((tracesX.run {} (newFDStateStoreFromSeed []) [(.syscallExit opensX,{})]).map Prod.fst=[true] ∧
      ∀ st∈((tracesX.run {} (newFDStateStoreFromSeed [])
        [(.syscallExit opensX,{})]).map Prod.snd), st.path 7 3=some "/x") ∧
    (tracesX.run {hexEscapeMode := 2} (newFDStateStoreFromSeed [])
        [(.syscallExit opensX,{})]).map Prod.fst=[false] ∧
      ∀ st∈((tracesX.run {hexEscapeMode := 2} (newFDStateStoreFromSeed [])
        [(.syscallExit opensX,{})]).map Prod.snd), st.path 7 3=some "\\x2f\\x78" := by
  have hpath : ∀ d : Decoder, ∀ st∈((tracesX.run d (newFDStateStoreFromSeed [])
      [(.syscallExit opensX,{})]).map Prod.snd),
      st.path 7 3=((DescriptorTable.ofSeeds []).run openTables
        (tracesX.tableOperations d (.syscallExit opensX))).paths (7,.fd 3) := by
    intro d st hst
    have h := represents_ordered tracesX (represents_newFDStateStoreFromSeed [])
      (coveredInputs_opensX d (newFDStateStoreFromSeed [])).1
    rw [List.mem_singleton.mp hst]
    unfold FDStateStore.path
    rw [h.tainted]
    exact h.paths.lookup (7,.fd 3)
  refine ⟨⟨by decide,fun st hst => ?_⟩,by decide,fun st hst => ?_⟩
  · rw [hpath {} st hst]
    decide
  · rw [hpath {hexEscapeMode := 2} st hst]
    decide

end Agreement

end StraceGo.PathSelection

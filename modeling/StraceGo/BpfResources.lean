import StraceGo.BpfPrograms
import StraceGo.GoText
import StraceGo.ResourceLedger

/-!
# Resources of the loaded programs

The session loads a core collection of programs and maps and up to eight handler
collections, binds them, attaches the core programs to the kernel, and hands
everything to a runtime that closes it at the end. Each stage may fail, and
the stage that fails closes what the stages before it obtained. Every number the
kernel gives out is closed once: by the failing stage, or by the runtime, and
then links before all the rest.
-/

namespace StraceGo.BpfResources

open BpfPrograms GoText ResourceLedger

section Errors

/-- Several errors as one. -/
def errorsJoin (errs : List (Option String)) : Option String :=
  match errs.filterMap id with
  | [] => none
  | first::rest => some ("\n".intercalate (first::rest))

/-- A name as it is quoted; the names here are identifiers. -/
def quoted (name : String) : String := "\"" ++ name ++ "\""

end Errors

section Collections

/-- Families of handler programs. -/
inductive BpfHandlerFamily where
  | enterGeneric
  | enterPayload
  | enterPath
  | enterMemory
  | enterControl
  | enterStructured
  | exit
  | recvmsg
  deriving DecidableEq, Repr

/-- Text of a family. -/
def BpfHandlerFamily.text : BpfHandlerFamily → String
  | .enterGeneric => "enter_generic"
  | .enterPayload => "enter_payload"
  | .enterPath => "enter_path"
  | .enterMemory => "enter_memory"
  | .enterControl => "enter_control"
  | .enterStructured => "enter_structured"
  | .exit => "exit"
  | .recvmsg => "recvmsg"

/-- The families, in the order of the catalog. -/
def bpfHandlerFamilyCatalog : List BpfHandlerFamily :=
  [.enterGeneric,.enterPayload,.enterPath,.enterMemory,.enterControl,.enterStructured,.exit,
    .recvmsg]

/-- Names of the programs and maps a collection is made of, in any order of iteration. -/
structure CollectionSpec where
  /-- Programs. -/
  programs : List String
  /-- Maps. -/
  maps : List String
  /-- No program is named twice. -/
  programs_nodup : programs.Nodup
  /-- No map is named twice. -/
  maps_nodup : maps.Nodup

/-- A collection the kernel holds. -/
structure Collection where
  /-- Programs by name. -/
  programs : List (String×ℕ)
  /-- Maps by name. -/
  maps : List (String×ℕ)

/-- Everything in a collection. -/
def Collection.resources (c : Collection) : List ℕ :=
  c.programs.map Prod.snd ++ c.maps.map Prod.snd

/-- Everything in a collection that may be missing. -/
def collectionResources (c : Option Collection) : List ℕ := c.elim [] Collection.resources

/-- What is loaded. -/
structure BpfCollectionPlan where
  /-- The core collection. -/
  coreSpec : CollectionSpec
  /-- Handler collections of the families. -/
  handlerSpecs : BpfHandlerFamily → Option CollectionSpec

/-- Programs of the core collection with a field of their own, in the order of the fields. -/
def bpfPrograms : List String :=
  ["trace_kvm_userspace_exit","trace_namespace_fork","trace_sched_process_exec",
    "trace_sched_process_exit","trace_sched_process_fork","trace_sched_process_free",
    "trace_signal_deliver","trace_signal_generate","trace_sys_enter","trace_sys_exit"]

/-- Maps of the core collection with a field of their own, in the order of the fields. -/
def bpfMaps : List String :=
  ["arm_fork_map","attach_exited_map","attach_roots_map","config_map","enter_progs",
    "enter_routes","event_loss_map","events","exit_progs","exit_routes","fd_path_scratch_map",
    "filter_map","main_exited_map","mmsg_bytes_progs","pending_exec_map",
    "pending_fork_flags_map","pending_stack_map","pending_task_storage",
    "pid_namespace_config_map","plain_enter_elide_map","recvmsg_progs","runtime_meta_map",
    "stack_traces","stats_map","syscall_filter_map","unknown_children_map"]

/-- Fields of the core objects; a field whose program is not loaded is empty. -/
structure BpfObjects where
  /-- Program fields. -/
  programs : List (String×Option ℕ)
  /-- Map fields. -/
  maps : List (String×Option ℕ)

/-- What the fields hold, in their order. -/
def fieldResources (fields : List (String×Option ℕ)) : List ℕ := fields.filterMap Prod.snd

/-- What the core objects hold. -/
def BpfObjects.resources (o : BpfObjects) : List ℕ :=
  fieldResources o.programs ++ fieldResources o.maps

/-- Program of a name. -/
def BpfObjects.program (o : BpfObjects) (name : String) : Option ℕ :=
  (o.programs.lookup name).join

end Collections

section Kernel

/-- Where a program is attached. -/
inductive Hook where
  | tracepoint (category name : String)
  | rawTracepoint (name : String)
  | kretprobe (symbol : String)
  deriving DecidableEq

/-- Answers of the kernel and of the stages that obtain nothing. -/
structure Environment where
  /-- Failure before anything is loaded: the configuration, the memory limit, the specs. -/
  preparation : Option String
  /-- Selected programs. -/
  selection : Except String BpfProgramSelection
  /-- What is to be loaded. -/
  prepare : Except String BpfCollectionPlan
  /-- Failure to create the core collection or that of a family. -/
  newCollection : Option BpfHandlerFamily → Option String
  /-- Family of a handler program. -/
  classifyBPFHandlerProgram : String → Option BpfHandlerFamily
  /-- Names of a set in the order they are visited. -/
  visit : Finset String → List String
  /-- A visit meets every name. -/
  mem_visit : ∀ names name, name∈visit names ↔ name∈names
  /-- Failure to fill the route maps. -/
  configureBPFRouteMaps : Option String
  /-- Failure to fill the program arrays. -/
  populateProgArrays : Option String
  /-- Failure to attach a program. -/
  attach : Hook → Option ℕ → Option String
  /-- What names of system call wrappers start with. -/
  syscallWrapperPrefix : Except String String
  /-- Failure to close a resource. -/
  closeError : ℕ → Option String
  /-- Order in which resources that are closed side by side are closed. -/
  order : List ℕ → List ℕ
  /-- Each of them is closed. -/
  order_perm : ∀ ids, (order ids).Perm ids

end Kernel

section Closers

variable (env : Environment)

/-- What is closed as one. -/
inductive Closer where
  /-- A collection, unless there is none. -/
  | collection (c : Option Collection)
  /-- The core objects. -/
  | objects (o : BpfObjects)
  /-- A program or map of its own. -/
  | resource (id : ℕ)
  /-- The link with an index. -/
  | link (index id : ℕ)

/-- Everything a closer holds. -/
def Closer.resources : Closer → List ℕ
  | .collection c => collectionResources c
  | .objects o => o.resources
  | .resource id => [id]
  | .link _ id => [id]

/-- Close the fields of the core objects: all programs, and the maps when no program failed. -/
def BpfObjects.close (o : BpfObjects) : List ℕ×Option String :=
  match closeInTurn env.closeError (fieldResources o.programs) with
  | (attempted,some cause) => (attempted,some cause)
  | (attempted,none) =>
    let (maps,failure) := closeInTurn env.closeError (fieldResources o.maps)
    (attempted ++ maps,failure)

/-- Close; what was tried and the error. Errors inside a collection are dropped. -/
def Closer.close : Closer → List ℕ×Option String
  | .collection c => (collectionResources c,none)
  | .objects o => o.close env
  | .resource id => ([id],env.closeError id)
  | .link index id =>
    ([id],(env.closeError id).map fun cause =>
      "close BPF link " ++ toString index ++ ": " ++ cause)

/-- Close named resources side by side. -/
def closeNamedBPFResourcesParallel (resources : List (String×Closer)) (l : Ledger) :
    Ledger×Option String :=
  let results := resources.map fun resource => resource.2.close env
  (l.attempt (env.order (results.flatMap Prod.fst)),errorsJoin (results.map Prod.snd))

/-- A temporary owner of one collection. -/
structure BpfLoadedCollection where
  /-- The collection. -/
  collection : Option Collection
  /-- Closer in its place. -/
  closer : Option Closer := none
  /-- Closed. -/
  closed : Bool := false
  /-- Handed on. -/
  detached : Bool := false

namespace BpfLoadedCollection

variable (c : BpfLoadedCollection)

/-- What the owner would close. -/
def owned : List ℕ :=
  if c.closed || c.detached then []
  else
    match c.closer with
    | some closer => closer.resources
    | none => collectionResources c.collection

/-- Close the collection once. -/
def close (l : Ledger) : BpfLoadedCollection×Ledger×Option String :=
  if c.closed || c.detached then (c,l,none)
  else
    match c.closer with
    | some closer =>
      let (attempted,err) := closer.close env
      ({c with closed := true},l.attempt (env.order attempted),err)
    | none =>
      ({c with closed := true},l.attempt (env.order (collectionResources c.collection)),none)

/-- Give the collection up. -/
def detach : BpfLoadedCollection :=
  {c with detached := true, collection := none, closer := none}

/-- The collection unless it was given up. -/
def value : Option Collection := if c.detached then none else c.collection

/-- Hand the collection on. -/
def transferCloser : BpfLoadedCollection×Option Closer :=
  if c.closed || c.detached then (c,none)
  else (c.detach,some (c.closer.getD (.collection c.collection)))

end BpfLoadedCollection

end Closers

section Handlers

variable (env : Environment)

/-- Collections of the families. -/
structure BpfLoadedHandlerCollections where
  /-- Owners of the collections. -/
  collections : BpfHandlerFamily → Option BpfLoadedCollection := fun _ => none
  /-- Families with a collection, in the order of the catalog. -/
  loadOrder : List BpfHandlerFamily := []

/-- Number the programs and maps of a new collection. -/
def newCollection (spec : CollectionSpec) (l : Ledger) : Collection×Ledger :=
  ({programs := spec.programs.zipIdx l.opened
    maps := spec.maps.zipIdx (l.opened+spec.programs.length)},
    l.obtain (spec.programs.length+spec.maps.length))

/-- A section of data belongs to its own collection. -/
def isBPFDataSection (name : String) : Bool := ".".isPrefixOf name

/-- Why a handler map cannot share a map of the core. -/
def replacementError (core : Collection) (name : String) : Option String :=
  if isBPFDataSection name then none
  else if !bpfMaps.contains name then
    some ("handler map " ++ quoted name ++ " is not in the core map catalog")
  else if (core.maps.lookup name).isNone then
    some ("core map " ++ quoted name ++ " is unavailable")
  else none

/-- The maps of a family are those of the core, except its own data. -/
def newBPFMapReplacementPlan (core : Collection) (spec : CollectionSpec) :
    Except String (List (String×ℕ)) :=
  match spec.maps.findSome? (replacementError core) with
  | some err => .error err
  | none => .ok (core.maps.filter fun entry =>
      spec.maps.contains entry.1 && !isBPFDataSection entry.1)

/-- Load the collection of a family. -/
def loadBPFHandlerFamily (core : Collection) (family : BpfHandlerFamily) (spec : CollectionSpec)
    (l : Ledger) : Except String BpfLoadedCollection×Ledger :=
  match newBPFMapReplacementPlan core spec with
  | .error err => (.error (family.text ++ " map replacements: " ++ err),l)
  | .ok _ =>
    match env.newCollection (some family) with
    | some cause => (.error (family.text ++ " collection: " ++ cause),l)
    | none =>
      let (collection,l) := newCollection spec l
      (.ok {collection := some collection},l)

/-- What the load of one family left in its slot. -/
structure BpfHandlerCollectionLoadResult where
  /-- The family. -/
  family : BpfHandlerFamily
  /-- Its collection. -/
  collection : Option BpfLoadedCollection := none
  /-- The failure. -/
  err : Option String := none

/-- Fill the slot of one family; nothing is loaded for a family without programs. -/
def loadSlot (plan : BpfCollectionPlan) (core : Collection) (family : BpfHandlerFamily)
    (l : Ledger) : BpfHandlerCollectionLoadResult×Ledger :=
  match plan.handlerSpecs family with
  | none => ({family := family},l)
  | some spec =>
    if spec.programs.isEmpty then ({family := family},l)
    else
      match loadBPFHandlerFamily env core family spec l with
      | (.error err,l) => ({family := family, err := some err},l)
      | (.ok collection,l) => ({family := family, collection := some collection},l)

/-- Fill the slots of some families. Each has its own slot, so that it does not matter which is
filled first. -/
def loadSlots (plan : BpfCollectionPlan) (core : Collection) :
    List BpfHandlerFamily → Ledger → List BpfHandlerCollectionLoadResult×Ledger
  | [],l => ([],l)
  | family::families,l =>
    let (result,l) := loadSlot env plan core family l
    let (results,l) := loadSlots plan core families l
    (result::results,l)

/-- Keep a collection that was loaded. -/
def BpfLoadedHandlerCollections.add (h : BpfLoadedHandlerCollections)
    (result : BpfHandlerCollectionLoadResult) : BpfLoadedHandlerCollections :=
  match result.collection with
  | none => h
  | some collection =>
    { collections := Function.update h.collections result.family (some collection)
      loadOrder := h.loadOrder ++ [result.family] }

/-- Failure of one family. -/
def BpfHandlerCollectionLoadResult.error (result : BpfHandlerCollectionLoadResult) :
    Option String :=
  result.err.map fun err => "load " ++ result.family.text ++ " handler collection: " ++ err

/-- Load the collections of all families; those that were loaded are returned with the failures of
the others. -/
def loadBPFHandlerCollectionsParallel (plan : BpfCollectionPlan) (core : Collection) (l : Ledger) :
    BpfLoadedHandlerCollections×Ledger×Option String :=
  let (results,l) := loadSlots env plan core bpfHandlerFamilyCatalog l
  (results.foldl BpfLoadedHandlerCollections.add {},l,
    errorsJoin (results.map BpfHandlerCollectionLoadResult.error))

/-- Close the collections of some families. -/
def closeFamilies : List BpfHandlerFamily → BpfLoadedHandlerCollections → Ledger →
    BpfLoadedHandlerCollections×Ledger×List (Option String)
  | [],h,l => (h,l,[])
  | family::families,h,l =>
    match h.collections family with
    | none => closeFamilies families h l
    | some collection =>
      let (collection,l,err) := collection.close env l
      let h := {h with collections := Function.update h.collections family (some collection)}
      let (h,l,errs) := closeFamilies families h l
      (h,l,err::errs)

/-- Close the collections, the last loaded first. -/
def BpfLoadedHandlerCollections.close (h : BpfLoadedHandlerCollections) (l : Ledger) :
    BpfLoadedHandlerCollections×Ledger×Option String :=
  let (h,l,errs) := closeFamilies env h.loadOrder.reverse h l
  (h,l,errorsJoin errs)

/-- Take the closers of some families. -/
def takeFamilies : List BpfHandlerFamily → BpfLoadedHandlerCollections → List Closer
  | [],_ => []
  | family::families,h =>
    match h.collections family with
    | none => takeFamilies families h
    | some collection =>
      let (collection,closer) := collection.transferCloser
      let h := {h with collections := Function.update h.collections family (some collection)}
      closer.toList ++ takeFamilies families h

/-- Names of the resources of a group. -/
def named (start : String) (closers : List Closer) : List (String×Closer) :=
  closers.zipIdx.map fun entry => (start ++ "_" ++ toString entry.2,entry.1)

end Handlers

section Binding

variable (env : Environment)

/-- Hook of a core program and the option that asks for it. -/
inductive BpfProgramFeature where
  | required
  | forkSnapshot
  | kvmExit
  deriving DecidableEq

/-- A core program and where it is attached. -/
structure BpfCoreProgramSpec where
  /-- Name. -/
  name : String
  /-- Where it is attached. -/
  hook : Hook
  /-- When it is attached. -/
  feature : BpfProgramFeature := .required

/-- The core programs. -/
def bpfCoreProgramCatalog : List BpfCoreProgramSpec :=
  [{name := "trace_sys_enter", hook := .tracepoint "raw_syscalls" "sys_enter"},
    {name := "trace_sys_exit", hook := .tracepoint "raw_syscalls" "sys_exit"},
    {name := "trace_sched_process_fork", hook := .tracepoint "sched" "sched_process_fork"},
    {name := "trace_sched_process_exec", hook := .tracepoint "sched" "sched_process_exec"},
    {name := "trace_sched_process_exit", hook := .tracepoint "sched" "sched_process_exit"},
    {name := "trace_sched_process_free", hook := .tracepoint "sched" "sched_process_free"},
    {name := "trace_signal_deliver", hook := .rawTracepoint "signal_deliver"},
    {name := "trace_signal_generate", hook := .rawTracepoint "signal_generate"},
    {name := "trace_namespace_fork", hook := .rawTracepoint "sched_process_fork",
      feature := .forkSnapshot},
    {name := "trace_kvm_userspace_exit", hook := .tracepoint "kvm" "kvm_userspace_exit",
      feature := .kvmExit}]

/-- Whether a name is that of a core program. -/
def isCoreBPFProgramName (name : String) : Bool := bpfCoreProgramCatalog.any (·.name==name)

/-- Fields with what a collection has under their names. -/
def assignBPFTaggedFields (fields : List String) (resources : List (String×ℕ)) :
    List (String×Option ℕ) :=
  fields.map fun name => (name,resources.lookup name)

/-- Core objects of a collection; every map field needs its map. -/
def assignBPFCollection (c : Collection) : Except String BpfObjects :=
  match bpfMaps.find? fun name => (c.maps.lookup name).isNone with
  | some name => .error ("assign BPF maps: missing BPF resource " ++ quoted name)
  | none => .ok
    { programs := assignBPFTaggedFields bpfPrograms c.programs
      maps := assignBPFTaggedFields bpfMaps c.maps }

/-- Add the handler programs of a collection. -/
def addHandlerPrograms (programs : List (String×ℕ)) :
    List (String×ℕ) → Except String (List (String×ℕ))
  | [] => .ok programs
  | (name,id)::entries =>
    if isCoreBPFProgramName name then addHandlerPrograms programs entries
    else if (programs.lookup name).isSome then
      .error ("handler BPF program " ++ quoted name ++ " belongs to multiple families")
    else if (env.classifyBPFHandlerProgram name).isNone then
      .error ("handler BPF program " ++ quoted name ++ " has no family")
    else addHandlerPrograms (programs ++ [(name,id)]) entries

/-- Handler programs of the families. -/
def collectHandlerPrograms (h : BpfLoadedHandlerCollections) (programs : List (String×ℕ)) :
    List BpfHandlerFamily → Except String (List (String×ℕ))
  | [] => .ok programs
  | family::families =>
    match (h.collections family).bind BpfLoadedCollection.value with
    | none =>
      .error ("handler BPF collection " ++ quoted family.text ++ " is unavailable")
    | some collection =>
      match addHandlerPrograms env programs collection.programs with
      | .error err => .error err
      | .ok programs => collectHandlerPrograms h programs families

/-- Handler programs that were loaded; all that are selected must be among them. -/
def selectedBPFHandlerPrograms (h : BpfLoadedHandlerCollections)
    (selection : BpfProgramSelection) : Except String (List (String×ℕ)) :=
  match collectHandlerPrograms env h [] h.loadOrder with
  | .error err => .error err
  | .ok programs =>
    if selection.loadAll then .ok programs
    else
      match (env.visit selection.programs).find? fun name =>
          !isCoreBPFProgramName name && (programs.lookup name).isNone with
      | some name =>
        .error ("selected handler BPF program " ++ quoted name ++ " is unavailable")
      | none => .ok programs

/-- Programs and maps of the core without a field of their own, by name. -/
def collectBPFExtraClosers (c : Collection) : List Closer :=
  let extras := c.programs.filter (fun entry => !bpfPrograms.contains entry.1) ++
    c.maps.filter (fun entry => !bpfMaps.contains entry.1)
  (extras.mergeSort fun x y => !textLess y.1.toList x.1.toList).map fun entry =>
    .resource entry.2

/-- Everything that is loaded and bound. -/
structure BpfObjectBundle where
  /-- The core objects. -/
  core : Option BpfObjects
  /-- Handler programs by name. -/
  handlerPrograms : List (String×ℕ)
  /-- Closers of the handler collections. -/
  handlerResources : List (String×Closer) := []
  /-- Closers of the rest of the core collection. -/
  extraResources : List (String×Closer)

/-- A core program, or a handler program. -/
def BpfObjectBundle.program (b : BpfObjectBundle) (name : String) : Option ℕ :=
  (b.core.bind fun core => if isCoreBPFProgramName name then core.program name else none).orElse
    fun _ => b.handlerPrograms.lookup name

/-- Bind what was loaded. -/
def bind (core : BpfLoadedCollection) (h : BpfLoadedHandlerCollections)
    (selection : BpfProgramSelection) : Except String BpfObjectBundle :=
  match core.value with
  | none => .error "loaded BPF core or handler collections are unavailable"
  | some collection =>
    match assignBPFCollection collection with
    | .error err => .error err
    | .ok objects =>
      match selectedBPFHandlerPrograms env h selection with
      | .error err => .error err
      | .ok programs => .ok
        { core := some objects
          handlerPrograms := programs
          extraResources := named "bpf_extra" (collectBPFExtraClosers collection) }

/-- Hand the handler collections to a bundle, the last loaded first. -/
def BpfLoadedHandlerCollections.transferTo (h : BpfLoadedHandlerCollections)
    (b : BpfObjectBundle) : BpfObjectBundle :=
  { b with
    handlerResources :=
      b.handlerResources ++ named "bpf_handler" (takeFamilies h.loadOrder.reverse h) }

/-- Close a bundle. -/
def BpfObjectBundle.close (b : BpfObjectBundle) (l : Ledger) : Ledger×Option String :=
  let (l,handlerErr) := closeNamedBPFResourcesParallel env b.handlerResources l
  let (attempted,objectErr) := (b.core.map (BpfObjects.close env)).getD ([],none)
  let l := l.attempt attempted
  let (l,extraErr) := closeNamedBPFResourcesParallel env b.extraResources l
  (l,errorsJoin [handlerErr,objectErr,extraErr])

/-- Load the collections and bind them. -/
def loadBPFObjectsWithTiming (selection : BpfProgramSelection) (l : Ledger) :
    Except String BpfObjectBundle×Ledger :=
  match env.prepare with
  | .error err => (.error ("prepare BPF collection: " ++ err),l)
  | .ok plan =>
    match env.newCollection none with
    | some err => (.error ("load BPF core collection: " ++ err),l)
    | none =>
      let (collection,l) := newCollection plan.coreSpec l
      let core : BpfLoadedCollection := {collection := some collection}
      if bpfHandlerFamilyCatalog.all fun family => (plan.handlerSpecs family).isNone then
        let (_,l,closeErr) := core.close env l
        (.error ("load BPF handler collections: " ++
          (errorsJoin [some "BPF handler collection plan is unavailable",closeErr]).getD ""),l)
      else
        match loadBPFHandlerCollectionsParallel env plan collection l with
        | (h,l,some err) =>
          let (_,l,handlersErr) := h.close env l
          let (_,l,coreErr) := core.close env l
          (.error ("load BPF handler collections: " ++
            (errorsJoin [some err,handlersErr,coreErr]).getD ""),l)
        | (h,l,none) =>
          match bind env core h selection with
          | .error err =>
            let (_,l,handlersErr) := h.close env l
            let (_,l,coreErr) := core.close env l
            (.error ("bind BPF resources: " ++
              (errorsJoin [some err,errorsJoin [handlersErr,coreErr]]).getD ""),l)
          | .ok bundle => (.ok (h.transferTo bundle),l)

end Binding

section Attaching

variable (env : Environment)

/-- A link and the number of its resource. -/
abbrev Link : Type := ℕ

/-- Whether a hook is a raw tracepoint. -/
def Hook.isRaw : Hook → Bool
  | .rawTracepoint _ => true
  | _ => false

/-- Why a program was not attached. -/
def attachError : Hook → String → String
  | .tracepoint category name,cause =>
    "attach " ++ category ++ "/" ++ name ++ " tracepoint: " ++ cause
  | .rawTracepoint name,cause => "attach raw tracepoint " ++ name ++ ": " ++ cause
  | .kretprobe _,cause => cause

/-- Attach one program. -/
def attachOne (hook : Hook) (program : Option ℕ) (l : Ledger) : Except String Link×Ledger :=
  match env.attach hook program with
  | some cause => (.error (attachError hook cause),l)
  | none => (.ok l.opened,l.obtain 1)

/-- Attach a core program; a raw tracepoint needs its program. -/
def attachSpec (hook : Hook) (program : Option ℕ) (l : Ledger) : Except String Link×Ledger :=
  if hook.isRaw && program.isNone then (.error (attachError hook "program is unavailable"),l)
  else attachOne env hook program l

/-- Attach programs up to the first that fails. The links made are returned in any case. -/
def attachTracepoints : List (Hook×Option ℕ) → Ledger → List Link×Ledger×Option String
  | [],l => ([],l,none)
  | (hook,program)::specs,l =>
    match attachSpec env hook program l with
    | (.error err,l) => ([],l,some err)
    | (.ok link,l) =>
      let (links,l,err) := attachTracepoints specs l
      (link::links,l,err)

/-- Whether a hook is a tracepoint of a category. -/
def Hook.inCategory (category : String) : Hook → Bool
  | .tracepoint c _ => c==category
  | _ => false

/-- Core programs of a category, with what was loaded for them. -/
def bpfCoreTracepointSpecs (program : String → Option ℕ) (category : String) :
    List (Hook×Option ℕ) :=
  (bpfCoreProgramCatalog.filter (·.hook.inCategory category)).map fun spec =>
    (spec.hook,program spec.name)

/-- Core programs at virtual machine exits. -/
def kvmTracepointSpecs (program : String → Option ℕ) (selection : BpfProgramSelection) :
    List (Hook×Option ℕ) :=
  if selection.kvmExitReason then bpfCoreTracepointSpecs program "kvm" else []

/-- Core programs at raw tracepoints. -/
def requiredRawTracepointSpecs (program : String → Option ℕ) (selection : BpfProgramSelection) :
    List (Hook×Option ℕ) :=
  ((bpfCoreProgramCatalog.filter fun spec =>
      spec.hook.isRaw && spec.feature==.required).map fun spec => (spec.hook,program spec.name)) ++
    if selection.forkSnapshot then
      [(.rawTracepoint "sched_process_fork",program "trace_namespace_fork")]
    else []

/-- Attach in groups, each when those before it did not fail. -/
def attachGroups : List (List (Hook×Option ℕ)) → Ledger → List Link×Ledger×Option String
  | [],l => ([],l,none)
  | specs::groups,l =>
    match attachTracepoints env specs l with
    | (links,l,some err) => (links,l,some err)
    | (links,l,none) =>
      let (more,l,err) := attachGroups groups l
      (links ++ more,l,err)

/-- Attach the programs every session needs. -/
def attachRequired (program : String → Option ℕ) (selection : BpfProgramSelection) (l : Ledger) :
    List Link×Ledger×Option String :=
  attachGroups env
    [bpfCoreTracepointSpecs program "raw_syscalls",bpfCoreTracepointSpecs program "sched",
      kvmTracepointSpecs program selection,requiredRawTracepointSpecs program selection] l

/-- Try symbols in turn until one can be attached to. -/
def attachFirst (program : Option ℕ) : List String → Ledger → Option Link×Ledger
  | [],l => (none,l)
  | symbol::symbols,l =>
    match attachOne env (.kretprobe symbol) program l with
    | (.ok link,l) => (some link,l)
    | (.error _,l) => attachFirst program symbols l

/-- Attach the probe for received messages when it is asked for. A session goes on without it. -/
def attachOptionalRecvmsgFor (enabled : Bool) (program : String → Option ℕ) (l : Ledger) :
    Option Link×Ledger :=
  if !enabled then (none,l)
  else
    match program "trace_kretprobe_recvmsg_dispatch",env.syscallWrapperPrefix with
    | some id,.ok start => attachFirst env (some id) ["__sys_recvmsg",start ++ "recvmsg"] l
    | _,_ => (none,l)

/-- Close links in turn; all are closed. -/
def closeTracepointLinks (links : List Link) (l : Ledger) : Ledger×Option String :=
  (l.attempt links,errorsJoin (links.zipIdx.map fun entry =>
    (env.closeError entry.1).map fun cause =>
      "close BPF link " ++ toString entry.2 ++ ": " ++ cause))

end Attaching

section Runtime

variable (env : Environment)

/-- What a session runs with. -/
structure TraceBPFRuntime where
  /-- The core objects. -/
  core : Option BpfObjects
  /-- Links of the attached programs. -/
  links : List Link
  /-- Closers of the handler collections. -/
  handlerResources : List (String×Closer)
  /-- Closers of the rest of the core collection. -/
  extraResources : List (String×Closer)

/-- Close what a failed stage leaves behind. -/
def closeBPFSetupFailure (message primary : String) (links : List Link) (b : BpfObjectBundle)
    (l : Ledger) : String×Ledger :=
  let (l,linkErr) := closeTracepointLinks env links l
  let (l,bundleErr) := b.close env l
  (message ++ ": " ++ (errorsJoin [some primary,linkErr,bundleErr]).getD "",l)

/-- Attach the programs of a bundle. -/
def attachBundle (selection : BpfProgramSelection) (bundle : BpfObjectBundle) (l : Ledger) :
    Except String TraceBPFRuntime×Ledger :=
  match attachRequired env bundle.program selection l with
  | (links,l,some err) =>
    let (message,l) := closeBPFSetupFailure env "attach required BPF programs" err links bundle l
    (.error message,l)
  | (links,l,none) =>
    let (kprobe,l) := attachOptionalRecvmsgFor env selection.recvmsgKretprobe bundle.program l
    (.ok
      { core := bundle.core
        links := links ++ kprobe.toList
        handlerResources := bundle.handlerResources
        extraResources := bundle.extraResources },l)

/-- Set everything up for a session. -/
def setupBPFWithConfig (l : Ledger) : Except String TraceBPFRuntime×Ledger :=
  match env.preparation with
  | some err => (.error err,l)
  | none =>
    match env.selection with
    | .error err => (.error ("build BPF route plan: " ++ err),l)
    | .ok selection =>
      match loadBPFObjectsWithTiming env selection l with
      | (.error err,l) => (.error err,l)
      | (.ok bundle,l) =>
        match env.configureBPFRouteMaps with
        | some err =>
          let (message,l) := closeBPFSetupFailure env "configure BPF route maps" err [] bundle l
          (.error message,l)
        | none =>
          match env.populateProgArrays with
          | some err =>
            let (message,l) :=
              closeBPFSetupFailure env "populate BPF program arrays" err [] bundle l
            (.error message,l)
          | none => attachBundle env selection bundle l

/-- Close the links side by side, then everything else side by side. -/
def TraceBPFRuntime.closeWithDiagnostics (r : TraceBPFRuntime) (l : Ledger) :
    TraceBPFRuntime×Ledger×Option String :=
  let (l,linkErr) := closeNamedBPFResourcesParallel env
    (r.links.zipIdx.map fun entry => ("bpf_link_" ++ toString entry.2,.link entry.2 entry.1)) l
  let resources := r.handlerResources ++
    (r.core.map fun core => ("bpf_core_objects",Closer.objects core)).toList ++ r.extraResources
  let (l,err) := closeNamedBPFResourcesParallel env resources l
  ({core := none, links := [], handlerResources := [], extraResources := []},l,
    errorsJoin [linkErr,err])

end Runtime

section Closing

variable {env : Environment} {l : Ledger} {held left : List ℕ}

/-- Fields that were not closed because one before them failed. -/
def BpfObjects.leftOpen (env : Environment) (o : BpfObjects) : List ℕ :=
  behindFailure env.closeError o.resources

/-- What a closer leaves open. -/
def Closer.leftOpen (env : Environment) : Closer → List ℕ
  | .objects o => o.leftOpen env
  | _ => []

/-- What some closers hold. -/
def closersResources (resources : List (String×Closer)) : List ℕ :=
  resources.flatMap fun resource => resource.2.resources

/-- What some closers leave open. -/
def closersLeftOpen (env : Environment) (resources : List (String×Closer)) : List ℕ :=
  resources.flatMap fun resource => resource.2.leftOpen env

/-- The fields are closed in turn, up to the first that fails. -/
theorem objects_close (o : BpfObjects) : o.close env=closeInTurn env.closeError o.resources := by
  rw [BpfObjects.resources,closeInTurn_append,BpfObjects.close]
  rcases closeInTurn env.closeError (fieldResources o.programs) with ⟨attempted,_ | cause⟩ <;> rfl

theorem objects_attempted (env : Environment) (o : BpfObjects) :
    (o.close env).1 ++ o.leftOpen env=o.resources := by
  rw [objects_close]
  exact closeInTurn_append_behindFailure _ _

theorem closer_attempted (closer : Closer) :
    (closer.close env).1 ++ closer.leftOpen env=closer.resources := by
  cases closer with
  | objects o => exact objects_attempted env o
  | collection c => exact List.append_nil _
  | resource id => rfl
  | link index id => rfl

/-- What is left open stands behind a close that failed. -/
theorem failed_of_leftOpen (closer : Closer) (h : closer.leftOpen env≠[]) :
    ∃ id∈(closer.close env).1, (env.closeError id).isSome := by
  cases closer with
  | objects o =>
    rw [Closer.close,objects_close]
    exact failed_of_behindFailure _ h
  | collection c => exact absurd rfl h
  | resource id => exact absurd rfl h
  | link index id => exact absurd rfl h

theorem closersResources_named (start : String) (closers : List Closer) :
    closersResources (named start closers)=closers.flatMap Closer.resources := by
  rw [closersResources,named,List.flatMap_map]
  have hfst : closers.zipIdx.map Prod.fst=closers := List.zipIdx_map_fst _ _
  conv_rhs => rw [←hfst,List.flatMap_map]

theorem closersLeftOpen_of_plain {resources : List (String×Closer)}
    (h : ∀ resource∈resources, resource.2.leftOpen env=[]) : closersLeftOpen env resources=[] :=
  List.flatMap_eq_nil_iff.mpr h

theorem closeNamed_closes (env : Environment) (resources : List (String×Closer)) :
    (closeNamedBPFResourcesParallel env resources l).1.closes=
      l.closes ++ env.order (resources.flatMap fun resource => (resource.2.close env).1) := by
  rw [closeNamedBPFResourcesParallel,Ledger.attempt_closes,List.flatMap_map]

/-- Closing side by side closes what the closers hold, except what they leave open. -/
theorem closeNamed_accounts (env : Environment) {resources : List (String×Closer)}
    (h : Accounts l (closersResources resources ++ held) left) :
    Accounts (closeNamedBPFResourcesParallel env resources l).1 held
      (closersLeftOpen env resources ++ left) := by
  have hsplit : (resources.flatMap (fun resource => (resource.2.close env).1) ++
      closersLeftOpen env resources).Perm (closersResources resources) := by
    refine (List.flatMap_append_perm _ _ _).trans (List.Perm.of_eq ?_)
    exact congrArg (resources.flatMap ·) (funext fun resource => closer_attempted resource.2)
  have hparts : Accounts l (resources.flatMap (fun resource => (resource.2.close env).1) ++
      (closersLeftOpen env resources ++ held)) left := by
    refine h.perm ?_ (List.Perm.refl _)
    rw [←List.append_assoc]
    exact hsplit.append_right _
  have horder := hparts.attempt (env.order_perm _)
  rw [closeNamedBPFResourcesParallel,List.flatMap_map]
  exact horder.leave

end Closing

section Loading

variable {env : Environment} {l : Ledger} {held left : List ℕ}

/-- Owners of the collections that were just loaded. -/
structure Fresh (c : BpfLoadedCollection) : Prop where
  /-- No closer stands in the place of the collection. -/
  closer : c.closer=none
  /-- The collection was not closed. -/
  unclosed : c.closed=false
  /-- The collection was not handed on. -/
  attached : c.detached=false

theorem Fresh.owned_eq {c : BpfLoadedCollection} (h : Fresh c) :
    c.owned=collectionResources c.collection := by
  rw [BpfLoadedCollection.owned,h.unclosed,h.attached,h.closer]
  rfl

/-- Closing a collection closes everything in it. -/
theorem Fresh.close_accounts (env : Environment) {c : BpfLoadedCollection} (hc : Fresh c)
    (h : Accounts l (c.owned ++ held) left) : Accounts (c.close env l).2.1 held left := by
  rw [hc.owned_eq] at h
  rw [BpfLoadedCollection.close,hc.unclosed,hc.attached,hc.closer]
  exact h.attempt (env.order_perm _)

/-- The closer that is handed on holds the collection. -/
theorem Fresh.transferCloser_eq {c : BpfLoadedCollection} (h : Fresh c) :
    c.transferCloser.2=some (.collection c.collection) := by
  rw [BpfLoadedCollection.transferCloser,h.unclosed,h.attached,h.closer]
  rfl

/-- What the owners of some families would close. -/
def ownedBy (h : BpfLoadedHandlerCollections) (families : List BpfHandlerFamily) : List ℕ :=
  families.flatMap fun family => (h.collections family).elim [] BpfLoadedCollection.owned

theorem ownedBy_update {h : BpfLoadedHandlerCollections} {family : BpfHandlerFamily}
    {families : List BpfHandlerFamily} (c : Option BpfLoadedCollection) (hf : family∉families) :
    ownedBy {h with collections := Function.update h.collections family c} families=
      ownedBy h families := by
  refine List.flatMap_congr fun other hother => ?_
  have hne : other≠family := by
    rintro rfl
    exact hf hother
  dsimp only
  rw [Function.update_of_ne hne]

/-- The collections of some families were just loaded. -/
def FreshIn (h : BpfLoadedHandlerCollections) (families : List BpfHandlerFamily) : Prop :=
  ∀ family∈families, ∀ c, h.collections family=some c → Fresh c

theorem FreshIn.update {h : BpfLoadedHandlerCollections} {family : BpfHandlerFamily}
    {families : List BpfHandlerFamily} (hfresh : FreshIn h families)
    (c : Option BpfLoadedCollection) (hf : family∉families) :
    FreshIn {h with collections := Function.update h.collections family c} families := by
  intro other hother c' hc'
  have hne : other≠family := by
    rintro rfl
    exact hf hother
  dsimp only at hc'
  rw [Function.update_of_ne hne] at hc'
  exact hfresh other hother c' hc'

theorem FreshIn.tail {h : BpfLoadedHandlerCollections} {family : BpfHandlerFamily}
    {families : List BpfHandlerFamily} (hfresh : FreshIn h (family::families)) :
    FreshIn h families :=
  fun other hother => hfresh other (List.mem_cons_of_mem _ hother)

/-- Closing the collections of some families closes what their owners hold. -/
theorem closeFamilies_accounts (env : Environment) {families : List BpfHandlerFamily}
    {h : BpfLoadedHandlerCollections} (hnodup : families.Nodup) (hfresh : FreshIn h families)
    (hl : Accounts l (ownedBy h families ++ held) left) :
    Accounts (closeFamilies env families h l).2.1 held left := by
  induction families generalizing h l with
  | nil => exact hl
  | cons family families ih =>
    obtain ⟨hnotin,htail⟩ := List.nodup_cons.mp hnodup
    rw [ownedBy,List.flatMap_cons,←ownedBy] at hl
    rw [closeFamilies]
    cases hc : h.collections family with
    | none =>
      rw [hc] at hl
      exact ih htail hfresh.tail hl
    | some c =>
      rw [hc,List.append_assoc] at hl
      have hone := (hfresh family List.mem_cons_self c hc).close_accounts env hl
      refine ih htail (hfresh.tail.update _ hnotin) ?_
      rw [ownedBy_update _ hnotin]
      exact hone

/-- The closers taken of some families hold what their owners held. -/
theorem takeFamilies_resources {families : List BpfHandlerFamily}
    {h : BpfLoadedHandlerCollections} (hnodup : families.Nodup) (hfresh : FreshIn h families) :
    (takeFamilies families h).flatMap Closer.resources=ownedBy h families := by
  induction families generalizing h with
  | nil => rfl
  | cons family families ih =>
    obtain ⟨hnotin,htail⟩ := List.nodup_cons.mp hnodup
    rw [ownedBy,List.flatMap_cons,←ownedBy,takeFamilies]
    cases hc : h.collections family with
    | none => exact ih htail hfresh.tail
    | some c =>
      have hone := hfresh family List.mem_cons_self c hc
      have hrest := ih htail (hfresh.tail.update (some c.transferCloser.1) hnotin)
      rw [ownedBy_update _ hnotin] at hrest
      dsimp only
      rw [hone.transferCloser_eq,List.flatMap_append,hrest,Option.elim_some,hone.owned_eq]
      exact congrArg (· ++ ownedBy h families) (List.append_nil _)

/-- The closers taken close whole collections. -/
theorem takeFamilies_plain {families : List BpfHandlerFamily}
    {h : BpfLoadedHandlerCollections} (hnodup : families.Nodup) (hfresh : FreshIn h families) :
    ∀ closer∈takeFamilies families h, closer.leftOpen env=[] := by
  induction families generalizing h with
  | nil =>
    intro closer hcloser
    exact absurd hcloser List.not_mem_nil
  | cons family families ih =>
    obtain ⟨hnotin,htail⟩ := List.nodup_cons.mp hnodup
    rw [takeFamilies]
    cases hc : h.collections family with
    | none => exact ih htail hfresh.tail
    | some c =>
      intro closer hcloser
      dsimp only at hcloser
      rcases List.mem_append.mp hcloser with hone | hrest
      · rw [(hfresh family List.mem_cons_self c hc).transferCloser_eq] at hone
        rw [List.mem_singleton.mp hone]
        rfl
      · exact ih htail (hfresh.tail.update _ hnotin) closer hrest

/-- A new collection has the numbers that follow. -/
theorem newCollection_resources (spec : CollectionSpec) (l : Ledger) :
    (newCollection spec l).1.resources=
      List.range' l.opened (spec.programs.length+spec.maps.length) := by
  have hnumbers (names : List String) (start : ℕ) :
      (names.zipIdx start).map Prod.snd=List.range' start names.length :=
    List.zipIdx_map_snd _ _
  rw [newCollection,Collection.resources]
  dsimp only
  rw [hnumbers,hnumbers,List.range'_append_1]

/-- What is in a new collection is held by its owner. -/
theorem newCollection_accounts (spec : CollectionSpec) (h : Accounts l held left) :
    Accounts (newCollection spec l).2 ((newCollection spec l).1.resources ++ held) left := by
  rw [newCollection_resources]
  exact h.obtain _

/-- What the owner in a slot would close. -/
def BpfHandlerCollectionLoadResult.owned (result : BpfHandlerCollectionLoadResult) : List ℕ :=
  result.collection.elim [] BpfLoadedCollection.owned

/-- A slot stays empty, or it gets the owner of a new collection. -/
theorem loadSlot_cases (plan : BpfCollectionPlan) (core : Collection) (family : BpfHandlerFamily)
    (l : Ledger) :
    (∃ err, loadSlot env plan core family l=({family := family, err := err},l)) ∨
    ∃ spec, loadSlot env plan core family l=
      ({family := family, collection := some {collection := some (newCollection spec l).1}},
        (newCollection spec l).2) := by
  unfold loadSlot loadBPFHandlerFamily
  cases plan.handlerSpecs family with
  | none => exact .inl ⟨_,rfl⟩
  | some spec =>
    dsimp only
    cases spec.programs.isEmpty with
    | true => exact .inl ⟨_,rfl⟩
    | false =>
      cases newBPFMapReplacementPlan core spec with
      | error err => exact .inl ⟨_,rfl⟩
      | ok replacements =>
        cases env.newCollection (some family) with
        | some cause => exact .inl ⟨_,rfl⟩
        | none => exact .inr ⟨spec,rfl⟩

theorem loadSlot_family (plan : BpfCollectionPlan) (core : Collection) (family : BpfHandlerFamily)
    (l : Ledger) : (loadSlot env plan core family l).1.family=family := by
  rcases loadSlot_cases plan core family l with ⟨err,h⟩ | ⟨spec,h⟩ <;> rw [h]

theorem loadSlot_fresh (plan : BpfCollectionPlan) (core : Collection) (family : BpfHandlerFamily)
    (l : Ledger) : ∀ c, (loadSlot env plan core family l).1.collection=some c → Fresh c := by
  intro c hc
  rcases loadSlot_cases plan core family l with ⟨err,h⟩ | ⟨spec,h⟩
  · rw [h] at hc
    exact absurd hc.symm (Option.some_ne_none c)
  · rw [h] at hc
    obtain rfl := Option.some.inj hc
    exact ⟨rfl,rfl,rfl⟩

theorem loadSlot_accounts (env : Environment) (plan : BpfCollectionPlan) (core : Collection)
    (family : BpfHandlerFamily) (h : Accounts l held left) :
    Accounts (loadSlot env plan core family l).2
      ((loadSlot env plan core family l).1.owned ++ held) left := by
  rcases loadSlot_cases plan core family l with ⟨err,hslot⟩ | ⟨spec,hslot⟩
  · rw [hslot]
    exact h
  · rw [hslot]
    exact newCollection_accounts spec h

theorem loadSlot_closes (plan : BpfCollectionPlan) (core : Collection)
    (family : BpfHandlerFamily) (l : Ledger) :
    (loadSlot env plan core family l).2.closes=l.closes := by
  rcases loadSlot_cases plan core family l with ⟨err,h⟩ | ⟨spec,h⟩ <;> rw [h]
  rfl

/-- What the owners in some slots would close. -/
def slotsOwned (results : List BpfHandlerCollectionLoadResult) : List ℕ :=
  results.flatMap BpfHandlerCollectionLoadResult.owned

/-- The slots of some families. -/
structure Slots (families : List BpfHandlerFamily)
    (results : List BpfHandlerCollectionLoadResult) : Prop where
  /-- One for each family, in their order. -/
  families : results.map BpfHandlerCollectionLoadResult.family=families
  /-- The owners in them are fresh. -/
  fresh : ∀ result∈results, ∀ c, result.collection=some c → Fresh c

theorem loadSlots_slots (env : Environment) (plan : BpfCollectionPlan) (core : Collection)
    (families : List BpfHandlerFamily) (l : Ledger) :
    Slots families (loadSlots env plan core families l).1 := by
  induction families generalizing l with
  | nil => exact ⟨rfl,fun result hresult => absurd hresult List.not_mem_nil⟩
  | cons family families ih =>
    rw [loadSlots]
    have hrest := ih (loadSlot env plan core family l).2
    constructor
    · exact congrArg₂ List.cons (loadSlot_family plan core family l) hrest.families
    · intro result hresult
      rcases List.mem_cons.mp hresult with rfl | hresult
      · exact loadSlot_fresh plan core family l
      · exact hrest.fresh result hresult

theorem loadSlots_accounts (plan : BpfCollectionPlan) (core : Collection)
    (families : List BpfHandlerFamily) (h : Accounts l held left) :
    Accounts (loadSlots env plan core families l).2
      (slotsOwned (loadSlots env plan core families l).1 ++ held) left := by
  induction families generalizing l held with
  | nil => exact h
  | cons family families ih =>
    rw [loadSlots]
    have hrest := ih (loadSlot_accounts env plan core family h)
    refine hrest.perm ?_ (List.Perm.refl _)
    rw [slotsOwned,List.flatMap_cons,←slotsOwned,List.append_assoc]
    exact List.perm_append_comm_assoc _ _ _

theorem loadSlots_closes (plan : BpfCollectionPlan) (core : Collection)
    (families : List BpfHandlerFamily) (l : Ledger) :
    (loadSlots env plan core families l).2.closes=l.closes := by
  induction families generalizing l with
  | nil => rfl
  | cons family families ih =>
    rw [loadSlots]
    exact (ih _).trans (loadSlot_closes plan core family l)

/-- The collections that some slots left. -/
structure Gathered (results : List BpfHandlerCollectionLoadResult)
    (h : BpfLoadedHandlerCollections) : Prop where
  /-- Families with a collection are those of slots. -/
  order : h.loadOrder.Sublist (results.map BpfHandlerCollectionLoadResult.family)
  /-- The owners are fresh. -/
  fresh : FreshIn h h.loadOrder
  /-- They are the owners of the slots. -/
  owned : ownedBy h h.loadOrder=slotsOwned results

theorem ownedBy_append (h : BpfLoadedHandlerCollections) (families families' : List _) :
    ownedBy h (families ++ families')=ownedBy h families ++ ownedBy h families' :=
  List.flatMap_append

/-- One more slot is gathered. -/
theorem Gathered.add {results : List BpfHandlerCollectionLoadResult}
    {h : BpfLoadedHandlerCollections} {result : BpfHandlerCollectionLoadResult}
    (hgathered : Gathered results h)
    (hnew : result.family∉results.map BpfHandlerCollectionLoadResult.family)
    (hfresh : ∀ c, result.collection=some c → Fresh c) :
    Gathered (results ++ [result]) (h.add result) := by
  have hnotin : result.family∉h.loadOrder := fun hmem => hnew (hgathered.order.subset hmem)
  have hslots : slotsOwned (results ++ [result])=slotsOwned results ++ result.owned := by
    rw [slotsOwned,List.flatMap_append,List.flatMap_singleton,←slotsOwned]
  rw [BpfLoadedHandlerCollections.add]
  cases hc : result.collection with
  | none =>
    refine ⟨?_,hgathered.fresh,?_⟩
    · rw [List.map_append]
      exact hgathered.order.trans (List.sublist_append_left _ _)
    · rw [hslots,BpfHandlerCollectionLoadResult.owned,hc,hgathered.owned]
      exact (List.append_nil _).symm
  | some c =>
    refine ⟨?_,?_,?_⟩
    · rw [List.map_append]
      exact hgathered.order.append (List.Sublist.refl _)
    · intro family hfamily c' hc'
      rcases List.mem_append.mp hfamily with hold | hsame
      · exact hgathered.fresh.update (some c) hnotin family hold c' hc'
      · obtain rfl := List.mem_singleton.mp hsame
        dsimp only at hc'
        rw [Function.update_self] at hc'
        obtain rfl := Option.some.inj hc'
        exact hfresh c hc
    · dsimp only
      rw [ownedBy_append,hslots,←hgathered.owned]
      congr 1
      · exact ownedBy_update (some c) hnotin
      · rw [ownedBy,List.flatMap_singleton,BpfHandlerCollectionLoadResult.owned,hc]
        dsimp only
        rw [Function.update_self]

/-- All slots are gathered. -/
theorem gathered_foldl {results done : List BpfHandlerCollectionLoadResult}
    {h : BpfLoadedHandlerCollections} (hgathered : Gathered done h)
    (hnodup : ((done ++ results).map BpfHandlerCollectionLoadResult.family).Nodup)
    (hfresh : ∀ result∈results, ∀ c, result.collection=some c → Fresh c) :
    Gathered (done ++ results) (results.foldl BpfLoadedHandlerCollections.add h) := by
  induction results generalizing done h with
  | nil =>
    rw [List.append_nil]
    exact hgathered
  | cons result results ih =>
    rw [List.append_cons] at hnodup ⊢
    refine ih (hgathered.add ?_ (hfresh result List.mem_cons_self)) hnodup
      fun other hother => hfresh other (List.mem_cons_of_mem _ hother)
    rw [List.map_append,List.map_append] at hnodup
    have hdone := (List.nodup_append.mp hnodup.of_append_left).2.2
    intro hmem
    exact hdone _ hmem _ (List.mem_singleton_self _) rfl

/-- What the load of all families leaves. -/
structure HandlersLoaded (env : Environment) (l l' : Ledger) (held left : List ℕ)
    (h : BpfLoadedHandlerCollections) : Prop where
  /-- Every family has its collection once. -/
  order : h.loadOrder.Nodup
  /-- The owners are fresh. -/
  fresh : FreshIn h h.loadOrder
  /-- What was loaded is held by them. -/
  accounts : Accounts l' (ownedBy h h.loadOrder ++ held) left
  /-- Nothing was closed. -/
  closes : l'.closes=l.closes

theorem loadHandlers_loaded (env : Environment) (plan : BpfCollectionPlan) (core : Collection)
    (h : Accounts l held left) :
    HandlersLoaded env l (loadBPFHandlerCollectionsParallel env plan core l).2.1 held left
      (loadBPFHandlerCollectionsParallel env plan core l).1 := by
  have hslots := loadSlots_slots env plan core bpfHandlerFamilyCatalog l
  have hempty : Gathered [] {} :=
    ⟨List.Sublist.refl _,fun family hfamily => absurd hfamily List.not_mem_nil,rfl⟩
  have hnodup : bpfHandlerFamilyCatalog.Nodup := by decide
  have hall := gathered_foldl hempty (by rw [List.nil_append,hslots.families]; exact hnodup)
    hslots.fresh
  rw [List.nil_append] at hall
  rw [loadBPFHandlerCollectionsParallel]
  refine ⟨(hslots.families ▸ hall.order).nodup hnodup,hall.fresh,?_,loadSlots_closes _ _ _ _⟩
  dsimp only
  rw [hall.owned]
  exact loadSlots_accounts plan core _ h

end Loading

section Binding

variable {env : Environment} {l : Ledger} {held left : List ℕ}

theorem fieldResources_assign (fields : List String) (resources : List (String×ℕ)) :
    fieldResources (assignBPFTaggedFields fields resources)=
      fields.filterMap fun name => resources.lookup name :=
  List.filterMap_map

/-- Assigning one more resource that has a field gives its number to that field. -/
theorem lookup_cons_perm {fields : List String} {name : String} {id : ℕ}
    {resources : List (String×ℕ)} (hfields : fields.Nodup) (hname : name∈fields)
    (hnew : name∉resources.map Prod.fst) :
    (fields.filterMap fun field => ((name,id)::resources).lookup field).Perm
      (id::fields.filterMap fun field => resources.lookup field) := by
  induction fields with
  | nil => exact absurd hname List.not_mem_nil
  | cons field fields ih =>
    obtain ⟨hnotin,htail⟩ := List.nodup_cons.mp hfields
    rw [List.filterMap_cons,List.filterMap_cons]
    by_cases hfield : field=name
    · subst hfield
      have hnone : resources.lookup field=none := by
        rw [List.lookup_eq_none_iff]
        intro entry hentry
        rw [bne_iff_ne]
        rintro rfl
        exact hnew (List.mem_map_of_mem hentry)
      have hsame : ((field,id)::resources).lookup field=some id := List.lookup_cons_self
      rw [hnone,hsame]
      refine List.Perm.cons id (List.Perm.of_eq (List.filterMap_congr fun other hother => ?_))
      have hne : (other==field)=false := by
        rw [beq_eq_false_iff_ne]
        rintro rfl
        exact hnotin hother
      rw [List.lookup_cons,hne]
    · have hrest := ih htail ((List.mem_cons.mp hname).resolve_left fun h => hfield h.symm)
      have hne : (field==name)=false := by
        rw [beq_eq_false_iff_ne]
        exact hfield
      rw [List.lookup_cons,hne]
      dsimp only
      cases resources.lookup field with
      | none => exact hrest
      | some other => exact (hrest.cons other).trans (List.Perm.swap _ _ _)

/-- A resource without a field is assigned to none. -/
theorem lookup_cons_of_notMem {fields : List String} {name : String} {id : ℕ}
    {resources : List (String×ℕ)} (hname : name∉fields) :
    (fields.filterMap fun field => ((name,id)::resources).lookup field)=
      fields.filterMap fun field => resources.lookup field := by
  refine List.filterMap_congr fun field hfield => ?_
  have hne : (field==name)=false := by
    rw [beq_eq_false_iff_ne]
    rintro rfl
    exact hname hfield
  rw [List.lookup_cons,hne]

/-- The fields hold the resources that have one. -/
theorem assign_perm (fields : List String) {resources : List (String×ℕ)}
    (hfields : fields.Nodup) (hnames : (resources.map Prod.fst).Nodup) :
    (fieldResources (assignBPFTaggedFields fields resources)).Perm
      ((resources.filter fun entry => fields.contains entry.1).map Prod.snd) := by
  rw [fieldResources_assign]
  induction resources with
  | nil =>
    refine List.Perm.of_eq (List.filterMap_eq_nil_iff.mpr fun field _ => rfl)
  | cons entry resources ih =>
    obtain ⟨name,id⟩ := entry
    obtain ⟨hnew,htail⟩ := List.nodup_cons.mp hnames
    cases hcontains : fields.contains name with
    | true =>
      rw [List.filter_cons,if_pos (by exact hcontains)]
      exact (lookup_cons_perm hfields (List.contains_iff_mem.mp hcontains) hnew).trans
        ((ih htail).cons id)
    | false =>
      have hnotin : name∉fields := fun hmem => by
        rw [List.contains_iff_mem.mpr hmem] at hcontains
        exact absurd hcontains.symm Bool.false_ne_true
      have hfalse : ¬fields.contains name=true := fun htrue =>
        hnotin (List.contains_iff_mem.mp htrue)
      rw [lookup_cons_of_notMem hnotin,List.filter_cons,if_neg (by exact hfalse)]
      exact ih htail

/-- What has a field and what has none is everything. -/
theorem filter_append_filter_not (fields : List String) (resources : List (String×ℕ)) :
    ((resources.filter fun entry => fields.contains entry.1).map Prod.snd ++
      (resources.filter fun entry => !fields.contains entry.1).map Prod.snd).Perm
      (resources.map Prod.snd) := by
  rw [←List.map_append]
  exact (List.filter_append_perm _ _).map _

theorem collectBPFExtraClosers_resources (c : Collection) :
    ((collectBPFExtraClosers c).flatMap Closer.resources).Perm
      ((c.programs.filter fun entry => !bpfPrograms.contains entry.1).map Prod.snd ++
        (c.maps.filter fun entry => !bpfMaps.contains entry.1).map Prod.snd) := by
  rw [collectBPFExtraClosers,List.flatMap_map,←List.map_append]
  have hsingle (entries : List (String×ℕ)) :
      entries.flatMap (fun entry => (Closer.resource entry.2).resources)=
        entries.map Prod.snd := List.map_eq_flatMap.symm
  rw [hsingle]
  exact (List.mergeSort_perm _ _).map _

theorem collectBPFExtraClosers_plain (c : Collection) :
    ∀ closer∈collectBPFExtraClosers c, closer.leftOpen env=[] := by
  intro closer hcloser
  rw [collectBPFExtraClosers] at hcloser
  obtain ⟨entry,-,rfl⟩ := List.mem_map.mp hcloser
  rfl

/-- Closers of a group leave nothing open when none of them does. -/
theorem named_plain {closers : List Closer} (h : ∀ closer∈closers, closer.leftOpen env=[])
    (start : String) : closersLeftOpen env (named start closers)=[] := by
  refine closersLeftOpen_of_plain fun resource hresource => ?_
  rw [named] at hresource
  obtain ⟨entry,hentry,rfl⟩ := List.mem_map.mp hresource
  exact h entry.1 (List.fst_mem_of_mem_zipIdx hentry)

/-- The core objects and the closers of the rest hold the core collection. -/
structure Bound (env : Environment) (collection : Collection) (objects : BpfObjects)
    (extras : List (String×Closer)) : Prop where
  /-- Together they hold everything in it. -/
  resources : (objects.resources ++ closersResources extras).Perm collection.resources
  /-- The closers of the rest leave nothing open. -/
  plain : closersLeftOpen env extras=[]

theorem bound_of_nodup (env : Environment) {c : Collection}
    (hprograms : (c.programs.map Prod.fst).Nodup) (hmaps : (c.maps.map Prod.fst).Nodup) :
    Bound env c
      { programs := assignBPFTaggedFields bpfPrograms c.programs
        maps := assignBPFTaggedFields bpfMaps c.maps }
      (named "bpf_extra" (collectBPFExtraClosers c)) := by
  refine ⟨?_,named_plain (collectBPFExtraClosers_plain c) _⟩
  have hprogramFields := assign_perm bpfPrograms (by decide) hprograms
  have hmapFields := assign_perm bpfMaps (by decide) hmaps
  have hextras := collectBPFExtraClosers_resources c
  rw [closersResources_named,BpfObjects.resources,Collection.resources]
  have hall := (hprogramFields.append hmapFields).append hextras
  refine hall.trans ?_
  have hp := filter_append_filter_not bpfPrograms c.programs
  have hm := filter_append_filter_not bpfMaps c.maps
  refine List.Perm.trans ?_ (hp.append hm)
  rw [List.append_assoc,List.append_assoc]
  exact List.Perm.append_left _ (List.perm_append_comm_assoc _ _ _)

/-- A bundle binds the core collection and has no handler collection yet. -/
theorem bind_bound {c : Collection} (hprograms : (c.programs.map Prod.fst).Nodup)
    (hmaps : (c.maps.map Prod.fst).Nodup) {h : BpfLoadedHandlerCollections}
    {selection : BpfProgramSelection} {bundle : BpfObjectBundle}
    (hbind : bind env {collection := some c} h selection=.ok bundle) :
    ∃ objects, bundle.core=some objects ∧ bundle.handlerResources=[] ∧
      Bound env c objects bundle.extraResources := by
  have hbound := bound_of_nodup env hprograms hmaps
  have hvalue : ({collection := some c} : BpfLoadedCollection).value=some c := rfl
  rw [bind,hvalue] at hbind
  dsimp only at hbind
  unfold assignBPFCollection at hbind
  cases hmissing : bpfMaps.find? fun name => (c.maps.lookup name).isNone with
  | some name =>
    rw [hmissing] at hbind
    exact absurd hbind (by simp)
  | none =>
    rw [hmissing] at hbind
    dsimp only at hbind
    cases hselected : selectedBPFHandlerPrograms env h selection with
    | error err =>
      rw [hselected] at hbind
      exact absurd hbind (by simp)
    | ok programs =>
      rw [hselected] at hbind
      obtain rfl := Except.ok.inj hbind
      exact ⟨_,rfl,rfl,hbound⟩

end Binding

section Setup

variable {env : Environment} {l : Ledger} {held left : List ℕ}

/-- Numbers of the core collection: it is loaded first. -/
def Environment.coreSize (env : Environment) : ℕ :=
  match env.prepare with
  | .ok plan => plan.coreSpec.programs.length+plan.coreSpec.maps.length
  | .error _ => 0

/-- Everything was closed once. Only fields of the core objects stay open, and only when the close
of another one failed. -/
structure ClosedOnce (env : Environment) (l : Ledger) : Prop where
  /-- Nothing is closed twice. -/
  nodup : l.closes.Nodup
  /-- Only what was obtained is closed. -/
  obtained : ∀ id∈l.closes, id < l.opened
  /-- Everything that was obtained is closed, or one of the core fields failed before it. -/
  complete : ∀ id < l.opened, id∉l.closes →
    id < env.coreSize ∧ ∃ failed∈l.closes, failed < env.coreSize ∧ (env.closeError failed).isSome

/-- The objects hold numbers of the core collection only. -/
def InCore (env : Environment) (o : BpfObjects) : Prop := ∀ id∈o.resources, id < env.coreSize

theorem InCore.closedOnce {o : BpfObjects} (h : InCore env o)
    (haccounts : Accounts l [] (o.leftOpen env)) (hattempted : (o.close env).1⊆l.closes) :
    ClosedOnce env l := by
  refine ⟨haccounts.closes_nodup,fun id hid => haccounts.lt_of_mem_closes hid,?_⟩
  intro id hid hopen
  have hmem : id∈o.leftOpen env := by
    have hall := haccounts.mem_iff.mpr (List.mem_range.mpr hid)
    rw [List.nil_append] at hall
    exact (List.mem_append.mp hall).resolve_left hopen
  have hsplit := objects_attempted env o
  obtain ⟨failed,hfailed,hsome⟩ :=
    failed_of_leftOpen (.objects o) (List.ne_nil_of_mem hmem)
  exact ⟨h id (hsplit ▸ List.mem_append_right _ hmem),failed,hattempted hfailed,
    h failed (hsplit ▸ List.mem_append_left _ hfailed),hsome⟩

theorem closedOnce_of_accounts (h : Accounts l [] []) : ClosedOnce env l := by
  refine ⟨h.closes_nodup,fun id hid => h.lt_of_mem_closes hid,fun id hid hopen => ?_⟩
  have hall := h.mem_iff.mpr (List.mem_range.mpr hid)
  rw [List.append_nil,List.append_nil] at hall
  exact absurd hall hopen

/-- What a bundle holds. -/
def BpfObjectBundle.resources (b : BpfObjectBundle) : List ℕ :=
  closersResources b.handlerResources ++
    (b.core.elim [] BpfObjects.resources ++ closersResources b.extraResources)

/-- A bundle that was just loaded. -/
structure Loaded (env : Environment) (b : BpfObjectBundle) (objects : BpfObjects) : Prop where
  /-- The core objects. -/
  core : b.core=some objects
  /-- They hold numbers of the core collection. -/
  inCore : InCore env objects
  /-- The handler collections are closed as a whole. -/
  handlers : closersLeftOpen env b.handlerResources=[]
  /-- So is the rest of the core collection. -/
  extras : closersLeftOpen env b.extraResources=[]

/-- Closing a bundle closes what it holds, except the core fields behind one that failed. -/
theorem Loaded.close_closedOnce {b : BpfObjectBundle} {objects : BpfObjects}
    (hb : Loaded env b objects) (h : Accounts l b.resources []) :
    ClosedOnce env (b.close env l).1 := by
  have hhandlers := closeNamed_accounts env h
  rw [hb.handlers,hb.core,Option.elim_some,List.append_nil] at hhandlers
  have hsplit := objects_attempted env objects
  rw [←hsplit,List.append_assoc] at hhandlers
  have hcore := (hhandlers.attempt (List.Perm.refl _)).leave
  rw [←List.append_nil (closersResources b.extraResources)] at hcore
  have hextras := closeNamed_accounts env hcore
  rw [hb.extras,List.append_nil] at hextras
  rw [BpfObjectBundle.close,hb.core]
  refine hb.inCore.closedOnce hextras ?_
  rw [closeNamed_closes,Ledger.attempt_closes]
  exact List.subset_append_of_subset_left _ (List.subset_append_right _ _)

theorem failure_closedOnce {b : BpfObjectBundle} {objects : BpfObjects} {links : List Link}
    (hb : Loaded env b objects) (h : Accounts l (links ++ b.resources) []) (message err : String) :
    ClosedOnce env (closeBPFSetupFailure env message err links b l).2 := by
  rw [closeBPFSetupFailure]
  exact hb.close_closedOnce (h.attempt (List.Perm.refl _))

/-- What the load of the collections leaves. -/
structure LoadOutcome (env : Environment) (out : Except String BpfObjectBundle×Ledger) : Prop where
  /-- A load that failed closed everything. -/
  failed : ∀ err, out.1=.error err → Accounts out.2 [] []
  /-- A load that succeeded closed nothing, and the bundle holds everything. -/
  loaded : ∀ b, out.1=.ok b → out.2.closes=[] ∧ Accounts out.2 b.resources [] ∧
    ∃ objects, Loaded env b objects

theorem loadOutcome_of_error {err : String} (h : Accounts l [] []) :
    LoadOutcome env (.error err,l) :=
  ⟨fun _ _ => h,fun _ hb => absurd hb (by simp)⟩

/-- The handler collections are handed to the bundle. -/
theorem HandlersLoaded.transferTo {l' : Ledger} {h : BpfLoadedHandlerCollections}
    {c : Collection} (hh : HandlersLoaded env l l' c.resources [] h) (hcloses : l.closes=[])
    {objects : BpfObjects} {b : BpfObjectBundle} (hcore : b.core=some objects)
    (hempty : b.handlerResources=[]) (hbound : Bound env c objects b.extraResources)
    (hin : ∀ id∈c.resources, id < env.coreSize) : LoadOutcome env (.ok (h.transferTo b),l') := by
  have hnodup : h.loadOrder.reverse.Nodup := List.nodup_reverse.mpr hh.order
  have hfresh : FreshIn h h.loadOrder.reverse :=
    fun family hfamily => hh.fresh family (List.mem_reverse.mp hfamily)
  have hclosers : closersResources (h.transferTo b).handlerResources=
      ownedBy h h.loadOrder.reverse := by
    rw [BpfLoadedHandlerCollections.transferTo,hempty,List.nil_append]
    exact (closersResources_named _ _).trans (takeFamilies_resources hnodup hfresh)
  have hreverse : (ownedBy h h.loadOrder.reverse).Perm (ownedBy h h.loadOrder) :=
    (List.reverse_perm _).flatMap_right _
  refine ⟨fun err herr => absurd herr (by simp),fun b' hb' => ?_⟩
  obtain rfl := Except.ok.inj hb'
  refine ⟨hh.closes.trans hcloses,?_,objects,hcore,?_,?_,hbound.plain⟩
  · refine hh.accounts.perm ?_ (List.Perm.refl _)
    have hcore' : (h.transferTo b).core=some objects := hcore
    rw [BpfObjectBundle.resources,hclosers,hcore',Option.elim_some]
    exact hreverse.append hbound.resources
  · exact fun id hid => hin id (hbound.resources.subset (List.mem_append_left _ hid))
  · rw [BpfLoadedHandlerCollections.transferTo,hempty,List.nil_append]
    exact named_plain (takeFamilies_plain hnodup hfresh) _

/-- Closing the handler collections and the core closes everything. -/
theorem HandlersLoaded.close_accounts {l' : Ledger} {h : BpfLoadedHandlerCollections}
    {c : BpfLoadedCollection} (hh : HandlersLoaded env l l' c.owned [] h) (hc : Fresh c) :
    Accounts (c.close env (h.close env l').2.1).2.1 [] [] := by
  have hnodup : h.loadOrder.reverse.Nodup := List.nodup_reverse.mpr hh.order
  have hfresh : FreshIn h h.loadOrder.reverse :=
    fun family hfamily => hh.fresh family (List.mem_reverse.mp hfamily)
  have hreverse : (ownedBy h h.loadOrder.reverse).Perm (ownedBy h h.loadOrder) :=
    (List.reverse_perm _).flatMap_right _
  have hall := hh.accounts.perm (hreverse.append_right _) (List.Perm.refl _)
  have hhandlers := closeFamilies_accounts env hnodup hfresh hall
  rw [←List.append_nil c.owned] at hhandlers
  exact hc.close_accounts env hhandlers

/-- The stage that loads the collections closes everything when it fails. -/
theorem loadBPFObjects_outcome (env : Environment) (selection : BpfProgramSelection) :
    LoadOutcome env (loadBPFObjectsWithTiming env selection {}) := by
  unfold loadBPFObjectsWithTiming
  cases hprepare : env.prepare with
  | error err => exact loadOutcome_of_error accounts_empty
  | ok plan =>
    cases env.newCollection none with
    | some err => exact loadOutcome_of_error accounts_empty
    | none =>
      have hcore := newCollection_accounts plan.coreSpec accounts_empty
      have hresources := newCollection_resources plan.coreSpec {}
      set core := (newCollection plan.coreSpec {}).1 with hcoredef
      have hfresh : Fresh {collection := some core} := ⟨rfl,rfl,rfl⟩
      have hin : ∀ id∈core.resources, id < env.coreSize := by
        intro id hid
        rw [hresources,List.mem_range'_1] at hid
        rw [Environment.coreSize,hprepare]
        exact hid.2.trans_eq (Nat.zero_add _)
      have hprograms : (core.programs.map Prod.fst).Nodup := by
        have hnames : core.programs.map Prod.fst=plan.coreSpec.programs :=
          List.zipIdx_map_fst _ _
        rw [hnames]
        exact plan.coreSpec.programs_nodup
      have hmaps : (core.maps.map Prod.fst).Nodup := by
        have hnames : core.maps.map Prod.fst=plan.coreSpec.maps := List.zipIdx_map_fst _ _
        rw [hnames]
        exact plan.coreSpec.maps_nodup
      dsimp only
      split_ifs with hnone
      · exact loadOutcome_of_error (hfresh.close_accounts env hcore)
      · rw [List.append_nil] at hcore
        have hhandlers := loadHandlers_loaded env plan core hcore
        rcases hload : loadBPFHandlerCollectionsParallel env plan core
          (newCollection plan.coreSpec {}).2 with ⟨h,l,_ | err⟩
        · rw [hload] at hhandlers
          dsimp only
          cases hbind : bind env {collection := some core} h selection with
          | error err => exact loadOutcome_of_error (hhandlers.close_accounts hfresh)
          | ok b =>
            obtain ⟨objects,hobjects,hempty,hbound⟩ := bind_bound hprograms hmaps hbind
            exact hhandlers.transferTo rfl hobjects hempty hbound hin
        · rw [hload] at hhandlers
          exact loadOutcome_of_error (hhandlers.close_accounts hfresh)

theorem attachOne_cases (env : Environment) (hook : Hook) (program : Option ℕ) (l : Ledger) :
    (∃ err, attachOne env hook program l=(.error err,l)) ∨
      attachOne env hook program l=(.ok l.opened,l.obtain 1) := by
  rw [attachOne]
  cases env.attach hook program with
  | some cause => exact .inl ⟨_,rfl⟩
  | none => exact .inr rfl

theorem attachSpec_cases (env : Environment) (hook : Hook) (program : Option ℕ) (l : Ledger) :
    (∃ err, attachSpec env hook program l=(.error err,l)) ∨
      attachSpec env hook program l=(.ok l.opened,l.obtain 1) := by
  rw [attachSpec]
  split_ifs with hmissing
  · exact .inl ⟨_,rfl⟩
  · exact attachOne_cases env hook program l

/-- Links are held by who attached them, and attaching closes nothing. -/
structure Attached (l l' : Ledger) (links held left : List ℕ) : Prop where
  /-- The links are held too. -/
  accounts : Accounts l' (links ++ held) left
  /-- Nothing was closed. -/
  closes : l'.closes=l.closes

theorem attached_nil (h : Accounts l held left) : Attached l l [] held left := ⟨h,rfl⟩

theorem attached_one (h : Accounts l held left) :
    Attached l (l.obtain 1) [l.opened] held left := ⟨h.obtain 1,rfl⟩

theorem Attached.append {l' l'' : Ledger} {links more : List ℕ}
    (h : Attached l l' links held left) (hmore : Attached l' l'' more (links ++ held) left) :
    Attached l l'' (links ++ more) held left := by
  refine ⟨hmore.accounts.perm ?_ (List.Perm.refl _),hmore.closes.trans h.closes⟩
  rw [List.append_assoc]
  exact List.perm_append_comm_assoc _ _ _

theorem attachTracepoints_attached (env : Environment) (specs : List (Hook×Option ℕ))
    (h : Accounts l held left) :
    Attached l (attachTracepoints env specs l).2.1 (attachTracepoints env specs l).1 held
      left := by
  induction specs generalizing l held with
  | nil => exact attached_nil h
  | cons spec specs ih =>
    obtain ⟨hook,program⟩ := spec
    rw [attachTracepoints]
    rcases attachSpec_cases env hook program l with ⟨err,hspec⟩ | hspec
    · rw [hspec]
      exact attached_nil h
    · rw [hspec]
      have hone := attached_one h
      exact hone.append (ih hone.accounts)

theorem attachGroups_attached (env : Environment) (groups : List (List (Hook×Option ℕ)))
    (h : Accounts l held left) :
    Attached l (attachGroups env groups l).2.1 (attachGroups env groups l).1 held left := by
  induction groups generalizing l held with
  | nil => exact attached_nil h
  | cons specs groups ih =>
    have hspecs := attachTracepoints_attached env specs h
    rw [attachGroups]
    rcases hattach : attachTracepoints env specs l with ⟨links,l',_ | err⟩
    · rw [hattach] at hspecs
      exact hspecs.append (ih hspecs.accounts)
    · rw [hattach] at hspecs
      exact hspecs

theorem attachFirst_attached (env : Environment) (program : Option ℕ) (symbols : List String)
    (h : Accounts l held left) :
    Attached l (attachFirst env program symbols l).2
      (attachFirst env program symbols l).1.toList held left := by
  induction symbols with
  | nil => exact attached_nil h
  | cons symbol symbols ih =>
    rw [attachFirst]
    rcases attachOne_cases env (.kretprobe symbol) program l with ⟨err,hone⟩ | hone
    · rw [hone]
      exact ih
    · rw [hone]
      exact attached_one h

theorem attachOptional_attached (env : Environment) (enabled : Bool) (program : String → Option ℕ)
    (h : Accounts l held left) :
    Attached l (attachOptionalRecvmsgFor env enabled program l).2
      (attachOptionalRecvmsgFor env enabled program l).1.toList held left := by
  rw [attachOptionalRecvmsgFor]
  split_ifs with henabled
  · exact attached_nil h
  · cases program "trace_kretprobe_recvmsg_dispatch" with
    | none => exact attached_nil h
    | some id =>
      cases env.syscallWrapperPrefix with
      | error err => exact attached_nil h
      | ok start => exact attachFirst_attached env _ _ h

/-- What a runtime holds. -/
def TraceBPFRuntime.resources (r : TraceBPFRuntime) : List ℕ :=
  r.links ++ (closersResources r.handlerResources ++
    (r.core.elim [] BpfObjects.resources ++ closersResources r.extraResources))

/-- A runtime that can close everything. -/
structure Ready (env : Environment) (l : Ledger) (r : TraceBPFRuntime) : Prop where
  /-- Nothing was closed. -/
  closes : l.closes=[]
  /-- The runtime holds everything. -/
  accounts : Accounts l r.resources []
  /-- The core objects hold numbers of the core collection. -/
  core : ∃ objects, r.core=some objects ∧ InCore env objects
  /-- The handler collections are closed as a whole. -/
  handlers : closersLeftOpen env r.handlerResources=[]
  /-- So is the rest of the core collection. -/
  extras : closersLeftOpen env r.extraResources=[]

/-- What a setup leaves. -/
structure SetupOutcome (env : Environment) (out : Except String TraceBPFRuntime×Ledger) :
    Prop where
  /-- A setup that failed closed everything. -/
  failed : ∀ err, out.1=.error err → ClosedOnce env out.2
  /-- A setup that succeeded left everything to the runtime. -/
  ready : ∀ r, out.1=.ok r → Ready env out.2 r

theorem setupOutcome_of_error {err : String} (h : ClosedOnce env l) :
    SetupOutcome env (.error err,l) :=
  ⟨fun _ _ => h,fun _ hr => absurd hr (by simp)⟩

theorem attachBundle_outcome {b : BpfObjectBundle} {objects : BpfObjects}
    (hb : Loaded env b objects) (hcloses : l.closes=[]) (h : Accounts l b.resources [])
    (selection : BpfProgramSelection) : SetupOutcome env (attachBundle env selection b l) := by
  rw [attachBundle,attachRequired]
  have hlinks := attachGroups_attached env
    [bpfCoreTracepointSpecs b.program "raw_syscalls",bpfCoreTracepointSpecs b.program "sched",
      kvmTracepointSpecs b.program selection,requiredRawTracepointSpecs b.program selection] h
  rcases hattach : attachGroups env _ l with ⟨links,l',_ | err⟩
  · rw [hattach] at hlinks
    have hprobe := attachOptional_attached env selection.recvmsgKretprobe b.program
      hlinks.accounts
    have hall := hlinks.append hprobe
    refine ⟨fun err herr => absurd herr (by simp),fun r hr => ?_⟩
    obtain rfl := Except.ok.inj hr
    exact ⟨hall.closes.trans hcloses,hall.accounts,⟨objects,hb.core,hb.inCore⟩,hb.handlers,
      hb.extras⟩
  · rw [hattach] at hlinks
    exact setupOutcome_of_error
      (failure_closedOnce hb hlinks.accounts "attach required BPF programs" err)

theorem setup_outcome (env : Environment) : SetupOutcome env (setupBPFWithConfig env {}) := by
  have hnothing : ClosedOnce env {} := closedOnce_of_accounts accounts_empty
  rw [setupBPFWithConfig]
  cases env.preparation with
  | some err => exact setupOutcome_of_error hnothing
  | none =>
    cases env.selection with
    | error err => exact setupOutcome_of_error hnothing
    | ok selection =>
      have hload := loadBPFObjects_outcome env selection
      dsimp only
      rcases hresult : loadBPFObjectsWithTiming env selection {} with ⟨err | b,l⟩
      · rw [hresult] at hload
        exact setupOutcome_of_error (closedOnce_of_accounts (hload.failed err rfl))
      · rw [hresult] at hload
        obtain ⟨hcloses,haccounts,objects,hb⟩ := hload.loaded b rfl
        dsimp only
        cases env.configureBPFRouteMaps with
        | some err => exact setupOutcome_of_error (failure_closedOnce hb haccounts _ _)
        | none =>
          cases env.populateProgArrays with
          | some err => exact setupOutcome_of_error (failure_closedOnce hb haccounts _ _)
          | none => exact attachBundle_outcome hb hcloses haccounts selection

/-- Closers of links. -/
def linkClosers (links : List Link) : List (String×Closer) :=
  links.zipIdx.map fun entry => ("bpf_link_" ++ toString entry.2,.link entry.2 entry.1)

theorem linkClosers_resources (links : List Link) : closersResources (linkClosers links)=links := by
  rw [closersResources,linkClosers,List.flatMap_map]
  calc links.zipIdx.flatMap (fun entry => [entry.1])
      =links.zipIdx.map Prod.fst := List.map_eq_flatMap.symm
    _=links := List.zipIdx_map_fst _ _

theorem linkClosers_plain (links : List Link) : closersLeftOpen env (linkClosers links)=[] := by
  refine closersLeftOpen_of_plain fun resource hresource => ?_
  rw [linkClosers] at hresource
  obtain ⟨entry,-,rfl⟩ := List.mem_map.mp hresource
  rfl

theorem linkClosers_attempted (links : List Link) :
    (linkClosers links).flatMap (fun resource => (resource.2.close env).1)=links := by
  rw [linkClosers,List.flatMap_map]
  calc links.zipIdx.flatMap (fun entry => [entry.1])
      =links.zipIdx.map Prod.fst := List.map_eq_flatMap.symm
    _=links := List.zipIdx_map_fst _ _

/-- What a close of the runtime does: the links first, then the rest. -/
structure ClosedInOrder (env : Environment) (r : TraceBPFRuntime) (l : Ledger) : Prop where
  /-- Links are closed before everything else. -/
  links : ∃ links rest, l.closes=links ++ rest ∧ links.Perm r.links
  /-- Everything is closed once. -/
  once : ClosedOnce env l

theorem Ready.closedInOrder {r : TraceBPFRuntime} (h : Ready env l r) :
    ClosedInOrder env r (r.closeWithDiagnostics env l).2.1 := by
  obtain ⟨objects,hobjects,hin⟩ := h.core
  have haccounts := h.accounts
  rw [TraceBPFRuntime.resources,hobjects,Option.elim_some,←linkClosers_resources r.links]
    at haccounts
  have hlinks := closeNamed_accounts env haccounts
  rw [linkClosers_plain,List.append_nil] at hlinks
  have hlinkCloses := closeNamed_closes env (l := l) (linkClosers r.links)
  rw [linkClosers_attempted,h.closes,List.nil_append] at hlinkCloses
  set resources := r.handlerResources ++ [("bpf_core_objects",Closer.objects objects)] ++
    r.extraResources with hresources
  have hheld : closersResources resources=closersResources r.handlerResources ++
      (objects.resources ++ closersResources r.extraResources) := by
    rw [hresources,closersResources,List.flatMap_append,List.flatMap_append,
      List.flatMap_singleton,List.append_assoc]
    rfl
  have hleft : closersLeftOpen env resources=objects.leftOpen env := by
    rw [hresources,closersLeftOpen,List.flatMap_append,List.flatMap_append,
      List.flatMap_singleton,←closersLeftOpen,←closersLeftOpen,h.handlers,h.extras,
      List.append_nil]
    rfl
  rw [←hheld,←List.append_nil (closersResources resources)] at hlinks
  have hrest := closeNamed_accounts env hlinks
  rw [hleft,List.append_nil] at hrest
  have hrestCloses := closeNamed_closes env
    (l := (closeNamedBPFResourcesParallel env (linkClosers r.links) l).1) resources
  rw [TraceBPFRuntime.closeWithDiagnostics,hobjects]
  refine ⟨⟨_,_,hrestCloses.trans (congrArg (· ++ _) hlinkCloses),env.order_perm _⟩,
    hin.closedOnce hrest ?_⟩
  change (objects.close env).1⊆(closeNamedBPFResourcesParallel env resources
    (closeNamedBPFResourcesParallel env (linkClosers r.links) l).1).1.closes
  rw [hrestCloses]
  refine List.subset_append_of_subset_right _ fun id hid => ?_
  have hmem : id∈resources.flatMap fun resource => (resource.2.close env).1 := by
    refine List.mem_flatMap.mpr ⟨("bpf_core_objects",.objects objects),?_,hid⟩
    exact List.mem_append_left _ (List.mem_append_right _ (List.mem_singleton_self _))
  exact (env.order_perm _).mem_iff.mpr hmem

end Setup

section Results

/-- Closing a closed runtime closes nothing and reports nothing. -/
theorem closed_runtime (env : Environment) (r : TraceBPFRuntime) (l : Ledger) :
    (r.closeWithDiagnostics env l).1.closeWithDiagnostics env (r.closeWithDiagnostics env l).2.1=
      ((r.closeWithDiagnostics env l).1,(r.closeWithDiagnostics env l).2.1,none) := by
  have horder : env.order []=[] := List.perm_nil.mp (env.order_perm [])
  have hnone (l : Ledger) : closeNamedBPFResourcesParallel env [] l=(l,none) := by
    change (l.attempt (env.order []),none)=(l,none)
    rw [horder,Ledger.attempt_nil]
  have hempty (l : Ledger) : TraceBPFRuntime.closeWithDiagnostics env
      {core := none, links := [], handlerResources := [], extraResources := []} l=
      ({core := none, links := [], handlerResources := [], extraResources := []},l,none) := by
    change (_,(closeNamedBPFResourcesParallel env []
        (closeNamedBPFResourcesParallel env [] l).1).1,
      errorsJoin [(closeNamedBPFResourcesParallel env [] l).2,
        (closeNamedBPFResourcesParallel env []
          (closeNamedBPFResourcesParallel env [] l).1).2])=_
    rw [hnone,hnone]
    rfl
  exact hempty _

/-- Environment with all maps of the core, two core programs and one handler collection. -/
noncomputable def oneHandler (attach : Hook → Option ℕ → Option String) : Environment where
  preparation := none
  selection := .ok {loadAll := true}
  prepare := .ok
    { coreSpec :=
        { programs := ["trace_signal_deliver","trace_signal_generate","unknown_program"]
          maps := bpfMaps
          programs_nodup := by decide
          maps_nodup := by decide }
      handlerSpecs := fun family =>
        if family=.exit then
          some { programs := ["handle_exit"], maps := ["events"]
                 programs_nodup := by decide
                 maps_nodup := by decide }
        else none }
  newCollection := fun _ => none
  classifyBPFHandlerProgram := fun _ => some .exit
  visit := Finset.toList
  mem_visit := fun _ _ => Finset.mem_toList
  configureBPFRouteMaps := none
  populateProgArrays := none
  attach := attach
  syscallWrapperPrefix := .ok "__x64_sys_"
  closeError := fun id => if id=3 then some "bad file descriptor" else none
  order := id
  order_perm := fun _ => List.Perm.refl _

end Results

end StraceGo.BpfResources

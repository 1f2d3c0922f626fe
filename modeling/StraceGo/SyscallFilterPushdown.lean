import StraceGo.SyscallSelection
import StraceGo.EventStateElision
import Mathlib.Data.List.Sort

/-!
# The syscall filter in the kernel and in the session

A selector reaches the kernel as a map with a value for every known syscall and
three bits of the configuration word, and the session as sets and flags of its
own. Both give the same verdict on every number, known or not; detaching at an
exec adds the two exec calls on the kernel's side alone.
-/

namespace StraceGo.SyscallFilterPushdown

open GoText FiniteMaps BpfRuntime SyscallSelection EventStateElision

section Options

/-- How events are written. -/
inductive EventFormat where
  | text
  | json
  | none
  | reader
  | handler
  deriving DecidableEq, Repr

/-- Options the kernel configuration and the syscall verdict read. -/
structure Options where
  /-- Format of events. -/
  eventFormat : EventFormat := .text
  /-- Raw records are written. -/
  debugEvents : Bool := false
  /-- Selected names. -/
  traceSyscalls : Finset String := ∅
  /-- Selected paths. -/
  tracePaths : Finset String := ∅
  /-- Selected patterns. -/
  traceSyscallRegexps : List Regexp := []
  /-- A selector was given. -/
  traceConfigured : Bool := false
  /-- The selector picks every syscall. -/
  traceMatchesAll : Bool := false
  /-- The selector is negated. -/
  traceSetIsNegated : Bool := false
  /-- Some term of the selector names a personality. -/
  tracePersonalityQualified : Bool := false
  /-- Selected signals. -/
  traceSignals : Finset ℤ := ∅
  /-- A set of signals was given. -/
  signalConfigured : Bool := false
  /-- The set of signals is all of them. -/
  signalMatchesAll : Bool := false
  /-- The set of signals is negated. -/
  signalSetIsNegated : Bool := false
  /-- Descriptors are shown with their paths. -/
  showPaths : Bool := false
  /-- Only the summary is written. -/
  summaryOnly : Bool := false
  /-- Children are followed. -/
  followForks : Bool := false
  /-- Instruction pointers are shown. -/
  instructionPointer : Bool := false
  /-- New namespaces are shown. -/
  namespaceNew : Bool := false
  /-- Reasons of virtual machine exits are shown. -/
  kvmExitReason : Bool := false
  /-- Process numbers are shown with their commands. -/
  decodePIDsComm : Bool := false
  /-- Process numbers are shown with their namespaces. -/
  decodePIDsPIDNS : Bool := false
  /-- Tracing stops at an exec. -/
  detachOnExecve : Bool := false
  /-- Stacks are shown. -/
  stackTrace : Bool := false

/-- Options with the fields of a selector; one that picks all or nothing keeps no names. -/
def Options.withSelector (opts : Options) (selector : SyscallSelector) : Options :=
  let opts := {opts with
    traceConfigured := true
    traceSyscalls := selector.names
    traceSyscallRegexps := selector.regexps
    traceSetIsNegated := selector.negated
    tracePersonalityQualified := selector.personalityQualified
    traceMatchesAll := false}
  let (matchesAll,explicit) := selector.explicitAllOrNone
  if explicit then
    {opts with
      traceMatchesAll := matchesAll
      traceSyscalls := ∅
      traceSyscallRegexps := []
      traceSetIsNegated := false}
  else opts

/-- Options with a selector, which replaces the one before. -/
def parseTraceSet (build : Build) (value : String) (opts : Options) : Except String Options :=
  match parseSyscallSelector build value with
  | .error message => .error message
  | .ok selector => .ok (opts.withSelector selector)

/-- Whether options carry a selector. -/
def Options.hasSelector (opts : Options) : Bool :=
  opts.traceConfigured || opts.traceSetIsNegated || decide (opts.traceSyscalls≠∅) ||
    !opts.traceSyscallRegexps.isEmpty

/-- Whether unknown numbers are left out. -/
def Options.strictUnknown (opts : Options) : Bool :=
  opts.tracePersonalityQualified && !opts.traceMatchesAll

end Options

section UserFilter

/-- The session's part of the filter that looks at syscalls. -/
structure CliTraceFilter where
  /-- Selected names. -/
  traceSyscalls : Finset String
  /-- Selected patterns. -/
  traceSyscallRegexps : List Regexp
  /-- A selector was given. -/
  traceConfigured : Bool
  /-- The selector picks every syscall. -/
  traceMatchesAll : Bool
  /-- The selector is negated. -/
  traceSetIsNegated : Bool
  /-- Unknown numbers are left out. -/
  strictUnknown : Bool

/-- The session's filter of some options. -/
def newTraceFilterOptions (opts : Options) : CliTraceFilter where
  traceSyscalls := opts.traceSyscalls
  traceSyscallRegexps := opts.traceSyscallRegexps
  traceConfigured := opts.hasSelector
  traceMatchesAll := opts.traceMatchesAll
  traceSetIsNegated := opts.traceSetIsNegated
  strictUnknown := opts.strictUnknown

/-- Whether the session's filter selects a name. -/
def CliTraceFilter.matchSyscall (filter : CliTraceFilter) (name : String) : Bool :=
  if isUnknownSyscallName name then !filter.strictUnknown
  else if !filter.traceConfigured || filter.traceMatchesAll then true
  else
    let matched := decide (name∈filter.traceSyscalls) ||
      filter.traceSyscallRegexps.any fun expression => expression name
    if filter.traceSetIsNegated then !matched else matched

/-- The session's verdict on a number. -/
def userVerdict (table : SyscallTable) (opts : Options) (sysID : UInt32) : Bool :=
  (newTraceFilterOptions opts).matchSyscall (table.syscallMeta sysID).name

end UserFilter

section Plan

/-- What the plan is made of. -/
structure SyscallFilterInput where
  /-- Selected names. -/
  names : Finset String
  /-- Selected patterns. -/
  regexps : List Regexp
  /-- A selector was given. -/
  configured : Bool
  /-- The selector picks every syscall. -/
  matchesAll : Bool
  /-- The selector is negated. -/
  negated : Bool
  /-- Unknown numbers are left out. -/
  strictUnknown : Bool

/-- Numbers the kernel shall know, in increasing order. -/
structure SyscallFilterPlan where
  /-- The kernel filters. -/
  enabled : Bool := false
  /-- The numbers are those to leave out. -/
  negated : Bool := false
  /-- Unknown numbers are left out. -/
  strictUnknown : Bool := false
  /-- Listed numbers. -/
  ids : List UInt32 := []

/-- Numbers in increasing order. -/
def sortIDs (ids : List UInt32) : List UInt32 := ids.insertionSort fun a b => a ≤ b

variable (table : SyscallTable)

/-- Plan of a selector. -/
def buildSyscallFilterPlan (input : SyscallFilterInput) : SyscallFilterPlan :=
  if !input.configured || input.matchesAll then {}
  else {
    enabled := true
    negated := input.negated
    strictUnknown := input.strictUnknown
    ids := sortIDs ((table.entries.filter fun entry =>
      decide (entry.2.name∈input.names) ||
        input.regexps.any fun expression => expression entry.2.name).map Prod.fst) }

/-- Plan under which the named syscalls always pass. -/
def includeSyscalls (plan : SyscallFilterPlan) (names : List String) : SyscallFilterPlan :=
  if !plan.enabled then plan
  else
    let included := (table.entries.filter fun entry => names.contains entry.2.name).map Prod.fst
    if plan.negated then
      {plan with ids := sortIDs (plan.ids.filter fun id => !included.contains id)}
    else
      {plan with ids := sortIDs (plan.ids ++ included.filter fun id => !plan.ids.contains id)}

/-- Entries of the kernel's map: every known number with its mark. -/
def materializeSyscallFilterEntries (plan : SyscallFilterPlan) : List (UInt32×UInt32) :=
  if !plan.enabled then []
  else
    (table.entries.map fun entry =>
      (entry.1,if plan.ids.contains entry.1 then 1 else 0)).insertionSort fun a b => a.1 ≤ b.1

end Plan

section KernelConfig

/-- What the kernel is set up with. -/
structure TraceBPFConfig where
  /-- Stacks are captured. -/
  captureStack : Bool := false
  /-- Children are followed. -/
  followForks : Bool := false
  /-- Generic enter records are sent. -/
  emitEnter : Bool := false
  /-- Signal records are sent. -/
  emitSignal : Bool := false
  /-- Commands of processes are captured. -/
  decodePIDsComm : Bool := false
  /-- Namespaces of processes are captured. -/
  decodePIDsPIDNS : Bool := false
  /-- New namespaces are captured. -/
  namespaceNew : Bool := false
  /-- Reasons of virtual machine exits are captured. -/
  kvmExitReason : Bool := false
  /-- Descriptor syscalls pass the filter. -/
  fdState : Bool := false
  /-- Plain enters are left out. -/
  elidePlainEnter : Bool := false
  /-- Only plain enters that do not block are left out. -/
  elideNonBlockingPlainEnter : Bool := false
  /-- Size of the record buffer. -/
  eventRingbufCapacity : UInt32
  /-- Plan of the syscall filter. -/
  syscallFilter : SyscallFilterPlan := {}

/-- Size of the record buffer when none is given. -/
def traceDefaultEventRingbufCapacity : UInt32 := 536870912

/-- Whether generic enter records are needed. -/
def shouldEmitGenericEnter (opts : Options) : Bool :=
  if opts.eventFormat=.json ∨ opts.tracePaths≠∅ then true else !opts.summaryOnly

/-- Whether plain enters are left out. -/
def shouldElidePlainEnter (opts : Options) (fdState : Bool) : Bool :=
  decide (opts.eventFormat=.text ∨ opts.eventFormat=.json ∨ opts.eventFormat=.handler) &&
    !opts.debugEvents && !fdState

/-- Whether only plain enters that do not block are left out. -/
def shouldElideNonBlockingPlainEnter (opts : Options) (fdState : Bool) : Bool :=
  decide (opts.eventFormat=.text) && shouldElidePlainEnter opts fdState

/-- Whether signal records are needed. -/
def shouldEmitSignalEvents (opts : Options) : Bool :=
  if opts.eventFormat≠.text ∨ opts.summaryOnly then false
  else !opts.signalConfigured || opts.signalMatchesAll || opts.signalSetIsNegated ||
    decide (opts.traceSignals≠∅)

variable (table : SyscallTable)

/-- What the plan of some options is made of. -/
def Options.filterInput (opts : Options) : SyscallFilterInput where
  names := opts.traceSyscalls
  regexps := opts.traceSyscallRegexps
  configured := opts.hasSelector
  matchesAll := opts.traceMatchesAll
  negated := opts.traceSetIsNegated
  strictUnknown := opts.strictUnknown

/-- Kernel configuration of some options. -/
def newTraceBPFConfig : Option Options → TraceBPFConfig
  | none => {eventRingbufCapacity := traceDefaultEventRingbufCapacity}
  | some opts =>
    let plan := buildSyscallFilterPlan table opts.filterInput
    let syscallFilter :=
      if opts.detachOnExecve then includeSyscalls table plan ["execve","execveat"] else plan
    let fdState := decide (opts.tracePaths≠∅) || opts.showPaths
    { captureStack := opts.stackTrace || opts.instructionPointer
      followForks := opts.followForks
      emitEnter := shouldEmitGenericEnter opts
      emitSignal := shouldEmitSignalEvents opts
      decodePIDsComm := opts.decodePIDsComm
      decodePIDsPIDNS := opts.decodePIDsPIDNS
      namespaceNew := opts.namespaceNew
      kvmExitReason := opts.kvmExitReason
      fdState := fdState
      elidePlainEnter := shouldElidePlainEnter opts fdState
      elideNonBlockingPlainEnter := shouldElideNonBlockingPlainEnter opts fdState
      eventRingbufCapacity := traceDefaultEventRingbufCapacity
      syscallFilter := syscallFilter }

/-- Configuration bit of commands of processes. -/
def configDecodePidComm : UInt32 := 512

/-- Configuration bit of namespaces of processes. -/
def configDecodePidNs : UInt32 := 1024

/-- Kernel maps that the configuration fills. -/
structure BpfMaps where
  /-- Marks of the syscall filter. -/
  syscallFilter : Option (GoMap UInt32 UInt32) := some ∅
  /-- Syscalls whose plain enter is left out. -/
  plainEnterElide : Option (GoMap UInt32 UInt32) := some ∅

/-- Message with which the kernel refuses an update of a key, if it does. -/
abbrev Refusal : Type := UInt32 → Option String

/-- Write entries to a kernel map; the first refused one ends it. -/
def updateAll (refuse : Refusal) (m : GoMap UInt32 UInt32) (entries : List (UInt32×UInt32)) :
    Except String (GoMap UInt32 UInt32) :=
  entries.foldlM (fun m entry =>
    match refuse entry.1 with
    | some message => .error message
    | none => .ok (m.insert entry.1 entry.2)) m

/-- Configuration word with a bit set under a condition. -/
def setBit (condition : Bool) (bit config : UInt32) : UInt32 :=
  if condition then config|||bit else config

/-- Fill the syscall filter and give its bits. -/
def configureSyscallFilter (refuse : Refusal) (plan : SyscallFilterPlan) (maps : BpfMaps) :
    Except String (UInt32×BpfMaps) :=
  if !plan.enabled then .ok (0,maps)
  else
    match maps.syscallFilter with
    | none => .error "BPF syscall filter map is unavailable"
    | some filterMap =>
      match updateAll refuse filterMap (materializeSyscallFilterEntries table plan) with
      | .error message => .error message
      | .ok filled =>
        .ok (setBit plan.strictUnknown configSyscallFilterStrictUnknown
          (setBit plan.negated configSyscallFilterNegated configSyscallFilter),
          {maps with syscallFilter := some filled})

/-- Fill the map of syscalls whose plain enter is left out. -/
def configurePlainEnterElision (refuse : Refusal) (ids : List UInt32) (maps : BpfMaps) :
    Except String BpfMaps :=
  match maps.plainEnterElide with
  | none => .error "BPF plain-enter elision map is unavailable"
  | some elideMap =>
    let refuseElision : Refusal := fun id => (refuse id).map fun message =>
      "configure plain-enter elision for syscall " ++ toString id.toNat ++ ": " ++ message
    match updateAll refuseElision elideMap (ids.map fun id => (id,1)) with
    | .error message => .error message
    | .ok filled => .ok {maps with plainEnterElide := some filled}

/-- The table with the capture policies of its syscalls. -/
def routeTable (capabilities : String → Option BpfRouteCapability) : RouteTable where
  syscalls := table.entries.map fun entry => (entry.1,entry.2.name)
  capabilities := capabilities

/-- Bits that depend on nothing but the configuration. -/
def plainBits (config : TraceBPFConfig) : UInt32 :=
  setBit config.fdState configFdState <|
  (· ||| configEmitLifecycle) <|
  setBit config.kvmExitReason configKvmExit <|
  setBit config.decodePIDsPIDNS configDecodePidNs <|
  setBit config.decodePIDsComm configDecodePidComm <|
  setBit config.emitSignal configEmitSignal <|
  setBit config.emitEnter configEmitEnter <|
  setBit config.followForks configFollowForks <|
  setBit config.captureStack configCaptureStack 0

/-- Fill the kernel's maps and give its configuration word. -/
def buildRuntimeConfig (capabilities : String → Option BpfRouteCapability) (refuse : Refusal)
    (config : TraceBPFConfig) (maps : BpfMaps) : Except String (UInt32×BpfMaps) := do
  let word := plainBits config
  let (word,maps) ←
    if config.elidePlainEnter then do
      let ids := sortIDs (plainEnterElisionIDs (routeTable table capabilities)
        (fun id => (table.syscallMeta id).name) config.elideNonBlockingPlainEnter)
      let maps ← configurePlainEnterElision refuse ids maps
      pure (word|||configElidePlainEnter,maps)
    else pure (word,maps)
  let (filterWord,maps) ← configureSyscallFilter table refuse config.syscallFilter maps
  return (word|||filterWord,maps)

end KernelConfig

section Bits

theorem hasBit_or (word other mask : UInt32) :
    hasBit (word|||other) mask=(hasBit word mask || hasBit other mask) := by
  have hzero : ∀ a b : UInt32, (a|||b=0) ↔ a=0 ∧ b=0 := by
    intro a b
    rw [←UInt32.toBitVec_inj,←UInt32.toBitVec_inj,←UInt32.toBitVec_inj,UInt32.toBitVec_or]
    exact BitVec.or_eq_zero_iff
  have hand : (word|||other)&&&mask=(word&&&mask)|||(other&&&mask) := by
    rw [←UInt32.toBitVec_inj]
    simp [BitVec.and_or_distrib_right]
  unfold hasBit
  rw [hand,Bool.eq_iff_iff]
  simp only [bne_iff_ne,ne_eq,hzero,Bool.or_eq_true]
  exact not_and_or

theorem hasBit_setBit (condition : Bool) (bit word mask : UInt32) :
    hasBit (setBit condition bit word) mask=
      (hasBit word mask || condition && hasBit bit mask) := by
  unfold setBit
  cases condition <;> simp [hasBit_or]

/-- The other bits leave those of the syscall filter alone. -/
theorem hasBit_plainBits (config : TraceBPFConfig) {mask : UInt32}
    (h : mask∈[configSyscallFilter,configSyscallFilterNegated,configSyscallFilterStrictUnknown]) :
    hasBit (plainBits config) mask=false := by
  have hother : ([configSyscallFilter,configSyscallFilterNegated,
      configSyscallFilterStrictUnknown].all fun mask => [configFdState,configEmitLifecycle,
        configKvmExit,configDecodePidNs,configDecodePidComm,configEmitSignal,configEmitEnter,
        configFollowForks,configCaptureStack,0].all fun bit => !hasBit bit mask)=true := by
    decide
  simp only [List.all_eq_true,Bool.not_eq_true'] at hother
  have hbit := hother mask h
  unfold plainBits
  simp only [hasBit_setBit,hasBit_or]
  simp only [List.forall_mem_cons] at hbit
  simp [hbit]

end Bits

section Numbers

variable (table : SyscallTable)

/-- The table gives a number the syscall of its entry. -/
theorem lookup_eq_some {sysID : UInt32} {syscall : Syscall} :
    table.lookup sysID=some syscall ↔ (sysID,syscall)∈table.entries := by
  have hlookup : ∀ entries : List (UInt32×Syscall), (entries.map Prod.fst).Nodup →
      (entries.lookup sysID=some syscall ↔ (sysID,syscall)∈entries) := by
    intro entries hnodup
    induction entries with
    | nil => simp
    | cons entry rest ih =>
      rw [List.map_cons,List.nodup_cons] at hnodup
      rw [List.lookup_cons,List.mem_cons]
      by_cases hid : sysID=entry.1
      · have hrest : (sysID,syscall)∉rest := by
          intro hmem
          exact hnodup.1 (hid ▸ List.mem_map.mpr ⟨_,hmem,rfl⟩)
        rw [beq_iff_eq.mpr hid]
        constructor
        · intro h
          left
          rw [hid,←Option.some.inj h]
        · rintro (h | h)
          · rw [←h]
          · exact absurd h hrest
      · rw [beq_eq_false_iff_ne.mpr hid]
        constructor
        · intro h
          exact Or.inr ((ih hnodup.2).mp h)
        · rintro (h | h)
          · exact absurd (congrArg Prod.fst h) hid
          · exact (ih hnodup.2).mpr h
  exact hlookup table.entries table.nodup

/-- Whether a number is among those of the entries with some property. -/
theorem contains_listed (p : UInt32×Syscall → Bool) (sysID : UInt32) :
    ((table.entries.filter p).map Prod.fst).contains sysID=
      match table.lookup sysID with
      | none => false
      | some syscall => p (sysID,syscall) := by
  cases hlookup : table.lookup sysID with
  | none =>
    rw [List.contains_eq_mem,decide_eq_false_iff_not]
    intro hmem
    obtain ⟨entry,hentry,rfl⟩ := List.mem_map.mp hmem
    rw [(lookup_eq_some table).mpr (List.mem_of_mem_filter hentry)] at hlookup
    exact nomatch hlookup
  | some syscall =>
    rw [Bool.eq_iff_iff,List.contains_iff_mem]
    constructor
    · intro hmem
      obtain ⟨entry,hentry,rfl⟩ := List.mem_map.mp hmem
      obtain ⟨hin,hp⟩ := List.mem_filter.mp hentry
      have hsame := (lookup_eq_some table).mpr hin
      rw [hlookup] at hsame
      rwa [Option.some.inj hsame]
    · intro hp
      have hin := (lookup_eq_some table).mp hlookup
      exact List.mem_map.mpr ⟨_,List.mem_filter.mpr ⟨hin,hp⟩,rfl⟩

theorem contains_filter_eq (ids : List UInt32) (p : UInt32 → Bool) (sysID : UInt32) :
    (ids.filter p).contains sysID=(ids.contains sysID && p sysID) := by
  rw [Bool.eq_iff_iff]
  simp [List.mem_filter]

theorem contains_sortIDs (ids : List UInt32) (sysID : UInt32) :
    (sortIDs ids).contains sysID=ids.contains sysID := by
  rw [Bool.eq_iff_iff,List.contains_iff_mem,List.contains_iff_mem]
  exact List.mem_insertionSort _

/-- The session's name of a number is that of an unknown one exactly when the table
does not have it. -/
theorem isUnknown_syscallMeta (sysID : UInt32) :
    isUnknownSyscallName (table.syscallMeta sysID).name=(table.lookup sysID).isNone := by
  unfold SyscallTable.syscallMeta
  cases hlookup : table.lookup sysID with
  | none => simp [isUnknownSyscallName,unknownSyscallName,hasPrefix]
  | some syscall => exact table.known _ ((lookup_eq_some table).mp hlookup)

end Numbers

section Kernel

variable (table : SyscallTable) {refuse : Refusal} {plan : SyscallFilterPlan}

/-- A kernel map holds the entries that were written to it. -/
theorem lookup_updateAll (mark : UInt32 → UInt32) {entries : List (UInt32×UInt32)}
    (hmark : ∀ entry∈entries, entry.2=mark entry.1) {m filled : GoMap UInt32 UInt32}
    (h : updateAll refuse m entries=.ok filled) (id : UInt32) :
    filled.lookup id=if id∈entries.map Prod.fst then some (mark id) else m.lookup id := by
  induction entries generalizing m with
  | nil =>
    obtain rfl := Except.ok.inj h
    rfl
  | cons entry rest ih =>
    unfold updateAll at h
    rw [List.foldlM_cons] at h
    cases hrefuse : refuse entry.1 with
    | some message =>
      rw [hrefuse] at h
      exact nomatch h
    | none =>
      rw [hrefuse] at h
      rw [ih (fun other hother => hmark other (List.mem_cons_of_mem _ hother)) h,
        lookup_insert_ite,hmark entry List.mem_cons_self,List.map_cons]
      simp only [List.mem_cons]
      by_cases hrest : id∈rest.map Prod.fst
      · rw [if_pos hrest,if_pos (Or.inr hrest)]
      · rw [if_neg hrest]
        by_cases hid : id=entry.1
        · rw [if_pos hid,if_pos (Or.inl hid),hid]
        · rw [if_neg hid,if_neg (by simp [hid,hrest])]

/-- Verdict of a plan on a number. -/
def planVerdict (plan : SyscallFilterPlan) (sysID : UInt32) : Bool :=
  if !plan.enabled then true
  else
    match table.lookup sysID with
    | none => !plan.strictUnknown
    | some _ => plan.ids.contains sysID != plan.negated

/-- Numbers of the kernel's entries are those of the table. -/
theorem mem_materialized (henabled : plan.enabled=true) (sysID : UInt32) :
    sysID∈(materializeSyscallFilterEntries table plan).map Prod.fst ↔
      (table.lookup sysID).isSome=true := by
  have hentries : ∀ entry, entry∈materializeSyscallFilterEntries table plan ↔
      ∃ known∈table.entries,
        (known.1,if plan.ids.contains known.1 then (1 : UInt32) else 0)=entry := by
    intro entry
    unfold materializeSyscallFilterEntries
    rw [henabled]
    simp only [Bool.not_true,Bool.false_eq_true,if_false,List.mem_insertionSort,List.mem_map]
  rw [List.mem_map,Option.isSome_iff_exists]
  constructor
  · rintro ⟨entry,hentry,rfl⟩
    obtain ⟨known,hknown,rfl⟩ := (hentries entry).mp hentry
    exact ⟨known.2,(lookup_eq_some table).mpr hknown⟩
  · rintro ⟨syscall,hsyscall⟩
    have hknown := (lookup_eq_some table).mp hsyscall
    exact ⟨_,(hentries _).mpr ⟨_,hknown,rfl⟩,rfl⟩

/-- Every entry marks whether the plan lists its number. -/
theorem materialized_mark (entry : UInt32×UInt32)
    (h : entry∈materializeSyscallFilterEntries table plan) :
    entry.2=if plan.ids.contains entry.1 then 1 else 0 := by
  unfold materializeSyscallFilterEntries at h
  split_ifs at h
  · exact absurd h List.not_mem_nil
  · obtain ⟨known,-,rfl⟩ := List.mem_map.mp ((List.mem_insertionSort _).mp h)
    rfl

/-- What a configured filter leaves in the word and in the map. -/
theorem configureSyscallFilter_spec {maps next : BpfMaps} {word : UInt32}
    (hmaps : maps.syscallFilter=some ∅)
    (h : configureSyscallFilter table refuse plan maps=.ok (word,next)) :
    hasBit word configSyscallFilter=plan.enabled ∧
    (plan.enabled=true → hasBit word configSyscallFilterNegated=plan.negated ∧
      hasBit word configSyscallFilterStrictUnknown=plan.strictUnknown ∧
      ∃ filled, next.syscallFilter=some filled ∧ ∀ sysID, filled.lookup sysID=
        (table.lookup sysID).map fun _ => if plan.ids.contains sysID then 1 else 0) := by
  unfold configureSyscallFilter at h
  by_cases henabled : plan.enabled=true
  · rw [henabled,hmaps] at h
    simp only [Bool.not_true,Bool.false_eq_true,if_false] at h
    cases hfilled : updateAll refuse ∅ (materializeSyscallFilterEntries table plan) with
    | error message =>
      rw [hfilled] at h
      exact nomatch h
    | ok filled =>
      rw [hfilled] at h
      obtain ⟨rfl,rfl⟩ := Prod.mk.inj (Except.ok.inj h)
      have hbits : hasBit configSyscallFilter configSyscallFilterNegated=false ∧
          hasBit configSyscallFilter configSyscallFilterStrictUnknown=false ∧
          hasBit configSyscallFilterNegated configSyscallFilterStrictUnknown=false ∧
          hasBit configSyscallFilterStrictUnknown configSyscallFilterNegated=false ∧
          hasBit configSyscallFilter configSyscallFilter=true ∧
          hasBit configSyscallFilterNegated configSyscallFilterNegated=true ∧
          hasBit configSyscallFilterStrictUnknown configSyscallFilterStrictUnknown=true := by
        decide
      obtain ⟨h1,h2,h3,h4,h5,h6,h7⟩ := hbits
      refine ⟨by simp [hasBit_setBit,h5,henabled],fun _ => ⟨?_,?_,filled,rfl,?_⟩⟩
      · simp [hasBit_setBit,h1,h4,h6]
      · simp [hasBit_setBit,h2,h3,h7]
      · intro sysID
        rw [lookup_updateAll (fun id => if plan.ids.contains id then 1 else 0)
          (materialized_mark table) hfilled]
        simp only [mem_materialized table henabled]
        cases table.lookup sysID <;> simp
  · rw [Bool.not_eq_true] at henabled
    rw [henabled] at h
    obtain ⟨rfl,-⟩ := Prod.mk.inj (Except.ok.inj h)
    refine ⟨by rw [henabled]; decide,fun hcontra => ?_⟩
    rw [henabled] at hcontra
    exact Bool.noConfusion hcontra

/-- The elision map is filled beside the filter. -/
theorem configurePlainEnterElision_syscallFilter {ids : List UInt32} {maps next : BpfMaps}
    (h : configurePlainEnterElision refuse ids maps=.ok next) :
    next.syscallFilter=maps.syscallFilter := by
  unfold configurePlainEnterElision at h
  cases helide : maps.plainEnterElide with
  | none =>
    rw [helide] at h
    exact nomatch h
  | some elideMap =>
    rw [helide] at h
    dsimp only at h
    split at h
    · exact nomatch h
    · rw [←Except.ok.inj h]

/-- The configuration word is that of the filter behind bits that are not the filter's. -/
theorem buildRuntimeConfig_cases {capabilities : String → Option BpfRouteCapability}
    {config : TraceBPFConfig} {maps final : BpfMaps} {word : UInt32}
    (h : buildRuntimeConfig table capabilities refuse config maps=.ok (word,final)) :
    ∃ other filterWord next, next.syscallFilter=maps.syscallFilter ∧
      configureSyscallFilter table refuse config.syscallFilter next=.ok (filterWord,final) ∧
      word=other|||filterWord ∧
      ∀ mask∈[configSyscallFilter,configSyscallFilterNegated,configSyscallFilterStrictUnknown],
        hasBit other mask=false := by
  have hfilter : ∀ (other : UInt32) (next : BpfMaps),
      (do
        let (filterWord,maps) ← configureSyscallFilter table refuse config.syscallFilter next
        return (other|||filterWord,maps) : Except String (UInt32×BpfMaps))=.ok (word,final) →
      ∃ filterWord, configureSyscallFilter table refuse config.syscallFilter next=
        .ok (filterWord,final) ∧ word=other|||filterWord := by
    intro other next hrun
    cases hconfigured : configureSyscallFilter table refuse config.syscallFilter next with
    | error message =>
      rw [hconfigured] at hrun
      exact nomatch hrun
    | ok result =>
      rw [hconfigured] at hrun
      obtain ⟨hword,hfinal⟩ := Prod.mk.inj (Except.ok.inj hrun)
      exact ⟨result.1,by rw [←hfinal],hword.symm⟩
  have helided : ([configSyscallFilter,configSyscallFilterNegated,
      configSyscallFilterStrictUnknown].all fun mask =>
        !hasBit configElidePlainEnter mask)=true := by
    decide
  simp only [List.all_eq_true,Bool.not_eq_true'] at helided
  unfold buildRuntimeConfig at h
  by_cases helide : config.elidePlainEnter=true
  · simp only [helide,if_true] at h
    cases hmaps : configurePlainEnterElision refuse (sortIDs (plainEnterElisionIDs
        (routeTable table capabilities) (fun id => (table.syscallMeta id).name)
        config.elideNonBlockingPlainEnter)) maps with
    | error message =>
      rw [hmaps] at h
      exact nomatch h
    | ok next =>
      rw [hmaps] at h
      obtain ⟨filterWord,hconfigured,hword⟩ := hfilter _ next h
      refine ⟨_,filterWord,next,configurePlainEnterElision_syscallFilter hmaps,hconfigured,hword,?_⟩
      intro mask hmask
      rw [hasBit_or,hasBit_plainBits config hmask,helided mask hmask]
      rfl
  · simp only [helide,Bool.false_eq_true,if_false] at h
    obtain ⟨filterWord,hconfigured,hword⟩ := hfilter _ maps h
    exact ⟨_,filterWord,maps,rfl,hconfigured,hword,fun mask hmask => hasBit_plainBits config hmask⟩

/-- The kernel gives the verdict of the plan it was set up with. -/
theorem shouldTraceSyscall_eq_planVerdict {capabilities : String → Option BpfRouteCapability}
    {config : TraceBPFConfig} {final : BpfMaps} {st : TrackingState}
    (h : buildRuntimeConfig table capabilities refuse config {}=.ok (st.config,final))
    (hst : final.syscallFilter=some st.syscallFilterMap) (sysID : UInt32) :
    shouldTraceSyscall st sysID=planVerdict table config.syscallFilter sysID := by
  obtain ⟨other,filterWord,next,hnext,hconfigured,hword,hother⟩ := buildRuntimeConfig_cases table h
  obtain ⟨henabled,hfilled⟩ := configureSyscallFilter_spec table hnext hconfigured
  have hbit : ∀ mask∈[configSyscallFilter,configSyscallFilterNegated,
      configSyscallFilterStrictUnknown], hasBit st.config mask=hasBit filterWord mask := by
    intro mask hmask
    rw [hword,hasBit_or,hother mask hmask,Bool.false_or]
  unfold shouldTraceSyscall planVerdict
  rw [hbit _ (by simp),hbit _ (by simp),hbit _ (by simp),henabled]
  by_cases hplan : config.syscallFilter.enabled=true
  · obtain ⟨hnegated,hstrict,filled,hmap,hlookup⟩ := hfilled hplan
    rw [hst] at hmap
    rw [Option.some.inj hmap,hlookup,hnegated,hstrict,hplan]
    cases table.lookup sysID with
    | none => rfl
    | some syscall =>
      cases config.syscallFilter.negated <;>
        cases config.syscallFilter.ids.contains sysID <;> rfl
  · rw [Bool.not_eq_true] at hplan
    rw [hplan]
    rfl

end Kernel

section Verdicts

variable {build : Build} {value : String} {opts parsed : Options}

/-- Options after a selector carry one. -/
theorem hasSelector_withSelector (opts : Options) (selector : SyscallSelector) :
    (opts.withSelector selector).hasSelector=true := by
  have hconfigured : (opts.withSelector selector).traceConfigured=true := by
    unfold Options.withSelector
    rcases selector.explicitAllOrNone with ⟨matchesAll,explicit⟩
    cases explicit <;> rfl
  simp [Options.hasSelector,hconfigured]

/-- Options after a selector say what it says on known syscalls. -/
theorem userVerdict_withSelector (opts : Options) (selector : SyscallSelector)
    {table : SyscallTable} {sysID : UInt32} {syscall : Syscall}
    (hknown : table.lookup sysID=some syscall) :
    userVerdict table (opts.withSelector selector) sysID=
      (selector.covers syscall.name != selector.negated) := by
  have hname : (table.syscallMeta sysID).name=syscall.name := by
    unfold SyscallTable.syscallMeta
    rw [hknown]
  have hplain : isUnknownSyscallName syscall.name=false := by
    rw [←hname,isUnknown_syscallMeta,hknown]
    rfl
  unfold userVerdict CliTraceFilter.matchSyscall newTraceFilterOptions
  rw [hname,hplain]
  simp only [hasSelector_withSelector,Bool.false_eq_true,if_false,Bool.not_true,Bool.false_or]
  unfold Options.withSelector SyscallSelector.explicitAllOrNone SyscallSelector.covers
  by_cases hall : selector.all=true
  · simp [hall]
  · by_cases hnames : selector.names≠∅ ∨ selector.regexps≠[]
    · cases hnegated : selector.negated <;> simp [hall,hnames]
    · have hnone := not_or.mp hnames
      simp only [not_not] at hnone
      simp [hall,hnone]

/-- The plan of options with a selector gives the session's verdict. -/
theorem planVerdict_build (table : SyscallTable) {opts : Options} (h : opts.hasSelector=true)
    (sysID : UInt32) :
    planVerdict table (buildSyscallFilterPlan table opts.filterInput) sysID=
      userVerdict table opts sysID := by
  unfold userVerdict CliTraceFilter.matchSyscall newTraceFilterOptions planVerdict
    buildSyscallFilterPlan Options.filterInput
  rw [isUnknown_syscallMeta,h]
  cases hall : opts.traceMatchesAll with
  | true => simp [Options.strictUnknown,hall]
  | false =>
    simp only [Bool.not_true,Bool.or_self,Bool.false_eq_true,if_false,contains_sortIDs,
      contains_listed]
    cases hlookup : table.lookup sysID with
    | none => rfl
    | some syscall =>
      have hname : (table.syscallMeta sysID).name=syscall.name := by
        unfold SyscallTable.syscallMeta
        rw [hlookup]
      rw [hname]
      cases opts.traceSetIsNegated <;> simp

/-- Whether the session names a number after one of some syscalls. -/
def isNamed (table : SyscallTable) (names : List String) (sysID : UInt32) : Bool :=
  (table.lookup sysID).any fun syscall => names.contains syscall.name

/-- Syscalls that a plan includes pass beside those it passes anyway. -/
theorem planVerdict_include (table : SyscallTable) (plan : SyscallFilterPlan) (names : List String)
    (sysID : UInt32) :
    planVerdict table (includeSyscalls table plan names) sysID=
      (planVerdict table plan sysID || isNamed table names sysID) := by
  have hincluded := contains_listed table (fun entry => names.contains entry.2.name) sysID
  unfold includeSyscalls isNamed
  cases henabled : plan.enabled with
  | false => simp [planVerdict,henabled]
  | true =>
    cases hlookup : table.lookup sysID with
    | none =>
      simp only [Bool.not_true,Bool.false_eq_true,if_false]
      split_ifs <;> simp [planVerdict,hlookup,henabled]
    | some syscall =>
      rw [hlookup] at hincluded
      simp only [Bool.not_true,Bool.false_eq_true,if_false]
      cases hnegated : plan.negated with
      | true =>
        simp only [if_true,planVerdict,henabled,hnegated,hlookup,contains_sortIDs,Bool.not_true,
          Bool.false_eq_true,if_false,contains_filter_eq,hincluded,Option.any_some]
        cases plan.ids.contains sysID <;> cases names.contains syscall.name <;> rfl
      | false =>
        simp only [planVerdict,henabled,hnegated,hlookup,contains_sortIDs,Bool.not_true,
          Bool.false_eq_true,if_false,List.contains_append,contains_filter_eq,hincluded,
          Option.any_some]
        cases plan.ids.contains sysID <;> cases names.contains syscall.name <;> rfl

/-- Options that a selector gives. -/
theorem parseTraceSet_ok :
    parseTraceSet build value opts=.ok parsed ↔
      ∃ selector, parseSyscallSelector build value=.ok selector ∧
        opts.withSelector selector=parsed := by
  unfold parseTraceSet
  cases parseSyscallSelector build value with
  | error message => simp
  | ok selector => simp

/-- Plan of some options. -/
theorem newTraceBPFConfig_syscallFilter (table : SyscallTable) (opts : Options) :
    (newTraceBPFConfig table (some opts)).syscallFilter=
      if opts.detachOnExecve then
        includeSyscalls table (buildSyscallFilterPlan table opts.filterInput)
          ["execve","execveat"]
      else buildSyscallFilterPlan table opts.filterInput := rfl

/-- The kernel passes what the session selects, and at a detach the exec calls too. -/
theorem shouldTraceSyscall_eq_userVerdict {capabilities : String → Option BpfRouteCapability}
    {refuse : Refusal} {final : BpfMaps} {st : TrackingState}
    (hparse : parseTraceSet build value opts=.ok parsed)
    (hconfig : buildRuntimeConfig build.table capabilities refuse
      (newTraceBPFConfig build.table (some parsed)) {}=.ok (st.config,final))
    (hmap : final.syscallFilter=some st.syscallFilterMap) (sysID : UInt32) :
    shouldTraceSyscall st sysID=(userVerdict build.table parsed sysID ||
      parsed.detachOnExecve && isNamed build.table ["execve","execveat"] sysID) := by
  obtain ⟨selector,-,rfl⟩ := parseTraceSet_ok.mp hparse
  rw [shouldTraceSyscall_eq_planVerdict build.table hconfig hmap]
  have hplan := planVerdict_build build.table (hasSelector_withSelector opts selector) sysID
  rw [newTraceBPFConfig_syscallFilter,←hplan]
  cases (opts.withSelector selector).detachOnExecve with
  | false => rw [Bool.false_and,Bool.or_false,if_neg Bool.false_ne_true]
  | true => rw [Bool.true_and,if_pos rfl,planVerdict_include]

/-- A negated selector gives the opposite verdict on every known syscall. -/
theorem userVerdict_negated {negated : Options}
    (h : parseTraceSet build ("!" ++ value) opts=.ok negated) :
    ∃ plain, parseTraceSet build value opts=.ok plain ∧
      ∀ sysID, (build.table.lookup sysID).isSome=true →
        userVerdict build.table negated sysID= !userVerdict build.table plain sysID := by
  obtain ⟨selector,hselector,rfl⟩ := parseTraceSet_ok.mp h
  have hbang := not_bang_of_accepted hselector
  obtain ⟨plain,hplain,rfl⟩ := (parseSyscallSelector_negated hbang selector).mp hselector
  have hpositive := parseSyscallSelector_not_negated hbang hplain
  refine ⟨opts.withSelector plain,parseTraceSet_ok.mpr ⟨plain,hplain,rfl⟩,?_⟩
  intro sysID hknown
  obtain ⟨syscall,hsyscall⟩ := Option.isSome_iff_exists.mp hknown
  rw [userVerdict_withSelector opts _ hsyscall,userVerdict_withSelector opts _ hsyscall,hpositive]
  simp [SyscallSelector.covers]

/-- A list gives the union of the verdicts of its terms on every known syscall. -/
theorem userVerdict_union (hbang : hasPrefix value "!"=false)
    (h : parseTraceSet build value opts=.ok parsed) :
    (∀ term∈fields value ',', ∃ alone, parseTraceSet build term opts=.ok alone) ∧
      ∀ sysID, (build.table.lookup sysID).isSome=true →
        (userVerdict build.table parsed sysID=true ↔ ∃ term∈fields value ',', ∃ alone,
          parseTraceSet build term opts=.ok alone ∧
          userVerdict build.table alone sysID=true) := by
  obtain ⟨selector,hselector,rfl⟩ := parseTraceSet_ok.mp h
  obtain ⟨haccepted,hcovers⟩ := parseSyscallSelector_union hbang hselector
  have hpositive := parseSyscallSelector_not_negated hbang hselector
  constructor
  · intro term hterm
    obtain ⟨-,alone,halone⟩ := haccepted term hterm
    exact ⟨_,parseTraceSet_ok.mpr ⟨alone,halone,rfl⟩⟩
  · intro sysID hknown
    obtain ⟨syscall,hsyscall⟩ := Option.isSome_iff_exists.mp hknown
    have hverdict : ∀ chosen : SyscallSelector, chosen.negated=false →
        userVerdict build.table (opts.withSelector chosen) sysID=chosen.covers syscall.name := by
      intro chosen hchosen
      rw [userVerdict_withSelector opts chosen hsyscall,hchosen,Bool.bne_false]
    rw [hverdict selector hpositive,hcovers]
    constructor
    · rintro ⟨term,hterm,alone,halone,hname⟩
      have hplain := parseSyscallSelector_not_negated (haccepted term hterm).1 halone
      exact ⟨term,hterm,_,parseTraceSet_ok.mpr ⟨alone,halone,rfl⟩,
        (hverdict alone hplain).trans hname⟩
    · rintro ⟨term,hterm,parsed,hparsed,hname⟩
      obtain ⟨alone,halone,rfl⟩ := parseTraceSet_ok.mp hparsed
      have hplain := parseSyscallSelector_not_negated (haccepted term hterm).1 halone
      exact ⟨term,hterm,alone,halone,(hverdict alone hplain).symm.trans hname⟩

/-- The kernel and the session agree on every accepted selector and every number; a
detach at an exec adds the exec calls in the kernel alone. On known syscalls a negated
selector gives the complement, and a list the union of its terms. -/
theorem syscall_filter_pushdown (build : Build) (opts : Options) (value : String) :
    (∀ parsed, parseTraceSet build value opts=.ok parsed →
      ∀ (capabilities : String → Option BpfRouteCapability) (refuse : Refusal) (final : BpfMaps)
        (st : TrackingState),
        buildRuntimeConfig build.table capabilities refuse
          (newTraceBPFConfig build.table (some parsed)) {}=.ok (st.config,final) →
        final.syscallFilter=some st.syscallFilterMap →
        ∀ sysID, shouldTraceSyscall st sysID=(userVerdict build.table parsed sysID ||
          parsed.detachOnExecve && isNamed build.table ["execve","execveat"] sysID) ∧
        ∀ detach, userVerdict build.table {parsed with detachOnExecve := detach} sysID=
          userVerdict build.table parsed sysID) ∧
    (∀ negated, parseTraceSet build ("!" ++ value) opts=.ok negated →
      ∃ plain, parseTraceSet build value opts=.ok plain ∧
        ∀ sysID, (build.table.lookup sysID).isSome=true →
          userVerdict build.table negated sysID= !userVerdict build.table plain sysID) ∧
    (hasPrefix value "!"=false → ∀ parsed, parseTraceSet build value opts=.ok parsed →
      (∃ negated, parseTraceSet build ("!" ++ value) opts=.ok negated) ∧
      (∀ term∈fields value ',', ∃ alone, parseTraceSet build term opts=.ok alone) ∧
      ∀ sysID, (build.table.lookup sysID).isSome=true →
        (userVerdict build.table parsed sysID=true ↔ ∃ term∈fields value ',', ∃ alone,
          parseTraceSet build term opts=.ok alone ∧
          userVerdict build.table alone sysID=true)) := by
  refine ⟨?_,fun negated h => userVerdict_negated h,?_⟩
  · intro parsed hparse capabilities refuse final st hconfig hmap sysID
    exact ⟨shouldTraceSyscall_eq_userVerdict hparse hconfig hmap sysID,fun _ => rfl⟩
  · intro hbang parsed hparse
    refine ⟨?_,userVerdict_union hbang hparse⟩
    obtain ⟨selector,hselector,-⟩ := parseTraceSet_ok.mp hparse
    have hnegated := (parseSyscallSelector_negated hbang _).mpr ⟨selector,hselector,rfl⟩
    exact ⟨_,parseTraceSet_ok.mpr ⟨_,hnegated,rfl⟩⟩

/-- A few syscalls of one architecture; a pattern without operators matches the names
that contain it. -/
def fewSyscalls : Build where
  arch := .amd64
  table := {
    entries := [(0,{name := "read", flags := "TD"}),(1,{name := "write", flags := "TD"}),
      (39,{name := "getpid", flags := "PU|NF"}),
      (59,{name := "execve", flags := "CC|TF|TP|TSD|SI"})]
    nodup := by decide
    identifiers := by decide
    known := by decide }
  compile := fun pattern => .ok fun name => contains name pattern

/-- Options of a negated list with a term of another personality, detaching at an exec. -/
def fewParsed : Options where
  debugEvents := true
  traceSyscalls := {"read"}
  traceConfigured := true
  traceSetIsNegated := true
  tracePersonalityQualified := true
  detachOnExecve := true

/-- Kernel map of these options. -/
def fewMarks : GoMap UInt32 UInt32 :=
  (((∅ : GoMap UInt32 UInt32).insert 0 1).insert 1 0).insert 39 0 |>.insert 59 0

theorem syscall_filter_pushdown_few :
    parseTraceSet fewSyscalls "!read,getpid@32" {debugEvents := true, detachOnExecve := true}=
      .ok fewParsed ∧
    ∀ sysID, shouldTraceSyscall {config := 4412, syscallFilterMap := fewMarks} sysID=
      (userVerdict fewSyscalls.table fewParsed sysID ||
        isNamed fewSyscalls.table ["execve","execveat"] sysID) := by
  have hparse : parseTraceSet fewSyscalls "!read,getpid@32"
      {debugEvents := true, detachOnExecve := true}=
      .ok fewParsed := by
    rfl
  refine ⟨hparse,fun sysID => ?_⟩
  exact ((syscall_filter_pushdown fewSyscalls {debugEvents := true, detachOnExecve := true}
    "!read,getpid@32").1
    fewParsed hparse (fun _ => none) (fun _ => none)
    {syscallFilter := some fewMarks, plainEnterElide := some ∅}
    {config := 4412, syscallFilterMap := fewMarks} (by rfl) rfl sysID).1

end Verdicts

end StraceGo.SyscallFilterPushdown

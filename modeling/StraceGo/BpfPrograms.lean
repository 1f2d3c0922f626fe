import StraceGo.DepthFirstClosure
import StraceGo.SyscallFilterPushdown

/-!
# Programs loaded into the kernel

Syscall numbers are routed to slots of program arrays, a program in a slot may
call programs in other slots, and some syscalls need further programs. Only
what the routes can reach is loaded: the selection follows the references of
the catalogs from the core slots, the routed slots and the roots of the routed
syscalls.
-/

namespace StraceGo.BpfPrograms

open DepthFirstClosure
open SyscallSelection (Syscall)
open SyscallFilterPushdown (TraceBPFConfig)

section Catalogs

/-- Arrays of tail-called programs; other numbers name none. -/
inductive BpfProgramArray where
  | enter
  | exit
  | recvmsg
  | mmsgBytes
  | unknown (array : UInt8)
  deriving DecidableEq

/-- A slot of a program array. -/
structure BpfProgramRef where
  /-- Array. -/
  array : BpfProgramArray
  /-- Slot. -/
  slot : UInt32
  deriving DecidableEq

/-- A program of an array. -/
structure BpfTailCallProgramSpec where
  /-- Slot. -/
  slot : UInt32
  /-- Name. -/
  name : String
  /-- Slots the program calls. -/
  dependencies : List BpfProgramRef := []
  deriving DecidableEq

/-- Programs a syscall needs beside its routes. -/
structure BpfProgramRootSpec where
  /-- Programs outside the arrays. -/
  programs : List String := []
  /-- Slots. -/
  refs : List BpfProgramRef := []
  /-- The receive probe is attached. -/
  recvmsgKretprobe : Bool := false

/-- Catalogs of the four arrays. -/
structure Catalogs where
  /-- Programs run at enters. -/
  enter : List BpfTailCallProgramSpec
  /-- Programs run at exits. -/
  exit : List BpfTailCallProgramSpec
  /-- Programs run for received messages. -/
  recvmsg : List BpfTailCallProgramSpec
  /-- Programs run for the bytes of several messages. -/
  mmsgBytes : List BpfTailCallProgramSpec

/-- Program in a slot of a catalog. -/
def bpfTailCallProgramBySlot (catalog : List BpfTailCallProgramSpec) (slot : UInt32) :
    Option BpfTailCallProgramSpec :=
  catalog.find? (·.slot==slot)

/-- Program of a reference. -/
def Catalogs.bpfTailCallProgramByRef (catalogs : Catalogs) (ref : BpfProgramRef) :
    Option BpfTailCallProgramSpec :=
  match ref.array with
  | .enter => bpfTailCallProgramBySlot catalogs.enter ref.slot
  | .exit => bpfTailCallProgramBySlot catalogs.exit ref.slot
  | .recvmsg => bpfTailCallProgramBySlot catalogs.recvmsg ref.slot
  | .mmsgBytes => bpfTailCallProgramBySlot catalogs.mmsgBytes ref.slot
  | .unknown _ => none

/-- Name of an array. -/
def bpfProgramArrayName : BpfProgramArray → String
  | .enter => "enter"
  | .exit => "exit"
  | .recvmsg => "recvmsg"
  | .mmsgBytes => "mmsg_bytes"
  | .unknown _ => "unknown"

/-- Slot of the path-aware program for enters without payload. -/
def enterProgNoPayload : UInt32 := 35

/-- Slot of the plain program for enters without payload. -/
def enterProgNoPayloadGeneric : UInt32 := 46

/-- Slot of the plain program for exits. -/
def exitProgGeneric : UInt32 := 0

/-- Slot of the program for exits that may enter a namespace. -/
def exitProgNamespace : UInt32 := 18

/-- Slot of the program for exits that return a process number. -/
def exitProgPIDNS : UInt32 := 19

end Catalogs

section Routes

/-- Slots of syscall numbers, in any order of iteration. -/
structure BpfRoutePlan where
  /-- Slots at enters. -/
  enter : List (UInt32×UInt32)
  /-- Slots at exits. -/
  exit : List (UInt32×UInt32)

/-- Routes of some numbers. -/
def filterBPFRouteMap (routes : List (UInt32×UInt32)) (selected : List UInt32) :
    List (UInt32×UInt32) :=
  routes.filter fun route => selected.contains route.1

/-- Routes with the plain program for enters without payload. -/
def useGenericNoPayloadEnterSlot (routes : List (UInt32×UInt32)) : List (UInt32×UInt32) :=
  routes.map fun route =>
    if route.2=enterProgNoPayload then (route.1,enterProgNoPayloadGeneric) else route

/-- Routes of some syscalls led to one slot. -/
def useExitRoutes (names : List String) (slot : UInt32) (routes : List (UInt32×UInt32))
    (table : List (UInt32×Syscall)) : List (UInt32×UInt32) :=
  routes.map fun route =>
    match table.lookup route.1 with
    | some syscall => if names.contains syscall.name then (route.1,slot) else route
    | none => route

/-- Routes of syscalls that may enter a namespace. -/
def useNamespaceExitRoutes : List (UInt32×UInt32) → List (UInt32×Syscall) → List (UInt32×UInt32) :=
  useExitRoutes ["clone","clone3","setns","unshare"] exitProgNamespace

/-- Routes of syscalls that return a process number. -/
def usePIDNamespaceExitRoutes :
    List (UInt32×UInt32) → List (UInt32×Syscall) → List (UInt32×UInt32) :=
  useExitRoutes ["getpid","gettid","fork","vfork"] exitProgPIDNS

/-- Routes of a session. -/
def selectBPFRoutePlan (plan : BpfRoutePlan) (table : List (UInt32×Syscall))
    (config : TraceBPFConfig) : BpfRoutePlan :=
  let filters := !config.syscallFilter.negated && config.syscallFilter.enabled && !config.fdState
  let enter :=
    if filters then filterBPFRouteMap plan.enter config.syscallFilter.ids else plan.enter
  let exit := if filters then filterBPFRouteMap plan.exit config.syscallFilter.ids else plan.exit
  let enter := if config.fdState then enter else useGenericNoPayloadEnterSlot enter
  let exit := if config.namespaceNew then useNamespaceExitRoutes exit table else exit
  let exit := if config.decodePIDsPIDNS then usePIDNamespaceExitRoutes exit table else exit
  {enter,exit}

/-- Whether a syscall has an enter route. -/
def routePlanHasSyscall (table : List (UInt32×Syscall)) (plan : BpfRoutePlan) (name : String) :
    Bool :=
  plan.enter.any fun route =>
    match table.lookup route.1 with
    | some syscall => syscall.name==name
    | none => false

end Routes

section Selection

/-- Selected programs. -/
structure BpfProgramSelection where
  /-- Everything is loaded. -/
  loadAll : Bool := false
  /-- Names of the programs. -/
  programs : Finset String := ∅
  /-- References followed. -/
  visited : Finset BpfProgramRef := ∅
  /-- Slots of the enter array. -/
  enterSlots : Finset UInt32 := ∅
  /-- Slots of the exit array. -/
  exitSlots : Finset UInt32 := ∅
  /-- Slots of the array for received messages. -/
  recvmsgSlots : Finset UInt32 := ∅
  /-- Slots of the array for the bytes of several messages. -/
  mmsgByteSlots : Finset UInt32 := ∅
  /-- The receive probe is attached. -/
  recvmsgKretprobe : Bool := false
  /-- Forks are captured with their namespaces. -/
  forkSnapshot : Bool := false
  /-- Reasons of virtual machine exits are captured. -/
  kvmExitReason : Bool := false
  deriving DecidableEq

namespace BpfProgramSelection

variable (s : BpfProgramSelection)

/-- Select a program. -/
def addProgram (name : String) : BpfProgramSelection := {s with programs := insert name s.programs}

/-- A slot is selected. -/
def selects (ref : BpfProgramRef) : Prop :=
  match ref.array with
  | .enter => ref.slot∈s.enterSlots
  | .exit => ref.slot∈s.exitSlots
  | .recvmsg => ref.slot∈s.recvmsgSlots
  | .mmsgBytes => ref.slot∈s.mmsgByteSlots
  | .unknown _ => False

end BpfProgramSelection

variable (catalogs : Catalogs)

/-- Select the program of a reference that was not followed yet; the references it leads to are
followed next. -/
def enterProgramRef (ref : BpfProgramRef) (s : BpfProgramSelection) :
    Except String (BpfProgramSelection×List BpfProgramRef) :=
  match catalogs.bpfTailCallProgramByRef ref with
  | none =>
    .error ("unknown BPF " ++ bpfProgramArrayName ref.array ++ " program slot " ++
      toString ref.slot)
  | some program =>
    let s := {s with visited := insert ref s.visited}.addProgram program.name
    match ref.array with
    | .enter => .ok ({s with enterSlots := insert ref.slot s.enterSlots},program.dependencies)
    | .exit => .ok ({s with exitSlots := insert ref.slot s.exitSlots},program.dependencies)
    | .recvmsg =>
      .ok ({s with recvmsgSlots := insert ref.slot s.recvmsgSlots},program.dependencies)
    | .mmsgBytes =>
      .ok ({s with mmsgByteSlots := insert ref.slot s.mmsgByteSlots},program.dependencies)
    | .unknown array => .error ("unknown BPF program array " ++ toString array)

/-- Follow a reference. -/
def addProgramRef (fuel : ℕ) (ref : BpfProgramRef) (s : BpfProgramSelection) :
    Option (Except String BpfProgramSelection) :=
  visit BpfProgramSelection.visited (enterProgramRef catalogs) fuel ref s

/-- Follow a slot of the enter array. -/
def addEnterSlot (fuel : ℕ) (slot : UInt32) (s : BpfProgramSelection) :
    Option (Except String BpfProgramSelection) :=
  addProgramRef catalogs fuel ⟨.enter,slot⟩ s

/-- Follow a slot of the exit array. -/
def addExitSlot (fuel : ℕ) (slot : UInt32) (s : BpfProgramSelection) :
    Option (Except String BpfProgramSelection) :=
  addProgramRef catalogs fuel ⟨.exit,slot⟩ s

/-- Programs that are always loaded, and those two options need. -/
def corePrograms (forkSnapshot kvmExitReason : Bool) : List String :=
  ["trace_sys_enter","trace_sys_exit","trace_sched_process_fork","trace_sched_process_exec",
    "trace_sched_process_exit","trace_sched_process_free","trace_signal_deliver",
    "trace_signal_generate"] ++
    (if forkSnapshot then ["trace_namespace_fork"] else []) ++
    (if kvmExitReason then ["trace_kvm_userspace_exit"] else [])

/-- Select the core programs and follow the core slots. -/
def addCorePrograms (fuel : ℕ) (fdState forkSnapshot kvmExitReason : Bool)
    (s : BpfProgramSelection) : Option (Except String BpfProgramSelection) :=
  let s := (corePrograms forkSnapshot kvmExitReason).foldl BpfProgramSelection.addProgram s
  let noPayloadSlot := if fdState then enterProgNoPayload else enterProgNoPayloadGeneric
  andThen (addEnterSlot catalogs fuel noPayloadSlot s) (addExitSlot catalogs fuel exitProgGeneric)

/-- Select the programs of a root and follow its references. -/
def addProgramRoot (fuel : ℕ) (root : BpfProgramRootSpec) (s : BpfProgramSelection) :
    Option (Except String BpfProgramSelection) :=
  let s := root.programs.foldl BpfProgramSelection.addProgram s
  andThen (forEach (addProgramRef catalogs fuel) root.refs s) fun s =>
    some (.ok (if root.recvmsgKretprobe then {s with recvmsgKretprobe := true} else s))

/-- Whether everything is loaded. -/
def shouldLoadAllBPFPrograms (config : TraceBPFConfig) : Bool := config.fdState

variable (roots : List (String×BpfProgramRootSpec)) (fuel : ℕ) (plan : BpfRoutePlan)
variable (table : List (UInt32×Syscall)) (config : TraceBPFConfig)

/-- Follow the core slots, the routes and the roots, each in any order of iteration. -/
def addPlannedPrograms (s : BpfProgramSelection) : Option (Except String BpfProgramSelection) :=
  andThen (addCorePrograms catalogs fuel config.fdState
      (config.namespaceNew || config.decodePIDsPIDNS) config.kvmExitReason s)
    fun s => andThen (forEach (addEnterSlot catalogs fuel) (plan.enter.map Prod.snd) s)
    fun s => andThen (forEach (addExitSlot catalogs fuel) (plan.exit.map Prod.snd) s)
    (forEach (fun root s =>
      if routePlanHasSyscall table plan root.1 then addProgramRoot catalogs fuel root.2 s
      else some (.ok s)) roots)

/-- Selection of a session. -/
def newBPFProgramSelection : Option (Except String BpfProgramSelection) :=
  let s : BpfProgramSelection :=
    { loadAll := shouldLoadAllBPFPrograms config
      forkSnapshot := config.namespaceNew || config.decodePIDsPIDNS
      kvmExitReason := config.kvmExitReason }
  if s.loadAll then some (.ok {s with recvmsgKretprobe := true})
  else addPlannedPrograms catalogs roots fuel plan table config s

end Selection

section Following

variable {catalogs : Catalogs} {s s' : BpfProgramSelection}

/-- References the program of a reference leads to. -/
def Catalogs.next (catalogs : Catalogs) (ref : BpfProgramRef) : Option (List BpfProgramRef) :=
  (catalogs.bpfTailCallProgramByRef ref).map (·.dependencies)

/-- References of a catalog. -/
def catalogRefs (array : BpfProgramArray) (catalog : List BpfTailCallProgramSpec) :
    Finset BpfProgramRef :=
  (catalog.map fun program => (⟨array,program.slot⟩ : BpfProgramRef)).toFinset

/-- References of the catalogs. -/
def Catalogs.refs (catalogs : Catalogs) : Finset BpfProgramRef :=
  catalogRefs .enter catalogs.enter∪catalogRefs .exit catalogs.exit∪
    catalogRefs .recvmsg catalogs.recvmsg∪catalogRefs .mmsgBytes catalogs.mmsgBytes

/-- What a selection holds: the programs of some names and of the references followed, and the
slots of these references. -/
structure Holds (catalogs : Catalogs) (names : Finset String) (s : BpfProgramSelection) : Prop where
  /-- Programs. -/
  programs : ∀ name, name∈s.programs ↔
    name∈names ∨ ∃ ref∈s.visited, ∃ program,
      catalogs.bpfTailCallProgramByRef ref=some program ∧ program.name=name
  /-- Slots. -/
  slots : ∀ ref, s.selects ref ↔ ref∈s.visited

/-- A program found in a catalog has its slot there. -/
theorem mem_catalogRefs {array : BpfProgramArray} {catalog : List BpfTailCallProgramSpec}
    {slot : UInt32} {program : BpfTailCallProgramSpec}
    (h : bpfTailCallProgramBySlot catalog slot=some program) :
    (⟨array,slot⟩ : BpfProgramRef)∈catalogRefs array catalog := by
  unfold bpfTailCallProgramBySlot at h
  have hslot : program.slot=slot := by simpa using List.find?_some h
  unfold catalogRefs
  rw [List.mem_toFinset,List.mem_map]
  exact ⟨program,List.mem_of_find?_eq_some h,by rw [hslot]⟩

/-- Exactly references of the catalogs have programs. -/
theorem mem_refs {ref : BpfProgramRef} (h : catalogs.next ref≠none) : ref∈catalogs.refs := by
  obtain ⟨array,slot⟩ := ref
  unfold Catalogs.next at h
  cases hprogram : catalogs.bpfTailCallProgramByRef ⟨array,slot⟩ with
  | none =>
    rw [hprogram] at h
    exact absurd rfl h
  | some program =>
    unfold Catalogs.refs
    simp only [Finset.mem_union]
    cases array with
    | enter => exact Or.inl (Or.inl (Or.inl (mem_catalogRefs hprogram)))
    | exit => exact Or.inl (Or.inl (Or.inr (mem_catalogRefs hprogram)))
    | recvmsg => exact Or.inl (Or.inr (mem_catalogRefs hprogram))
    | mmsgBytes => exact Or.inr (mem_catalogRefs hprogram)
    | unknown array => exact absurd hprogram.symm (Option.some_ne_none _)

/-- What entering a reference does. -/
theorem enterProgramRef_ok {ref : BpfProgramRef} {rest : List BpfProgramRef}
    (h : enterProgramRef catalogs ref s=.ok (s',rest)) :
    ∃ program, catalogs.bpfTailCallProgramByRef ref=some program ∧ rest=program.dependencies ∧
      s'.visited=insert ref s.visited ∧ s'.programs=insert program.name s.programs ∧
      ∀ other, s'.selects other ↔ other=ref ∨ s.selects other := by
  obtain ⟨array,slot⟩ := ref
  unfold enterProgramRef at h
  cases hprogram : catalogs.bpfTailCallProgramByRef ⟨array,slot⟩ with
  | none =>
    rw [hprogram] at h
    exact absurd h (by simp)
  | some program =>
    rw [hprogram] at h
    cases array with
    | unknown array => exact absurd hprogram.symm (Option.some_ne_none _)
    | _ =>
      obtain ⟨rfl,rfl⟩ := Prod.mk.inj (Except.ok.inj h)
      refine ⟨program,rfl,rfl,rfl,rfl,?_⟩
      rintro ⟨other,otherSlot⟩
      cases other <;> simp [BpfProgramSelection.selects,BpfProgramSelection.addProgram]

/-- A reference is refused for want of a program. -/
theorem enterProgramRef_error {ref : BpfProgramRef} {message : String}
    (h : enterProgramRef catalogs ref s=.error message) : catalogs.next ref=none := by
  obtain ⟨array,slot⟩ := ref
  unfold Catalogs.next
  unfold enterProgramRef at h
  cases hprogram : catalogs.bpfTailCallProgramByRef ⟨array,slot⟩ with
  | none => rfl
  | some program =>
    rw [hprogram] at h
    cases array with
    | unknown array => exact absurd hprogram.symm (Option.some_ne_none _)
    | _ => exact absurd h (by simp)

/-- Following references is a search. -/
theorem enters (catalogs : Catalogs) :
    Enters catalogs.next BpfProgramSelection.visited (enterProgramRef catalogs) where
  ok := by
    intro ref s s' rest h
    obtain ⟨program,hprogram,hrest,hvisited,-⟩ := enterProgramRef_ok h
    refine ⟨?_,hvisited⟩
    unfold Catalogs.next
    rw [hprogram,hrest]
    rfl
  error := enterProgramRef_error

/-- Entering a reference adds its program and its slot. -/
theorem Holds.enterProgramRef {names : Finset String} {ref : BpfProgramRef}
    {rest : List BpfProgramRef} (hs : Holds catalogs names s)
    (h : BpfPrograms.enterProgramRef catalogs ref s=.ok (s',rest)) : Holds catalogs names s' := by
  obtain ⟨program,hprogram,-,hvisited,hprograms,hselects⟩ := enterProgramRef_ok h
  constructor
  · intro name
    rw [hprograms,hvisited,Finset.mem_insert,hs.programs]
    simp only [Finset.mem_insert,exists_eq_or_imp,hprogram,Option.some.injEq,exists_eq_left']
    rw [or_left_comm,eq_comm]
  · intro other
    rw [hselects,hvisited,Finset.mem_insert,hs.slots]

/-- Selecting a program adds its name. -/
theorem Holds.addProgram {names : Finset String} (hs : Holds catalogs names s) (name : String) :
    Holds catalogs (insert name names) (s.addProgram name) := by
  constructor
  · intro other
    change other∈insert name s.programs ↔ _
    rw [Finset.mem_insert,hs.programs,Finset.mem_insert,or_assoc]
    rfl
  · exact hs.slots

/-- Selecting some programs adds their names. -/
theorem Holds.addPrograms {names : Finset String} (hs : Holds catalogs names s)
    (added : List String) :
    Holds catalogs (names∪added.toFinset) (added.foldl BpfProgramSelection.addProgram s) := by
  induction added generalizing names s with
  | nil =>
    rw [List.toFinset_nil,Finset.union_empty]
    exact hs
  | cons name rest ih =>
    rw [List.toFinset_cons,Finset.union_insert,←Finset.insert_union]
    exact ih (hs.addProgram name)

/-- Selecting some programs follows no reference. -/
theorem visited_addPrograms (added : List String) (s : BpfProgramSelection) :
    (added.foldl BpfProgramSelection.addProgram s).visited=s.visited := by
  induction added generalizing s with
  | nil => rfl
  | cons name rest ih => exact ih (s.addProgram name)

end Following

section Operations

variable (catalogs : Catalogs)

/-- An operation follows some references and selects some more programs. -/
structure Follows (operation : ℕ → BpfProgramSelection → Option (Except String BpfProgramSelection))
    (roots : Set BpfProgramRef) (added : List String) : Prop where
  /-- What is followed. -/
  meets : ∀ {fuel s outcome}, operation fuel s=some outcome →
    Meets catalogs.next BpfProgramSelection.visited roots s outcome
  /-- What is selected. -/
  holds : ∀ {fuel names s s'}, Holds catalogs names s → operation fuel s=some (.ok s') →
    Holds catalogs (names∪added.toFinset) s'
  /-- Fuel for every catalogued reference is enough. -/
  ends : ∀ {fuel} s, catalogs.refs.card < fuel → ∃ outcome, operation fuel s=some outcome
  /-- More fuel changes nothing. -/
  mono : ∀ {fuel more s outcome}, fuel ≤ more → operation fuel s=some outcome →
    operation more s=some outcome

namespace Follows

variable {catalogs}

/-- An operation that changes no program, slot or mark. -/
theorem of_same {f : BpfProgramSelection → BpfProgramSelection}
    (hvisited : ∀ s, (f s).visited=s.visited)
    (hholds : ∀ {names s}, Holds catalogs names s → Holds catalogs names (f s)) :
    Follows catalogs (fun _ s => some (.ok (f s))) ∅ [] where
  meets := by
    intro fuel s outcome h
    rw [←Option.some.inj h]
    change Explores catalogs.next ∅ s.visited (f s).visited
    rw [hvisited]
    exact Explores.refl s.visited
  holds := by
    intro fuel names s s' hs h
    rw [←Except.ok.inj (Option.some.inj h),List.toFinset_nil,Finset.union_empty]
    exact hholds hs
  ends := fun s _ => ⟨_,rfl⟩
  mono := fun _ h => h

/-- Following one reference. -/
theorem addProgramRef (ref : BpfProgramRef) :
    Follows catalogs (fun fuel => BpfPrograms.addProgramRef catalogs fuel ref) {ref} [] where
  meets := visit_meets (enters catalogs)
  holds := by
    intro fuel names s s' hs h
    rw [List.toFinset_nil,Finset.union_empty]
    exact visit_preserves Holds.enterProgramRef hs h
  ends := by
    intro fuel s hfuel
    have hfewer : (catalogs.refs\s.visited).card ≤ catalogs.refs.card :=
      Finset.card_le_card Finset.sdiff_subset
    exact visit_ends (enters catalogs) (fun ref => mem_refs) ref (Nat.lt_of_le_of_lt hfewer hfuel)
  mono := fun hle h => visit_mono hle h

variable {first second : ℕ → BpfProgramSelection → Option (Except String BpfProgramSelection)}
variable {roots more : Set BpfProgramRef} {added others : List String}

/-- References and programs are sets. -/
theorem congr (hfirst : Follows catalogs first roots added) (hroots : ∀ ref, ref∈roots ↔ ref∈more)
    (hadded : ∀ name, name∈added ↔ name∈others) : Follows catalogs first more others where
  meets := by
    intro fuel s outcome h
    rw [←Set.ext hroots]
    exact hfirst.meets h
  holds := by
    intro fuel names s s' hs h
    have hsame : added.toFinset=others.toFinset := by
      ext name
      rw [List.mem_toFinset,List.mem_toFinset,hadded]
    rw [←hsame]
    exact hfirst.holds hs h
  ends := hfirst.ends
  mono := hfirst.mono

/-- Two operations in turn. -/
theorem andThen (hfirst : Follows catalogs first roots added)
    (hsecond : Follows catalogs second more others) :
    Follows catalogs (fun fuel s => DepthFirstClosure.andThen (first fuel s) (second fuel))
      (roots∪more) (added++others) where
  meets := fun h => Meets.andThen (fun _ => hfirst.meets) (fun _ _ => hsecond.meets) h
  holds := by
    intro fuel names s s' hs h
    obtain ⟨middle,hmiddle,hrest⟩ := andThen_eq_ok h
    rw [List.toFinset_append,←Finset.union_assoc]
    exact hsecond.holds (hfirst.holds hs hmiddle) hrest
  ends := by
    intro fuel s hfuel
    obtain ⟨outcome,houtcome⟩ := hfirst.ends s hfuel
    rw [houtcome]
    cases outcome with
    | error message => exact ⟨.error message,rfl⟩
    | ok middle => exact hsecond.ends middle hfuel
  mono := fun hle h => andThen_mono (hfirst.mono hle) (hsecond.mono hle) h

/-- Programs selected before an operation. -/
theorem after_programs (hfirst : Follows catalogs first roots added) (names : List String) :
    Follows catalogs
      (fun fuel s => first fuel (names.foldl BpfProgramSelection.addProgram s)) roots
      (names++added) where
  meets := by
    intro fuel s outcome h
    have hmeets := hfirst.meets h
    cases outcome with
    | error message => exact hmeets
    | ok result =>
      change Explores catalogs.next roots s.visited result.visited
      rw [←visited_addPrograms names s]
      exact hmeets
  holds := by
    intro fuel held s s' hs h
    rw [List.toFinset_append,←Finset.union_assoc]
    exact hfirst.holds (hs.addPrograms names) h
  ends := fun s hfuel => hfirst.ends _ hfuel
  mono := fun hle h => hfirst.mono hle h

/-- An operation for each element of a list. -/
theorem forEach {β : Type}
    {step : β → ℕ → BpfProgramSelection → Option (Except String BpfProgramSelection)}
    {stepRoots : β → Set BpfProgramRef} {stepAdded : β → List String}
    (hstep : ∀ b, Follows catalogs (step b) (stepRoots b) (stepAdded b)) (items : List β) :
    Follows catalogs (fun fuel => DepthFirstClosure.forEach (fun b => step b fuel) items)
      {ref | ∃ b∈items, ref∈stepRoots b} (items.flatMap stepAdded) := by
  induction items with
  | nil =>
    have hempty : {ref | ∃ b∈([] : List β), ref∈stepRoots b}=∅ := by simp
    rw [hempty]
    exact of_same (fun _ => rfl) fun hs => hs
  | cons b rest ih =>
    have hunion : {ref | ∃ b'∈b::rest, ref∈stepRoots b'}=
        stepRoots b∪{ref | ∃ b'∈rest, ref∈stepRoots b'} := by
      ext ref
      simp
    rw [hunion,List.flatMap_cons]
    exact (hstep b).andThen ih

end Follows

end Operations

section Closure

variable (catalogs : Catalogs) (roots : List (String×BpfProgramRootSpec)) (plan : BpfRoutePlan)
variable (table : List (UInt32×Syscall)) (config : TraceBPFConfig)

/-- A syscall of the plan: a number with an enter route has its name. -/
def InPlan (name : String) : Prop :=
  ∃ route∈plan.enter, ∃ syscall, table.lookup route.1=some syscall ∧ syscall.name=name

/-- Where a selection starts: the core slots, the routed slots and the references of the roots of
the plan's syscalls. -/
def startRefs : Set BpfProgramRef :=
  {ref | ref=⟨.enter,enterProgNoPayloadGeneric⟩ ∨ ref=⟨.exit,exitProgGeneric⟩ ∨
    (∃ route∈plan.enter, ref=⟨.enter,route.2⟩) ∨ (∃ route∈plan.exit, ref=⟨.exit,route.2⟩) ∨
    ∃ root∈roots, InPlan plan table root.1 ∧ ref∈root.2.refs}

/-- The references a plan reaches. -/
def ReachedRef (ref : BpfProgramRef) : Prop :=
  Reachable catalogs.next (startRefs roots plan table) ref

/-- A selection is the closure of a plan. -/
structure IsClosure (outcome : Except String BpfProgramSelection) : Prop where
  /-- It fails for a reached reference that is in no catalog. -/
  fails : (∃ message, outcome=.error message) ↔
    ∃ ref, ReachedRef catalogs roots plan table ref ∧ catalogs.bpfTailCallProgramByRef ref=none
  /-- Selected slots are the reached references. -/
  slots : ∀ s, outcome=.ok s → ∀ ref, s.selects ref ↔ ReachedRef catalogs roots plan table ref
  /-- Selected programs are the core programs, those of the roots and those of the references. -/
  programs : ∀ s, outcome=.ok s → ∀ name, name∈s.programs ↔
    name∈corePrograms (config.namespaceNew || config.decodePIDsPIDNS) config.kvmExitReason ∨
    (∃ root∈roots, InPlan plan table root.1 ∧ name∈root.2.programs) ∨
    ∃ ref program, ReachedRef catalogs roots plan table ref ∧
      catalogs.bpfTailCallProgramByRef ref=some program ∧ program.name=name
  /-- Every tail call of a selected program has its program selected. -/
  tailCalls : ∀ s, outcome=.ok s → ∀ ref program, s.selects ref →
    catalogs.bpfTailCallProgramByRef ref=some program → ∀ target∈program.dependencies,
      s.selects target ∧ ∃ called, catalogs.bpfTailCallProgramByRef target=some called ∧
        called.name∈s.programs

/-- A slot has its program selected. -/
def HasProgram (s : BpfProgramSelection) (ref : BpfProgramRef) : Prop :=
  s.selects ref ∧
    ∃ program, catalogs.bpfTailCallProgramByRef ref=some program ∧ program.name∈s.programs

variable {catalogs roots plan table config}

/-- The code looks for a syscall of the plan. -/
theorem routePlanHasSyscall_iff {name : String} :
    routePlanHasSyscall table plan name=true ↔ InPlan plan table name := by
  unfold routePlanHasSyscall InPlan
  rw [List.any_eq_true]
  constructor
  · rintro ⟨route,hroute,hname⟩
    cases hlookup : table.lookup route.1 with
    | none =>
      rw [hlookup] at hname
      exact absurd hname Bool.false_ne_true
    | some syscall =>
      rw [hlookup] at hname
      exact ⟨route,hroute,syscall,hlookup,beq_iff_eq.mp hname⟩
  · rintro ⟨route,hroute,syscall,hlookup,hname⟩
    refine ⟨route,hroute,?_⟩
    rw [hlookup]
    exact beq_iff_eq.mpr hname

/-- A root follows its references and selects its programs. -/
theorem Follows.addProgramRoot (root : BpfProgramRootSpec) :
    Follows catalogs (fun fuel => BpfPrograms.addProgramRoot catalogs fuel root)
      {ref | ref∈root.refs} root.programs := by
  have href : ∀ ref, Follows catalogs
      (fun fuel => BpfPrograms.addProgramRef catalogs fuel ref) {ref} [] := Follows.addProgramRef
  have hflag : Follows catalogs (fun _ s => some (.ok
      (if root.recvmsgKretprobe then {s with recvmsgKretprobe := true} else s))) ∅ [] := by
    apply Follows.of_same
    · intro s
      split_ifs <;> rfl
    · intro names s hs
      split_ifs
      · exact ⟨hs.programs,hs.slots⟩
      · exact hs
  have hroot := ((Follows.forEach href root.refs).andThen hflag).after_programs root.programs
  exact hroot.congr (by simp) (by simp)

/-- The core programs and slots. -/
theorem Follows.addCorePrograms {fdState : Bool} (hfd : fdState=false)
    (forkSnapshot kvmExitReason : Bool) :
    Follows catalogs
      (fun fuel => BpfPrograms.addCorePrograms catalogs fuel fdState forkSnapshot kvmExitReason)
      {ref | ref=⟨.enter,enterProgNoPayloadGeneric⟩ ∨ ref=⟨.exit,exitProgGeneric⟩}
      (corePrograms forkSnapshot kvmExitReason) := by
  have henter : Follows catalogs (fun fuel =>
      BpfPrograms.addProgramRef catalogs fuel ⟨.enter,enterProgNoPayloadGeneric⟩) _ [] :=
    Follows.addProgramRef _
  have hexit : Follows catalogs (fun fuel =>
      BpfPrograms.addProgramRef catalogs fuel ⟨.exit,exitProgGeneric⟩) _ [] :=
    Follows.addProgramRef _
  have hcore := (henter.andThen hexit).after_programs (corePrograms forkSnapshot kvmExitReason)
  rw [hfd]
  exact hcore.congr (fun _ => Iff.rfl) (by simp)

/-- A root is followed if its syscall is in the plan. -/
theorem Follows.plannedRoot (root : String×BpfProgramRootSpec) :
    Follows catalogs (fun fuel s =>
        if routePlanHasSyscall table plan root.1 then
          BpfPrograms.addProgramRoot catalogs fuel root.2 s
        else some (.ok s))
      {ref | InPlan plan table root.1 ∧ ref∈root.2.refs}
      (if routePlanHasSyscall table plan root.1 then root.2.programs else []) := by
  by_cases h : routePlanHasSyscall table plan root.1=true
  · have hplan := routePlanHasSyscall_iff.mp h
    simp only [h,if_true,hplan,true_and]
    exact Follows.addProgramRoot root.2
  · have hplan := routePlanHasSyscall_iff.not.mp h
    have hempty : {ref | InPlan plan table root.1 ∧ ref∈root.2.refs}=∅ := by
      ext ref
      simp [hplan]
    rw [hempty]
    simp only [h,Bool.false_eq_true,if_false]
    exact Follows.of_same (fun _ => rfl) fun hs => hs

/-- What a plan follows and selects in all. -/
theorem Follows.addPlannedPrograms (hfd : config.fdState=false) :
    Follows catalogs
      (fun fuel => BpfPrograms.addPlannedPrograms catalogs roots fuel plan table config)
      (startRefs roots plan table)
      (corePrograms (config.namespaceNew || config.decodePIDsPIDNS) config.kvmExitReason ++
        roots.flatMap fun root =>
          if routePlanHasSyscall table plan root.1 then root.2.programs else []) := by
  have hslot : ∀ array slot, Follows catalogs
      (fun fuel => BpfPrograms.addProgramRef catalogs fuel ⟨array,slot⟩) {⟨array,slot⟩} [] :=
    fun array slot => Follows.addProgramRef ⟨array,slot⟩
  have henter := Follows.forEach (hslot .enter) (plan.enter.map Prod.snd)
  have hexit := Follows.forEach (hslot .exit) (plan.exit.map Prod.snd)
  have hroot : ∀ root : String×BpfProgramRootSpec, Follows catalogs (fun fuel s =>
      if routePlanHasSyscall table plan root.1 then
        BpfPrograms.addProgramRoot catalogs fuel root.2 s
      else some (.ok s)) _ _ := Follows.plannedRoot
  have hcore : Follows catalogs (fun fuel => BpfPrograms.addCorePrograms catalogs fuel
      config.fdState (config.namespaceNew || config.decodePIDsPIDNS) config.kvmExitReason) _ _ :=
    Follows.addCorePrograms hfd _ _
  have hall := hcore.andThen (henter.andThen (hexit.andThen (Follows.forEach hroot roots)))
  refine hall.congr ?_ ?_
  · intro ref
    unfold startRefs
    simp only [Set.mem_union,Set.mem_ofPred_eq,Set.mem_singleton_iff,List.mem_map,
      exists_exists_and_eq_and,or_assoc]
  · intro name
    simp

/-- Without descriptor state the planned programs are selected from nothing. -/
theorem newBPFProgramSelection_eq (hfd : config.fdState=false) (fuel : ℕ) :
    newBPFProgramSelection catalogs roots fuel plan table config=
      BpfPrograms.addPlannedPrograms catalogs roots fuel plan table config
        { forkSnapshot := config.namespaceNew || config.decodePIDsPIDNS
          kvmExitReason := config.kvmExitReason } := by
  unfold newBPFProgramSelection shouldLoadAllBPFPrograms
  rw [hfd]
  rfl

/-- Nothing is selected at first. -/
theorem holds_empty (catalogs : Catalogs) (forkSnapshot kvmExitReason : Bool) :
    Holds catalogs ∅ {forkSnapshot, kvmExitReason} where
  programs := by simp
  slots := by
    rintro ⟨array,slot⟩
    cases array <;> simp [BpfProgramSelection.selects]

/-- Reached references lead to reached ones. -/
theorem ReachedRef.tail {ref target : BpfProgramRef} {program : BpfTailCallProgramSpec}
    (h : ReachedRef catalogs roots plan table ref)
    (hprogram : catalogs.bpfTailCallProgramByRef ref=some program)
    (htarget : target∈program.dependencies) : ReachedRef catalogs roots plan table target := by
  obtain ⟨start,hstart,hpath⟩ := h
  refine ⟨start,hstart,hpath.tail ⟨program.dependencies,?_,htarget⟩⟩
  unfold Catalogs.next
  rw [hprogram]
  rfl

/-- A planned selection from nothing is the closure of its plan. -/
theorem isClosure_of_addPlannedPrograms (hfd : config.fdState=false) {fuel : ℕ}
    {forkSnapshot kvmExitReason : Bool} {outcome : Except String BpfProgramSelection}
    (h : BpfPrograms.addPlannedPrograms catalogs roots fuel plan table config
      {forkSnapshot, kvmExitReason}=some outcome) :
    IsClosure catalogs roots plan table config outcome := by
  have hfollows : Follows catalogs (fun fuel =>
      BpfPrograms.addPlannedPrograms catalogs roots fuel plan table config) _ _ :=
    Follows.addPlannedPrograms hfd
  have hmeets := hfollows.meets h
  cases outcome with
  | error message =>
    obtain ⟨ref,hreached,hnone⟩ := hmeets
    have hmissing := Option.map_eq_none_iff.mp hnone
    refine ⟨⟨fun _ => ⟨ref,hreached,hmissing⟩,fun _ => ⟨message,rfl⟩⟩,?_,?_,?_⟩
    all_goals
      intro s hs
      exact absurd hs (by simp)
  | ok s =>
    have hexplores : Explores catalogs.next (startRefs roots plan table) ∅ s.visited := hmeets
    have hholds := hfollows.holds (holds_empty catalogs forkSnapshot kvmExitReason) h
    have hslots : ∀ ref, s.selects ref ↔ ReachedRef catalogs roots plan table ref := fun ref =>
      (hholds.slots ref).trans (hexplores.mem_iff ref)
    have hprograms : ∀ name, name∈s.programs ↔
        name∈corePrograms (config.namespaceNew || config.decodePIDsPIDNS) config.kvmExitReason ∨
        (∃ root∈roots, InPlan plan table root.1 ∧ name∈root.2.programs) ∨
        ∃ ref program, ReachedRef catalogs roots plan table ref ∧
          catalogs.bpfTailCallProgramByRef ref=some program ∧ program.name=name := by
      intro name
      rw [hholds.programs name,Finset.empty_union,List.mem_toFinset,List.mem_append,
        List.mem_flatMap,or_assoc]
      refine or_congr_right (or_congr ?_ ?_)
      · refine exists_congr fun root => and_congr_right fun _ => ?_
        rw [←routePlanHasSyscall_iff]
        split_ifs with hplan <;> simp [hplan]
      · refine exists_congr fun ref => ?_
        rw [hexplores.mem_iff ref]
        simp only [ReachedRef,exists_and_left]
    have hknown : ∀ ref, ReachedRef catalogs roots plan table ref →
        catalogs.bpfTailCallProgramByRef ref≠none := fun ref hreached hnone =>
      hexplores.next_ne_none hreached (by rw [Catalogs.next,hnone]; rfl)
    refine ⟨⟨?_,?_⟩,?_,?_,?_⟩
    · rintro ⟨message,hmessage⟩
      exact absurd hmessage (by simp)
    · rintro ⟨ref,hreached,hnone⟩
      exact absurd hnone (hknown ref hreached)
    · intro s' hs
      rw [←Except.ok.inj hs]
      exact hslots
    · intro s' hs
      rw [←Except.ok.inj hs]
      exact hprograms
    · intro s' hs ref program hselects hprogram target htarget
      rw [←Except.ok.inj hs] at hselects ⊢
      have hreached := ((hslots ref).mp hselects).tail hprogram htarget
      obtain ⟨called,hcalled⟩ := Option.ne_none_iff_exists'.mp (hknown target hreached)
      refine ⟨(hslots target).mpr hreached,called,hcalled,?_⟩
      exact (hprograms called.name).mpr (Or.inr (Or.inr ⟨target,called,hreached,hcalled,rfl⟩))

/-- Two outcomes fail alike or select the same slots and programs. -/
def SameSelection : Except String BpfProgramSelection → Except String BpfProgramSelection → Prop
  | .error _,.error _ => True
  | .ok s,.ok s' => (∀ ref, s.selects ref ↔ s'.selects ref) ∧ s.programs=s'.programs
  | _,_ => False

/-- Closures of one plan are the same. -/
theorem IsClosure.same {outcome outcome' : Except String BpfProgramSelection}
    (h : IsClosure catalogs roots plan table config outcome)
    (h' : IsClosure catalogs roots plan table config outcome') :
    SameSelection outcome outcome' := by
  cases outcome with
  | error message =>
    obtain ⟨message',hmessage'⟩ := h'.fails.mpr (h.fails.mp ⟨message,rfl⟩)
    rw [hmessage']
    trivial
  | ok s =>
    cases outcome' with
    | error message =>
      obtain ⟨message',hmessage'⟩ := h.fails.mpr (h'.fails.mp ⟨message,rfl⟩)
      exact absurd hmessage' (by simp)
    | ok s' =>
      constructor
      · intro ref
        rw [h.slots s rfl,h'.slots s' rfl]
      · ext name
        rw [h.programs s rfl,h'.programs s' rfl]

/-- The syscalls of a plan do not depend on its order. -/
theorem inPlan_perm {plan' : BpfRoutePlan} (henter : plan'.enter.Perm plan.enter) (name : String) :
    InPlan plan' table name ↔ InPlan plan table name := by
  unfold InPlan
  simp only [henter.mem_iff]

/-- Closures do not depend on the order of routes and roots. -/
theorem IsClosure.perm {roots' : List (String×BpfProgramRootSpec)} {plan' : BpfRoutePlan}
    {outcome : Except String BpfProgramSelection} (hroots : roots'.Perm roots)
    (henter : plan'.enter.Perm plan.enter) (hexit : plan'.exit.Perm plan.exit)
    (h : IsClosure catalogs roots' plan' table config outcome) :
    IsClosure catalogs roots plan table config outcome := by
  have hstart : startRefs roots' plan' table=startRefs roots plan table := by
    unfold startRefs
    simp only [henter.mem_iff,hexit.mem_iff,hroots.mem_iff,inPlan_perm henter]
  have hreached : ∀ ref, ReachedRef catalogs roots' plan' table ref ↔
      ReachedRef catalogs roots plan table ref := by
    intro ref
    unfold ReachedRef
    rw [hstart]
  refine ⟨?_,?_,?_,h.tailCalls⟩
  · rw [h.fails]
    simp only [hreached]
  · intro s hs ref
    rw [h.slots s hs,hreached]
  · intro s hs name
    rw [h.programs s hs]
    simp only [hroots.mem_iff,inPlan_perm henter,hreached]

/-- With fuel for the catalogued references a plan has one outcome, the closure of the plan. -/
theorem newBPFProgramSelection_ends (catalogs : Catalogs)
    (roots : List (String×BpfProgramRootSpec)) (plan : BpfRoutePlan)
    (table : List (UInt32×Syscall)) (hfd : config.fdState=false) :
    ∃ outcome, (∀ fuel, catalogs.refs.card < fuel →
      newBPFProgramSelection catalogs roots fuel plan table config=some outcome) ∧
      IsClosure catalogs roots plan table config outcome := by
  have hfollows : Follows catalogs (fun fuel =>
      BpfPrograms.addPlannedPrograms catalogs roots fuel plan table config) _ _ :=
    Follows.addPlannedPrograms hfd
  obtain ⟨outcome,houtcome⟩ := hfollows.ends
    { forkSnapshot := config.namespaceNew || config.decodePIDsPIDNS
      kvmExitReason := config.kvmExitReason } (Nat.lt_succ_self catalogs.refs.card)
  refine ⟨outcome,?_,isClosure_of_addPlannedPrograms hfd houtcome⟩
  intro fuel hfuel
  rw [newBPFProgramSelection_eq hfd]
  exact hfollows.mono hfuel houtcome

/-- A reached reference of a closure has its program selected. -/
theorem IsClosure.hasProgram {s : BpfProgramSelection} {ref : BpfProgramRef}
    (h : IsClosure catalogs roots plan table config (.ok s))
    (hreached : ReachedRef catalogs roots plan table ref) : HasProgram catalogs s ref := by
  refine ⟨(h.slots s rfl ref).mpr hreached,?_⟩
  cases hprogram : catalogs.bpfTailCallProgramByRef ref with
  | none =>
    obtain ⟨message,hmessage⟩ := h.fails.mpr ⟨ref,hreached,hprogram⟩
    exact absurd hmessage (by simp)
  | some program =>
    refine ⟨program,rfl,?_⟩
    exact (h.programs s rfl program.name).mpr (Or.inr (Or.inr ⟨ref,program,hreached,hprogram,rfl⟩))

/-- Every route of a closed plan has its program selected. -/
theorem IsClosure.routes {s : BpfProgramSelection}
    (h : IsClosure catalogs roots plan table config (.ok s)) :
    (∀ route∈plan.enter, HasProgram catalogs s ⟨.enter,route.2⟩) ∧
      ∀ route∈plan.exit, HasProgram catalogs s ⟨.exit,route.2⟩ := by
  constructor
  · intro route hroute
    apply h.hasProgram
    exact ⟨_,Or.inr (Or.inr (Or.inl ⟨route,hroute,rfl⟩)),Relation.ReflTransGen.refl⟩
  · intro route hroute
    apply h.hasProgram
    exact ⟨_,Or.inr (Or.inr (Or.inr (Or.inl ⟨route,hroute,rfl⟩))),Relation.ReflTransGen.refl⟩

/-- Without descriptor state a selection ends, in an outcome that is the closure of its plan and
does not depend on the order of the routes and roots; the routes a session selects have their
programs. -/
theorem selection_is_reachable_closure (catalogs : Catalogs)
    (roots : List (String×BpfProgramRootSpec)) (plan : BpfRoutePlan)
    (table : List (UInt32×Syscall)) (config : TraceBPFConfig) (hfd : config.fdState=false) :
    (∃ outcome, (∀ fuel, catalogs.refs.card < fuel →
        newBPFProgramSelection catalogs roots fuel plan table config=some outcome) ∧
      IsClosure catalogs roots plan table config outcome ∧
      ∀ roots' plan', roots'.Perm roots → plan'.enter.Perm plan.enter →
        plan'.exit.Perm plan.exit → ∀ fuel, catalogs.refs.card < fuel → ∃ outcome',
          newBPFProgramSelection catalogs roots' fuel plan' table config=some outcome' ∧
          SameSelection outcome outcome') ∧
    ∀ full s fuel, catalogs.refs.card < fuel →
      newBPFProgramSelection catalogs roots fuel (selectBPFRoutePlan full table config) table
        config=some (.ok s) →
      (∀ route∈(selectBPFRoutePlan full table config).enter,
        HasProgram catalogs s ⟨.enter,route.2⟩) ∧
      ∀ route∈(selectBPFRoutePlan full table config).exit,
        HasProgram catalogs s ⟨.exit,route.2⟩ := by
  constructor
  · obtain ⟨outcome,hends,hclosure⟩ := newBPFProgramSelection_ends catalogs roots plan table hfd
    refine ⟨outcome,hends,hclosure,?_⟩
    intro roots' plan' hroots henter hexit fuel hfuel
    obtain ⟨outcome',hends',hclosure'⟩ := newBPFProgramSelection_ends catalogs roots' plan' table
      hfd
    exact ⟨outcome',hends' fuel hfuel,hclosure.same (hclosure'.perm hroots henter hexit)⟩
  · intro full s fuel hfuel hs
    obtain ⟨outcome,hends,hclosure⟩ := newBPFProgramSelection_ends catalogs roots
      (selectBPFRoutePlan full table config) table hfd
    rw [hends fuel hfuel] at hs
    rw [Option.some.inj hs] at hclosure
    exact hclosure.routes

/-- Catalogs with two programs that call each other. -/
def cyclicCatalogs : Catalogs where
  enter := [⟨46,"enter_no_payload_generic",[]⟩,⟨4,"enter_path_only",[⟨.enter,6⟩]⟩,
    ⟨6,"enter_openat2",[⟨.enter,4⟩,⟨.exit,0⟩]⟩]
  exit := [⟨0,"exit_generic",[]⟩,⟨7,"exit_read",[]⟩]
  recvmsg := []
  mmsgBytes := []

/-- The closure of one routed syscall over programs that call each other. -/
theorem selection_of_cyclic_catalogs :
    ∃ outcome, newBPFProgramSelection cyclicCatalogs [] 6 ⟨[(2,4)],[(2,0)]⟩ [(2,⟨"open",""⟩)]
        {eventRingbufCapacity := 4096}=some outcome ∧
      IsClosure cyclicCatalogs [] ⟨[(2,4)],[(2,0)]⟩ [(2,⟨"open",""⟩)]
        {eventRingbufCapacity := 4096} outcome := by
  obtain ⟨⟨outcome,hends,hclosure,-⟩,-⟩ := selection_is_reachable_closure cyclicCatalogs []
    ⟨[(2,4)],[(2,0)]⟩ [(2,⟨"open",""⟩)] {eventRingbufCapacity := 4096} rfl
  exact ⟨outcome,hends 6 (by decide),hclosure⟩

end Closure

end StraceGo.BpfPrograms

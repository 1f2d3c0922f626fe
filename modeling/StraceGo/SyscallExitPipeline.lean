import StraceGo.FDStateTable

/-!
# The syscall exit pipeline and the descriptor store

The pipeline hands an exit event to the outputs that the options select and to
the handler runner, which records descriptors; several branches end before the
runner. A finalizer records offsets and closed descriptors after every branch.
Sessions whose branches reach the runner alike keep the same descriptor store,
and so do all sessions as long as no event has descriptors to record.
-/

namespace StraceGo.SyscallExitPipeline

open EventEnvelope FiniteMaps EventTaskLifecycle GoText KeyedMaps FDStateEvents FDState FDStateKeys
open FDStateTable

section Events

/-- An exit event, as the pipeline receives it. -/
structure SyscallEvent where
  /-- Name of the syscall. -/
  name : String
  /-- The event with its captured memory. -/
  source : FDStateSource
  /-- Decoder of flags. -/
  fdFlags : Option FDFlagDecoder := none
  /-- Text of the path argument. -/
  pathText : String := ""
  /-- Process. -/
  statePID : ℤ
  /-- Orders of the loops over what the event carries. -/
  order : OverlayOrder := {}

/-- Names of the syscalls that end a task. -/
def isExitName (name : String) : Bool := name=="exit" || name=="exit_group"

/-- Names of the syscalls whose handlers run even for hidden events. -/
def isHandlerName (name : String) : Bool :=
  isFDStateCreatorName (syscallName name) || isOpenedPathFDStateSyscall (syscallName name) ||
    isDuplicatedFDStateSyscall (syscallName name) || isFcntlFDStateSyscall (syscallName name) ||
    ["close","close_range","pipe","pipe2","socketpair","faccessat","faccessat2","chmodat","mkdirat",
      "newfstatat","fstat","chdir","fchdir"].contains name

namespace SyscallEvent

variable (tables : SyscallTables) (ev : SyscallEvent)

/-- Name that decides the traits of an event: by its number, or by its own name. -/
def traitName : String :=
  if ev.source.view.sysID≠0 ∧ ev.source.view.sysID < syscallEventTraitTableSize then
    tables.name ev.source.view.sysID
  else ev.name

/-- Whether an event ends a task. -/
def isExitSyscallEvent : Bool :=
  ev.source.view.eventType==.exit && isExitName (ev.traitName tables)

/-- Whether nothing is shown of an event. -/
def shouldSuppressOutput : Bool := ev.name=="arch_prctl" && ev.source.view.args[0]==0x1002

/-- Whether an event has descriptors to record. -/
def shouldUpdateFDState : Bool :=
  shouldApplyFDStateEvent tables ev.source.view (syscallName ev.name) ev.source.payloadSections

/-- Whether an event may leave an offset. -/
def shouldUpdateFDOffsets : Bool :=
  shouldApplyFDOffsetEvent tables ev.source.view (syscallName ev.name)

/-- Whether an event closes a descriptor. -/
def shouldCleanupClosedFD : Bool :=
  shouldCleanupClosedFDEvent tables ev.source.view (syscallName ev.name)

/-- What the store receives of an event. -/
def fdStateUpdate : FDStateUpdate where
  source := ev.source
  name := syscallName ev.name
  flagDecoder := ev.fdFlags
  pathText := ev.pathText
  targetPID := ev.statePID
  order := ev.order

end SyscallEvent

/-- What the options select. -/
structure OutputPolicy where
  /-- Whether the output is JSON. -/
  json : Bool := false
  /-- Whether no output is written. -/
  discard : Bool := false
  /-- Whether raw records are written for debugging. -/
  debug : Bool := false
  /-- Whether only a summary is written. -/
  summaryOnly : Bool := false
  /-- Whether a summary is written behind the output. -/
  summaryAndPrint : Bool := false
  /-- Status filter for finished and for unfinished events. -/
  emitsStatus : SyscallEvent → Bool → Bool := fun _ _ => true

/-- Whether an event is emitted. -/
def OutputPolicy.shouldEmit (policy : OutputPolicy) (ev : SyscallEvent) (unfinished : Bool) :
    Bool :=
  !policy.discard && policy.emitsStatus ev unfinished

/-- What the pipeline asks its ports to do. -/
inductive Effect where
  | writeRaw (ev : SyscallEvent)
  | recordSummary (ev : SyscallEvent)
  | exitSyscall (ev : SyscallEvent)
  | writeDecoded (ev : SyscallEvent)
  | text (ev : SyscallEvent)
  | fdState (op : FDStateOp)

end Events

section Pipeline

variable (tables : SyscallTables) (policy : OutputPolicy)

/-- Write a raw record, where raw records are asked for. -/
def handleDebugRaw (ev : SyscallEvent) : Option (List Effect) :=
  if policy.json=false ∨ policy.debug=false then none else some [.writeRaw ev]

/-- Count an event for the summary; a summary alone ends the pipeline. -/
def recordSummaryIfNeeded (ev : SyscallEvent) (shouldPrint : Bool) : List Effect×Bool :=
  if policy.summaryOnly=false ∧ policy.summaryAndPrint=false then ([],false)
  else
    (if shouldPrint && policy.shouldEmit ev false then [.recordSummary ev] else [],
      policy.summaryOnly)

/-- Record the descriptors of an event. -/
def update (ev : SyscallEvent) : List Effect :=
  if ev.shouldUpdateFDState tables then [.fdState (.applyFDState ev.fdStateUpdate)] else []

/-- Whether the runner hands an event on to the outputs. -/
def runnerOutputs (ev : SyscallEvent) (shouldPrint handlerContext : Bool) : Bool :=
  if hasPrefix ev.name "syscall_0x" then shouldPrint
  else if handlerContext=false then shouldPrint
  else if (shouldPrint || isHandlerName (ev.traitName tables))=false then false
  else shouldPrint

/-- Write a decoded event, where the output is JSON. -/
def handleDecoded (ev : SyscallEvent) : Option (List Effect) :=
  if policy.json=false then none
  else some (if policy.shouldEmit ev false then [.writeDecoded ev] else [])

/-- Hand an event to the outputs and to the runner. -/
def dispatch (ev : SyscallEvent) (shouldPrint handlerContext : Bool) : List Effect :=
  match handleDebugRaw policy ev with
  | some effects => effects
  | none =>
    if ev.shouldSuppressOutput then []
    else
      let (summary,stops) := recordSummaryIfNeeded policy ev shouldPrint
      if stops then summary
      else if ev.isExitSyscallEvent tables then summary ++ [.exitSyscall ev]
      else
        let recorded := update tables ev
        if runnerOutputs tables ev shouldPrint handlerContext=false then summary ++ recorded
        else
          match handleDecoded policy ev with
          | some effects => summary ++ recorded ++ effects
          | none => summary ++ recorded ++ [.text ev]

/-- Record the offset and the closed descriptor of an event. -/
def finalize (ev : SyscallEvent) : List Effect :=
  (if ev.shouldUpdateFDOffsets tables then
    [.fdState (.applyFDOffsets ev.source.view (syscallName ev.name) ev.statePID)] else []) ++
  (if ev.shouldCleanupClosedFD tables then
    [.fdState (.cleanupClosedFD ev.source.view (syscallName ev.name) ev.statePID)] else [])

/-- Handle an exit event. -/
def handle (ev : SyscallEvent) (shouldPrint handlerContext : Bool) : List Effect :=
  dispatch tables policy ev shouldPrint handlerContext ++ finalize tables ev

end Pipeline

section Runs

/-- What the session decides about an event from the descriptors it knows. -/
structure EventFilter where
  /-- Whether the event is selected. -/
  shouldPrint : FDStateStore → SyscallEvent → Bool
  /-- Whether there is a context for the event's handler. -/
  handlerContext : FDStateStore → SyscallEvent → Bool

/-- What reaches the descriptor store: exits, lifecycle events, new processes and losses. -/
inductive Input where
  | syscallExit (ev : SyscallEvent)
  | lifecycle (view : LifecycleEventView) (task : Option TaskState)
  | inherit (parentPID childPID : ℤ)
  | historyLost

/-- Process whose descriptors an exec closes. -/
def execPID (view : LifecycleEventView) (task : Option TaskState) : UInt32 :=
  let pid := view.pid
  let pid := match task with
    | some task => if pid=0 then if task.tgid=0 then task.tid else task.tgid else pid
    | none => pid
  if pid=0 then view.tid else pid

/-- Close the descriptors of a process that do not survive an exec. -/
def closeOnExec (view : LifecycleEventView) (task : Option TaskState) : List FDStateOp :=
  if 0 < execPID view task then [.closeOnExecProcess (execPID view task).toNat] else []

/-- Forget a process when its last thread is gone. -/
def cleanupProcess (view : LifecycleEventView) (task : Option TaskState) : List FDStateOp :=
  match task with
  | some task =>
    if task.tid≠0 ∧ task.tgid≠0 then
      if task.tid≠task.tgid then [] else [.cleanupProcess task.tgid.toNat]
    else if view.pid≠0 ∧ view.tid≠0 then
      if view.pid≠view.tid then [] else [.cleanupProcess view.pid.toNat]
    else [.cleanupProcess view.tid.toNat]
  | none =>
    if view.pid≠0 ∧ view.tid≠0 then
      if view.pid≠view.tid then [] else [.cleanupProcess view.pid.toNat]
    else [.cleanupProcess view.tid.toNat]

/-- What a lifecycle event asks of the store. -/
def handleLifecycle (view : LifecycleEventView) (task : Option TaskState) : List FDStateOp :=
  if view.action=lifecycleExec then closeOnExec view task
  else if view.action=lifecycleExit ∨ view.action=lifecycleFree then cleanupProcess view task
  else []

/-- Operations of the store among some effects. -/
def storeOps (effects : List Effect) : List FDStateOp :=
  effects.filterMap fun effect =>
    match effect with
    | .fdState op => some op
    | _ => none

variable (tables : SyscallTables) (policy : OutputPolicy) (filter : EventFilter)

/-- Operations of an input. -/
def operations (st : FDStateStore) : Input → List FDStateOp
  | .syscallExit ev =>
    storeOps (handle tables policy ev (filter.shouldPrint st ev) (filter.handlerContext st ev))
  | .lifecycle view task => handleLifecycle view task
  | .inherit parentPID childPID => [.inheritProcessState parentPID childPID]
  | .historyLost => [.taintHistory]

/-- Operations of an input with the orders of their loops. -/
def orderedOps (st : FDStateStore) (input : Input×LoopOrders) : List (FDStateOp×LoopOrders) :=
  (operations tables policy filter st input.1).map fun op => (op,input.2)

/-- Process inputs in their order. -/
def run (st : FDStateStore) (inputs : List (Input×LoopOrders)) : FDStateStore :=
  inputs.foldl (fun st input => st.run tables (orderedOps tables policy filter st input)) st

/-- The loops of every operation visit their maps. -/
def CoveredInputs : FDStateStore → List (Input×LoopOrders) → Prop
  | _,[] => True
  | st,input::rest =>
    CoveredRun tables st (orderedOps tables policy filter st input) ∧
      CoveredInputs (st.run tables (orderedOps tables policy filter st input)) rest

end Runs

section StoreOperations

variable (tables : SyscallTables)

/-- Whether the branches of a session reach the runner. -/
def OutputPolicy.reachesRunner (policy : OutputPolicy) : Bool :=
  !(policy.json && policy.debug) && !policy.summaryOnly

/-- Whether the runner, where it is reached, records descriptors of an event. -/
def SyscallEvent.recordable (ev : SyscallEvent) : Bool :=
  !ev.shouldSuppressOutput && !ev.isExitSyscallEvent tables && ev.shouldUpdateFDState tables

@[simp] theorem storeOps_append (first second : List Effect) :
    storeOps (first ++ second)=storeOps first ++ storeOps second :=
  List.filterMap_append

theorem storeOps_summary (policy : OutputPolicy) (ev : SyscallEvent) (shouldPrint : Bool) :
    storeOps (recordSummaryIfNeeded policy ev shouldPrint).1=[] := by
  unfold recordSummaryIfNeeded
  split_ifs <;> rfl

/-- The runner alone asks the store to record descriptors. -/
theorem storeOps_dispatch (policy : OutputPolicy) (ev : SyscallEvent)
    (shouldPrint handlerContext : Bool) :
    storeOps (dispatch tables policy ev shouldPrint handlerContext)=
      if policy.reachesRunner && ev.recordable tables then [.applyFDState ev.fdStateUpdate]
      else [] := by
  have hupdate : storeOps (update tables ev)=
      if ev.shouldUpdateFDState tables then [.applyFDState ev.fdStateUpdate] else [] := by
    unfold update
    split_ifs <;> rfl
  have hstops : (recordSummaryIfNeeded policy ev shouldPrint).2=policy.summaryOnly := by
    unfold recordSummaryIfNeeded
    by_cases hsummary : policy.summaryOnly=false ∧ policy.summaryAndPrint=false
    · rw [if_pos hsummary]
      exact hsummary.1.symm
    · rw [if_neg hsummary]
  have htext : storeOps [.text ev]=[] := rfl
  have hdecoded : storeOps [.writeDecoded ev]=[] := rfl
  unfold dispatch handleDebugRaw OutputPolicy.reachesRunner SyscallEvent.recordable
  by_cases hraw : policy.json=false ∨ policy.debug=false
  · have hmode : (policy.json && policy.debug)=false := by
      rcases hraw with hraw | hraw <;> simp [hraw]
    rw [if_pos hraw,hmode]
    dsimp only
    rw [hstops]
    cases ev.shouldSuppressOutput with
    | true => simp [storeOps]
    | false =>
      cases policy.summaryOnly with
      | true => simp [storeOps_summary]
      | false =>
        cases ev.isExitSyscallEvent tables with
        | true =>
          simp only [Bool.false_eq_true,if_false,if_true,storeOps_append,storeOps_summary]
          simp [storeOps]
        | false =>
          have hsplit : storeOps (if runnerOutputs tables ev shouldPrint handlerContext=false then
              (recordSummaryIfNeeded policy ev shouldPrint).1 ++ update tables ev
            else
              match handleDecoded policy ev with
              | some effects =>
                (recordSummaryIfNeeded policy ev shouldPrint).1 ++ update tables ev ++ effects
              | none =>
                (recordSummaryIfNeeded policy ev shouldPrint).1 ++ update tables ev ++
                  [.text ev])=storeOps (update tables ev) := by
            unfold handleDecoded
            split_ifs
            · simp [storeOps_summary]
            · simp [storeOps_summary,htext]
            · simp [storeOps_summary,hdecoded]
            · simp [storeOps_summary]
          simp only [Bool.false_eq_true,if_false]
          rw [hsplit,hupdate]
          simp
  · have hmode : (policy.json && policy.debug)=true := by simpa using hraw
    rw [if_neg hraw,hmode]
    simp [storeOps]

/-- Operations of an input, whatever is selected. -/
def storeInput (policy : OutputPolicy) : Input → List FDStateOp
  | .syscallExit ev =>
    (if policy.reachesRunner && ev.recordable tables then [.applyFDState ev.fdStateUpdate]
      else []) ++ storeOps (finalize tables ev)
  | .lifecycle view task => handleLifecycle view task
  | .inherit parentPID childPID => [.inheritProcessState parentPID childPID]
  | .historyLost => [.taintHistory]

/-- What is selected does not matter to the store. -/
theorem operations_eq (policy : OutputPolicy) (filter : EventFilter) (st : FDStateStore)
    (input : Input) : operations tables policy filter st input=storeInput tables policy input := by
  cases input with
  | syscallExit ev =>
    unfold operations handle storeInput
    dsimp only
    rw [storeOps_append,storeOps_dispatch]
  | lifecycle view task => rfl
  | inherit parentPID childPID => rfl
  | historyLost => rfl

/-- Process inputs on a table. -/
def runTable (policy : OutputPolicy) (t : DescriptorTable) (inputs : List Input) :
    DescriptorTable :=
  inputs.foldl (fun t input => t.run tables (storeInput tables policy input)) t

/-- A run on the store is the image of the run on the table. -/
theorem represents_run {policy : OutputPolicy} {filter : EventFilter} {st : FDStateStore}
    {t : DescriptorTable} (h : Represents st t) {inputs : List (Input×LoopOrders)}
    (hcovered : CoveredInputs tables policy filter st inputs) :
    Represents (run tables policy filter st inputs)
      (runTable tables policy t (inputs.map Prod.fst)) := by
  induction inputs generalizing st t with
  | nil => exact h
  | cons input rest ih =>
    have hstep := h.run hcovered.1
    have hops : (orderedOps tables policy filter st input).map Prod.fst=
        storeInput tables policy input.1 := by
      unfold orderedOps
      rw [List.map_map,operations_eq]
      exact List.map_id _
    rw [hops] at hstep
    exact ih hstep hcovered.2

end StoreOperations

section Modes

variable (tables : SyscallTables)

/-- Whether an input is a loss. -/
def Input.isLoss : Input → Bool
  | .historyLost => true
  | _ => false

/-- Whether the runner records descriptors of an input. -/
def Input.recordable : Input → Bool
  | .syscallExit ev => ev.recordable tables
  | _ => false

/-- No descriptors are to be recorded before history is lost. -/
def NothingRecorded : Bool → List Input → Prop
  | _,[] => True
  | lost,input::rest =>
    (lost=true ∨ input.recordable tables=false) ∧ NothingRecorded (lost || input.isLoss) rest

/-- Operations keep the mark of a loss. -/
theorem tainted_perform {t : DescriptorTable} (h : t.tainted=true) (op : FDStateOp) :
    (t.perform tables op).tainted=true := by
  cases op with
  | applyFDState update =>
    unfold DescriptorTable.perform DescriptorTable.applyFDState
    dsimp only
    rw [if_pos (Or.inl h)]
    exact h
  | applyFDOffsets view name pid =>
    unfold DescriptorTable.perform DescriptorTable.applyFDOffsets
    dsimp only
    rw [if_pos h]
    exact h
  | cleanupClosedFD view name pid =>
    unfold DescriptorTable.perform DescriptorTable.cleanupClosedFD
    dsimp only
    split_ifs <;> exact h
  | inheritProcessState parentPID childPID =>
    unfold DescriptorTable.perform DescriptorTable.inheritProcessState
    dsimp only
    split_ifs <;> exact h
  | cleanupProcess pid => exact h
  | closeOnExecProcess pid =>
    unfold DescriptorTable.perform DescriptorTable.closeOnExecProcess
    dsimp only
    split_ifs <;> exact h
  | taintHistory =>
    unfold DescriptorTable.perform DescriptorTable.taintHistory
    dsimp only
    rw [if_pos h]
    exact h

theorem tainted_run {t : DescriptorTable} (h : t.tainted=true) (ops : List FDStateOp) :
    (t.run tables ops).tainted=true := by
  induction ops generalizing t with
  | nil => exact h
  | cons op rest ih => exact ih (tainted_perform tables h op)

/-- An input without descriptors to record, or after a loss, does the same in every mode. -/
theorem run_storeInput_eq (p q : OutputPolicy) {t : DescriptorTable} {input : Input}
    (h : p.reachesRunner=q.reachesRunner ∨ t.tainted=true ∨ input.recordable tables=false) :
    t.run tables (storeInput tables p input)=t.run tables (storeInput tables q input) := by
  cases input with
  | syscallExit ev =>
    have hrecord : t.tainted=true ∨ ev.recordable tables=false → ∀ policy : OutputPolicy,
        t.run tables (storeInput tables policy (.syscallExit ev))=
          t.run tables (storeOps (finalize tables ev)) := by
      intro hskip policy
      unfold storeInput
      dsimp only
      by_cases hruns : (policy.reachesRunner && ev.recordable tables)=true
      · rw [Bool.and_eq_true] at hruns
        have htainted : t.tainted=true := by
          rcases hskip with hskip | hskip
          · exact hskip
          · rw [hruns.2] at hskip
            exact Bool.noConfusion hskip
        have happly : t.perform tables (.applyFDState ev.fdStateUpdate)=t :=
          if_pos (Or.inl htainted)
        rw [hruns.1,hruns.2]
        unfold DescriptorTable.run
        rw [Bool.and_true,if_pos rfl,List.foldl_append,List.foldl_cons,happly]
        rfl
      · rw [if_neg hruns]
        rfl
    rcases h with hmode | hskip
    · unfold storeInput
      rw [hmode]
    · rw [hrecord hskip p,hrecord hskip q]
  | lifecycle view task => rfl
  | inherit parentPID childPID => rfl
  | historyLost => rfl

/-- Runs on a table agree in two modes that reach the runner alike, or when nothing is recorded. -/
theorem runTable_eq (p q : OutputPolicy) {t : DescriptorTable} {lost : Bool} {inputs : List Input}
    (hlost : lost=true → t.tainted=true)
    (h : p.reachesRunner=q.reachesRunner ∨ NothingRecorded tables lost inputs) :
    runTable tables p t inputs=runTable tables q t inputs := by
  induction inputs generalizing t lost with
  | nil => rfl
  | cons input rest ih =>
    have hstep : t.run tables (storeInput tables p input)=
        t.run tables (storeInput tables q input) := by
      refine run_storeInput_eq tables p q ?_
      rcases h with hmode | ⟨hskip,-⟩
      · exact Or.inl hmode
      · exact Or.inr (hskip.imp_left hlost)
    have hnext : (lost || input.isLoss)=true →
        (t.run tables (storeInput tables q input)).tainted=true := by
      intro hafter
      rw [Bool.or_eq_true] at hafter
      rcases hafter with hbefore | hloss
      · exact tainted_run tables (hlost hbefore) _
      · cases input with
        | historyLost =>
          unfold storeInput DescriptorTable.run
          change (t.taintHistory).tainted=true
          unfold DescriptorTable.taintHistory
          split_ifs with htainted
          · exact htainted
          · rfl
        | syscallExit ev => exact Bool.noConfusion hloss
        | lifecycle view task => exact Bool.noConfusion hloss
        | inherit parentPID childPID => exact Bool.noConfusion hloss
    unfold runTable at ih ⊢
    rw [List.foldl_cons,List.foldl_cons,hstep]
    exact ih hnext (h.imp_right And.right)

/-- Two sessions over the same inputs and the same filter, whatever they write, end with the
same descriptor store if their branches reach the runner alike, or if no event before a loss has
descriptors to record. -/
theorem stores_agree_when_nothing_recorded (seeds : List (ℤ×String)) (filter : EventFilter)
    (p q : OutputPolicy) (inputs other : List (Input×LoopOrders))
    (hsame : inputs.map Prod.fst=other.map Prod.fst)
    (hinputs : CoveredInputs tables p filter (newFDStateStoreFromSeed seeds) inputs)
    (hother : CoveredInputs tables q filter (newFDStateStoreFromSeed seeds) other)
    (h : p.reachesRunner=q.reachesRunner ∨
      NothingRecorded tables false (inputs.map Prod.fst)) :
    run tables p filter (newFDStateStoreFromSeed seeds) inputs=
      run tables q filter (newFDStateStoreFromSeed seeds) other := by
  have hseeds := represents_newFDStateStoreFromSeed seeds
  have hp := represents_run tables hseeds hinputs
  have hq := represents_run tables hseeds hother
  rw [←hsame,←runTable_eq tables p q (fun hlost => Bool.noConfusion hlost) h] at hq
  exact hp.eq hq

/-- Operations without loops need no orders. -/
theorem coveredRun_of_forall {st : FDStateStore} {ops : List (FDStateOp×LoopOrders)}
    (h : ∀ op∈ops, ∀ st, Covered st op.1 op.2) : CoveredRun tables st ops := by
  induction ops generalizing st with
  | nil => trivial
  | cons op rest ih =>
    rw [List.forall_mem_cons] at h
    exact ⟨h.1 st,ih h.2⟩

/-- Only a closed range makes an exit event loop over the maps. -/
theorem coveredInputs_syscallExit {policy : OutputPolicy} {filter : EventFilter}
    {st : FDStateStore} {ev : SyscallEvent} (hname : syscallName ev.name≠.closeRange)
    (orders : LoopOrders) :
    CoveredInputs tables policy filter st [(.syscallExit ev,orders)] := by
  have hfinal : ∀ op∈storeOps (finalize tables ev), ∀ st, Covered st op orders := by
    unfold finalize
    intro op hop st
    rw [storeOps_append,List.mem_append] at hop
    rcases hop with hop | hop
    · split_ifs at hop
      · rw [List.mem_singleton.mp hop]
        trivial
      · exact absurd hop List.not_mem_nil
    · split_ifs at hop
      · rw [List.mem_singleton.mp hop]
        trivial
      · exact absurd hop List.not_mem_nil
  refine ⟨coveredRun_of_forall tables ?_,trivial⟩
  unfold orderedOps
  rw [operations_eq]
  intro pair hpair st
  obtain ⟨op,hop,rfl⟩ := List.mem_map.mp hpair
  unfold storeInput at hop
  rcases List.mem_append.mp hop with hop | hop
  · split_ifs at hop
    · rw [List.mem_singleton.mp hop]
      exact fun hrange => absurd hrange hname
    · exact absurd hop List.not_mem_nil
  · exact hfinal op hop st

/-- Syscall number two is `open`. -/
def openTables : SyscallTables :=
  ⟨fun id => if id=2 then "open" else "",fun _ => false,fun _ => false⟩

/-- A filter that selects everything. -/
def unfiltered : EventFilter := ⟨fun _ _ => true,fun _ _ => true⟩

/-- Process seven opens a file as descriptor three. -/
def openedBySeven : SyscallEvent where
  name := "open"
  source := {
    view := ({eventType := .exit, sysID := 2, pid := 7, tid := 7, ret := 3} :
      TraceEventEnvelope).syscallView
    payloadSections := [{
      kind := .string, direction := .input, argIndex := 0, userPtr := 4096, userLen := 3,
      copiedLen := 3, probeRet := 0, data := [47,120,0]}]}
  pathText := "\"/x\""
  statePID := 7

/-- Process seven asks for its number. -/
def getpidBySeven : SyscallEvent where
  name := "getpid"
  source := {
    view := ({eventType := .exit, sysID := 39, pid := 7, tid := 7, ret := 7} :
      TraceEventEnvelope).syscallView
    payloadSections := []}
  statePID := 7

/-- A plain syscall leaves the stores of a text session and of a summary alike. -/
theorem stores_agree_getpid :
    run openTables {} unfiltered (newFDStateStoreFromSeed [(7,"/")])
        [(.syscallExit getpidBySeven,{})]=
      run openTables {summaryOnly := true} unfiltered (newFDStateStoreFromSeed [(7,"/")])
        [(.syscallExit getpidBySeven,{})] := by
  have hcovered : ∀ policy, CoveredInputs openTables policy unfiltered
      (newFDStateStoreFromSeed [(7,"/")]) [(.syscallExit getpidBySeven,{})] :=
    fun _ => coveredInputs_syscallExit openTables (by decide) _
  exact stores_agree_when_nothing_recorded openTables [(7,"/")] unfiltered {} {summaryOnly := true}
    [(.syscallExit getpidBySeven,{})] [(.syscallExit getpidBySeven,{})] rfl (hcovered _)
      (hcovered _)
    (Or.inr ⟨Or.inr (by decide),trivial⟩)

/-- A path that a text session records is missing in a summary and in a session that writes raw
records. -/
theorem opened_path_missing_in_summary :
    (run openTables {} unfiltered (newFDStateStoreFromSeed [])
      [(.syscallExit openedBySeven,{})]).path 7 3=some "/x" ∧
    (run openTables {summaryOnly := true} unfiltered (newFDStateStoreFromSeed [])
      [(.syscallExit openedBySeven,{})]).path 7 3=none ∧
    (run openTables {json := true, debug := true} unfiltered (newFDStateStoreFromSeed [])
      [(.syscallExit openedBySeven,{})]).path 7 3=none := by
  have hcovered : ∀ policy, CoveredInputs openTables policy unfiltered
      (newFDStateStoreFromSeed []) [(.syscallExit openedBySeven,{})] :=
    fun _ => coveredInputs_syscallExit openTables (by decide) _
  have hpath : ∀ policy, (run openTables policy unfiltered (newFDStateStoreFromSeed [])
      [(.syscallExit openedBySeven,{})]).path 7 3=
        if (runTable openTables policy (DescriptorTable.ofSeeds [])
          [.syscallExit openedBySeven]).tainted then none
        else (runTable openTables policy (DescriptorTable.ofSeeds [])
          [.syscallExit openedBySeven]).paths (7,.fd 3) := by
    intro policy
    have h := represents_run openTables (represents_newFDStateStoreFromSeed []) (hcovered policy)
    unfold FDStateStore.path
    rw [h.tainted]
    exact congrArg _ (h.paths.lookup (7,.fd 3))
  rw [hpath,hpath,hpath]
  decide

end Modes

end StraceGo.SyscallExitPipeline

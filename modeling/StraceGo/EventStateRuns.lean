import StraceGo.EventStateFrame

/-!
# Runs of the session state

A run interleaves records, releases of updates that are out, losses and the
callbacks of the outputs. A loss visits the maps in any order that lists every
key once. Along every run each recycled cell keeps exactly one holder, and the
correlation state remembers what the dispatch on contents says.
-/

namespace StraceGo.EventStateRuns

open EventEnvelope FiniteMaps ObjectPool EventPayloadStorage EventSyscallCorrelation
  EventTaskLifecycle EventUnfinishedState EventState EventSyscallOwnership EventStateContents
  EventStateFrame

/-- Configuration of a session. -/
structure SessionConfig where
  /-- Exits without an enter wait for it. -/
  deferUnmatchedExits : Bool := false
  /-- The producer elides plain enters. -/
  elidePlainEnter : Bool := false
  /-- Only enters of non-blocking syscalls are elided. -/
  elideNonBlockingPlainEnter : Bool := false
  /-- Forks are related to their children. -/
  trackForkIdentity : Bool := true
  /-- Text mode. -/
  textMode : Bool := true
  /-- Terminating syscall numbers. -/
  lifecycleIDs : SyscallLifecycleIDs := {}
  /-- Process started by the session. -/
  commandTargetPID : UInt32 := 0
  /-- Attached processes. -/
  attachPIDs : Finset UInt32 := ∅

/-- State at the start of a session. -/
def newTraceStateForSession (config : SessionConfig) : TraceState where
  deferUnmatchedExits := config.deferUnmatchedExits
  elidePlainEnter := config.elidePlainEnter
  elideNonBlockingPlainEnter := config.elideNonBlockingPlainEnter
  lifecycleIDs := config.lifecycleIDs
  unfinished := {enabled := config.textMode}
  lifecycle :=
    {trackForkIdentity := config.trackForkIdentity, commandTargetPID := config.commandTargetPID}
  attach := {targets := config.attachPIDs}

/-- The state together with the updates that are out. -/
structure System where
  /-- The session state. -/
  st : TraceState
  /-- Updates not yet released. -/
  updates : List TraceStateUpdate := []

/-- One call on the session state. -/
inductive Operation where
  | handle (envelope : TraceEventEnvelope)
  | release (index : ℕ)
  | taint (order : TraceState.TaintOrder)
  | rememberPendingExecArgs (tid : ℤ) (argLine : String)
  | takePendingExecArgs (tid : ℤ)
  | rememberSuspendedSyscall (tid : ℤ) (name : String)
  | consumeSuspendedSyscall (tid : ℤ)
  | markUnfinishedPrinted (tid : UInt32)
  | requeueUnfinished (tid : UInt32)

/-- Whether an operation is a loss. -/
def Operation.isTaint : Operation → Bool
  | .taint _ => true
  | _ => false

variable (tables : SyscallTables)

/-- Release one of the updates that are out. -/
def releaseAt (sys : System) (index : ℕ) : System :=
  match sys.updates[index]? with
  | none => sys
  | some update =>
    {st := sys.st.releaseTraceStateUpdate update, updates := sys.updates.eraseIdx index}

/-- Apply one call. -/
def apply (sys : System) : Operation → System
  | .handle envelope =>
    let (st,update) := sys.st.handleEnvelope tables envelope
    {st := st, updates := sys.updates ++ [update]}
  | .release index => releaseAt sys index
  | .taint order => {sys with st := sys.st.taintHistory tables order}
  | .rememberPendingExecArgs tid argLine =>
    {sys with st := sys.st.rememberPendingExecArgs tid argLine}
  | .takePendingExecArgs tid => {sys with st := (sys.st.takePendingExecArgs tid).1}
  | .rememberSuspendedSyscall tid name =>
    {sys with st := sys.st.rememberSuspendedSyscall tid name}
  | .consumeSuspendedSyscall tid => {sys with st := (sys.st.consumeSuspendedSyscall tid).1}
  | .markUnfinishedPrinted tid => {sys with st := sys.st.markUnfinishedPrinted tid}
  | .requeueUnfinished tid => {sys with st := sys.st.requeueUnfinished tables tid}

/-- A loss visits every open enter, every stored exit that is left, and every task. -/
def Admissible (sys : System) : Operation → Prop
  | .taint order =>
    Enumerates order.pending sys.st.correlation.pendingSyscalls.index ∧
      Enumerates order.exits
        (TraceState.clearTasks sys.st.correlation order.pending).pendingExits.index ∧
      Enumerates order.tasks sys.st.lifecycle.tasks
  | _ => True

/-- Apply calls in order. -/
def run (sys : System) (ops : List Operation) : System := ops.foldl (apply tables) sys

/-- Every loss of the run visits its maps completely. -/
def AdmissibleRun (sys : System) : List Operation → Prop
  | [] => True
  | op::ops => Admissible sys op ∧ AdmissibleRun (apply tables sys op) ops

/-- Snapshots held by the updates that are out. -/
def liveOf (updates : List TraceStateUpdate) : Multiset Ref := updates.foldr updateLive 0

/-- Storages held by the updates that are out. -/
def looseOf (updates : List TraceStateUpdate) : Multiset Ref := updates.foldr updateLoose 0

/-- The state is properly owned and remembers `a`. -/
def Remembers (sys : System) (a : Contents) : Prop :=
  Represents sys.st.correlation (liveOf sys.updates) (looseOf sys.updates)
    (snapshotAt sys.st.correlation) a

/-- Contents after a call. -/
def applyContents (sys : System) (a : Contents) : Operation → Contents
  | .handle envelope => (handle (policy tables sys.st) a envelope).1
  | .release _ => a
  | .taint _ => ⟨fun _ => none,fun _ => none,∅,∅⟩
  | .rememberPendingExecArgs tid argLine =>
    if sys.st.tainted then a
    else {a with pendingExecArgs := a.pendingExecArgs.insert tid argLine}
  | .takePendingExecArgs tid => {a with pendingExecArgs := a.pendingExecArgs.erase tid}
  | .rememberSuspendedSyscall tid name =>
    if sys.st.tainted then a
    else {a with suspendedSyscalls := a.suspendedSyscalls.insert tid name}
  | .consumeSuspendedSyscall tid => {a with suspendedSyscalls := a.suspendedSyscalls.erase tid}
  | .markUnfinishedPrinted tid => a.markUnfinishedPrinted tid
  | .requeueUnfinished _ => a

section Updates

variable {updates : List TraceStateUpdate} {update : TraceStateUpdate}

theorem withSnapshot_eq (snapshot : Option Ref) (live : Multiset Ref) :
    withSnapshot snapshot live=withSnapshot snapshot 0+live := by
  cases snapshot with
  | none => exact (zero_add live).symm
  | some ref => exact (Multiset.singleton_add ref live).symm

/-- An update adds its own snapshots to those already out. -/
theorem updateLive_eq (update : TraceStateUpdate) (live : Multiset Ref) :
    updateLive update live=updateLive update 0+live := by
  unfold updateLive
  rw [withSnapshot_eq update.pendingEnter,withSnapshot_eq _ live,
    withSnapshot_eq update.pendingEnter (withSnapshot _ 0),add_assoc]

theorem liveOf_append (updates : List TraceStateUpdate) (rest : Multiset Ref) :
    updates.foldr updateLive rest=liveOf updates+rest := by
  unfold liveOf
  induction updates with
  | nil => exact (zero_add rest).symm
  | cons update updates ih =>
    rw [List.foldr_cons,List.foldr_cons,ih,updateLive_eq,
      updateLive_eq update (updates.foldr updateLive 0),add_assoc]

theorem looseOf_append (updates : List TraceStateUpdate) (rest : Multiset Ref) :
    updates.foldr updateLoose rest=looseOf updates+rest := by
  unfold looseOf
  induction updates with
  | nil => exact (zero_add rest).symm
  | cons update updates ih =>
    rw [List.foldr_cons,List.foldr_cons,ih,updateLoose,updateLoose,add_assoc]

/-- A new update adds its own snapshots. -/
theorem liveOf_concat (updates : List TraceStateUpdate) (update : TraceStateUpdate) :
    liveOf (updates ++ [update])=updateLive update (liveOf updates) := by
  rw [liveOf,List.foldr_append,liveOf_append,List.foldr_cons,List.foldr_nil,add_comm,
    ←updateLive_eq]

/-- A new update adds its own storages. -/
theorem looseOf_concat (updates : List TraceStateUpdate) (update : TraceStateUpdate) :
    looseOf (updates ++ [update])=updateLoose update (looseOf updates) := by
  rw [looseOf,List.foldr_append,looseOf_append,List.foldr_cons,List.foldr_nil,updateLoose,
    updateLoose,add_zero,add_comm]

/-- A released update takes its own snapshots away. -/
theorem liveOf_eraseIdx {index : ℕ} (h : updates[index]?=some update) :
    liveOf updates=updateLive update (liveOf (updates.eraseIdx index)) := by
  induction updates generalizing index with
  | nil => exact nomatch h
  | cons first rest ih =>
    cases index with
    | zero =>
      obtain rfl := Option.some.inj h
      rfl
    | succ index =>
      have hrest := ih h
      change updateLive first (liveOf rest)=
        updateLive update (updateLive first (liveOf (rest.eraseIdx index)))
      rw [hrest,updateLive_eq first,updateLive_eq update (liveOf _),
        updateLive_eq update (updateLive first _),updateLive_eq first (liveOf _),add_left_comm]

/-- A released update takes its own storages away. -/
theorem looseOf_eraseIdx {index : ℕ} (h : updates[index]?=some update) :
    looseOf updates=updateLoose update (looseOf (updates.eraseIdx index)) := by
  induction updates generalizing index with
  | nil => exact nomatch h
  | cons first rest ih =>
    cases index with
    | zero =>
      obtain rfl := Option.some.inj h
      rfl
    | succ index =>
      have hrest := ih h
      change updateLoose first (looseOf rest)=
        updateLoose update (updateLoose first (looseOf (rest.eraseIdx index)))
      rw [hrest,updateLoose,updateLoose,updateLoose,updateLoose,add_left_comm]

end Updates

section Losses

variable {c : TraceSyscallCorrelationState} {live loose : Multiset Ref} {out : Ref → EnterValue}
  {a : Contents}

theorem clearTasks_represents (h : Represents c live loose out a) (order : List UInt32) :
    Represents (TraceState.clearTasks c order) live loose out
      (order.foldl Contents.clearTask a) := by
  unfold TraceState.clearTasks
  induction order generalizing c a with
  | nil => exact h
  | cons tid order ih => exact ih (h.clearTask tid)

/-- Clearing threads one by one clears what each of them has. -/
theorem foldl_clearTask {V : Type} {f : Contents → UInt32 → Option V}
    (hclear : ∀ a other tid, f (a.clearTask other) tid=if tid=other then none else f a tid)
    (order : List UInt32) (a : Contents) (tid : UInt32) :
    f (order.foldl Contents.clearTask a) tid=if tid∈order then none else f a tid := by
  induction order generalizing a with
  | nil => rw [List.foldl_nil,if_neg List.not_mem_nil]
  | cons other order ih =>
    rw [List.foldl_cons,ih,hclear]
    by_cases hmem : tid∈order
    · rw [if_pos hmem,if_pos (List.mem_cons_of_mem _ hmem)]
    · rw [if_neg hmem]
      by_cases heq : tid=other
      · rw [if_pos heq,if_pos (heq ▸ List.mem_cons_self)]
      · rw [if_neg heq,if_neg (fun h => (List.mem_cons.mp h).elim heq hmem)]

theorem foldl_clearTask_pending (order : List UInt32) (a : Contents) (tid : UInt32) :
    (order.foldl Contents.clearTask a).pending tid=if tid∈order then none else a.pending tid :=
  foldl_clearTask (fun _ _ _ => Function.update_apply ..) order a tid

theorem foldl_clearTask_exits (order : List UInt32) (a : Contents) (tid : UInt32) :
    (order.foldl Contents.clearTask a).exits tid=if tid∈order then none else a.exits tid :=
  foldl_clearTask (fun _ _ _ => Function.update_apply ..) order a tid

/-- Clearing every thread with an open enter leaves none. -/
theorem pending_of_enumerates (h : Represents c live loose out a) {order : List UInt32}
    (horder : Enumerates order c.pendingSyscalls.index) (tid : UInt32) :
    (order.foldl Contents.clearTask a).pending tid=none := by
  rw [foldl_clearTask_pending]
  split_ifs with hmem
  · rfl
  · rw [h.pending_eq,Option.map_eq_none_iff,Table.lookup_eq_none,Finmap.lookup_eq_none]
    exact fun hin => hmem ((horder.2 tid).mpr hin)

/-- Clearing every thread with a stored exit leaves none. -/
theorem exits_of_enumerates (h : Represents c live loose out a) {order : List UInt32}
    (horder : Enumerates order c.pendingExits.index) (tid : UInt32) :
    (order.foldl Contents.clearTask a).exits tid=none := by
  rw [foldl_clearTask_exits]
  split_ifs with hmem
  · rfl
  · rw [h.exits_eq,Option.map_eq_none_iff,Table.lookup_eq_none,Finmap.lookup_eq_none]
    exact fun hin => hmem ((horder.2 tid).mpr hin)

/-- A loss that visits everything leaves nothing. -/
theorem taintHistory_represents {st : TraceState} {order : TraceState.TaintOrder}
    (h : Represents st.correlation live loose out a)
    (hpending : Enumerates order.pending st.correlation.pendingSyscalls.index)
    (hexits : Enumerates order.exits
      (TraceState.clearTasks st.correlation order.pending).pendingExits.index) :
    Represents (st.taintHistory tables order).correlation live loose out
      ⟨fun _ => none,fun _ => none,∅,∅⟩ := by
  have hfirst := clearTasks_represents h order.pending
  have hsecond := clearTasks_represents hfirst order.exits
  have hempty := hsecond.setTexts ∅ ∅
  have hcontents : (⟨fun _ => none,fun _ => none,∅,∅⟩ : Contents)=
      {order.exits.foldl Contents.clearTask (order.pending.foldl Contents.clearTask a) with
        pendingExecArgs := ∅, suspendedSyscalls := ∅} := by
    congr 1
    · funext tid
      rw [foldl_clearTask_pending]
      split_ifs
      · rfl
      · exact (pending_of_enumerates h hpending tid).symm
    · funext tid
      exact (exits_of_enumerates hfirst hexits tid).symm
  rw [hcontents]
  exact hempty

end Losses

section Runs

variable {tables}

/-- The values of the snapshots that are out can be read off the state. -/
theorem remembers_of_represents {sys : System} {a : Contents} (out : Ref → EnterValue)
    (h : Represents sys.st.correlation (liveOf sys.updates) (looseOf sys.updates) out a) :
    Remembers sys a := ⟨h.isOwned,h.contents_eq,fun _ _ => rfl⟩

theorem remembers_new (config : SessionConfig) :
    Remembers {st := newTraceStateForSession config} ⟨fun _ => none,fun _ => none,∅,∅⟩ :=
  ⟨owned_empty,rfl,fun _ _ => rfl⟩

theorem Remembers.texts {sys : System} {a : Contents} (h : Remembers sys a) :
    a.pendingExecArgs=sys.st.correlation.pendingExecArgs ∧
      a.suspendedSyscalls=sys.st.correlation.suspendedSyscalls := by
  rw [←h.contents_eq]
  exact ⟨rfl,rfl⟩

/-- A handled record is remembered, and its update reads as the dispatch on contents says. -/
theorem Remembers.handle {sys : System} {a : Contents} (h : Remembers sys a)
    (envelope : TraceEventEnvelope) :
    Remembers (apply tables sys (.handle envelope))
      (EventStateContents.handle (policy tables sys.st) a envelope).1 ∧
      outcome (snapshotAt (sys.st.handleEnvelope tables envelope).1.correlation)
        (sys.st.handleEnvelope tables envelope).2=
        (EventStateContents.handle (policy tables sys.st) a envelope).2 := by
  obtain ⟨values,hvalues,houtcome⟩ := handleEnvelope_represents tables h envelope
  constructor
  · apply remembers_of_represents values
    change Represents _ (liveOf (sys.updates ++ [_])) (looseOf (sys.updates ++ [_])) _ _
    rw [liveOf_concat,looseOf_concat]
    exact hvalues
  · rw [←houtcome]
    exact outcome_snapshotAt hvalues

/-- A released update leaves the contents. -/
theorem Remembers.releaseAt {sys : System} {a : Contents} (h : Remembers sys a) (index : ℕ) :
    Remembers (EventStateRuns.releaseAt sys index) a := by
  unfold EventStateRuns.releaseAt
  cases hupdate : sys.updates[index]? with
  | none => exact h
  | some update =>
    apply remembers_of_represents (snapshotAt sys.st.correlation)
    apply releaseTraceStateUpdate_represents
    rw [←liveOf_eraseIdx hupdate,←looseOf_eraseIdx hupdate]
    exact h

/-- Every call keeps the ownership and acts on the contents. -/
theorem Remembers.apply {sys : System} {a : Contents} (h : Remembers sys a) (op : Operation)
    (hop : Admissible sys op) :
    Remembers (EventStateRuns.apply tables sys op) (applyContents tables sys a op) := by
  obtain ⟨hargs,hsuspended⟩ := h.texts
  cases op with
  | handle envelope => exact (h.handle envelope).1
  | release index => exact h.releaseAt index
  | taint order =>
    exact remembers_of_represents _ (taintHistory_represents tables h hop.1 hop.2.1)
  | rememberPendingExecArgs tid argLine =>
    unfold EventStateRuns.apply applyContents TraceState.rememberPendingExecArgs
    rw [hargs]
    split_ifs
    · exact h
    · exact remembers_of_represents _
        (by rw [hsuspended]; exact h.setTexts _ sys.st.correlation.suspendedSyscalls)
  | takePendingExecArgs tid =>
    unfold applyContents
    rw [hargs,hsuspended]
    exact remembers_of_represents _ (h.setTexts _ sys.st.correlation.suspendedSyscalls)
  | rememberSuspendedSyscall tid name =>
    unfold EventStateRuns.apply applyContents TraceState.rememberSuspendedSyscall
    rw [hsuspended]
    split_ifs
    · exact h
    · exact remembers_of_represents _
        (by rw [hargs]; exact h.setTexts sys.st.correlation.pendingExecArgs _)
  | consumeSuspendedSyscall tid =>
    unfold applyContents
    rw [hargs,hsuspended]
    exact remembers_of_represents _ (h.setTexts sys.st.correlation.pendingExecArgs _)
  | markUnfinishedPrinted tid =>
    exact remembers_of_represents _ (Represents.markUnfinishedPrinted h tid)
  | requeueUnfinished tid => exact h

/-- Along an admissible run every cell keeps exactly one holder. -/
theorem Remembers.run {sys : System} {a : Contents} (h : Remembers sys a) {ops : List Operation}
    (hops : AdmissibleRun tables sys ops) :
    ∃ b, Remembers (EventStateRuns.run tables sys ops) b := by
  induction ops generalizing sys a with
  | nil => exact ⟨a,h⟩
  | cons op ops ih => exact ih (h.apply op hops.1) hops.2

theorem run_append (sys : System) (first second : List Operation) :
    run tables sys (first ++ second)=run tables (run tables sys first) second :=
  List.foldl_append

theorem admissibleRun_append {sys : System} {first second : List Operation} :
    AdmissibleRun tables sys (first ++ second) ↔
      AdmissibleRun tables sys first ∧ AdmissibleRun tables (run tables sys first) second := by
  induction first generalizing sys with
  | nil => exact ⟨fun h => ⟨trivial,h⟩,fun h => h.2⟩
  | cons op ops ih => exact (and_congr_right fun _ => ih).trans and_assoc.symm

end Runs

end StraceGo.EventStateRuns

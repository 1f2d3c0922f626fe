import StraceGo.EventStateInterleaving

/-!
# Positions of a run

A run of a session is read by position: the system before each call, what it
remembers there, and the update that a handled record returns. Without a loss
the modes of the session stay those of its configuration.
-/

namespace StraceGo.EventStateTimeline

open EventEnvelope FiniteMaps ObjectPool EventPayloadStorage EventSyscallCorrelation
  EventTaskLifecycle EventUnfinishedState EventState EventSyscallOwnership EventStateContents
  EventStateFrame EventStateRuns EventStateInterleaving

/-- Syscalls the dispatcher hands to the outputs of exits for an update. -/
def dispatchedExits (update : TraceStateUpdate) : List SyscallEventView :=
  match update.kind with
  | .lifecycle => (update.deferredExit.map (·.syscallView)).toList
  | .signal => []
  | .syscallEnter => (update.deferredExit.map (·.syscallView)).toList
  | .syscallFragment => []
  | .syscallExit => if update.deferred then [] else update.syscallView.toList

/-- A record completes at most one syscall. -/
theorem length_dispatchedExits_le (update : TraceStateUpdate) :
    (dispatchedExits update).length ≤ 1 := by
  unfold dispatchedExits
  cases update.kind with
  | lifecycle => exact Option.length_toList_le
  | signal => exact Nat.zero_le 1
  | syscallEnter => exact Option.length_toList_le
  | syscallFragment => exact Nat.zero_le 1
  | syscallExit =>
    dsimp only
    split_ifs
    · exact Nat.zero_le 1
    · exact Option.length_toList_le

section Positions

variable (tables : SyscallTables) (config : SessionConfig) (ops : List Operation)

/-- The system before the call at a position. -/
def systemAt (i : ℕ) : System := run tables {st := newTraceStateForSession config} (ops.take i)

/-- What the session remembers before the call at a position. -/
def contentsAt (i : ℕ) : Contents := contents (systemAt tables config ops i).st.correlation

/-- The record handled at a position. -/
def recordAt (i : ℕ) : Option TraceEventEnvelope :=
  match ops[i]? with
  | some (.handle record) => some record
  | _ => none

/-- The update returned at a position. -/
def updateAt (i : ℕ) : Option TraceStateUpdate :=
  (recordAt ops i).map fun record =>
    ((systemAt tables config ops i).st.handleEnvelope tables record).2

end Positions

section Steps

variable {tables : SyscallTables} {config : SessionConfig} {ops : List Operation} {i : ℕ}

theorem getElem_of_recordAt {record : TraceEventEnvelope} (h : recordAt ops i=some record) :
    ops[i]?=some (.handle record) := by
  unfold recordAt at h
  split at h
  · next heq => rw [heq,Option.some.inj h]
  · cases h

theorem recordAt_of_getElem {record : TraceEventEnvelope} (h : ops[i]?=some (.handle record)) :
    recordAt ops i=some record := by
  unfold recordAt
  rw [h]

/-- A call at a position without a record handles none. -/
theorem ne_handle_of_recordAt (h : recordAt ops i=none) {op : Operation} (hop : ops[i]?=some op)
    (record : TraceEventEnvelope) : op≠.handle record := by
  rintro rfl
  rw [recordAt_of_getElem hop] at h
  cases h

/-- A call leads from its position to the next one. -/
theorem systemAt_succ {op : Operation} (h : ops[i]?=some op) :
    systemAt tables config ops (i+1)=apply tables (systemAt tables config ops i) op := by
  unfold systemAt
  rw [List.take_add_one,h,run_append]
  rfl

/-- Past the end of the run nothing changes. -/
theorem systemAt_succ_of_none (h : ops[i]?=none) :
    systemAt tables config ops (i+1)=systemAt tables config ops i := by
  unfold systemAt
  rw [List.take_add_one,h]
  rw [Option.toList_none,List.append_nil]

theorem updateAt_eq (tables : SyscallTables) (config : SessionConfig) {record : TraceEventEnvelope}
    (h : recordAt ops i=some record) :
    updateAt tables config ops i=
      some ((systemAt tables config ops i).st.handleEnvelope tables record).2 := by
  unfold updateAt
  rw [h,Option.map_some]

end Steps

section Lossless

variable {tables : SyscallTables} {config : SessionConfig} {ops : List Operation}

/-- Every call but a loss keeps the modes of the session. -/
theorem keeps_apply (sys : System) {op : Operation} (hop : op.isTaint=false) :
    Keeps sys.st (apply tables sys op).st := by
  cases op with
  | handle envelope => exact keeps_handleEnvelope tables sys.st envelope
  | release index =>
    change Keeps sys.st (releaseAt sys index).st
    unfold releaseAt
    split
    · exact .refl _
    · exact keeps_releaseTraceStateUpdate _ _
  | taint order => cases hop
  | rememberPendingExecArgs tid argLine =>
    change Keeps sys.st (sys.st.rememberPendingExecArgs tid argLine)
    unfold TraceState.rememberPendingExecArgs
    split_ifs
    · exact .refl _
    · exact keeps_setCorrelation _ _
  | takePendingExecArgs tid => exact keeps_setCorrelation _ _
  | rememberSuspendedSyscall tid name =>
    change Keeps sys.st (sys.st.rememberSuspendedSyscall tid name)
    unfold TraceState.rememberSuspendedSyscall
    split_ifs
    · exact .refl _
    · exact keeps_setCorrelation _ _
  | consumeSuspendedSyscall tid => exact keeps_setCorrelation _ _
  | markUnfinishedPrinted tid =>
    refine ⟨rfl,rfl,rfl,rfl,rfl,?_,id⟩
    change (sys.st.unfinished.deleteCandidate tid).enabled=_
    unfold TraceUnfinishedState.deleteCandidate
    split_ifs <;> rfl
  | requeueUnfinished tid =>
    refine ⟨rfl,rfl,rfl,rfl,rfl,?_,id⟩
    unfold apply TraceState.requeueUnfinished TraceUnfinishedState.requeue
    dsimp only
    split <;> rfl

theorem admissible_of_lossless (sys : System) {op : Operation} (hop : op.isTaint=false) :
    Admissible sys op := by
  cases op with
  | taint order => cases hop
  | _ => trivial

theorem admissibleRun_of_lossless (tables : SyscallTables) (sys : System) {ops : List Operation}
    (hops : ∀ op∈ops, op.isTaint=false) : AdmissibleRun tables sys ops := by
  induction ops generalizing sys with
  | nil => trivial
  | cons op ops ih =>
    exact ⟨admissible_of_lossless sys (hops op List.mem_cons_self),
      ih _ fun other hmem => hops other (List.mem_cons_of_mem _ hmem)⟩

variable (tables) (config) (hops : ∀ op∈ops, op.isTaint=false) (i : ℕ)
include hops

/-- The system is properly owned at every position. -/
theorem remembers_systemAt :
    Remembers (systemAt tables config ops i) (contentsAt tables config ops i) := by
  have hstarts : ∀ op∈ops.take i, op.isTaint=false :=
    fun op hmem => hops op (List.mem_of_mem_take hmem)
  obtain ⟨b,hb⟩ := (remembers_new config).run
    (admissibleRun_of_lossless tables _ hstarts)
  have hcontents : contentsAt tables config ops i=b := hb.contents_eq
  rw [hcontents]
  exact hb

/-- Stored records are under their own thread at every position. -/
theorem keyed_contentsAt : Keyed (contentsAt tables config ops i) := by
  have hstarts : ∀ op∈ops.take i, op.isTaint=false :=
    fun op hmem => hops op (List.mem_of_mem_take hmem)
  obtain ⟨b,hb,hkeyed⟩ := keyed_run (remembers_new config) (fun _ _ he => nomatch he)
    (admissibleRun_of_lossless tables _ hstarts)
  have hcontents : contentsAt tables config ops i=b := hb.contents_eq
  rw [hcontents]
  exact hkeyed

theorem keeps_systemAt :
    Keeps (newTraceStateForSession config) (systemAt tables config ops i).st := by
  induction i with
  | zero => exact .refl _
  | succ i ih =>
    cases hop : ops[i]? with
    | none =>
      rw [systemAt_succ_of_none hop]
      exact ih
    | some op =>
      rw [systemAt_succ hop]
      exact ih.trans (keeps_apply _ (hops op (List.mem_of_getElem? hop)))

/-- The dispatch follows the configuration at every position. -/
theorem policy_systemAt : policy tables (systemAt tables config ops i).st=
    policy tables (newTraceStateForSession config) :=
  (keeps_systemAt tables config hops i).policy tables

theorem untainted_systemAt : (systemAt tables config ops i).st.tainted=false :=
  (keeps_systemAt tables config hops i).tainted

/-- A call acts on what the session remembers. -/
theorem contentsAt_succ {op : Operation} (hop : ops[i]?=some op) :
    contentsAt tables config ops (i+1)=
      applyContents tables (systemAt tables config ops i) (contentsAt tables config ops i) op := by
  have happlied : Remembers (systemAt tables config ops (i+1)) (applyContents tables
      (systemAt tables config ops i) (contentsAt tables config ops i) op) := by
    rw [systemAt_succ hop]
    exact Remembers.apply (remembers_systemAt tables config hops i) op
      (admissible_of_lossless _ (hops op (List.mem_of_getElem? hop)))
  exact happlied.contents_eq

/-- A handled record acts on what the session remembers by the session's policy, and its update
reads as the dispatch says. -/
theorem handle_contentsAt {record : TraceEventEnvelope} (h : recordAt ops i=some record) :
    contentsAt tables config ops (i+1)=
        (handle (policy tables (newTraceStateForSession config)) (contentsAt tables config ops i)
          record).1 ∧
      ∃ update, updateAt tables config ops i=some update ∧
        outcome (snapshotAt (systemAt tables config ops (i+1)).st.correlation) update=
          (handle (policy tables (newTraceStateForSession config))
            (contentsAt tables config ops i) record).2 := by
  have hop := getElem_of_recordAt h
  have houtcome : outcome (snapshotAt ((systemAt tables config ops i).st.handleEnvelope tables
      record).1.correlation) _=_ :=
    ((remembers_systemAt tables config hops i).handle record).2
  have hcontents := contentsAt_succ tables config hops i hop
  unfold applyContents at hcontents
  rw [policy_systemAt tables config hops i] at hcontents houtcome
  refine ⟨hcontents,_,updateAt_eq tables config h,?_⟩
  rw [systemAt_succ hop]
  exact houtcome

end Lossless

/-- The report of a handled record, read off its update. -/
theorem outcome_updateAt {tables : SyscallTables} {config : SessionConfig} {ops : List Operation}
    {j : ℕ} {record : TraceEventEnvelope} {update : TraceStateUpdate}
    (hops : ∀ op∈ops, op.isTaint=false) (hrecord : recordAt ops j=some record)
    (hupdate : updateAt tables config ops j=some update) :
    outcome (snapshotAt (systemAt tables config ops (j+1)).st.correlation) update=
      (handle (policy tables (newTraceStateForSession config)) (contentsAt tables config ops j)
        record).2 := by
  obtain ⟨-,update',hupdate',houtcome⟩ := handle_contentsAt tables config hops j hrecord
  obtain rfl := Option.some.inj (hupdate.symm.trans hupdate')
  exact houtcome

end StraceGo.EventStateTimeline

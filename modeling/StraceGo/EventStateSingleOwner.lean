import StraceGo.EventStateRuns

/-!
# Every recycled cell has a single owner

Pending enters, stored exits, snapshots and payload storages are recycled by
hand. The balance of the pools, kept along every run, is restated as a count of
the places in which a cell is: on its free list, in an entry of one of the two
maps, or in an update that is out. Each cell is in exactly one place, and after
an update is released its cells are on their free lists.
-/

namespace StraceGo.EventStateSingleOwner

open EventEnvelope FiniteMaps ObjectPool EventPayloadStorage EventSyscallCorrelation
  EventTaskLifecycle EventState EventSyscallOwnership EventStateContents EventStateRuns

/-- The places in which the cells of one kind are. -/
structure Places where
  /-- Number of cells ever allocated. -/
  size : ℕ
  /-- The free list. -/
  free : List Ref
  /-- Cells of open enters. -/
  pending : Multiset Ref := 0
  /-- Cells of stored exits. -/
  exits : Multiset Ref := 0
  /-- Cells of the updates that are out. -/
  live : Multiset Ref := 0

namespace Places

variable {p q : Places} {ref : Ref}

/-- How often a cell is in some place. -/
def count (p : Places) (ref : Ref) : ℕ :=
  p.free.count ref+p.pending.count ref+p.exits.count ref+p.live.count ref

/-- Every allocated cell is in exactly one place. -/
def SingleOwner (p : Places) : Prop := ∀ ref, p.count ref=if ref < p.size then 1 else 0

/-- A balanced pool has single owners. -/
theorem singleOwner_of_balanced (h : (p.free : Multiset Ref)+(p.pending+(p.exits+p.live))=
    Multiset.range p.size) : p.SingleOwner := by
  intro ref
  have hcount := congrArg (Multiset.count ref) h
  rw [Multiset.count_add,Multiset.count_add,Multiset.count_add,Multiset.coe_count,
    Multiset.count_eq_of_nodup (Multiset.nodup_range p.size)] at hcount
  unfold count
  simp only [Multiset.mem_range] at hcount
  omega

/-- No cell is on a free list twice. -/
theorem SingleOwner.free_nodup (h : p.SingleOwner) : p.free.Nodup := by
  rw [List.nodup_iff_count_le_one]
  intro ref
  have href := h ref
  unfold count at href
  split_ifs at href <;> omega

/-- A free cell is in no entry and in no update. -/
theorem SingleOwner.unreachable (h : p.SingleOwner) (hfree : ref∈p.free) :
    ref∉p.pending ∧ ref∉p.exits ∧ ref∉p.live := by
  have href := h ref
  have hpos := List.count_pos_iff.mpr hfree
  unfold count at href
  rw [←Multiset.count_eq_zero,←Multiset.count_eq_zero,←Multiset.count_eq_zero]
  split_ifs at href <;> omega

/-- A cell that only an update held is free once the update is released. -/
theorem SingleOwner.returned (h : p.SingleOwner) (hq : q.SingleOwner) (hsize : q.size=p.size)
    (hpending : q.pending=p.pending) (hexits : q.exits=p.exits) (hlive : q.live=0)
    (href : ref∈p.live) : q.free.count ref=1 := by
  have hbefore := h ref
  have hafter := hq ref
  have hpos := Multiset.count_pos.mpr href
  unfold count at hbefore hafter
  rw [hsize,hpending,hexits,hlive,Multiset.count_zero] at hafter
  split_ifs at hbefore hafter <;> omega

end Places

/-- Places of the pending cells. -/
def pendingPlaces (sys : System) : Places where
  size := sys.st.correlation.pendingSyscalls.pool.cells.length
  free := sys.st.correlation.pendingSyscalls.pool.free
  pending := sys.st.correlation.pendingSyscalls.refs

/-- Places of the exit cells. -/
def exitPlaces (sys : System) : Places where
  size := sys.st.correlation.pendingExits.pool.cells.length
  free := sys.st.correlation.pendingExits.pool.free
  exits := sys.st.correlation.pendingExits.refs

/-- Places of the snapshot cells. -/
def snapshotPlaces (sys : System) : Places where
  size := sys.st.correlation.snapshots.cells.length
  free := sys.st.correlation.snapshots.free
  live := liveOf sys.updates

/-- Places of the payload storages; an update holds those of its snapshots and of its exit. -/
def storagePlaces (sys : System) : Places where
  size := sys.st.correlation.payload.cells.length
  free := sys.st.correlation.payload.free
  pending := pendingHeld sys.st.correlation.pendingSyscalls
  exits := exitsHeld sys.st.correlation.pendingExits
  live := liveHeld sys.st.correlation.snapshots (liveOf sys.updates)+looseOf sys.updates

/-- Places of the four kinds of cells. -/
def places (sys : System) : List Places :=
  [pendingPlaces sys,exitPlaces sys,snapshotPlaces sys,storagePlaces sys]

/-- A properly owned state has single owners. -/
theorem singleOwner_of_remembers {sys : System} {a : Contents} (h : Remembers sys a) :
    ∀ p∈places sys, p.SingleOwner := by
  have hpending : (pendingPlaces sys).SingleOwner := by
    apply Places.singleOwner_of_balanced
    change _+(_+(0+0))=_
    rw [add_zero,add_zero]
    exact h.isOwned.pending
  have hexits : (exitPlaces sys).SingleOwner := by
    apply Places.singleOwner_of_balanced
    change _+(0+(_+0))=_
    rw [add_zero,zero_add]
    exact h.isOwned.exits
  have hsnapshots : (snapshotPlaces sys).SingleOwner := by
    apply Places.singleOwner_of_balanced
    change _+(0+(0+_))=_
    rw [zero_add,zero_add]
    exact h.isOwned.snapshots
  have hstorages : (storagePlaces sys).SingleOwner :=
    Places.singleOwner_of_balanced h.isOwned.payload.balanced
  intro p hp
  simp only [places,List.mem_cons,List.not_mem_nil,or_false] at hp
  rcases hp with rfl | rfl | rfl | rfl
  · exact hpending
  · exact hexits
  · exact hsnapshots
  · exact hstorages

section Releases

variable (c : TraceSyscallCorrelationState)

theorem length_releasePayloadStorage (p : PayloadPool) (storage : Option Ref) :
    (releasePayloadStorage p storage).cells.length=p.cells.length := by
  cases storage with
  | none => rfl
  | some ref => exact List.length_set

/-- What a release leaves alone. -/
structure Leaves (c d : TraceSyscallCorrelationState) : Prop where
  /-- The open enters. -/
  pendingSyscalls : d.pendingSyscalls=c.pendingSyscalls
  /-- The stored exits. -/
  pendingExits : d.pendingExits=c.pendingExits
  /-- The number of snapshots. -/
  snapshots : d.snapshots.cells.length=c.snapshots.cells.length
  /-- The number of storages. -/
  payload : d.payload.cells.length=c.payload.cells.length

theorem leaves_releasePendingSnapshot (snapshot : Option Ref) :
    Leaves c (c.releasePendingSnapshot snapshot) := by
  cases snapshot with
  | none => exact ⟨rfl,rfl,rfl,rfl⟩
  | some ref => exact ⟨rfl,rfl,List.length_set,length_releasePayloadStorage _ _⟩

theorem Leaves.trans {c d e : TraceSyscallCorrelationState} (h : Leaves c d) (h' : Leaves d e) :
    Leaves c e where
  pendingSyscalls := h'.pendingSyscalls.trans h.pendingSyscalls
  pendingExits := h'.pendingExits.trans h.pendingExits
  snapshots := h'.snapshots.trans h.snapshots
  payload := h'.payload.trans h.payload

theorem leaves_releaseTraceStateUpdate (st : TraceState) (update : TraceStateUpdate) :
    Leaves st.correlation (st.releaseTraceStateUpdate update).correlation := by
  have hfirst := leaves_releasePendingSnapshot st.correlation update.pendingEnter
  unfold TraceState.releaseTraceStateUpdate
  dsimp only
  cases update.deferredExit with
  | none => exact hfirst
  | some deferredExit =>
    have hsecond := hfirst.trans (leaves_releasePendingSnapshot _ deferredExit.pendingEnter)
    exact ⟨hsecond.pendingSyscalls,hsecond.pendingExits,hsecond.snapshots,
      (length_releasePayloadStorage _ _).trans hsecond.payload⟩

end Releases

/-- One turn of the session: a loss, or a record with its update released after any losses. -/
inductive Turn where
  | taint (order : TraceState.TaintOrder)
  | record (envelope : TraceEventEnvelope) (losses : List TraceState.TaintOrder)

/-- The calls of a turn. -/
def Turn.operations : Turn → List Operation
  | .taint order => [.taint order]
  | .record envelope losses => .handle envelope::(losses.map .taint ++ [.release 0])

/-- The calls of consecutive turns. -/
def operations (turns : List Turn) : List Operation := turns.flatMap Turn.operations

section Turns

variable {tables : SyscallTables}

theorem updates_taints (tables : SyscallTables) (sys : System)
    (losses : List TraceState.TaintOrder) :
    (run tables sys (losses.map .taint)).updates=sys.updates := by
  induction losses generalizing sys with
  | nil => rfl
  | cons order losses ih => exact ih (EventStateRuns.apply tables sys (.taint order))

/-- Releasing the only update that is out. -/
theorem releaseAt_zero {sys : System} {update : TraceStateUpdate} (h : sys.updates=[update]) :
    releaseAt sys 0={st := sys.st.releaseTraceStateUpdate update, updates := []} := by
  unfold releaseAt
  rw [h]
  rfl

/-- While a record is handled its update is the only one out. -/
theorem updates_record {sys : System} (h : sys.updates=[]) (envelope : TraceEventEnvelope)
    (losses : List TraceState.TaintOrder) :
    (run tables sys (.handle envelope::losses.map .taint)).updates=
      [(sys.st.handleEnvelope tables envelope).2] := by
  change (run tables (EventStateRuns.apply tables sys (.handle envelope))
    (losses.map .taint)).updates=_
  rw [updates_taints]
  change sys.updates ++ [(sys.st.handleEnvelope tables envelope).2]=_
  rw [h,List.nil_append]

theorem run_record (sys : System) (envelope : TraceEventEnvelope)
    (losses : List TraceState.TaintOrder) :
    run tables sys (Turn.record envelope losses).operations=
      releaseAt (run tables sys (.handle envelope::losses.map .taint)) 0 := by
  change run tables sys ((.handle envelope::losses.map .taint) ++ [.release 0])=_
  rw [run_append]
  rfl

/-- Between turns no update is out. -/
theorem updates_turns {sys : System} (h : sys.updates=[]) (turns : List Turn) :
    (run tables sys (operations turns)).updates=[] := by
  induction turns generalizing sys with
  | nil => exact h
  | cons turn turns ih =>
    change (run tables sys (turn.operations ++ operations turns)).updates=[]
    rw [run_append]
    apply ih
    cases turn with
    | taint order => exact h
    | record envelope losses =>
      rw [run_record,releaseAt_zero (updates_record h envelope losses)]

/-- The cells of an update are free once it is released. -/
theorem returned_of_release {sys : System} {a : Contents} (h : Remembers sys a)
    {update : TraceStateUpdate} (hupdate : sys.updates=[update]) :
    (∀ ref∈(snapshotPlaces sys).live, (snapshotPlaces (releaseAt sys 0)).free.count ref=1) ∧
      ∀ ref∈(storagePlaces sys).live, (storagePlaces (releaseAt sys 0)).free.count ref=1 := by
  have hbefore := singleOwner_of_remembers h
  have hafter := singleOwner_of_remembers (h.releaseAt 0)
  have hleaves := leaves_releaseTraceStateUpdate sys.st update
  simp only [places,List.forall_mem_cons] at hbefore hafter
  obtain ⟨-,-,hsnapshots,hstorages,-⟩ := hbefore
  obtain ⟨-,-,hsnapshots',hstorages',-⟩ := hafter
  rw [releaseAt_zero hupdate] at hsnapshots' hstorages' ⊢
  constructor
  · intro ref href
    exact hsnapshots.returned hsnapshots' hleaves.snapshots rfl rfl rfl href
  · intro ref href
    refine hstorages.returned hstorages' hleaves.payload ?_ ?_ rfl href
    · change pendingHeld (sys.st.releaseTraceStateUpdate update).correlation.pendingSyscalls=_
      rw [hleaves.pendingSyscalls]
      rfl
    · change exitsHeld (sys.st.releaseTraceStateUpdate update).correlation.pendingExits=_
      rw [hleaves.pendingExits]
      rfl

/-- At every moment of a session every cell is in exactly one place: no free list has a cell
twice, no free cell is in an entry or in the update that is out, and a released update leaves
each of its cells on its free list once. -/
theorem single_owner (tables : SyscallTables) (config : SessionConfig) (turns : List Turn)
    (hrun : AdmissibleRun tables {st := newTraceStateForSession config} (operations turns)) :
    (∀ ops, ops <+: operations turns →
      ∀ p∈places (run tables {st := newTraceStateForSession config} ops),
        p.SingleOwner ∧ p.free.Nodup ∧
          ∀ ref∈p.free, ref∉p.pending ∧ ref∉p.exits ∧ ref∉p.live) ∧
    ∀ before envelope losses after, turns=before ++ .record envelope losses::after →
      let out := run tables {st := newTraceStateForSession config}
        (operations before ++ .handle envelope::losses.map .taint)
      let released := run tables {st := newTraceStateForSession config}
        (operations before ++ (Turn.record envelope losses).operations)
      (∃ update, out.updates=[update]) ∧ released.updates=[] ∧
        (∀ ref∈(snapshotPlaces out).live, (snapshotPlaces released).free.count ref=1) ∧
        ∀ ref∈(storagePlaces out).live, (storagePlaces released).free.count ref=1 := by
  have hstarts : ∀ ops, ops <+: operations turns →
      ∃ a, Remembers (run tables {st := newTraceStateForSession config} ops) a := by
    rintro ops ⟨rest,hrest⟩
    rw [←hrest,admissibleRun_append] at hrun
    exact (remembers_new config).run hrun.1
  constructor
  · intro ops hops p hp
    obtain ⟨a,ha⟩ := hstarts ops hops
    have howner := singleOwner_of_remembers ha p hp
    exact ⟨howner,howner.free_nodup,fun ref href => howner.unreachable href⟩
  · intro before envelope losses after hturns out released
    have hidle : (run tables {st := newTraceStateForSession config} (operations before)).updates=
        [] := updates_turns rfl before
    have hout : out.updates=[((run tables {st := newTraceStateForSession config}
        (operations before)).st.handleEnvelope tables envelope).2] := by
      unfold out
      rw [run_append]
      exact updates_record hidle envelope losses
    have hreleased : released=releaseAt out 0 := by
      unfold released out
      rw [run_append,run_append,run_record]
    obtain ⟨a,ha⟩ := hstarts (operations before ++ .handle envelope::losses.map .taint) (by
      refine ⟨.release 0::operations after,?_⟩
      rw [hturns]
      simp [operations,Turn.operations])
    obtain ⟨hsnapshots,hstorages⟩ := returned_of_release ha hout
    rw [hreleased]
    refine ⟨⟨_,hout⟩,?_,hsnapshots,hstorages⟩
    rw [releaseAt_zero hout]

/-- A generic enter or an exit of a read by thread 7, with a captured buffer. -/
def readTurn (eventType : EventType) (eventFlags : UInt32) : Turn :=
  .record
    {eventType := eventType
     eventFlags := eventFlags
     pid := 7
     tid := 7
     enterTime := 100
     payload := [⟨.bytes,.input,1,4096,1,1,0,[65]⟩]} []

/-- Syscall tables with reads only. -/
def plainTables : SyscallTables where
  name := fun _ => "read"
  isPlainGenericEnterExitRoute := fun _ => false
  isStandaloneExitElisionRoute := fun _ => false

/-- The exit of a read hands its enter's snapshot and storage to the update and takes both back. -/
theorem single_owner_read :
    (storagePlaces (run plainTables {st := newTraceStateForSession {}}
      (operations [readTurn .enter bpfEventFlagGenericEnter]))).pending={0} ∧
    (snapshotPlaces (run plainTables {st := newTraceStateForSession {}}
      (operations [readTurn .enter bpfEventFlagGenericEnter,readTurn .exit 0]))).free.count 0=1 ∧
    (storagePlaces (run plainTables {st := newTraceStateForSession {}}
      (operations [readTurn .enter bpfEventFlagGenericEnter,readTurn .exit 0]))).free.count 0=
        1 := by
  obtain ⟨-,hreleased⟩ := single_owner plainTables {}
    [readTurn .enter bpfEventFlagGenericEnter,readTurn .exit 0]
    ⟨trivial,trivial,trivial,trivial,trivial⟩
  obtain ⟨-,-,hsnapshots,hstorages⟩ := hreleased
    [readTurn .enter bpfEventFlagGenericEnter] _ _ [] rfl
  refine ⟨by decide +kernel,hsnapshots 0 (by decide +kernel),hstorages 0 (by decide +kernel)⟩

end Turns

end StraceGo.EventStateSingleOwner

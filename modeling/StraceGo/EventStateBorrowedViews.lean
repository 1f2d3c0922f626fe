import StraceGo.EventStateCandidates

/-!
# Views that borrow pending enters

The unfinished lines that come with an update are views into open enters of
other threads, computed before the record is applied. Applying the record
touches its own thread only, so each view keeps its open enter: the entry, its
sections, and the storage behind them, which is never put back on the way.
-/

namespace StraceGo.EventStateBorrowedViews

open EventEnvelope FiniteMaps ObjectPool EventPayloadStorage EventSyscallCorrelation
  EventTaskLifecycle EventUnfinishedState EventState EventSyscallOwnership EventStateContents
  EventStateFrame EventStateRuns EventStateTimeline EventStateInterleaving EventStateCandidates

section Storages

variable {p : PayloadPool} {held : Multiset Ref} {ref : Ref} {storage : Option Ref}

theorem spares_release (hne : ref∉owned storage) :
    p.Spares ref (releasePayloadStorage p storage) := by
  cases storage with
  | none => exact .refl
  | some other =>
    exact Pool.Spares.refl.release (fun heq => hne (Multiset.mem_singleton.mpr heq.symm)) _

theorem spares_copy (h : p.Balanced held) (hmem : ref∈held) (sections : List PayloadSection) :
    p.Spares ref (copyPayloadSectionsIntoStorage p sections).1 := by
  unfold copyPayloadSectionsIntoStorage
  split_ifs
  · exact .refl
  · exact Pool.Spares.refl.acquire.write (fun heq => Pool.acquire_notMem h (heq ▸ hmem)) _

theorem spares_merge (h : p.Balanced held) (hmem : ref∈held) (hne : ref∉owned storage)
    (next : List PayloadSection) :
    p.Spares ref (mergePayloadSectionsIntoStorage p storage next).1 := by
  unfold mergePayloadSectionsIntoStorage mergeTarget
  split_ifs
  · exact .refl
  · cases storage with
    | none => exact Pool.Spares.refl.acquire.write (fun heq => Pool.acquire_notMem h (heq ▸ hmem)) _
    | some other =>
      exact Pool.Spares.refl.write (fun heq => hne (Multiset.mem_singleton.mpr heq.symm)) _

end Storages

/-- The open enter of one thread and its storage are left alone. -/
structure Untouched (tid : UInt32) (c d : TraceSyscallCorrelationState) : Prop where
  /-- The entry stays. -/
  lookup : d.pendingSyscalls.lookup tid=c.pendingSyscalls.lookup tid
  /-- Its storage is neither written nor put back. -/
  spares : ∀ pending ref, c.pendingSyscalls.lookup tid=some pending →
    pending.payloadStorage=some ref → c.payload.Spares ref d.payload

section Operations

variable {c d e : TraceSyscallCorrelationState} {live loose : Multiset Ref}
  {out : Ref → EnterValue} {a : Contents} {tid other : UInt32} {view : SyscallEventView}

theorem Untouched.refl (tid : UInt32) (c : TraceSyscallCorrelationState) : Untouched tid c c :=
  ⟨rfl,fun _ _ _ _ => .refl⟩

theorem Untouched.trans (h : Untouched tid c d) (h' : Untouched tid d e) : Untouched tid c e where
  lookup := h'.lookup.trans h.lookup
  spares := fun pending ref hpending hstorage => (h.spares pending ref hpending hstorage).trans
    (h'.spares pending ref (h.lookup.trans hpending) hstorage)

/-- Operations on other parts of the state leave every open enter. -/
theorem untouched_of_eq (hpending : d.pendingSyscalls=c.pendingSyscalls)
    (hpayload : d.payload=c.payload) : Untouched tid c d := by
  constructor
  · rw [hpending]
  · intro _ _ _ _
    rw [hpayload]
    exact .refl

/-- A storage of an open enter is held once. -/
theorem storage_held (h : Represents c live loose out a) {pending : PendingSyscallState}
    {ref : Ref} (hpending : c.pendingSyscalls.lookup tid=some pending)
    (hstorage : pending.payloadStorage=some ref) :
    ref∉besidesPending c tid live loose ∧
      ∃ held, c.payload.Balanced held ∧ ref∈held := by
  have hsound := h.sound_of_pending hpending
  rw [hstorage,owned,Multiset.singleton_add] at hsound
  exact ⟨(Multiset.nodup_cons.mp hsound.balanced.nodup).1,_,hsound.balanced,
    Multiset.mem_cons_self _ _⟩

theorem owned_subset_besidesPending (h : Represents c live loose out a) (hne : other≠tid)
    {pending : PendingSyscallState} (hpending : c.pendingSyscalls.lookup other=some pending) :
    owned pending.payloadStorage ⊆ besidesPending c tid live loose := by
  have hkept : (c.pendingSyscalls.discard tid).lookup other=some pending := by
    rw [Table.lookup_discard h.isOwned.pending,if_neg hne]
    exact hpending
  intro ref hmem
  exact Multiset.mem_add.mpr (.inl (owned_subset_pendingHeld hkept hmem))

theorem untouched_releasePendingSyscall (h : Represents c live loose out a) (hne : other≠tid) :
    Untouched tid c (c.releasePendingSyscall other) := by
  unfold TraceSyscallCorrelationState.releasePendingSyscall
  cases hother : c.pendingSyscalls.lookup other with
  | none => exact .refl tid c
  | some pending =>
    constructor
    · change (c.pendingSyscalls.discard other).lookup tid=_
      rw [Table.lookup_discard h.isOwned.pending,if_neg hne.symm]
    · intro mine ref hmine hstorage
      exact spares_release fun hmem => (storage_held h hmine hstorage).1
        (owned_subset_besidesPending h hne hother hmem)

theorem untouched_openPendingSyscall (h : Represents c live loose out a) (hne : view.tid≠tid)
    (payload : List PayloadSection) : Untouched tid c (c.openPendingSyscall view payload) := by
  constructor
  · change (c.pendingSyscalls.store view.tid _).lookup tid=_
    rw [Table.lookup_store h.isOwned.pending,if_neg hne.symm]
  · intro mine ref hmine hstorage
    obtain ⟨-,held,hbalanced,hmem⟩ := storage_held h hmine hstorage
    exact spares_copy hbalanced hmem payload

theorem untouched_mergePending (h : Represents c live loose out a) (hne : other≠tid)
    {pending : PendingSyscallState} (hpending : c.pendingSyscalls.lookup other=some pending)
    (data : SyscallEnterData) (payload : List PayloadSection) :
    Untouched tid c (c.mergePending other pending data payload) := by
  constructor
  · change (c.pendingSyscalls.modify other _).lookup tid=_
    rw [Table.lookup_modify h.isOwned.pending,if_neg hne.symm]
  · intro mine ref hmine hstorage
    obtain ⟨hothers,held,hbalanced,hmem⟩ := storage_held h hmine hstorage
    exact spares_merge hbalanced hmem (fun hin => hothers
      (owned_subset_besidesPending h hne hpending hin)) payload

theorem untouched_rememberEnterEvent (h : Represents c live loose out a) (hne : view.tid≠tid)
    (payload : List PayloadSection) : Untouched tid c (c.rememberEnterEvent view payload).1 := by
  unfold TraceSyscallCorrelationState.rememberEnterEvent
  cases hpending : c.pendingSyscalls.lookup view.tid with
  | none => exact untouched_openPendingSyscall h hne payload
  | some pending =>
    dsimp only
    split_ifs
    · exact untouched_mergePending h hne hpending _ payload
    · exact (untouched_releasePendingSyscall h hne).trans
        (untouched_openPendingSyscall (h.releasePendingSyscall view.tid) hne payload)

theorem untouched_rememberPayloadFragment (h : Represents c live loose out a)
    (hne : view.tid≠tid) (payload : List PayloadSection) :
    Untouched tid c (c.rememberPayloadFragment view payload) := by
  unfold TraceSyscallCorrelationState.rememberPayloadFragment
  cases hpending : c.pendingSyscalls.lookup view.tid with
  | none => exact .refl tid c
  | some pending =>
    dsimp only
    split_ifs
    · exact .refl tid c
    · exact untouched_mergePending h hne hpending _ payload

/-- A storage that is out is none of an open enter. -/
theorem untouched_releasePendingExit {pending : PendingExitState}
    (h : Represents c live (owned pending.payloadStorage+loose) out a) :
    Untouched tid c (c.releasePendingExit pending) := by
  refine ⟨rfl,fun mine ref hmine hstorage => spares_release fun hmem => ?_⟩
  refine (storage_held h hmine hstorage).1 ?_
  unfold besidesPending
  simp only [Multiset.mem_add]
  exact .inr (.inr (.inr (.inl hmem)))

theorem untouched_takePendingExitForTID (tid : UInt32) (c : TraceSyscallCorrelationState)
    (other : UInt32) :
    Untouched tid c (c.takePendingExitForTID other).1 := by
  unfold TraceSyscallCorrelationState.takePendingExitForTID
  cases c.pendingExits.lookup other with
  | none => exact .refl tid c
  | some pending => exact untouched_of_eq rfl rfl

theorem untouched_dropPendingExit (h : Represents c live loose out a) (other : UInt32) :
    Untouched tid c (c.dropPendingExit other) := by
  have htaken := (h.takePendingExitForTID other).1
  have huntouched := untouched_takePendingExitForTID tid c other
  unfold TraceSyscallCorrelationState.dropPendingExit
  revert htaken huntouched
  rcases c.takePendingExitForTID other with ⟨d,taken⟩
  intro htaken huntouched
  cases taken with
  | none => exact huntouched
  | some pending => exact huntouched.trans (untouched_releasePendingExit htaken)

theorem untouched_takePendingExit (h : Represents c live loose out a) (view : SyscallEventView) :
    Untouched tid c (c.takePendingExit view).1 := by
  have htaken := (h.takePendingExitForTID view.tid).1
  have huntouched := untouched_takePendingExitForTID tid c view.tid
  unfold TraceSyscallCorrelationState.takePendingExit
  revert htaken huntouched
  rcases c.takePendingExitForTID view.tid with ⟨d,taken⟩
  intro htaken huntouched
  cases taken with
  | none => exact huntouched
  | some pending =>
    dsimp only
    split_ifs
    · exact huntouched.trans (untouched_releasePendingExit htaken)
    · exact huntouched

theorem untouched_rememberPendingExit (h : Represents c live loose out a)
    (view : SyscallEventView) (payload : List PayloadSection) :
    Untouched tid c (c.rememberPendingExit view payload) := by
  have hdropped := h.dropPendingExit view.tid
  refine (untouched_dropPendingExit h view.tid).trans ⟨rfl,?_⟩
  intro mine ref hmine hstorage
  obtain ⟨-,held,hbalanced,hmem⟩ := storage_held hdropped hmine hstorage
  exact spares_copy hbalanced hmem payload

theorem untouched_consumeEnterEvent (h : Represents c live loose out a) (hne : view.tid≠tid) :
    Untouched tid c (c.consumeEnterEvent view).1 := by
  unfold TraceSyscallCorrelationState.consumeEnterEvent
  split_ifs
  · exact .refl tid c
  · cases hpending : c.pendingSyscalls.lookup view.tid with
    | none => exact .refl tid c
    | some pending =>
      dsimp only
      split_ifs
      · exact untouched_releasePendingSyscall h hne
      · constructor
        · change (c.pendingSyscalls.discard view.tid).lookup tid=_
          rw [Table.lookup_discard h.isOwned.pending,if_neg hne.symm]
        · exact fun _ _ _ _ => .refl

theorem untouched_clearTask (h : Represents c live loose out a) (hne : other≠tid) :
    Untouched tid c (c.clearTask other) := by
  have htexts := h.setTexts (c.pendingExecArgs.erase other.toNat)
    (c.suspendedSyscalls.erase other.toNat)
  have hfirst : Untouched tid c {c with
      pendingExecArgs := c.pendingExecArgs.erase other.toNat
      suspendedSyscalls := c.suspendedSyscalls.erase other.toNat} := untouched_of_eq rfl rfl
  have hsecond := untouched_releasePendingSyscall htexts hne
  exact hfirst.trans (hsecond.trans
    (untouched_dropPendingExit (htexts.releasePendingSyscall other) other))

end Operations

section Dispatch

variable (tables : SyscallTables) (st : TraceState) {live loose : Multiset Ref}
  {out : Ref → EnterValue} {a : Contents} {tid : UInt32} {view : SyscallEventView}

theorem untouched_matched (h : Represents st.correlation live loose out a) (hne : view.tid≠tid) :
    Untouched tid st.correlation (st.consumeEnterEvent view).1.correlation := by
  change Untouched tid _ (TraceSyscallCorrelationState.consumeEnterEvent
    (if st.isStaleEnter view then st.correlation.clearTask view.tid else st.correlation) view).1
  split_ifs
  · exact (untouched_clearTask h hne).trans
      (untouched_consumeEnterEvent (h.clearTask view.tid) hne)
  · exact untouched_consumeEnterEvent h hne

theorem untouched_finish (h : Represents st.correlation live loose out a) (hne : view.tid≠tid) :
    Untouched tid st.correlation (if st.isTerminatingSyscall tables view then
      st.terminate tables view else st).correlation := by
  split_ifs
  · exact untouched_clearTask h hne
  · exact .refl _ _

theorem untouched_attachDeferredExit {pendingExit : PendingExitState}
    (h : Represents st.correlation live (owned pendingExit.payloadStorage+loose) out a)
    (hne : pendingExit.view.tid≠tid) :
    Untouched tid st.correlation (st.attachDeferredExit tables pendingExit).1.correlation := by
  have hmatched := untouched_matched st h hne
  have hconsumed := (consumeEnterEvent_represents tables h pendingExit.view).1
  unfold TraceState.attachDeferredExit
  revert hmatched hconsumed
  rcases st.consumeEnterEvent pendingExit.view with ⟨next,snapshot⟩
  intro hmatched hconsumed
  cases snapshot with
  | none => exact hmatched.trans (untouched_releasePendingExit hconsumed)
  | some ref => exact hmatched.trans (untouched_finish tables next hconsumed hne)

theorem untouched_handleSyscallEnter (h : Represents st.correlation live loose out a)
    (hkeyed : Keyed a) (htainted : st.tainted=false) (hne : view.tid≠tid)
    (update : TraceStateUpdate) (payload : List PayloadSection) :
    Untouched tid st.correlation
      (st.handleSyscallEnter tables update view payload).1.correlation := by
  have hentered := (h.rememberEnterEvent view payload).1
  have hfirst := untouched_rememberEnterEvent h hne payload
  obtain ⟨htaken,hvalue⟩ := hentered.takePendingExit view
  have hsecond := hfirst.trans (untouched_takePendingExit hentered view)
  unfold TraceState.handleSyscallEnter
  rw [htainted,if_neg Bool.false_ne_true]
  dsimp only
  have hscrutinee : (st.rememberEnterEvent tables view payload).correlation.takePendingExit view=
      (st.correlation.rememberEnterEvent view payload).1.takePendingExit view := rfl
  rw [hscrutinee]
  revert htaken hvalue hsecond
  rcases (st.correlation.rememberEnterEvent view payload).1.takePendingExit view with
    ⟨correlation,taken⟩
  intro htaken hvalue hsecond
  cases taken with
  | none => exact hsecond
  | some pendingExit =>
    have hstored : a.exits view.tid=some
        (exitValue (st.correlation.rememberEnterEvent view payload).1.payload pendingExit) :=
      (Option.filter_eq_some_iff.mp hvalue.symm).1
    have hkey : pendingExit.view.tid=view.tid := hkeyed _ _ hstored
    exact hsecond.trans (untouched_attachDeferredExit tables
      {st.rememberEnterEvent tables view payload with correlation := correlation}
      htaken (hkey ▸ hne))

theorem untouched_matchEnter (h : Represents st.correlation live loose out a)
    (hne : view.tid≠tid) :
    Untouched tid st.correlation (st.matchEnter tables view).1.correlation := by
  have hmatched := untouched_matched st h hne
  unfold TraceState.matchEnter
  revert hmatched
  rcases st.consumeEnterEvent view with ⟨next,snapshot⟩
  intro hmatched
  cases snapshot with
  | some ref => exact hmatched
  | none =>
    dsimp only
    split_ifs
    · exact hmatched.trans (untouched_of_eq rfl rfl)
    · exact hmatched

theorem untouched_handleSyscallExit (h : Represents st.correlation live loose out a)
    (hne : view.tid≠tid) (update : TraceStateUpdate) (payload : List PayloadSection) :
    Untouched tid st.correlation
      (st.handleSyscallExit tables update view payload).1.correlation := by
  have hfirst := untouched_matchEnter tables st h hne
  have hmatched := (matchEnter_represents tables h view).1
  unfold TraceState.handleSyscallExit
  revert hfirst hmatched
  rcases st.matchEnter tables view with ⟨next,snapshot⟩
  intro hfirst hmatched
  dsimp only
  split_ifs
  · exact hfirst.trans (untouched_rememberPendingExit hmatched view payload)
  · exact hfirst.trans (untouched_clearTask hmatched hne)
  · exact hfirst

theorem untouched_rememberFragment (h : Represents st.correlation live loose out a)
    (hne : view.tid≠tid) (payload : List PayloadSection) :
    Untouched tid st.correlation (st.rememberPayloadFragment view payload).correlation := by
  unfold TraceState.rememberPayloadFragment
  split_ifs
  · exact .refl _ _
  · exact untouched_rememberPayloadFragment h hne payload

theorem untouched_handleSyscallEnvelope (h : Represents st.correlation live loose out a)
    (hkeyed : Keyed a) (htainted : st.tainted=false) {record : TraceEventEnvelope}
    (hne : record.tid≠tid) (unfinished : List UnfinishedSyscallView) :
    Untouched tid st.correlation
      (st.handleSyscallEnvelope tables record unfinished).1.correlation := by
  have hview : record.syscallView.tid≠tid := hne
  unfold TraceState.handleSyscallEnvelope
  dsimp only
  rcases st.lifecycle.resolveForkIdentity record.syscallView.tid record.syscallView.pid with
    ⟨lifecycle,processInherit⟩
  split_ifs
  · exact untouched_handleSyscallEnter tables (TraceState.noteSyscallTask tables
      {st with lifecycle := lifecycle} record.syscallView) h hkeyed htainted hview _ _
  · exact untouched_rememberFragment (TraceState.noteSyscallTask tables
      {st with lifecycle := lifecycle} record.syscallView) h hview _
  · exact untouched_rememberFragment (TraceState.noteSyscallTask tables
      {st with lifecycle := lifecycle} record.syscallView) h hview _
  · exact untouched_handleSyscallExit tables {st with lifecycle := lifecycle} h hview _ _

theorem untouched_completeTask (h : Represents st.correlation live loose out a)
    {view : LifecycleEventView} (hne : view.tid≠tid) :
    Untouched tid st.correlation (st.completeTask view).1.correlation := by
  have htaken := (h.takePendingExitForTID view.tid).1
  have hfirst := untouched_takePendingExitForTID tid st.correlation view.tid
  unfold TraceState.completeTask
  dsimp only
  revert htaken hfirst
  rcases st.correlation.takePendingExitForTID view.tid with ⟨correlation,taken⟩
  intro htaken hfirst
  rw [retireTask_correlation]
  split_ifs
  · exact hfirst
  · exact hfirst.trans (untouched_clearTask htaken hne)

/-- An exec record names the thread that survives it. -/
def NamesSurvivor (record : TraceEventEnvelope) : Prop :=
  record.isLifecycle=true → record.lifecycleAction=lifecycleExec →
    record.lifecycleView.args[1].toUInt32=record.tid

theorem untouched_handleLifecycleEnvelope (h : Represents st.correlation live loose out a)
    (htainted : st.tainted=false) {record : TraceEventEnvelope}
    (hlifecycle : record.isLifecycle=true)
    (hsurvivor : NamesSurvivor record) (hne : record.tid≠tid)
    (unfinished : List UnfinishedSyscallView) :
    Untouched tid st.correlation (st.handleLifecycleEnvelope record unfinished).1.correlation := by
  have hexec : TraceState.movesThread record.lifecycleView →
      TraceState.execTID record.lifecycleView≠tid := by
    intro hmoves
    have hnamed := hsurvivor hlifecycle hmoves.1
    unfold TraceState.execTID
    split_ifs
    · exact hne
    · rw [hnamed]
      exact hne
  have hforgotten : st.clearExecTasks record.lifecycleView=st := by
    unfold TraceState.clearExecTasks
    rw [if_neg (fun hboth => Bool.false_ne_true (htainted.symm.trans hboth.1))]
  have hfirst : Untouched tid st.correlation
      (st.applyLifecycleEvent record.lifecycleView).1.correlation ∧
      ∃ b, Represents (st.applyLifecycleEvent record.lifecycleView).1.correlation live loose
        out b := by
    unfold TraceState.applyLifecycleEvent
    dsimp only
    split_ifs with hmoves
    · exact ⟨untouched_clearTask h (hexec hmoves),_,h.clearTask _⟩
    · exact ⟨.refl _ _,_,h⟩
  unfold TraceState.handleLifecycleEnvelope
  dsimp only
  rw [hforgotten]
  revert hfirst
  rcases st.applyLifecycleEvent record.lifecycleView with ⟨next,task,processInherit⟩
  intro hfirst
  obtain ⟨hfirst,b,happlied⟩ := hfirst
  by_cases hlives : record.lifecycleView.action≠lifecycleExit ∧
      record.lifecycleView.action≠lifecycleFree
  · rw [if_pos hlives]
    exact hfirst
  · rw [if_neg hlives]
    exact hfirst.trans (untouched_completeTask next happlied hne)

/-- A record leaves the open enters of the other threads alone. -/
theorem untouched_handleEnvelope (h : Represents st.correlation live loose out a)
    (hkeyed : Keyed a) (htainted : st.tainted=false) {record : TraceEventEnvelope}
    (hsurvivor : NamesSurvivor record) (hne : record.tid≠tid) :
    Untouched tid st.correlation (st.handleEnvelope tables record).1.correlation := by
  unfold TraceState.handleEnvelope
  rcases st.unfinished.pendingForOtherTID tables record.tid st.correlation with
    ⟨candidates,unfinished⟩
  dsimp only
  split_ifs with hsignal hlifecycle
  · exact .refl _ _
  · exact untouched_handleLifecycleEnvelope {st with unfinished := candidates} h htainted
      hlifecycle hsurvivor hne unfinished
  · exact untouched_handleSyscallEnvelope tables {st with unfinished := candidates} h hkeyed
      htainted hne unfinished

end Dispatch

section Order

/-- The output order compares any two views. -/
instance : Std.Total viewBefore where
  total := by
    intro left right
    unfold viewBefore
    by_cases heq : left.enterTime=right.enterTime
    · rcases UInt32.le_total left.tid right.tid with hle | hle
      · exact .inl (.inr ⟨heq,hle⟩)
      · exact .inr (.inr ⟨heq.symm,hle⟩)
    · exact (UInt64.lt_or_lt_of_ne heq).imp .inl .inl

instance : IsTrans UnfinishedSyscallView viewBefore where
  trans := by
    unfold viewBefore
    rintro left middle right (hlt | ⟨heq,hle⟩) (hlt' | ⟨heq',hle'⟩)
    · exact .inl (UInt64.lt_trans hlt hlt')
    · exact .inl (heq' ▸ hlt)
    · exact .inl (heq ▸ hlt')
    · exact .inr ⟨heq.trans heq',UInt32.le_trans hle hle'⟩

end Order

section Views

variable {tables : SyscallTables} {c : TraceSyscallCorrelationState} {tid : UInt32}

theorem tids_filterMap (hkeyed : PendingKeyed (contents c)) (order : List UInt32) :
    ((order.filterMap (offeredView tables c)).map (·.tid)).Sublist order := by
  induction order with
  | nil => exact .slnil
  | cons tid order ih =>
    rw [List.filterMap_cons]
    cases hview : offeredView tables c tid with
    | none => exact ih.cons tid
    | some v =>
      dsimp only
      rw [List.map_cons,tid_of_offeredView hkeyed hview]
      exact ih.cons_cons tid

end Views

/-- In every reachable lossless state of text mode, whatever record arrives: the unfinished views
of its update belong to other threads, their open enters are still there afterwards with the
same data and sections, the storages behind them were not put back on the way, and the views
are of distinct threads and in output order. -/
theorem borrowed_views_stay (tables : SyscallTables) (config : SessionConfig)
    (htext : config.textMode=true) (ops : List Operation) (hops : ∀ op∈ops, op.isTaint=false)
    (record : TraceEventEnvelope) (htid : record.tid≠0) (hsurvivor : NamesSurvivor record) :
    let before := (run tables {st := newTraceStateForSession config} ops).st
    let after := (before.handleEnvelope tables record).1
    let views := (before.handleEnvelope tables record).2.unfinished
    (∀ v∈views, v.tid≠record.tid ∧ ∃ pending,
      before.correlation.pendingSyscalls.lookup v.tid=some pending ∧
      after.correlation.pendingSyscalls.lookup v.tid=some pending ∧
      v=unfinishedView pending ∧
      readSections after.correlation.payload v.payloadSections=
        readSections before.correlation.payload v.payloadSections ∧
      ∀ ref, pending.payloadStorage=some ref →
        before.correlation.payload.Spares ref after.correlation.payload ∧
          ref∉after.correlation.payload.free) ∧
      (views.map (·.tid)).Nodup ∧ views.Pairwise viewBefore := by
  intro before after views
  have hreached : systemAt tables config ops ops.length=
      run tables {st := newTraceStateForSession config} ops := by
    unfold systemAt
    rw [List.take_length]
  have hremembers := remembers_systemAt tables config hops ops.length
  have hkeyed := keyed_contentsAt tables config hops ops.length
  have hpendings := pendingKeyed_contentsAt tables config hops ops.length
  have hproper := proper_systemAt tables config hops ops.length
  have htainted := untainted_systemAt tables config hops ops.length
  have henabled := (keeps_systemAt tables config hops ops.length).enabled
  unfold contentsAt at hremembers hkeyed hpendings
  rw [hreached] at hremembers hkeyed hpendings hproper htainted henabled
  obtain ⟨-,-,hviews,-,-⟩ := pendingForOtherTID_spec tables
    before.correlation hproper (henabled.trans htext) htid
  have hlist : views=_ :=
    (unfinished_handleEnvelope tables before hremembers htainted record).2.trans hviews
  refine ⟨fun v hv => ?_,?_,?_⟩
  · rw [hlist,List.mem_insertionSort,List.mem_filterMap] at hv
    obtain ⟨tid,hmem,hview⟩ := hv
    rw [List.mem_filter,decide_eq_true_eq] at hmem
    have hvtid := tid_of_offeredView hpendings hview
    obtain ⟨pending,hlookup,-,rfl⟩ := lookup_of_offeredView hview
    have huntouched := untouched_handleEnvelope tables before hremembers hkeyed htainted hsurvivor
      hmem.2.symm
    rw [hvtid]
    have hspared : ∀ ref, pending.payloadStorage=some ref →
        before.correlation.payload.Spares ref after.correlation.payload ∧
        after.correlation.payload.read ref=before.correlation.payload.read ref ∧
          ref∉after.correlation.payload.free := by
      intro ref hstorage
      have hspares := huntouched.spares pending ref hlookup hstorage
      obtain ⟨-,held,hbalanced,hheld⟩ := storage_held hremembers hlookup hstorage
      obtain ⟨hread,-,hfree⟩ := hspares.kept (hbalanced.lt hheld) (hbalanced.notMem_free hheld)
      exact ⟨hspares,hread,hfree⟩
    refine ⟨hmem.2,pending,hlookup,huntouched.lookup.trans hlookup,rfl,?_,
      fun ref hstorage => ⟨(hspared ref hstorage).1,(hspared ref hstorage).2.2⟩⟩
    have hshows := hremembers.isOwned.pendingShows tid pending hlookup
    change readSections _ pending.payloadSections=readSections _ pending.payloadSections
    rw [hshows]
    cases hstorage : pending.payloadStorage with
    | none => rfl
    | some ref =>
      change ((after.correlation.payload.read ref).sections.take _)=
        ((before.correlation.payload.read ref).sections.take _)
      rw [(hspared ref hstorage).2.1]
  · rw [hlist]
    have hperm := ((List.perm_insertionSort viewBefore
      ((before.unfinished.unqueued.filter (· ≠ record.tid)).filterMap
        (offeredView tables before.correlation))).map (·.tid))
    exact hperm.nodup_iff.mpr ((tids_filterMap hpendings _).nodup (hproper.unqueued.filter _))
  · rw [hlist]
    exact List.pairwise_insertionSort viewBefore _

/-- A write of thread 9 is interrupted by a write of thread 7. -/
theorem borrowed_views_stay_write :
    let tables : SyscallTables := ⟨fun _ => "write",fun _ => false,fun _ => false⟩
    let before := (run tables {st := newTraceStateForSession {}}
      [.handle (writeRecord 9 .enter bpfEventFlagGenericEnter 100 [writeSection 4096])]).st
    let record := writeRecord 7 .enter bpfEventFlagGenericEnter 120 []
    let after := (before.handleEnvelope tables record).1
    let views := (before.handleEnvelope tables record).2.unfinished
    views.map (·.tid)=[9] ∧ ∀ v∈views, v.tid≠record.tid ∧ ∃ pending,
      before.correlation.pendingSyscalls.lookup v.tid=some pending ∧
      after.correlation.pendingSyscalls.lookup v.tid=some pending ∧
      v=unfinishedView pending ∧
      readSections after.correlation.payload v.payloadSections=
        readSections before.correlation.payload v.payloadSections ∧
      ∀ ref, pending.payloadStorage=some ref →
        before.correlation.payload.Spares ref after.correlation.payload ∧
          ref∉after.correlation.payload.free := by
  intro tables before record after views
  refine ⟨by decide +kernel,?_⟩
  apply (borrowed_views_stay tables {} rfl
    [.handle (writeRecord 9 .enter bpfEventFlagGenericEnter 100 [writeSection 4096])] ?_ record
    (by decide) (fun h => nomatch h)).1
  intro op hmem
  rw [List.mem_singleton.mp hmem]
  rfl

end StraceGo.EventStateBorrowedViews

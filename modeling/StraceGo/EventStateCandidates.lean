import StraceGo.EventStateTimeline

/-!
# Unfinished candidates along a run

A record first offers every other candidate and then changes the candidates of
its own thread. Both sets stay disjoint and free of repetitions, and what is
offered is read off the open enters. The candidates after a record are given
as a function of the contents, which the dispatch refines.
-/

namespace StraceGo.EventStateCandidates

open EventEnvelope FiniteMaps ObjectPool EventPayloadStorage EventSyscallCorrelation
  EventTaskLifecycle EventUnfinishedState EventState EventSyscallOwnership EventStateContents
  EventStateFrame EventStateRuns EventStateTimeline EventStateInterleaving

/-- The two sets of candidates are sets, and disjoint. -/
structure Proper (u : TraceUnfinishedState) : Prop where
  /-- No thread is unqueued twice. -/
  unqueued : u.unqueued.Nodup
  /-- No thread is in flight twice. -/
  inFlight : u.inFlight.Nodup
  /-- No thread in flight is unqueued. -/
  disjoint : ∀ tid∈u.inFlight, tid∉u.unqueued

section Sets

variable {u : TraceUnfinishedState} {tid other : UInt32}

theorem mem_unqueued_deleteCandidate (h : Proper u) (henabled : u.enabled=true) :
    tid∈(u.deleteCandidate other).unqueued ↔ tid≠other ∧ tid∈u.unqueued := by
  unfold TraceUnfinishedState.deleteCandidate
  rw [if_neg (fun hoff => Bool.false_ne_true (hoff.symm.trans henabled))]
  exact h.unqueued.mem_erase_iff

theorem mem_inFlight_deleteCandidate (h : Proper u) (henabled : u.enabled=true) :
    tid∈(u.deleteCandidate other).inFlight ↔ tid≠other ∧ tid∈u.inFlight := by
  unfold TraceUnfinishedState.deleteCandidate
  rw [if_neg (fun hoff => Bool.false_ne_true (hoff.symm.trans henabled))]
  exact h.inFlight.mem_erase_iff

theorem Proper.deleteCandidate (h : Proper u) (other : UInt32) :
    Proper (u.deleteCandidate other) := by
  unfold TraceUnfinishedState.deleteCandidate
  split_ifs
  · exact h
  · exact ⟨h.unqueued.erase _,h.inFlight.erase _,fun tid hmem hin =>
      h.disjoint tid (List.mem_of_mem_erase hmem) (List.mem_of_mem_erase hin)⟩

/-- A thread that is not in flight can be added. -/
theorem Proper.enqueue (h : Proper u) (tables : SyscallTables) (sysID : UInt32)
    (hidle : other∉u.inFlight) : Proper (u.enqueue tables other sysID) := by
  unfold TraceUnfinishedState.enqueue
  split_ifs
  · exact h
  · refine ⟨h.unqueued.insert,h.inFlight,fun tid hmem hin => ?_⟩
    rcases List.mem_insert_iff.mp hin with rfl | hin
    · exact hidle hmem
    · exact h.disjoint tid hmem hin

theorem mem_unqueued_enqueue (tables : SyscallTables) (sysID : UInt32)
    (hmem : tid∈(u.enqueue tables other sysID).unqueued) : tid=other ∨ tid∈u.unqueued := by
  unfold TraceUnfinishedState.enqueue at hmem
  split_ifs at hmem
  · exact .inr hmem
  · exact List.mem_insert_iff.mp hmem

theorem inFlight_enqueue (tables : SyscallTables) (sysID : UInt32) :
    (u.enqueue tables other sysID).inFlight=u.inFlight := by
  unfold TraceUnfinishedState.enqueue
  split_ifs <;> rfl

theorem Proper.requeue (h : Proper u) (tables : SyscallTables) (other : UInt32)
    (c : TraceSyscallCorrelationState) : Proper (u.requeue tables other c) := by
  unfold TraceUnfinishedState.requeue
  dsimp only
  split
  · exact ⟨h.unqueued.erase _,h.inFlight.erase _,fun tid hmem hin =>
      h.disjoint tid (List.mem_of_mem_erase hmem) (List.mem_of_mem_erase hin)⟩
  · refine ⟨h.unqueued.insert,h.inFlight.erase _,fun tid hmem hin => ?_⟩
    obtain ⟨hne,hmem⟩ := h.inFlight.mem_erase_iff.mp hmem
    rcases List.mem_insert_iff.mp hin with rfl | hin
    · exact hne rfl
    · exact h.disjoint tid hmem hin

theorem mem_inFlight_requeue (h : Proper u) (tables : SyscallTables)
    (c : TraceSyscallCorrelationState) :
    tid∈(u.requeue tables other c).inFlight ↔ tid≠other ∧ tid∈u.inFlight := by
  unfold TraceUnfinishedState.requeue
  dsimp only
  split <;> exact h.inFlight.mem_erase_iff

/-- A requeued thread is unqueued exactly while its enter is a candidate. -/
theorem mem_unqueued_requeue (h : Proper u) (tables : SyscallTables)
    (c : TraceSyscallCorrelationState) :
    tid∈(u.requeue tables other c).unqueued ↔
      tid≠other ∧ tid∈u.unqueued ∨
        tid=other ∧ ((c.pendingSyscalls.lookup other).any (isCandidate tables))=true := by
  unfold TraceUnfinishedState.requeue
  dsimp only
  cases hpending : c.pendingSyscalls.lookup other with
  | none =>
    rw [Option.filter_none,Option.any_none]
    dsimp only
    rw [h.unqueued.mem_erase_iff]
    simp
  | some pending =>
    rw [Option.filter_some,Option.any_some]
    by_cases hcandidate : isCandidate tables pending=true
    · rw [if_pos hcandidate,hcandidate]
      dsimp only
      rw [List.mem_insert_iff]
      by_cases heq : tid=other
      · simp [heq]
      · simp [heq]
    · rw [if_neg hcandidate]
      dsimp only
      rw [h.unqueued.mem_erase_iff]
      simp [hcandidate]

end Sets

section Offers

variable (tables : SyscallTables) (c : TraceSyscallCorrelationState)

/-- The view of a thread's open enter while it is a candidate. -/
def offeredView (tid : UInt32) : Option UnfinishedSyscallView :=
  ((c.pendingSyscalls.lookup tid).filter (isCandidate tables)).map unfinishedView

variable {tables c} {acc : TraceUnfinishedState×List UnfinishedSyscallView} {tid other : UInt32}

theorem offer_of_none (h : offeredView tables c tid=none) :
    TraceUnfinishedState.offer tables c acc tid=(acc.1.deleteCandidate tid,acc.2) := by
  unfold TraceUnfinishedState.offer
  rw [Option.map_eq_none_iff.mp h]

theorem offer_of_some {v : UnfinishedSyscallView} (h : offeredView tables c tid=some v) :
    TraceUnfinishedState.offer tables c acc tid=
      ({acc.1 with
        unqueued := acc.1.unqueued.erase tid
        inFlight := acc.1.inFlight.insert tid},acc.2 ++ [v]) := by
  obtain ⟨pending,hpending,rfl⟩ := Option.map_eq_some_iff.mp h
  unfold TraceUnfinishedState.offer
  rw [hpending]

/-- What offering one thread does. -/
theorem offer_spec (h : Proper acc.1) (henabled : acc.1.enabled=true) (tid : UInt32) :
    Proper (TraceUnfinishedState.offer tables c acc tid).1 ∧
      (TraceUnfinishedState.offer tables c acc tid).1.enabled=true ∧
      (TraceUnfinishedState.offer tables c acc tid).2=
        acc.2 ++ (offeredView tables c tid).toList ∧
      (∀ other, other∈(TraceUnfinishedState.offer tables c acc tid).1.unqueued ↔
        other≠tid ∧ other∈acc.1.unqueued) ∧
      ∀ other∈(TraceUnfinishedState.offer tables c acc tid).1.inFlight,
        other∈acc.1.inFlight ∨ other=tid ∧ offeredView tables c tid≠none := by
  cases hview : offeredView tables c tid with
  | none =>
    rw [offer_of_none hview,Option.toList_none,List.append_nil]
    refine ⟨h.deleteCandidate tid,(TraceUnfinishedState.deleteCandidate_enabled _ _).trans henabled,
      rfl,fun other => mem_unqueued_deleteCandidate h henabled,fun other hmem => ?_⟩
    exact .inl ((mem_inFlight_deleteCandidate h henabled).mp hmem).2
  | some v =>
    rw [offer_of_some hview,Option.toList_some]
    refine ⟨⟨h.unqueued.erase _,h.inFlight.insert,fun other hmem hin => ?_⟩,henabled,rfl,
      fun other => h.unqueued.mem_erase_iff,fun other hmem => ?_⟩
    · obtain ⟨hne,hin⟩ := h.unqueued.mem_erase_iff.mp hin
      rcases List.mem_insert_iff.mp hmem with heq | hmem
      · exact hne heq
      · exact h.disjoint other hmem hin
    · rcases List.mem_insert_iff.mp hmem with heq | hmem
      · exact .inr ⟨heq,Option.some_ne_none v⟩
      · exact .inl hmem

/-- What offering a list of threads does. -/
theorem foldl_offer_spec (tables : SyscallTables) (c : TraceSyscallCorrelationState)
    {acc : TraceUnfinishedState×List UnfinishedSyscallView} (h : Proper acc.1)
    (henabled : acc.1.enabled=true) (order : List UInt32) :
    Proper (order.foldl (TraceUnfinishedState.offer tables c) acc).1 ∧
      (order.foldl (TraceUnfinishedState.offer tables c) acc).1.enabled=true ∧
      (order.foldl (TraceUnfinishedState.offer tables c) acc).2=
        acc.2 ++ order.filterMap (offeredView tables c) ∧
      (∀ other, other∈(order.foldl (TraceUnfinishedState.offer tables c) acc).1.unqueued ↔
        other∉order ∧ other∈acc.1.unqueued) ∧
      ∀ other∈(order.foldl (TraceUnfinishedState.offer tables c) acc).1.inFlight,
        other∈acc.1.inFlight ∨ other∈order ∧ offeredView tables c other≠none := by
  induction order generalizing acc with
  | nil =>
    refine ⟨h,henabled,(List.append_nil _).symm,fun other => ?_,fun other hmem => .inl hmem⟩
    simp
  | cons tid order ih =>
    obtain ⟨hproper,hmode,hviews,hunqueued,hflight⟩ := offer_spec (c := c) h henabled tid
    obtain ⟨hproper',hmode',hviews',hunqueued',hflight'⟩ := ih hproper hmode
    rw [List.foldl_cons]
    refine ⟨hproper',hmode',?_,fun other => ?_,fun other hmem => ?_⟩
    · rw [hviews',hviews,List.append_assoc,List.filterMap_cons]
      cases offeredView tables c tid with
      | none => rfl
      | some v => rfl
    · rw [hunqueued',hunqueued,List.mem_cons,not_or]
      tauto
    · rcases hflight' other hmem with hmem | ⟨hmem,hview⟩
      · rcases hflight other hmem with hmem | ⟨rfl,hview⟩
        · exact .inl hmem
        · exact .inr ⟨List.mem_cons_self,hview⟩
      · exact .inr ⟨List.mem_cons_of_mem _ hmem,hview⟩

/-- What a record of another thread offers. -/
theorem pendingForOtherTID_spec (tables : SyscallTables) (c : TraceSyscallCorrelationState)
    {u : TraceUnfinishedState} (h : Proper u)
    (henabled : u.enabled=true) (htid : tid≠0) :
    Proper (u.pendingForOtherTID tables tid c).1 ∧
      (u.pendingForOtherTID tables tid c).1.enabled=true ∧
      (u.pendingForOtherTID tables tid c).2=
        ((u.unqueued.filter (· ≠ tid)).filterMap (offeredView tables c)).insertionSort viewBefore ∧
      (∀ other, other∈(u.pendingForOtherTID tables tid c).1.unqueued ↔
        other=tid ∧ other∈u.unqueued) ∧
      ∀ other∈(u.pendingForOtherTID tables tid c).1.inFlight,
        other∈u.inFlight ∨ other≠tid ∧ other∈u.unqueued ∧ offeredView tables c other≠none := by
  have hguard : ¬(u.enabled=false ∨ tid=0) := by
    rintro (hoff | hzero)
    · exact Bool.false_ne_true (hoff.symm.trans henabled)
    · exact htid hzero
  obtain ⟨hproper,hmode,hviews,hunqueued,hflight⟩ := foldl_offer_spec tables c
    (show Proper (u,([] : List UnfinishedSyscallView)).1 from h) henabled
      (u.unqueued.filter (· ≠ tid))
  unfold TraceUnfinishedState.pendingForOtherTID
  rw [if_neg hguard]
  dsimp only
  refine ⟨hproper,hmode,?_,fun other => ?_,fun other hmem => ?_⟩
  · rw [hviews,List.nil_append]
  · rw [hunqueued,List.mem_filter,decide_eq_true_eq]
    by_cases heq : other=tid
    · simp [heq]
    · simp [heq]
  · rcases hflight other hmem with hmem | ⟨hmem,hview⟩
    · exact .inl hmem
    · rw [List.mem_filter,decide_eq_true_eq] at hmem
      exact .inr ⟨hmem.2,hmem.1,hview⟩

theorem Proper.pendingForOtherTID {u : TraceUnfinishedState} (h : Proper u) (tid : UInt32) :
    Proper (u.pendingForOtherTID tables tid c).1 := by
  by_cases hguard : u.enabled=false ∨ tid=0
  · unfold TraceUnfinishedState.pendingForOtherTID
    rw [if_pos hguard]
    exact h
  · rw [not_or,Bool.not_eq_false] at hguard
    exact (pendingForOtherTID_spec tables c h hguard.1 hguard.2).1

end Offers

section Records

variable (tables : SyscallTables) (p : Policy) (a : Contents) (u : TraceUnfinishedState)

/-- A terminating syscall drops its thread from the candidates. -/
def trackFinish (view : SyscallEventView) : TraceUnfinishedState :=
  if p.terminating view then u.deleteCandidate view.tid else u

/-- A stored exit joined with its enter drops its thread from the candidates. -/
def trackAttach (e : ExitValue) : TraceUnfinishedState :=
  if (consume p a e.view).2=none then u.deleteCandidate e.view.tid
  else trackFinish p (u.deleteCandidate e.view.tid) e.view

/-- A new enter makes its thread a candidate. -/
def trackEnter (view : SyscallEventView) : TraceUnfinishedState :=
  if a.sameSyscall view then u
  else (u.deleteCandidate view.tid).enqueue tables view.tid view.sysID

/-- Candidates after a generic enter record. -/
def trackGenericEnter (view : SyscallEventView) (payload : List PayloadSection) :
    TraceUnfinishedState :=
  let b := a.rememberEnterEvent view payload
  match b.takenExit view with
  | none => trackEnter tables a u view
  | some e => trackAttach p (b.setExit view.tid none) (trackEnter tables a u view) e

/-- Candidates after a record on the exit path. -/
def trackExit (view : SyscallEventView) : TraceUnfinishedState :=
  if (matched p a view).2=none ∧ p.deferUnmatchedExits=true then u.deleteCandidate view.tid
  else trackFinish p (u.deleteCandidate view.tid) view

/-- Candidates after a lifecycle record. -/
def trackLifecycle (view : LifecycleEventView) : TraceUnfinishedState :=
  let u := if TraceState.movesThread view then u.deleteCandidate (TraceState.execTID view) else u
  if (view.action=lifecycleExit ∨ view.action=lifecycleFree) ∧ view.tid≠0 then
    u.deleteCandidate view.tid
  else u

/-- Candidates after a record has been applied, without losses. -/
def track (record : TraceEventEnvelope) : TraceUnfinishedState :=
  if record.isSignal then u
  else if record.isLifecycle then trackLifecycle u record.lifecycleView
  else if record.syscallView.isGenericEnter then
    trackGenericEnter tables p a u record.syscallView record.payload
  else if record.syscallView.isEnterFragment then u
  else if record.syscallView.isExitFragment then u
  else trackExit p a u record.syscallView

end Records

section Refinement

variable (tables : SyscallTables) (st : TraceState) {live loose : Multiset Ref}
  {out : Ref → EnterValue} {a : Contents} {view : SyscallEventView}

theorem unfinished_finish (view : SyscallEventView) :
    (if st.isTerminatingSyscall tables view then st.terminate tables view else st).unfinished=
      trackFinish (policy tables st) st.unfinished view := by
  unfold trackFinish
  change _=if st.isTerminatingSyscall tables view then _ else _
  split_ifs <;> rfl

theorem unfinished_attachDeferredExit {pendingExit : PendingExitState} (e : ExitValue)
    (h : Represents st.correlation live loose out a) (hview : e.view=pendingExit.view) :
    (st.attachDeferredExit tables pendingExit).1.unfinished=
      trackAttach (policy tables st) a st.unfinished e := by
  have hsome := (consumeEnterEvent_represents tables h pendingExit.view).2
  have hunfinished : (st.consumeEnterEvent pendingExit.view).1.unfinished=
      st.unfinished.deleteCandidate pendingExit.view.tid := rfl
  have hpolicy := consumeEnterEvent_policy tables st pendingExit.view
  unfold TraceState.attachDeferredExit trackAttach
  rw [hview]
  revert hsome hunfinished hpolicy
  rcases st.consumeEnterEvent pendingExit.view with ⟨next,snapshot⟩
  intro hsome hunfinished hpolicy
  dsimp only at hsome hunfinished hpolicy
  cases snapshot with
  | none =>
    rw [if_pos (Option.isSome_eq_false_iff.mp hsome.symm |> Option.isNone_iff_eq_none.mp)]
    exact hunfinished
  | some ref =>
    rw [if_neg (Option.isSome_iff_ne_none.mp hsome.symm),←hunfinished,←hpolicy]
    exact unfinished_finish tables next pendingExit.view

theorem unfinished_handleSyscallEnter (h : Represents st.correlation live loose out a)
    (htainted : st.tainted=false) (update : TraceStateUpdate) (view : SyscallEventView)
    (payload : List PayloadSection) :
    (st.handleSyscallEnter tables update view payload).1.unfinished=
      trackGenericEnter tables (policy tables st) a st.unfinished view payload := by
  obtain ⟨hentered,hopened⟩ := h.rememberEnterEvent view payload
  obtain ⟨htaken,hvalue⟩ := hentered.takePendingExit view
  have hunfinished : (st.rememberEnterEvent tables view payload).unfinished=
      trackEnter tables a st.unfinished view := by
    unfold TraceState.rememberEnterEvent trackEnter
    dsimp only
    rw [hopened]
    cases a.sameSyscall view <;> rfl
  unfold TraceState.handleSyscallEnter trackGenericEnter
  rw [htainted,if_neg Bool.false_ne_true]
  dsimp only
  have hscrutinee : (st.rememberEnterEvent tables view payload).correlation.takePendingExit view=
      (st.correlation.rememberEnterEvent view payload).1.takePendingExit view := rfl
  rw [hscrutinee]
  revert htaken hvalue
  rcases (st.correlation.rememberEnterEvent view payload).1.takePendingExit view with
    ⟨correlation,taken⟩
  intro htaken hvalue
  dsimp only at hvalue
  rw [←hvalue]
  cases taken with
  | none => exact hunfinished
  | some pendingExit =>
    dsimp only [Option.map_some]
    rw [←hunfinished]
    exact unfinished_attachDeferredExit tables
      {st.rememberEnterEvent tables view payload with correlation := correlation} _ htaken rfl

theorem unfinished_handleSyscallExit (h : Represents st.correlation live loose out a)
    (htainted : st.tainted=false) (update : TraceStateUpdate) (view : SyscallEventView)
    (payload : List PayloadSection) :
    (st.handleSyscallExit tables update view payload).1.unfinished=
      trackExit (policy tables st) a st.unfinished view := by
  obtain ⟨-,hsome,hpolicy⟩ := matchEnter_represents tables h view
  have hunfinished : (st.matchEnter tables view).1.unfinished=
      st.unfinished.deleteCandidate view.tid := by
    unfold TraceState.matchEnter
    have hconsumed : (st.consumeEnterEvent view).1.unfinished=
        st.unfinished.deleteCandidate view.tid := rfl
    revert hconsumed
    rcases st.consumeEnterEvent view with ⟨next,snapshot⟩
    intro hconsumed
    cases snapshot with
    | some ref => exact hconsumed
    | none =>
      dsimp only
      split_ifs <;> exact hconsumed
  unfold TraceState.handleSyscallExit trackExit
  revert hsome hpolicy hunfinished
  rcases st.matchEnter tables view with ⟨next,snapshot⟩
  rcases matched (policy tables st) a view with ⟨b,value⟩
  intro hsome hpolicy hunfinished
  dsimp only at hsome hpolicy hunfinished ⊢
  have hdefers : next.deferUnmatchedExits=(policy tables st).deferUnmatchedExits := by
    rw [←hpolicy]
    rfl
  have hclean : next.tainted=false := by
    rw [←htainted]
    exact congrArg Policy.tainted hpolicy
  have hguard : (snapshot=none ∧ next.deferUnmatchedExits=true ∧ next.tainted=false) ↔
      (value=none ∧ (policy tables st).deferUnmatchedExits=true) := by
    rw [hdefers,hclean]
    cases snapshot <;> cases value <;> simp_all
  by_cases hdefer : value=none ∧ (policy tables st).deferUnmatchedExits=true
  · rw [if_pos (hguard.mpr hdefer),if_pos hdefer]
    exact hunfinished
  · rw [if_neg (fun hboth => hdefer (hguard.mp hboth)),if_neg hdefer,←hunfinished,←hpolicy]
    exact unfinished_finish tables next view

theorem unfinished_handleLifecycleEnvelope (htainted : st.tainted=false)
    (record : TraceEventEnvelope) (unfinished : List UnfinishedSyscallView) :
    (st.handleLifecycleEnvelope record unfinished).1.unfinished=
      trackLifecycle st.unfinished record.lifecycleView := by
  have hforgotten : st.clearExecTasks record.lifecycleView=st := by
    unfold TraceState.clearExecTasks
    rw [if_neg (fun hboth => Bool.false_ne_true (htainted.symm.trans hboth.1))]
  have happlied : (st.applyLifecycleEvent record.lifecycleView).1.unfinished=
      if TraceState.movesThread record.lifecycleView then
        st.unfinished.deleteCandidate (TraceState.execTID record.lifecycleView)
      else st.unfinished := by
    unfold TraceState.applyLifecycleEvent
    dsimp only
    split_ifs <;> rfl
  unfold TraceState.handleLifecycleEnvelope trackLifecycle
  dsimp only
  rw [hforgotten,←happlied]
  rcases st.applyLifecycleEvent record.lifecycleView with ⟨next,task,processInherit⟩
  by_cases hlives : record.lifecycleView.action≠lifecycleExit ∧
      record.lifecycleView.action≠lifecycleFree
  · rw [if_pos hlives]
    dsimp only
    rw [if_neg (fun hends => hends.1.elim hlives.1 hlives.2)]
  · rw [if_neg hlives]
    have hends : record.lifecycleView.action=lifecycleExit ∨
        record.lifecycleView.action=lifecycleFree := by
      rw [not_and_or,not_not,not_not] at hlives
      exact hlives
    unfold TraceState.completeTask TraceState.retireTask
    dsimp only
    by_cases hzero : record.lifecycleView.tid=0
    · rw [if_pos hzero,if_neg (fun hboth => hboth.2 hzero)]
    · rw [if_neg hzero,if_pos ⟨hends,hzero⟩]
      rfl

/-- The candidates after a record are those the contents say. -/
theorem unfinished_handleEnvelope (h : Represents st.correlation live loose out a)
    (htainted : st.tainted=false) (record : TraceEventEnvelope) :
    (st.handleEnvelope tables record).1.unfinished=track tables (policy tables st) a
        (st.unfinished.pendingForOtherTID tables record.tid st.correlation).1 record ∧
      (st.handleEnvelope tables record).2.unfinished=
        (st.unfinished.pendingForOtherTID tables record.tid st.correlation).2 := by
  unfold TraceState.handleEnvelope track
  rcases st.unfinished.pendingForOtherTID tables record.tid st.correlation with
    ⟨candidates,unfinished⟩
  dsimp only
  by_cases hsignal : record.isSignal=true
  · rw [if_pos hsignal,if_pos hsignal]
    exact ⟨rfl,rfl⟩
  · rw [if_neg hsignal,if_neg hsignal]
    by_cases hlifecycle : record.isLifecycle=true
    · rw [if_pos hlifecycle,if_pos hlifecycle]
      refine ⟨unfinished_handleLifecycleEnvelope {st with unfinished := candidates} htainted record
        unfinished,?_⟩
      unfold TraceState.handleLifecycleEnvelope
      dsimp only
      split_ifs <;> rfl
    · rw [if_neg hlifecycle,if_neg hlifecycle]
      unfold TraceState.handleSyscallEnvelope
      dsimp only
      rcases st.lifecycle.resolveForkIdentity record.syscallView.tid record.syscallView.pid with
        ⟨lifecycle,processInherit⟩
      dsimp only
      split_ifs
      · refine ⟨unfinished_handleSyscallEnter tables (TraceState.noteSyscallTask tables
          {st with unfinished := candidates, lifecycle := lifecycle} record.syscallView) h htainted
          _ _ _,?_⟩
        unfold TraceState.handleSyscallEnter
        dsimp only
        split <;> rfl
      · refine ⟨?_,rfl⟩
        unfold TraceState.handleSyscallFragment TraceState.rememberPayloadFragment
        dsimp only
        split_ifs <;> rfl
      · refine ⟨?_,rfl⟩
        unfold TraceState.handleSyscallFragment TraceState.rememberPayloadFragment
        dsimp only
        split_ifs <;> rfl
      · refine ⟨unfinished_handleSyscallExit tables
          {st with unfinished := candidates, lifecycle := lifecycle} h htainted _ _ _,?_⟩
        unfold TraceState.handleSyscallExit
        dsimp only
        split_ifs <;> rfl

end Refinement

section Tracking

variable {tables : SyscallTables} {p : Policy} {a : Contents} {u : TraceUnfinishedState}

theorem Proper.trackFinish (h : Proper u) (view : SyscallEventView) :
    Proper (trackFinish p u view) := by
  unfold EventStateCandidates.trackFinish
  split_ifs
  · exact h.deleteCandidate _
  · exact h

theorem Proper.trackEnter (h : Proper u) (view : SyscallEventView) :
    Proper (trackEnter tables a u view) := by
  unfold EventStateCandidates.trackEnter
  split_ifs
  · exact h
  · by_cases henabled : u.enabled=true
    · apply (h.deleteCandidate view.tid).enqueue
      intro hmem
      exact ((mem_inFlight_deleteCandidate h henabled).mp hmem).1 rfl
    · have hsame : (u.deleteCandidate view.tid).enqueue tables view.tid view.sysID=
          u.deleteCandidate view.tid := by
        unfold TraceUnfinishedState.enqueue
        rw [if_pos (.inl ((TraceUnfinishedState.deleteCandidate_enabled _ _).trans
          (Bool.eq_false_iff.mpr henabled)))]
      rw [hsame]
      exact h.deleteCandidate _

theorem Proper.track (h : Proper u) (record : TraceEventEnvelope) :
    Proper (track tables p a u record) := by
  unfold EventStateCandidates.track trackLifecycle trackGenericEnter trackExit
  dsimp only
  have hmoved : Proper (if TraceState.movesThread record.lifecycleView then
      u.deleteCandidate (TraceState.execTID record.lifecycleView) else u) := by
    split_ifs
    · exact h.deleteCandidate _
    · exact h
  by_cases hsignal : record.isSignal=true
  · rw [if_pos hsignal]
    exact h
  · rw [if_neg hsignal]
    by_cases hlifecycle : record.isLifecycle=true
    · rw [if_pos hlifecycle]
      by_cases hends : (record.lifecycleView.action=lifecycleExit ∨
          record.lifecycleView.action=lifecycleFree) ∧ record.lifecycleView.tid≠0
      · rw [if_pos hends]
        exact hmoved.deleteCandidate _
      · rw [if_neg hends]
        exact hmoved
    · rw [if_neg hlifecycle]
      have hentered : Proper (EventStateCandidates.trackEnter tables a u record.syscallView) :=
        h.trackEnter _
      split_ifs
      · split
        · exact hentered
        · unfold trackAttach
          split_ifs
          · exact hentered.deleteCandidate _
          · exact (hentered.deleteCandidate _).trackFinish _
      · exact h
      · exact h
      · exact h.deleteCandidate _
      · exact (h.deleteCandidate _).trackFinish _

end Tracking

section Membership

variable {tables : SyscallTables} {p : Policy} {a : Contents} {u : TraceUnfinishedState}
  {tid : UInt32} {record : TraceEventEnvelope}

theorem mem_trackFinish (h : Proper u) (henabled : u.enabled=true) {view : SyscallEventView}
    (hmem : tid∈(trackFinish p u view).unqueued) : tid∈u.unqueued := by
  unfold trackFinish at hmem
  split_ifs at hmem
  · exact ((mem_unqueued_deleteCandidate h henabled).mp hmem).2
  · exact hmem

/-- On the exit path a thread loses its own candidate only. -/
theorem mem_trackExit (h : Proper u) (henabled : u.enabled=true) {view : SyscallEventView}
    (hmem : tid∈(trackExit p a u view).unqueued) : tid≠view.tid ∧ tid∈u.unqueued := by
  unfold trackExit at hmem
  have hmode : (u.deleteCandidate view.tid).enabled=true :=
    (TraceUnfinishedState.deleteCandidate_enabled _ _).trans henabled
  split_ifs at hmem
  · exact (mem_unqueued_deleteCandidate h henabled).mp hmem
  · exact (mem_unqueued_deleteCandidate h henabled).mp
      (mem_trackFinish (h.deleteCandidate _) hmode hmem)

theorem enabled_trackEnter (view : SyscallEventView) :
    (trackEnter tables a u view).enabled=u.enabled := by
  unfold trackEnter
  split_ifs
  · rfl
  · exact (TraceUnfinishedState.enqueue_enabled _ _ _ _).trans
      (TraceUnfinishedState.deleteCandidate_enabled _ _)

theorem mem_trackAttach (h : Proper u) (henabled : u.enabled=true) {e : ExitValue}
    (hmem : tid∈(trackAttach p a u e).unqueued) : tid≠e.view.tid ∧ tid∈u.unqueued := by
  unfold trackAttach at hmem
  have hmode : (u.deleteCandidate e.view.tid).enabled=true :=
    (TraceUnfinishedState.deleteCandidate_enabled _ _).trans henabled
  split_ifs at hmem
  · exact (mem_unqueued_deleteCandidate h henabled).mp hmem
  · exact (mem_unqueued_deleteCandidate h henabled).mp
      (mem_trackFinish (h.deleteCandidate _) hmode hmem)

/-- A record opens an enter of its thread. -/
def opensEnter (a : Contents) (record : TraceEventEnvelope) (tid : UInt32) : Prop :=
  isGenericEnterRecord record=true ∧ record.tid=tid ∧ a.sameSyscall record.syscallView=false

theorem mem_trackEnter (h : Proper u) (henabled : u.enabled=true) {view : SyscallEventView}
    (hmem : tid∈(trackEnter tables a u view).unqueued) :
    tid=view.tid ∧ a.sameSyscall view=false ∨
      ¬(view.tid=tid ∧ a.sameSyscall view=false) ∧ tid∈u.unqueued := by
  unfold trackEnter at hmem
  split_ifs at hmem with hsame
  · exact .inr ⟨fun hboth => Bool.false_ne_true (hboth.2.symm.trans hsame),hmem⟩
  · rcases mem_unqueued_enqueue tables view.sysID hmem with heq | hmem
    · exact .inl ⟨heq,Bool.eq_false_iff.mpr hsame⟩
    · obtain ⟨hne,hmem⟩ := (mem_unqueued_deleteCandidate h henabled).mp hmem
      exact .inr ⟨fun hboth => hne hboth.1.symm,hmem⟩

theorem mem_track_generic (h : Proper u) (henabled : u.enabled=true) (hkeyed : Keyed a)
    (htainted : p.tainted=false) (hgeneric : isGenericEnterRecord record=true)
    (hmem : tid∈(trackGenericEnter tables p a u record.syscallView record.payload).unqueued) :
    opensEnter a record tid ∧ (handle p a record).1.pending tid≠none ∨
      ¬opensEnter a record tid ∧ tid∈u.unqueued ∧
        (a.pending tid≠none → (handle p a record).1.pending tid≠none) := by
  obtain ⟨hsyscall,hview⟩ := Bool.and_eq_true_iff.mp hgeneric
  have hhandle : handle p a record=handleEnter p a record.syscallView record.payload := by
    rw [handle_of_isSyscallRecord hsyscall]
    unfold handleSyscall
    rw [if_pos hview]
  have hother : tid≠record.tid → (handle p a record).1.pending tid=a.pending tid := by
    intro hne
    rw [hhandle]
    exact (agree_handleEnter_ne hkeyed hne).1
  unfold trackGenericEnter at hmem
  dsimp only at hmem
  cases htaken : (a.rememberEnterEvent record.syscallView record.payload).takenExit
      record.syscallView with
  | none =>
    rw [htaken] at hmem
    have hself : (handle p a record).1.pending record.tid≠none := by
      rw [hhandle]
      unfold handleEnter entering
      rw [htainted,if_neg Bool.false_ne_true]
      dsimp only
      rw [htaken]
      change Function.update a.pending record.syscallView.tid _ record.syscallView.tid≠none
      rw [Function.update_self]
      exact Option.some_ne_none _
    rcases mem_trackEnter h henabled hmem with ⟨heq,hopens⟩ | ⟨hnot,hmem⟩
    · exact .inl ⟨⟨hgeneric,heq.symm,hopens⟩,heq.symm ▸ hself⟩
    · refine .inr ⟨fun hopens => hnot ⟨hopens.2.1,hopens.2.2⟩,hmem,fun hpending => ?_⟩
      by_cases heq : tid=record.tid
      · rw [heq]
        exact hself
      · rw [hother heq]
        exact hpending
  | some e =>
    rw [htaken] at hmem
    have hstored : a.exits record.tid=some e := (Option.filter_eq_some_iff.mp htaken).1
    have hkey : e.view.tid=record.tid := hkeyed _ e hstored
    obtain ⟨hne,hmem⟩ := mem_trackAttach (h.trackEnter _)
      ((enabled_trackEnter _).trans henabled) hmem
    rw [hkey] at hne
    rcases mem_trackEnter h henabled hmem with ⟨heq,-⟩ | ⟨-,hmem⟩
    · exact absurd heq hne
    · refine .inr ⟨fun hopens => hne hopens.2.1.symm,hmem,fun hpending => ?_⟩
      rw [hother hne]
      exact hpending

theorem mem_track_lifecycle (h : Proper u) (henabled : u.enabled=true)
    (htainted : p.tainted=false) {view : LifecycleEventView}
    (hmem : tid∈(trackLifecycle u view).unqueued) :
    tid∈u.unqueued ∧ (handleLifecycle p a view).1.pending tid=a.pending tid := by
  have hmode : ∀ other, (u.deleteCandidate other).enabled=true :=
    fun other => (TraceUnfinishedState.deleteCandidate_enabled _ _).trans henabled
  have hforgotten : execForgotten p a view=a := by
    unfold execForgotten
    rw [htainted,if_neg (fun h => Bool.false_ne_true h.1)]
  have hmoved : ∃ w, (if TraceState.movesThread view then
      u.deleteCandidate (TraceState.execTID view) else u)=w ∧ Proper w ∧ w.enabled=true ∧
      (tid∈w.unqueued → tid∈u.unqueued ∧ (execCleared p a view).pending tid=a.pending tid) := by
    unfold execCleared
    rw [hforgotten]
    split_ifs
    · refine ⟨_,rfl,h.deleteCandidate _,hmode _,fun hin => ?_⟩
      obtain ⟨hne,hin⟩ := (mem_unqueued_deleteCandidate h henabled).mp hin
      exact ⟨hin,(agree_clearTask_ne hne).1⟩
    · exact ⟨_,rfl,h,henabled,fun hin => ⟨hin,rfl⟩⟩
  obtain ⟨w,hw,hproper,hon,hkept⟩ := hmoved
  unfold trackLifecycle at hmem
  unfold handleLifecycle
  dsimp only at hmem ⊢
  rw [hw] at hmem
  by_cases hends : (view.action=lifecycleExit ∨ view.action=lifecycleFree) ∧ view.tid≠0
  · rw [if_pos hends] at hmem
    have hlives : ¬(view.action≠lifecycleExit ∧ view.action≠lifecycleFree) :=
      fun hlives => hends.1.elim hlives.1 hlives.2
    rw [if_neg hlives,if_neg hends.2]
    obtain ⟨hne,hin⟩ := (mem_unqueued_deleteCandidate hproper hon).mp hmem
    obtain ⟨hin,hpending⟩ := hkept hin
    exact ⟨hin,(((agree_clearTask_ne hne).trans (agree_setExit_ne hne none)).1).trans hpending⟩
  · rw [if_neg hends] at hmem
    obtain ⟨hin,hpending⟩ := hkept hmem
    refine ⟨hin,?_⟩
    split_ifs with hlives hzero
    · exact hpending
    · exact hpending
    · refine absurd ⟨?_,hzero⟩ hends
      rw [not_and_or,not_not,not_not] at hlives
      exact hlives

/-- A candidate after a record was opened by it, or was one before and kept its enter. -/
theorem mem_unqueued_track (h : Proper u) (henabled : u.enabled=true) (hkeyed : Keyed a)
    (htainted : p.tainted=false) (hmem : tid∈(track tables p a u record).unqueued) :
    opensEnter a record tid ∧ (handle p a record).1.pending tid≠none ∨
      ¬opensEnter a record tid ∧ tid∈u.unqueued ∧
        (a.pending tid≠none → (handle p a record).1.pending tid≠none) := by
  have hplain : isGenericEnterRecord record=false → ¬opensEnter a record tid :=
    fun hplain hopens => Bool.false_ne_true (hplain.symm.trans hopens.1)
  unfold track at hmem
  by_cases hsignal : record.isSignal=true
  · rw [if_pos hsignal] at hmem
    have hsyscall : isGenericEnterRecord record=false := by
      unfold isGenericEnterRecord isSyscallRecord
      rw [hsignal]
      rfl
    refine .inr ⟨hplain hsyscall,hmem,fun hpending => ?_⟩
    unfold handle
    rw [if_pos hsignal]
    exact hpending
  · rw [if_neg hsignal] at hmem
    by_cases hlifecycle : record.isLifecycle=true
    · rw [if_pos hlifecycle] at hmem
      have hsyscall : isGenericEnterRecord record=false := by
        unfold isGenericEnterRecord isSyscallRecord
        rw [hlifecycle,Bool.not_true,Bool.and_false,Bool.false_and]
      obtain ⟨hin,hsame⟩ := mem_track_lifecycle (a := a) h henabled htainted hmem
      refine .inr ⟨hplain hsyscall,hin,fun hpending => ?_⟩
      unfold handle
      rw [if_neg hsignal,if_pos hlifecycle,hsame]
      exact hpending
    · rw [if_neg hlifecycle] at hmem
      have hsyscall : isSyscallRecord record=true := by
        unfold isSyscallRecord
        rw [Bool.eq_false_iff.mpr hsignal,Bool.eq_false_iff.mpr hlifecycle]
        rfl
      by_cases hgeneric : record.syscallView.isGenericEnter=true
      · rw [if_pos hgeneric] at hmem
        exact mem_track_generic h henabled hkeyed htainted
          (Bool.and_eq_true_iff.mpr ⟨hsyscall,hgeneric⟩) hmem
      · rw [if_neg hgeneric] at hmem
        have hnot : ¬opensEnter a record tid :=
          fun hopens => hgeneric (Bool.and_eq_true_iff.mp hopens.1).2
        have hfragment : a.pending tid≠none →
            (handleFragment p a record.syscallView record.payload).pending tid≠none := by
          intro hpending
          unfold handleFragment
          split_ifs
          · exact hpending
          · change Function.update a.pending record.syscallView.tid _ tid≠none
            by_cases heq : tid=record.syscallView.tid
            · rw [heq,Function.update_self]
              rw [heq] at hpending
              exact fun hnone => hpending (Option.map_eq_none_iff.mp hnone)
            · rw [Function.update_of_ne heq]
              exact hpending
        refine .inr ⟨hnot,?_⟩
        rw [handle_of_isSyscallRecord hsyscall]
        unfold handleSyscall
        rw [if_neg hgeneric]
        split_ifs at hmem ⊢
        · exact ⟨hmem,hfragment⟩
        · exact ⟨hmem,hfragment⟩
        · obtain ⟨hne,hin⟩ := mem_trackExit h henabled hmem
          refine ⟨hin,fun hpending => ?_⟩
          rw [(agree_handleExit_ne hne).1]
          exact hpending

theorem mem_inFlight_deleteCandidate_sub {other : UInt32}
    (hmem : tid∈(u.deleteCandidate other).inFlight) : tid∈u.inFlight := by
  unfold TraceUnfinishedState.deleteCandidate at hmem
  split_ifs at hmem
  · exact hmem
  · exact List.mem_of_mem_erase hmem

theorem mem_inFlight_trackFinish {view : SyscallEventView}
    (hmem : tid∈(trackFinish p u view).inFlight) : tid∈u.inFlight := by
  unfold trackFinish at hmem
  split_ifs at hmem
  · exact mem_inFlight_deleteCandidate_sub hmem
  · exact hmem

theorem mem_inFlight_trackEnter {view : SyscallEventView}
    (hmem : tid∈(trackEnter tables a u view).inFlight) : tid∈u.inFlight := by
  unfold trackEnter at hmem
  split_ifs at hmem
  · exact hmem
  · rw [inFlight_enqueue] at hmem
    exact mem_inFlight_deleteCandidate_sub hmem

/-- Applying a record puts nothing in flight. -/
theorem mem_inFlight_track (hmem : tid∈(track tables p a u record).inFlight) :
    tid∈u.inFlight := by
  unfold track trackLifecycle trackGenericEnter trackExit at hmem
  dsimp only at hmem
  have hmoved : tid∈(if TraceState.movesThread record.lifecycleView then
      u.deleteCandidate (TraceState.execTID record.lifecycleView) else u).inFlight →
      tid∈u.inFlight := by
    intro hin
    split_ifs at hin
    · exact mem_inFlight_deleteCandidate_sub hin
    · exact hin
  by_cases hsignal : record.isSignal=true
  · rw [if_pos hsignal] at hmem
    exact hmem
  · rw [if_neg hsignal] at hmem
    by_cases hlifecycle : record.isLifecycle=true
    · rw [if_pos hlifecycle] at hmem
      by_cases hends : (record.lifecycleView.action=lifecycleExit ∨
          record.lifecycleView.action=lifecycleFree) ∧ record.lifecycleView.tid≠0
      · rw [if_pos hends] at hmem
        exact hmoved (mem_inFlight_deleteCandidate_sub hmem)
      · rw [if_neg hends] at hmem
        exact hmoved hmem
    · rw [if_neg hlifecycle] at hmem
      by_cases hgeneric : record.syscallView.isGenericEnter=true
      · rw [if_pos hgeneric] at hmem
        split at hmem
        · exact mem_inFlight_trackEnter hmem
        · unfold trackAttach at hmem
          split_ifs at hmem
          · exact mem_inFlight_trackEnter (mem_inFlight_deleteCandidate_sub hmem)
          · exact mem_inFlight_trackEnter (mem_inFlight_deleteCandidate_sub
              (mem_inFlight_trackFinish hmem))
      · rw [if_neg hgeneric] at hmem
        split_ifs at hmem
        · exact hmem
        · exact hmem
        · exact mem_inFlight_deleteCandidate_sub hmem
        · exact mem_inFlight_deleteCandidate_sub (mem_inFlight_trackFinish hmem)

end Membership

/-- Every open enter of the second contents is one of the first. -/
def Erodes (a b : Contents) : Prop := ∀ tid v, b.pending tid=some v → a.pending tid=some v

section Pending

variable {p : Policy} {a b c : Contents} {tid : UInt32}

theorem Erodes.refl (a : Contents) : Erodes a a := fun _ _ h => h

theorem Erodes.trans (h : Erodes a b) (h' : Erodes b c) : Erodes a c :=
  fun tid v hv => h tid v (h' tid v hv)

theorem erodes_of_update (h : b.pending=Function.update a.pending tid none) : Erodes a b := by
  intro other v hv
  rw [h] at hv
  by_cases heq : other=tid
  · rw [heq,Function.update_self] at hv
    cases hv
  · rw [Function.update_of_ne heq] at hv
    exact hv

theorem erodes_clearTask (a : Contents) (tid : UInt32) : Erodes a (a.clearTask tid) :=
  erodes_of_update rfl

theorem erodes_setExit (a : Contents) (tid : UInt32) (v : Option ExitValue) :
    Erodes a (a.setExit tid v) := fun _ _ h => h

theorem erodes_consume (htainted : p.tainted=false) (view : SyscallEventView) :
    Erodes a (consume p a view).1 := by
  unfold consume trusted Contents.consumeEnterEvent
  rw [htainted,Bool.false_and,if_neg Bool.false_ne_true]
  dsimp only
  split_ifs
  · exact .refl a
  · exact erodes_of_update rfl

theorem erodes_finish (view : SyscallEventView) : Erodes a (finish p a view) := by
  unfold finish
  split_ifs
  · exact erodes_clearTask a _
  · exact .refl a

theorem erodes_attach (htainted : p.tainted=false) (e : ExitValue) :
    Erodes a (attach p a e).1 := by
  have hconsumed := erodes_consume (a := a) htainted e.view
  unfold attach
  revert hconsumed
  rcases consume p a e.view with ⟨b,value⟩
  intro hconsumed
  cases value with
  | none => exact hconsumed
  | some v => exact hconsumed.trans (erodes_finish e.view)

theorem erodes_matched (htainted : p.tainted=false) (view : SyscallEventView) :
    Erodes a (matched p a view).1 := by
  have hconsumed := erodes_consume (a := a) htainted view
  unfold matched
  revert hconsumed
  rcases consume p a view with ⟨b,value⟩
  intro hconsumed
  cases value with
  | none => exact hconsumed
  | some v => exact hconsumed

theorem erodes_handleExit (htainted : p.tainted=false) (view : SyscallEventView)
    (payload : List PayloadSection) : Erodes a (handleExit p a view payload).1 := by
  have hmatched := erodes_matched (a := a) htainted view
  rw [handleExit_eq]
  split_ifs
  · exact hmatched.trans (erodes_setExit _ _ _)
  · exact hmatched.trans (erodes_finish view)

theorem erodes_handleLifecycle (htainted : p.tainted=false) (view : LifecycleEventView) :
    Erodes a (handleLifecycle p a view).1 := by
  have hforgotten : execForgotten p a view=a := by
    unfold execForgotten
    rw [htainted,if_neg (fun h => Bool.false_ne_true h.1)]
  have hcleared : Erodes a (execCleared p a view) := by
    unfold execCleared
    rw [hforgotten]
    split_ifs
    · exact erodes_clearTask a _
    · exact .refl a
  unfold handleLifecycle
  dsimp only
  split_ifs
  · exact hcleared
  · exact hcleared
  · exact hcleared.trans ((erodes_setExit _ _ _).trans (erodes_clearTask _ _))

/-- An open enter after a record was just entered by it, or was open before. -/
theorem pending_handle (htainted : p.tainted=false) {record : TraceEventEnvelope}
    {v : EnterValue} (h : (handle p a record).1.pending tid=some v) :
    isGenericEnterRecord record=true ∧ record.tid=tid ∧
        v=a.enteredValue record.syscallView record.payload ∨
      ¬(isGenericEnterRecord record=true ∧ record.tid=tid) ∧
        ∃ w, a.pending tid=some w ∧ v.toSyscallEnterData=w.toSyscallEnterData := by
  by_cases hsyscall : isSyscallRecord record=true
  · rw [handle_of_isSyscallRecord hsyscall] at h
    unfold handleSyscall at h
    by_cases hgeneric : record.syscallView.isGenericEnter=true
    · have hrecord : isGenericEnterRecord record=true :=
        Bool.and_eq_true_iff.mpr ⟨hsyscall,hgeneric⟩
      have hbefore : (a.rememberEnterEvent record.syscallView record.payload).pending tid=
          some v := by
        rw [if_pos hgeneric] at h
        unfold handleEnter entering at h
        rw [htainted,if_neg Bool.false_ne_true] at h
        dsimp only at h
        revert h
        cases (a.rememberEnterEvent record.syscallView record.payload).takenExit
            record.syscallView with
        | none => exact id
        | some e => exact erodes_attach htainted e tid v
      by_cases htid : record.tid=tid
      · left
        subst htid
        have hself : (a.rememberEnterEvent record.syscallView record.payload).pending
            record.syscallView.tid=some (a.enteredValue record.syscallView record.payload) :=
          Function.update_self ..
        exact ⟨hrecord,rfl,Option.some.inj (hbefore.symm.trans hself)⟩
      · right
        refine ⟨fun hboth => htid hboth.2,v,?_,rfl⟩
        have hother : (a.rememberEnterEvent record.syscallView record.payload).pending tid=
            a.pending tid := Function.update_of_ne (fun heq => htid heq.symm) _ _
        exact hother.symm.trans hbefore
    · have hnot : ¬(isGenericEnterRecord record=true ∧ record.tid=tid) :=
        fun hboth => hgeneric (Bool.and_eq_true_iff.mp hboth.1).2
      have hfragment : ∀ w, (handleFragment p a record.syscallView record.payload).pending tid=
          some w → ∃ w', a.pending tid=some w' ∧
            w.toSyscallEnterData=w'.toSyscallEnterData := by
        intro w hw
        unfold handleFragment Contents.rememberPayloadFragment at hw
        rw [htainted,Bool.false_and,if_neg Bool.false_ne_true] at hw
        change Function.update a.pending record.syscallView.tid _ tid=some w at hw
        by_cases heq : tid=record.syscallView.tid
        · rw [heq,Function.update_self] at hw
          obtain ⟨w',hw',rfl⟩ := Option.map_eq_some_iff.mp hw
          refine ⟨w',heq ▸ hw',?_⟩
          split_ifs <;> rfl
        · rw [Function.update_of_ne heq] at hw
          exact ⟨w,hw,rfl⟩
      rw [if_neg hgeneric] at h
      refine .inr ⟨hnot,?_⟩
      split_ifs at h
      · exact hfragment v h
      · exact hfragment v h
      · exact ⟨v,erodes_handleExit htainted _ _ tid v h,rfl⟩
  · have hnot : ¬(isGenericEnterRecord record=true ∧ record.tid=tid) :=
      fun hboth => hsyscall (Bool.and_eq_true_iff.mp hboth.1).1
    refine .inr ⟨hnot,v,?_,rfl⟩
    unfold handle at h
    by_cases hsignal : record.isSignal=true
    · rw [if_pos hsignal] at h
      exact h
    · rw [if_neg hsignal] at h
      by_cases hlifecycle : record.isLifecycle=true
      · rw [if_pos hlifecycle] at h
        exact erodes_handleLifecycle htainted _ tid v h
      · refine absurd ?_ hsyscall
        unfold isSyscallRecord
        rw [Bool.eq_false_iff.mpr hsignal,Bool.eq_false_iff.mpr hlifecycle]
        rfl

/-- Open enters are under their own thread. -/
def PendingKeyed (a : Contents) : Prop := ∀ tid v, a.pending tid=some v → v.tid=tid

theorem tid_enteredValue (h : PendingKeyed a) (view : SyscallEventView)
    (payload : List PayloadSection) : (a.enteredValue view payload).tid=view.tid := by
  unfold Contents.enteredValue
  cases hpending : a.pending view.tid with
  | none => rfl
  | some v =>
    dsimp only
    split_ifs
    · exact h _ v hpending
    · rfl

theorem PendingKeyed.handle (h : PendingKeyed a) (htainted : p.tainted=false)
    (record : TraceEventEnvelope) : PendingKeyed (handle p a record).1 := by
  intro tid v hv
  rcases pending_handle htainted hv with ⟨-,rfl,rfl⟩ | ⟨-,w,hw,hsame⟩
  · exact tid_enteredValue h _ _
  · exact (congrArg SyscallEnterData.tid hsame).trans (h tid w hw)

end Pending

section Views

variable {tables : SyscallTables} {c : TraceSyscallCorrelationState} {tid : UInt32}

/-- An offered view is the view of an open enter. -/
theorem lookup_of_offeredView {v : UnfinishedSyscallView}
    (h : offeredView tables c tid=some v) :
    ∃ pending, c.pendingSyscalls.lookup tid=some pending ∧ isCandidate tables pending=true ∧
      v=unfinishedView pending := by
  obtain ⟨pending,hpending,rfl⟩ := Option.map_eq_some_iff.mp h
  obtain ⟨hlookup,hcandidate⟩ := Option.filter_eq_some_iff.mp hpending
  exact ⟨pending,hlookup,hcandidate,rfl⟩

/-- Open enters under their own thread are offered under their own thread. -/
theorem tid_of_offeredView (hkeyed : PendingKeyed (contents c)) {v : UnfinishedSyscallView}
    (h : offeredView tables c tid=some v) : v.tid=tid := by
  obtain ⟨pending,hlookup,-,rfl⟩ := lookup_of_offeredView h
  have hvalue : (contents c).pending tid=some (enterValue c.payload pending) := by
    change (c.pendingSyscalls.lookup tid).map _=_
    rw [hlookup]
    rfl
  exact hkeyed tid _ hvalue

end Views

theorem unfinished_releaseAt (sys : System) (index : ℕ) :
    (releaseAt sys index).st.unfinished=sys.st.unfinished := by
  unfold releaseAt
  split
  · rfl
  · unfold TraceState.releaseTraceStateUpdate
    dsimp only
    split <;> rfl

section Runs

variable {tables : SyscallTables} {config : SessionConfig} {ops : List Operation}

/-- Open enters after a call that handles no record. -/
theorem pending_applyContents (tables : SyscallTables) (sys : System) (a : Contents)
    {op : Operation}
    (htaint : op.isTaint=false) (hop : ∀ record, op≠.handle record) :
    (applyContents tables sys a op).pending=a.pending ∨
      ∃ tid, op=.markUnfinishedPrinted tid ∧ (applyContents tables sys a op).pending=
        (a.markUnfinishedPrinted tid).pending := by
  cases op with
  | handle record => exact absurd rfl (hop record)
  | taint order => cases htaint
  | rememberPendingExecArgs tid argLine =>
    unfold applyContents
    split_ifs <;> exact .inl rfl
  | rememberSuspendedSyscall tid name =>
    unfold applyContents
    split_ifs <;> exact .inl rfl
  | markUnfinishedPrinted tid => exact .inr ⟨tid,rfl,rfl⟩
  | _ => exact .inl rfl

theorem pendingKeyed_mark {a : Contents} (h : PendingKeyed a) (tid : UInt32) :
    PendingKeyed (a.markUnfinishedPrinted tid) := by
  intro other v hv
  change Function.update a.pending tid _ other=some v at hv
  by_cases heq : other=tid
  · rw [heq,Function.update_self] at hv
    obtain ⟨w,hw,rfl⟩ := Option.map_eq_some_iff.mp hv
    rw [heq]
    exact h tid w hw
  · rw [Function.update_of_ne heq] at hv
    exact h other v hv

theorem pendingKeyed_contentsAt (tables : SyscallTables) (config : SessionConfig)
    (hops : ∀ op∈ops, op.isTaint=false) (j : ℕ) :
    PendingKeyed (contentsAt tables config ops j) := by
  induction j with
  | zero => exact fun tid v hv => nomatch hv
  | succ j ih =>
    cases hrecord : recordAt ops j with
    | some record =>
      rw [(handle_contentsAt tables config hops j hrecord).1]
      exact ih.handle rfl record
    | none =>
      cases hop : ops[j]? with
      | none =>
        unfold contentsAt
        rw [systemAt_succ_of_none hop]
        exact ih
      | some op =>
        have hnot : ∀ record, op≠.handle record := ne_handle_of_recordAt hrecord hop
        rw [contentsAt_succ tables config hops j hop]
        rcases pending_applyContents tables (systemAt tables config ops j)
          (contentsAt tables config ops j) (hops op (List.mem_of_getElem? hop)) hnot with
          hsame | ⟨tid,-,hmarked⟩
        · unfold PendingKeyed
          rw [hsame]
          exact ih
        · unfold PendingKeyed
          rw [hmarked]
          exact pendingKeyed_mark ih tid

/-- Candidates after a call that handles no record. -/
theorem unfinished_apply (sys : System) {op : Operation} (htaint : op.isTaint=false)
    (hop : ∀ record, op≠.handle record) :
    (apply tables sys op).st.unfinished=sys.st.unfinished ∧
        (∀ tid, op≠.markUnfinishedPrinted tid ∧ op≠.requeueUnfinished tid) ∨
      (∃ tid, op=.markUnfinishedPrinted tid ∧
        (apply tables sys op).st.unfinished=sys.st.unfinished.deleteCandidate tid) ∨
      ∃ tid, op=.requeueUnfinished tid ∧ (apply tables sys op).st.unfinished=
        sys.st.unfinished.requeue tables tid sys.st.correlation := by
  cases op with
  | handle record => exact absurd rfl (hop record)
  | taint order => cases htaint
  | release index =>
    exact .inl ⟨unfinished_releaseAt sys index,fun tid => ⟨(nomatch ·),(nomatch ·)⟩⟩
  | rememberPendingExecArgs tid argLine =>
    refine .inl ⟨?_,fun tid => ⟨(nomatch ·),(nomatch ·)⟩⟩
    change (TraceState.rememberPendingExecArgs sys.st tid argLine).unfinished=_
    unfold TraceState.rememberPendingExecArgs
    split_ifs <;> rfl
  | takePendingExecArgs tid =>
    exact .inl ⟨rfl,fun tid => ⟨(nomatch ·),(nomatch ·)⟩⟩
  | rememberSuspendedSyscall tid name =>
    refine .inl ⟨?_,fun tid => ⟨(nomatch ·),(nomatch ·)⟩⟩
    change (TraceState.rememberSuspendedSyscall sys.st tid name).unfinished=_
    unfold TraceState.rememberSuspendedSyscall
    split_ifs <;> rfl
  | consumeSuspendedSyscall tid =>
    exact .inl ⟨rfl,fun tid => ⟨(nomatch ·),(nomatch ·)⟩⟩
  | markUnfinishedPrinted tid => exact .inr (.inl ⟨tid,rfl,rfl⟩)
  | requeueUnfinished tid => exact .inr (.inr ⟨tid,rfl,rfl⟩)

/-- The candidate sets stay proper at every position. -/
theorem proper_systemAt (tables : SyscallTables) (config : SessionConfig)
    (hops : ∀ op∈ops, op.isTaint=false) (j : ℕ) :
    Proper (systemAt tables config ops j).st.unfinished := by
  induction j with
  | zero => exact ⟨.nil,.nil,fun tid hmem => absurd hmem List.not_mem_nil⟩
  | succ j ih =>
    cases hop : ops[j]? with
    | none =>
      rw [systemAt_succ_of_none hop]
      exact ih
    | some op =>
      rw [systemAt_succ hop]
      by_cases hhandle : ∃ record, op=.handle record
      · obtain ⟨record,rfl⟩ := hhandle
        change Proper (TraceState.handleEnvelope tables (systemAt tables config ops j).st
          record).1.unfinished
        rw [(unfinished_handleEnvelope tables _ (remembers_systemAt tables config hops j)
          (untainted_systemAt tables config hops j) record).1]
        exact (ih.pendingForOtherTID record.tid).track record
      · rcases unfinished_apply (systemAt tables config ops j)
          (hops op (List.mem_of_getElem? hop)) (not_exists.mp hhandle) with
          ⟨hsame,-⟩ | ⟨tid,-,hmarked⟩ | ⟨tid,-,hrequeued⟩
        · rw [hsame]
          exact ih
        · rw [hmarked]
          exact ih.deleteCandidate tid
        · rw [hrequeued]
          exact ih.requeue tables tid _

end Runs

end StraceGo.EventStateCandidates

import StraceGo.EventStateRuns

/-!
# No correlation across a loss

After a loss everything inferred before it is gone and stays gone. The enter
that a later exit is reported with was opened after the loss by a generic enter
record of the same thread and identity, or was made up from the exit itself.
No fork is inherited, no exit is stored, and no unfinished line is offered.
-/

namespace StraceGo.EventStateLossBarrier

open EventEnvelope FiniteMaps ObjectPool EventPayloadStorage EventSyscallCorrelation
  EventTaskLifecycle EventUnfinishedState EventState EventSyscallOwnership EventStateContents
  EventStateFrame EventStateRuns

/-- A record of an enter's thread that carries the enter's identity. -/
def SameInvocation (tid : UInt32) (v : EnterValue) (record : TraceEventEnvelope) : Prop :=
  record.tid=tid ∧ record.sysID=v.sysID ∧ record.enterTime=v.enterTime ∧ record.args=v.args

/-- An enter value comes from records handled in a run: a generic enter of the thread gave its
data, and records of the same identity gave its sections. -/
structure Traced (ops : List Operation) (tid : UInt32) (v : EnterValue) : Prop where
  /-- A generic enter record gave the data. -/
  enter : ∃ record, Operation.handle record∈ops ∧ record.syscallView.isGenericEnter=true ∧
    SameInvocation tid v record ∧ v.pid=record.pid ∧ v.tid=record.tid ∧
    v.probeRetEnter=record.probeRetEnter
  /-- Records of the same identity gave the sections. -/
  sections : ∀ payload∈v.sections, ∃ record, Operation.handle record∈ops ∧
    SameInvocation tid v record ∧ payload∈record.payload

/-- The enter of an exit record is made up from it, or comes from the run with its identity. -/
def Justified (ops : List Operation) (exit : SyscallEventView) (v : EnterValue) : Prop :=
  v=Contents.synthesizedValue exit ∨
    Traced ops exit.tid v ∧ v.sysID=exit.sysID ∧ v.enterTime=exit.enterTime ∧ v.args=exit.args

/-- Contents that reach back no further than a run. -/
structure Cut (ops : List Operation) (a : Contents) : Prop where
  /-- Open enters come from the run. -/
  traced : ∀ tid v, a.pending tid=some v → Traced ops tid v
  /-- No exit is stored. -/
  exits : ∀ tid, a.exits tid=none
  /-- No exec arguments are kept. -/
  execArgs : a.pendingExecArgs=∅
  /-- No suspended syscall is kept. -/
  suspended : a.suspendedSyscalls=∅

theorem Traced.mono {ops more : List Operation} {tid : UInt32} {v : EnterValue}
    (h : Traced ops tid v) (hsub : ∀ op∈ops, op∈more) : Traced more tid v := by
  obtain ⟨record,hrecord,henter⟩ := h.enter
  refine ⟨⟨record,hsub _ hrecord,henter⟩,?_⟩
  intro payload hpayload
  obtain ⟨source,hsource,hfrom⟩ := h.sections payload hpayload
  exact ⟨source,hsub _ hsource,hfrom⟩

theorem Cut.mono {ops more : List Operation} {a : Contents} (h : Cut ops a)
    (hsub : ∀ op∈ops, op∈more) : Cut more a :=
  ⟨fun tid v hv => (h.traced tid v hv).mono hsub,h.exits,h.execArgs,h.suspended⟩

section Dispatch

variable {ops : List Operation} {a : Contents} {p : Policy}

/-- Replacing one open enter by one from the run. -/
theorem Cut.setPending (h : Cut ops a) {tid : UInt32} {v : Option EnterValue}
    (hv : ∀ value, v=some value → Traced ops tid value) : Cut ops (a.setPending tid v) := by
  refine ⟨?_,h.exits,h.execArgs,h.suspended⟩
  intro other value hvalue
  unfold Contents.setPending at hvalue
  dsimp only at hvalue
  by_cases heq : other=tid
  · rw [heq,Function.update_self] at hvalue
    rw [heq]
    exact hv value hvalue
  · rw [Function.update_of_ne heq] at hvalue
    exact h.traced other value hvalue

/-- Dropping a stored exit that is not there. -/
theorem Cut.setExit (h : Cut ops a) (tid : UInt32) : a.setExit tid none=a :=
  setExit_none_of_absent (h.exits tid)

theorem Cut.clearTask (h : Cut ops a) (tid : UInt32) : Cut ops (a.clearTask tid) := by
  have hpending : Cut ops (a.setPending tid none) := h.setPending (fun _ hv => nomatch hv)
  refine ⟨hpending.traced,?_,?_,?_⟩
  · intro other
    have hexits : (a.setExit tid none).exits other=none := by
      rw [h.setExit]
      exact h.exits other
    exact hexits
  · unfold Contents.clearTask
    dsimp only
    rw [h.execArgs]
    exact erase_eq_self (Finmap.lookup_empty _)
  · unfold Contents.clearTask
    dsimp only
    rw [h.suspended]
    exact erase_eq_self (Finmap.lookup_empty _)

/-- Merged sections are stored ones or new ones. -/
theorem mem_mergeSections {stored next : List PayloadSection} {payload : PayloadSection}
    (h : payload∈mergeSections stored next) : payload∈stored ∨ payload∈next := by
  unfold mergeSections at h
  induction next generalizing stored with
  | nil => exact .inl h
  | cons first rest ih =>
    rw [List.foldl_cons] at h
    rcases ih h with hstored | hrest
    · split_ifs at hstored
      · exact .inl hstored
      · rcases List.mem_append.mp hstored with hold | hnew
        · exact .inl hold
        · exact .inr (List.mem_cons.mpr (.inl (List.mem_singleton.mp hnew)))
    · exact .inr (List.mem_cons_of_mem _ hrest)

/-- A generic enter record opens an enter of its own. -/
theorem traced_opened (envelope : TraceEventEnvelope)
    (henter : envelope.syscallView.isGenericEnter=true) :
    Traced (ops ++ [.handle envelope]) envelope.tid
      (Contents.openedValue envelope.syscallView envelope.payload) := by
  have hmem : Operation.handle envelope∈ops ++ [.handle envelope] :=
    List.mem_append.mpr (.inr (List.mem_singleton_self _))
  refine ⟨⟨envelope,hmem,henter,⟨rfl,rfl,rfl,rfl⟩,rfl,rfl,rfl⟩,?_⟩
  intro payload hpayload
  exact ⟨envelope,hmem,⟨rfl,rfl,rfl,rfl⟩,hpayload⟩

/-- A partial record of the same identity extends an enter of the run. -/
theorem Traced.extend {v : EnterValue} {envelope : TraceEventEnvelope}
    (h : Traced ops envelope.tid v) (hsame : SameInvocation envelope.tid v envelope) :
    Traced (ops ++ [.handle envelope]) envelope.tid
      {v with sections := mergeSections v.sections envelope.payload} := by
  have hgrown : Traced (ops ++ [.handle envelope]) envelope.tid v :=
    h.mono fun op hop => List.mem_append.mpr (.inl hop)
  refine ⟨hgrown.enter,?_⟩
  intro payload hpayload
  rcases mem_mergeSections hpayload with hold | hnew
  · exact hgrown.sections payload hold
  · exact ⟨envelope,List.mem_append.mpr (.inr (List.mem_singleton_self _)),hsame,hnew⟩

theorem mismatches_eq_false {view : SyscallEventView} {data : SyscallEnterData}
    (h : mismatches view data=false) : data.enterTime=view.enterTime ∧ data.args=view.args := by
  unfold mismatches at h
  have hboth := not_or.mp (of_decide_eq_false h)
  exact ⟨not_ne_iff.mp hboth.1,not_ne_iff.mp hboth.2⟩

/-- After a loss a generic enter record starts over. -/
theorem Cut.handleEnter (h : Cut ops a) (htainted : p.tainted=true)
    {envelope : TraceEventEnvelope} (henter : envelope.syscallView.isGenericEnter=true) :
    Cut (ops ++ [.handle envelope])
      (EventStateContents.handleEnter p a envelope.syscallView envelope.payload).1 ∧
      (EventStateContents.handleEnter p a envelope.syscallView envelope.payload).2={} := by
  have hcleared : Cut (ops ++ [.handle envelope]) (a.clearTask envelope.tid) :=
    (h.clearTask envelope.tid).mono fun op hop => List.mem_append.mpr (.inl hop)
  have hvalue : (a.clearTask envelope.tid).enteredValue envelope.syscallView envelope.payload=
      Contents.openedValue envelope.syscallView envelope.payload := by
    have hidle : (a.clearTask envelope.tid).pending envelope.syscallView.tid=none :=
      Function.update_self ..
    unfold Contents.enteredValue
    rw [hidle]
  have hentered : Cut (ops ++ [.handle envelope])
      ((a.clearTask envelope.tid).rememberEnterEvent envelope.syscallView envelope.payload) := by
    unfold Contents.rememberEnterEvent
    rw [hvalue]
    apply hcleared.setPending
    intro value hsome
    obtain rfl := Option.some.inj hsome
    exact traced_opened envelope henter
  have hentering : entering p a envelope.syscallView=a.clearTask envelope.tid := by
    unfold entering
    rw [htainted]
    rfl
  have htaken : Contents.takenExit ((a.clearTask envelope.tid).rememberEnterEvent
      envelope.syscallView envelope.payload) envelope.syscallView=none := by
    unfold Contents.takenExit
    rw [hentered.exits]
    rfl
  unfold EventStateContents.handleEnter
  rw [hentering]
  dsimp only
  rw [htaken]
  dsimp only
  rw [hentered.setExit]
  exact ⟨hentered,rfl⟩

/-- After a loss a partial record extends only an enter of its identity. -/
theorem Cut.handleFragment (h : Cut ops a) (htainted : p.tainted=true)
    (envelope : TraceEventEnvelope) :
    Cut (ops ++ [.handle envelope])
      (EventStateContents.handleFragment p a envelope.syscallView envelope.payload) := by
  have hgrown : Cut (ops ++ [.handle envelope]) a :=
    h.mono fun op hop => List.mem_append.mpr (.inl hop)
  unfold EventStateContents.handleFragment
  split_ifs with hother
  · exact hgrown
  · apply hgrown.setPending
    intro value hsome
    obtain ⟨v,hv,hmerged⟩ := Option.map_eq_some_iff.mp hsome
    have htraced := h.traced _ v hv
    split_ifs at hmerged with hsysID
    · rw [←hmerged]
      exact hgrown.traced _ v hv
    · have hmatch : mismatches envelope.syscallView v.toSyscallEnterData=false := by
        rw [htainted,Bool.true_and,hv,Option.all_some] at hother
        exact Bool.not_eq_true _ |>.mp hother
      obtain ⟨htime,hargs⟩ := mismatches_eq_false hmatch
      rw [←hmerged]
      exact htraced.extend ⟨rfl,(not_ne_iff.mp hsysID).symm,htime.symm,hargs.symm⟩

/-- Enters matched after a loss carry the identity of the exit. -/
theorem Cut.consume (h : Cut ops a) (htainted : p.tainted=true) (view : SyscallEventView) :
    Cut ops (EventStateContents.consume p a view).1 ∧
      ∀ v, (EventStateContents.consume p a view).2=some v →
        Traced ops view.tid v ∧ v.sysID=view.sysID ∧ v.enterTime=view.enterTime ∧
          v.args=view.args := by
  have htrusted : Cut ops (trusted p a view) := by
    unfold trusted
    split_ifs
    · exact h.clearTask view.tid
    · exact h
  have hidentity : ∀ v, (trusted p a view).pending view.tid=some v →
      v.enterTime=view.enterTime ∧ v.args=view.args := by
    intro v hv
    unfold trusted at hv
    split_ifs at hv with hstale
    · unfold Contents.clearTask at hv
      dsimp only at hv
      rw [Function.update_self] at hv
      exact nomatch hv
    · rw [htainted,Bool.true_and,hv,Option.any_some] at hstale
      exact mismatches_eq_false (Bool.not_eq_true _ |>.mp hstale)
  unfold EventStateContents.consume Contents.consumeEnterEvent Contents.consumedEnter
  dsimp only
  constructor
  · split_ifs
    · exact htrusted
    · exact htrusted.setPending fun _ hv => nomatch hv
  · intro v hv
    split_ifs at hv
    obtain ⟨hpending,hsysID⟩ := Option.filter_eq_some_iff.mp hv
    exact ⟨htrusted.traced _ v hpending,beq_iff_eq.mp hsysID,hidentity v hpending⟩

theorem Cut.finish (h : Cut ops a) (view : SyscallEventView) :
    Cut ops (EventStateContents.finish p a view) := by
  unfold EventStateContents.finish
  split_ifs
  · exact h.clearTask view.tid
  · exact h

/-- After a loss an exit is reported with a justified enter or with none. -/
theorem Cut.handleExit (h : Cut ops a) (htainted : p.tainted=true) (view : SyscallEventView)
    (payload : List PayloadSection) :
    Cut ops (EventStateContents.handleExit p a view payload).1 ∧
      (EventStateContents.handleExit p a view payload).2.deferredExit=none ∧
      ∀ v, (EventStateContents.handleExit p a view payload).2.pendingEnter=some v →
        Justified ops view v := by
  obtain ⟨hconsumed,hjustified⟩ := h.consume htainted view
  unfold EventStateContents.handleExit
  revert hconsumed hjustified
  rcases EventStateContents.consume p a view with ⟨b,value⟩
  intro hconsumed hjustified
  cases value with
  | some found =>
    refine ⟨hconsumed.finish view,rfl,fun v hv => ?_⟩
    obtain rfl := Option.some.inj hv
    exact .inr (hjustified found rfl)
  | none =>
    dsimp only
    rw [htainted]
    by_cases helided : p.elided view.sysID=true
    · rw [if_pos helided]
      refine ⟨hconsumed.finish view,rfl,fun v hv => ?_⟩
      exact .inl (Option.some.inj hv).symm
    · rw [if_neg helided,if_neg (fun hdefer => nomatch hdefer.2)]
      exact ⟨hconsumed.finish view,rfl,fun v hv => nomatch hv⟩

theorem Cut.handleLifecycle (h : Cut ops a) (view : LifecycleEventView) :
    Cut ops (EventStateContents.handleLifecycle p a view).1 ∧
      (EventStateContents.handleLifecycle p a view).2={} := by
  have hforgotten : Cut ops (execForgotten p a view) := by
    unfold execForgotten
    split_ifs
    · exact ((h.clearTask _).clearTask _).clearTask _
    · exact h
  have hcleared : Cut ops (execCleared p a view) := by
    unfold execCleared
    split_ifs
    · exact hforgotten.clearTask _
    · exact hforgotten
  unfold EventStateContents.handleLifecycle
  dsimp only
  split_ifs
  · exact ⟨hcleared,rfl⟩
  · rw [hcleared.setExit,hcleared.exits]
    exact ⟨hcleared,rfl⟩
  · rw [hcleared.setExit,hcleared.exits]
    exact ⟨hcleared.clearTask _,rfl⟩

/-- After a loss every record leaves contents of the run and a justified report. -/
theorem Cut.handle (h : Cut ops a) (htainted : p.tainted=true) (envelope : TraceEventEnvelope) :
    Cut (ops ++ [.handle envelope]) (EventStateContents.handle p a envelope).1 ∧
      (EventStateContents.handle p a envelope).2.deferredExit=none ∧
      ∀ v, (EventStateContents.handle p a envelope).2.pendingEnter=some v →
        Justified ops envelope.syscallView v := by
  have hgrown : ∀ b, Cut ops b → Cut (ops ++ [.handle envelope]) b :=
    fun b hb => hb.mono fun op hop => List.mem_append.mpr (.inl hop)
  unfold EventStateContents.handle EventStateContents.handleSyscall
  split_ifs with hsignal hlifecycle henter
  · exact ⟨hgrown a h,rfl,fun v hv => nomatch hv⟩
  · obtain ⟨hcut,hreport⟩ := h.handleLifecycle (p := p) envelope.lifecycleView
    rw [hreport]
    exact ⟨hgrown _ hcut,rfl,fun v hv => nomatch hv⟩
  · obtain ⟨hcut,hreport⟩ := h.handleEnter htainted henter
    rw [hreport]
    exact ⟨hcut,rfl,fun v hv => nomatch hv⟩
  · exact ⟨h.handleFragment htainted envelope,rfl,fun v hv => nomatch hv⟩
  · exact ⟨h.handleFragment htainted envelope,rfl,fun v hv => nomatch hv⟩
  · obtain ⟨hcut,hreport⟩ := h.handleExit htainted envelope.syscallView envelope.payload
    exact ⟨hgrown _ hcut,hreport⟩

end Dispatch

section Reports

variable (tables : SyscallTables) {st : TraceState}

theorem handleSyscallEnter_report (st : TraceState) (update : TraceStateUpdate)
    (view : SyscallEventView) (payload : List PayloadSection) :
    (st.handleSyscallEnter tables update view payload).2.processInherit=update.processInherit ∧
      (st.handleSyscallEnter tables update view payload).2.unfinished=update.unfinished := by
  unfold TraceState.handleSyscallEnter
  dsimp only
  generalize (if st.tainted then
      {st with correlation := st.correlation.clearTask view.tid} else st).rememberEnterEvent
        tables view payload=next
  rcases next.correlation.takePendingExit view with ⟨correlation,taken⟩
  cases taken <;> exact ⟨rfl,rfl⟩

theorem handleSyscallExit_report (st : TraceState) (update : TraceStateUpdate)
    (view : SyscallEventView) (payload : List PayloadSection) :
    (st.handleSyscallExit tables update view payload).2.processInherit=update.processInherit ∧
      (st.handleSyscallExit tables update view payload).2.unfinished=update.unfinished := by
  unfold TraceState.handleSyscallExit
  rcases st.matchEnter tables view with ⟨next,snapshot⟩
  dsimp only
  by_cases hdefer : snapshot=none ∧ next.deferUnmatchedExits=true ∧ next.tainted=false
  · rw [if_pos hdefer]
    exact ⟨rfl,rfl⟩
  · rw [if_neg hdefer]
    exact ⟨rfl,rfl⟩

theorem handleSyscallEnvelope_report (h : Blocked st.lifecycle) (envelope : TraceEventEnvelope)
    (unfinished : List UnfinishedSyscallView) :
    (st.handleSyscallEnvelope tables envelope unfinished).2.processInherit=none ∧
      (st.handleSyscallEnvelope tables envelope unfinished).2.unfinished=unfinished := by
  unfold TraceState.handleSyscallEnvelope
  dsimp only
  rw [h.resolveForkIdentity]
  split_ifs
  · exact handleSyscallEnter_report tables _ _ _ _
  · exact ⟨rfl,rfl⟩
  · exact ⟨rfl,rfl⟩
  · exact handleSyscallExit_report tables _ _ _ _

theorem handleLifecycleEnvelope_report (h : st.tainted=true) (envelope : TraceEventEnvelope)
    (unfinished : List UnfinishedSyscallView) :
    (st.handleLifecycleEnvelope envelope unfinished).2.processInherit=none ∧
      (st.handleLifecycleEnvelope envelope unfinished).2.unfinished=unfinished := by
  have happlied : ((st.clearExecTasks envelope.lifecycleView).applyLifecycleEvent
      envelope.lifecycleView).1.tainted=true := by
    rw [((keeps_clearExecTasks st envelope.lifecycleView).trans
      (keeps_applyLifecycleEvent _ envelope.lifecycleView)).tainted]
    exact h
  unfold TraceState.handleLifecycleEnvelope
  dsimp only
  by_cases hlives : envelope.lifecycleView.action≠lifecycleExit ∧
      envelope.lifecycleView.action≠lifecycleFree
  · rw [if_pos hlives]
    exact ⟨if_pos happlied,rfl⟩
  · rw [if_neg hlives]
    exact ⟨if_pos happlied,rfl⟩

/-- After a loss no update inherits process state or offers an unfinished line. -/
theorem handleEnvelope_report (htainted : st.tainted=true) (hblocked : Blocked st.lifecycle)
    (henabled : st.unfinished.enabled=false) (envelope : TraceEventEnvelope) :
    (st.handleEnvelope tables envelope).2.processInherit=none ∧
      (st.handleEnvelope tables envelope).2.unfinished=[] := by
  unfold TraceState.handleEnvelope
  dsimp only
  rw [TraceUnfinishedState.pendingForOtherTID_disabled _ tables _ _ henabled]
  split_ifs
  · exact ⟨rfl,rfl⟩
  · exact handleLifecycleEnvelope_report htainted envelope []
  · exact handleSyscallEnvelope_report tables hblocked envelope []

end Reports

/-- What is gone after a loss. -/
structure Barrier (st : TraceState) : Prop where
  /-- No fork waits for its child. -/
  pendingForks : st.lifecycle.pendingForks=∅
  /-- No exit is stored. -/
  pendingExits : st.correlation.pendingExits.index=∅
  /-- No exec arguments are kept. -/
  pendingExecArgs : st.correlation.pendingExecArgs=∅
  /-- No suspended syscall is kept. -/
  suspendedSyscalls : st.correlation.suspendedSyscalls=∅

/-- The state after a loss and the calls since. -/
structure Severed (sys : System) (ops : List Operation) (a : Contents) : Prop where
  /-- Cells have one holder and the state remembers `a`. -/
  remembers : Remembers sys a
  /-- Nothing remembered is older than the loss. -/
  cut : Cut ops a
  /-- The loss is known. -/
  tainted : sys.st.tainted=true
  /-- No unfinished line is offered. -/
  enabled : sys.st.unfinished.enabled=false
  /-- No fork is inferred. -/
  blocked : Blocked sys.st.lifecycle

section Runs

variable {tables : SyscallTables} {sys : System} {ops : List Operation} {a : Contents}

theorem Severed.barrier (h : Severed sys ops a) : Barrier sys.st := by
  obtain ⟨hargs,hsuspended⟩ := h.remembers.texts
  refine ⟨h.blocked.pendingForks,?_,hargs ▸ h.cut.execArgs,hsuspended ▸ h.cut.suspended⟩
  apply Finmap.ext_lookup
  intro tid
  have hexit := h.remembers.exits_eq tid
  rw [h.cut.exits] at hexit
  rw [Finmap.lookup_empty]
  exact Table.lookup_eq_none.mp (Option.map_eq_none_iff.mp hexit.symm)

theorem taintTasks_blocked (order : List UInt32) {st : TraceTaskLifecycleState} (h : Blocked st) :
    Blocked (st.taintTasks order) := by
  unfold TraceTaskLifecycleState.taintTasks
  induction order generalizing st with
  | nil => exact h
  | cons tid order ih =>
    rw [List.foldl_cons]
    apply ih
    split
    · exact h
    · exact h.setTask _ _

/-- A loss cuts the history. -/
theorem severed_taint (h : Remembers sys a) {order : TraceState.TaintOrder}
    (horder : Admissible sys (.taint order)) :
    Severed (apply tables sys (.taint order)) [] ⟨fun _ => none,fun _ => none,∅,∅⟩ where
  remembers := h.apply (.taint order) horder
  cut := ⟨(fun _ _ hv => nomatch hv),(fun _ => rfl),rfl,rfl⟩
  tainted := rfl
  enabled := rfl
  blocked := taintTasks_blocked _ ⟨rfl,rfl⟩

/-- A record keeps the history cut, and its update reports nothing older than the loss. -/
theorem Severed.handle (h : Severed sys ops a) (envelope : TraceEventEnvelope) :
    Severed (apply tables sys (.handle envelope)) (ops ++ [.handle envelope])
      (EventStateContents.handle (policy tables sys.st) a envelope).1 := by
  have hkept := keeps_handleEnvelope tables sys.st envelope
  exact ⟨(h.remembers.handle envelope).1,(h.cut.handle h.tainted envelope).1,
    hkept.tainted.trans h.tainted,hkept.enabled.trans h.enabled,hkept.blocked h.blocked⟩

/-- Every call but another loss keeps the history cut. -/
theorem Severed.apply (h : Severed sys ops a) {op : Operation} (hop : op.isTaint=false) :
    Severed (EventStateRuns.apply tables sys op) (ops ++ [op]) (applyContents tables sys a op) := by
  have hgrown : Cut (ops ++ [op]) a := h.cut.mono fun _ hmem => List.mem_append.mpr (.inl hmem)
  have hadmissible : Admissible sys op := by
    cases op with
    | taint order => exact nomatch hop
    | _ => trivial
  have hremembers : Remembers (EventStateRuns.apply tables sys op)
      (applyContents tables sys a op) := h.remembers.apply op hadmissible
  cases op with
  | handle envelope => exact h.handle envelope
  | taint order => exact nomatch hop
  | release index =>
    have hkept : Keeps sys.st (releaseAt sys index).st := by
      unfold releaseAt
      split
      · exact .refl _
      · exact keeps_releaseTraceStateUpdate _ _
    exact ⟨hremembers,hgrown,hkept.tainted.trans h.tainted,hkept.enabled.trans h.enabled,
      hkept.blocked h.blocked⟩
  | rememberPendingExecArgs tid argLine =>
    have hsame : sys.st.rememberPendingExecArgs tid argLine=sys.st := if_pos h.tainted
    have hcontents : applyContents tables sys a (.rememberPendingExecArgs tid argLine)=a :=
      if_pos h.tainted
    change Severed {sys with st := sys.st.rememberPendingExecArgs tid argLine} _ _
    rw [hcontents,hsame]
    exact ⟨h.remembers,hgrown,h.tainted,h.enabled,h.blocked⟩
  | rememberSuspendedSyscall tid name =>
    have hsame : sys.st.rememberSuspendedSyscall tid name=sys.st := if_pos h.tainted
    have hcontents : applyContents tables sys a (.rememberSuspendedSyscall tid name)=a :=
      if_pos h.tainted
    change Severed {sys with st := sys.st.rememberSuspendedSyscall tid name} _ _
    rw [hcontents,hsame]
    exact ⟨h.remembers,hgrown,h.tainted,h.enabled,h.blocked⟩
  | takePendingExecArgs tid =>
    refine ⟨hremembers,⟨hgrown.traced,hgrown.exits,?_,hgrown.suspended⟩,h.tainted,h.enabled,
      h.blocked⟩
    unfold applyContents
    dsimp only
    rw [hgrown.execArgs]
    exact erase_eq_self (Finmap.lookup_empty _)
  | consumeSuspendedSyscall tid =>
    refine ⟨hremembers,⟨hgrown.traced,hgrown.exits,hgrown.execArgs,?_⟩,h.tainted,h.enabled,
      h.blocked⟩
    unfold applyContents
    dsimp only
    rw [hgrown.suspended]
    exact erase_eq_self (Finmap.lookup_empty _)
  | markUnfinishedPrinted tid =>
    refine ⟨hremembers,hgrown.setPending ?_,h.tainted,
      (TraceUnfinishedState.deleteCandidate_enabled _ _).trans h.enabled,h.blocked⟩
    intro value hsome
    obtain ⟨v,hv,rfl⟩ := Option.map_eq_some_iff.mp hsome
    have htraced := hgrown.traced tid v hv
    exact ⟨htraced.enter,htraced.sections⟩
  | requeueUnfinished tid =>
    exact ⟨hremembers,hgrown,h.tainted,
      (TraceUnfinishedState.requeue_enabled _ _ _ _).trans h.enabled,h.blocked⟩

theorem Severed.run (h : Severed sys ops a) {more : List Operation}
    (hmore : ∀ op∈more, op.isTaint=false) :
    ∃ b, Severed (EventStateRuns.run tables sys more) (ops ++ more) b := by
  induction more generalizing sys ops a with
  | nil =>
    rw [List.append_nil]
    exact ⟨a,h⟩
  | cons op more ih =>
    have hstep : Severed (EventStateRuns.apply tables sys op) _ _ :=
      h.apply (hmore op List.mem_cons_self)
    have hrest := ih hstep fun other hmem => hmore other (List.mem_cons_of_mem _ hmem)
    rw [List.append_assoc,List.singleton_append] at hrest
    exact hrest

/-- After a loss and any calls since, every record's update reports only enters opened since the
loss with the identity of the exit, or made up from it, and what the loss removed stays gone. -/
theorem no_correlation_across_loss (tables : SyscallTables) (config : SessionConfig)
    (before since : List Operation) (order : TraceState.TaintOrder)
    (hrun : AdmissibleRun tables {st := newTraceStateForSession config}
      (before ++ .taint order::since))
    (hlast : ∀ op∈since, op.isTaint=false) (envelope : TraceEventEnvelope) :
    let sys := run tables {st := newTraceStateForSession config} (before ++ .taint order::since)
    let result := sys.st.handleEnvelope tables envelope
    (∀ ref, result.2.pendingEnter=some ref →
      Justified since envelope.syscallView (snapshotAt result.1.correlation ref)) ∧
    (∀ deferredExit ref, result.2.deferredExit=some deferredExit →
      deferredExit.pendingEnter=some ref →
        Justified since deferredExit.syscallView (snapshotAt result.1.correlation ref)) ∧
    result.2.processInherit=none ∧ result.2.unfinished=[] ∧
    Barrier sys.st ∧ Barrier result.1 := by
  obtain ⟨hbefore,htaint,-⟩ := admissibleRun_append.mp hrun
  obtain ⟨a,ha⟩ := (remembers_new config).run hbefore
  obtain ⟨b,hsevered⟩ := (severed_taint ha htaint).run hlast
  have hsystem : run tables (apply tables (run tables {st := newTraceStateForSession config} before)
      (.taint order)) since=
      run tables {st := newTraceStateForSession config} (before ++ .taint order::since) :=
    (run_append _ before (.taint order::since)).symm
  rw [hsystem,List.nil_append] at hsevered
  intro sys result
  obtain ⟨-,houtcome⟩ : _ ∧ outcome (snapshotAt result.1.correlation) result.2=_ :=
    hsevered.remembers.handle envelope
  obtain ⟨-,hdeferred,hjustified⟩ := hsevered.cut.handle
    (p := policy tables sys.st) hsevered.tainted envelope
  obtain ⟨hinherit,hunfinished⟩ := handleEnvelope_report tables hsevered.tainted hsevered.blocked
    hsevered.enabled envelope
  rw [←houtcome] at hdeferred hjustified
  refine ⟨?_,?_,hinherit,hunfinished,hsevered.barrier,(hsevered.handle envelope).barrier⟩
  · intro ref href
    apply hjustified
    exact congrArg (Option.map _) href
  · intro deferredExit ref hexit _
    have hnone : (some deferredExit).map (fun d => (⟨d.syscallView,d.pendingEnter.map
        (snapshotAt result.1.correlation)⟩ : DeferredValue))=none := hexit ▸ hdeferred
    exact nomatch hnone

/-- A read of thread 7 recorded completely after a loss. -/
def readAfterLoss (eventType : EventType) (eventFlags : UInt32) : TraceEventEnvelope where
  eventType := eventType
  eventFlags := eventFlags
  pid := 7
  tid := 7
  enterTime := 100

/-- Lookups of a session that traces only reads. -/
def readTables : SyscallTables where
  name := fun _ => "read"
  isPlainGenericEnterExitRoute := fun _ => false
  isStandaloneExitElisionRoute := fun _ => false

theorem no_correlation_across_loss_read :
    ((run readTables {st := newTraceStateForSession {}}
      [.taint ⟨[],[],[]⟩,.handle (readAfterLoss .enter bpfEventFlagGenericEnter)]).st.handleEnvelope
        readTables (readAfterLoss .exit 0)).2.pendingEnter=some 0 ∧
    Justified [.handle (readAfterLoss .enter bpfEventFlagGenericEnter)]
      (readAfterLoss .exit 0).syscallView
      (snapshotAt ((run readTables {st := newTraceStateForSession {}}
        [.taint ⟨[],[],[]⟩,.handle
          (readAfterLoss .enter bpfEventFlagGenericEnter)]).st.handleEnvelope
          readTables (readAfterLoss .exit 0)).1.correlation 0) := by
  have hpending : ((run readTables {st := newTraceStateForSession {}}
      [.taint ⟨[],[],[]⟩,.handle (readAfterLoss .enter bpfEventFlagGenericEnter)]).st.handleEnvelope
        readTables (readAfterLoss .exit 0)).2.pendingEnter=some 0 := by decide +kernel
  refine ⟨hpending,?_⟩
  have hrun : AdmissibleRun readTables {st := newTraceStateForSession {}}
      ([] ++ .taint ⟨[],[],[]⟩::[.handle (readAfterLoss .enter bpfEventFlagGenericEnter)]) := by
    have hempty : ∀ V : Type, Enumerates [] (∅ : GoMap UInt32 V) :=
      fun V => ⟨List.nodup_nil,fun k =>
        ⟨fun h => absurd h List.not_mem_nil,fun h => absurd h Finmap.notMem_empty⟩⟩
    exact ⟨⟨hempty _,hempty _,hempty _⟩,trivial,trivial⟩
  exact (no_correlation_across_loss readTables {} [] _ ⟨[],[],[]⟩ hrun
    (by decide) (readAfterLoss .exit 0)).1 0 hpending

end Runs

end StraceGo.EventStateLossBarrier

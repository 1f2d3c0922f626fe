import StraceGo.EventStateRuns

/-!
# Threads do not interfere

The contents of a thread change only with its own records, and what a record
reports depends only on the contents of its thread. So the reports of a thread
are those of its own records alone, whatever the interleaving. On complete
syscalls each exit is then reported with the data of its own first enter and
with the sections of all of its records.
-/

namespace StraceGo.EventStateInterleaving

open EventEnvelope FiniteMaps ObjectPool EventPayloadStorage EventSyscallCorrelation
  EventTaskLifecycle EventUnfinishedState EventState EventSyscallOwnership EventStateContents
  EventStateFrame EventStateRuns

/-- Two contents hold the same for a thread. -/
def Agree (tid : UInt32) (a b : Contents) : Prop :=
  a.pending tid=b.pending tid ∧ a.exits tid=b.exits tid

/-- Stored exits are under their own thread. -/
def Keyed (a : Contents) : Prop := ∀ tid e, a.exits tid=some e → e.view.tid=tid

section Locality

variable {tid other : UInt32} {a b c : Contents} {p : Policy} {view : SyscallEventView}
  {payload : List PayloadSection}

theorem Agree.refl (tid : UInt32) (a : Contents) : Agree tid a a := ⟨rfl,rfl⟩

theorem Agree.trans (h : Agree tid a b) (h' : Agree tid b c) : Agree tid a c :=
  ⟨h.1.trans h'.1,h.2.trans h'.2⟩

theorem Agree.setPending (h : Agree tid a b) (other : UInt32) (v : Option EnterValue) :
    Agree tid (a.setPending other v) (b.setPending other v) := by
  refine ⟨?_,h.2⟩
  unfold Contents.setPending
  dsimp only
  by_cases heq : tid=other
  · rw [heq,Function.update_self,Function.update_self]
  · rw [Function.update_of_ne heq,Function.update_of_ne heq]
    exact h.1

theorem Agree.setExit (h : Agree tid a b) (other : UInt32) (v : Option ExitValue) :
    Agree tid (a.setExit other v) (b.setExit other v) := by
  refine ⟨h.1,?_⟩
  unfold Contents.setExit
  dsimp only
  by_cases heq : tid=other
  · rw [heq,Function.update_self,Function.update_self]
  · rw [Function.update_of_ne heq,Function.update_of_ne heq]
    exact h.2

theorem Agree.clearTask (h : Agree tid a b) (other : UInt32) :
    Agree tid (a.clearTask other) (b.clearTask other) :=
  ⟨((h.setPending other none).1 :),((h.setExit other none).2 :)⟩

theorem agree_setPending_ne (hne : tid≠other) (v : Option EnterValue) :
    Agree tid (a.setPending other v) a :=
  ⟨Function.update_of_ne hne _ _,rfl⟩

theorem agree_setExit_ne (hne : tid≠other) (v : Option ExitValue) :
    Agree tid (a.setExit other v) a :=
  ⟨rfl,Function.update_of_ne hne _ _⟩

theorem agree_clearTask_ne (hne : tid≠other) : Agree tid (a.clearTask other) a :=
  ⟨Function.update_of_ne hne _ _,Function.update_of_ne hne _ _⟩

theorem Keyed.setExit (h : Keyed a) (tid : UInt32) (v : Option ExitValue)
    (hv : ∀ e, v=some e → e.view.tid=tid) : Keyed (a.setExit tid v) := by
  intro other e he
  unfold Contents.setExit at he
  dsimp only at he
  by_cases heq : other=tid
  · rw [heq,Function.update_self] at he
    rw [heq]
    exact hv e he
  · rw [Function.update_of_ne heq] at he
    exact h other e he

theorem Keyed.clearTask (h : Keyed a) (tid : UInt32) : Keyed (a.clearTask tid) :=
  h.setExit tid none fun _ hv => nomatch hv

theorem Agree.trusted (h : Agree view.tid a b) :
    Agree view.tid (trusted p a view) (trusted p b view) := by
  unfold EventStateContents.trusted
  rw [h.1]
  split_ifs
  · exact h.clearTask _
  · exact h

theorem Agree.consume (h : Agree view.tid a b) :
    Agree view.tid (consume p a view).1 (consume p b view).1 ∧
      (consume p a view).2=(consume p b view).2 := by
  have htrusted := h.trusted (p := p)
  unfold EventStateContents.consume Contents.consumeEnterEvent Contents.consumedEnter
  dsimp only
  rw [htrusted.1]
  refine ⟨?_,rfl⟩
  split_ifs
  · exact htrusted
  · exact htrusted.setPending _ _

theorem Agree.finish (h : Agree view.tid a b) :
    Agree view.tid (finish p a view) (finish p b view) := by
  unfold EventStateContents.finish
  split_ifs
  · exact h.clearTask _
  · exact h

theorem Agree.attach {e : ExitValue} (h : Agree e.view.tid a b) :
    Agree e.view.tid (attach p a e).1 (attach p b e).1 ∧ (attach p a e).2=(attach p b e).2 := by
  obtain ⟨hconsumed,hvalue⟩ := h.consume (p := p)
  unfold EventStateContents.attach
  revert hconsumed hvalue
  rcases EventStateContents.consume p a e.view with ⟨left,value⟩
  rcases EventStateContents.consume p b e.view with ⟨right,value'⟩
  intro hconsumed hvalue
  obtain rfl : value=value' := hvalue
  cases value with
  | none => exact ⟨hconsumed,rfl⟩
  | some v => exact ⟨hconsumed.finish,rfl⟩

theorem Agree.rememberEnterEvent (h : Agree view.tid a b) (payload : List PayloadSection) :
    Agree view.tid (a.rememberEnterEvent view payload) (b.rememberEnterEvent view payload) := by
  unfold Contents.rememberEnterEvent Contents.enteredValue
  rw [h.1]
  exact h.setPending _ _

/-- What a generic enter leaves and reports is a matter of its thread. -/
theorem Agree.handleEnter (h : Agree view.tid a b) (ha : Keyed a) :
    Agree view.tid (handleEnter p a view payload).1 (handleEnter p b view payload).1 ∧
      (handleEnter p a view payload).2=(handleEnter p b view payload).2 := by
  have hentering : Agree view.tid (entering p a view) (entering p b view) := by
    unfold entering
    split_ifs
    · exact h.clearTask _
    · exact h
  have hkeyed : Keyed ((entering p a view).rememberEnterEvent view payload) := by
    unfold entering
    split_ifs
    · exact ha.clearTask _
    · exact ha
  have hentered := hentering.rememberEnterEvent payload
  unfold EventStateContents.handleEnter Contents.takenExit
  dsimp only
  revert hentered hkeyed
  generalize (entering p a view).rememberEnterEvent view payload=left
  generalize (entering p b view).rememberEnterEvent view payload=right
  intro hkeyed hentered
  rw [←hentered.2]
  cases htaken : (left.exits view.tid).filter fun e =>
      e.view.sysID==view.sysID && e.view.enterTime==view.enterTime with
  | none => exact ⟨hentered.setExit _ _,rfl⟩
  | some e =>
    have htid : e.view.tid=view.tid := hkeyed _ e (Option.filter_eq_some_iff.mp htaken).1
    have hexits : Agree e.view.tid (left.setExit view.tid none) (right.setExit view.tid none) := by
      rw [htid]
      exact hentered.setExit _ _
    obtain ⟨hattached,hvalue⟩ := hexits.attach (p := p)
    dsimp only
    rw [hvalue]
    rw [htid] at hattached
    exact ⟨hattached,rfl⟩

theorem Agree.handleFragment (h : Agree view.tid a b) :
    Agree view.tid (handleFragment p a view payload) (handleFragment p b view payload) := by
  unfold EventStateContents.handleFragment Contents.rememberPayloadFragment
  rw [h.1]
  split_ifs
  · exact h
  · exact h.setPending _ _

/-- What an exit leaves and reports is a matter of its thread. -/
theorem Agree.handleExit (h : Agree view.tid a b) :
    Agree view.tid (handleExit p a view payload).1 (handleExit p b view payload).1 ∧
      (handleExit p a view payload).2=(handleExit p b view payload).2 := by
  obtain ⟨hconsumed,hvalue⟩ := h.consume (p := p)
  unfold EventStateContents.handleExit
  revert hconsumed hvalue
  rcases EventStateContents.consume p a view with ⟨left,value⟩
  rcases EventStateContents.consume p b view with ⟨right,value'⟩
  intro hconsumed hvalue
  obtain rfl : value=value' := hvalue
  cases value with
  | some v => exact ⟨hconsumed.finish,rfl⟩
  | none =>
    dsimp only
    split_ifs
    · exact ⟨hconsumed.finish,rfl⟩
    · exact ⟨hconsumed.setExit _ _,rfl⟩
    · exact ⟨hconsumed.finish,rfl⟩

theorem agree_trusted_ne (hne : tid≠view.tid) : Agree tid (trusted p a view) a := by
  unfold EventStateContents.trusted
  split_ifs
  · exact agree_clearTask_ne hne
  · exact .refl tid a

theorem agree_consume_ne (hne : tid≠view.tid) : Agree tid (consume p a view).1 a := by
  unfold EventStateContents.consume Contents.consumeEnterEvent
  dsimp only
  split_ifs
  · exact agree_trusted_ne hne
  · exact (agree_setPending_ne hne none).trans (agree_trusted_ne hne)

theorem agree_finish_ne (hne : tid≠view.tid) : Agree tid (finish p a view) a := by
  unfold EventStateContents.finish
  split_ifs
  · exact agree_clearTask_ne hne
  · exact .refl tid a

theorem agree_attach_ne {e : ExitValue} (hne : tid≠e.view.tid) :
    Agree tid (attach p a e).1 a := by
  have hconsumed : Agree tid (consume p a e.view).1 a := agree_consume_ne hne
  unfold EventStateContents.attach
  revert hconsumed
  rcases EventStateContents.consume p a e.view with ⟨b,value⟩
  intro hconsumed
  cases value with
  | none => exact hconsumed
  | some v => exact (agree_finish_ne hne).trans hconsumed

/-- A generic enter leaves every other thread alone. -/
theorem agree_handleEnter_ne (ha : Keyed a) (hne : tid≠view.tid) :
    Agree tid (handleEnter p a view payload).1 a := by
  have hentering : Agree tid (entering p a view) a ∧ Keyed (entering p a view) := by
    unfold entering
    split_ifs
    · exact ⟨agree_clearTask_ne hne,ha.clearTask _⟩
    · exact ⟨.refl tid a,ha⟩
  have hentered : Agree tid ((entering p a view).rememberEnterEvent view payload) a :=
    (agree_setPending_ne hne _).trans hentering.1
  have hkeyed : Keyed ((entering p a view).rememberEnterEvent view payload) := hentering.2
  unfold EventStateContents.handleEnter
  dsimp only
  revert hentered hkeyed
  generalize (entering p a view).rememberEnterEvent view payload=b
  intro hentered hkeyed
  cases htaken : b.takenExit view with
  | none => exact (agree_setExit_ne hne none).trans hentered
  | some e =>
    have htid : e.view.tid=view.tid := hkeyed _ e (Option.filter_eq_some_iff.mp htaken).1
    exact ((agree_attach_ne (htid ▸ hne)).trans (agree_setExit_ne hne none)).trans hentered

theorem agree_handleFragment_ne (hne : tid≠view.tid) :
    Agree tid (handleFragment p a view payload) a := by
  unfold EventStateContents.handleFragment
  split_ifs
  · exact .refl tid a
  · exact agree_setPending_ne hne _

/-- An exit leaves every other thread alone. -/
theorem agree_handleExit_ne (hne : tid≠view.tid) :
    Agree tid (handleExit p a view payload).1 a := by
  have hconsumed : Agree tid (consume p a view).1 a := agree_consume_ne hne
  unfold EventStateContents.handleExit
  revert hconsumed
  rcases EventStateContents.consume p a view with ⟨b,value⟩
  intro hconsumed
  cases value with
  | some v => exact (agree_finish_ne hne).trans hconsumed
  | none =>
    dsimp only
    split_ifs
    · exact (agree_finish_ne hne).trans hconsumed
    · exact (agree_setExit_ne hne _).trans hconsumed
    · exact (agree_finish_ne hne).trans hconsumed

theorem Keyed.consume (h : Keyed a) (view : SyscallEventView) : Keyed (consume p a view).1 := by
  have htrusted : Keyed (trusted p a view) := by
    unfold EventStateContents.trusted
    split_ifs
    · exact h.clearTask _
    · exact h
  unfold EventStateContents.consume Contents.consumeEnterEvent
  dsimp only
  split_ifs
  · exact htrusted
  · exact htrusted

theorem Keyed.finish (h : Keyed a) : Keyed (finish p a view) := by
  unfold EventStateContents.finish
  split_ifs
  · exact h.clearTask _
  · exact h

theorem Keyed.attach (h : Keyed a) (e : ExitValue) : Keyed (attach p a e).1 := by
  have hconsumed := h.consume (p := p) e.view
  unfold EventStateContents.attach
  revert hconsumed
  rcases EventStateContents.consume p a e.view with ⟨b,value⟩
  intro hconsumed
  cases value with
  | none => exact hconsumed
  | some v => exact hconsumed.finish

theorem Keyed.handleEnter (h : Keyed a) : Keyed (handleEnter p a view payload).1 := by
  have hentered : Keyed ((entering p a view).rememberEnterEvent view payload) := by
    unfold entering
    split_ifs
    · exact h.clearTask _
    · exact h
  have htaken := hentered.setExit view.tid none fun _ hv => nomatch hv
  unfold EventStateContents.handleEnter
  dsimp only
  split
  · exact htaken
  · exact htaken.attach _

theorem Keyed.handleFragment (h : Keyed a) : Keyed (handleFragment p a view payload) := by
  unfold EventStateContents.handleFragment
  split_ifs
  · exact h
  · exact h

theorem Keyed.handleExit (h : Keyed a) : Keyed (handleExit p a view payload).1 := by
  have hconsumed := h.consume (p := p) view
  unfold EventStateContents.handleExit
  revert hconsumed
  rcases EventStateContents.consume p a view with ⟨b,value⟩
  intro hconsumed
  cases value with
  | some v => exact hconsumed.finish
  | none =>
    dsimp only
    split_ifs
    · exact hconsumed.finish
    · exact hconsumed.setExit view.tid _ fun e he => Option.some.inj he ▸ rfl
    · exact hconsumed.finish

end Locality

/-- A record of a syscall edge. -/
def isSyscallRecord (record : TraceEventEnvelope) : Bool := !record.isSignal && !record.isLifecycle

/-- A generic enter record. -/
def isGenericEnterRecord (record : TraceEventEnvelope) : Bool :=
  isSyscallRecord record && record.syscallView.isGenericEnter

/-- A syscall record that is neither a generic enter nor a fragment. -/
def isEdgeRecord (record : TraceEventEnvelope) : Bool :=
  isSyscallRecord record && !record.syscallView.isGenericEnter &&
    !record.syscallView.isEnterFragment && !record.syscallView.isExitFragment

/-- A lifecycle record that ends its thread. -/
def endsThread (record : TraceEventEnvelope) : Bool :=
  !record.isSignal && record.isLifecycle && (record.lifecycleAction==lifecycleExit ||
    record.lifecycleAction==lifecycleFree)

/-- A syscall record of a thread. -/
def own (tid : UInt32) (record : TraceEventEnvelope) : Bool :=
  record.tid==tid && isSyscallRecord record

/-- Threads a lifecycle record names. -/
def named (record : TraceEventEnvelope) : List UInt32 :=
  if record.isLifecycle then [record.tid,record.args[0].toUInt32,record.args[1].toUInt32] else []

section Records

variable {tid : UInt32} {a b : Contents} {p : Policy} {record : TraceEventEnvelope}

theorem endsThread_of_isSyscallRecord (h : isSyscallRecord record=true) :
    endsThread record=false := by
  unfold isSyscallRecord at h
  unfold endsThread
  revert h
  cases record.isSignal <;> cases record.isLifecycle <;> simp

theorem handle_of_isSyscallRecord (h : isSyscallRecord record=true) :
    handle p a record=handleSyscall p a record := by
  have hboth := Bool.and_eq_true _ _ |>.mp h
  unfold handle
  rw [Bool.not_eq_true' _ |>.mp hboth.1,Bool.not_eq_true' _ |>.mp hboth.2]
  rfl

/-- The five ways of the dispatch. -/
theorem handle_cases (p : Policy) (a : Contents) (record : TraceEventEnvelope) :
    record.isSignal=true ∧ handle p a record=(a,{}) ∨
      record.isSignal=false ∧ record.isLifecycle=true ∧
        handle p a record=handleLifecycle p a record.lifecycleView ∨
      isGenericEnterRecord record=true ∧
        handle p a record=handleEnter p a record.syscallView record.payload ∨
      isSyscallRecord record=true ∧ isGenericEnterRecord record=false ∧
        isEdgeRecord record=false ∧
        handle p a record=(handleFragment p a record.syscallView record.payload,{}) ∨
      isEdgeRecord record=true ∧
        handle p a record=handleExit p a record.syscallView record.payload := by
  unfold isEdgeRecord isGenericEnterRecord isSyscallRecord handle handleSyscall
  cases record.isSignal <;> cases record.isLifecycle <;>
    cases record.syscallView.isGenericEnter <;> cases record.syscallView.isEnterFragment <;>
    cases record.syscallView.isExitFragment <;> simp

theorem handle_of_isEdgeRecord (h : isEdgeRecord record=true) :
    handle p a record=handleExit p a record.syscallView record.payload := by
  unfold isEdgeRecord at h
  simp only [Bool.and_eq_true,Bool.not_eq_true'] at h
  obtain ⟨⟨⟨hsyscall,hgeneric⟩,henter⟩,hexit⟩ := h
  rw [handle_of_isSyscallRecord hsyscall]
  unfold handleSyscall
  rw [hgeneric,henter,hexit,if_neg Bool.false_ne_true,if_neg Bool.false_ne_true,
    if_neg Bool.false_ne_true]

/-- What a thread's record leaves and reports is a matter of its thread. -/
theorem Agree.handle (h : Agree tid a b) (ha : Keyed a) (hown : own tid record=true) :
    Agree tid (handle p a record).1 (handle p b record).1 ∧
      (handle p a record).2=(handle p b record).2 := by
  obtain ⟨htid,hsyscall⟩ := Bool.and_eq_true _ _ |>.mp hown
  obtain rfl : record.tid=tid := beq_iff_eq.mp htid
  rw [handle_of_isSyscallRecord hsyscall,handle_of_isSyscallRecord hsyscall]
  unfold handleSyscall
  split_ifs
  · exact Agree.handleEnter h ha
  · exact ⟨Agree.handleFragment h,rfl⟩
  · exact ⟨Agree.handleFragment h,rfl⟩
  · exact Agree.handleExit h

theorem agree_execForgotten_ne {view : LifecycleEventView}
    (htid : tid≠view.tid) (hold : tid≠view.args[0].toUInt32) (hnew : tid≠view.args[1].toUInt32) :
    Agree tid (execForgotten p a view) a := by
  unfold execForgotten
  split_ifs
  · exact ((agree_clearTask_ne hnew).trans (agree_clearTask_ne hold)).trans
      (agree_clearTask_ne htid)
  · exact .refl tid a

/-- A lifecycle record leaves the threads it does not name alone. -/
theorem agree_handleLifecycle_ne {view : LifecycleEventView}
    (htid : tid≠view.tid) (hold : tid≠view.args[0].toUInt32) (hnew : tid≠view.args[1].toUInt32) :
    Agree tid (handleLifecycle p a view).1 a := by
  have hsurvivor : tid≠TraceState.execTID view := by
    unfold TraceState.execTID
    split_ifs
    · exact htid
    · exact hnew
  have hcleared : Agree tid (execCleared p a view) a := by
    unfold execCleared
    split_ifs
    · exact (agree_clearTask_ne hsurvivor).trans (agree_execForgotten_ne htid hold hnew)
    · exact agree_execForgotten_ne htid hold hnew
  unfold handleLifecycle
  dsimp only
  split_ifs
  · exact hcleared
  · exact (agree_setExit_ne htid none).trans hcleared
  · exact ((agree_clearTask_ne htid).trans (agree_setExit_ne htid none)).trans hcleared

theorem Keyed.handleLifecycle (h : Keyed a) (view : LifecycleEventView) :
    Keyed (handleLifecycle p a view).1 := by
  have hforgotten : Keyed (execForgotten p a view) := by
    unfold execForgotten
    split_ifs
    · exact ((h.clearTask _).clearTask _).clearTask _
    · exact h
  have hcleared : Keyed (execCleared p a view) := by
    unfold execCleared
    split_ifs
    · exact hforgotten.clearTask _
    · exact hforgotten
  have htaken := hcleared.setExit view.tid none fun _ hv => nomatch hv
  unfold EventStateContents.handleLifecycle
  dsimp only
  split_ifs
  · exact hcleared
  · exact htaken
  · exact htaken.clearTask _

theorem Keyed.handle (h : Keyed a) (record : TraceEventEnvelope) :
    Keyed (handle p a record).1 := by
  unfold EventStateContents.handle handleSyscall
  split_ifs
  · exact h
  · exact h.handleLifecycle _
  · exact h.handleEnter
  · exact h.handleFragment
  · exact h.handleFragment
  · exact h.handleExit

/-- A record that is not of a thread's syscalls and does not name it leaves it alone. -/
theorem agree_handle_of_not_own (ha : Keyed a) (hown : own tid record=false)
    (hnamed : tid∉named record) : Agree tid (handle p a record).1 a := by
  unfold EventStateContents.handle handleSyscall
  have hne : record.isSignal=false → record.isLifecycle=false → tid≠record.tid := by
    intro hsignal hlifecycle heq
    unfold own isSyscallRecord at hown
    rw [heq,hsignal,hlifecycle,beq_self_eq_true] at hown
    exact nomatch hown
  split_ifs with hsignal hlifecycle
  · exact .refl tid a
  · unfold named at hnamed
    rw [if_pos hlifecycle] at hnamed
    simp only [List.mem_cons,List.not_mem_nil,or_false,not_or] at hnamed
    exact agree_handleLifecycle_ne hnamed.1 hnamed.2.1 hnamed.2.2
  all_goals
    have hother := hne (Bool.not_eq_true _ |>.mp hsignal) (Bool.not_eq_true _ |>.mp hlifecycle)
  · exact agree_handleEnter_ne ha hother
  · exact agree_handleFragment_ne hother
  · exact agree_handleFragment_ne hother
  · exact agree_handleExit_ne hother

end Records

/-- What the router sees of one record's correlation. -/
structure Report where
  /-- The matching enter. -/
  pendingEnter : Option EnterValue
  /-- The record's own sections. -/
  payloadSections : List PayloadSection
  /-- Whether the exit was stored. -/
  deferred : Bool
  deriving DecidableEq

/-- Handle a record and release its update. -/
def process (tables : SyscallTables) (st : TraceState) (record : TraceEventEnvelope) :
    TraceState×Report :=
  let (next,update) := st.handleEnvelope tables record
  (next.releaseTraceStateUpdate update,
    {pendingEnter := update.pendingEnter.map (snapshotAt next.correlation)
     payloadSections := update.payloadSections
     deferred := update.deferred})

/-- Reports of a thread's syscall records. -/
def results (tables : SyscallTables) (tid : UInt32) :
    TraceState → List TraceEventEnvelope → List Report
  | _,[] => []
  | st,record::rest =>
    let (next,report) := process tables st record
    (if own tid record then [report] else []) ++ results tables tid next rest

/-- Reports of a thread's syscall records, by the dispatch on contents. -/
def contentsResults (p : Policy) (tid : UInt32) :
    Contents → List TraceEventEnvelope → List Report
  | _,[] => []
  | a,record::rest =>
    (if own tid record then
      [⟨(handle p a record).2.pendingEnter,record.payload,(handle p a record).2.deferred⟩]
    else []) ++ contentsResults p tid (handle p a record).1 rest

section Results

variable {tables : SyscallTables} {tid : UInt32} {a b : Contents} {p : Policy}

theorem handleSyscallExit_payload (st : TraceState) (update : TraceStateUpdate)
    (view : SyscallEventView) (payload : List PayloadSection) :
    (st.handleSyscallExit tables update view payload).2.payloadSections=payload := by
  unfold TraceState.handleSyscallExit
  rcases st.matchEnter tables view with ⟨next,snapshot⟩
  dsimp only
  by_cases hdefer : snapshot=none ∧ next.deferUnmatchedExits=true ∧ next.tainted=false
  · rw [if_pos hdefer]
  · rw [if_neg hdefer]

theorem handleSyscallEnvelope_payload (st : TraceState) (record : TraceEventEnvelope)
    (unfinished : List UnfinishedSyscallView) :
    (st.handleSyscallEnvelope tables record unfinished).2.payloadSections=record.payload := by
  unfold TraceState.handleSyscallEnvelope
  dsimp only
  split_ifs
  · unfold TraceState.handleSyscallEnter
    dsimp only
    split <;> rfl
  · rfl
  · rfl
  · exact handleSyscallExit_payload _ _ _ _

/-- A syscall record's update carries the record's own sections. -/
theorem handleEnvelope_payload (st : TraceState) {record : TraceEventEnvelope}
    (h : isSyscallRecord record=true) :
    (st.handleEnvelope tables record).2.payloadSections=record.payload := by
  have hboth := Bool.and_eq_true _ _ |>.mp h
  unfold TraceState.handleEnvelope
  rw [Bool.not_eq_true' _ |>.mp hboth.1,Bool.not_eq_true' _ |>.mp hboth.2]
  exact handleSyscallEnvelope_payload _ record _

/-- A record on the way of exits is a syscall of its update. -/
theorem handleEnvelope_edge (tables : SyscallTables) (st : TraceState)
    {record : TraceEventEnvelope} (h : isEdgeRecord record=true) :
    (st.handleEnvelope tables record).2.kind=.syscallExit ∧
      (st.handleEnvelope tables record).2.syscallView=some record.syscallView := by
  unfold isEdgeRecord isSyscallRecord at h
  simp only [Bool.and_eq_true,Bool.not_eq_true'] at h
  obtain ⟨⟨⟨⟨hsignal,hlifecycle⟩,hgeneric⟩,henter⟩,hexit⟩ := h
  unfold TraceState.handleEnvelope TraceState.handleSyscallEnvelope
  dsimp only
  rw [hsignal,hlifecycle,hgeneric,henter,hexit]
  simp only [Bool.false_eq_true,if_false]
  unfold TraceState.handleSyscallExit
  dsimp only
  split_ifs <;> exact ⟨rfl,rfl⟩

/-- Processing a record follows the dispatch on contents, and reports a syscall as it does. -/
theorem process_represents (tables : SyscallTables) {st : TraceState} {live loose : Multiset Ref}
    {out : Ref → EnterValue}
    (h : Represents st.correlation live loose out a) (record : TraceEventEnvelope) :
    ∃ values, Represents (process tables st record).1.correlation live loose values
        (handle (policy tables st) a record).1 ∧
      policy tables (process tables st record).1=policy tables st ∧
      (isSyscallRecord record=true → (process tables st record).2=
        ⟨(handle (policy tables st) a record).2.pendingEnter,record.payload,
          (handle (policy tables st) a record).2.deferred⟩) := by
  obtain ⟨values,hhandled,houtcome⟩ := handleEnvelope_represents tables h record
  have hkept := (keeps_handleEnvelope tables st record).trans
    (keeps_releaseTraceStateUpdate _ (st.handleEnvelope tables record).2)
  have hreport := (outcome_snapshotAt hhandled).trans houtcome
  refine ⟨values,releaseTraceStateUpdate_represents hhandled,hkept.policy tables,fun hsyscall => ?_⟩
  rw [←hreport,←handleEnvelope_payload st hsyscall]
  rfl

/-- With every update released at once, the state reports what the contents say. -/
theorem results_eq {st : TraceState} {live loose : Multiset Ref} {out : Ref → EnterValue}
    (h : Represents st.correlation live loose out a) (tid : UInt32)
    (inputs : List TraceEventEnvelope) :
    results tables tid st inputs=contentsResults (policy tables st) tid a inputs := by
  induction inputs generalizing st a out with
  | nil => rfl
  | cons record rest ih =>
    obtain ⟨values,hprocessed,hpolicy,hreport⟩ := process_represents tables h record
    have hrest := ih hprocessed
    rw [hpolicy] at hrest
    unfold results contentsResults
    dsimp only
    rw [hrest]
    congr 1
    split_ifs with hown
    · rw [hreport (Bool.and_eq_true _ _ |>.mp hown).2]
    · rfl

theorem contentsResults_cons (record : TraceEventEnvelope) (rest : List TraceEventEnvelope) :
    contentsResults p tid a (record::rest)=
      (if own tid record then
        [⟨(handle p a record).2.pendingEnter,record.payload,(handle p a record).2.deferred⟩]
      else []) ++ contentsResults p tid (handle p a record).1 rest := rfl

/-- Without records of its own a thread has no reports. -/
theorem contentsResults_of_not_own {inputs : List TraceEventEnvelope}
    (h : ∀ record∈inputs, own tid record=false) : contentsResults p tid a inputs=[] := by
  induction inputs generalizing a with
  | nil => rfl
  | cons record rest ih =>
    rw [contentsResults_cons,h record List.mem_cons_self,
      ih fun other hmem => h other (List.mem_cons_of_mem _ hmem)]
    rfl

/-- The reports of a thread are those of its own records alone. -/
theorem contentsResults_filter (ha : Keyed a) (hb : Keyed b) (h : Agree tid a b)
    {inputs : List TraceEventEnvelope} (hnamed : ∀ record∈inputs, tid∉named record) :
    contentsResults p tid a inputs=contentsResults p tid b (inputs.filter (own tid)) := by
  induction inputs generalizing a b with
  | nil => rfl
  | cons record rest ih =>
    have hrest : ∀ record∈rest, tid∉named record :=
      fun record hmem => hnamed record (List.mem_cons_of_mem _ hmem)
    rw [List.filter_cons]
    by_cases hown : own tid record=true
    · obtain ⟨hagree,hreport⟩ := h.handle (p := p) ha hown
      rw [if_pos hown,contentsResults_cons,contentsResults_cons,if_pos hown,if_pos hown,hreport,
        ih (ha.handle record) (hb.handle record) hagree hrest]
    · have hother := agree_handle_of_not_own (p := p) ha (Bool.not_eq_true _ |>.mp hown)
        (hnamed record List.mem_cons_self)
      rw [if_neg hown,contentsResults_cons,if_neg hown,List.nil_append]
      exact ih (ha.handle record) hb (hother.trans h) hrest

end Results

/-- A complete syscall of a thread: a generic enter, partial or repeated enter records, an exit. -/
structure SyscallInvocation (tid : UInt32) where
  /-- First generic enter. -/
  enter : TraceEventEnvelope
  /-- Repeated generic enters and partial records. -/
  middle : List TraceEventEnvelope
  /-- Exit. -/
  exit : TraceEventEnvelope
  /-- The first record is a generic enter. -/
  enter_generic : enter.syscallView.isGenericEnter=true
  /-- The records between are generic enters or partial. -/
  middle_partial : ∀ record∈middle, record.syscallView.isGenericEnter=true ∨
    record.syscallView.isEnterFragment=true ∨ record.syscallView.isExitFragment=true
  /-- The last record is a complete exit. -/
  exit_complete : exit.syscallView.isExit=true ∧ exit.syscallView.isExitFragment=false
  /-- All records are of one thread and one syscall. -/
  same : ∀ record∈enter::(middle ++ [exit]), record.tid=tid ∧ record.sysID=enter.sysID

namespace SyscallInvocation

variable {tid : UInt32} (call : SyscallInvocation tid)

/-- Records of the syscall in order of arrival. -/
def records : List TraceEventEnvelope := call.enter::(call.middle ++ [call.exit])

/-- Sections of the syscall's enter and partial records, merged in order of arrival. -/
def sections : List PayloadSection :=
  call.middle.foldl (fun stored record => mergeSections stored record.payload) call.enter.payload

/-- Whether one of the syscall's enters carries the printed marker. -/
def printed : Bool :=
  (call.enter::call.middle).any fun record =>
    record.syscallView.isGenericEnter && decide (2 ≤ record.probeRetEnter)

/-- The enter its exit is reported with: data of the first enter, sections of all records. -/
def snapshot : EnterValue where
  pid := call.enter.pid
  tid := call.enter.tid
  sysID := call.enter.sysID
  enterTime := call.enter.enterTime
  args := call.enter.args
  probeRetEnter := call.enter.probeRetEnter
  genericEnterRaw := true
  unfinishedPrinted := call.printed
  sections := call.sections

/-- Reports of the syscall's records: only the exit has an enter, and none is deferred. -/
def reports : List Report :=
  (call.enter::call.middle).map (fun record => ⟨none,record.payload,false⟩) ++
    [⟨some call.snapshot,call.exit.payload,false⟩]

end SyscallInvocation

theorem isSyscallRecord_of_enter {record : TraceEventEnvelope} (h : record.eventType=.enter) :
    isSyscallRecord record=true := by
  unfold isSyscallRecord TraceEventEnvelope.isSignal TraceEventEnvelope.isLifecycle
  rw [h]
  rfl

theorem isSyscallRecord_of_exit {record : TraceEventEnvelope} (h : record.eventType=.exit) :
    isSyscallRecord record=true := by
  unfold isSyscallRecord TraceEventEnvelope.isSignal TraceEventEnvelope.isLifecycle
  rw [h]
  rfl

section Views

variable {record : TraceEventEnvelope}

theorem eventType_of_isGenericEnter (h : record.syscallView.isGenericEnter=true) :
    record.eventType=.enter :=
  beq_iff_eq.mp (Bool.and_eq_true _ _ |>.mp h).1

theorem eventType_of_isEnterFragment (h : record.syscallView.isEnterFragment=true) :
    record.eventType=.enter :=
  beq_iff_eq.mp (Bool.and_eq_true _ _ |>.mp h).1

theorem eventType_of_isExit (h : record.syscallView.isExit=true) : record.eventType=.exit :=
  beq_iff_eq.mp h

theorem eventType_of_isExitFragment (h : record.syscallView.isExitFragment=true) :
    record.eventType=.exit :=
  eventType_of_isExit (Bool.and_eq_true _ _ |>.mp h).1

/-- An exit record is no enter record of any kind. -/
theorem not_enter_of_isExit (h : record.syscallView.isExit=true) :
    record.syscallView.isGenericEnter=false ∧ record.syscallView.isEnterFragment=false := by
  have htype : record.syscallView.eventType=.exit := eventType_of_isExit h
  unfold SyscallEventView.isGenericEnter SyscallEventView.isEnterFragment
  rw [htype]
  exact ⟨rfl,rfl⟩

end Views

/-- Open enter of a thread after another record of its syscall. -/
def absorb (v : EnterValue) (record : TraceEventEnvelope) : EnterValue :=
  if record.syscallView.isGenericEnter then
    Contents.mergedValue v record.syscallView record.payload
  else {v with sections := mergeSections v.sections record.payload}

section Thread

variable {tid : UInt32} {a : Contents} {p : Policy} {record : TraceEventEnvelope} {v : EnterValue}

/-- Without a stored exit, a generic enter only opens or extends the enter. -/
theorem handle_generic (htainted : p.tainted=false) (htid : record.tid=tid)
    (hgeneric : record.syscallView.isGenericEnter=true) (hexits : a.exits tid=none) :
    (handle p a record).1.pending tid=
        some (a.enteredValue record.syscallView record.payload) ∧
      (handle p a record).1.exits tid=none ∧ (handle p a record).2={} := by
  subst htid
  have hentering : entering p a record.syscallView=a := by
    unfold entering
    rw [htainted]
    rfl
  have htaken : (a.rememberEnterEvent record.syscallView record.payload).takenExit
      record.syscallView=none := by
    have hnone : (a.rememberEnterEvent record.syscallView record.payload).exits
        record.syscallView.tid=none := hexits
    unfold Contents.takenExit
    rw [hnone]
    rfl
  rw [handle_of_isSyscallRecord (isSyscallRecord_of_enter (eventType_of_isGenericEnter hgeneric))]
  unfold handleSyscall handleEnter
  rw [if_pos hgeneric,hentering]
  dsimp only
  rw [htaken]
  exact ⟨Function.update_self ..,Function.update_self ..,rfl⟩

/-- A partial record of the open syscall extends its sections. -/
theorem handle_fragment (htainted : p.tainted=false) (htid : record.tid=tid)
    (hgeneric : record.syscallView.isGenericEnter=false)
    (hfragment : record.syscallView.isEnterFragment=true ∨ record.syscallView.isExitFragment=true)
    (hpending : a.pending tid=some v) (hsysID : v.sysID=record.sysID)
    (hexits : a.exits tid=none) :
    (handle p a record).1.pending tid=
        some {v with sections := mergeSections v.sections record.payload} ∧
      (handle p a record).1.exits tid=none ∧ (handle p a record).2={} := by
  subst htid
  have hsyscall : isSyscallRecord record=true := by
    rcases hfragment with henter | hexit
    · exact isSyscallRecord_of_enter (eventType_of_isEnterFragment henter)
    · exact isSyscallRecord_of_exit (eventType_of_isExitFragment hexit)
  have hhandled : handle p a record=
      (a.rememberPayloadFragment record.syscallView record.payload,{}) := by
    rw [handle_of_isSyscallRecord hsyscall]
    unfold handleSyscall handleFragment
    rw [if_neg (Bool.not_eq_true _ |>.mpr hgeneric),htainted,Bool.false_and,
      if_neg Bool.false_ne_true]
    rcases hfragment with henter | hexit
    · rw [if_pos henter]
    · rw [if_pos hexit,ite_self]
  have hsame : ¬v.sysID≠record.syscallView.sysID := not_ne_iff.mpr hsysID
  have hmerged : (a.rememberPayloadFragment record.syscallView record.payload).pending record.tid=
      some {v with sections := mergeSections v.sections record.payload} := by
    have hat : a.pending record.syscallView.tid=some v := hpending
    unfold Contents.rememberPayloadFragment
    rw [hat,Option.map_some,if_neg hsame]
    exact Function.update_self ..
  rw [hhandled]
  exact ⟨hmerged,hexits,rfl⟩

/-- Any record between the enter and the exit is absorbed. -/
theorem handle_middle (htainted : p.tainted=false) (htid : record.tid=tid)
    (hmiddle : record.syscallView.isGenericEnter=true ∨
      record.syscallView.isEnterFragment=true ∨ record.syscallView.isExitFragment=true)
    (hpending : a.pending tid=some v) (hsysID : v.sysID=record.sysID)
    (hexits : a.exits tid=none) :
    (handle p a record).1.pending tid=some (absorb v record) ∧
      (handle p a record).1.exits tid=none ∧ (handle p a record).2={} := by
  unfold absorb
  by_cases hgeneric : record.syscallView.isGenericEnter=true
  · have hat : a.pending record.syscallView.tid=some v := by
      rw [←htid] at hpending
      exact hpending
    have hentered : a.enteredValue record.syscallView record.payload=
        Contents.mergedValue v record.syscallView record.payload := by
      unfold Contents.enteredValue
      rw [hat]
      exact if_pos hsysID
    rw [if_pos hgeneric,←hentered]
    exact handle_generic htainted htid hgeneric hexits
  · rw [if_neg hgeneric]
    exact handle_fragment htainted htid (Bool.not_eq_true _ |>.mp hgeneric)
      (hmiddle.resolve_left hgeneric) hpending hsysID hexits

/-- The exit of the open syscall takes its enter. -/
theorem handle_exit (htainted : p.tainted=false) (htid : record.tid=tid)
    (hexit : record.syscallView.isExit=true) (hcomplete : record.syscallView.isExitFragment=false)
    (hpending : a.pending tid=some v) (hsysID : v.sysID=record.sysID)
    (hexits : a.exits tid=none) :
    (handle p a record).1.pending tid=none ∧ (handle p a record).1.exits tid=none ∧
      (handle p a record).2={pendingEnter := some v} := by
  subst htid
  obtain ⟨hgeneric,hfragment⟩ := not_enter_of_isExit hexit
  have htrusted : trusted p a record.syscallView=a := by
    unfold trusted
    rw [htainted]
    rfl
  have hconsumed : consume p a record.syscallView=
      (a.setPending record.tid none,some v) := by
    have hat : a.pending record.syscallView.tid=some v := hpending
    have hsame : (v.sysID==record.syscallView.sysID)=true := beq_iff_eq.mpr hsysID
    unfold consume Contents.consumeEnterEvent Contents.consumedEnter
    rw [htrusted,hexit,hat,Option.filter_some,hsame]
    rfl
  have hhandled : handle p a record=
      (finish p (a.setPending record.tid none) record.syscallView,{pendingEnter := some v}) := by
    rw [handle_of_isSyscallRecord (isSyscallRecord_of_exit (eventType_of_isExit hexit))]
    unfold handleSyscall handleExit
    rw [hgeneric,hfragment,hcomplete,hconsumed]
    rfl
  have hidle : (a.setPending record.tid none).pending record.tid=none ∧
      (a.setPending record.tid none).exits record.tid=none :=
    ⟨Function.update_self ..,hexits⟩
  rw [hhandled]
  unfold finish
  dsimp only
  split_ifs
  · exact ⟨Function.update_self ..,Function.update_self ..,rfl⟩
  · exact ⟨hidle.1,hidle.2,rfl⟩

end Thread

section Invocations

variable {tid : UInt32} {a : Contents} {p : Policy}

theorem absorb_sysID (v : EnterValue) (record : TraceEventEnvelope) :
    (absorb v record).sysID=v.sysID := by
  unfold absorb
  split_ifs <;> rfl

/-- Absorbing records keeps the data of the first enter and merges the sections. -/
theorem foldl_absorb (middle : List TraceEventEnvelope) {v : EnterValue}
    (hgeneric : v.genericEnterRaw=true) :
    middle.foldl absorb v=
      {v with
        unfinishedPrinted := v.unfinishedPrinted || middle.any fun record =>
          record.syscallView.isGenericEnter && decide (2 ≤ record.probeRetEnter)
        sections := middle.foldl (fun stored record => mergeSections stored record.payload)
          v.sections} := by
  induction middle generalizing v with
  | nil =>
    rw [List.foldl_nil,List.any_nil,Bool.or_false,List.foldl_nil]
  | cons record rest ih =>
    have habsorbed : (absorb v record).genericEnterRaw=true := by
      unfold absorb
      split_ifs
      · change (v.genericEnterRaw || _)=true
        rw [hgeneric,Bool.true_or]
      · exact hgeneric
    rw [List.foldl_cons,ih habsorbed,List.foldl_cons,List.any_cons,←Bool.or_assoc]
    unfold absorb
    cases henter : record.syscallView.isGenericEnter with
    | true =>
      have hraw : (v.genericEnterRaw || record.syscallView.isGenericEnter)=v.genericEnterRaw := by
        rw [hgeneric,Bool.true_or]
      unfold Contents.mergedValue TraceSyscallCorrelationState.mergedEnterData
      rw [if_pos rfl,hraw]
      rfl
    | false =>
      rw [if_neg Bool.false_ne_true,Bool.false_and,Bool.or_false]

theorem own_of_tid {record : TraceEventEnvelope} (htid : record.tid=tid)
    (hsyscall : isSyscallRecord record=true) : own tid record=true := by
  unfold own
  rw [htid,hsyscall,beq_self_eq_true]
  rfl

theorem isSyscallRecord_of_middle {record : TraceEventEnvelope}
    (h : record.syscallView.isGenericEnter=true ∨ record.syscallView.isEnterFragment=true ∨
      record.syscallView.isExitFragment=true) : isSyscallRecord record=true := by
  rcases h with hgeneric | hfragment | hexit
  · exact isSyscallRecord_of_enter (eventType_of_isGenericEnter hgeneric)
  · exact isSyscallRecord_of_enter (eventType_of_isEnterFragment hfragment)
  · exact isSyscallRecord_of_exit (eventType_of_isExitFragment hexit)

/-- The records between report nothing and are absorbed one by one. -/
theorem contentsResults_middle (htainted : p.tainted=false) {middle : List TraceEventEnvelope}
    {v : EnterValue} (hpending : a.pending tid=some v) (hexits : a.exits tid=none)
    (hmiddle : ∀ record∈middle, record.tid=tid ∧ record.sysID=v.sysID ∧
      (record.syscallView.isGenericEnter=true ∨ record.syscallView.isEnterFragment=true ∨
        record.syscallView.isExitFragment=true)) (rest : List TraceEventEnvelope) :
    ∃ b : Contents, b.pending tid=some (middle.foldl absorb v) ∧ b.exits tid=none ∧
      contentsResults p tid a (middle ++ rest)=
        middle.map (fun record => ⟨none,record.payload,false⟩) ++
          contentsResults p tid b rest := by
  induction middle generalizing a v with
  | nil => exact ⟨a,hpending,hexits,rfl⟩
  | cons record middle ih =>
    obtain ⟨htid,hsysID,hrecord⟩ := hmiddle record List.mem_cons_self
    obtain ⟨hnext,hnone,hreport⟩ :=
      handle_middle htainted htid hrecord hpending hsysID.symm hexits
    have hrest : ∀ other∈middle, other.tid=tid ∧ other.sysID=(absorb v record).sysID ∧
        (other.syscallView.isGenericEnter=true ∨ other.syscallView.isEnterFragment=true ∨
          other.syscallView.isExitFragment=true) := by
      intro other hmem
      rw [absorb_sysID]
      exact hmiddle other (List.mem_cons_of_mem _ hmem)
    obtain ⟨b,hb,hbexits,hresults⟩ := ih hnext hnone hrest
    refine ⟨b,hb,hbexits,?_⟩
    have hown := own_of_tid htid (isSyscallRecord_of_middle hrecord)
    rw [List.cons_append,contentsResults_cons,if_pos hown,hreport,hresults]
    rfl

/-- A complete syscall reports its own enter and leaves its thread idle. -/
theorem contentsResults_invocation (htainted : p.tainted=false) (call : SyscallInvocation tid)
    (hpending : a.pending tid=none) (hexits : a.exits tid=none)
    (rest : List TraceEventEnvelope) :
    ∃ b : Contents, b.pending tid=none ∧ b.exits tid=none ∧
      contentsResults p tid a (call.records ++ rest)=
        call.reports ++ contentsResults p tid b rest := by
  have hmem : ∀ record∈call.middle, record∈call.enter::(call.middle ++ [call.exit]) :=
    fun record h => List.mem_cons_of_mem _ (List.mem_append.mpr (.inl h))
  have hlast : call.exit∈call.enter::(call.middle ++ [call.exit]) :=
    List.mem_cons_of_mem _ (List.mem_append.mpr (.inr (List.mem_singleton_self _)))
  have htid := (call.same call.enter List.mem_cons_self).1
  obtain ⟨hopened,hnone,hreport⟩ := handle_generic htainted htid call.enter_generic hexits
  have hvalue : a.enteredValue call.enter.syscallView call.enter.payload=
      Contents.openedValue call.enter.syscallView call.enter.payload := by
    have hidle : a.pending call.enter.syscallView.tid=none := by
      rw [←htid] at hpending
      exact hpending
    unfold Contents.enteredValue
    rw [hidle]
  rw [hvalue] at hopened
  obtain ⟨b,hb,hbexits,hmiddle⟩ := contentsResults_middle htainted hopened hnone
    (fun record h => ⟨(call.same record (hmem record h)).1,(call.same record (hmem record h)).2,
      call.middle_partial record h⟩) (call.exit::rest)
  have hsysID : (call.middle.foldl absorb
      (Contents.openedValue call.enter.syscallView call.enter.payload)).sysID=call.exit.sysID := by
    rw [foldl_absorb _ call.enter_generic,(call.same call.exit hlast).2]
    rfl
  obtain ⟨hclosed,hcnone,hfinal⟩ := handle_exit htainted (call.same call.exit hlast).1
    call.exit_complete.1 call.exit_complete.2 hb hsysID hbexits
  have hsnapshot : call.middle.foldl absorb
      (Contents.openedValue call.enter.syscallView call.enter.payload)=call.snapshot := by
    have hraw : (Contents.openedValue call.enter.syscallView
        call.enter.payload).genericEnterRaw=true := call.enter_generic
    unfold SyscallInvocation.snapshot SyscallInvocation.printed
    rw [foldl_absorb _ hraw,hraw,List.any_cons,call.enter_generic,Bool.true_and]
    rfl
  have hownEnter := own_of_tid htid
    (isSyscallRecord_of_enter (eventType_of_isGenericEnter call.enter_generic))
  have hownExit := own_of_tid (call.same call.exit hlast).1
    (isSyscallRecord_of_exit (eventType_of_isExit call.exit_complete.1))
  refine ⟨(handle p b call.exit).1,hclosed,hcnone,?_⟩
  unfold SyscallInvocation.records SyscallInvocation.reports
  rw [List.cons_append,List.append_assoc,List.singleton_append,contentsResults_cons,
    if_pos hownEnter,hreport,hmiddle,contentsResults_cons,if_pos hownExit,hfinal,hsnapshot,
    List.map_cons,List.append_assoc]
  rfl

/-- A stream of complete syscalls reports each exit with its own enter. -/
theorem contentsResults_stream (htainted : p.tainted=false) (stream : List (SyscallInvocation tid))
    (hpending : a.pending tid=none) (hexits : a.exits tid=none) :
    contentsResults p tid a (stream.flatMap (·.records))=stream.flatMap (·.reports) := by
  induction stream generalizing a with
  | nil => rfl
  | cons call stream ih =>
    rw [List.flatMap_cons,List.flatMap_cons]
    obtain ⟨b,hb,hbexits,hresults⟩ := contentsResults_invocation htainted call hpending hexits
      (stream.flatMap (·.records))
    rw [hresults,ih hb hbexits]

end Invocations

/-- Stored exits stay under their own thread along every run. -/
theorem keyed_run {tables : SyscallTables} {sys : System} {a : Contents} (h : Remembers sys a)
    (ha : Keyed a) {ops : List Operation} (hops : AdmissibleRun tables sys ops) :
    ∃ b, Remembers (run tables sys ops) b ∧ Keyed b := by
  induction ops generalizing sys a with
  | nil => exact ⟨a,h,ha⟩
  | cons op ops ih =>
    refine ih (h.apply op hops.1) ?_ hops.2
    cases op with
    | handle envelope => exact ha.handle envelope
    | taint order => exact fun _ _ he => nomatch he
    | rememberPendingExecArgs tid argLine =>
      unfold applyContents
      split_ifs
      · exact ha
      · exact ha
    | rememberSuspendedSyscall tid name =>
      unfold applyContents
      split_ifs
      · exact ha
      · exact ha
    | _ => exact ha

/-- Over any interleaving of complete syscalls every exit is reported with the data of its own
first enter and the merged sections of its own records, no exit is deferred, and a thread's
reports are the same as without the records of the other threads. -/
theorem interleaved_syscalls_correlate (tables : SyscallTables) (config : SessionConfig)
    (ops : List Operation)
    (hops : AdmissibleRun tables {st := newTraceStateForSession config} ops)
    (streams : (tid : UInt32) → List (SyscallInvocation tid)) (inputs : List TraceEventEnvelope)
    (hinterleaved : ∀ tid, inputs.filter (own tid)=(streams tid).flatMap (·.records))
    (hlifecycle : ∀ record∈inputs, ∀ tid∈named record, streams tid=[])
    (huntainted : (run tables {st := newTraceStateForSession config} ops).st.tainted=false)
    (hidle : ∀ tid, streams tid≠[] →
      (run tables {st := newTraceStateForSession config}
        ops).st.correlation.pendingSyscalls.lookup tid=none ∧
      (run tables {st := newTraceStateForSession config}
        ops).st.correlation.pendingExits.lookup tid=none) (tid : UInt32) :
    let st := (run tables {st := newTraceStateForSession config} ops).st
    results tables tid st inputs=(streams tid).flatMap (·.reports) ∧
      results tables tid st inputs=
        results tables tid st (inputs.filter fun record => record.tid==tid) := by
  obtain ⟨a,ha,hkeyed⟩ := keyed_run (remembers_new config) (fun _ _ he => nomatch he) hops
  intro st
  have hreports : ∀ list : List TraceEventEnvelope, (∀ record∈list, record∈inputs) →
      list.filter (own tid)=inputs.filter (own tid) →
      results tables tid st list=(streams tid).flatMap (·.reports) := by
    intro list hsub hown
    rw [results_eq ha]
    by_cases hempty : streams tid=[]
    · have hnone : ∀ record∈list, own tid record=false := by
        intro record hmem
        have hfilter : list.filter (own tid)=[] := by
          rw [hown,hinterleaved,hempty]
          rfl
        exact Bool.not_eq_true _ |>.mp (List.filter_eq_nil_iff.mp hfilter record hmem)
      rw [hempty,contentsResults_of_not_own hnone]
      rfl
    · have hnamed : ∀ record∈list, tid∉named record :=
        fun record hmem hin => hempty (hlifecycle record (hsub record hmem) tid hin)
      obtain ⟨hpending,hexits⟩ := hidle tid hempty
      rw [contentsResults_filter hkeyed hkeyed (.refl tid a) hnamed,hown,hinterleaved]
      apply contentsResults_stream huntainted
      · rw [ha.pending_eq,hpending]
        rfl
      · rw [ha.exits_eq,hexits]
        rfl
  have hfilter : (inputs.filter fun record => record.tid==tid).filter (own tid)=
      inputs.filter (own tid) := by
    rw [List.filter_filter]
    congr 1
    funext record
    unfold own
    rw [Bool.and_right_comm,Bool.and_self]
  refine ⟨hreports inputs (fun _ hmem => hmem) rfl,?_⟩
  rw [hreports inputs (fun _ hmem => hmem) rfl,
    hreports _ (fun _ hmem => (List.mem_filter.mp hmem).1) hfilter]

/-- A record of a sample write, stamped by its own handler. -/
def writeRecord (tid : UInt32) (eventType : EventType) (eventFlags : UInt32) (enterTime : UInt64)
    (payload : List PayloadSection) : TraceEventEnvelope where
  eventType := eventType
  eventFlags := eventFlags
  pid := 7
  tid := tid
  sysID := 1
  enterTime := enterTime
  payload := payload

/-- The buffer of a sample write. -/
def writeSection (userPtr : UInt64) : PayloadSection where
  kind := .bytes
  direction := .input
  argIndex := 1
  userPtr := userPtr
  userLen := 1
  copiedLen := 1
  probeRet := 0
  data := [65]

theorem isGenericEnter_writeRecord (tid : UInt32) (enterTime : UInt64)
    (payload : List PayloadSection) : (writeRecord tid .enter bpfEventFlagGenericEnter enterTime
      payload).syscallView.isGenericEnter=true := by
  change (EventType.enter==.enter &&
    bpfEventFlagGenericEnter &&& bpfEventFlagGenericEnter != 0)=true
  decide

theorem own_writeRecord (tid other : UInt32) {eventType : EventType} (eventFlags : UInt32)
    (enterTime : UInt64) (payload : List PayloadSection)
    (h : eventType=.enter ∨ eventType=.exit) :
    own tid (writeRecord other eventType eventFlags enterTime payload)=(other==tid) := by
  rcases h with rfl | rfl <;> exact Bool.and_true _

/-- A write whose buffer arrives with a second, later stamped enter. -/
def writeCall (tid : UInt32) : SyscallInvocation tid where
  enter := writeRecord tid .enter bpfEventFlagGenericEnter 100 []
  middle := [writeRecord tid .enter bpfEventFlagGenericEnter 120 [writeSection 4096]]
  exit := writeRecord tid .exit 0 100 []
  enter_generic := isGenericEnter_writeRecord ..
  middle_partial := fun record hmem => by
    rw [List.mem_singleton.mp hmem]
    exact .inl (isGenericEnter_writeRecord ..)
  exit_complete := by
    refine ⟨rfl,?_⟩
    change (EventType.exit==.exit && (0 : UInt32) &&& bpfEventFlagExitFragment != 0)=false
    decide
  same := fun record hmem => by
    simp only [List.mem_cons,List.singleton_append,List.not_mem_nil,or_false] at hmem
    rcases hmem with rfl | rfl | rfl <;> exact ⟨rfl,rfl⟩

theorem interleaved_syscalls_correlate_writes :
    let tables : SyscallTables := ⟨fun _ => "write",fun _ => false,fun _ => false⟩
    let inputs :=
      [writeRecord 7 .enter bpfEventFlagGenericEnter 100 [],
        writeRecord 9 .enter bpfEventFlagGenericEnter 100 [],
        writeRecord 9 .enter bpfEventFlagGenericEnter 120 [writeSection 4096],
        writeRecord 7 .enter bpfEventFlagGenericEnter 120 [writeSection 4096],
        writeRecord 9 .exit 0 100 [],writeRecord 7 .exit 0 100 []]
    let st := newTraceStateForSession {}
    results tables 7 st inputs=(writeCall 7).reports ∧
      results tables 7 st inputs=
        results tables 7 st (inputs.filter fun record => record.tid==7) := by
  intro tables inputs st
  have hinterleaved : ∀ tid, inputs.filter (own tid)=
      (if tid=7 ∨ tid=9 then [writeCall tid] else []).flatMap (·.records) := by
    intro tid
    by_cases h7 : tid=7
    · subst h7
      simp [inputs,own_writeRecord,writeCall,SyscallInvocation.records]
    · by_cases h9 : tid=9
      · subst h9
        simp [inputs,own_writeRecord,writeCall,SyscallInvocation.records]
      · simp [inputs,own_writeRecord,h7,h9,Ne.symm h7,Ne.symm h9]
  have hlifecycle : ∀ record∈inputs, ∀ tid∈named record,
      (if tid=7 ∨ tid=9 then [writeCall tid] else [])=[] := by
    intro record hmem tid htid
    have hnone : named record=[] := by
      simp only [inputs,List.mem_cons,List.not_mem_nil,or_false] at hmem
      rcases hmem with rfl | rfl | rfl | rfl | rfl | rfl <;> rfl
    rw [hnone] at htid
    exact absurd htid List.not_mem_nil
  have hcorrelated := interleaved_syscalls_correlate tables {} [] trivial
    (fun tid => if tid=7 ∨ tid=9 then [writeCall tid] else []) inputs hinterleaved hlifecycle rfl
    (fun _ _ => ⟨rfl,rfl⟩) 7
  rw [if_pos (.inl rfl),List.flatMap_cons,List.flatMap_nil,List.append_nil] at hcorrelated
  exact hcorrelated

end StraceGo.EventStateInterleaving

import StraceGo.EventStateInterleaving

/-!
# Elided plain enters are invisible to exits

For some syscalls the producer leaves the generic enter out, and the session
makes it up from the exit record. A run with all records and a run without the
elided enters step together: a kept record is taken by both, an elided enter by
the first alone. Between two exits of a thread the first run may hold an elided
enter where the second still holds an abandoned one, which no exit ever matches.

An enter of the same syscall as the open one is merged into it, so an enter
that is never answered spoils the next one of its syscall. The stretches below
keep the enters of every thread since its last exit, to rule that out.
-/

namespace StraceGo.EventStateElision

open EventEnvelope FiniteMaps ObjectPool EventPayloadStorage EventSyscallCorrelation
  EventTaskLifecycle EventUnfinishedState EventState EventSyscallOwnership EventStateContents
  EventStateFrame EventStateRuns EventStateInterleaving

/-- Capture policy of one syscall; slot zero is the generic handler. -/
structure BpfRouteCapability where
  /-- Enter program. -/
  enterSlot : UInt32
  /-- Exit program. -/
  exitSlot : UInt32
  /-- Whether the exit record stands without its enter. -/
  standaloneExitElision : Bool

/-- The syscall table with the capture policies by name. -/
structure RouteTable where
  /-- Numbers and names of the table, in increasing order of the numbers. -/
  syscalls : List (UInt32×String)
  /-- Capture policies. -/
  capabilities : String → Option BpfRouteCapability

namespace RouteTable

variable (table : RouteTable)

/-- Name of a number in the table. -/
def lookup (sysID : UInt32) : Option String := table.syscalls.lookup sysID

/-- Whether the generic program owns the enter side. -/
def isGenericEnterRoute (sysID : UInt32) : Bool :=
  match table.lookup sysID with
  | none => true
  | some name => (table.capabilities name).all fun capability => capability.enterSlot==0

/-- Whether the generic programs own both sides; unknown numbers count as such. -/
def isPlainGenericEnterExitRoute (sysID : UInt32) : Bool :=
  match table.lookup sysID with
  | none => true
  | some name => (table.capabilities name).all fun capability =>
      capability.enterSlot==0 && capability.exitSlot==0

/-- Whether a direct exit carries all of its syscall. -/
def isStandaloneExitElisionRoute (sysID : UInt32) : Bool :=
  match table.lookup sysID with
  | none => false
  | some name => table.isGenericEnterRoute sysID &&
      (table.capabilities name).any fun capability =>
        capability.exitSlot != 0 && capability.standaloneExitElision

/-- The predicates the session state asks. -/
def tables (name : UInt32 → String) : SyscallTables where
  name := name
  isPlainGenericEnterExitRoute := table.isPlainGenericEnterExitRoute
  isStandaloneExitElisionRoute := table.isStandaloneExitElisionRoute

end RouteTable

/-- Numbers whose plain enter the producer leaves out: the known ones only. -/
def plainEnterElisionIDs (table : RouteTable) (name : UInt32 → String) (nonBlockingOnly : Bool) :
    List UInt32 :=
  (table.syscalls.map Prod.fst).filter fun id =>
    shouldElidePlainEnterForSyscall (table.tables name) id nonBlockingOnly

/-- Threads whose data a lifecycle record drops. -/
def clearedTasks (view : LifecycleEventView) : List UInt32 :=
  (if TraceState.movesThread view then [TraceState.execTID view] else []) ++
    (if (view.action=lifecycleExit ∨ view.action=lifecycleFree) ∧ view.tid≠0 then [view.tid]
      else [])

/-- Generic enters of every thread since its last exit or clearing record,
latest first. -/
abbrev Stretches : Type := UInt32 → List SyscallEventView

/-- Stretches after a record. -/
def advance (s : Stretches) (record : TraceEventEnvelope) : Stretches :=
  if record.isSignal then s
  else if record.isLifecycle then
    fun tid => if tid∈clearedTasks record.lifecycleView then [] else s tid
  else if record.syscallView.isGenericEnter then
    Function.update s record.tid (record.syscallView::s record.tid)
  else if record.syscallView.isEnterFragment || record.syscallView.isExitFragment then s
  else Function.update s record.tid []

/-- Two records of one invocation. -/
def SameInvocation (first second : SyscallEventView) : Prop :=
  first.pid=second.pid ∧ first.args=second.args ∧ first.enterTime=second.enterTime

section Regular

variable (elidable : UInt32 → Bool)

/-- A generic enter that continues its stretch: its syscall does not come back
after another one, and an elidable one carries nothing and repeats itself. -/
structure RegularEnter (stretch : List SyscallEventView) (record : TraceEventEnvelope) : Prop where
  /-- No earlier enter of the syscall behind one of another syscall. -/
  returns : ∀ enter∈stretch.dropWhile (·.sysID==record.sysID), enter.sysID≠record.sysID
  /-- An elidable enter has no payload. -/
  payload : elidable record.sysID=true → record.payload=[]
  /-- An elidable enter was not probed. -/
  probe : elidable record.sysID=true → record.probeRetEnter=-1
  /-- An elidable enter right after one of its syscall repeats it. -/
  repeats : elidable record.sysID=true → ∀ enter∈stretch.head?, enter.sysID=record.sysID →
    SameInvocation enter record.syscallView

/-- An exit whose own enter is the latest of its stretch. -/
structure RegularExit (stretch : List SyscallEventView) (record : TraceEventEnvelope) : Prop where
  /-- The record is an exit. -/
  exit : record.syscallView.isExit=true
  /-- The latest enter is of the exit's syscall, and its own if it is elidable. -/
  own : ∃ enter∈stretch.head?, enter.sysID=record.sysID ∧
    (elidable record.sysID=true → SameInvocation enter record.syscallView)

/-- What a record must satisfy in the stretches before it. -/
def RegularRecord (s : Stretches) (record : TraceEventEnvelope) : Prop :=
  isSyscallRecord record=true →
    if record.syscallView.isGenericEnter then RegularEnter elidable (s record.tid) record
    else if record.syscallView.isEnterFragment || record.syscallView.isExitFragment then
      elidable record.sysID=true → record.payload=[]
    else RegularExit elidable (s record.tid) record

/-- Every record of a sequence is regular. -/
def Regular : Stretches → List TraceEventEnvelope → Prop
  | _,[] => True
  | s,record::rest => RegularRecord elidable s record ∧ Regular (advance s record) rest

/-- Whether the producer sends a record when it elides enters. -/
def isSent (record : TraceEventEnvelope) : Bool :=
  !(isGenericEnterRecord record && elidable record.sysID)

end Regular

/-- What the pipeline gets of one exit: its view and the report. -/
structure DispatchedExit where
  /-- The exit's view. -/
  view : Option SyscallEventView
  /-- Its match, sections and deferral. -/
  report : Report

/-- Exits dispatched by a session state over a record sequence. -/
def dispatchedExits (tables : SyscallTables) :
    TraceState → List TraceEventEnvelope → List DispatchedExit
  | _,[] => []
  | st,record::rest =>
    (if isEdgeRecord record then
      [⟨(st.handleEnvelope tables record).2.syscallView,(process tables st record).2⟩]
    else []) ++ dispatchedExits tables (process tables st record).1 rest

/-- The same by the dispatch on contents. -/
def contentsExits (p : Policy) : Contents → List TraceEventEnvelope → List DispatchedExit
  | _,[] => []
  | a,record::rest =>
    (if isEdgeRecord record then
      [⟨some record.syscallView,
        ⟨(handle p a record).2.pendingEnter,record.payload,(handle p a record).2.deferred⟩⟩]
    else []) ++ contentsExits p (handle p a record).1 rest

theorem contentsExits_cons (p : Policy) (a : Contents) (record : TraceEventEnvelope)
    (rest : List TraceEventEnvelope) :
    contentsExits p a (record::rest)=
      (if isEdgeRecord record then
        [⟨some record.syscallView,
          ⟨(handle p a record).2.pendingEnter,record.payload,(handle p a record).2.deferred⟩⟩]
      else []) ++ contentsExits p (handle p a record).1 rest := rfl

/-- With every update released at once, the state dispatches what the contents say. -/
theorem dispatchedExits_eq {tables : SyscallTables} {st : TraceState} {a : Contents}
    {live loose : Multiset Ref} {out : Ref → EnterValue}
    (h : Represents st.correlation live loose out a) (inputs : List TraceEventEnvelope) :
    dispatchedExits tables st inputs=contentsExits (policy tables st) a inputs := by
  induction inputs generalizing st a out with
  | nil => rfl
  | cons record rest ih =>
    obtain ⟨values,hprocessed,hpolicy,hreport⟩ := process_represents tables h record
    have hrest := ih hprocessed
    rw [hpolicy] at hrest
    unfold dispatchedExits contentsExits
    rw [hrest]
    congr 1
    split_ifs with hedge
    · have hsyscall : isSyscallRecord record=true := by
        unfold isEdgeRecord at hedge
        simp only [Bool.and_eq_true] at hedge
        exact hedge.1.1.1
      rw [(handleEnvelope_edge tables st hedge).2,hreport hsyscall]
    · rfl

section Untainted

variable {p : Policy} {a : Contents} {view : SyscallEventView} {payload : List PayloadSection}
  (hp : p.tainted=false)

include hp

/-- A generic enter on a thread without a stored exit. -/
theorem handleEnter_untainted (hexits : a.exits view.tid=none) :
    handleEnter p a view payload=
      ((a.rememberEnterEvent view payload).setExit view.tid none,{}) := by
  have hentering : entering p a view=a := by
    unfold entering
    rw [hp]
    rfl
  have htaken : (a.rememberEnterEvent view payload).takenExit view=none := by
    unfold Contents.takenExit Contents.rememberEnterEvent Contents.setPending
    dsimp only
    rw [hexits]
    rfl
  unfold handleEnter
  rw [hentering]
  dsimp only
  rw [htaken]

/-- A fragment. -/
theorem handleFragment_untainted :
    handleFragment p a view payload=a.rememberPayloadFragment view payload := by
  unfold handleFragment
  rw [hp]
  rfl

/-- The contents an exit is matched against. -/
theorem consume_untainted (hexit : view.isExit=true) :
    consume p a view=
      (a.setPending view.tid none,(a.pending view.tid).filter (·.sysID==view.sysID)) := by
  have htrusted : trusted p a view=a := by
    unfold trusted
    rw [hp]
    rfl
  unfold consume Contents.consumeEnterEvent Contents.consumedEnter
  rw [htrusted,hexit]
  rfl

/-- An exit whose syscall is open. -/
theorem handleExit_matched {v : EnterValue} (hexit : view.isExit=true)
    (hpending : a.pending view.tid=some v) (hsysID : v.sysID=view.sysID) :
    handleExit p a view payload=
      (finish p (a.setPending view.tid none) view,{pendingEnter := some v}) := by
  have hmatch : (a.pending view.tid).filter (·.sysID==view.sysID)=some v := by
    rw [hpending]
    simp [hsysID]
  unfold handleExit
  rw [consume_untainted hp hexit,hmatch]

/-- An exit of an elided syscall without its enter. -/
theorem handleExit_elided (hexit : view.isExit=true) (helided : p.elided view.sysID=true)
    (hpending : ∀ w, a.pending view.tid=some w → w.sysID≠view.sysID) :
    handleExit p a view payload=(finish p (a.setPending view.tid none) view,
      {pendingEnter := some (Contents.synthesizedValue view)}) := by
  have hnone : (a.pending view.tid).filter (·.sysID==view.sysID)=none := by
    cases hopen : a.pending view.tid with
    | none => rfl
    | some w =>
      have hne := hpending w hopen
      simp [hne]
  unfold handleExit
  rw [consume_untainted hp hexit,hnone]
  simp [helided]

/-- A lifecycle record drops the data of the threads it clears, and no stored
exit appears. -/
theorem handleLifecycle_untainted (view : LifecycleEventView) (tid : UInt32) :
    (handleLifecycle p a view).1.pending tid=
        (if tid∈clearedTasks view then none else a.pending tid) ∧
      (a.exits tid=none → (handleLifecycle p a view).1.exits tid=none) := by
  have hforgotten : execForgotten p a view=a := by
    unfold execForgotten
    rw [if_neg (by rw [hp]; simp)]
  have hpending : ∀ (b : Contents) (other : UInt32),
      (b.clearTask other).pending tid=if tid=other then none else b.pending tid := by
    intro b other
    exact Function.update_apply b.pending other none tid
  have hexits : ∀ (b : Contents) (other : UInt32), b.exits tid=none →
      (b.clearTask other).exits tid=none := by
    intro b other hnone
    unfold Contents.clearTask
    dsimp only
    rw [Function.update_apply,hnone,ite_self]
  have htaken : ∀ (b : Contents) (other : UInt32), b.exits tid=none →
      (b.setExit other none).exits tid=none := by
    intro b other hnone
    unfold Contents.setExit
    dsimp only
    rw [Function.update_apply,hnone,ite_self]
  unfold handleLifecycle execCleared clearedTasks
  rw [hforgotten]
  by_cases hmoves : TraceState.movesThread view
  · have hexec : view.action=lifecycleExec := hmoves.1
    have hends : view.action≠lifecycleExit ∧ view.action≠lifecycleFree := by
      rw [hexec]
      decide
    have hnot : ¬((view.action=lifecycleExit ∨ view.action=lifecycleFree) ∧ view.tid≠0) := by
      tauto
    rw [if_pos hmoves,if_pos hmoves,if_neg hnot,List.append_nil]
    dsimp only
    rw [if_pos hends]
    refine ⟨?_,hexits a _⟩
    rw [hpending]
    simp only [List.mem_singleton]
  · rw [if_neg hmoves,if_neg hmoves,List.nil_append]
    dsimp only
    by_cases hends : view.action≠lifecycleExit ∧ view.action≠lifecycleFree
    · have hnot : ¬((view.action=lifecycleExit ∨ view.action=lifecycleFree) ∧ view.tid≠0) := by
        tauto
      rw [if_pos hends,if_neg hnot]
      exact ⟨(if_neg List.not_mem_nil).symm,id⟩
    · have haction : view.action=lifecycleExit ∨ view.action=lifecycleFree := by tauto
      rw [if_neg hends]
      by_cases hzero : view.tid=0
      · have hnot : ¬((view.action=lifecycleExit ∨ view.action=lifecycleFree) ∧ view.tid≠0) := by
          tauto
        rw [if_pos hzero,if_neg hnot]
        exact ⟨(if_neg List.not_mem_nil).symm,htaken a view.tid⟩
      · have hcleared : (view.action=lifecycleExit ∨ view.action=lifecycleFree) ∧ view.tid≠0 :=
          ⟨haction,hzero⟩
        rw [if_neg hzero,if_pos hcleared]
        refine ⟨?_,fun hnone => hexits _ _ (htaken a view.tid hnone)⟩
        dsimp only
        rw [hpending]
        simp only [List.mem_singleton]
        rfl

end Untainted

section Simulation

variable (elidable : UInt32 → Bool)

/-- What the two runs hold for a thread. After an elidable enter the run
without it may still hold an abandoned enter of the stretch. -/
def LinkedTask (stretch : List SyscallEventView) (full sent : Option EnterValue) : Prop :=
  match stretch with
  | [] => full=none ∧ sent=none
  | enter::_ => ∃ v, full=some v ∧ v.sysID=enter.sysID ∧
      if elidable enter.sysID then
        v=Contents.synthesizedValue enter ∧
          ∀ w, sent=some w → elidable w.sysID=false ∧ ∃ other∈stretch, other.sysID=w.sysID
      else sent=some v

/-- What the run of all records and the run of the sent records hold. -/
structure Linked (s : Stretches) (full sent : Contents) : Prop where
  /-- Stretches hold enters of their own thread. -/
  keyed : ∀ tid, ∀ enter∈s tid, enter.tid=tid
  /-- No exit is stored. -/
  exits : ∀ tid, full.exits tid=none ∧ sent.exits tid=none
  /-- Open enters are linked thread by thread. -/
  pending : ∀ tid, LinkedTask elidable (s tid) (full.pending tid) (sent.pending tid)

variable {elidable}

theorem linked_empty : Linked elidable (fun _ => []) ⟨fun _ => none,fun _ => none,∅,∅⟩
    ⟨fun _ => none,fun _ => none,∅,∅⟩ where
  keyed := fun _ _ hmem => nomatch hmem
  exits := fun _ => ⟨rfl,rfl⟩
  pending := fun _ => ⟨rfl,rfl⟩

/-- Records of one invocation are made up alike. -/
theorem synthesizedValue_congr {first second : SyscallEventView}
    (h : SameInvocation first second) (htid : first.tid=second.tid)
    (hsysID : first.sysID=second.sysID) :
    Contents.synthesizedValue first=Contents.synthesizedValue second := by
  unfold Contents.synthesizedValue
  rw [h.1,h.2.1,h.2.2,htid,hsysID]

/-- An unprobed enter without sections opens what its exit makes up. -/
theorem openedValue_eq {view : SyscallEventView} (hgeneric : view.isGenericEnter=true)
    (hprobe : view.probeRetEnter=-1) :
    Contents.openedValue view []=Contents.synthesizedValue view := by
  unfold Contents.openedValue Contents.synthesizedValue TraceSyscallCorrelationState.enterData
  rw [hgeneric,hprobe]
  rfl

/-- Merging such an enter into one of its own leaves it. -/
theorem mergedValue_eq {first view : SyscallEventView} (hprobe : view.probeRetEnter=-1) :
    Contents.mergedValue (Contents.synthesizedValue first) view []=
      Contents.synthesizedValue first := by
  unfold Contents.mergedValue Contents.synthesizedValue
    TraceSyscallCorrelationState.mergedEnterData
  rw [hprobe]
  rfl

/-- Only one thread changes. -/
theorem Linked.update {s : Stretches} {full sent full' sent' : Contents}
    (h : Linked elidable s full sent) {tid : UInt32} {stretch : List SyscallEventView}
    (hkeyed : ∀ enter∈stretch, enter.tid=tid)
    (hothers : ∀ other, other≠tid → full'.pending other=full.pending other ∧
      sent'.pending other=sent.pending other)
    (hexits : ∀ other, full'.exits other=none ∧ sent'.exits other=none)
    (htask : LinkedTask elidable stretch (full'.pending tid) (sent'.pending tid)) :
    Linked elidable (Function.update s tid stretch) full' sent' where
  keyed := by
    intro other enter hmem
    by_cases heq : other=tid
    · rw [heq,Function.update_self] at hmem
      rw [heq]
      exact hkeyed enter hmem
    · rw [Function.update_of_ne heq] at hmem
      exact h.keyed other enter hmem
  exits := hexits
  pending := by
    intro other
    by_cases heq : other=tid
    · rw [heq,Function.update_self]
      exact htask
    · rw [Function.update_of_ne heq,(hothers other heq).1,(hothers other heq).2]
      exact h.pending other

/-- The open enter after an enter record is of the record's syscall. -/
theorem enteredValue_sysID (a : Contents) (view : SyscallEventView)
    (payload : List PayloadSection) : (a.enteredValue view payload).sysID=view.sysID := by
  unfold Contents.enteredValue
  cases a.pending view.tid with
  | none => rfl
  | some v =>
    dsimp only
    split_ifs with hsame
    · exact hsame
    · rfl

/-- The open enter after an enter record, when an enter of another syscall or
none was open. -/
theorem enteredValue_opened {a : Contents} {view : SyscallEventView}
    {payload : List PayloadSection}
    (h : ∀ v, a.pending view.tid=some v → v.sysID≠view.sysID) :
    a.enteredValue view payload=Contents.openedValue view payload := by
  unfold Contents.enteredValue
  cases hopen : a.pending view.tid with
  | none => rfl
  | some v => exact if_neg (h v hopen)

/-- The open enter after an enter record, when one of its syscall was open. -/
theorem enteredValue_merged {a : Contents} {view : SyscallEventView}
    {payload : List PayloadSection} {v : EnterValue} (hopen : a.pending view.tid=some v)
    (hsysID : v.sysID=view.sysID) :
    a.enteredValue view payload=Contents.mergedValue v view payload := by
  unfold Contents.enteredValue
  rw [hopen]
  exact if_pos hsysID

/-- Open enters and stored exits after a generic enter. -/
theorem entered_frame (a : Contents) (view : SyscallEventView) (payload : List PayloadSection)
    (hexits : ∀ other, a.exits other=none) :
    ((a.rememberEnterEvent view payload).setExit view.tid none).pending view.tid=
        some (a.enteredValue view payload) ∧
      (∀ other, other≠view.tid →
        ((a.rememberEnterEvent view payload).setExit view.tid none).pending other=
          a.pending other) ∧
      ∀ other, ((a.rememberEnterEvent view payload).setExit view.tid none).exits other=none := by
  unfold Contents.rememberEnterEvent Contents.setPending Contents.setExit
  dsimp only
  refine ⟨Function.update_self _ _ _,fun other hne => Function.update_of_ne hne _ _,?_⟩
  intro other
  rw [Function.update_apply,hexits,ite_self]

section Steps

variable {s : Stretches} {full sent : Contents} {p q : Policy} {record : TraceEventEnvelope}

/-- A kept enter opens the same in both runs. -/
theorem Linked.enteredValue_eq (h : Linked elidable s full sent)
    (hregular : RegularEnter elidable (s record.tid) record)
    (hkept : elidable record.sysID=false) (payload : List PayloadSection) :
    full.enteredValue record.syscallView payload=
      sent.enteredValue record.syscallView payload := by
  have hview : record.syscallView.sysID=record.sysID := rfl
  have htid : record.syscallView.tid=record.tid := rfl
  have htask := h.pending record.tid
  have hreturns := hregular.returns
  cases hstretch : s record.tid with
  | nil =>
    rw [hstretch] at htask
    unfold Contents.enteredValue
    rw [htid,htask.1,htask.2]
  | cons enter rest =>
    rw [hstretch] at htask hreturns
    obtain ⟨v,hopen,hsysID,hlink⟩ := htask
    by_cases helidable : elidable enter.sysID=true
    · rw [if_pos helidable] at hlink
      have hother : enter.sysID≠record.sysID := by
        intro heq
        rw [heq,hkept] at helidable
        exact absurd helidable (by decide)
      have hall : ∀ other∈enter::rest, other.sysID≠record.sysID := by
        rw [List.dropWhile_cons_of_neg (by simpa using hother)] at hreturns
        exact hreturns
      rw [enteredValue_opened,enteredValue_opened]
      · intro w hw
        obtain ⟨-,other,hmem,hsame⟩ := hlink.2 w hw
        rw [hview,← hsame]
        exact hall other hmem
      · intro w hw
        have heq : w=v := Option.some.inj (hw.symm.trans hopen)
        rw [heq,hsysID]
        exact hother
    · rw [if_neg helidable] at hlink
      unfold Contents.enteredValue
      rw [htid,hopen,hlink]

/-- An elidable enter opens what its exit makes up. -/
theorem Linked.enteredValue_elided (h : Linked elidable s full sent)
    (hgeneric : record.syscallView.isGenericEnter=true)
    (hregular : RegularEnter elidable (s record.tid) record)
    (helided : elidable record.sysID=true) :
    full.enteredValue record.syscallView record.payload=
      Contents.synthesizedValue record.syscallView := by
  have hview : record.syscallView.sysID=record.sysID := rfl
  have htid : record.syscallView.tid=record.tid := rfl
  have hprobe : record.syscallView.probeRetEnter=-1 := hregular.probe helided
  have htask := h.pending record.tid
  have hrepeats := hregular.repeats helided
  rw [hregular.payload helided]
  cases hstretch : s record.tid with
  | nil =>
    rw [hstretch] at htask
    rw [enteredValue_opened,openedValue_eq hgeneric hprobe]
    intro v hv
    rw [htid,htask.1] at hv
    exact nomatch hv
  | cons enter rest =>
    rw [hstretch] at htask hrepeats
    obtain ⟨v,hopen,hsysID,hlink⟩ := htask
    by_cases hsame : enter.sysID=record.sysID
    · have helidable : elidable enter.sysID=true := by rw [hsame,helided]
      rw [if_pos helidable] at hlink
      have hown : enter.tid=record.tid := h.keyed record.tid enter (by rw [hstretch]; simp)
      rw [enteredValue_merged hopen (by rw [hsysID,hsame,hview]),hlink.1,mergedValue_eq hprobe]
      exact synthesizedValue_congr (hrepeats enter rfl hsame) hown hsame
    · rw [enteredValue_opened,openedValue_eq hgeneric hprobe]
      intro w hw
      have heq : w=v := Option.some.inj (hw.symm.trans hopen)
      rw [heq,hsysID]
      exact hsame

/-- What the run of the sent records holds is of a kept syscall of the stretch. -/
theorem Linked.sent_kept (h : Linked elidable s full sent) {tid : UInt32} {w : EnterValue}
    (hw : sent.pending tid=some w) :
    elidable w.sysID=false ∧ ∃ other∈s tid, other.sysID=w.sysID := by
  have htask := h.pending tid
  cases hstretch : s tid with
  | nil =>
    rw [hstretch] at htask
    rw [htask.2] at hw
    exact nomatch hw
  | cons enter rest =>
    rw [hstretch] at htask
    obtain ⟨v,hopen,hsysID,hlink⟩ := htask
    by_cases helidable : elidable enter.sysID=true
    · rw [if_pos helidable] at hlink
      exact hlink.2 w hw
    · rw [if_neg helidable] at hlink
      have heq : w=v := Option.some.inj (hw.symm.trans hlink)
      rw [heq,hsysID]
      exact ⟨by simpa using helidable,enter,by simp,rfl⟩

/-- A kept enter is taken by both runs. -/
theorem Linked.keptEnter (h : Linked elidable s full sent) (hp : p.tainted=false)
    (hq : q.tainted=false) (hregular : RegularEnter elidable (s record.tid) record)
    (hkept : elidable record.sysID=false) :
    Linked elidable (Function.update s record.tid (record.syscallView::s record.tid))
      (handleEnter p full record.syscallView record.payload).1
      (handleEnter q sent record.syscallView record.payload).1 := by
  obtain ⟨hself,hother,hexits⟩ :=
    entered_frame full record.syscallView record.payload fun other => (h.exits other).1
  obtain ⟨hself',hother',hexits'⟩ :=
    entered_frame sent record.syscallView record.payload fun other => (h.exits other).2
  rw [handleEnter_untainted hp (h.exits _).1,handleEnter_untainted hq (h.exits _).2]
  refine h.update ?_ (fun other hne => ⟨hother other hne,hother' other hne⟩)
    (fun other => ⟨hexits other,hexits' other⟩) ?_
  · intro enter hmem
    cases List.mem_cons.mp hmem with
    | inl heq => rw [heq]; rfl
    | inr hrest => exact h.keyed record.tid enter hrest
  · have hvalue := h.enteredValue_eq hregular hkept record.payload
    refine ⟨_,hself,enteredValue_sysID _ _ _,?_⟩
    rw [if_neg (by rw [show record.syscallView.sysID=record.sysID from rfl,hkept]; decide),hvalue]
    exact hself'

/-- An elidable enter is taken by the full run alone. -/
theorem Linked.elidedEnter (h : Linked elidable s full sent) (hp : p.tainted=false)
    (hgeneric : record.syscallView.isGenericEnter=true)
    (hregular : RegularEnter elidable (s record.tid) record)
    (helided : elidable record.sysID=true) :
    Linked elidable (Function.update s record.tid (record.syscallView::s record.tid))
      (handleEnter p full record.syscallView record.payload).1 sent := by
  obtain ⟨hself,hother,hexits⟩ :=
    entered_frame full record.syscallView record.payload fun other => (h.exits other).1
  rw [handleEnter_untainted hp (h.exits _).1]
  refine h.update ?_ (fun other hne => ⟨hother other hne,rfl⟩)
    (fun other => ⟨hexits other,(h.exits other).2⟩) ?_
  · intro enter hmem
    cases List.mem_cons.mp hmem with
    | inl heq => rw [heq]; rfl
    | inr hrest => exact h.keyed record.tid enter hrest
  · refine ⟨_,hself,enteredValue_sysID _ _ _,?_⟩
    rw [if_pos (show elidable record.syscallView.sysID=true from helided)]
    refine ⟨h.enteredValue_elided hgeneric hregular helided,?_⟩
    intro w hw
    obtain ⟨hkept,other,hmem,hsame⟩ := h.sent_kept hw
    exact ⟨hkept,other,List.mem_cons_of_mem _ hmem,hsame⟩

/-- A fragment is taken by both runs. -/
theorem Linked.fragment (h : Linked elidable s full sent) (hp : p.tainted=false)
    (hq : q.tainted=false) (hpayload : elidable record.sysID=true → record.payload=[]) :
    Linked elidable s (handleFragment p full record.syscallView record.payload)
      (handleFragment q sent record.syscallView record.payload) := by
  have hview : record.syscallView.sysID=record.sysID := rfl
  rw [handleFragment_untainted hp,handleFragment_untainted hq,
    ← Function.update_eq_self record.tid s]
  refine h.update (h.keyed record.tid) ?_ h.exits ?_
  · intro other hne
    unfold Contents.rememberPayloadFragment Contents.setPending
    exact ⟨Function.update_of_ne hne _ _,Function.update_of_ne hne _ _⟩
  · have htask := h.pending record.tid
    have hself : ∀ a : Contents, (a.rememberPayloadFragment record.syscallView
        record.payload).pending record.tid=(a.pending record.tid).map fun v =>
          if v.sysID≠record.sysID then v
          else {v with sections := mergeSections v.sections record.payload} := by
      intro a
      exact Function.update_self _ _ _
    rw [hself,hself]
    cases hstretch : s record.tid with
    | nil =>
      rw [hstretch] at htask
      rw [htask.1,htask.2]
      exact ⟨rfl,rfl⟩
    | cons enter rest =>
      rw [hstretch] at htask
      obtain ⟨v,hopen,hsysID,hlink⟩ := htask
      have hkeeps : ∀ w : EnterValue, (if w.sysID≠record.sysID then w
          else {w with sections := mergeSections w.sections record.payload}).sysID=w.sysID := by
        intro w
        split_ifs <;> rfl
      rw [hopen,Option.map_some]
      refine ⟨_,rfl,(hkeeps v).trans hsysID,?_⟩
      by_cases helidable : elidable enter.sysID=true
      · rw [if_pos helidable] at hlink ⊢
        refine ⟨?_,?_⟩
        · rw [← hlink.1]
          split_ifs with hother
          · rfl
          · have hsame : v.sysID=record.sysID := not_not.mp hother
            rw [hpayload (by rw [← hsame,hsysID,helidable]),mergeSections_nil]
        · intro w hw
          obtain ⟨before,hbefore,rfl⟩ := Option.map_eq_some_iff.mp hw
          rw [hkeeps]
          exact hlink.2 before hbefore
      · rw [if_neg helidable] at hlink ⊢
        rw [hlink,Option.map_some]

/-- A lifecycle record is taken by both runs. -/
theorem Linked.lifecycle (h : Linked elidable s full sent) (hp : p.tainted=false)
    (hq : q.tainted=false) (view : LifecycleEventView) :
    Linked elidable (fun tid => if tid∈clearedTasks view then [] else s tid)
      (handleLifecycle p full view).1 (handleLifecycle q sent view).1 where
  keyed := by
    intro tid enter hmem
    split_ifs at hmem with hcleared
    · exact nomatch hmem
    · exact h.keyed tid enter hmem
  exits := by
    intro tid
    exact ⟨(handleLifecycle_untainted hp view tid).2 (h.exits tid).1,
      (handleLifecycle_untainted hq view tid).2 (h.exits tid).2⟩
  pending := by
    intro tid
    rw [(handleLifecycle_untainted hp view tid).1,(handleLifecycle_untainted hq view tid).1]
    split_ifs with hcleared
    · exact ⟨rfl,rfl⟩
    · exact h.pending tid

/-- After its exit a thread has nothing open. -/
theorem finish_frame (p : Policy) (a : Contents) (view : SyscallEventView)
    (hexits : ∀ other, a.exits other=none) :
    (finish p (a.setPending view.tid none) view).pending view.tid=none ∧
      (∀ other, other≠view.tid →
        (finish p (a.setPending view.tid none) view).pending other=a.pending other) ∧
      ∀ other, (finish p (a.setPending view.tid none) view).exits other=none := by
  unfold finish
  split_ifs
  · unfold Contents.clearTask Contents.setPending
    dsimp only
    refine ⟨Function.update_self _ _ _,?_,?_⟩
    · intro other hne
      rw [Function.update_of_ne hne,Function.update_of_ne hne]
    · intro other
      rw [Function.update_apply,hexits,ite_self]
  · unfold Contents.setPending
    dsimp only
    exact ⟨Function.update_self _ _ _,fun other hne => Function.update_of_ne hne _ _,hexits⟩

/-- An exit finds its own enter in the full run, and the same one or what it
makes up in the other. -/
theorem Linked.exit (h : Linked elidable s full sent) (hp : p.tainted=false)
    (hq : q.tainted=false) (helides : ∀ sysID, elidable sysID=true → q.elided sysID=true)
    (hregular : RegularExit elidable (s record.tid) record) :
    Linked elidable (Function.update s record.tid [])
        (handleExit p full record.syscallView record.payload).1
        (handleExit q sent record.syscallView record.payload).1 ∧
      ∃ v, (handleExit p full record.syscallView record.payload).2={pendingEnter := some v} ∧
        (handleExit q sent record.syscallView record.payload).2={pendingEnter := some v} := by
  have hview : record.syscallView.sysID=record.sysID := rfl
  have hexit := hregular.exit
  obtain ⟨enter,hhead,hsame,hown⟩ := hregular.own
  have htask := h.pending record.tid
  obtain ⟨rest,hstretch⟩ : ∃ rest, s record.tid=enter::rest := by
    cases hs : s record.tid with
    | nil => rw [hs] at hhead; exact nomatch hhead
    | cons first rest =>
      rw [hs] at hhead
      exact ⟨rest,by rw [Option.some.inj hhead]⟩
  have htid : enter.tid=record.tid := h.keyed record.tid enter (by rw [hstretch]; simp)
  rw [hstretch] at htask
  obtain ⟨v,hopen,hsysID,hlink⟩ := htask
  have hfull : handleExit p full record.syscallView record.payload=
      (finish p (full.setPending record.tid none) record.syscallView,
        {pendingEnter := some v}) :=
    handleExit_matched hp hexit hopen (by rw [hsysID,hsame,hview])
  have hsent : handleExit q sent record.syscallView record.payload=
      (finish q (sent.setPending record.tid none) record.syscallView,
        {pendingEnter := some v}) := by
    by_cases helidable : elidable record.sysID=true
    · rw [if_pos (by rw [hsame,helidable])] at hlink
      have hmade : v=Contents.synthesizedValue record.syscallView := by
        rw [hlink.1]
        exact synthesizedValue_congr (hown helidable) htid hsame
      rw [hmade]
      refine handleExit_elided hq hexit (helides _ helidable) ?_
      intro w hw heq
      have hkept := (h.sent_kept hw).1
      rw [heq,hview,helidable] at hkept
      exact absurd hkept (by decide)
    · rw [if_neg (by rw [hsame]; exact helidable)] at hlink
      exact handleExit_matched hq hexit hlink (by rw [hsysID,hsame,hview])
  obtain ⟨hself,hother,hexits⟩ :=
    finish_frame p full record.syscallView fun other => (h.exits other).1
  obtain ⟨hself',hother',hexits'⟩ :=
    finish_frame q sent record.syscallView fun other => (h.exits other).2
  rw [hfull,hsent]
  refine ⟨?_,v,rfl,rfl⟩
  exact h.update (fun _ hmem => nomatch hmem)
    (fun other hne => ⟨hother other hne,hother' other hne⟩)
    (fun other => ⟨hexits other,hexits' other⟩) ⟨hself,hself'⟩

/-- A sent record is taken by both runs, an elided enter by the full one. -/
theorem Linked.step (h : Linked elidable s full sent) (hp : p.tainted=false)
    (hq : q.tainted=false) (helides : ∀ sysID, elidable sysID=true → q.elided sysID=true)
    (hregular : RegularRecord elidable s record) :
    Linked elidable (advance s record) (handle p full record).1
        (if isSent elidable record then (handle q sent record).1 else sent) ∧
      (isEdgeRecord record=true → ∃ v, (handle p full record).2={pendingEnter := some v} ∧
        (handle q sent record).2={pendingEnter := some v}) := by
  unfold RegularRecord isSyscallRecord at hregular
  unfold advance isSent isEdgeRecord isGenericEnterRecord isSyscallRecord handle
  cases hsignal : record.isSignal with
  | true =>
    simp only [if_true,Bool.not_true,Bool.false_and,Bool.not_false]
    exact ⟨h,fun hedge => absurd hedge (by decide)⟩
  | false =>
    cases hlifecycle : record.isLifecycle with
    | true =>
      simp only [Bool.false_eq_true,if_false,if_true,Bool.not_true,Bool.and_false,Bool.false_and,
        Bool.not_false]
      exact ⟨h.lifecycle hp hq record.lifecycleView,fun hedge => absurd hedge (by decide)⟩
    | false =>
      rw [hsignal,hlifecycle] at hregular
      have hrecord := hregular rfl
      simp only [Bool.false_eq_true,if_false,Bool.not_false,Bool.true_and]
      unfold handleSyscall
      cases hgeneric : record.syscallView.isGenericEnter with
      | true =>
        rw [hgeneric,if_pos rfl] at hrecord
        simp only [if_true,Bool.true_and,Bool.not_true,Bool.false_and]
        refine ⟨?_,fun hedge => absurd hedge (by decide)⟩
        cases helidable : elidable record.sysID with
        | true => exact h.elidedEnter hp hgeneric hrecord helidable
        | false => exact h.keptEnter hp hq hrecord helidable
      | false =>
        rw [hgeneric,if_neg (by decide)] at hrecord
        simp only [Bool.false_eq_true,if_false,Bool.false_and,Bool.not_false,Bool.true_and,if_true]
        cases henter : record.syscallView.isEnterFragment with
        | true =>
          rw [henter,Bool.true_or,if_pos rfl] at hrecord
          simp only [if_true,Bool.true_or,Bool.not_true,Bool.false_and]
          exact ⟨h.fragment hp hq hrecord,fun hedge => absurd hedge (by decide)⟩
        | false =>
          rw [henter,Bool.false_or] at hrecord
          cases hexit : record.syscallView.isExitFragment with
          | true =>
            rw [hexit,if_pos rfl] at hrecord
            simp only [if_true,Bool.or_true,Bool.false_eq_true,if_false,Bool.not_true,
              Bool.and_false]
            exact ⟨h.fragment hp hq hrecord,fun hedge => absurd hedge (by decide)⟩
          | false =>
            rw [hexit,if_neg (by decide)] at hrecord
            simp only [Bool.or_false,Bool.false_eq_true,if_false]
            obtain ⟨hlinked,hreports⟩ := h.exit hp hq helides hrecord
            exact ⟨hlinked,fun _ => hreports⟩

/-- The two runs dispatch the same exits, each with an enter. -/
theorem Linked.run (hp : p.tainted=false) (hq : q.tainted=false)
    (helides : ∀ sysID, elidable sysID=true → q.elided sysID=true)
    {records : List TraceEventEnvelope} (hregular : Regular elidable s records)
    (h : Linked elidable s full sent) :
    contentsExits p full records=contentsExits q sent (records.filter (isSent elidable)) ∧
      ∀ exit∈contentsExits p full records,
        exit.report.deferred=false ∧ exit.report.pendingEnter.isSome=true := by
  induction records generalizing s full sent with
  | nil => exact ⟨rfl,fun _ hmem => nomatch hmem⟩
  | cons record rest ih =>
    obtain ⟨hlinked,hreports⟩ := h.step hp hq helides hregular.1
    cases hsent : isSent elidable record with
    | false =>
      have hedge : isEdgeRecord record=false := by
        unfold isSent isGenericEnterRecord at hsent
        unfold isEdgeRecord
        simp only [Bool.not_eq_false',Bool.and_eq_true] at hsent
        simp [hsent.1.2]
      rw [hsent,if_neg (by decide)] at hlinked
      obtain ⟨heq,hall⟩ := ih hregular.2 hlinked
      rw [List.filter_cons_of_neg (by rw [hsent]; decide),contentsExits_cons,hedge,
        if_neg (by decide),List.nil_append]
      exact ⟨heq,hall⟩
    | true =>
      rw [hsent,if_pos rfl] at hlinked
      obtain ⟨heq,hall⟩ := ih hregular.2 hlinked
      rw [List.filter_cons_of_pos hsent,contentsExits_cons,contentsExits_cons,heq]
      cases hedge : isEdgeRecord record with
      | false =>
        rw [heq] at hall
        exact ⟨rfl,hall⟩
      | true =>
        obtain ⟨v,hfull,hother⟩ := hreports hedge
        rw [hfull,hother]
        refine ⟨rfl,?_⟩
        intro exit hmem
        rw [if_pos rfl,List.singleton_append] at hmem
        cases List.mem_cons.mp hmem with
        | inl hfirst =>
          rw [hfirst]
          exact ⟨rfl,rfl⟩
        | inr hrest =>
          rw [heq] at hall
          exact hall exit hrest

end Steps

end Simulation

/-- Session with the plain enters of the elision list made up from their exits. -/
def elidingConfig (config : SessionConfig) : SessionConfig :=
  {config with elidePlainEnter := true, deferUnmatchedExits := true}

/-- The same session with all enters expected. -/
def fullConfig (config : SessionConfig) : SessionConfig :=
  {config with elidePlainEnter := false, deferUnmatchedExits := true}

/-- Whether a number is on the elision list. -/
def onElisionList (table : RouteTable) (name : UInt32 → String) (nonBlockingOnly : Bool)
    (sysID : UInt32) : Bool :=
  (plainEnterElisionIDs table name nonBlockingOnly).contains sysID

/-- Numbers on the elision list are made up by the session. -/
theorem elided_of_onElisionList {table : RouteTable} {name : UInt32 → String}
    {config : SessionConfig} {sysID : UInt32}
    (h : onElisionList table name config.elideNonBlockingPlainEnter sysID=true) :
    (policy (table.tables name) (newTraceStateForSession (elidingConfig config))).elided
      sysID=true := by
  unfold onElisionList plainEnterElisionIDs at h
  rw [List.contains_iff_mem,List.mem_filter] at h
  exact h.2

/-- A table with one syscall, which has no capture policy. -/
def getpidTable : RouteTable := ⟨[(39,"getpid")],fun _ => none⟩

/-- A record of the syscall. -/
def getpidRecord (eventType : EventType) (eventFlags : UInt32) (enterTime arg : UInt64) :
    TraceEventEnvelope where
  eventType := eventType
  eventFlags := eventFlags
  pid := 7
  tid := 7
  sysID := 39
  enterTime := enterTime
  args := Vector.replicate 6 arg
  probeRetEnter := -1

/-- One call of the syscall. -/
def getpidCall : List TraceEventEnvelope :=
  [getpidRecord .enter bpfEventFlagGenericEnter 100 0,getpidRecord .exit 0 100 0]

theorem getpidCall_regular (name : UInt32 → String) :
    Regular (onElisionList getpidTable name false) (fun _ => []) getpidCall := by
  refine ⟨fun _ => ?_,fun _ => ?_,trivial⟩
  · exact {
      returns := fun _ hmem => nomatch hmem
      payload := fun _ => rfl
      probe := fun _ => rfl
      repeats := fun _ _ hmem => nomatch hmem }
  · exact {
      exit := rfl
      own := ⟨_,rfl,rfl,fun _ => ⟨rfl,rfl,rfl⟩⟩ }

/-- A call without an exit followed by a second call of the syscall. -/
def repeatedCall : List TraceEventEnvelope :=
  [getpidRecord .enter bpfEventFlagGenericEnter 100 0,
    getpidRecord .enter bpfEventFlagGenericEnter 200 1,getpidRecord .exit 0 200 1]

end StraceGo.EventStateElision

import StraceGo.BpfExecSlot

/-!
# Which exits of a first thread an exec explains

The threads of one process as the kernel moves them: a successful exec of a
thread other than the first one makes the first thread exit and then gives its
number to the thread; a failing exec returns through the exit edge. The exit
program tells the two kinds of exits apart by the exec slot of the process. The
verdict is exact along every run in which no return from an exec is dropped by
the syscall filter, every exec of another thread is armed, and the slot is
neither consulted nor cleared while yet another thread is inside an exec.
-/

namespace StraceGo.BpfExecReplacement

open StraceGo.FiniteMaps StraceGo.EventEnvelope StraceGo.BpfRuntime StraceGo.BpfPendingState
open StraceGo.BpfEnterPrograms StraceGo.BpfLifecycle StraceGo.BpfDispatch StraceGo.BpfTracking
open StraceGo.BpfSyscallTracking StraceGo.BpfPendingOwnership StraceGo.BpfExecSlot

section Kernel

/-- A syscall that a thread has entered and not left. -/
structure OpenSyscall where
  /-- Syscall number in the interface it uses. -/
  sysID : UInt32
  /-- Whether it uses the native interface. -/
  native : Bool
  /-- Whether it replaces the process image. -/
  execs : Bool
  deriving DecidableEq, Repr

/-- A thread of the process. -/
structure Thread where
  /-- Its task. -/
  task : TaskID
  /-- The syscall it is inside. -/
  inside : Option OpenSyscall := none
  deriving DecidableEq, Repr

/-- The live threads of a process. -/
structure ProcessThreads where
  /-- Threads by number. -/
  threads : GoMap UInt32 Thread
  /-- Thread whose exec has made the first thread exit. -/
  replacing : Option UInt32 := none

/-- What the threads of a process do, each with the program it runs. -/
inductive ThreadEvent where
  | enter (inv : Invocation) (ctx : EnterContext) (execs : Bool)
  | leave (inv : Invocation) (ctx : ExitContext)
  | spawn (inv : Invocation) (child : UInt32) (task : TaskID)
  | threadExit (inv : Invocation) (exitCode : UInt64)
  | leaderExit (inv : Invocation) (exitCode : UInt64)
  | leaderReplaced (inv : Invocation) (exitCode : UInt64) (tid : UInt32)
  | exec (inv : Invocation) (oldPid : UInt32) (filename : String)

/-- The program that an event runs. -/
def ThreadEvent.step : ThreadEvent → Step
  | .enter inv ctx _ => ⟨inv,.sysEnter ctx⟩
  | .leave inv ctx => ⟨inv,.sysExit ctx⟩
  | .spawn inv child _ => ⟨inv,.schedProcessFork child⟩
  | .threadExit inv exitCode => ⟨inv,.schedProcessExit exitCode⟩
  | .leaderExit inv exitCode => ⟨inv,.schedProcessExit exitCode⟩
  | .leaderReplaced inv exitCode _ => ⟨inv,.schedProcessExit exitCode⟩
  | .exec inv oldPid filename => ⟨inv,.schedProcessExec oldPid filename⟩

/-- The threads after an event. -/
def ProcessThreads.after (proc : ProcessThreads) : ThreadEvent → ProcessThreads
  | .enter inv ctx execs =>
    let opened : OpenSyscall := ⟨ctx.sysID,inv.nativeABI,execs⟩
    { proc with threads := proc.threads.insert inv.tid ⟨inv.task,some opened⟩ }
  | .leave inv _ => { proc with threads := proc.threads.insert inv.tid ⟨inv.task,none⟩ }
  | .spawn _ child task => { proc with threads := proc.threads.insert child ⟨task,none⟩ }
  | .threadExit inv _ => { proc with threads := proc.threads.erase inv.tid }
  | .leaderExit inv _ => { proc with threads := proc.threads.erase inv.tid }
  | .leaderReplaced inv _ tid => ⟨proc.threads.erase inv.tid,some tid⟩
  | .exec inv oldPid _ => ⟨match proc.threads.lookup oldPid with
      | some thread => Finmap.singleton inv.tid thread
      | none => ∅,none⟩

/-- A thread is inside an exec. -/
def Execs (proc : ProcessThreads) (tid : UInt32) : Prop :=
  ∃ thread opened, proc.threads.lookup tid=some thread ∧ thread.inside=some opened ∧
    opened.execs=true

/-- A thread other than the first one is inside an exec. -/
def Replaces (p : UInt32) (proc : ProcessThreads) (tid : UInt32) : Prop :=
  tid≠p ∧ Execs proc tid

/-- A program runs in a thread of the process. -/
def Current (p : UInt32) (proc : ProcessThreads) (inv : Invocation) (thread : Thread) : Prop :=
  inv.pid=p ∧ proc.threads.lookup inv.tid=some thread ∧ thread.task=inv.task

/-- What the kernel promises of an event. -/
def Enabled (arch : Arch) (p : UInt32) (proc : ProcessThreads) : ThreadEvent → Prop
  | .enter inv ctx execs => ∃ thread, Current p proc inv thread ∧ thread.inside=none ∧
      (inv.nativeABI=true → execs=isExecPayloadDirectSyscall arch ctx.sysID)
  | .leave inv ctx => ∃ thread opened, Current p proc inv thread ∧ thread.inside=some opened ∧
      ctx.sysID=opened.sysID ∧ inv.nativeABI=opened.native ∧
      (opened.execs=true → 0 ≤ ctx.id ∧
        (inv.tid≠p → ctx.ret < 0 ∧ proc.replacing≠some inv.tid))
  | .spawn inv child task => (∃ thread, Current p proc inv thread) ∧ child≠p ∧
      proc.threads.lookup child=none ∧
      ∀ tid thread, proc.threads.lookup tid=some thread → thread.task≠task
  | .threadExit inv _ => (∃ thread, Current p proc inv thread) ∧ inv.tid≠p ∧
      proc.replacing≠some inv.tid
  | .leaderExit inv _ => (∃ thread, Current p proc inv thread) ∧ inv.tid=p ∧
      proc.replacing=none
  | .leaderReplaced inv _ tid => (∃ thread, Current p proc inv thread) ∧ inv.tid=p ∧
      proc.replacing=none ∧ Replaces p proc tid
  | .exec inv oldPid _ => inv.pid=p ∧ inv.tid=p ∧ Execs proc oldPid ∧
      (∀ thread, proc.threads.lookup oldPid=some thread → thread.task=inv.task) ∧
      (proc.replacing=some oldPid ∨
        proc.replacing=none ∧ (oldPid=p ∨ proc.threads.lookup p=none))

end Kernel

section Runs

variable (arch : Arch) (routes : Routes arch) (p : UInt32)

/-- The programs' state beside the threads of a process. -/
structure ProcessSystem where
  /-- State of the programs. -/
  st : RuntimeState
  /-- Threads of the process. -/
  proc : ProcessThreads

/-- One event with the program it runs. -/
def ProcessSystem.apply (sys : ProcessSystem) (event : ThreadEvent) : ProcessSystem where
  st := event.step.apply arch routes sys.st
  proc := sys.proc.after event

/-- State after a sequence of events. -/
def ProcessSystem.run (sys : ProcessSystem) (events : List ThreadEvent) : ProcessSystem :=
  events.foldl (ProcessSystem.apply arch routes) sys

/-- Every event of a sequence is one the kernel may produce when it happens. -/
def EnabledRun : ProcessSystem → List ThreadEvent → Prop
  | _,[] => True
  | sys,event::events =>
    Enabled arch p sys.proc event ∧ EnabledRun (sys.apply arch routes event) events

/-- No thread but the first one and the given one is inside an exec. -/
def Alone (proc : ProcessThreads) (tid : UInt32) : Prop :=
  ∀ other, Replaces p proc other → other=tid

/-- The exec slot serves its purpose at an event of a tracked process: the exec of another thread
is armed and its enter saved, its failed return is not dropped by the filter, and the slot is
neither cleared nor consulted for one thread while another one is inside an exec. -/
def Orderly (sys : ProcessSystem) : ThreadEvent → Prop
  | .enter inv ctx execs =>
    (inv.nativeABI=false → Alone p sys.proc inv.tid) ∧
    (execs=true → inv.tid≠p → inv.nativeABI=true ∧
      inv.updateSucceeds .armPendingExecReplacement=true ∧
      (isSelected arch sys.st.toTrackingState ctx.sysID=true →
        sys.st.pendingTaskStorage.lookup inv.task≠none ∨ inv.storageAvailable=true))
  | .leave inv ctx =>
    (inv.nativeABI=false ∨
      isSelected arch sys.st.toTrackingState ctx.sysID=true ∧
        Stale inv ctx.sysID sys.st.toTrackingState → Alone p sys.proc inv.tid) ∧
    (Replaces p sys.proc inv.tid →
      isSelected arch sys.st.toTrackingState ctx.sysID=true ∧ Alone p sys.proc inv.tid)
  | .spawn _ _ _ => True
  | .threadExit inv _ =>
    slot p sys.st.toTrackingState=some inv.tid → Alone p sys.proc inv.tid
  | .leaderExit inv _ => Alone p sys.proc inv.tid
  | .leaderReplaced _ _ _ => True
  | .exec _ _ _ => True

/-- Every event of a sequence is orderly while the process is tracked. -/
def OrderlyRun : ProcessSystem → List ThreadEvent → Prop
  | _,[] => True
  | sys,event::events =>
    (Tracks sys.st.toTrackingState p → Orderly arch p sys event) ∧
      OrderlyRun (sys.apply arch routes event) events

/-- Threads with tasks of their own, none but the first one inside an exec, and an empty slot. -/
structure Started (sys : ProcessSystem) : Prop where
  /-- The slot is empty. -/
  slot : slot p sys.st.toTrackingState=none
  /-- No other thread is inside an exec. -/
  quiet : ∀ tid, ¬Replaces p sys.proc tid
  /-- Threads have tasks of their own. -/
  distinct : ∀ tid other thread otherThread, sys.proc.threads.lookup tid=some thread →
    sys.proc.threads.lookup other=some otherThread → thread.task=otherThread.task → tid=other
  /-- Native syscalls are execs by their numbers. -/
  kinds : ∀ tid thread opened, sys.proc.threads.lookup tid=some thread →
    thread.inside=some opened → opened.native=true →
    opened.execs=isExecPayloadDirectSyscall arch opened.sysID

/-- The new records of a step report the exit of the first thread. -/
def ReportsExit (st st' : RuntimeState) : Prop :=
  ∃ record ∈ st'.telemetry.events.drop st.telemetry.events.length,
    record.eventType=.lifecycle ∧ record.lifecycleAction=lifecycleExit ∧ record.pid=p ∧
      record.tid=p

/-- A step reports no exit of the first thread and keeps the filter entry of the process. -/
def Swallowed (st st' : RuntimeState) : Prop :=
  ¬ReportsExit p st st' ∧ st'.filterMap.lookup p=st.filterMap.lookup p

/-- Whether the first thread exits. -/
def ThreadEvent.endsLeader : ThreadEvent → Bool
  | .leaderExit _ _ => true
  | .leaderReplaced _ _ _ => true
  | _ => false

/-- Whether the first thread exits because an exec replaces it. -/
def ThreadEvent.replacesLeader : ThreadEvent → Bool
  | .leaderReplaced _ _ _ => true
  | _ => false

/-- The exit program tells the exits of the first thread apart. -/
structure ExactVerdict (sys : ProcessSystem) : Prop where
  /-- An orderly exit is swallowed exactly when an exec causes it. -/
  swallowed_iff : ∀ event, Enabled arch p sys.proc event → Orderly arch p sys event →
    event.endsLeader=true →
    (Swallowed p sys.st (sys.apply arch routes event).st ↔ event.replacesLeader=true)
  /-- Once every exec of another thread is over, the slot is empty. -/
  slot_none : (∀ tid, ¬Replaces p sys.proc tid) → slot p sys.st.toTrackingState=none
  /-- A later exit of the first thread is reported and ends the tracking of the process. -/
  reported : (∀ tid, ¬Replaces p sys.proc tid) → ∀ inv exitCode,
    Enabled arch p sys.proc (.leaderExit inv exitCode) →
    (traceSchedProcessExit inv exitCode sys.st).filterMap.lookup p=none ∧
    (hasBit sys.st.config configEmitLifecycle=true →
      inv.submission (lifecycleRecord inv lifecycleExit p p exitCode 0 "")=.submitted →
      ReportsExit p sys.st (traceSchedProcessExit inv exitCode sys.st))

end Runs

section Invariant

variable {arch : Arch} {routes : Routes arch} {p : UInt32}

/-- Threads have tasks of their own and native syscalls are execs by their numbers. -/
structure WellFormed (arch : Arch) (proc : ProcessThreads) : Prop where
  /-- Threads have tasks of their own. -/
  distinct : ∀ tid other thread otherThread, proc.threads.lookup tid=some thread →
    proc.threads.lookup other=some otherThread → thread.task=otherThread.task → tid=other
  /-- Native syscalls are execs by their numbers. -/
  kinds : ∀ tid thread opened, proc.threads.lookup tid=some thread →
    thread.inside=some opened → opened.native=true →
    opened.execs=isExecPayloadDirectSyscall arch opened.sysID

/-- The enter of a thread inside an exec is native and, when selected, pending. -/
def ExecPending (arch : Arch) (p : UInt32) (t : TrackingState) (tid : UInt32) (thread : Thread) :
    Prop :=
  ∀ opened, thread.inside=some opened → opened.execs=true →
    opened.native=true ∧ (isSelected arch t opened.sysID=true →
      ∃ pending, Holds thread.task pending true t ∧ pending.sysID=opened.sysID ∧
        pending.tid=tid ∧ pending.pid=p)

/-- The slot names a thread inside an exec, and it does so while there is one. -/
structure Armed (arch : Arch) (p : UInt32) (proc : ProcessThreads) (t : TrackingState) : Prop where
  /-- The named thread is inside an exec. -/
  named : ∀ tid, slot p t=some tid → Replaces p proc tid
  /-- A thread inside an exec has armed the slot. -/
  armed : ∀ tid, Replaces p proc tid → slot p t≠none
  /-- The enters of such threads are pending. -/
  pending : ∀ tid thread, tid≠p → proc.threads.lookup tid=some thread →
    ExecPending arch p t tid thread

/-- The part of the state that a step of one thread leaves alone. -/
structure OthersKept (tid : UInt32) (task : TaskID) (proc proc' : ProcessThreads)
    (t t' : TrackingState) : Prop where
  /-- Other threads stay as they are. -/
  lookup_eq : ∀ other, other≠tid → proc'.threads.lookup other=proc.threads.lookup other
  /-- Other threads have other tasks. -/
  task_ne : ∀ other thread, other≠tid → proc.threads.lookup other=some thread → thread.task≠task
  /-- The storage of other tasks stays as it is. -/
  touches : TouchesOnly task t t'

variable {proc proc' : ProcessThreads} {t t' : TrackingState} {tid : UInt32} {task : TaskID}

theorem OthersKept.replaces_iff (h : OthersKept tid task proc proc' t t') {other : UInt32}
    (hne : other≠tid) : Replaces p proc' other ↔ Replaces p proc other := by
  unfold Replaces Execs
  rw [h.lookup_eq other hne]

theorem OthersKept.execPending (h : OthersKept tid task proc proc' t t') {other : UInt32}
    {thread : Thread} (hne : other≠tid) (hlookup : proc.threads.lookup other=some thread)
    (hpending : ExecPending arch p t other thread) : ExecPending arch p t' other thread := by
  intro opened hinside hexecs
  obtain ⟨hnative,hsaved⟩ := hpending opened hinside hexecs
  refine ⟨hnative,?_⟩
  intro hselected
  rw [isSelected_congr h.touches.config_eq h.touches.syscallFilter_eq] at hselected
  obtain ⟨pending,hholds,hnames⟩ := hsaved hselected
  exact ⟨pending,hholds.congr (h.touches.lookup_eq _ (h.task_ne other thread hne hlookup)),hnames⟩

/-- A step of one thread keeps the enters of the other ones pending. -/
theorem OthersKept.pending (h : OthersKept tid task proc proc' t t')
    (hold : ∀ other thread, other≠p → proc.threads.lookup other=some thread →
      ExecPending arch p t other thread)
    (hnew : tid≠p → ∀ thread, proc'.threads.lookup tid=some thread →
      ExecPending arch p t' tid thread) :
    ∀ other thread, other≠p → proc'.threads.lookup other=some thread →
      ExecPending arch p t' other thread := by
  intro other thread hp hlookup
  by_cases hne : other=tid
  · rw [hne] at hp hlookup ⊢
    exact hnew hp thread hlookup
  · rw [h.lookup_eq other hne] at hlookup
    exact h.execPending hne hlookup (hold other thread hp hlookup)

/-- A step that keeps the slot and takes its thread neither into an exec nor out of one. -/
theorem Armed.keep (h : Armed arch p proc t) (hkept : OthersKept tid task proc proc' t t')
    (hslot : slot p t'=slot p t) (hself : Replaces p proc' tid ↔ Replaces p proc tid)
    (hnew : tid≠p → ∀ thread, proc'.threads.lookup tid=some thread →
      ExecPending arch p t' tid thread) : Armed arch p proc' t' := by
  have hiff : ∀ other, Replaces p proc' other ↔ Replaces p proc other := by
    intro other
    by_cases hne : other=tid
    · rw [hne]
      exact hself
    · exact hkept.replaces_iff hne
  refine ⟨?_,?_,hkept.pending h.pending hnew⟩
  · intro other hnamed
    rw [hslot] at hnamed
    exact (hiff other).mpr (h.named other hnamed)
  · intro other hreplaces
    rw [hslot]
    exact h.armed other ((hiff other).mp hreplaces)

/-- A step of the only thread inside an exec, which is outside afterwards. -/
theorem Armed.settle (h : Armed arch p proc t) (hkept : OthersKept tid task proc proc' t t')
    (hslot : slot p t'=none) (halone : Alone p proc tid) (hself : ¬Replaces p proc' tid)
    (hnew : tid≠p → ∀ thread, proc'.threads.lookup tid=some thread →
      ExecPending arch p t' tid thread) : Armed arch p proc' t' := by
  refine ⟨?_,?_,hkept.pending h.pending hnew⟩
  · intro other hnamed
    rw [hslot] at hnamed
    cases hnamed
  · intro other hreplaces
    exfalso
    by_cases hne : other=tid
    · rw [hne] at hreplaces
      exact hself hreplaces
    · exact hne (halone other ((hkept.replaces_iff hne).mp hreplaces))

/-- The exit of a thread that the slot does not name. -/
theorem Armed.remove (h : Armed arch p proc t) (hkept : OthersKept tid task proc proc' t t')
    (hslot : slot p t'=slot p t) (hother : slot p t≠some tid)
    (hgone : proc'.threads.lookup tid=none) : Armed arch p proc' t' := by
  refine ⟨?_,?_,hkept.pending h.pending ?_⟩
  · intro other hnamed
    rw [hslot] at hnamed
    have hne : other≠tid := by
      intro heq
      rw [heq] at hnamed
      exact hother hnamed
    exact (hkept.replaces_iff hne).mpr (h.named other hnamed)
  · intro other hreplaces
    have hne : other≠tid := by
      intro heq
      obtain ⟨-,thread,-,hlookup,-⟩ := hreplaces
      rw [heq,hgone] at hlookup
      cases hlookup
    rw [hslot]
    exact h.armed other ((hkept.replaces_iff hne).mp hreplaces)
  · intro _ thread hlookup
    rw [hgone] at hlookup
    cases hlookup

/-- Without a thread inside an exec the slot is empty. -/
theorem Armed.slot_none (h : Armed arch p proc t) (hquiet : ∀ other, ¬Replaces p proc other) :
    slot p t=none := by
  cases hslot : slot p t with
  | none => rfl
  | some other => exact absurd (h.named other hslot) (hquiet other)

/-- A named thread keeps the slot armed, and it is not the first one. -/
theorem Armed.exists_named (h : Armed arch p proc t) (hreplaces : Replaces p proc tid) :
    ∃ named, slot p t=some named ∧ named≠p := by
  obtain ⟨named,hnamed⟩ := Option.ne_none_iff_exists'.mp (h.armed tid hreplaces)
  exact ⟨named,hnamed,(h.named named hnamed).1⟩

end Invariant

section Threads

variable {arch : Arch} {p : UInt32} {proc : ProcessThreads} {inv : Invocation} {thread : Thread}

/-- The other threads of a well-formed process have other tasks than the current one. -/
theorem WellFormed.task_ne (h : WellFormed arch proc) (hcurrent : Current p proc inv thread) :
    ∀ other otherThread, other≠inv.tid → proc.threads.lookup other=some otherThread →
      otherThread.task≠inv.task := by
  intro other otherThread hne hlookup htask
  exact hne (h.distinct other inv.tid otherThread thread hlookup hcurrent.2.1
    (htask.trans hcurrent.2.2.symm))

theorem WellFormed.insert (h : WellFormed arch proc) {tid : UInt32} {added : Thread}
    (htask : ∀ other otherThread, other≠tid → proc.threads.lookup other=some otherThread →
      otherThread.task≠added.task)
    (hkind : ∀ opened, added.inside=some opened → opened.native=true →
      opened.execs=isExecPayloadDirectSyscall arch opened.sysID) :
    WellFormed arch { proc with threads := proc.threads.insert tid added } := by
  constructor
  · intro first second firstThread secondThread hfirst hsecond heq
    rw [lookup_insert_ite] at hfirst hsecond
    split_ifs at hfirst hsecond with hf hs hs
    · exact hf.trans hs.symm
    · cases hfirst
      exact absurd heq.symm (htask second secondThread hs hsecond)
    · cases hsecond
      exact absurd heq (htask first firstThread hf hfirst)
    · exact h.distinct first second firstThread secondThread hfirst hsecond heq
  · intro other otherThread opened hlookup
    rw [lookup_insert_ite] at hlookup
    split_ifs at hlookup
    · cases hlookup
      exact hkind opened
    · exact h.kinds other otherThread opened hlookup

theorem WellFormed.erase (h : WellFormed arch proc) (tid : UInt32) (replacing : Option UInt32) :
    WellFormed arch ⟨proc.threads.erase tid,replacing⟩ := by
  have hsub : ∀ other otherThread, (proc.threads.erase tid).lookup other=some otherThread →
      proc.threads.lookup other=some otherThread := by
    intro other otherThread hlookup
    rw [lookup_erase_ite] at hlookup
    split_ifs at hlookup
    exact hlookup
  constructor
  · intro first second firstThread secondThread hfirst hsecond
    exact h.distinct first second firstThread secondThread (hsub _ _ hfirst) (hsub _ _ hsecond)
  · intro other otherThread opened hlookup
    exact h.kinds other otherThread opened (hsub _ _ hlookup)

/-- After an exec the thread that made it is the only one, under the number of the process. -/
theorem after_exec_lookup {oldPid : UInt32} {filename : String}
    (hold : proc.threads.lookup oldPid=some thread) (tid : UInt32) :
    (proc.after (.exec inv oldPid filename)).threads.lookup tid=
      if tid=inv.tid then some thread else none := by
  unfold ProcessThreads.after
  dsimp only
  rw [hold]
  dsimp only
  split_ifs with heq
  · rw [heq]
    exact Finmap.lookup_singleton_eq
  · rw [Finmap.lookup_eq_none,Finmap.mem_singleton]
    exact heq

/-- Events the kernel may produce keep the process well formed. -/
theorem WellFormed.after (h : WellFormed arch proc) {event : ThreadEvent}
    (henabled : Enabled arch p proc event) : WellFormed arch (proc.after event) := by
  cases event with
  | enter inv ctx execs =>
    obtain ⟨thread,hcurrent,-,hkind⟩ := henabled
    refine h.insert (h.task_ne hcurrent) ?_
    intro opened hopened
    cases hopened
    exact hkind
  | leave inv ctx =>
    obtain ⟨thread,opened,hcurrent,-⟩ := henabled
    refine h.insert (h.task_ne hcurrent) ?_
    intro opened hopened
    cases hopened
  | spawn inv child task =>
    obtain ⟨-,-,-,hfresh⟩ := henabled
    refine h.insert (fun other otherThread _ hlookup => hfresh other otherThread hlookup) ?_
    intro opened hopened
    cases hopened
  | threadExit inv exitCode => exact h.erase inv.tid proc.replacing
  | leaderExit inv exitCode => exact h.erase inv.tid proc.replacing
  | leaderReplaced inv exitCode tid => exact h.erase inv.tid (some tid)
  | exec inv oldPid filename =>
    obtain ⟨-,-,⟨thread,-,hold,-⟩,-⟩ := henabled
    have hlookup : ∀ tid otherThread,
        (proc.after (.exec inv oldPid filename)).threads.lookup tid=some otherThread →
        tid=inv.tid ∧ thread=otherThread := by
      intro tid otherThread hfound
      rw [after_exec_lookup hold] at hfound
      split_ifs at hfound with heq
      exact ⟨heq,Option.some.inj hfound⟩
    constructor
    · intro first second firstThread secondThread hfirst hsecond _
      exact (hlookup first _ hfirst).1.trans (hlookup second _ hsecond).1.symm
    · intro other otherThread opened hfound
      rw [←(hlookup other otherThread hfound).2]
      exact h.kinds oldPid thread opened hold

end Threads

section Steps

variable {arch : Arch} {routes : Routes arch} {p : UInt32} {proc : ProcessThreads}
  {t t' : TrackingState} {inv : Invocation} {thread : Thread}

/-- A thread outside an exec replaces nothing. -/
theorem not_replaces {tid : UInt32} (hlookup : proc.threads.lookup tid=some thread)
    (houtside : ∀ opened, thread.inside=some opened → opened.execs=true → tid=p) :
    ¬Replaces p proc tid := by
  rintro ⟨hne,found,opened,hfound,hinside,hexecs⟩
  rw [hlookup] at hfound
  cases hfound
  exact hne (houtside opened hinside hexecs)

/-- An update of the current thread leaves the other ones alone. -/
theorem OthersKept.insert (hwf : WellFormed arch proc) (hcurrent : Current p proc inv thread)
    (updated : Thread) (htouch : TouchesOnly inv.task t t') :
    OthersKept inv.tid inv.task proc
      { proc with threads := proc.threads.insert inv.tid updated } t t' :=
  ⟨fun _ hne => Finmap.lookup_insert_of_ne _ hne,hwf.task_ne hcurrent,htouch⟩

/-- The removal of the current thread leaves the other ones alone. -/
theorem OthersKept.erase (hwf : WellFormed arch proc) (hcurrent : Current p proc inv thread)
    (replacing : Option UInt32) (htouch : TouchesOnly inv.task t t') :
    OthersKept inv.tid inv.task proc ⟨proc.threads.erase inv.tid,replacing⟩ t t' :=
  ⟨fun _ hne => Finmap.lookup_erase_ne hne,hwf.task_ne hcurrent,htouch⟩

/-- Where the only thread that may be inside an exec is outside, the slot is empty. -/
theorem Armed.slot_none_of_alone {tid : UInt32} (h : Armed arch p proc t)
    (halone : Alone p proc tid) (hself : ¬Replaces p proc tid) : slot p t=none := by
  apply h.slot_none
  intro other hreplaces
  rw [halone other hreplaces] at hreplaces
  exact hself hreplaces

/-- An orderly enter keeps the slot armed for the threads inside an exec. -/
theorem Armed.enter {ctx : EnterContext} {execs : Bool} {st : RuntimeState}
    (hroutes : ExecRouted routes) (hwf : WellFormed arch proc)
    (h : Armed arch p proc st.toTrackingState) (htracks : Tracks st.toTrackingState p)
    (henabled : Enabled arch p proc (.enter inv ctx execs))
    (horderly : Orderly arch p ⟨st,proc⟩ (.enter inv ctx execs)) :
    Armed arch p (proc.after (.enter inv ctx execs))
      (enter arch routes inv ctx st.toTrackingState) := by
  obtain ⟨thread,hcurrent,hinside,hkind⟩ := henabled
  obtain ⟨halone,hexec⟩ := horderly
  obtain ⟨rfl,hlookup,-⟩ := id hcurrent
  have hkept : OthersKept inv.tid inv.task proc (proc.after (.enter inv ctx execs))
      st.toTrackingState (enter arch routes inv ctx st.toTrackingState) :=
    OthersKept.insert hwf hcurrent ⟨inv.task,some ⟨ctx.sysID,inv.nativeABI,execs⟩⟩
      (enter_touches arch routes inv ctx st.toTrackingState)
  have hbefore : ¬Replaces inv.pid proc inv.tid := by
    refine not_replaces hlookup ?_
    intro opened hopened
    rw [hinside] at hopened
    cases hopened
  have hentered : (proc.after (.enter inv ctx execs)).threads.lookup inv.tid=
      some ⟨inv.task,some ⟨ctx.sysID,inv.nativeABI,execs⟩⟩ := Finmap.lookup_insert _
  by_cases harms : execs=true ∧ inv.tid≠inv.pid
  · obtain ⟨hexecs,hne⟩ := harms
    obtain ⟨hnative,hroom,hstored⟩ := hexec hexecs hne
    have hsys : isExecPayloadDirectSyscall arch ctx.sysID=true := (hkind hnative).symm.trans hexecs
    have hslot := slot_enter_exec routes htracks hnative hsys hne hroom
    refine ⟨?_,?_,hkept.pending h.pending ?_⟩
    · intro tid hnamed
      rw [hslot] at hnamed
      rw [←Option.some.inj hnamed]
      exact ⟨hne,_,_,hentered,rfl,hexecs⟩
    · intro tid _
      rw [hslot]
      exact Option.some_ne_none _
    · intro _ found hfound opened hopened _
      rw [hentered] at hfound
      cases hfound
      cases hopened
      refine ⟨hnative,?_⟩
      intro hselected
      rw [isSelected_congr hkept.touches.config_eq hkept.touches.syscallFilter_eq] at hselected
      exact ⟨_,enter_exec_holds htracks hnative hsys hselected (hstored hselected),rfl,rfl,rfl⟩
  · have houtside : execs=true → inv.tid=inv.pid := by
      intro hexecs
      by_contra hne
      exact harms ⟨hexecs,hne⟩
    have hafter : ¬Replaces inv.pid (proc.after (.enter inv ctx execs)) inv.tid := by
      refine not_replaces hentered ?_
      intro opened hopened
      cases hopened
      exact houtside
    have hnew : inv.tid≠inv.pid → ∀ found,
        (proc.after (.enter inv ctx execs)).threads.lookup inv.tid=some found →
        ExecPending arch inv.pid (enter arch routes inv ctx st.toTrackingState) inv.tid found := by
      intro hne found hfound opened hopened hexecs
      rw [hentered] at hfound
      cases hfound
      cases hopened
      exact absurd (houtside hexecs) hne
    cases hnative : inv.nativeABI with
    | false =>
      have hnone := h.slot_none_of_alone (halone hnative) hbefore
      refine h.settle hkept ?_ (halone hnative) hafter hnew
      rcases slot_enter_foreign routes ctx st.toTrackingState hnative with hslot | hslot
      · exact hslot.trans hnone
      · exact hslot
    | true =>
      refine h.keep hkept ?_ (iff_of_false hafter hbefore) hnew
      rcases slot_enter_native hroutes ctx st.toTrackingState hnative with
        hslot | ⟨hsys,hne,-⟩
      · exact hslot
      · exact absurd ⟨(hkind hnative).trans hsys,hne⟩ harms

/-- An orderly return keeps the slot armed for the threads inside an exec. -/
theorem Armed.leave {ctx : ExitContext} {st : RuntimeState} (hwf : WellFormed arch proc)
    (h : Armed arch p proc st.toTrackingState) (htracks : Tracks st.toTrackingState p)
    (henabled : Enabled arch p proc (.leave inv ctx))
    (horderly : Orderly arch p ⟨st,proc⟩ (.leave inv ctx)) :
    Armed arch p (proc.after (.leave inv ctx)) (leave arch routes inv ctx st.toTrackingState) := by
  obtain ⟨thread,opened,hcurrent,hinside,hsys,hnative,hexec⟩ := henabled
  obtain ⟨halone,hreturns⟩ := horderly
  obtain ⟨rfl,hlookup,htask⟩ := id hcurrent
  have hkept : OthersKept inv.tid inv.task proc (proc.after (.leave inv ctx))
      st.toTrackingState (BpfSyscallTracking.leave arch routes inv ctx st.toTrackingState) :=
    OthersKept.insert hwf hcurrent ⟨inv.task,none⟩
      (leave_touches arch routes inv ctx st.toTrackingState)
  have hleft : (proc.after (.leave inv ctx)).threads.lookup inv.tid=some ⟨inv.task,none⟩ :=
    Finmap.lookup_insert _
  have hafter : ¬Replaces inv.pid (proc.after (.leave inv ctx)) inv.tid := by
    refine not_replaces hleft ?_
    intro opened hopened
    cases hopened
  have hnew : inv.tid≠inv.pid → ∀ found,
      (proc.after (.leave inv ctx)).threads.lookup inv.tid=some found →
      ExecPending arch inv.pid
        (BpfSyscallTracking.leave arch routes inv ctx st.toTrackingState) inv.tid found := by
    intro _ found hfound opened hopened
    rw [hleft] at hfound
    cases hfound
    cases hopened
  by_cases hreplaces : opened.execs=true ∧ inv.tid≠inv.pid
  · obtain ⟨hexecs,hne⟩ := hreplaces
    obtain ⟨hopenNative,hsaved⟩ := h.pending inv.tid thread hne hlookup opened hinside hexecs
    obtain ⟨hselected,hsole⟩ := hreturns ⟨hne,thread,opened,hlookup,hinside,hexecs⟩
    obtain ⟨pending,hholds,hpendingSys,hpendingTid,hpendingPid⟩ :=
      hsaved (by rw [←hsys]; exact hselected)
    refine h.settle hkept ?_ hsole hafter hnew
    rw [htask] at hholds
    refine slot_leave_exec htracks (hnative.trans hopenNative) (hexec hexecs).1 ?_ hselected hne
      hholds (hpendingSys.trans hsys.symm) hpendingTid hpendingPid
    rw [hsys,←hwf.kinds inv.tid thread opened hlookup hinside hopenNative]
    exact hexecs
  · have hbefore : ¬Replaces inv.pid proc inv.tid := by
      refine not_replaces hlookup ?_
      intro found hfound hexecs
      rw [hinside] at hfound
      cases hfound
      by_contra hne
      exact hreplaces ⟨hexecs,hne⟩
    by_cases hclears : inv.nativeABI=false ∨
        isSelected arch st.toTrackingState ctx.sysID=true ∧
          Stale inv ctx.sysID st.toTrackingState
    · have hnone := h.slot_none_of_alone (halone hclears) hbefore
      refine h.settle hkept ?_ (halone hclears) hafter hnew
      rcases slot_leave arch routes inv ctx st.toTrackingState with hslot | hslot
      · exact hslot.trans hnone
      · exact hslot
    · obtain ⟨habi,hstale⟩ := not_or.mp hclears
      rw [Bool.not_eq_false] at habi
      refine h.keep hkept ?_ (iff_of_false hafter hbefore) hnew
      refine slot_leave_keeps habi (fun hselected hold => hstale ⟨hselected,hold⟩) ?_
      rw [hsys,←hwf.kinds inv.tid thread opened hlookup hinside (hnative.symm.trans habi)]
      by_cases hexecs : opened.execs=true
      · exact .inr (not_not.mp fun hne => hreplaces ⟨hexecs,hne⟩)
      · exact .inl (Bool.eq_false_of_not_eq_true hexecs)

/-- A new thread is outside every syscall. -/
theorem Armed.spawn {child : UInt32} {task : TaskID} (h : Armed arch p proc t)
    (henabled : Enabled arch p proc (.spawn inv child task)) :
    Armed arch p (proc.after (.spawn inv child task)) (fork inv child t) := by
  obtain ⟨-,-,hunused,hfresh⟩ := henabled
  have hkept : OthersKept child task proc (proc.after (.spawn inv child task)) t
      (fork inv child t) :=
    ⟨fun _ hne => Finmap.lookup_insert_of_ne _ hne,
      fun other otherThread _ hlookup => hfresh other otherThread hlookup,
      fork_touches inv child t task⟩
  have hspawned : (proc.after (.spawn inv child task)).threads.lookup child=some ⟨task,none⟩ :=
    Finmap.lookup_insert _
  refine h.keep hkept (slot_fork inv child t p) (iff_of_false ?_ ?_) ?_
  · refine not_replaces hspawned ?_
    intro opened hopened
    cases hopened
  · rintro ⟨-,thread,-,hlookup,-⟩
    rw [hunused] at hlookup
    cases hlookup
  · intro _ found hfound opened hopened
    rw [hspawned] at hfound
    cases hfound
    cases hopened

/-- The orderly exit of another thread. -/
theorem Armed.threadExit {exitCode : UInt64} {st : RuntimeState} (hwf : WellFormed arch proc)
    (h : Armed arch p proc st.toTrackingState) (htracks : Tracks st.toTrackingState p)
    (henabled : Enabled arch p proc (.threadExit inv exitCode))
    (horderly : Orderly arch p ⟨st,proc⟩ (.threadExit inv exitCode)) :
    Armed arch p (proc.after (.threadExit inv exitCode)) (exit inv st.toTrackingState) := by
  obtain ⟨⟨thread,hcurrent⟩,hne,-⟩ := henabled
  obtain ⟨rfl,-,-⟩ := id hcurrent
  have hkept : OthersKept inv.tid inv.task proc (proc.after (.threadExit inv exitCode))
      st.toTrackingState (exit inv st.toTrackingState) :=
    OthersKept.erase hwf hcurrent proc.replacing (exit_touches inv st.toTrackingState)
  have hgone : (proc.after (.threadExit inv exitCode)).threads.lookup inv.tid=none :=
    Finmap.lookup_erase _ _
  have hslot := slot_exit_thread htracks hne
  by_cases hnamed : slot inv.pid st.toTrackingState=some inv.tid
  · rw [if_pos hnamed] at hslot
    refine h.settle hkept hslot (horderly hnamed) ?_ ?_
    · rintro ⟨-,found,-,hfound,-⟩
      rw [hgone] at hfound
      cases hfound
    · intro _ found hfound
      rw [hgone] at hfound
      cases hfound
  · rw [if_neg hnamed] at hslot
    exact h.remove hkept hslot hnamed hgone

/-- The exit of a first thread that an exec replaces leaves the slot as it is. -/
theorem Armed.leaderReplaced {exitCode : UInt64} {tid : UInt32} (hwf : WellFormed arch proc)
    (h : Armed arch p proc t) (htracks : Tracks t p)
    (henabled : Enabled arch p proc (.leaderReplaced inv exitCode tid)) :
    exit inv t=clearPending inv.task t ∧
      Armed arch p (proc.after (.leaderReplaced inv exitCode tid)) (exit inv t) := by
  obtain ⟨⟨thread,hcurrent⟩,htid,-,hreplaces⟩ := henabled
  obtain ⟨rfl,-,-⟩ := id hcurrent
  obtain ⟨named,hnamed,hne⟩ := h.exists_named hreplaces
  have hexit := exit_swallowed htid htracks hnamed hne
  have hkept : OthersKept inv.tid inv.task proc (proc.after (.leaderReplaced inv exitCode tid))
      t (exit inv t) :=
    OthersKept.erase hwf hcurrent (some tid) (exit_touches inv t)
  refine ⟨hexit,h.keep hkept ?_ (iff_of_false ?_ ?_) ?_⟩
  · rw [hexit]
    rfl
  · exact fun hself => hself.1 htid
  · exact fun hself => hself.1 htid
  · exact fun hother => absurd htid hother

/-- After an exec no other thread is left, and the slot is empty. -/
theorem Armed.exec {oldPid : UInt32} {filename : String}
    (henabled : Enabled arch p proc (.exec inv oldPid filename))
    (htracks : Tracks (exec arch inv oldPid t) p) :
    Armed arch p (proc.after (.exec inv oldPid filename)) (exec arch inv oldPid t) := by
  obtain ⟨rfl,htid,⟨thread,-,hold,-⟩,-⟩ := henabled
  have hslot := slot_exec htid htracks
  have honly : ∀ tid found,
      (proc.after (.exec inv oldPid filename)).threads.lookup tid=some found → tid=inv.pid := by
    intro tid found hfound
    rw [after_exec_lookup hold] at hfound
    split_ifs at hfound with heq
    exact heq.trans htid
  refine ⟨?_,?_,?_⟩
  · intro tid hnamed
    rw [hslot] at hnamed
    cases hnamed
  · rintro tid ⟨hne,found,-,hfound,-⟩
    exact absurd (honly tid found hfound) hne
  · intro tid found hne hfound
    exact absurd (honly tid found hfound) hne

end Steps

section Records

variable {inv : Invocation} {p : UInt32} {st st' : RuntimeState}

theorem reportsExit_iff {added : List TraceEventEnvelope}
    (h : st'.telemetry.events=st.telemetry.events++added) :
    ReportsExit p st st' ↔ ∃ record ∈ added, record.eventType=.lifecycle ∧
      record.lifecycleAction=lifecycleExit ∧ record.pid=p ∧ record.tid=p := by
  unfold ReportsExit
  rw [h,List.drop_left]

/-- A submission adds at most the record it is given. -/
theorem submit_events (inv : Invocation) (record : TraceEventEnvelope) (t : Telemetry) :
    ∃ added, (submit inv record t).events=t.events++added ∧
      ∀ sent ∈ added, sent.lifecycleAction=record.lifecycleAction := by
  unfold submit
  dsimp only
  cases inv.submission record with
  | submitted =>
    refine ⟨_,rfl,?_⟩
    intro sent hsent
    rw [List.mem_singleton.mp hsent]
  | reserveFailed => exact ⟨[],(List.append_nil _).symm,by simp⟩
  | copyFailed => exact ⟨[],(List.append_nil _).symm,by simp⟩

/-- A submission that succeeds adds the record it is given. -/
theorem submit_submitted {record : TraceEventEnvelope} (h : inv.submission record=.submitted)
    (t : Telemetry) :
    ∃ sent, (submit inv record t).events=t.events++[sent] ∧ sent.eventType=record.eventType ∧
      sent.lifecycleAction=record.lifecycleAction ∧ sent.pid=record.pid ∧
      sent.tid=record.tid := by
  unfold submit
  dsimp only
  rw [h]
  exact ⟨_,rfl,rfl,rfl,rfl,rfl⟩

/-- The report on an untraced child is no exit report. -/
theorem reportUnknownExit_events (inv : Invocation) (st : RuntimeState) :
    ∃ added, (reportUnknownExit inv st).telemetry.events=st.telemetry.events++added ∧
      ∀ record ∈ added, record.lifecycleAction=lifecycleUnknownExit := by
  have hnothing : ∃ added : List TraceEventEnvelope,
      st.telemetry.events=st.telemetry.events++added ∧
        ∀ record ∈ added, record.lifecycleAction=lifecycleUnknownExit :=
    ⟨[],(List.append_nil _).symm,by simp⟩
  unfold reportUnknownExit emitLifecycleEvent
  cases st.unknownChildrenMap.lookup inv.tid with
  | none => exact hnothing
  | some parent =>
    dsimp only
    split_ifs
    · exact hnothing
    · exact submit_events _ _ _
    · exact hnothing

theorem markAttachTaskExited_events (inv : Invocation) (tid : UInt32) (st : RuntimeState) :
    (markAttachTaskExited inv tid st).telemetry.events=st.telemetry.events := by
  unfold markAttachTaskExited
  split_ifs <;> rfl

theorem clearLifecycleTaskState_events (inv : Invocation) (pid tid : UInt32)
    (st : RuntimeState) :
    (clearLifecycleTaskState inv pid tid st).telemetry.events=st.telemetry.events := by
  have hclear := congrArg Telemetry.events (clearPendingTaskState_telemetry inv st)
  unfold clearLifecycleTaskState clearProcessLifecycleState clearArmedForkParent
  dsimp only
  split_ifs
  · exact hclear
  · exact hclear
  · exact hclear
  · exact hclear
  · exact hclear

/-- The records of an exit before the verdict on it. -/
theorem exitSeen_events (inv : Invocation) (st : RuntimeState) :
    ∃ added, (reportUnknownExit inv (st.tell (recordLifecycleExitSeen inv))).telemetry.events=
        st.telemetry.events++added ∧
      ∀ record ∈ added, record.lifecycleAction=lifecycleUnknownExit :=
  reportUnknownExit_events inv (st.tell (recordLifecycleExitSeen inv))

/-- A swallowed exit reports nothing of the first thread. -/
theorem not_reportsExit (exitCode : UInt64)
    (htracked : isLifecycleTaskTracked st.toTrackingState inv.pid inv.tid=true)
    (hreplaced : isExecReplacedLeader st.toTrackingState inv.pid inv.tid=true) :
    ¬ReportsExit p st (traceSchedProcessExit inv exitCode st) := by
  obtain ⟨added,hadded,hunknown⟩ := exitSeen_events inv st
  have hevents : (traceSchedProcessExit inv exitCode st).telemetry.events=
      st.telemetry.events++added := by
    unfold traceSchedProcessExit
    dsimp only
    rw [reportUnknownExit_tracking,RuntimeState.tell_toTrackingState,htracked,
      if_neg (by simp),if_pos hreplaced,clearPendingTaskState_telemetry]
    exact hadded
  rw [reportsExit_iff hevents]
  rintro ⟨record,hrecord,-,haction,-⟩
  rw [hunknown record hrecord] at haction
  revert haction
  decide

/-- An exit that is not swallowed is reported when lifecycle records are on. -/
theorem reportsExit {exitCode : UInt64} (hpid : inv.pid=p) (htid : inv.tid=p)
    (htracked : isLifecycleTaskTracked st.toTrackingState inv.pid inv.tid=true)
    (hgenuine : isExecReplacedLeader st.toTrackingState inv.pid inv.tid=false)
    (hconfig : hasBit st.config configEmitLifecycle=true)
    (hsubmitted : inv.submission (lifecycleRecord inv lifecycleExit p p exitCode 0 "")=
      .submitted) : ReportsExit p st (traceSchedProcessExit inv exitCode st) := by
  obtain ⟨added,hadded,-⟩ := exitSeen_events inv st
  have hrecord : lifecycleRecord inv lifecycleExit p p exitCode 0 ""=
      lifecycleRecord inv lifecycleExit inv.pid inv.tid exitCode 0 "" := by
    rw [hpid,htid]
  rw [hrecord] at hsubmitted
  let removed := clearLifecycleTaskState inv inv.pid inv.tid (markAttachTaskExited inv inv.tid
    (reportUnknownExit inv (st.tell (recordLifecycleExitSeen inv))))
  have hremoved : removed.telemetry.events=st.telemetry.events++added := by
    rw [clearLifecycleTaskState_events,markAttachTaskExited_events,hadded]
  have hconfigRemoved : hasBit removed.config configEmitLifecycle=true := by
    have hstate : removed.toTrackingState=clearTask inv inv.pid inv.tid st.toTrackingState := by
      rw [clearLifecycleTaskState_tracking,markAttachTaskExited_tracking,
        reportUnknownExit_tracking,RuntimeState.tell_toTrackingState]
    rw [hstate,(clearTask_touches inv inv.pid inv.tid st.toTrackingState).config_eq]
    exact hconfig
  obtain ⟨sent,hsent,htype,haction,hsentPid,hsentTid⟩ :=
    submit_submitted hsubmitted removed.telemetry
  have hevents : (traceSchedProcessExit inv exitCode st).telemetry.events=
      st.telemetry.events++(added++[sent]) := by
    unfold traceSchedProcessExit
    dsimp only
    rw [reportUnknownExit_tracking,RuntimeState.tell_toTrackingState,htracked,
      if_neg (by simp),hgenuine,if_neg (by simp)]
    unfold emitLifecycleEvent
    rw [RuntimeState.tell_telemetry,if_pos hconfigRemoved,←List.append_assoc,←hremoved]
    exact hsent
  rw [reportsExit_iff hevents]
  exact ⟨sent,by simp,htype,haction,hsentPid.trans hpid,hsentTid.trans htid⟩

end Records

section Reachable

variable {arch : Arch} {routes : Routes arch} {p : UInt32} {sys : ProcessSystem}

/-- A well-formed process whose slot is armed for its threads while it is tracked. -/
structure Sound (arch : Arch) (p : UInt32) (sys : ProcessSystem) : Prop where
  /-- The threads are well formed. -/
  wellFormed : WellFormed arch sys.proc
  /-- The slot is armed for the threads inside an exec. -/
  armed : Tracks sys.st.toTrackingState p → Armed arch p sys.proc sys.st.toTrackingState

theorem Started.sound (h : Started arch p sys) : Sound arch p sys := by
  refine ⟨⟨h.distinct,h.kinds⟩,?_⟩
  intro _
  refine ⟨?_,?_,?_⟩
  · intro tid hnamed
    rw [h.slot] at hnamed
    cases hnamed
  · intro tid hreplaces
    exact absurd hreplaces (h.quiet tid)
  · intro tid thread hne hlookup opened hinside hexecs
    exact absurd ⟨hne,thread,opened,hlookup,hinside,hexecs⟩ (h.quiet tid)

/-- The exit of a first thread that is not swallowed leaves its process untracked. -/
theorem not_tracks_leaderExit {t : TrackingState} {inv : Invocation} (hpid : inv.pid=p)
    (htid : inv.tid=p) (hslot : Tracks t p → slot p t=none) : ¬Tracks (exit inv t) p := by
  subst hpid
  intro htracks
  by_cases hbefore : Tracks t inv.pid
  · rw [exit_removes hbefore (hslot hbefore),htid,BpfTracking.tracks_iff,clearTask_filterMap]
      at htracks
    obtain ⟨flags,hflags,-⟩ := htracks
    cases hflags
  · have huntracked : isLifecycleTaskTracked t inv.pid inv.tid=false := by
      rw [htid,←Bool.not_eq_true,isLifecycleTaskTracked_self]
      exact hbefore
    unfold exit at htracks
    rw [huntracked,if_pos (by simp)] at htracks
    exact hbefore htracks

/-- Orderly events that the kernel may produce keep the process sound. -/
theorem Sound.apply (hroutes : ExecRouted routes) (h : Sound arch p sys) {event : ThreadEvent}
    (henabled : Enabled arch p sys.proc event)
    (horderly : Tracks sys.st.toTrackingState p → Orderly arch p sys event) :
    Sound arch p (sys.apply arch routes event) := by
  refine ⟨h.wellFormed.after henabled,?_⟩
  cases event with
  | enter inv ctx execs =>
    change Tracks (traceSysEnter arch routes inv ctx sys.st).toTrackingState p →
      Armed _ _ _ (traceSysEnter arch routes inv ctx sys.st).toTrackingState
    rw [traceSysEnter_tracking,Tracks.congr (enter_filterMap ..)]
    intro htracks
    exact (h.armed htracks).enter hroutes h.wellFormed htracks henabled (horderly htracks)
  | leave inv ctx =>
    change Tracks (traceSysExit arch routes inv ctx sys.st).toTrackingState p →
      Armed _ _ _ (traceSysExit arch routes inv ctx sys.st).toTrackingState
    rw [traceSysExit_tracking,Tracks.congr (leave_filterMap ..)]
    intro htracks
    exact (h.armed htracks).leave h.wellFormed htracks henabled (horderly htracks)
  | spawn inv child task =>
    change Tracks (traceSchedProcessFork inv child sys.st).toTrackingState p →
      Armed _ _ _ (traceSchedProcessFork inv child sys.st).toTrackingState
    rw [traceSchedProcessFork_tracking,
      Tracks.of_lookup (fork_filterMap inv sys.st.toTrackingState henabled.2.1.symm)]
    intro htracks
    exact (h.armed htracks).spawn henabled
  | threadExit inv exitCode =>
    change Tracks (traceSchedProcessExit inv exitCode sys.st).toTrackingState p →
      Armed _ _ _ (traceSchedProcessExit inv exitCode sys.st).toTrackingState
    obtain ⟨⟨thread,rfl,-⟩,hne,-⟩ := id henabled
    rw [traceSchedProcessExit_tracking,Tracks.of_lookup (exit_thread_filterMap hne)]
    intro htracks
    exact (h.armed htracks).threadExit h.wellFormed htracks henabled (horderly htracks)
  | leaderExit inv exitCode =>
    change Tracks (traceSchedProcessExit inv exitCode sys.st).toTrackingState p → _
    obtain ⟨⟨thread,hpid,-⟩,htid,-⟩ := id henabled
    rw [traceSchedProcessExit_tracking]
    intro htracks
    refine absurd htracks (not_tracks_leaderExit hpid htid ?_)
    intro hbefore
    exact (h.armed hbefore).slot_none_of_alone (horderly hbefore) (fun hself => hself.1 htid)
  | leaderReplaced inv exitCode tid =>
    change Tracks (traceSchedProcessExit inv exitCode sys.st).toTrackingState p →
      Armed _ _ _ (traceSchedProcessExit inv exitCode sys.st).toTrackingState
    obtain ⟨⟨thread,hpid,-⟩,htid,-⟩ := id henabled
    rw [traceSchedProcessExit_tracking]
    intro htracks
    by_cases hbefore : Tracks sys.st.toTrackingState p
    · exact ((h.armed hbefore).leaderReplaced h.wellFormed hbefore henabled).2
    · exact absurd htracks
        (not_tracks_leaderExit hpid htid (fun htracked => absurd htracked hbefore))
  | exec inv oldPid filename =>
    change Tracks (traceSchedProcessExec arch inv oldPid filename sys.st).toTrackingState p →
      Armed _ _ _ (traceSchedProcessExec arch inv oldPid filename sys.st).toTrackingState
    rw [traceSchedProcessExec_tracking]
    exact Armed.exec henabled

/-- Orderly runs keep the process sound. -/
theorem Sound.run (hroutes : ExecRouted routes) (h : Sound arch p sys)
    {events : List ThreadEvent} (henabled : EnabledRun arch routes p sys events)
    (horderly : OrderlyRun arch routes p sys events) :
    Sound arch p (sys.run arch routes events) := by
  induction events generalizing sys with
  | nil => exact h
  | cons event events ih =>
    exact ih (h.apply hroutes henabled.1 horderly.1) henabled.2 horderly.2

/-- Where no other thread is inside an exec, the exit of the first thread ends the tracking of its
process and is reported. -/
theorem Sound.reported (h : Sound arch p sys) (htracks : Tracks sys.st.toTrackingState p)
    (hquiet : ∀ tid, ¬Replaces p sys.proc tid) {inv : Invocation} {exitCode : UInt64}
    (henabled : Enabled arch p sys.proc (.leaderExit inv exitCode)) :
    (traceSchedProcessExit inv exitCode sys.st).filterMap.lookup p=none ∧
    (hasBit sys.st.config configEmitLifecycle=true →
      inv.submission (lifecycleRecord inv lifecycleExit p p exitCode 0 "")=.submitted →
      ReportsExit p sys.st (traceSchedProcessExit inv exitCode sys.st)) := by
  obtain ⟨⟨thread,rfl,-⟩,htid,-⟩ := henabled
  have hslot := (h.armed htracks).slot_none hquiet
  constructor
  · rw [traceSchedProcessExit_tracking,exit_removes htracks hslot,htid]
    exact clearTask_filterMap inv inv.pid sys.st.toTrackingState
  · refine reportsExit rfl htid (Tracks.traced htracks inv.tid) ?_
    unfold slot at hslot
    unfold isExecReplacedLeader
    rw [hslot]
    simp

/-- The exit of a first thread that an exec replaces is swallowed. -/
theorem Sound.swallowed (h : Sound arch p sys) (htracks : Tracks sys.st.toTrackingState p)
    {inv : Invocation} {exitCode : UInt64} {tid : UInt32}
    (henabled : Enabled arch p sys.proc (.leaderReplaced inv exitCode tid)) :
    Swallowed p sys.st (traceSchedProcessExit inv exitCode sys.st) := by
  have hexit := ((h.armed htracks).leaderReplaced h.wellFormed htracks henabled).1
  obtain ⟨⟨thread,rfl,-⟩,htid,-,hreplaces⟩ := henabled
  obtain ⟨named,hnamed,hne⟩ := (h.armed htracks).exists_named hreplaces
  constructor
  · refine not_reportsExit exitCode (Tracks.traced htracks inv.tid) ?_
    unfold slot at hnamed
    simp [isExecReplacedLeader,hnamed,hne,htid]
  · rw [traceSchedProcessExit_tracking,hexit]
    rfl

/-- A tracked process in a sound state has an exact verdict on the exits of its first thread. -/
theorem Sound.exact (h : Sound arch p sys) (htracks : Tracks sys.st.toTrackingState p) :
    ExactVerdict arch routes p sys := by
  refine ⟨?_,(h.armed htracks).slot_none,?_⟩
  · intro event henabled horderly hends
    cases event with
    | leaderReplaced inv exitCode tid => exact iff_of_true (h.swallowed htracks henabled) rfl
    | leaderExit inv exitCode =>
      refine iff_of_false ?_ (by simp [ThreadEvent.replacesLeader])
      have hquiet : ∀ tid, ¬Replaces p sys.proc tid := by
        intro tid hreplaces
        exact hreplaces.1 ((horderly tid hreplaces).trans henabled.2.1)
      rintro ⟨-,hkept⟩
      obtain ⟨flags,hflags,-⟩ := (BpfTracking.tracks_iff _ _).mp htracks
      have hnone := (h.reported htracks hquiet henabled).1
      rw [←hkept] at hflags
      exact Option.some_ne_none flags (hflags.symm.trans hnone)
    | _ => simp [ThreadEvent.endsLeader] at hends
  · intro hquiet inv exitCode henabled
    exact h.reported htracks hquiet henabled

/-- Along every orderly run of the threads of a process, whatever syscalls are selected, the exit
of its first thread is swallowed exactly when the exec of another thread causes it; once every such
exec is over the slot is empty, and a later exit is reported and ends the tracking. -/
theorem leader_exit_verdict_exact (arch : Arch) (routes : Routes arch)
    (hroutes : ExecRouted routes) (p : UInt32) (sys : ProcessSystem) (events : List ThreadEvent)
    (hstart : Started arch p sys) (henabled : EnabledRun arch routes p sys events)
    (horderly : OrderlyRun arch routes p sys events)
    (htracks : Tracks (sys.run arch routes events).st.toTrackingState p) :
    ExactVerdict arch routes p (sys.run arch routes events) :=
  (hstart.sound.run hroutes henabled horderly).exact htracks

/-- A traced process of two threads under a syscall filter that lists `write` and says whether
`execve` is selected. -/
def twoThreads (selected : UInt32) : ProcessSystem where
  st :=
    { config := configSyscallFilter|||configEmitLifecycle
      syscallFilterMap := (Finmap.singleton 1 1).insert (sysExecve .amd64) selected
      filterMap := Finmap.singleton 200 filterTaskTracked }
  proc := { threads := (Finmap.singleton 200 ⟨2,none⟩).insert 201 ⟨3,none⟩ }

/-- The second thread enters `execve` and returns with an error. -/
def failedExec : List ThreadEvent :=
  [.enter (.ofTask 3 200 201) { sysID := sysExecve .amd64 } true,
    .leave (.ofTask 3 200 201) ⟨59,-2,{},[]⟩]

theorem twoThreads_started (selected : UInt32) : Started .amd64 200 (twoThreads selected) := by
  have hlookup : ∀ tid thread, (twoThreads selected).proc.threads.lookup tid=some thread →
      tid=201 ∧ thread=⟨3,none⟩ ∨ tid=200 ∧ thread=⟨2,none⟩ := by
    intro tid thread hfound
    unfold twoThreads at hfound
    rw [lookup_insert_ite] at hfound
    split_ifs at hfound with heq
    · exact .inl ⟨heq,(Option.some.inj hfound).symm⟩
    · have hmem := Finmap.mem_of_lookup_eq_some hfound
      rw [Finmap.mem_singleton] at hmem
      rw [hmem,Finmap.lookup_singleton_eq] at hfound
      exact .inr ⟨hmem,(Option.some.inj hfound).symm⟩
  have houtside : ∀ tid thread, (twoThreads selected).proc.threads.lookup tid=some thread →
      thread.inside=none := by
    intro tid thread hfound
    rcases hlookup tid thread hfound with ⟨-,rfl⟩ | ⟨-,rfl⟩
    · rfl
    · rfl
  refine ⟨rfl,?_,?_,?_⟩
  · rintro tid ⟨-,thread,opened,hfound,hinside,-⟩
    rw [houtside tid thread hfound] at hinside
    cases hinside
  · intro tid other thread otherThread hfound hother htask
    rcases hlookup tid thread hfound with ⟨rfl,rfl⟩ | ⟨rfl,rfl⟩
    · rcases hlookup other otherThread hother with ⟨rfl,rfl⟩ | ⟨rfl,rfl⟩
      · rfl
      · cases htask
    · rcases hlookup other otherThread hother with ⟨rfl,rfl⟩ | ⟨rfl,rfl⟩
      · cases htask
      · rfl
  · intro tid thread opened hfound hinside
    rw [houtside tid thread hfound] at hinside
    cases hinside

theorem failedExec_enabled (selected : UInt32) :
    EnabledRun .amd64 (Routes.execOnly .amd64) 200 (twoThreads selected) failedExec := by
  refine ⟨⟨⟨3,none⟩,⟨rfl,rfl,rfl⟩,rfl,fun _ => rfl⟩,?_,trivial⟩
  refine ⟨⟨3,some ⟨59,true,true⟩⟩,⟨59,true,true⟩,⟨rfl,rfl,rfl⟩,rfl,by decide,rfl,?_⟩
  intro _
  exact ⟨by decide,fun _ => ⟨by decide,(Option.some_ne_none _).symm⟩⟩

/-- The second thread is the only one that enters an exec. -/
theorem failedExec_alone (selected : UInt32) :
    Alone 200 ((twoThreads selected).proc.after
      (.enter (.ofTask 3 200 201) { sysID := sysExecve .amd64 } true)) 201 := by
  rintro other ⟨hne,thread,opened,hfound,hopened⟩
  by_contra hother
  have hbefore : (twoThreads selected).proc.threads.lookup other=some thread :=
    (Finmap.lookup_insert_of_ne _ hother).symm.trans hfound
  exact (twoThreads_started selected).quiet other ⟨hne,thread,opened,hbefore,hopened⟩

/-- After the return no thread is inside an exec. -/
theorem failedExec_quiet (selected tid : UInt32) :
    ¬Replaces 200 ((twoThreads selected).run .amd64 (Routes.execOnly .amd64) failedExec).proc
      tid := by
  rintro ⟨hne,thread,opened,hfound,hopened⟩
  have hlookup : ((twoThreads selected).run .amd64 (Routes.execOnly .amd64)
    failedExec).proc.threads=
      ((twoThreads selected).proc.after
        (.enter (.ofTask 3 200 201) { sysID := sysExecve .amd64 } true)).threads.insert 201
          ⟨3,none⟩ := rfl
  rw [hlookup,lookup_insert_ite] at hfound
  split_ifs at hfound with heq
  · rw [←Option.some.inj hfound] at hopened
    cases hopened.1
  · exact heq (failedExec_alone selected tid ⟨hne,thread,opened,hfound,hopened⟩)

/-- With `execve` selected the failed exec leaves the verdict exact. -/
theorem selectedExec_verdict_exact :
    Started .amd64 200 (twoThreads 1) ∧
    EnabledRun .amd64 (Routes.execOnly .amd64) 200 (twoThreads 1) failedExec ∧
    OrderlyRun .amd64 (Routes.execOnly .amd64) 200 (twoThreads 1) failedExec ∧
    ExactVerdict .amd64 (Routes.execOnly .amd64) 200
      ((twoThreads 1).run .amd64 (Routes.execOnly .amd64) failedExec) := by
  have hroutes : ExecRouted (Routes.execOnly .amd64) := by
    intro sysID hroute
    by_contra hother
    have hnone : (Routes.execOnly .amd64).enter sysID=none := if_neg hother
    rw [hnone] at hroute
    cases hroute
  have horderly : OrderlyRun .amd64 (Routes.execOnly .amd64) 200 (twoThreads 1) failedExec := by
    refine ⟨fun _ => ⟨?_,fun _ _ => ⟨rfl,rfl,fun _ => .inr rfl⟩⟩,fun _ => ⟨?_,?_⟩,trivial⟩
    · intro hforeign
      cases hforeign
    · exact fun _ => failedExec_alone 1
    · exact fun _ => ⟨by decide +kernel,failedExec_alone 1⟩
  have hstart := twoThreads_started 1
  have henabled := failedExec_enabled 1
  refine ⟨hstart,henabled,horderly,?_⟩
  refine leader_exit_verdict_exact .amd64 (Routes.execOnly .amd64) hroutes 200 (twoThreads 1)
    failedExec hstart henabled horderly ?_
  unfold Tracks
  decide +kernel

/-- With `execve` not selected the failed exec leaves the slot armed, and the exit of the first
thread is swallowed although no thread is inside an exec. -/
theorem unselectedExec_swallows_exit :
    Started .amd64 200 (twoThreads 0) ∧
    EnabledRun .amd64 (Routes.execOnly .amd64) 200 (twoThreads 0) failedExec ∧
    Tracks ((twoThreads 0).run .amd64 (Routes.execOnly .amd64) failedExec).st.toTrackingState 200 ∧
    (∀ tid, ¬Replaces 200
      ((twoThreads 0).run .amd64 (Routes.execOnly .amd64) failedExec).proc tid) ∧
    slot 200 ((twoThreads 0).run .amd64 (Routes.execOnly .amd64) failedExec).st.toTrackingState=
      some 201 ∧
    Enabled .amd64 200 ((twoThreads 0).run .amd64 (Routes.execOnly .amd64) failedExec).proc
      (.leaderExit (.ofTask 2 200 200) 0) ∧
    Swallowed 200 ((twoThreads 0).run .amd64 (Routes.execOnly .amd64) failedExec).st
      (traceSchedProcessExit (.ofTask 2 200 200) 0
        ((twoThreads 0).run .amd64 (Routes.execOnly .amd64) failedExec).st) := by
  have htracks : Tracks
      ((twoThreads 0).run .amd64 (Routes.execOnly .amd64) failedExec).st.toTrackingState 200 := by
    unfold Tracks
    decide +kernel
  refine ⟨twoThreads_started 0,failedExec_enabled 0,htracks,failedExec_quiet 0,
    by decide +kernel,?_,?_,by decide +kernel⟩
  · exact ⟨⟨⟨2,none⟩,rfl,by decide +kernel,rfl⟩,rfl,rfl⟩
  · refine not_reportsExit 0 ?_ ?_
    · exact Tracks.traced htracks 200
    · decide +kernel

end Reachable

end StraceGo.BpfExecReplacement

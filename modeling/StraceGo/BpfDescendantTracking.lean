import StraceGo.BpfTracking

/-!
# Tracked tasks are the descendants of the root

A system of live tasks whose forks, execs and exits run the lifecycle
programs. Beside the maps it remembers, for each live task, whether the task
descends from the root and whether its parent was traced when it forked. With
followed children the programs trace exactly the descendants, although entries
are installed for each thread, removed for each process or thread, and looked
up by process first.

A number is in use while some live task has it as its thread or as its process
id; a fork takes a number that is not in use.
-/

namespace StraceGo.BpfDescendantTracking

open StraceGo.FiniteMaps StraceGo.BpfRuntime StraceGo.BpfPendingState StraceGo.BpfLifecycle
open StraceGo.BpfTracking

/-- A live task, with what is remembered of its birth. -/
structure LiveTask where
  /-- Process of the task. -/
  tgid : UInt32
  /-- Whether the task is the root or a child of a task that descends from it. -/
  descends : Bool
  /-- Whether the task is the root or its parent was traced when it forked. -/
  bornTracked : Bool
  deriving DecidableEq, Repr

/-- The live tasks beside the state of the programs. -/
structure ForkSystem where
  /-- State of the programs. -/
  st : RuntimeState
  /-- Live tasks by thread id. -/
  live : GoMap UInt32 LiveTask

/-- A lifecycle event of a live task. -/
inductive LifecycleEvent where
  | fork (inv : Invocation) (child : UInt32) (thread : Bool)
  | exec (inv : Invocation) (filename : String)
  | exit (inv : Invocation) (exitCode : UInt64)

/-- Whether no live task has a number as its thread or process id. -/
def Unused (live : GoMap UInt32 LiveTask) (id : UInt32) : Prop :=
  live.lookup id=none ∧ ∀ tid task, live.lookup tid=some task → task.tgid≠id

instance (live : GoMap UInt32 LiveTask) (id : UInt32) : Decidable (Unused live id) :=
  decidable_of_iff (live.lookup id=none ∧ ∀ entry∈live.entries, entry.2.tgid≠id)
    (and_congr_right'
      ⟨fun h tid task hlookup => h ⟨tid,task⟩ (Finmap.lookup_eq_some_iff.mp hlookup),
        fun h entry hentry => h entry.1 entry.2 (Finmap.lookup_eq_some_iff.mpr hentry)⟩)

/-- The current task is a live one and no map update of the program run fails. -/
def Current (sys : ForkSystem) (inv : Invocation) : Prop :=
  (∃ task, sys.live.lookup inv.tid=some task ∧ task.tgid=inv.pid) ∧
  ∀ site, inv.updateSucceeds site=true

/-- What the kernel promises of an event. -/
def Enabled (sys : ForkSystem) : LifecycleEvent → Prop
  | .fork inv child _ => Current sys inv ∧ Unused sys.live child
  | .exec inv _ => Current sys inv ∧ inv.tid=inv.pid
  | .exit inv _ => Current sys inv

/-- Run the program of an event and update the live tasks. -/
def apply (arch : Arch) (sys : ForkSystem) : LifecycleEvent → ForkSystem
  | .fork inv child thread =>
    { st := traceSchedProcessFork inv child sys.st
      live := sys.live.insert child
        { tgid := if thread then inv.pid else child
          descends := ((sys.live.lookup inv.tid).map LiveTask.descends).getD false
          bornTracked := isLifecycleTaskTracked sys.st.toTrackingState inv.pid inv.tid } }
  | .exec inv filename =>
    { sys with st := traceSchedProcessExec arch inv inv.tid filename sys.st }
  | .exit inv exitCode =>
    { st := traceSchedProcessExit inv exitCode sys.st
      live := sys.live.erase inv.tid }

/-- State after a sequence of events. -/
def run (arch : Arch) (sys : ForkSystem) (events : List LifecycleEvent) : ForkSystem :=
  events.foldl (apply arch) sys

/-- Every event of a sequence is one the kernel may produce when it happens. -/
def EnabledRun (arch : Arch) : ForkSystem → List LifecycleEvent → Prop
  | _,[] => True
  | sys,event::events => Enabled sys event ∧ EnabledRun arch (apply arch sys event) events

/-- One traced root, children followed, no armed parent, nothing inside an exec. -/
structure Started (sys : ForkSystem) (root : UInt32) : Prop where
  /-- Children are followed. -/
  follow : hasBit sys.st.config configFollowForks=true
  /-- No process is armed. -/
  arm : sys.st.armForkMap=0
  /-- No thread is inside an exec. -/
  slot : sys.st.pendingExecMap=∅
  /-- The filter holds the root only. -/
  filter : ∃ flags, sys.st.filterMap=Finmap.singleton root flags ∧
    hasBit flags filterTaskTracked=true
  /-- The root is live. -/
  rootLive : ∃ task, sys.live.lookup root=some task
  /-- The root is the only task of its own process id. -/
  alone : ∀ tid task, sys.live.lookup tid=some task → task.tgid=root → tid=root
  /-- Only the root counts as its own descendant. -/
  birth : ∀ tid task, sys.live.lookup tid=some task →
    task.descends=decide (tid=root) ∧ task.bornTracked=decide (tid=root)

/-- What every reachable system keeps. -/
structure Faithful (sys : ForkSystem) : Prop where
  /-- Children are followed. -/
  follow : hasBit sys.st.config configFollowForks=true
  /-- No process is armed. -/
  arm : sys.st.armForkMap=0
  /-- No thread is inside an exec. -/
  slot : sys.st.pendingExecMap=∅
  /-- Every entry is a tracked one. -/
  tracked : ∀ id flags, sys.st.filterMap.lookup id=some flags →
    hasBit flags filterTaskTracked=true
  /-- Every entry is that of a live task. -/
  entry : ∀ id, (sys.st.filterMap.lookup id).isSome=true → (sys.live.lookup id).isSome=true
  /-- Descendants are the tasks with an entry of their own. -/
  own : ∀ tid task, sys.live.lookup tid=some task →
    task.descends=(sys.st.filterMap.lookup tid).isSome ∧ task.bornTracked=task.descends
  /-- In a process with an entry every thread has its own. -/
  group : ∀ tid task, sys.live.lookup tid=some task →
    (sys.st.filterMap.lookup task.tgid).isSome=true → (sys.st.filterMap.lookup tid).isSome=true

section Invariant

variable {arch : Arch} {sys : ForkSystem}

/-- In a faithful system tracking by id is having an entry. -/
theorem Faithful.tracks_iff (h : Faithful sys) (id : UInt32) :
    Tracks sys.st.toTrackingState id ↔ (sys.st.filterMap.lookup id).isSome=true := by
  rw [BpfTracking.tracks_iff,Option.isSome_iff_exists]
  constructor
  · rintro ⟨flags,hlookup,-⟩
    exact ⟨flags,hlookup⟩
  · rintro ⟨flags,hlookup⟩
    exact ⟨flags,hlookup,h.tracked id flags hlookup⟩

/-- In a faithful system a live task is traced exactly when it has an entry of its own. -/
theorem Faithful.tracked_eq (h : Faithful sys) {tid : UInt32} {task : LiveTask}
    (hlive : sys.live.lookup tid=some task) :
    isLifecycleTaskTracked sys.st.toTrackingState task.tgid tid=
      (sys.st.filterMap.lookup tid).isSome := by
  rw [Bool.eq_iff_iff,isLifecycleTaskTracked_iff,h.tracks_iff,h.tracks_iff]
  constructor
  · rintro (hgroup | hown)
    · exact h.group tid task hlive hgroup
    · exact hown
  · exact Or.inr

/-- The start is faithful. -/
theorem Started.faithful {root : UInt32} (h : Started sys root) : Faithful sys := by
  obtain ⟨flags,hfilter,hflags⟩ := h.filter
  have hlookup : ∀ id, sys.st.filterMap.lookup id=if id=root then some flags else none := by
    intro id
    rw [hfilter]
    by_cases hid : id=root
    · rw [if_pos hid,hid,Finmap.lookup_singleton_eq]
    · rw [if_neg hid,Finmap.lookup_eq_none]
      exact fun hmem => hid (Finmap.mem_singleton id root flags |>.mp hmem)
  refine ⟨h.follow,h.arm,h.slot,?_,?_,?_,?_⟩
  · intro id word hword
    rw [hlookup] at hword
    split_ifs at hword
    cases hword
    exact hflags
  · intro id hid
    rw [hlookup] at hid
    split_ifs at hid with hroot
    · obtain ⟨task,htask⟩ := h.rootLive
      rw [hroot,htask]
      rfl
    · cases hid
  · intro tid task hlive
    obtain ⟨hdescends,hborn⟩ := h.birth tid task hlive
    refine ⟨?_,hborn.trans hdescends.symm⟩
    rw [hdescends,hlookup]
    split_ifs with hroot <;> simp [hroot]
  · intro tid task hlive hgroup
    rw [hlookup] at hgroup ⊢
    split_ifs at hgroup with hroot
    · rw [if_pos (h.alone tid task hlive hroot)]
      rfl
    · cases hgroup

/-- Tracking maps without arms and exec slots whose entries are the given ids. -/
structure Entries (t : TrackingState) (config : UInt32) (entries : UInt32 → Bool) : Prop where
  /-- The configuration. -/
  config_eq : t.config=config
  /-- No process is armed. -/
  arm : t.armForkMap=0
  /-- No thread is inside an exec. -/
  slot : t.pendingExecMap=∅
  /-- Every entry is a tracked one. -/
  tracked : ∀ id flags, t.filterMap.lookup id=some flags → hasBit flags filterTaskTracked=true
  /-- The entries. -/
  isSome_eq : ∀ id, (t.filterMap.lookup id).isSome=entries id

/-- The entries of a faithful system. -/
theorem Faithful.entries (h : Faithful sys) :
    Entries sys.st.toTrackingState sys.st.config (fun id => (sys.st.filterMap.lookup id).isSome) :=
  ⟨rfl,h.arm,h.slot,h.tracked,fun _ => rfl⟩

/-- A fork of a traced task adds the child's entry, another fork adds nothing. -/
theorem Entries.fork {t : TrackingState} {config : UInt32} {entries : UInt32 → Bool}
    (h : Entries t config entries) (hfollow : hasBit config configFollowForks=true)
    {inv : Invocation} (hok : ∀ site, inv.updateSucceeds site=true) {child : UInt32}
    (hchild : entries child=false) :
    Entries (fork inv child t) config (fun id => if id=child then
      isLifecycleTaskTracked t inv.pid inv.tid else entries id) := by
  have harm : armChild inv child t=t := by
    unfold armChild
    rw [if_neg]
    rintro ⟨⟨hne,-⟩,-⟩
    exact hne h.arm
  unfold BpfTracking.fork
  dsimp only
  rw [harm]
  cases isLifecycleTaskTracked t inv.pid inv.tid with
  | false =>
    rw [if_neg Bool.false_ne_true]
    refine ⟨h.config_eq,h.arm,h.slot,h.tracked,?_⟩
    intro id
    rw [h.isSome_eq]
    split_ifs with hid
    · rw [hid,hchild]
    · rfl
  | true =>
    rw [if_pos rfl,followChild,if_pos ⟨by rw [h.config_eq]; exact hfollow,hok _⟩]
    refine ⟨h.config_eq,h.arm,h.slot,?_,?_⟩
    · intro id flags hlookup
      dsimp only at hlookup
      rw [lookup_insert_ite] at hlookup
      split_ifs at hlookup with hid
      · cases hlookup
        exact hasBit_tracked_or _
      · exact h.tracked id flags hlookup
    · intro id
      dsimp only
      rw [lookup_insert_ite]
      split_ifs with hid
      · rfl
      · exact h.isSome_eq id

/-- Entries do not depend on the pending enters. -/
theorem Entries.clearPending {t : TrackingState} {config : UInt32} {entries : UInt32 → Bool}
    (h : Entries t config entries) (task : TaskID) :
    Entries (clearPending task t) config entries :=
  ⟨h.config_eq,h.arm,h.slot,h.tracked,h.isSome_eq⟩

/-- Dropping an armed flag keeps the entries. -/
theorem Entries.disarm {t : TrackingState} {config : UInt32} {entries : UInt32 → Bool}
    (h : Entries t config entries) (inv : Invocation) : Entries (disarm inv t) config entries := by
  unfold BpfTracking.disarm
  cases hlookup : t.filterMap.lookup inv.tid with
  | none => exact h
  | some word =>
    dsimp only
    by_cases hdrop : hasBit word filterTaskPreExec=true ∧
        inv.updateSucceeds .clearPreExecFilter=true
    · rw [if_pos hdrop]
      refine ⟨h.config_eq,?_,h.slot,?_,?_⟩
      · dsimp only
        rw [h.arm,ite_self]
      · intro id flags hflags
        dsimp only at hflags
        rw [lookup_insert_ite] at hflags
        split_ifs at hflags with hid
        · cases hflags
          rw [hasBit_tracked_dropPreExec]
          exact h.tracked inv.tid word hlookup
        · exact h.tracked id flags hflags
      · intro id
        dsimp only
        rw [lookup_insert_ite,←h.isSome_eq id]
        split_ifs with hid
        · rw [hid,hlookup]
          rfl
        · rfl
    · rw [if_neg hdrop]
      exact h

/-- Forgetting the exec slot of a process keeps the entries. -/
theorem Entries.eraseSlot {t : TrackingState} {config : UInt32} {entries : UInt32 → Bool}
    (h : Entries t config entries) (pid : UInt32) :
    Entries { t with pendingExecMap := t.pendingExecMap.erase pid } config entries := by
  have hslot : t.pendingExecMap.erase pid=∅ := by
    rw [h.slot]
    exact erase_eq_self (Finmap.lookup_empty pid)
  exact ⟨h.config_eq,h.arm,hslot,h.tracked,h.isSome_eq⟩

/-- An exec by a first thread keeps the entries. -/
theorem Entries.exec {t : TrackingState} {config : UInt32} {entries : UInt32 → Bool}
    (h : Entries t config entries) (arch : Arch) (inv : Invocation) :
    Entries (exec arch inv inv.tid t) config entries := by
  unfold BpfTracking.exec adopt
  rw [if_pos (Or.inr rfl)]
  cases isLifecycleTaskTracked t inv.pid inv.tid with
  | false => exact h
  | true =>
    rw [if_pos rfl]
    dsimp only
    unfold complete
    dsimp only
    split_ifs
    · exact ((h.disarm inv).clearPending inv.task).eraseSlot inv.pid
    · exact (h.disarm inv).eraseSlot inv.pid

/-- An exit removes the entry of the exiting task. -/
theorem Entries.exit {t : TrackingState} {config : UInt32} {entries : UInt32 → Bool}
    (h : Entries t config entries) {inv : Invocation}
    (htracked : isLifecycleTaskTracked t inv.pid inv.tid=entries inv.tid) :
    Entries (exit inv t) config (fun id => if id=inv.tid then false else entries id) := by
  have hreplaced : isExecReplacedLeader t inv.pid inv.tid=false := by
    unfold isExecReplacedLeader
    rw [h.slot,Finmap.lookup_empty,Option.any_none,Bool.and_false]
  have hremoved : ∀ id, ((t.filterMap.erase inv.tid).lookup id).isSome=
      if id=inv.tid then false else entries id := by
    intro id
    rw [lookup_erase_ite,←h.isSome_eq id]
    split_ifs <;> rfl
  have hkept : ∀ id flags, (t.filterMap.erase inv.tid).lookup id=some flags →
      hasBit flags filterTaskTracked=true := by
    intro id flags hflags
    rw [lookup_erase_ite] at hflags
    split_ifs at hflags
    exact h.tracked id flags hflags
  have hslot : ∀ pid, t.pendingExecMap.erase pid=∅ := by
    intro pid
    rw [h.slot]
    exact erase_eq_self (Finmap.lookup_empty pid)
  unfold BpfTracking.exit
  rw [hreplaced,if_neg Bool.false_ne_true]
  cases hcase : isLifecycleTaskTracked t inv.pid inv.tid with
  | false =>
    rw [Bool.not_false,if_pos rfl]
    refine ⟨h.config_eq,h.arm,h.slot,h.tracked,?_⟩
    intro id
    rw [h.isSome_eq]
    split_ifs with hid
    · rw [hid,←htracked,hcase]
    · rfl
  | true =>
    rw [Bool.not_true,if_neg Bool.false_ne_true]
    unfold clearTask
    dsimp only
    by_cases heq : inv.tid=inv.pid
    · rw [if_neg (not_not.mpr heq),←heq]
      refine ⟨h.config_eq,?_,hslot inv.tid,hkept,hremoved⟩
      split_ifs
      · rfl
      · exact h.arm
    · rw [if_pos heq]
      refine ⟨h.config_eq,h.arm,?_,hkept,hremoved⟩
      split_ifs
      · exact hslot inv.pid
      · exact h.slot

/-- Entries and live tasks that belong together make a faithful system. -/
theorem Faithful.of_entries (sys : ForkSystem) (entries : UInt32 → Bool)
    (h : Entries sys.st.toTrackingState sys.st.config entries)
    (hfollow : hasBit sys.st.config configFollowForks=true)
    (hentry : ∀ id, entries id=true → (sys.live.lookup id).isSome=true)
    (hown : ∀ tid task, sys.live.lookup tid=some task →
      task.descends=entries tid ∧ task.bornTracked=task.descends)
    (hgroup : ∀ tid task, sys.live.lookup tid=some task → entries task.tgid=true →
      entries tid=true) : Faithful sys := by
  refine ⟨hfollow,h.arm,h.slot,h.tracked,?_,?_,?_⟩
  · intro id hid
    exact hentry id (h.isSome_eq id ▸ hid)
  · intro tid task hlive
    rw [h.isSome_eq]
    exact hown tid task hlive
  · intro tid task hlive hid
    rw [h.isSome_eq] at hid ⊢
    exact hgroup tid task hlive hid

/-- The task of an enabled event is traced exactly when it descends from the root. -/
theorem Faithful.tracked_current (h : Faithful sys) {inv : Invocation} {task : LiveTask}
    (hlive : sys.live.lookup inv.tid=some task) (hpid : task.tgid=inv.pid) :
    isLifecycleTaskTracked sys.st.toTrackingState inv.pid inv.tid=task.descends := by
  rw [(h.own inv.tid task hlive).1,←h.tracked_eq hlive,hpid]

/-- A fork keeps the system faithful. -/
theorem Faithful.fork (h : Faithful sys) {inv : Invocation} {child : UInt32} {thread : Bool}
    (henabled : Enabled sys (.fork inv child thread)) :
    Faithful (apply arch sys (.fork inv child thread)) := by
  obtain ⟨⟨⟨parent,hparent,hpid⟩,hok⟩,hunused⟩ := henabled
  have hnone : (sys.st.filterMap.lookup child).isSome=false := by
    by_contra hsome
    have hlive := h.entry child (Bool.eq_true_of_not_eq_false hsome)
    rw [hunused.1] at hlive
    cases hlive
  have htracked := h.tracked_current hparent hpid
  have hentries := h.entries.fork h.follow hok hnone
  rw [htracked] at hentries
  have hstate := traceSchedProcessFork_tracking inv child sys.st
  have hconfig : (traceSchedProcessFork inv child sys.st).config=sys.st.config := by
    rw [hstate,hentries.config_eq]
  have hlookup : ∀ tid, (apply arch sys (.fork inv child thread)).live.lookup tid=
      if tid=child then some ⟨if thread then inv.pid else child,parent.descends,parent.descends⟩
      else sys.live.lookup tid := by
    intro tid
    dsimp only [apply]
    rw [lookup_insert_ite,hparent,htracked]
    rfl
  have hparentEntry := (h.own inv.tid parent hparent).1
  apply Faithful.of_entries (apply arch sys (.fork inv child thread))
    (fun id => if id=child then parent.descends else (sys.st.filterMap.lookup id).isSome)
  · dsimp only [apply]
    rw [hstate,hentries.config_eq]
    exact hentries
  · dsimp only [apply]
    rw [hconfig]
    exact h.follow
  · intro id hid
    rw [hlookup]
    by_cases hchild : id=child
    · rw [if_pos hchild]
      rfl
    · rw [if_neg hchild] at hid ⊢
      exact h.entry id hid
  · intro tid task hlive
    rw [hlookup] at hlive
    by_cases hchild : tid=child
    · rw [if_pos hchild] at hlive ⊢
      cases hlive
      exact ⟨rfl,rfl⟩
    · rw [if_neg hchild] at hlive ⊢
      exact h.own tid task hlive
  · intro tid task hlive hgroup
    rw [hlookup] at hlive
    by_cases hchild : tid=child
    · rw [if_pos hchild] at hlive ⊢
      cases hlive
      by_cases htgid : (if thread then inv.pid else child)=child
      · rw [if_pos htgid] at hgroup
        exact hgroup
      · rw [if_neg htgid] at hgroup
        cases thread with
        | false => exact absurd rfl htgid
        | true =>
          rw [hparentEntry]
          apply h.group inv.tid parent hparent
          rw [hpid]
          exact hgroup
    · rw [if_neg hchild] at hlive ⊢
      rw [if_neg (hunused.2 tid task hlive)] at hgroup
      exact h.group tid task hlive hgroup

/-- An exec keeps the system faithful. -/
theorem Faithful.exec (h : Faithful sys) (inv : Invocation) (filename : String) :
    Faithful (apply arch sys (.exec inv filename)) := by
  have hentries := h.entries.exec arch inv
  have hstate := traceSchedProcessExec_tracking arch inv inv.tid filename sys.st
  apply Faithful.of_entries (apply arch sys (.exec inv filename))
    (fun id => (sys.st.filterMap.lookup id).isSome)
  · dsimp only [apply]
    rw [hstate,hentries.config_eq]
    exact hentries
  · dsimp only [apply]
    rw [hstate,hentries.config_eq]
    exact h.follow
  · exact h.entry
  · exact h.own
  · exact h.group

/-- An exit keeps the system faithful. -/
theorem Faithful.exit (h : Faithful sys) {inv : Invocation} {exitCode : UInt64}
    (henabled : Enabled sys (.exit inv exitCode)) :
    Faithful (apply arch sys (.exit inv exitCode)) := by
  obtain ⟨⟨task,hlive,hpid⟩,-⟩ := henabled
  have htracked : isLifecycleTaskTracked sys.st.toTrackingState inv.pid inv.tid=
      (sys.st.filterMap.lookup inv.tid).isSome := by
    rw [h.tracked_current hlive hpid,(h.own inv.tid task hlive).1]
  have hentries := h.entries.exit htracked
  have hstate := traceSchedProcessExit_tracking inv exitCode sys.st
  have hlookup : ∀ tid, (apply arch sys (.exit inv exitCode)).live.lookup tid=
      if tid=inv.tid then none else sys.live.lookup tid :=
    fun tid => lookup_erase_ite sys.live inv.tid tid
  apply Faithful.of_entries (apply arch sys (.exit inv exitCode))
    (fun id => if id=inv.tid then false else (sys.st.filterMap.lookup id).isSome)
  · dsimp only [apply]
    rw [hstate,hentries.config_eq]
    exact hentries
  · dsimp only [apply]
    rw [hstate,hentries.config_eq]
    exact h.follow
  · intro id hid
    rw [hlookup]
    split_ifs at hid ⊢
    exact h.entry id hid
  · intro tid other hother
    rw [hlookup] at hother
    split_ifs at hother ⊢
    exact h.own tid other hother
  · intro tid other hother hgroup
    rw [hlookup] at hother
    split_ifs at hother hgroup ⊢
    exact h.group tid other hother hgroup

/-- Every event keeps the system faithful. -/
theorem Faithful.apply (h : Faithful sys) {event : LifecycleEvent} (henabled : Enabled sys event) :
    Faithful (apply arch sys event) := by
  cases event with
  | fork inv child thread => exact h.fork henabled
  | exec inv filename => exact h.exec inv filename
  | exit inv exitCode => exact h.exit henabled

/-- Every reachable system is faithful. -/
theorem Faithful.run (h : Faithful sys) {events : List LifecycleEvent}
    (hrun : EnabledRun arch sys events) : Faithful (run arch sys events) := by
  induction events generalizing sys with
  | nil => exact h
  | cons event events ih => exact ih (h.apply hrun.1) hrun.2

end Invariant

/-- Following children traces exactly the descendants of the root: in every state that forks,
leader execs and exits reach from one traced root, a live task is considered traced if and only
if it is the root or descends from it through a chain of forks, equivalently if and only if it is
the root or was forked by a task traced at the time; and no thread id keeps a filter entry after
its exit. -/
theorem tracked_iff_descends (arch : Arch) (sys : ForkSystem) (root : UInt32)
    (events : List LifecycleEvent) (hstart : Started sys root)
    (hrun : EnabledRun arch sys events) :
    (∀ tid task, (run arch sys events).live.lookup tid=some task →
      (isLifecycleTaskTracked (run arch sys events).st.toTrackingState task.tgid tid=true ↔
        task.descends=true) ∧
      (isLifecycleTaskTracked (run arch sys events).st.toTrackingState task.tgid tid=true ↔
        task.bornTracked=true)) ∧
    (∀ tid, (run arch sys events).live.lookup tid=none →
      (run arch sys events).st.filterMap.lookup tid=none) := by
  have h := hstart.faithful.run hrun
  constructor
  · intro tid task hlive
    rw [h.tracked_eq hlive,←(h.own tid task hlive).1,(h.own tid task hlive).2]
    exact ⟨Iff.rfl,Iff.rfl⟩
  · intro tid hdead
    by_contra hentry
    have hlive := h.entry tid (Option.isSome_iff_ne_none.mpr hentry)
    rw [hdead] at hlive
    cases hlive

/-- A traced root 100 beside an untraced task 50. -/
def rootedSystem : ForkSystem where
  st := { config := configFollowForks, filterMap := Finmap.singleton 100 filterTaskTracked }
  live := (Finmap.singleton 50 ⟨50,false,false⟩).insert 100 ⟨100,true,true⟩

/-- The root forks 200, which starts a thread and exits before it; the thread forks 300 and
exits, and the untraced task reuses the number 200. -/
def reusedNumberRun : List LifecycleEvent :=
  [.fork (.ofTask 1 100 100) 200 false,.fork (.ofTask 2 200 200) 201 true,
    .exit (.ofTask 2 200 200) 0,.fork (.ofTask 3 200 201) 300 false,.exit (.ofTask 3 200 201) 0,
    .fork (.ofTask 4 50 50) 200 false]

/-- The system starts with one traced root. -/
theorem rootedSystem_started : Started rootedSystem 100 := by
  have hlookup : ∀ tid task, rootedSystem.live.lookup tid=some task →
      (tid=100 ∧ task=⟨100,true,true⟩) ∨ (tid=50 ∧ task=⟨50,false,false⟩) := by
    intro tid task hlive
    unfold rootedSystem at hlive
    dsimp only at hlive
    rw [lookup_insert_ite] at hlive
    split_ifs at hlive with hroot
    · exact Or.inl ⟨hroot,(Option.some.inj hlive).symm⟩
    · have hother : tid=50 := by
        have hmem := Finmap.mem_of_lookup_eq_some hlive
        exact (Finmap.mem_singleton tid 50 _).mp hmem
      rw [hother,Finmap.lookup_singleton_eq] at hlive
      exact Or.inr ⟨hother,(Option.some.inj hlive).symm⟩
  refine ⟨by decide,rfl,rfl,⟨filterTaskTracked,rfl,by decide⟩,⟨⟨100,true,true⟩,rfl⟩,?_,?_⟩
  · intro tid task hlive htgid
    rcases hlookup tid task hlive with ⟨htid,-⟩ | ⟨-,htask⟩
    · exact htid
    · rw [htask] at htgid
      cases htgid
  · intro tid task hlive
    rcases hlookup tid task hlive with ⟨htid,htask⟩ | ⟨htid,htask⟩
    · rw [htid,htask]
      exact ⟨rfl,rfl⟩
    · rw [htid,htask]
      exact ⟨rfl,rfl⟩

/-- Every number the run takes is unused when it is taken. -/
theorem reusedNumberRun_enabled : EnabledRun .amd64 rootedSystem reusedNumberRun := by
  have hok : ∀ task pid tid site, (Invocation.ofTask task pid tid).updateSucceeds site=true :=
    fun _ _ _ _ => rfl
  refine ⟨⟨⟨⟨⟨100,true,true⟩,rfl,rfl⟩,hok _ _ _⟩,?_⟩,⟨⟨⟨⟨200,true,true⟩,rfl,rfl⟩,hok _ _ _⟩,?_⟩,
    ⟨⟨⟨200,true,true⟩,rfl,rfl⟩,hok _ _ _⟩,⟨⟨⟨⟨200,true,true⟩,rfl,rfl⟩,hok _ _ _⟩,?_⟩,
    ⟨⟨⟨200,true,true⟩,rfl,rfl⟩,hok _ _ _⟩,⟨⟨⟨⟨50,false,false⟩,rfl,rfl⟩,hok _ _ _⟩,?_⟩,trivial⟩
  · decide +kernel
  · decide +kernel
  · decide +kernel
  · decide +kernel

theorem reusedNumberRun_tracked :
    EnabledRun .amd64 rootedSystem reusedNumberRun ∧
    isLifecycleTaskTracked (run .amd64 rootedSystem reusedNumberRun).st.toTrackingState 300 300=
      true ∧
    isLifecycleTaskTracked (run .amd64 rootedSystem reusedNumberRun).st.toTrackingState 200 200≠
      true ∧
    (run .amd64 rootedSystem reusedNumberRun).st.filterMap.lookup 201=none := by
  obtain ⟨htracked,hdead⟩ := tracked_iff_descends .amd64 rootedSystem 100 reusedNumberRun
    rootedSystem_started reusedNumberRun_enabled
  have hchild : (run .amd64 rootedSystem reusedNumberRun).live.lookup 300=
      some ⟨300,true,true⟩ := rfl
  have hreused : (run .amd64 rootedSystem reusedNumberRun).live.lookup 200=
      some ⟨200,false,false⟩ := rfl
  refine ⟨reusedNumberRun_enabled,((htracked 300 _ hchild).1).mpr rfl,?_,hdead 201 rfl⟩
  intro h
  cases ((htracked 200 _ hreused).1).mp h

end StraceGo.BpfDescendantTracking

import StraceGo.EventStateTasks

/-!
# When a target counts as quiescent

The session ends once nothing of its target is left. Over every lossless run
the verdict is negative while a thread that has shown itself has neither ended
nor moved away in an exec, and while a terminating exit waits for its thread's
end. It turns positive once every such thread has ended.
-/

namespace StraceGo.EventStateQuiescence

open EventEnvelope FiniteMaps ObjectPool EventPayloadStorage EventSyscallCorrelation
  EventTaskLifecycle EventUnfinishedState EventState EventSyscallOwnership EventStateContents
  EventStateFrame EventStateRuns EventStateInterleaving EventStateTimeline EventStateTasks
  StepHistories

/-- A negative verdict has a reason: a task alive, a termination waiting, a fork unresolved. -/
theorem quiescent_iff (l : TraceTaskLifecycleState) (pid : UInt32) :
    l.quiescent pid=true ↔ pid≠0 ∧ (∀ x, ¬isAlive l x) ∧ l.lifecyclePending=∅ ∧
      (∀ c r, l.pendingForks.lookup c=some r → r.parentTGID≠pid) ∧
      ¬(l.trackForkIdentity=true ∧ l.historyTainted=true) := by
  have halive : l.tasks.any (fun _ task => task.alive)=true ↔ ∃ x, isAlive l x := by
    rw [any_iff]
    refine exists_congr fun x => ?_
    unfold isAlive
    cases l.tasks.lookup x <;> simp
  have hforks : l.pendingForks.any (fun _ fork => decide (fork.parentTGID=pid))=true ↔
      ∃ c r, l.pendingForks.lookup c=some r ∧ r.parentTGID=pid := by
    rw [any_iff]
    simp
  have hguards : l.quiescent pid=true ↔ ¬pid=0 ∧
      ¬l.tasks.any (fun _ task => task.alive)=true ∧ ¬l.lifecyclePending≠∅ ∧
      ¬l.pendingForks.any (fun _ fork => decide (fork.parentTGID=pid))=true ∧
      ¬(l.trackForkIdentity=true ∧ l.historyTainted=true) := by
    unfold TraceTaskLifecycleState.quiescent
    split_ifs <;> simp_all
  rw [hguards,halive,hforks,not_exists,not_not]
  simp only [not_exists,not_and,ne_eq]

/-- Something holds of the record handled at a position and of its update. -/
def HandledAt (tables : SyscallTables) (config : SessionConfig) (ops : List Operation) (i : ℕ)
    (p : TraceEventEnvelope → TraceStateUpdate → Prop) : Prop :=
  ∃ record update, recordAt ops i=some record ∧ updateAt tables config ops i=some update ∧
    p record update

section Records

variable (tables : SyscallTables) (config : SessionConfig) (ops : List Operation) (i : ℕ)
  (x : UInt32)

/-- The record at a position shows a thread alive. -/
def ShownAt : Prop :=
  HandledAt tables config ops i fun record update =>
    showsAlive tables config.trackForkIdentity record update x

/-- The record at a position reports the terminating exit of a thread. -/
def TerminatedAt : Prop :=
  HandledAt tables config ops i fun record update =>
    terminates (terminatingIn tables config) record update x

/-- The record at a position is an exit or free record of a thread. -/
def EndedAt : Prop := ∃ record, recordAt ops i=some record ∧ endsTask record x

/-- The record at a position is an exec that moves a thread to another number. -/
def MovedAt : Prop := ∃ record, recordAt ops i=some record ∧ movesTask record x

/-- The verdict on a target before the call at a position. -/
def quiescentAt (pid : UInt32) : Bool :=
  (systemAt tables config ops i).st.targetLifecycleQuiescent pid

end Records

section Runs

variable {tables : SyscallTables} {config : SessionConfig} {ops : List Operation}
  (hops : ∀ op∈ops, op.isTaint=false)

/-- What a record does to a flag of the task state lifts to the positions of a run. -/
theorem flag_step (flag : TraceTaskLifecycleState → Prop)
    {sets : TraceEventEnvelope → TraceStateUpdate → Prop} {resets : TraceEventEnvelope → Prop}
    (hops : ∀ op∈ops, op.isTaint=false)
    (hstep : ∀ n record update, flag (nextTasks tables (terminatingIn tables config)
        (tasksAt tables config ops n) record update).1 ↔
      sets record update ∨ flag (tasksAt tables config ops n) ∧ ¬resets record) (n : ℕ) :
    flag (tasksAt tables config ops (n+1)) ↔ HandledAt tables config ops n sets ∨
      flag (tasksAt tables config ops n) ∧
        ¬∃ record, recordAt ops n=some record ∧ resets record := by
  cases hrecord : recordAt ops n with
  | none =>
    rw [tasksAt_succ_of_none tables config hops n hrecord]
    have hsets : ¬HandledAt tables config ops n sets := by
      rintro ⟨record,update,hsome,-⟩
      rw [hrecord] at hsome
      cases hsome
    simp [hsets]
  | some record =>
    have hupdate := updateAt_eq tables config hrecord
    have hnext := tasksAt_succ tables config hops n hrecord hupdate
    rw [show tasksAt tables config ops (n+1)=_ from congrArg Prod.fst hnext,hstep]
    refine or_congr ?_ (and_congr Iff.rfl (not_congr ?_))
    · refine ⟨fun h => ⟨record,_,hrecord,hupdate,h⟩,?_⟩
      rintro ⟨other,update,hother,hreturned,h⟩
      obtain rfl := Option.some.inj (hrecord.symm.trans hother)
      rwa [←Option.some.inj (hupdate.symm.trans hreturned)] at h
    · simp

include hops

/-- A thread is alive exactly when it was shown and has neither ended nor moved since. -/
theorem isAlive_tasksAt (n : ℕ) (x : UInt32) :
    isAlive (tasksAt tables config ops n) x ↔
      SetSince (ShownAt tables config ops · x)
        (fun j => EndedAt ops j x ∨ MovedAt ops j x) n := by
  refine flag_iff_setSince (p := fun n => isAlive (tasksAt tables config ops n) x)
    Bool.false_ne_true (fun m => ?_) n
  rw [flag_step (isAlive · x) hops (fun m record update => by
    rw [isAlive_nextTasks,(tasksAt_modes tables config hops m).1]) m]
  unfold EndedAt MovedAt
  rw [←exists_or]
  simp only [and_or_left]
  rfl

/-- A termination waits exactly when it was reported and its thread has not ended since. -/
theorem mem_pending_tasksAt (n : ℕ) (x : UInt32) :
    x∈(tasksAt tables config ops n).lifecyclePending ↔
      SetSince (TerminatedAt tables config ops · x) (EndedAt ops · x) n :=
  flag_iff_setSince (p := fun n => x∈(tasksAt tables config ops n).lifecyclePending)
    (Finset.notMem_empty x)
    (flag_step (fun l => x∈l.lifecyclePending) hops fun m record update =>
      mem_pending_nextTasks tables (tasksAt tables config ops m) x _ record update) n

omit hops in
/-- An exec that moves a thread and names its thread group resolves the thread's fork. -/
theorem resolvesFork_of_movesTask {record : TraceEventEnvelope} {c : UInt32}
    (h : movesTask record c) (hpid : record.pid≠0) : resolvesFork record c := by
  obtain ⟨hrecord,⟨haction,hzero,-⟩,rfl⟩ := h
  obtain ⟨hsignal,hlifecycle⟩ : record.isSignal=false ∧ record.isLifecycle=true := by
    simpa [isLifecycleRecord] using hrecord
  refine ⟨?_,hzero,hpid⟩
  unfold identityTID lifecycleIdentity execIdentity
  rw [haction,if_pos hzero]
  simp [hsignal,hlifecycle,lifecycleExec,lifecycleFork,lifecycleUnknownDetach,lifecycleUnknownExit]

/-- A fork is unresolved only if its record arrived and its thread has not ended or moved since. -/
theorem pendingForks_tasksAt {n : ℕ} {c : UInt32} {r : PendingForkState}
    (h : (tasksAt tables config ops n).pendingForks.lookup c=some r) :
    SetSince (fun i => config.trackForkIdentity=true ∧
        ∃ record, recordAt ops i=some record ∧ forksTask record c)
      (fun j => ∃ record, recordAt ops j=some record ∧
        (endsTask record c ∧ c≠0 ∨ movesTask record c ∧ record.pid≠0)) n := by
  refine setSince_of_flag
    (p := fun n => ∃ r, (tasksAt tables config ops n).pendingForks.lookup c=some r)
    (fun ⟨r,hr⟩ => nomatch hr) (fun m hm => ?_) ⟨r,h⟩
  obtain ⟨r,hr⟩ := hm
  cases hrecord : recordAt ops m with
  | none =>
    rw [tasksAt_succ_of_none tables config hops m hrecord] at hr
    exact .inr ⟨⟨r,hr⟩,fun ⟨record,hsome,_⟩ => nomatch hsome⟩
  | some record =>
    have hnext := tasksAt_succ tables config hops m hrecord (updateAt_eq tables config hrecord)
    obtain ⟨htrack,htainted⟩ := tasksAt_modes tables config hops m
    rw [show tasksAt tables config ops (m+1)=_ from congrArg Prod.fst hnext,
      nextTasks_iff tables _ c r htainted,htrack] at hr
    rcases hr with ⟨htracked,hforks,-⟩ | ⟨-,hbefore,hresolves,hdrops⟩
    · exact .inl ⟨htracked,record,rfl,hforks⟩
    · refine .inr ⟨⟨r,hbefore⟩,?_⟩
      rintro ⟨other,hother,hends | ⟨hmoves,hpid⟩⟩
      · obtain rfl := Option.some.inj hother
        exact hdrops (.inr (.inl hends))
      · obtain rfl := Option.some.inj hother
        exact hresolves (resolvesFork_of_movesTask hmoves hpid)

/-- A verdict is positive for a target when nothing in the run stands against it. -/
theorem quiescentAt_iff (n : ℕ) (pid : UInt32) :
    quiescentAt tables config ops n pid=true ↔ pid≠0 ∧
      (∀ x, ¬isAlive (tasksAt tables config ops n) x) ∧
      (tasksAt tables config ops n).lifecyclePending=∅ ∧
      ∀ c r, (tasksAt tables config ops n).pendingForks.lookup c=some r → r.parentTGID≠pid := by
  have hiff := quiescent_iff (tasksAt tables config ops n) pid
  have hclean : ¬((tasksAt tables config ops n).trackForkIdentity=true ∧
      (tasksAt tables config ops n).historyTainted=true) := by
    rw [(tasksAt_modes tables config hops n).2]
    simp
  change (tasksAt tables config ops n).quiescent pid=true ↔ _
  rw [hiff]
  simp only [hclean,not_false_iff,and_true]

end Runs

/-- Over every lossless run the verdict is negative while a thread that has shown itself has
neither ended nor moved away, and while a reported termination waits for its thread's end. It is
positive once every thread that has shown itself has ended or moved away, every reported
termination was followed by its thread's end, every exec that moves a thread names its thread
group, and no tracked fork names thread zero. -/
theorem quiescence_sound_and_live (tables : SyscallTables) (config : SessionConfig)
    (ops : List Operation) (hops : ∀ op∈ops, op.isTaint=false) (n : ℕ) :
    (∀ i x, i < n → ShownAt tables config ops i x →
      (∀ j, i < j → j < n → ¬EndedAt ops j x ∧ ¬MovedAt ops j x) →
      ∀ pid, quiescentAt tables config ops n pid=false) ∧
    (∀ i x, i < n → TerminatedAt tables config ops i x →
      (∀ j, i < j → j < n → ¬EndedAt ops j x) →
      ∀ pid, quiescentAt tables config ops n pid=false) ∧
    ((∀ i x, i < n → ShownAt tables config ops i x →
        ∃ j, i < j ∧ j < n ∧ (EndedAt ops j x ∨ MovedAt ops j x)) →
      (∀ i x, i < n → TerminatedAt tables config ops i x →
        ∃ j, i < j ∧ j < n ∧ EndedAt ops j x) →
      (∀ i record x, i < n → recordAt ops i=some record → movesTask record x → record.pid≠0) →
      (∀ i record, i < n → recordAt ops i=some record → config.trackForkIdentity=true →
        ¬forksTask record 0) →
      ∀ pid, pid≠0 → quiescentAt tables config ops n pid=true) := by
  refine ⟨fun i x hi hshown hkept pid => ?_,fun i x hi hterm hkept pid => ?_,
    fun hended hcompleted hgroups hchildren pid hpid => ?_⟩
  · have halive := (isAlive_tasksAt hops n x).mpr
      ⟨i,hi,hshown,fun j hij hj => not_or.mpr (hkept j hij hj)⟩
    rw [←Bool.not_eq_true,quiescentAt_iff hops]
    exact fun h => h.2.1 x halive
  · have hpending := (mem_pending_tasksAt hops n x).mpr ⟨i,hi,hterm,hkept⟩
    rw [←Bool.not_eq_true,quiescentAt_iff hops]
    exact fun h => Finset.notMem_empty x (h.2.2.1 ▸ hpending)
  · refine (quiescentAt_iff hops n pid).mpr ⟨hpid,fun x halive => ?_,?_,fun c r hfork => ?_⟩
    · obtain ⟨i,hi,hshown,hkept⟩ := (isAlive_tasksAt hops n x).mp halive
      obtain ⟨j,hij,hj,hgone⟩ := hended i x hi hshown
      exact hkept j hij hj hgone
    · refine Finset.eq_empty_of_forall_notMem fun x hx => ?_
      obtain ⟨i,hi,hterm,hkept⟩ := (mem_pending_tasksAt hops n x).mp hx
      obtain ⟨j,hij,hj,hgone⟩ := hcompleted i x hi hterm
      exact hkept j hij hj hgone
    · exfalso
      obtain ⟨i,hi,⟨htracked,record,hrecord,hforks⟩,hkept⟩ := pendingForks_tasksAt hops hfork
      have hshown : ShownAt tables config ops i c :=
        ⟨record,_,hrecord,updateAt_eq tables config hrecord,
          .inr (.inr ⟨hforks.1,hforks.2.1,.inr ⟨htracked,hforks.2.2.symm⟩⟩)⟩
      obtain ⟨j,hij,hj,⟨ending,hending,hends⟩ | ⟨moving,hmoving,hmoves⟩⟩ := hended i c hi hshown
      · refine hkept j hij hj ⟨ending,hending,.inl ⟨hends,fun hzero => ?_⟩⟩
        exact hchildren i record hi hrecord htracked (hzero ▸ hforks)
      · exact hkept j hij hj ⟨moving,hmoving,.inr ⟨hmoves,hgroups j moving c hj hmoving hmoves⟩⟩

section Samples

/-- A lifecycle record of a sample process 7. -/
def lifecycleRecord (action : UInt32) (tid : UInt32) (args : SyscallArgs) :
    TraceEventEnvelope where
  eventType := .lifecycle
  lifecycleAction := action
  pid := 7
  tid := tid
  args := args

/-- An exec exit of thread 9 of the sample process. -/
def execExit : TraceEventEnvelope where
  eventType := .exit
  pid := 7
  tid := 9
  sysID := 59

/-- Names of a sample table with one exec. -/
def sampleTables : SyscallTables where
  name := fun sysID => if sysID=59 then "execve" else if sysID=60 then "exit" else "write"
  isPlainGenericEnterExitRoute := fun _ => false
  isStandaloneExitElisionRoute := fun _ => false

/-- Thread 9 appears and takes over the leader's number in an exec; the leader's exit then makes
the process quiescent although thread 9 has no exit or free record. So does the leader's exit after
an exec exit of thread 9 without an enter, which counts for the leader. -/
theorem moved_thread_quiescent :
    let moved := [Operation.handle (writeRecord 9 .enter bpfEventFlagGenericEnter 100 []),
      .handle (lifecycleRecord lifecycleExec 7 #v[9,7,0,0,0,0]),
      .handle (lifecycleRecord lifecycleExit 7 (Vector.replicate 6 0))]
    let attributed := [Operation.handle execExit,
      .handle (lifecycleRecord lifecycleExit 7 (Vector.replicate 6 0))]
    (ShownAt sampleTables {} moved 0 9 ∧ (∀ j, ¬EndedAt moved j 9) ∧
      quiescentAt sampleTables {} moved 3 7=true) ∧
    ((updateAt sampleTables {} attributed 0).map (·.pendingEnter)=some none ∧
      (∀ j, ¬EndedAt attributed j 9) ∧ quiescentAt sampleTables {} attributed 2 7=true) := by
  intro moved attributed
  have hexit : ¬endsTask (lifecycleRecord lifecycleExit 7 (Vector.replicate 6 0)) 9 :=
    fun h => absurd h.2.2 (by decide)
  refine ⟨⟨⟨_,_,rfl,rfl,.inl ⟨⟨rfl,fun h => absurd h (by decide)⟩,by decide,by decide⟩⟩,?_,
    by decide +kernel⟩,by decide +kernel,?_,by decide +kernel⟩
  · rintro j ⟨record,hrecord,hends⟩
    have hmem := List.mem_of_getElem? (getElem_of_recordAt hrecord)
    simp only [moved,List.mem_cons,Operation.handle.injEq,List.not_mem_nil,or_false] at hmem
    rcases hmem with rfl | rfl | rfl
    · exact absurd hends.1 (by decide)
    · exact absurd hends.2.1 (by decide)
    · exact hexit hends
  · rintro j ⟨record,hrecord,hends⟩
    have hmem := List.mem_of_getElem? (getElem_of_recordAt hrecord)
    simp only [attributed,List.mem_cons,Operation.handle.injEq,List.not_mem_nil,or_false] at hmem
    rcases hmem with rfl | rfl
    · exact absurd hends.1 (by decide)
    · exact hexit hends

/-- The leader appears, and its exit record ends it. -/
theorem quiescence_sound_and_live_exit :
    let ops := [Operation.handle (writeRecord 7 .enter bpfEventFlagGenericEnter 100 []),
      .handle (lifecycleRecord lifecycleExit 7 (Vector.replicate 6 0))]
    quiescentAt sampleTables {} ops 1 7=false ∧ quiescentAt sampleTables {} ops 2 7=true := by
  intro ops
  have hops : ∀ op∈ops, op.isTaint=false := by
    intro op hmem
    simp only [ops,List.mem_cons,List.not_mem_nil,or_false] at hmem
    rcases hmem with rfl | rfl <;> rfl
  have hshown : ShownAt sampleTables {} ops 0 7 :=
    ⟨_,_,rfl,rfl,.inl ⟨⟨rfl,fun h => absurd h (by decide)⟩,by decide,by decide⟩⟩
  refine ⟨(quiescence_sound_and_live sampleTables {} ops hops 1).1 0 7 (by omega) hshown
    (fun j h h' => by omega) 7,
    (quiescence_sound_and_live sampleTables {} ops hops 2).2.2 (fun i x hi hx => ?_)
      (fun i x hi hx => ?_) (fun i record x hi hrecord hmoves => ?_)
      (fun i record hi hrecord _ hforks => ?_) 7 (by decide)⟩
  · obtain ⟨record,update,hrecord,-,hshows⟩ := hx
    have hfew : i=0 ∨ i=1 := by omega
    rcases hfew with rfl | rfl
    · obtain rfl := Option.some.inj hrecord
      have hx : x=7 := by
        rcases hshows with ⟨-,-,h⟩ | ⟨h,-⟩ | ⟨h,-⟩
        · exact h
        · exact absurd h (by decide)
        · exact absurd h (by decide)
      exact ⟨1,by omega,by omega,.inl ⟨_,rfl,rfl,.inl rfl,hx⟩⟩
    · obtain rfl := Option.some.inj hrecord
      rcases hshows with ⟨⟨h,-⟩,-⟩ | ⟨-,h,-⟩ | ⟨-,h,-⟩ <;> exact absurd h (by decide)
  · obtain ⟨record,update,hrecord,hupdate,-,view,hview,-⟩ := hx
    have hfew : i=0 ∨ i=1 := by omega
    rcases hfew with rfl | rfl
    · obtain rfl := Option.some.inj hrecord
      have hnone : (updateAt sampleTables {} ops 0).map (·.deferredExit.isNone)=some true := by
        decide +kernel
      rw [hupdate,Option.map_some] at hnone
      unfold handledExit at hview
      rw [if_pos (by decide),Option.isNone_iff_eq_none.mp (Option.some.inj hnone)] at hview
      cases hview
    · obtain rfl := Option.some.inj hrecord
      cases hview
  · have hmem := List.mem_of_getElem? (getElem_of_recordAt hrecord)
    simp only [ops,List.mem_cons,Operation.handle.injEq,List.not_mem_nil,or_false] at hmem
    rcases hmem with rfl | rfl <;> decide
  · have hmem := List.mem_of_getElem? (getElem_of_recordAt hrecord)
    simp only [ops,List.mem_cons,Operation.handle.injEq,List.not_mem_nil,or_false] at hmem
    rcases hmem with rfl | rfl
    · exact absurd hforks.1 (by decide)
    · exact absurd hforks.2.1 (by decide)

end Samples

end StraceGo.EventStateQuiescence

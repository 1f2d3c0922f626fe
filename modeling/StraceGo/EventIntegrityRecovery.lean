import StraceGo.EventIntegrityLedger

/-!
# Trust in a task is earned after the latest taint

A task of a tainted session is trusted only on the strength of a generic enter
and its matching complete exit, both observed since the latest taint, with no
lifecycle record about the task after the enter. The observer compares epochs
lazily, so the invariant relates every stored entry to the history and to the
number of taints raised so far.
-/

namespace StraceGo.EventIntegrityRecovery

open FiniteMaps EventEnvelope EventIntegrity EventIntegrityLedger

/-- Calls made on the observer by the reader. -/
inductive ReaderStep where
  | observe (ev : TraceEventEnvelope)
  | invalidRecord

/-- State after one call. -/
def applyStep (i : TraceIntegrity) : ReaderStep → TraceIntegrity
  | .observe ev => (i.observe ev).1
  | .invalidRecord => i.invalidRecord

/-- State after a run of calls. -/
def applySteps (i : TraceIntegrity) (steps : List ReaderStep) : TraceIntegrity :=
  steps.foldl applyStep i

/-- The call raises a taint. -/
def raisesTaint (i : TraceIntegrity) (step : ReaderStep) : Bool :=
  (applyStep i step).snapshot.epoch != i.snapshot.epoch

/-- Number of taints raised by a run of calls. -/
def taintCount (i : TraceIntegrity) (steps : List ReaderStep) : ℕ :=
  (steps.foldl (fun (acc : TraceIntegrity×ℕ) step =>
    (applyStep acc.1 step,acc.2+if raisesTaint acc.1 step then 1 else 0)) (i,0)).2

/-- A generic enter of the task. -/
def IsEnterOf (tid : UInt32) : ReaderStep → Prop
  | .observe ev => ev.tid=tid ∧ ev.syscallView.isGenericEnter=true
  | .invalidRecord => False

/-- A complete exit of the task. -/
def IsExitOf (tid : UInt32) : ReaderStep → Prop
  | .observe ev => ev.tid=tid ∧ ev.syscallView.isExit=true ∧ ev.syscallView.isExitFragment=false
  | .invalidRecord => False

/-- A lifecycle record that ends, forks or replaces the task. -/
def NamesTask (tid : UInt32) : ReaderStep → Prop
  | .observe ev => ev.isLifecycle=true ∧
      (((ev.lifecycleAction=lifecycleExit ∨ ev.lifecycleAction=lifecycleFree) ∧ ev.tid=tid) ∨
        (ev.lifecycleAction=lifecycleFork ∧ ev.args[1].toUInt32=tid) ∨
        (ev.lifecycleAction=lifecycleExec ∧ (ev.args[0].toUInt32=tid ∨
          TraceIntegrity.execTID ev=tid)))
  | .invalidRecord => False

/-- Such a record with a thread of its own; the observer skips the others. -/
def Renews (tid : UInt32) : ReaderStep → Prop
  | .observe ev => ev.tid≠0 ∧ NamesTask tid (.observe ev)
  | .invalidRecord => False

/-- The latest enter of a task, observed since the latest taint and not yet
followed by a complete exit, another enter or a renewal. -/
def Waiting (start : TraceIntegrity) (steps : List ReaderStep) (taints : ℕ) (tid : UInt32)
    (sysID : UInt32) (enterTime : UInt64) (args : SyscallArgs) : Prop :=
  ∃ before enter between, steps=before ++ .observe enter::between ∧
    IsEnterOf tid (.observe enter) ∧ enter.sysID=sysID ∧ enter.enterTime=enterTime ∧
    enter.args=args ∧ taintCount start (before ++ [.observe enter])=taints ∧
    ∀ step∈between, ¬IsEnterOf tid step ∧ ¬IsExitOf tid step ∧ ¬Renews tid step

/-- An enter of the task and its next complete exit agree, no taint was raised
after the enter's record, no other enter or exit came between them, and the
task was not renewed since the enter. -/
def Recovered (start : TraceIntegrity) (steps : List ReaderStep) (taints : ℕ)
    (tid : UInt32) : Prop :=
  ∃ before enter between exit since,
    steps=before ++ .observe enter::(between ++ .observe exit::since) ∧
    IsEnterOf tid (.observe enter) ∧ IsExitOf tid (.observe exit) ∧
    enter.sysID=exit.sysID ∧ enter.enterTime=exit.enterTime ∧ enter.args=exit.args ∧
    taintCount start (before ++ [.observe enter])=taints ∧
    (∀ step∈between, ¬IsEnterOf tid step ∧ ¬IsExitOf tid step) ∧
    ∀ step∈between ++ .observe exit::since, ¬Renews tid step

section History

variable {start : TraceIntegrity} {steps : List ReaderStep} {step : ReaderStep} {taints : ℕ}
  {tid sysID : UInt32} {enterTime : UInt64} {args : SyscallArgs}

theorem applySteps_snoc (start : TraceIntegrity) (steps : List ReaderStep) (step : ReaderStep) :
    applySteps start (steps ++ [step])=applyStep (applySteps start steps) step := by
  rw [applySteps,List.foldl_append]
  rfl

theorem taintCount_snoc (start : TraceIntegrity) (steps : List ReaderStep) (step : ReaderStep) :
    taintCount start (steps ++ [step])=
    taintCount start steps+if raisesTaint (applySteps start steps) step then 1 else 0 := by
  have hstate : ∀ steps : List ReaderStep, (steps.foldl (fun (acc : TraceIntegrity×ℕ) step =>
      (applyStep acc.1 step,acc.2+if raisesTaint acc.1 step then 1 else 0)) (start,0)).1=
      applySteps start steps := by
    intro steps
    induction steps using List.reverseRecOn with
    | nil => rfl
    | append_singleton steps step ih =>
      rw [List.foldl_append,List.foldl_cons,List.foldl_nil,applySteps_snoc]
      dsimp only
      rw [ih]
  rw [taintCount,List.foldl_append,List.foldl_cons,List.foldl_nil]
  dsimp only
  rw [hstate]
  rfl

/-- A waiting enter outlives a step that does not concern its task. -/
theorem Waiting.extend (h : Waiting start steps taints tid sysID enterTime args)
    (henter : ¬IsEnterOf tid step) (hexit : ¬IsExitOf tid step) (hrenew : ¬Renews tid step) :
    Waiting start (steps ++ [step]) taints tid sysID enterTime args := by
  obtain ⟨before,enter,between,rfl,hof,hsys,htime,hargs,hcount,hall⟩ := h
  refine ⟨before,enter,between ++ [step],by simp,hof,hsys,htime,hargs,hcount,?_⟩
  intro other hmem
  rcases List.mem_append.mp hmem with hold | hlast
  · exact hall other hold
  · rw [List.mem_singleton.mp hlast]
    exact ⟨henter,hexit,hrenew⟩

/-- Recovery outlives every step that does not renew the task. -/
theorem Recovered.extend (h : Recovered start steps taints tid) (hrenew : ¬Renews tid step) :
    Recovered start (steps ++ [step]) taints tid := by
  obtain ⟨before,enter,between,exit,since,rfl,henter,hexit,hsys,htime,hargs,hcount,hbetween,
    hall⟩ := h
  refine ⟨before,enter,between,exit,since ++ [step],by simp,henter,hexit,hsys,htime,hargs,hcount,
    hbetween,?_⟩
  intro other hmem
  rw [←List.cons_append,←List.append_assoc] at hmem
  rcases List.mem_append.mp hmem with hold | hlast
  · exact hall other hold
  · rw [List.mem_singleton.mp hlast]
    exact hrenew

/-- A complete exit that agrees with the waiting enter recovers the task. -/
theorem Waiting.recovered {exit : TraceEventEnvelope}
    (h : Waiting start steps taints tid exit.sysID exit.enterTime exit.args)
    (hexit : IsExitOf tid (.observe exit)) (hrenew : ¬Renews tid (.observe exit)) :
    Recovered start (steps ++ [.observe exit]) taints tid := by
  obtain ⟨before,enter,between,rfl,hof,hsys,htime,hargs,hcount,hall⟩ := h
  refine ⟨before,enter,between,exit,[],by simp,hof,hexit,hsys,htime,hargs,hcount,
    fun step hstep => ⟨(hall step hstep).1,(hall step hstep).2.1⟩,?_⟩
  intro step hmem
  rcases List.mem_append.mp hmem with hold | hlast
  · exact (hall step hold).2.2
  · rw [List.mem_singleton.mp hlast]
    exact hrenew

end History

section Steps

/-- A state change that keeps the tasks and raises at most one taint. -/
structure StreamStep (i j : TraceIntegrity) : Prop where
  /-- Task entries are not touched. -/
  tasks : j.tasks=i.tasks
  /-- Either no taint, or one and the session is tainted. -/
  taint : (j.snapshot.epoch=i.snapshot.epoch ∧ j.snapshot.tainted=i.snapshot.tainted) ∨
    (j.snapshot.epoch=i.snapshot.epoch+1 ∧ j.snapshot.tainted=true)

theorem observeStream_streamStep (i : TraceIntegrity) (ev : TraceEventEnvelope) :
    StreamStep i (i.observeStream ev) := by
  unfold TraceIntegrity.observeStream
  dsimp only
  have hframe := observeSequence_streamOnly i.countRecord ev
  obtain ⟨d,r,g,l,c,hsnapshot⟩ := hframe.snapshot
  have htasks : (i.countRecord.observeSequence ev).1.tasks=i.tasks := hframe.tasks
  generalize i.countRecord.observeSequence ev=pair at *
  have hloss : ∀ (j : TraceIntegrity) (epoch ns : UInt64),
      ((j.observeLossEpoch epoch).observeLossTime ns).tasks=j.tasks ∧
      ((j.observeLossEpoch epoch).observeLossTime ns).snapshot.epoch=j.snapshot.epoch ∧
      ((j.observeLossEpoch epoch).observeLossTime ns).snapshot.tainted=j.snapshot.tainted := by
    intro j epoch ns
    unfold TraceIntegrity.observeLossTime TraceIntegrity.observeLossEpoch
    split_ifs <;> exact ⟨rfl,rfl,rfl⟩
  obtain ⟨hlossTasks,hlossEpoch,hlossTainted⟩ := hloss pair.1 ev.lossEpoch ev.lossTimeNS
  generalize (pair.1.observeLossEpoch ev.lossEpoch).observeLossTime ev.lossTimeNS=j at *
  have hepoch : j.snapshot.epoch=i.snapshot.epoch := by
    rw [hlossEpoch,hsnapshot]
    rfl
  have htainted : j.snapshot.tainted=i.snapshot.tainted := by
    rw [hlossTainted,hsnapshot]
    rfl
  unfold TraceIntegrity.raise
  split_ifs
  · refine ⟨?_,.inr ⟨?_,rfl⟩⟩
    · rw [←htasks,←hlossTasks]
      cases pair.2.gap <;> rfl
    · rw [←hepoch]
      cases pair.2.gap <;> rfl
  · refine ⟨?_,.inr ⟨?_,rfl⟩⟩
    · rw [←htasks,←hlossTasks]
      rfl
    · rw [←hepoch]
      rfl
  · exact ⟨hlossTasks.trans htasks,.inl ⟨hepoch,htainted⟩⟩

theorem invalidRecord_streamStep (i : TraceIntegrity) : StreamStep i i.invalidRecord :=
  ⟨rfl,.inr ⟨rfl,rfl⟩⟩

/-- The task part of a record keeps the epoch and the taint flag. -/
theorem observeTask_snapshot (i : TraceIntegrity) (ev : TraceEventEnvelope) :
    (i.observeTask ev).snapshot.epoch=i.snapshot.epoch ∧
      (i.observeTask ev).snapshot.tainted=i.snapshot.tainted := by
  unfold TraceIntegrity.observeTask TraceIntegrity.observeTaskLifecycle
  dsimp only
  split_ifs <;> exact ⟨rfl,rfl⟩

/-- What the task part of a record leaves at a task. -/
inductive TaskOutcome (i : TraceIntegrity) (ev : TraceEventEnvelope) (tid : UInt32)
    (task : TraceTaskIntegrity) : Prop where
  | kept (hlookup : i.tasks.lookup tid=some task) (henter : ¬IsEnterOf tid (.observe ev))
      (hexit : ¬IsExitOf tid (.observe ev)) (hrenew : ¬Renews tid (.observe ev))
  | renewed (hepoch : task.epoch=i.snapshot.epoch) (hcandidate : task.candidate=false)
      (hclean : task.clean= !i.snapshot.tainted)
  | entered (henter : IsEnterOf tid (.observe ev))
      (hepoch : task.epoch=i.snapshot.epoch)
      (hclean : i.snapshot.tainted=true → task.clean=(i.currentTask tid).clean)
      (hsys : task.sysID=ev.sysID) (htime : task.enterTime=ev.enterTime) (hargs : task.args=ev.args)
  | exited (hexit : IsExitOf tid (.observe ev))
      (hepoch : task.epoch=i.snapshot.epoch) (hcandidate : task.candidate=false)
      (hclean : i.snapshot.tainted=true → task.clean=true → (i.currentTask tid).clean=true ∨
        ((i.currentTask tid).candidate=true ∧ (i.currentTask tid).sysID=ev.sysID ∧
          (i.currentTask tid).enterTime=ev.enterTime ∧ (i.currentTask tid).args=ev.args))
  | touched (hlife : ev.isLifecycle=false) (henter : ¬IsEnterOf tid (.observe ev))
      (hexit : ¬IsExitOf tid (.observe ev)) (hepoch : task.epoch=i.snapshot.epoch)
      (hclean : i.snapshot.tainted=true → task.clean=(i.currentTask tid).clean)
      (hcandidate : task.candidate=(i.currentTask tid).candidate)
      (hsys : task.sysID=(i.currentTask tid).sysID)
      (htime : task.enterTime=(i.currentTask tid).enterTime)
      (hargs : task.args=(i.currentTask tid).args)

/-- A lifecycle record is neither an enter nor an exit. -/
theorem lifecycle_not_syscall {ev : TraceEventEnvelope} (h : ev.isLifecycle=true) (tid : UInt32) :
    ¬IsEnterOf tid (.observe ev) ∧ ¬IsExitOf tid (.observe ev) := by
  have htype : ev.eventType=.lifecycle := by
    rw [TraceEventEnvelope.isLifecycle,beq_iff_eq] at h
    exact h
  constructor
  · rintro ⟨-,hview⟩
    rw [SyscallEventView.isGenericEnter,Bool.and_eq_true,beq_iff_eq] at hview
    have hcontra := hview.1
    rw [TraceEventEnvelope.syscallView,htype] at hcontra
    nomatch hcontra
  · rintro ⟨-,hview,-⟩
    rw [SyscallEventView.isExit,beq_iff_eq,TraceEventEnvelope.syscallView,htype] at hview
    nomatch hview

/-- Outcome of a lifecycle record at a task. -/
theorem observeTaskLifecycle_outcome {i : TraceIntegrity} {ev : TraceEventEnvelope}
    {tid : UInt32} {task : TraceTaskIntegrity} (htid : tid≠0) (hlife : ev.isLifecycle=true)
    (h : (i.observeTaskLifecycle ev).tasks.lookup tid=some task) : TaskOutcome i ev tid task := by
  obtain ⟨henter,hexit⟩ := lifecycle_not_syscall hlife tid
  have hkept : i.tasks.lookup tid=some task → ¬Renews tid (.observe ev) →
      TaskOutcome i ev tid task := fun hlookup hrenew => .kept hlookup henter hexit hrenew
  unfold TraceIntegrity.observeTaskLifecycle at h
  by_cases hend : ev.lifecycleAction=lifecycleExit ∨ ev.lifecycleAction=lifecycleFree
  · rw [if_pos hend] at h
    dsimp only at h
    rw [lookup_erase_ite] at h
    split_ifs at h with hsame
    apply hkept h
    rintro ⟨-,-,hend' | ⟨hfork,-⟩ | ⟨hexec,-⟩⟩
    · exact hsame hend'.2.symm
    · rw [hfork] at hend
      exact absurd hend (by decide)
    · rw [hexec] at hend
      exact absurd hend (by decide)
  rw [if_neg hend] at h
  by_cases hexec : ev.lifecycleAction=lifecycleExec
  · rw [if_pos hexec] at h
    dsimp only at h
    rw [lookup_insert_ite] at h
    split_ifs at h with hnew
    · obtain rfl := Option.some.inj h
      exact .renewed rfl rfl rfl
    · rw [lookup_erase_ite] at h
      split_ifs at h with hold
      apply hkept h
      rintro ⟨-,-,hend' | ⟨hfork,-⟩ | ⟨-,hold' | hnew'⟩⟩
      · exact hend hend'.1
      · rw [hexec] at hfork
        exact absurd hfork (by decide)
      · exact hold hold'.symm
      · exact hnew hnew'.symm
  rw [if_neg hexec] at h
  by_cases hfork : ev.lifecycleAction=lifecycleFork
  · rw [if_pos hfork] at h
    dsimp only at h
    by_cases hchild : ev.args[1].toUInt32=0
    · rw [if_neg (not_not.mpr hchild)] at h
      apply hkept h
      rintro ⟨-,-,hend' | ⟨-,hsame⟩ | ⟨hexec',-⟩⟩
      · exact hend hend'.1
      · exact htid (hsame.symm.trans hchild)
      · exact hexec hexec'
    · rw [if_pos hchild] at h
      dsimp only at h
      rw [lookup_insert_ite] at h
      split_ifs at h with hsame
      · obtain rfl := Option.some.inj h
        exact .renewed rfl rfl rfl
      · apply hkept h
        rintro ⟨-,-,hend' | ⟨-,hsame'⟩ | ⟨hexec',-⟩⟩
        · exact hend hend'.1
        · exact hsame hsame'.symm
        · exact hexec hexec'
  · rw [if_neg hfork] at h
    apply hkept h
    rintro ⟨-,-,hend' | ⟨hfork',-⟩ | ⟨hexec',-⟩⟩
    · exact hend hend'.1
    · exact hfork hfork'
    · exact hexec hexec'

/-- Every entry left by a record has one of the outcomes. -/
theorem observeTask_outcome {i : TraceIntegrity} {ev : TraceEventEnvelope} {tid : UInt32}
    {task : TraceTaskIntegrity} (htid : tid≠0)
    (h : (i.observeTask ev).tasks.lookup tid=some task) : TaskOutcome i ev tid task := by
  unfold TraceIntegrity.observeTask at h
  by_cases hzero : ev.tid=0
  · rw [if_pos hzero] at h
    have hother : ev.tid≠tid := fun hsame => htid (hsame.symm.trans hzero)
    exact .kept h (fun he => hother he.1) (fun he => hother he.1) (fun he => he.1 hzero)
  rw [if_neg hzero] at h
  by_cases hlife : ev.isLifecycle=true
  · rw [if_pos hlife] at h
    exact observeTaskLifecycle_outcome htid hlife h
  rw [if_neg hlife] at h
  by_cases hsame : tid=ev.tid
  · subst hsame
    have hepoch : (i.currentTask ev.tid).epoch=i.snapshot.epoch := by
      unfold TraceIntegrity.currentTask
      dsimp only
      split_ifs with hstale
      · rfl
      · exact not_not.mp hstale
    dsimp only at h
    by_cases henter : ev.syscallView.isGenericEnter=true
    · rw [if_pos henter] at h
      dsimp only at h
      rw [lookup_insert_ite,if_pos rfl] at h
      obtain rfl := Option.some.inj h
      refine .entered ⟨rfl,henter⟩ ?_ ?_ rfl rfl rfl
      · dsimp only
        split_ifs <;> exact hepoch
      · intro htainted
        dsimp only
        rw [if_pos htainted]
    rw [if_neg henter] at h
    by_cases hexit : (ev.syscallView.isExit && !ev.syscallView.isExitFragment)=true
    · rw [if_pos hexit] at h
      dsimp only at h
      rw [lookup_insert_ite,if_pos rfl] at h
      obtain rfl := Option.some.inj h
      have hcomplete : IsExitOf ev.tid (.observe ev) := by
        rw [Bool.and_eq_true,Bool.not_eq_true'] at hexit
        exact ⟨rfl,hexit⟩
      refine .exited hcomplete ?_ rfl ?_
      · dsimp only
        split_ifs <;> exact hepoch
      · intro htainted hclean
        simp only [htainted,if_true,Bool.or_eq_true,Bool.and_eq_true,beq_iff_eq] at hclean
        rcases hclean with hold | ⟨⟨⟨⟨hcand,hsys⟩,htime⟩,hargs⟩,-⟩
        · exact .inl hold
        · exact .inr ⟨hcand,hsys,htime,hargs⟩
    · rw [if_neg hexit] at h
      dsimp only at h
      rw [lookup_insert_ite,if_pos rfl] at h
      obtain rfl := Option.some.inj h
      refine .touched (by simpa using hlife) (fun he => henter he.2) ?_ ?_ ?_ ?_ ?_ ?_ ?_
      · rintro ⟨-,hview,hfragment⟩
        rw [hview,hfragment] at hexit
        exact hexit rfl
      · split_ifs <;> exact hepoch
      · intro htainted
        rw [if_pos htainted]
      all_goals split_ifs <;> rfl
  · have hkept : i.tasks.lookup tid=some task := by
      dsimp only at h
      split_ifs at h
      all_goals
        dsimp only at h
        rw [lookup_insert_ite,if_neg hsame] at h
        exact h
    exact .kept hkept (fun he => hsame he.1.symm) (fun he => hsame he.1.symm)
      (fun he => hlife he.2.1)

end Steps

/-- Entries of the current epoch of a tainted session are backed by the
history, and no entry is from a later epoch. -/
structure TaskInvariant (start : TraceIntegrity) (steps : List ReaderStep) (taints : ℕ)
    (i : TraceIntegrity) : Prop where
  /-- The epoch counts the taints. -/
  epoch : i.snapshot.epoch=UInt64.ofNat taints
  /-- Thread zero has no entry. -/
  zero : i.tasks.lookup 0=none
  /-- Every entry is from some epoch so far. -/
  bounded : ∀ tid task, i.tasks.lookup tid=some task →
    ∃ past ≤ taints, task.epoch=UInt64.ofNat past
  /-- A current candidate is the waiting enter of its task. -/
  waiting : ∀ tid task, i.tasks.lookup tid=some task → i.snapshot.tainted=true →
    task.epoch=i.snapshot.epoch → task.candidate=true →
    Waiting start steps taints tid task.sysID task.enterTime task.args
  /-- A current trusted entry has recovered. -/
  recovered : ∀ tid task, i.tasks.lookup tid=some task → i.snapshot.tainted=true →
    task.epoch=i.snapshot.epoch → task.clean=true → Recovered start steps taints tid

section Invariant

variable {start i j : TraceIntegrity} {steps : List ReaderStep} {taints : ℕ}

/-- Distinct epochs within the word. -/
theorem ofNat_ne_of_lt {a b : ℕ} (hlt : a < b) (hb : b < 2^64) : UInt64.ofNat a≠UInt64.ofNat b := by
  intro h
  have htoNat := congrArg UInt64.toNat h
  rw [UInt64.toNat_ofNat',UInt64.toNat_ofNat',Nat.mod_eq_of_lt (by omega),
    Nat.mod_eq_of_lt hb] at htoNat
  omega

/-- Without a taint the entries stay as they are. -/
theorem TaskInvariant.stream_same (h : TaskInvariant start steps taints i)
    (hstep : StreamStep i j) (hsame : j.snapshot.epoch=i.snapshot.epoch) :
    TaskInvariant start steps taints j := by
  have htainted : j.snapshot.tainted=i.snapshot.tainted := by
    rcases hstep.taint with hno | hone
    · exact hno.2
    · rw [hone.1] at hsame
      exact absurd (add_eq_left.mp hsame) (by decide)
  obtain ⟨hepoch,hzero,hbounded,hwaiting,hrecovered⟩ := h
  refine ⟨hsame.trans hepoch,?_,?_,?_,?_⟩
  all_goals
    rw [hstep.tasks]
  · exact hzero
  · exact hbounded
  · rw [htainted,hsame]
    exact hwaiting
  · rw [htainted,hsame]
    exact hrecovered

/-- A taint leaves no entry of the new epoch. -/
theorem TaskInvariant.stream_taint (h : TaskInvariant start steps taints i)
    (hstep : StreamStep i j) (hnext : j.snapshot.epoch=i.snapshot.epoch+1)
    (hfit : taints+1 < 2^64) : TaskInvariant start steps (taints+1) j := by
  have hepoch : j.snapshot.epoch=UInt64.ofNat (taints+1) := by
    rw [hnext,h.epoch,UInt64.ofNat_add]
    rfl
  have hstale : ∀ tid task, j.tasks.lookup tid=some task → task.epoch≠j.snapshot.epoch := by
    intro tid task hlookup
    rw [hstep.tasks] at hlookup
    obtain ⟨past,hpast,hvalue⟩ := h.bounded tid task hlookup
    rw [hvalue,hepoch]
    exact ofNat_ne_of_lt (by omega) hfit
  refine ⟨hepoch,by rw [hstep.tasks]; exact h.zero,?_,?_,?_⟩
  · intro tid task hlookup
    rw [hstep.tasks] at hlookup
    obtain ⟨past,hpast,hvalue⟩ := h.bounded tid task hlookup
    exact ⟨past,by omega,hvalue⟩
  · intro tid task hlookup _ hsame
    exact absurd hsame (hstale tid task hlookup)
  · intro tid task hlookup _ hsame
    exact absurd hsame (hstale tid task hlookup)

/-- The working copy of an entry is backed like the entry itself. -/
theorem TaskInvariant.currentTask (h : TaskInvariant start steps taints i) (tid : UInt32)
    (htainted : i.snapshot.tainted=true) :
    ((i.currentTask tid).candidate=true → Waiting start steps taints tid (i.currentTask tid).sysID
      (i.currentTask tid).enterTime (i.currentTask tid).args) ∧
    ((i.currentTask tid).clean=true → Recovered start steps taints tid) := by
  unfold TraceIntegrity.currentTask
  dsimp only
  split_ifs with hstale
  · exact ⟨(fun hcand => nomatch hcand),(fun hclean => nomatch hclean)⟩
  · have hsame := not_not.mp hstale
    cases hlookup : i.tasks.lookup tid with
    | none => exact ⟨(fun hcand => nomatch hcand),(fun hclean => nomatch hclean)⟩
    | some task =>
      rw [hlookup] at hsame
      exact ⟨h.waiting tid task hlookup htainted hsame,h.recovered tid task hlookup htainted hsame⟩

/-- No record makes an entry for thread zero. -/
theorem observeTask_zero (ev : TraceEventEnvelope) (h : i.tasks.lookup 0=none) :
    (i.observeTask ev).tasks.lookup 0=none := by
  unfold TraceIntegrity.observeTask
  by_cases hzero : ev.tid=0
  · rw [if_pos hzero]
    exact h
  rw [if_neg hzero]
  have hother : (0 : UInt32)≠ev.tid := fun hsame => hzero hsame.symm
  by_cases hlife : ev.isLifecycle=true
  · rw [if_pos hlife]
    unfold TraceIntegrity.observeTaskLifecycle
    dsimp only
    have hexec : (0 : UInt32)≠TraceIntegrity.execTID ev := by
      unfold TraceIntegrity.execTID
      split_ifs with hnew
      · exact hother
      · exact fun hsame => hnew hsame.symm
    split_ifs with _ _ _ hchild
    · dsimp only
      rw [lookup_erase_ite,if_neg hother]
      exact h
    · dsimp only
      rw [lookup_insert_ite,if_neg hexec,lookup_erase_ite]
      split_ifs
      · rfl
      · exact h
    · dsimp only
      rw [lookup_insert_ite,if_neg (fun hsame => hchild hsame.symm)]
      exact h
    · exact h
    · exact h
  · rw [if_neg hlife]
    dsimp only
    split_ifs
    all_goals
      dsimp only
      rw [lookup_insert_ite,if_neg hother]
      exact h

/-- The task part of a record keeps the invariant, with the record added to
the history. -/
theorem TaskInvariant.observeTask (h : TaskInvariant start steps taints i)
    {ev : TraceEventEnvelope} (hcount : taintCount start (steps ++ [.observe ev])=taints) :
    TaskInvariant start (steps ++ [.observe ev]) taints (i.observeTask ev) := by
  obtain ⟨hepoch,htainted⟩ := observeTask_snapshot i ev
  have hzero := observeTask_zero ev h.zero
  have houtcome : ∀ tid task, (i.observeTask ev).tasks.lookup tid=some task →
      TaskOutcome i ev tid task := by
    intro tid task hlookup
    refine observeTask_outcome ?_ hlookup
    rintro rfl
    rw [hzero] at hlookup
    nomatch hlookup
  have hquiet : ∀ tid, Renews tid (.observe ev) → ¬IsEnterOf tid (.observe ev) ∧
      ¬IsExitOf tid (.observe ev) ∧ ev.isLifecycle=true := by
    rintro tid ⟨-,hlife,-⟩
    obtain ⟨henter,hexit⟩ := lifecycle_not_syscall hlife tid
    exact ⟨henter,hexit,hlife⟩
  refine ⟨hepoch.trans h.epoch,hzero,?_,?_,?_⟩
  · intro tid task hlookup
    cases houtcome tid task hlookup with
    | kept hold => exact h.bounded tid task hold
    | renewed hcurrent => exact ⟨taints,Nat.le_refl _,hcurrent.trans h.epoch⟩
    | entered _ hcurrent => exact ⟨taints,Nat.le_refl _,hcurrent.trans h.epoch⟩
    | exited _ hcurrent => exact ⟨taints,Nat.le_refl _,hcurrent.trans h.epoch⟩
    | touched _ _ _ hcurrent => exact ⟨taints,Nat.le_refl _,hcurrent.trans h.epoch⟩
  · intro tid task hlookup htaint hsame hcand
    rw [htainted] at htaint
    rw [hepoch] at hsame
    cases houtcome tid task hlookup with
    | kept hold henter hexit hrenew =>
      exact (h.waiting tid task hold htaint hsame hcand).extend henter hexit hrenew
    | renewed _ hnone =>
      rw [hnone] at hcand
      nomatch hcand
    | entered henter _ _ hsys htime hargs =>
      rw [hsys,htime,hargs]
      exact ⟨steps,ev,[],rfl,henter,rfl,rfl,rfl,hcount,fun _ hnil => absurd hnil List.not_mem_nil⟩
    | exited _ _ hnone =>
      rw [hnone] at hcand
      nomatch hcand
    | touched hlife henter hexit _ _ hcandidate hsys htime hargs =>
      rw [hcandidate] at hcand
      rw [hsys,htime,hargs]
      refine ((h.currentTask tid htaint).1 hcand).extend henter hexit (fun hrenew => ?_)
      rw [(hquiet tid hrenew).2.2] at hlife
      nomatch hlife
  · intro tid task hlookup htaint hsame hclean
    rw [htainted] at htaint
    rw [hepoch] at hsame
    cases houtcome tid task hlookup with
    | kept hold _ _ hrenew => exact (h.recovered tid task hold htaint hsame hclean).extend hrenew
    | renewed _ _ hfresh =>
      rw [hfresh,htaint] at hclean
      nomatch hclean
    | entered henter _ hkeep =>
      rw [hkeep htaint] at hclean
      exact ((h.currentTask tid htaint).2 hclean).extend
        (fun hrenew => (hquiet tid hrenew).1 henter)
    | exited hexit _ _ hrecover =>
      have hrenew : ¬Renews tid (.observe ev) := fun hrenew => (hquiet tid hrenew).2.1 hexit
      rcases hrecover htaint hclean with hold | ⟨hcand,hsys,htime,hargs⟩
      · exact ((h.currentTask tid htaint).2 hold).extend hrenew
      · have hwait := (h.currentTask tid htaint).1 hcand
        rw [hsys,htime,hargs] at hwait
        exact hwait.recovered hexit hrenew
    | touched hlife _ _ _ hkeep =>
      rw [hkeep htaint] at hclean
      refine ((h.currentTask tid htaint).2 hclean).extend (fun hrenew => ?_)
      rw [(hquiet tid hrenew).2.2] at hlife
      nomatch hlife

/-- Each call of the reader keeps the invariant. -/
theorem TaskInvariant.step (h : TaskInvariant start steps (taintCount start steps) i)
    (hi : i=applySteps start steps) {step : ReaderStep}
    (hlegacy : ∀ ev, step=.observe ev → ev.legacyIntegrity=false)
    (hfit : taintCount start (steps ++ [step]) < 2^64) :
    TaskInvariant start (steps ++ [step]) (taintCount start (steps ++ [step]))
      (applyStep i step) := by
  rw [taintCount_snoc,←hi] at hfit ⊢
  cases step with
  | observe ev =>
    have hcount := taintCount_snoc start steps (.observe ev)
    rw [←hi] at hcount
    have hstream := observeStream_streamStep i ev
    obtain ⟨hepoch,-⟩ := observeTask_snapshot (i.observeStream ev) ev
    have hstep : applyStep i (.observe ev)=(i.observeStream ev).observeTask ev := by
      rw [applyStep,TraceIntegrity.observe,if_neg (by simp [hlegacy ev rfl])]
    rw [raisesTaint,hstep,hepoch] at hfit hcount ⊢
    rcases hstream.taint with ⟨hsame,-⟩ | ⟨hnext,-⟩
    · have hno : ((i.observeStream ev).snapshot.epoch != i.snapshot.epoch)=false := by
        rw [hsame]
        exact bne_self_eq_false _
      rw [hno] at hcount ⊢
      exact (h.stream_same hstream hsame).observeTask hcount
    · have hyes : ((i.observeStream ev).snapshot.epoch != i.snapshot.epoch)=true := by
        rw [hnext,bne_iff_ne]
        exact fun hsame => absurd (add_eq_left.mp hsame) (by decide)
      rw [hyes] at hcount hfit ⊢
      exact (h.stream_taint hstream hnext hfit).observeTask hcount
  | invalidRecord =>
    have hyes : raisesTaint i .invalidRecord=true := by
      rw [raisesTaint,bne_iff_ne]
      exact fun hsame => absurd (add_eq_left.mp hsame) (by decide)
    rw [hyes] at hfit ⊢
    have hnext := h.stream_taint (invalidRecord_streamStep i) rfl hfit
    refine ⟨hnext.epoch,hnext.zero,hnext.bounded,?_,?_⟩
    · intro tid task hlookup htaint hsame hcand
      exact (hnext.waiting tid task hlookup htaint hsame hcand).extend (fun h => h) (fun h => h)
        (fun h => h)
    · intro tid task hlookup htaint hsame hclean
      exact (hnext.recovered tid task hlookup htaint hsame hclean).extend (fun h => h)

end Invariant

theorem taskInvariant_new (state fdState notify : Bool) :
    TaskInvariant (newTraceIntegrity state fdState notify) [] 0
      (newTraceIntegrity state fdState notify) := by
  refine ⟨rfl,rfl,?_,?_,?_⟩
  all_goals
    intro tid task hlookup
    nomatch hlookup

/-- The invariant holds along every run with fewer taints than epochs. -/
theorem taskInvariant_run (state fdState notify : Bool) {steps : List ReaderStep}
    (hlegacy : ∀ ev, .observe ev∈steps → ev.legacyIntegrity=false)
    (hfit : taintCount (newTraceIntegrity state fdState notify) steps < 2^64) :
    TaskInvariant (newTraceIntegrity state fdState notify) steps
      (taintCount (newTraceIntegrity state fdState notify) steps)
      (applySteps (newTraceIntegrity state fdState notify) steps) := by
  induction steps using List.reverseRecOn with
  | nil => exact taskInvariant_new state fdState notify
  | append_singleton steps step ih =>
    have hstarts : taintCount (newTraceIntegrity state fdState notify) steps < 2^64 := by
      rw [taintCount_snoc] at hfit
      omega
    have hinv := ih (fun ev hev => hlegacy ev (List.mem_append_left _ hev)) hstarts
    rw [applySteps_snoc]
    refine hinv.step rfl (fun ev hev => hlegacy ev ?_) hfit
    rw [hev]
    exact List.mem_append_right _ List.mem_cons_self

/-- A task of a tainted session that is trusted has observed, since the latest
taint, an enter and its matching exit, and has not been renewed since. -/
theorem trusted_task_recovered (state fdState notify : Bool) (steps : List ReaderStep)
    (hlegacy : ∀ ev, .observe ev∈steps → ev.legacyIntegrity=false)
    (hfit : taintCount (newTraceIntegrity state fdState notify) steps < 2^64) (tid : UInt32)
    (htainted : (applySteps (newTraceIntegrity state fdState notify) steps).snapshot.tainted=true)
    (htrusted : (applySteps (newTraceIntegrity state fdState notify) steps).correlationTainted tid=
      false) :
    Recovered (newTraceIntegrity state fdState notify) steps
      (taintCount (newTraceIntegrity state fdState notify) steps) tid := by
  have hinv := taskInvariant_run state fdState notify hlegacy hfit
  unfold TraceIntegrity.correlationTainted at htrusted
  rw [if_neg (by rw [htainted]; decide)] at htrusted
  cases hlookup : (applySteps (newTraceIntegrity state fdState notify) steps).tasks.lookup tid with
  | none =>
    rw [hlookup] at htrusted
    nomatch htrusted
  | some task =>
    rw [hlookup] at htrusted
    dsimp only at htrusted
    rw [Bool.or_eq_false_iff,bne_eq_false_iff_eq,Bool.not_eq_false'] at htrusted
    exact hinv.recovered tid task hlookup htainted htrusted.1 htrusted.2

/-- An enter that reports new loss. -/
def lossyEnter : TraceEventEnvelope where
  eventType := .enter
  eventFlags := 1
  seq := 1
  tid := 5
  sysID := 9
  enterTime := 7
  lossEpoch := 1

/-- The exit of that enter. -/
def lossyExit : TraceEventEnvelope where
  eventType := .exit
  seq := 2
  tid := 5
  sysID := 9
  enterTime := 7

/-- The enter raises a taint and its exit recovers the task. -/
def recoveringRun : List ReaderStep := [.observe lossyEnter,.observe lossyExit]

theorem recoveringRun_recovered :
    (applySteps (newTraceIntegrity true true true) recoveringRun).snapshot.tainted=true ∧
    Recovered (newTraceIntegrity true true true) recoveringRun
      (taintCount (newTraceIntegrity true true true) recoveringRun) 5 := by
  have htainted : (applySteps (newTraceIntegrity true true true)
      recoveringRun).snapshot.tainted=true := by
    decide +kernel
  refine ⟨htainted,trusted_task_recovered true true true recoveringRun ?_ (by decide +kernel) 5
    htainted (by decide +kernel)⟩
  intro ev hev
  simp only [recoveringRun,List.mem_cons,ReaderStep.observe.injEq,List.not_mem_nil,or_false] at hev
  rcases hev with rfl | rfl <;> rfl

/-- A fork record without a thread of its own. -/
def threadlessFork : TraceEventEnvelope where
  eventType := .lifecycle
  seq := 3
  lifecycleAction := lifecycleFork
  args := #v[1,5,0,0,0,0]

/-- A recovered task whose thread number is forked again. -/
def forkedRun : List ReaderStep := recoveringRun ++ [.observe threadlessFork]

/-- The task stays trusted although every enter of it is followed by a fork
record whose child it is. -/
theorem forkedRun_still_trusted :
    (applySteps (newTraceIntegrity false false false) forkedRun).snapshot.tainted=true ∧
    (applySteps (newTraceIntegrity false false false) forkedRun).correlationTainted 5=false ∧
    ∀ before enter since, forkedRun=before ++ .observe enter::since →
      IsEnterOf 5 (.observe enter) → ∃ step∈since, NamesTask 5 step := by
  refine ⟨by decide +kernel,by decide +kernel,?_⟩
  intro before enter since hsplit henter
  rcases List.eq_nil_or_concat since with rfl | ⟨rest,last,rfl⟩
  · obtain ⟨-,hlast⟩ := List.append_inj' hsplit rfl
    obtain rfl := ReaderStep.observe.inj (List.cons.inj hlast).1
    exact absurd henter (lifecycle_not_syscall rfl 5).1
  · rw [List.concat_eq_append,←List.cons_append,←List.append_assoc] at hsplit
    obtain ⟨-,hlast⟩ := List.append_inj' hsplit rfl
    refine ⟨last,by simp,?_⟩
    rw [←(List.cons.inj hlast).1]
    exact ⟨rfl,.inr (.inl ⟨rfl,rfl⟩)⟩

end StraceGo.EventIntegrityRecovery

import StraceGo.EventIntegrityRecovery
import StraceGo.EventInvocationParts
import StraceGo.EventStateInterleaving

/-!
# Recovery of an invocation after a loss

After a loss the session and its observer compare the start time of an exit
with that of the latest generic enter of its thread. An invocation whose
records all arrive is therefore matched exactly if its last generic enter has
the start time of its exit, and its sections are complete exactly if nothing is
needed of what arrived before that enter.
-/

namespace StraceGo.EventInvocationRecovery

open EventEnvelope FiniteMaps ObjectPool EventPayloadStorage EventSyscallCorrelation
  EventTaskLifecycle EventState EventSyscallOwnership EventStateContents EventStateRuns
  EventInvocationParts EventIntegrity EventIntegrityRecovery

open EventStateInterleaving hiding absorb foldl_absorb

/-- An enter or partial record of one invocation of a thread. -/
structure Belongs (tid sysID : UInt32) (args : SyscallArgs) (record : TraceEventEnvelope) :
    Prop where
  /-- It is of the thread. -/
  tid_eq : record.tid=tid
  /-- It is of the syscall. -/
  sysID_eq : record.sysID=sysID
  /-- It has the arguments. -/
  args_eq : record.args=args
  /-- It is a generic enter or a partial record. -/
  kind : record.syscallView.isGenericEnter=true ∨ record.syscallView.isEnterFragment=true ∨
    record.syscallView.isExitFragment=true
  /-- It has sequence data. -/
  sequenced : record.legacyIntegrity=false

/-- The complete exit record of one invocation of a thread, stamped with a start time. -/
structure Ends (tid sysID : UInt32) (args : SyscallArgs) (time : UInt64)
    (record : TraceEventEnvelope) : Prop where
  /-- It is of the thread. -/
  tid_eq : record.tid=tid
  /-- It is of the syscall. -/
  sysID_eq : record.sysID=sysID
  /-- It has the arguments. -/
  args_eq : record.args=args
  /-- It has the start time. -/
  time_eq : record.enterTime=time
  /-- It is an exit. -/
  exit : record.syscallView.isExit=true
  /-- It is complete. -/
  complete : record.syscallView.isExitFragment=false
  /-- It has sequence data. -/
  sequenced : record.legacyIntegrity=false

section Dispatch

variable {tid sysID : UInt32} {args : SyscallArgs} {a : Contents} {p : Policy}
  {record : TraceEventEnvelope} {kept : UInt64×List PayloadSection}

/-- The open enter of a thread is of an invocation, with the given start time and sections. -/
def Tracks (tid sysID : UInt32) (args : SyscallArgs) (a : Contents)
    (kept : UInt64×List PayloadSection) : Prop :=
  ∃ v, a.pending tid=some v ∧ v.sysID=sysID ∧ v.args=args ∧ kept=(v.enterTime,v.sections)

/-- After a loss a generic enter starts its thread over. -/
theorem tracks_generic (htainted : p.tainted=true) (h : Belongs tid sysID args record)
    (hgeneric : record.syscallView.isGenericEnter=true) :
    Tracks tid sysID args (handle p a record).1 (record.enterTime,record.payload) := by
  have hentering : entering p a record.syscallView=a.clearTask record.tid := by
    unfold entering
    rw [htainted]
    rfl
  have hopened : ((a.clearTask record.tid).rememberEnterEvent record.syscallView
      record.payload).pending record.tid=
        some (Contents.openedValue record.syscallView record.payload) := by
    have hnone : (a.clearTask record.tid).pending record.syscallView.tid=none :=
      Function.update_self ..
    unfold Contents.rememberEnterEvent Contents.enteredValue
    rw [hnone]
    exact Function.update_self ..
  have htaken : ((a.clearTask record.tid).rememberEnterEvent record.syscallView
      record.payload).takenExit record.syscallView=none := by
    have hnone : ((a.clearTask record.tid).rememberEnterEvent record.syscallView
        record.payload).exits record.syscallView.tid=none := Function.update_self ..
    unfold Contents.takenExit
    rw [hnone]
    rfl
  rw [handle_of_isSyscallRecord (isSyscallRecord_of_enter (eventType_of_isGenericEnter hgeneric))]
  unfold handleSyscall handleEnter
  rw [if_pos hgeneric,hentering]
  dsimp only
  rw [htaken,←h.tid_eq]
  exact ⟨Contents.openedValue record.syscallView record.payload,hopened,h.sysID_eq,h.args_eq,rfl⟩

/-- After a loss a partial record joins an open enter of its own start time. -/
theorem tracks_fragment (htainted : p.tainted=true) (h : Belongs tid sysID args record)
    (hgeneric : record.syscallView.isGenericEnter=false) (ha : Tracks tid sysID args a kept) :
    Tracks tid sysID args (handle p a record).1
      (if kept.1=record.enterTime then (kept.1,mergeSections kept.2 record.payload) else kept) := by
  obtain ⟨v,hpending,hsysID,hargs,rfl⟩ := ha
  have hfragment := h.kind.resolve_left (Bool.not_eq_true _ |>.mpr hgeneric)
  have hat : a.pending record.syscallView.tid=some v := by
    rw [←h.tid_eq] at hpending
    exact hpending
  have hhandled : handle p a record=
      (handleFragment p a record.syscallView record.payload,{}) := by
    rw [handle_of_isSyscallRecord (isSyscallRecord_of_middle h.kind)]
    unfold handleSyscall
    rw [if_neg (Bool.not_eq_true _ |>.mpr hgeneric)]
    rcases hfragment with henter | hexit
    · rw [if_pos henter]
    · rw [if_pos hexit,ite_self]
  have hmismatch : mismatches record.syscallView v.toSyscallEnterData=
      decide (v.enterTime≠record.enterTime) := by
    have hsame : v.args=record.syscallView.args := hargs.trans h.args_eq.symm
    unfold mismatches
    rw [hsame]
    simp only [ne_eq,not_true_eq_false,or_false]
    rfl
  rw [hhandled]
  unfold handleFragment
  rw [htainted,Bool.true_and,hat,Option.all_some,hmismatch]
  dsimp only
  by_cases htime : v.enterTime=record.enterTime
  · have hsame : ¬v.sysID≠record.syscallView.sysID :=
      not_ne_iff.mpr (hsysID.trans h.sysID_eq.symm)
    rw [if_neg (by simp [htime]),if_pos htime]
    refine ⟨{v with sections := mergeSections v.sections record.payload},?_,hsysID,hargs,rfl⟩
    unfold Contents.rememberPayloadFragment
    rw [hat,Option.map_some,if_neg hsame,←h.tid_eq]
    exact Function.update_self ..
  · rw [if_pos (decide_eq_true htime),if_neg htime]
    exact ⟨v,hpending,hsysID,hargs,rfl⟩

/-- After a loss every record of an invocation is absorbed as its part. -/
theorem tracks_part (htainted : p.tainted=true) (h : Belongs tid sysID args record)
    (ha : record.syscallView.isGenericEnter=true ∨ Tracks tid sysID args a kept) :
    Tracks tid sysID args (handle p a record).1 (absorb kept (partOf record)) := by
  unfold absorb partOf
  cases hgeneric : record.syscallView.isGenericEnter with
  | true => exact tracks_generic htainted h hgeneric
  | false =>
    have htracks := ha.resolve_left (Bool.not_eq_true _ |>.mpr hgeneric)
    exact tracks_fragment htainted h hgeneric htracks

/-- After a loss an exit takes the open enter of its own start time. -/
theorem pendingEnter_exit {time : UInt64} (htainted : p.tainted=true)
    (helided : p.elided sysID=false) (h : Ends tid sysID args time record)
    (ha : Tracks tid sysID args a kept) :
    ((handle p a record).2.pendingEnter.map fun v => v.sections)=
      if kept.1=time then some kept.2 else none := by
  obtain ⟨v,hpending,hsysID,hargs,rfl⟩ := ha
  obtain ⟨hgeneric,hfragment⟩ := not_enter_of_isExit h.exit
  have hat : a.pending record.syscallView.tid=some v := by
    rw [←h.tid_eq] at hpending
    exact hpending
  have hnotElided : p.elided record.syscallView.sysID=false := by
    rw [←helided,←h.sysID_eq]
    rfl
  have hmismatch : mismatches record.syscallView v.toSyscallEnterData=
      decide (v.enterTime≠time) := by
    have hsame : v.args=record.syscallView.args := hargs.trans h.args_eq.symm
    unfold mismatches
    rw [hsame,←h.time_eq]
    simp only [ne_eq,not_true_eq_false,or_false]
    rfl
  have hmatched : (matched p a record.syscallView).2=
      if v.enterTime=time then some v else none := by
    unfold matched consume trusted
    rw [htainted,Bool.true_and,hat,Option.any_some,hmismatch,hnotElided]
    by_cases htime : v.enterTime=time
    · have hsame : (v.sysID==record.syscallView.sysID)=true :=
        beq_iff_eq.mpr (hsysID.trans h.sysID_eq.symm)
      rw [if_neg (by simp [htime]),if_pos htime]
      unfold Contents.consumedEnter
      rw [h.exit,hat,Option.filter_some,hsame]
      rfl
    · have hnone : (a.clearTask record.syscallView.tid).pending record.syscallView.tid=none :=
        Function.update_self ..
      rw [if_pos (decide_eq_true htime),if_neg htime]
      unfold Contents.consumedEnter
      rw [h.exit,hnone]
      rfl
  have hreport : (handle p a record).2.pendingEnter=(matched p a record.syscallView).2 := by
    rw [handle_of_isSyscallRecord (isSyscallRecord_of_exit (eventType_of_isExit h.exit))]
    unfold handleSyscall
    rw [hgeneric,hfragment,h.complete,if_neg Bool.false_ne_true,if_neg Bool.false_ne_true,
      if_neg Bool.false_ne_true,handleExit_eq,htainted,
      if_neg (fun hall => Bool.noConfusion hall.2.2)]
  rw [hreport,hmatched]
  split_ifs <;> rfl

/-- Contents after some records. -/
def handleAll (p : Policy) (a : Contents) (records : List TraceEventEnvelope) : Contents :=
  records.foldl (fun a record => (handle p a record).1) a

theorem contentsResults_append (tid : UInt32) (a : Contents)
    (first second : List TraceEventEnvelope) :
    contentsResults p tid a (first ++ second)=
      contentsResults p tid a first ++ contentsResults p tid (handleAll p a first) second := by
  induction first generalizing a with
  | nil => rfl
  | cons record rest ih =>
    rw [List.cons_append,contentsResults_cons,contentsResults_cons,ih,List.append_assoc]
    rfl

/-- After a loss the records of an invocation are absorbed one by one. -/
theorem tracks_handleAll (htainted : p.tainted=true) {records : List TraceEventEnvelope}
    (h : ∀ record∈records, Belongs tid sysID args record) (ha : Tracks tid sysID args a kept) :
    Tracks tid sysID args (handleAll p a records) ((records.map partOf).foldl absorb kept) := by
  induction records generalizing a kept with
  | nil => exact ha
  | cons record rest ih =>
    rw [List.forall_mem_cons] at h
    exact ih h.2 (tracks_part htainted h.1 (Or.inr ha))

/-- After a loss the last report of an invocation's records carries what its parts leave, if its
start time is that of the exit. -/
theorem contentsResults_recovered {time : UInt64} (htainted : p.tainted=true)
    (helided : p.elided sysID=false) {first exit : TraceEventEnvelope}
    {rest : List TraceEventEnvelope} (hfirst : first.syscallView.isGenericEnter=true)
    (h : ∀ record∈first::rest, Belongs tid sysID args record)
    (hexit : Ends tid sysID args time exit) (kept : UInt64×List PayloadSection) :
    ∃ report, (contentsResults p tid a (first::rest ++ [exit])).getLast?=some report ∧
      (report.pendingEnter.map fun v => v.sections)=
        if (((first::rest).map partOf).foldl absorb kept).1=time then
          some (((first::rest).map partOf).foldl absorb kept).2 else none := by
  rw [List.forall_mem_cons] at h
  have hstart : Tracks tid sysID args (handle p a first).1 (absorb kept (partOf first)) :=
    tracks_part htainted h.1 (Or.inl hfirst)
  have htracks := tracks_handleAll htainted h.2 hstart
  have hown : own tid exit=true := own_of_tid hexit.tid_eq
    (isSyscallRecord_of_exit (eventType_of_isExit hexit.exit))
  have hreport := pendingEnter_exit htainted helided hexit htracks
  have hlast : contentsResults p tid (handleAll p a (first::rest)) [exit]=
      [{pendingEnter := (handle p (handleAll p a (first::rest)) exit).2.pendingEnter,
        payloadSections := exit.payload,
        deferred := (handle p (handleAll p a (first::rest)) exit).2.deferred}] := by
    rw [contentsResults_cons,if_pos hown]
    rfl
  rw [contentsResults_append,hlast,List.getLast?_concat]
  exact ⟨_,rfl,hreport⟩

end Dispatch

section Trust

variable {i j : TraceIntegrity} {tid sysID : UInt32} {args : SyscallArgs}
  {ev : TraceEventEnvelope} {task : TraceTaskIntegrity}

/-- Candidate and trust of a thread in the current epoch. -/
def trust (i : TraceIntegrity) (tid : UInt32) : TraceTaskIntegrity :=
  {i.currentTask tid with pid := 0}

/-- Candidate and trust after a sequenced syscall record of the thread. -/
def settle (task : TraceTaskIntegrity) (ev : TraceEventEnvelope) : TraceTaskIntegrity :=
  if ev.syscallView.isGenericEnter then
    {task with candidate := true, sysID := ev.sysID, enterTime := ev.enterTime, args := ev.args}
  else if ev.syscallView.isExit && !ev.syscallView.isExitFragment then
    {task with
      clean := task.clean || (task.candidate && task.sysID==ev.sysID &&
        task.enterTime==ev.enterTime && task.args==ev.args)
      candidate := false}
  else task

theorem trust_congr (htasks : j.tasks.lookup tid=i.tasks.lookup tid)
    (hepoch : j.snapshot.epoch=i.snapshot.epoch) : trust j tid=trust i tid := by
  unfold trust TraceIntegrity.currentTask
  rw [htasks,hepoch]

theorem trust_of_lookup (hlookup : j.tasks.lookup tid=some task)
    (hepoch : task.epoch=j.snapshot.epoch) : trust j tid={task with pid := 0} := by
  unfold trust TraceIntegrity.currentTask
  rw [hlookup]
  dsimp only [Option.getD_some]
  rw [if_neg (not_not.mpr hepoch)]

theorem currentTask_epoch (i : TraceIntegrity) (tid : UInt32) :
    (i.currentTask tid).epoch=i.snapshot.epoch := by
  unfold TraceIntegrity.currentTask
  dsimp only
  split_ifs with hstale
  · rfl
  · exact not_not.mp hstale

/-- After a loss a thread is trusted exactly if its entry of the current epoch is clean. -/
theorem correlationTainted_eq (htainted : i.snapshot.tainted=true) (tid : UInt32) :
    i.correlationTainted tid= !(trust i tid).clean := by
  unfold TraceIntegrity.correlationTainted trust TraceIntegrity.currentTask
  rw [htainted,if_neg Bool.noConfusion]
  cases i.tasks.lookup tid with
  | none =>
    dsimp only [Option.getD_none]
    split_ifs <;> rfl
  | some task =>
    dsimp only [Option.getD_some]
    by_cases hepoch : task.epoch=i.snapshot.epoch
    · rw [if_neg (not_not.mpr hepoch),hepoch,bne_self_eq_false,Bool.false_or]
    · rw [if_pos hepoch,bne_iff_ne.mpr hepoch,Bool.true_or]
      rfl

/-- A record of the thread settles it. -/
theorem trust_observeTask (htainted : i.snapshot.tainted=true) (htid : ev.tid≠0)
    (hlife : ev.isLifecycle=false) :
    trust (i.observeTask ev) ev.tid=settle (trust i ev.tid) ev := by
  have hepoch := currentTask_epoch i ev.tid
  unfold TraceIntegrity.observeTask settle
  rw [if_neg htid,hlife,if_neg Bool.false_ne_true]
  dsimp only
  rw [if_pos htainted]
  by_cases hgeneric : ev.syscallView.isGenericEnter=true
  · rw [if_pos hgeneric,if_pos hgeneric]
    exact Eq.trans (trust_of_lookup (Finmap.lookup_insert _) hepoch) rfl
  rw [if_neg hgeneric,if_neg hgeneric]
  by_cases hexit : (ev.syscallView.isExit && !ev.syscallView.isExitFragment)=true
  · have hrecovered : ∀ clean matches' : Bool,
        (clean || matches' && !clean)=(clean || matches') := by decide
    rw [if_pos hexit,if_pos hexit]
    refine Eq.trans (trust_of_lookup (Finmap.lookup_insert _) ?_) ?_
    · split_ifs <;> exact hepoch
    · dsimp only
      rw [hrecovered]
      rfl
  · rw [if_neg hexit,if_neg hexit]
    exact Eq.trans (trust_of_lookup (Finmap.lookup_insert _) hepoch) rfl

/-- A signal record settles nothing. -/
theorem settle_signal (hsignal : ev.isSignal=true) (task : TraceTaskIntegrity) :
    settle task ev=task := by
  have htype : ev.syscallView.eventType=.signal := beq_iff_eq.mp hsignal
  unfold settle SyscallEventView.isGenericEnter SyscallEventView.isExit
  rw [htype]
  rfl

/-- A lifecycle record leaves the entries of threads that it does not name. -/
theorem observeTaskLifecycle_lookup (htid : tid≠ev.tid) (hold : tid≠ev.args[0].toUInt32)
    (hnew : tid≠ev.args[1].toUInt32) :
    (i.observeTaskLifecycle ev).tasks.lookup tid=i.tasks.lookup tid := by
  have hsurvivor : tid≠TraceIntegrity.execTID ev := by
    unfold TraceIntegrity.execTID
    split_ifs
    · exact htid
    · exact hnew
  unfold TraceIntegrity.observeTaskLifecycle
  dsimp only
  split_ifs
  · dsimp only
    rw [lookup_erase_ite,if_neg htid]
  · dsimp only
    rw [lookup_insert_ite,if_neg hsurvivor,lookup_erase_ite,if_neg hold]
  · dsimp only
    rw [lookup_insert_ite,if_neg hnew]
  · rfl
  · rfl

/-- Other records leave a thread as it is. -/
theorem trust_observeTask_of_not_own (htainted : i.snapshot.tainted=true) (htid : tid≠0)
    (hown : own tid ev=false) (hnamed : tid∉named ev) :
    trust (i.observeTask ev) tid=trust i tid := by
  have hepoch := (observeTask_snapshot i ev).1
  by_cases hlife : ev.isLifecycle=true
  · refine trust_congr ?_ hepoch
    unfold named at hnamed
    rw [if_pos hlife,List.mem_cons,List.mem_cons,List.mem_singleton,not_or,not_or] at hnamed
    obtain ⟨hself,hold,hnew⟩ := hnamed
    unfold TraceIntegrity.observeTask
    rw [if_pos hlife]
    split_ifs
    · rfl
    · exact observeTaskLifecycle_lookup hself hold hnew
  · rw [Bool.not_eq_true] at hlife
    by_cases hself : ev.tid=tid
    · have hsignal : ev.isSignal=true := by
        unfold own isSyscallRecord at hown
        rw [hself,hlife,beq_self_eq_true,Bool.true_and,Bool.not_false,Bool.and_true,
          Bool.not_eq_false'] at hown
        exact hown
      subst hself
      rw [trust_observeTask htainted htid hlife,settle_signal hsignal]
    · refine trust_congr ?_ hepoch
      unfold TraceIntegrity.observeTask
      rw [hlife,if_neg Bool.false_ne_true]
      split_ifs
      · rfl
      all_goals
        dsimp only
        split_ifs
        all_goals
          dsimp only
          rw [lookup_insert_ite,if_neg (Ne.symm hself)]

/-- Trust in a thread after one record that reports no further loss. -/
theorem trust_observe (htainted : i.snapshot.tainted=true) (htid : tid≠0)
    (hlossless : raisesTaint i (.observe ev)=false)
    (hsequenced : own tid ev=true → ev.legacyIntegrity=false) (hnamed : tid∉named ev) :
    trust (i.observe ev).1 tid=
        (if own tid ev then settle (trust i tid) ev else trust i tid) ∧
      (i.observe ev).1.snapshot.tainted=true := by
  have hkept : (i.observe ev).1.snapshot.epoch=i.snapshot.epoch :=
    bne_eq_false_iff_eq.mp hlossless
  cases hlegacy : ev.legacyIntegrity with
  | true =>
    have hother : own tid ev=false := by
      cases hown : own tid ev with
      | false => rfl
      | true =>
        rw [hsequenced hown] at hlegacy
        exact nomatch hlegacy
    unfold TraceIntegrity.observe
    rw [if_pos hlegacy,hother,if_neg Bool.false_ne_true]
    exact ⟨trust_congr rfl rfl,htainted⟩
  | false =>
    have hstep : (i.observe ev).1=(i.observeStream ev).observeTask ev := by
      unfold TraceIntegrity.observe
      rw [hlegacy,if_neg Bool.false_ne_true]
    obtain ⟨hepoch,hflag⟩ := observeTask_snapshot (i.observeStream ev) ev
    obtain ⟨htasks,htaint⟩ := observeStream_streamStep i ev
    have hstream : (i.observeStream ev).snapshot.tainted=true := by
      rcases htaint with hsame | hraised
      · exact hsame.2.trans htainted
      · exact hraised.2
    rw [hstep] at hkept ⊢
    have hsame : trust (i.observeStream ev) tid=trust i tid :=
      trust_congr (congrArg _ htasks) (hepoch.symm.trans hkept)
    refine ⟨?_,hflag.trans hstream⟩
    cases hown : own tid ev with
    | false =>
      rw [trust_observeTask_of_not_own hstream htid hown hnamed,hsame]
      rfl
    | true =>
      obtain ⟨hself,hsyscall⟩ := Bool.and_eq_true _ _ |>.mp hown
      have hlife := Bool.not_eq_true' _ |>.mp (Bool.and_eq_true _ _ |>.mp hsyscall).2
      obtain rfl : ev.tid=tid := beq_iff_eq.mp hself
      rw [trust_observeTask hstream htid hlife,hsame]
      rfl

/-- State and stamped records after some records are observed. -/
def observeAll (i : TraceIntegrity) : List TraceEventEnvelope →
    TraceIntegrity×List TraceEventEnvelope
  | [] => (i,[])
  | ev::rest =>
    let (next,first) := i.observe ev
    let (last,others) := observeAll next rest
    (last,first::others)

/-- None of the records reports a further loss. -/
def Lossless (i : TraceIntegrity) : List TraceEventEnvelope → Prop
  | [] => True
  | ev::rest => raisesTaint i (.observe ev)=false ∧ Lossless (i.observe ev).1 rest

/-- Trust in a thread after some records is settled by its own ones. -/
theorem trust_observeAll (htid : tid≠0) {inputs : List TraceEventEnvelope}
    (htainted : i.snapshot.tainted=true) (hlossless : Lossless i inputs)
    (hsequenced : ∀ ev∈inputs, own tid ev=true → ev.legacyIntegrity=false)
    (hnamed : ∀ ev∈inputs, tid∉named ev) :
    trust (observeAll i inputs).1 tid=(inputs.filter (own tid)).foldl settle (trust i tid) ∧
      (observeAll i inputs).1.snapshot.tainted=true := by
  induction inputs generalizing i with
  | nil => exact ⟨rfl,htainted⟩
  | cons ev rest ih =>
    rw [List.forall_mem_cons] at hsequenced hnamed
    obtain ⟨hfirst,hnext⟩ := trust_observe htainted htid hlossless.1 hsequenced.1 hnamed.1
    have hrest := ih hnext hlossless.2 hsequenced.2 hnamed.2
    rw [hfirst] at hrest
    rw [List.filter_cons]
    cases hown : own tid ev with
    | false =>
      rw [hown] at hrest
      exact hrest
    | true =>
      rw [hown] at hrest
      exact hrest

/-- The observer waits for the exit of an invocation with the given start time. -/
def Awaits (sysID : UInt32) (args : SyscallArgs) (task : TraceTaskIntegrity) (time : UInt64) :
    Prop :=
  task.candidate=true ∧ task.sysID=sysID ∧ task.args=args ∧ task.enterTime=time

/-- The observer waits with the start time that the session remembers. -/
theorem awaits_part {kept : UInt64×List PayloadSection} (h : Belongs tid sysID args ev)
    (htask : ev.syscallView.isGenericEnter=true ∨ Awaits sysID args task kept.1) :
    Awaits sysID args (settle task ev) (absorb kept (partOf ev)).1 := by
  unfold settle absorb partOf
  cases hgeneric : ev.syscallView.isGenericEnter with
  | true => exact ⟨rfl,h.sysID_eq,h.args_eq,rfl⟩
  | false =>
    rw [hgeneric] at htask
    have hnotExit : (ev.syscallView.isExit && !ev.syscallView.isExitFragment)=false := by
      rcases h.kind with hkind | henter | hexit
      · rw [hgeneric] at hkind
        exact nomatch hkind
      · have htype : ev.syscallView.eventType=.enter := eventType_of_isEnterFragment henter
        unfold SyscallEventView.isExit
        rw [htype]
        rfl
      · rw [hexit,Bool.not_true,Bool.and_false]
    have hwaits := htask.resolve_left Bool.false_ne_true
    rw [if_neg Bool.false_ne_true,hnotExit,if_neg Bool.false_ne_true,if_neg Bool.false_ne_true]
    split_ifs
    · exact hwaits
    · exact hwaits

theorem awaits_foldl {kept : UInt64×List PayloadSection} {records : List TraceEventEnvelope}
    (h : ∀ record∈records, Belongs tid sysID args record)
    (htask : Awaits sysID args task kept.1) :
    Awaits sysID args (records.foldl settle task) ((records.map partOf).foldl absorb kept).1 := by
  induction records generalizing task kept with
  | nil => exact htask
  | cons record rest ih =>
    rw [List.forall_mem_cons] at h
    exact ih h.2 (awaits_part h.1 (Or.inr htask))

/-- An exit with the awaited start time makes its thread trusted. -/
theorem clean_exit {time : UInt64} (h : Ends tid sysID args time ev)
    (htask : Awaits sysID args task time) : (settle task ev).clean=true := by
  obtain ⟨hcandidate,hsysID,hargs,htime⟩ := htask
  unfold settle
  rw [(not_enter_of_isExit h.exit).1,if_neg Bool.false_ne_true,h.exit,h.complete]
  rw [Bool.not_false,Bool.and_self,if_pos rfl]
  dsimp only
  rw [hcandidate,hsysID,hargs,htime,h.sysID_eq,h.args_eq,h.time_eq,beq_self_eq_true,
    beq_self_eq_true,beq_self_eq_true,Bool.and_self,Bool.and_self,Bool.and_self,Bool.or_true]

/-- An invocation makes its thread trusted if what is remembered of it has the start time of its
exit. -/
theorem clean_invocation {time : UInt64} {first exit : TraceEventEnvelope}
    {rest : List TraceEventEnvelope} (hfirst : first.syscallView.isGenericEnter=true)
    (h : ∀ record∈first::rest, Belongs tid sysID args record)
    (hexit : Ends tid sysID args time exit) (kept : UInt64×List PayloadSection)
    (htime : (((first::rest).map partOf).foldl absorb kept).1=time) :
    ((first::rest ++ [exit]).foldl settle task).clean=true := by
  rw [List.forall_mem_cons] at h
  have hstart : Awaits sysID args (settle task first) (absorb kept (partOf first)).1 :=
    awaits_part h.1 (Or.inl hfirst)
  have hwaits := awaits_foldl h.2 hstart
  have hremembered : ((rest.map partOf).foldl absorb (absorb kept (partOf first))).1=time := htime
  rw [hremembered] at hwaits
  rw [List.foldl_append]
  exact clean_exit hexit hwaits

end Trust

section Arrival

variable {tid sysID : UInt32} {args : SyscallArgs} {time : UInt64}

/-- A record without its place in the stream: what the handler wrote into it. -/
def content (record : TraceEventEnvelope) : TraceEventEnvelope :=
  { record with
    integrityEpoch := 0
    correlationTainted := false
    seq := 0
    cpu := 0
    lossEpoch := 0
    lossTimeNS := 0
    recordIndex := 0
    tainted := false
    comm := "" }

/-- Stamping keeps what the handlers wrote. -/
theorem content_observeAll (i : TraceIntegrity) (inputs : List TraceEventEnvelope) :
    (observeAll i inputs).2.map content=inputs.map content := by
  induction inputs generalizing i with
  | nil => rfl
  | cons ev rest ih =>
    have hfirst : content (i.observe ev).2=content ev := by
      unfold TraceIntegrity.observe
      split_ifs <;> rfl
    exact congrArg₂ List.cons hfirst (ih _)

theorem filter_own_map_content (tid : UInt32) (records : List TraceEventEnvelope) :
    (records.filter (own tid)).map content=(records.map content).filter (own tid) := by
  rw [List.filter_map]
  rfl

theorem forall_named_of_content {records others : List TraceEventEnvelope}
    (heq : records.map content=others.map content) (h : ∀ record∈others, tid∉named record) :
    ∀ record∈records, tid∉named record := by
  intro record hmem
  have hcontent : content record∈others.map content := heq ▸ List.mem_map_of_mem hmem
  obtain ⟨other,hother,hsame⟩ := List.mem_map.mp hcontent
  have hnamed : named (content other)=named (content record) := congrArg named hsame
  have hsilent : tid∉named (content other) := h other hother
  rw [hnamed] at hsilent
  exact hsilent

theorem Belongs.of_content {record other : TraceEventEnvelope}
    (h : Belongs tid sysID args other) (heq : content record=content other) :
    Belongs tid sysID args record := by
  have hother : Belongs tid sysID args (content other) := ⟨h.1,h.2,h.3,h.4,h.5⟩
  rw [←heq] at hother
  exact ⟨hother.1,hother.2,hother.3,hother.4,hother.5⟩

theorem Ends.of_content {record other : TraceEventEnvelope}
    (h : Ends tid sysID args time other) (heq : content record=content other) :
    Ends tid sysID args time record := by
  have hother : Ends tid sysID args time (content other) := ⟨h.1,h.2,h.3,h.4,h.5,h.6,h.7⟩
  rw [←heq] at hother
  exact ⟨hother.1,hother.2,hother.3,hother.4,hother.5,hother.6,hother.7⟩

/-- Records of one content are generic enters alike. -/
theorem isGenericEnter_of_content {a b : TraceEventEnvelope} (h : content a=content b)
    (hb : b.syscallView.isGenericEnter=true) : a.syscallView.isGenericEnter=true := by
  have hview : (content a).syscallView.isGenericEnter=true := by
    rw [h]
    exact hb
  exact hview

/-- Records that arrive are split as the records that were sent. -/
theorem arrival_split {ours rest : List TraceEventEnvelope} {first exit : TraceEventEnvelope}
    (h : ours.map content=(first::rest ++ [exit]).map content) :
    ∃ head tail last, ours=head::tail ++ [last] ∧ content head=content first ∧
      (head::tail).map content=(first::rest).map content ∧ content last=content exit := by
  rw [List.map_append] at h
  obtain ⟨front,back,rfl,hfront,hback⟩ := List.map_eq_append_iff.mp h
  obtain ⟨head,tail,rfl,hhead,-⟩ := List.map_eq_cons_iff.mp hfront
  obtain ⟨last,others,rfl,hlast,hothers⟩ := List.map_eq_cons_iff.mp hback
  obtain rfl := List.map_eq_nil_iff.mp hothers
  exact ⟨head,tail,last,rfl,hhead,hfront,hlast⟩

theorem Belongs.forall_of_content {records others : List TraceEventEnvelope}
    (heq : records.map content=others.map content)
    (h : ∀ record∈others, Belongs tid sysID args record) :
    ∀ record∈records, Belongs tid sysID args record := by
  intro record hmem
  have hcontent : content record∈others.map content := heq ▸ List.mem_map_of_mem hmem
  obtain ⟨other,hother,hsame⟩ := List.mem_map.mp hcontent
  exact (h other hother).of_content hsame.symm

theorem map_partOf_of_content {records others : List TraceEventEnvelope}
    (heq : records.map content=others.map content) :
    records.map partOf=others.map partOf := by
  have hparts := congrArg (List.map partOf) heq
  rw [List.map_map,List.map_map] at hparts
  exact hparts

section Runs

variable {tables : SyscallTables} {config : SessionConfig} {ops : List Operation}
  {i : TraceIntegrity} {first exit : TraceEventEnvelope} {rest inputs : List TraceEventEnvelope}

/-- After a loss the exit of an invocation is reported with what its parts leave, if that has the
start time of the exit. -/
theorem report_invocation
    (hops : AdmissibleRun tables {st := newTraceStateForSession config} ops)
    (hst : (run tables {st := newTraceStateForSession config} ops).st.tainted=true)
    (helided : (run tables {st := newTraceStateForSession config}
      ops).st.shouldSynthesizeElidedPlainEnter tables sysID=false)
    (hfirst : first.syscallView.isGenericEnter=true)
    (hbelongs : ∀ record∈first::rest, Belongs tid sysID args record)
    (hends : Ends tid sysID args time exit) (hnamed : ∀ record∈inputs, tid∉named record)
    (harrive : (inputs.filter (own tid)).map content=(first::rest ++ [exit]).map content)
    (kept : UInt64×List PayloadSection) :
    ∃ report, (results tables tid (run tables {st := newTraceStateForSession config} ops).st
        inputs).getLast?=some report ∧
      (report.pendingEnter.map fun v => v.sections)=
        if (((first::rest).map partOf).foldl absorb kept).1=time then
          some (((first::rest).map partOf).foldl absorb kept).2 else none := by
  obtain ⟨a,ha,hkeyed⟩ := keyed_run (remembers_new config) (fun _ _ he => nomatch he) hops
  obtain ⟨head,tail,last,hsplit,hhead,hfront,hlast⟩ := arrival_split harrive
  have hgeneric : head.syscallView.isGenericEnter=true := isGenericEnter_of_content hhead hfirst
  rw [results_eq ha,contentsResults_filter hkeyed hkeyed (.refl tid a) hnamed,hsplit,
    ←map_partOf_of_content hfront]
  exact contentsResults_recovered hst helided hgeneric (Belongs.forall_of_content hfront hbelongs)
    (hends.of_content hlast) kept

/-- After a loss an invocation makes its thread trusted if what its parts leave has the start time
of its exit. -/
theorem trusted_invocation (hi : i.snapshot.tainted=true) (htid : tid≠0)
    (hfirst : first.syscallView.isGenericEnter=true)
    (hbelongs : ∀ record∈first::rest, Belongs tid sysID args record)
    (hends : Ends tid sysID args time exit) (hlossless : Lossless i inputs)
    (hnamed : ∀ record∈inputs, tid∉named record)
    (harrive : (inputs.filter (own tid)).map content=(first::rest ++ [exit]).map content)
    {kept : UInt64×List PayloadSection}
    (htime : (((first::rest).map partOf).foldl absorb kept).1=time) :
    (observeAll i inputs).1.correlationTainted tid=false := by
  obtain ⟨head,tail,last,hsplit,hhead,hfront,hlast⟩ := arrival_split harrive
  have hgeneric : head.syscallView.isGenericEnter=true := isGenericEnter_of_content hhead hfirst
  have hours := Belongs.forall_of_content hfront hbelongs
  have hexit := hends.of_content hlast
  have hsequenced : ∀ ev∈inputs, own tid ev=true → ev.legacyIntegrity=false := by
    intro ev hmem hown
    have hin : ev∈head::tail ++ [last] := hsplit ▸ List.mem_filter.mpr ⟨hmem,hown⟩
    rcases List.mem_append.mp hin with hpart | hexit'
    · exact (hours ev hpart).sequenced
    · rw [List.mem_singleton.mp hexit']
      exact hexit.sequenced
  obtain ⟨htrust,htainted⟩ := trust_observeAll htid hi hlossless hsequenced hnamed
  rw [←map_partOf_of_content hfront] at htime
  rw [correlationTainted_eq htainted,htrust,hsplit,
    clean_invocation hgeneric hours hexit kept htime]
  rfl

/-- The exit of a thread is reported with an enter that has all sections of some records, and the
observer trusts the thread. -/
def Recovers (tables : SyscallTables) (tid : UInt32) (st : TraceState) (i : TraceIntegrity)
    (inputs records : List TraceEventEnvelope) : Prop :=
  (∃ report v, (results tables tid st (observeAll i inputs).2).getLast?=some report ∧
    report.pendingEnter=some v ∧ ∀ record∈records, ∀ s∈record.payload, s∈v.sections) ∧
  (observeAll i inputs).1.correlationTainted tid=false

/-- After a loss, an invocation whose records all arrive recovers its thread exactly if it is
recoverable by the start time of its exit. -/
theorem recovers_iff
    (hops : AdmissibleRun tables {st := newTraceStateForSession config} ops)
    (hst : (run tables {st := newTraceStateForSession config} ops).st.tainted=true)
    (helided : (run tables {st := newTraceStateForSession config}
      ops).st.shouldSynthesizeElidedPlainEnter tables sysID=false)
    (hi : i.snapshot.tainted=true) (htid : tid≠0)
    (hfirst : first.syscallView.isGenericEnter=true)
    (hbelongs : ∀ record∈first::rest, Belongs tid sysID args record)
    (hends : Ends tid sysID args time exit) (hlossless : Lossless i inputs)
    (hnamed : ∀ record∈inputs, tid∉named record)
    (harrive : (inputs.filter (own tid)).map content=(first::rest ++ [exit]).map content) :
    Recovers tables tid (run tables {st := newTraceStateForSession config} ops).st i inputs
        (first::rest) ↔
      Recoverable time ((first::rest).map partOf) := by
  have hstamped := content_observeAll i inputs
  have hours : ((observeAll i inputs).2.filter (own tid)).map content=
      (first::rest ++ [exit]).map content := by
    rw [filter_own_map_content,hstamped,←filter_own_map_content,harrive]
  obtain ⟨report,hreport,hsections⟩ := report_invocation hops hst helided hfirst hbelongs hends
    (forall_named_of_content hstamped hnamed) hours (0,[])
  rw [List.map_cons,recoverable_iff hfirst (rest.map partOf) time (0,[]),←List.map_cons]
  constructor
  · rintro ⟨⟨other,v,hother,hpending,hall⟩,-⟩
    obtain rfl := Option.some.inj (hreport.symm.trans hother)
    rw [hpending,Option.map_some] at hsections
    split_ifs at hsections with htime
    refine ⟨htime,?_⟩
    rw [←Option.some.inj hsections,List.forall_mem_map]
    exact hall
  · rintro ⟨htime,hall⟩
    rw [if_pos htime,Option.map_eq_some_iff] at hsections
    obtain ⟨v,hpending,hv⟩ := hsections
    rw [←hv,List.forall_mem_map] at hall
    exact ⟨⟨report,v,hreport,hpending,hall⟩,
      trusted_invocation hi htid hfirst hbelongs hends hlossless hnamed harrive htime⟩

end Runs

end Arrival

end StraceGo.EventInvocationRecovery

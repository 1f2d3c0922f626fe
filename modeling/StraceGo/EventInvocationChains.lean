import StraceGo.BpfPendingOwnership
import StraceGo.EventInvocationRecovery

/-!
# Recovery of the chained enter programs

Every program of an enter chain reads the clock for itself and sends a record
stamped with what it reads, while the exit record is stamped with the time that
the saving program read. The records of such a syscall are an invocation in the
sense of the session, so a thread recovers by it exactly if the chain's last
generic enter has the saved time and nothing is needed of the earlier ones.
-/

namespace StraceGo.EventInvocationChains

open FiniteMaps EventEnvelope EventPayloadStorage EventTaskLifecycle EventUnfinishedState
  EventState EventStateRuns EventIntegrity EventInvocationParts EventInvocationRecovery BpfRuntime
  BpfPendingState BpfEnterPrograms BpfPendingOwnership

open EventStateInterleaving hiding absorb foldl_absorb

section Producer

variable {arch : Arch} {inv : Invocation} {ctx : EnterContext}

/-- The bits of a capture do not hide the kind of a record. -/
theorem flags_kind (capture : Capture) :
    ((bpfEventFlagGenericEnter|||capture.flags)&&&bpfEventFlagGenericEnter != 0)=true ∧
      ((bpfEventFlagEnterFragment|||capture.flags)&&&bpfEventFlagEnterFragment != 0)=true ∧
      ((bpfEventFlagExitFragment|||capture.flags)&&&bpfEventFlagExitFragment != 0)=true := by
  unfold Capture.flags
  split_ifs <;> decide

theorem isGenericEnter_genericRecord (inv : Invocation) (ctx : EnterContext) (stage : ℕ)
    (capture : Capture) : (genericRecord inv ctx stage capture).syscallView.isGenericEnter=true :=
  (flags_kind capture).1

/-- A generic record belongs to its syscall. -/
theorem belongs_genericRecord (inv : Invocation) (ctx : EnterContext) (stage : ℕ)
    (capture : Capture) :
    Belongs inv.tid ctx.sysID ctx.args (genericRecord inv ctx stage capture) :=
  ⟨rfl,rfl,rfl,Or.inl (flags_kind capture).1,rfl⟩

theorem belongs_enterFragment (inv : Invocation) (ctx : EnterContext) (time : UInt64)
    (capture : Capture) :
    Belongs inv.tid ctx.sysID ctx.args
      (enterRecord inv ctx bpfEventFlagEnterFragment time capture) :=
  ⟨rfl,rfl,rfl,Or.inr (Or.inl (flags_kind capture).2.1),rfl⟩

/-- A partial exit record belongs to the syscall of its pending enter. -/
theorem belongs_exitFragment (inv exitInv : Invocation) (ctx : EnterContext) (config : UInt32)
    (time : UInt64) (ret : Int64) (tsNS duration : UInt64) (capture : Capture) :
    Belongs inv.tid ctx.sysID ctx.args (exitRecord exitInv (pendingSyscall inv ctx config time)
      ret tsNS duration bpfEventFlagExitFragment capture) :=
  ⟨rfl,rfl,rfl,Or.inr (Or.inr (flags_kind capture).2.2),rfl⟩

/-- The final record of a pending enter ends its syscall, with the saved time. -/
theorem ends_completedRecord (inv exitInv : Invocation) (ctx : EnterContext) (config : UInt32)
    (time : UInt64) (stage : ℕ) (ret : Int64) (capture : Capture) :
    Ends inv.tid ctx.sysID ctx.args time
      (completedRecord exitInv stage (pendingSyscall inv ctx config time) ret 0 capture) where
  tid_eq := rfl
  sysID_eq := rfl
  args_eq := rfl
  time_eq := traceEventV2EnterTime_pendingSyscallDuration exitInv stage
    (pendingSyscall inv ctx config time)
  exit := rfl
  complete := by
    have hcomplete := (completedRecord_completes exitInv stage
      (pendingSyscall inv ctx config time) ret capture).complete
    unfold SyscallEventView.isExitFragment
    change (true && (completedRecord exitInv stage (pendingSyscall inv ctx config time) ret 0
      capture).eventFlags&&&bpfEventFlagExitFragment != 0)=false
    rw [hcomplete]
    rfl
  sequenced := rfl

/-- Programs that go on by tail calls, for the syscalls whose enter has a payload. -/
def chains (arch : Arch) (ctx : EnterContext) : EnterProgram → Bool
  | .iovec => true
  | .msg => true
  | .mmsg => true
  | .aio => isAioPayloadEnterSyscall arch ctx.sysID
  | .nestedFdPath => true
  | .bpf => true
  | _ => false

section Chains

/-- Records that all belong to the syscall. -/
def AllBelong (inv : Invocation) (ctx : EnterContext) (records : List TraceEventEnvelope) : Prop :=
  ∀ record∈records, Belongs inv.tid ctx.sysID ctx.args record

theorem AllBelong.nil : AllBelong inv ctx [] := fun _ hmem => absurd hmem List.not_mem_nil

theorem AllBelong.cons {rest : List TraceEventEnvelope} (stage : ℕ) (capture : Capture)
    (h : AllBelong inv ctx rest) :
    AllBelong inv ctx (genericRecord inv ctx stage capture::rest) :=
  List.forall_mem_cons.mpr ⟨belongs_genericRecord inv ctx stage capture,h⟩

theorem AllBelong.ite {records : List TraceEventEnvelope} (c : Prop) [Decidable c]
    (h : AllBelong inv ctx records) : AllBelong inv ctx (if c then records else []) := by
  split_ifs
  · exact h
  · exact .nil

theorem enterIovecBase_belong : AllBelong inv ctx (enterIovecBase arch inv ctx) :=
  AllBelong.ite _ (AllBelong.nil.cons 1 _)

theorem enterSendmsgBase_belong : AllBelong inv ctx (enterSendmsgBase arch inv ctx) :=
  AllBelong.ite _ (AllBelong.nil.cons 1 _)

theorem enterMmsgBytes_belong {rest : List TraceEventEnvelope} (stage : ℕ)
    (h : AllBelong inv ctx rest) : AllBelong inv ctx (enterMmsgBytes arch inv ctx stage rest) := by
  unfold enterMmsgBytes
  split_ifs
  · exact .nil
  · exact h.cons stage _
  · exact AllBelong.nil.cons stage _

theorem enterMmsgBytes0_belong : AllBelong inv ctx (enterMmsgBytes0 arch inv ctx) :=
  enterMmsgBytes_belong 4 (enterMmsgBytes_belong 5 (enterMmsgBytes_belong 6
    (enterMmsgBytes_belong 7 .nil)))

theorem enterMmsgBase3_belong : AllBelong inv ctx (enterMmsgBase3 arch inv ctx) := by
  unfold enterMmsgBase3
  split_ifs
  · exact .nil
  · exact enterMmsgBytes0_belong.cons 3 _
  · exact AllBelong.nil.cons 3 _

theorem enterMmsgBase2_belong : AllBelong inv ctx (enterMmsgBase2 arch inv ctx) := by
  unfold enterMmsgBase2
  split_ifs
  · exact .nil
  · exact enterMmsgBase3_belong.cons 2 _
  · exact AllBelong.nil.cons 2 _

theorem enterMmsgBase01_belong : AllBelong inv ctx (enterMmsgBase01 arch inv ctx) := by
  unfold enterMmsgBase01
  split_ifs
  · exact .nil
  · exact (enterMmsgBase2_belong.cons 1 _).cons 1 _
  · exact (AllBelong.nil.cons 1 _).cons 1 _

theorem enterAioIovec_belong : AllBelong inv ctx (enterAioIovec arch inv ctx) := by
  have hbuf : AllBelong inv ctx (enterAioBuf arch inv ctx) :=
    AllBelong.ite _ (AllBelong.nil.cons 2 _)
  unfold enterAioIovec
  split_ifs
  · exact .nil
  · exact hbuf.cons 1 _
  · exact AllBelong.nil.cons 1 _

theorem nestedFdPathFragments_belong (config : UInt32) (time : UInt64) :
    AllBelong inv ctx (nestedFdPathFragments inv ctx (pendingSyscall inv ctx config time)) := by
  unfold nestedFdPathFragments
  intro record hmem
  obtain ⟨path,-,rfl⟩ := List.mem_map.mp hmem
  exact belongs_exitFragment inv inv ctx config time 0 _ 0 path.1

end Chains

/-- A chaining program sends one generic enter in front of the save, and everything else that it
sends belongs to the same syscall. -/
theorem enterEffect_belongs {st : RuntimeState} {program : EnterProgram} {effect : EnterEffect}
    (heffect : enterEffect arch st inv ctx program=some effect)
    (hchains : chains arch ctx program=true) :
    (∃ stage capture, effect.records=[genericRecord inv ctx stage capture]) ∧
      AllBelong inv ctx (effect.chained ++ effect.fragments) := by
  have hempty : ∀ records, AllBelong inv ctx records → AllBelong inv ctx (records ++ []) := by
    intro records h
    rwa [List.append_nil]
  cases program with
  | iovec =>
    obtain rfl := Option.some.inj heffect
    exact ⟨⟨0,_,rfl⟩,hempty _ (AllBelong.ite _ (AllBelong.ite _ enterIovecBase_belong))⟩
  | msg =>
    obtain rfl := Option.some.inj heffect
    exact ⟨⟨0,_,rfl⟩,hempty _ (AllBelong.ite _ (AllBelong.ite _ enterSendmsgBase_belong))⟩
  | mmsg =>
    obtain rfl := Option.some.inj heffect
    exact ⟨⟨0,_,rfl⟩,hempty _ (AllBelong.ite _ enterMmsgBase01_belong)⟩
  | aio =>
    obtain rfl := Option.some.inj heffect
    have hpayload : isAioPayloadEnterSyscall arch ctx.sysID=true := hchains
    refine ⟨⟨0,ctx.capture 0,?_⟩,hempty _ (AllBelong.ite _ (AllBelong.ite _ enterAioIovec_belong))⟩
    dsimp only
    rw [hpayload,Bool.true_or,if_pos rfl]
  | nestedFdPath =>
    obtain rfl := Option.some.inj heffect
    exact ⟨⟨0,_,rfl⟩,AllBelong.ite _ (AllBelong.ite _ (nestedFdPathFragments_belong _ _))⟩
  | bpf =>
    unfold enterEffect at heffect
    dsimp only at heffect
    split_ifs at heffect
    · obtain rfl := Option.some.inj heffect
      refine ⟨⟨1,_,rfl⟩,hempty _ (List.forall_mem_singleton.mpr ?_)⟩
      exact belongs_enterFragment inv ctx _ _
    · obtain rfl := Option.some.inj heffect
      exact ⟨⟨1,_,rfl⟩,hempty _ .nil⟩
    · obtain rfl := Option.some.inj heffect
      exact ⟨⟨0,_,rfl⟩,hempty _ .nil⟩
  | _ => exact nomatch hchains

end Producer

/-- A syscall of a chaining family, from its enter program to its exit program. -/
structure ChainedCall (arch : Arch) where
  /-- State in which the enter program runs. -/
  state : RuntimeState
  /-- Run of the enter program and of the programs behind it. -/
  inv : Invocation
  /-- Arguments of the enter. -/
  ctx : EnterContext
  /-- Enter program. -/
  program : EnterProgram
  /-- What the enter program leaves behind. -/
  effect : EnterEffect
  /-- The effect is that of the program. -/
  effect_eq : enterEffect arch state inv ctx program=some effect
  /-- The program goes on by tail calls. -/
  chaining : chains arch ctx program=true
  /-- The thread has a number. -/
  tid_ne : inv.tid≠0
  /-- Run of the exit program. -/
  exitInv : Invocation
  /-- Arguments of the exit. -/
  exitCtx : ExitContext
  /-- Exit program. -/
  exitProgram : ExitProgram
  /-- What the exit program sends in front of its final record are partial records. -/
  exit_fragments : ∀ record∈exitProgram.fragments exitInv exitCtx
      (pendingSyscall inv ctx state.config effect.enterTime), ∃ ret tsNS duration capture,
    record=exitRecord exitInv (pendingSyscall inv ctx state.config effect.enterTime) ret tsNS
      duration bpfEventFlagExitFragment capture

namespace ChainedCall

variable {arch : Arch} (call : ChainedCall arch)

/-- The saved enter. -/
def pending : PendingSyscall :=
  pendingSyscall call.inv call.ctx call.state.config call.effect.enterTime

/-- Records of the enter chain. -/
def entered : List TraceEventEnvelope :=
  call.effect.records ++ (call.effect.chained ++ call.effect.fragments)

/-- Enter and partial records of the syscall, in the order in which they are sent. -/
def parts : List TraceEventEnvelope :=
  call.entered ++ call.exitProgram.fragments call.exitInv call.exitCtx call.pending

/-- Final record of the syscall. -/
def exit : TraceEventEnvelope :=
  completedRecord call.exitInv call.exitProgram.stage call.pending call.exitCtx.ret 0
    call.exitCtx.capture

/-- All records of the syscall, in the order in which they are sent. -/
def records : List TraceEventEnvelope := call.parts ++ [call.exit]

/-- The records start with a generic enter and all belong to the syscall. -/
theorem parts_belong : ∃ first rest, call.parts=first::rest ∧
    first.syscallView.isGenericEnter=true ∧
    ∀ record∈first::rest, Belongs call.inv.tid call.ctx.sysID call.ctx.args record := by
  obtain ⟨⟨stage,capture,hfirst⟩,hchained⟩ := enterEffect_belongs call.effect_eq call.chaining
  have hfragments : AllBelong call.inv call.ctx
      (call.exitProgram.fragments call.exitInv call.exitCtx call.pending) := by
    intro record hmem
    obtain ⟨ret,tsNS,duration,capture,rfl⟩ := call.exit_fragments record hmem
    exact belongs_exitFragment call.inv call.exitInv call.ctx _ _ ret tsNS duration capture
  refine ⟨genericRecord call.inv call.ctx stage capture,
    (call.effect.chained ++ call.effect.fragments) ++
      call.exitProgram.fragments call.exitInv call.exitCtx call.pending,?_,
    isGenericEnter_genericRecord call.inv call.ctx stage capture,?_⟩
  · unfold parts entered
    rw [hfirst]
    rfl
  · refine AllBelong.cons stage capture ?_
    intro record hmem
    rcases List.mem_append.mp hmem with h | h
    · exact hchained record h
    · exact hfragments record h

theorem exit_ends : Ends call.inv.tid call.ctx.sysID call.ctx.args call.effect.enterTime
    call.exit :=
  ends_completedRecord call.inv call.exitInv call.ctx call.state.config call.effect.enterTime
    call.exitProgram.stage call.exitCtx.ret call.exitCtx.capture

end ChainedCall

section Sending

variable {arch : Arch} {inv : Invocation}

/-- Without a failed submission every record is sent, in order. -/
theorem submitAll_content (h : ∀ record, inv.submission record=.submitted)
    (records : List TraceEventEnvelope) (t : Telemetry) :
    (submitAll inv records t).events.map content=
      t.events.map content ++ records.map content := by
  induction records generalizing t with
  | nil => exact (List.append_nil _).symm
  | cons record rest ih =>
    have hfirst : (submit inv record t).events.map content=
        t.events.map content ++ [content record] := by
      unfold submit
      rw [h record]
      exact List.map_append
    refine (ih (submit inv record t)).trans ?_
    rw [hfirst,List.append_assoc]
    rfl

theorem savePendingSyscallValue_events (inv : Invocation) (pending : PendingSyscall)
    (st : RuntimeState) :
    (savePendingSyscallValue inv pending st).1.telemetry.events=st.telemetry.events := by
  unfold savePendingSyscallValue
  dsimp only
  split_ifs <;> rfl

theorem savePendingSyscallAux_events (aux0 : UInt32) (st : RuntimeState) :
    (savePendingSyscallAux inv aux0 st).telemetry.events=st.telemetry.events := by
  unfold savePendingSyscallAux
  split <;> rfl

/-- The enter is saved if the task has a storage or can get one. -/
theorem savePendingSyscallValue_saved {pending : PendingSyscall} {st : RuntimeState}
    (h : currentPendingTaskState inv st.toTrackingState≠none ∨ inv.storageAvailable=true) :
    (savePendingSyscallValue inv pending st).2=true := by
  have hstored : ((currentPendingTaskState inv st.toTrackingState).isNone &&
      !inv.storageAvailable)=false := by
    rcases h with h | h
    · simp [Option.isNone_iff_eq_none,h]
    · simp [h]
  unfold savePendingSyscallValue
  rw [hstored,if_neg Bool.false_ne_true]
  dsimp only
  split_ifs <;> rfl

theorem runEnterProgram_of_chains {ctx : EnterContext} {program : EnterProgram}
    {st : RuntimeState} (h : chains arch ctx program=true) :
    runEnterProgram arch program inv ctx st=captureEnter arch program inv ctx st := by
  cases program with
  | terminating => exact nomatch h
  | exec => exact nomatch h
  | _ => rfl

theorem applyEnterEffect_events {ctx : EnterContext} {effect : EnterEffect} {st : RuntimeState}
    (hsubmitted : ∀ record, inv.submission record=.submitted)
    (hstored : currentPendingTaskState inv st.toTrackingState≠none ∨ inv.storageAvailable=true) :
    (applyEnterEffect inv ctx effect st).telemetry.events.map content=
      st.telemetry.events.map content ++
        (effect.records ++ (effect.chained ++ effect.fragments)).map content := by
  have hsaved : (savePendingSyscallValue inv (pendingSyscall inv ctx
      (st.tell (submitAll inv effect.records)).config effect.enterTime)
      (st.tell (submitAll inv effect.records))).2=true := savePendingSyscallValue_saved hstored
  have hevents := savePendingSyscallValue_events inv (pendingSyscall inv ctx
    (st.tell (submitAll inv effect.records)).config effect.enterTime)
    (st.tell (submitAll inv effect.records))
  unfold applyEnterEffect
  dsimp only
  revert hsaved hevents
  generalize savePendingSyscallValue inv (pendingSyscall inv ctx
      (st.tell (submitAll inv effect.records)).config effect.enterTime)
      (st.tell (submitAll inv effect.records))=result
  obtain ⟨next,saved⟩ := result
  rintro rfl hevents
  have hsent : (st.tell (submitAll inv effect.records)).telemetry.events.map content=
      st.telemetry.events.map content ++ effect.records.map content :=
    submitAll_content hsubmitted effect.records st.telemetry
  have hnext : next.telemetry.events.map content=
      st.telemetry.events.map content ++ effect.records.map content := by
    rw [←hsent,←hevents]
  have haux : ∀ aux0, (savePendingSyscallAux inv aux0 next).telemetry.events.map content=
      st.telemetry.events.map content ++ effect.records.map content := by
    intro aux0
    rw [savePendingSyscallAux_events,hnext]
  cases ctx.aux0 with
  | none =>
    refine (submitAll_content hsubmitted _ next.telemetry).trans ?_
    rw [hnext,List.append_assoc,←List.map_append]
    rfl
  | some aux0 =>
    refine (submitAll_content hsubmitted _ (savePendingSyscallAux inv aux0 next).telemetry).trans ?_
    rw [haux,List.append_assoc,←List.map_append]
    rfl

namespace ChainedCall

variable (call : ChainedCall arch)

/-- Without a failure the enter program sends the records of the enter chain. -/
theorem runEnterProgram_events (hsubmitted : ∀ record, call.inv.submission record=.submitted)
    (hstored : currentPendingTaskState call.inv call.state.toTrackingState≠none ∨
      call.inv.storageAvailable=true) :
    (runEnterProgram arch call.program call.inv call.ctx call.state).telemetry.events.map content=
      call.state.telemetry.events.map content ++ call.entered.map content := by
  have hcapture : captureEnter arch call.program call.inv call.ctx call.state=
      applyEnterEffect call.inv call.ctx call.effect call.state := by
    unfold captureEnter
    rw [call.effect_eq]
  rw [runEnterProgram_of_chains call.chaining,hcapture,applyEnterEffect_events hsubmitted hstored]
  rfl

/-- Without a failure an accepting exit program sends the rest of the syscall's records. -/
theorem runExitProgram_events {st : RuntimeState}
    (hsubmitted : ∀ record, call.exitInv.submission record=.submitted)
    (hholds : Holds call.exitInv.task call.pending true st.toTrackingState)
    (hreturns : ReturnsFrom call.pending call.exitInv.task call.exitInv call.exitCtx)
    (hguard : call.exitProgram.guard call.exitCtx.sysID=true)
    (hhandles : call.exitProgram.handles call.exitCtx.sysID=true) :
    ∃ returned, call.records=call.entered ++ returned ∧
      (runExitProgram arch call.exitProgram call.exitInv call.exitCtx st).telemetry.events.map
          content=
        st.telemetry.events.map content ++ returned.map content := by
  refine ⟨call.exitProgram.records call.exitInv call.exitCtx call.pending,
    List.append_assoc _ _ _,?_⟩
  rw [runExitProgram_telemetry hholds hreturns hguard hhandles]
  exact submitAll_content hsubmitted _ _

end ChainedCall

end Sending

section Recovery

/-- The enter of a syscall has a program of its own, so it is never made up from its exit. -/
def OwnEnterRoute (tables : SyscallTables) (sysID : UInt32) : Prop :=
  tables.isPlainGenericEnterExitRoute sysID=false ∧
    tables.isStandaloneExitElisionRoute sysID=false

theorem OwnEnterRoute.not_synthesized {tables : SyscallTables} {sysID : UInt32}
    (h : OwnEnterRoute tables sysID) (st : TraceState) :
    st.shouldSynthesizeElidedPlainEnter tables sysID=false := by
  unfold TraceState.shouldSynthesizeElidedPlainEnter shouldElidePlainEnterForSyscall
  rw [h.1,h.2]
  simp

/-- After a loss, a syscall of a chaining family whose records all arrive without further loss
recovers its thread exactly if its last generic enter has the saved time and every section that
it sent is one of that enter, or the first of its object among those of the enter and of the
partial records stamped with the saved time. -/
theorem chained_call_recovers_iff (arch : Arch) (call : ChainedCall arch) (tables : SyscallTables)
    (hroute : OwnEnterRoute tables call.ctx.sysID) (config : SessionConfig) (ops : List Operation)
    (hops : AdmissibleRun tables {st := newTraceStateForSession config} ops)
    (hst : (run tables {st := newTraceStateForSession config} ops).st.tainted=true)
    (i : TraceIntegrity) (hi : i.snapshot.tainted=true) (inputs : List TraceEventEnvelope)
    (hlossless : Lossless i inputs)
    (hnamed : ∀ record∈inputs, call.inv.tid∉named record)
    (harrive : (inputs.filter (own call.inv.tid)).map content=call.records.map content) :
    Recovers tables call.inv.tid (run tables {st := newTraceStateForSession config} ops).st i
        inputs call.parts ↔
      Recoverable call.effect.enterTime (call.parts.map partOf) := by
  obtain ⟨first,rest,hparts,hfirst,hbelongs⟩ := call.parts_belong
  unfold ChainedCall.records at harrive
  rw [hparts] at harrive ⊢
  exact recovers_iff hops hst (hroute.not_synthesized _) hi call.tid_ne hfirst hbelongs
    call.exit_ends hlossless hnamed harrive

/-- Records as the first records of one cpu. -/
def numbered (records : List TraceEventEnvelope) : List TraceEventEnvelope :=
  records.zipIdx.map fun record => {record.1 with seq := UInt64.ofNat (record.2+1)}

/-- A thread whose programs read the clock at the given times. -/
def chainInvocation (clock : ℕ → UInt64) : Invocation :=
  { Invocation.ofTask 1 7 7 with ktime := fun site =>
      match site with
      | .handler stage => clock stage
      | .fragment stage => clock (stage+1)
      | _ => 150 }

/-- A captured object of the traced process. -/
def chainSection (kind : PayloadKind) (argIndex : ℤ) (userPtr : UInt64) : PayloadSection where
  kind := kind
  direction := .input
  argIndex := argIndex
  userPtr := userPtr
  userLen := 8
  copiedLen := 8
  probeRet := 0
  data := [3,0,0,0,0,0,0,0]

/-- A poll of one descriptor whose path is captured behind the enter. -/
def pollContext : EnterContext where
  sysID := 7
  capture := fun _ => {sections := [chainSection .struct 0 4096]}
  nestedFdPaths := [{sections := [chainSection .fdPath payloadFDPathNestedArgIndex 3]}]

/-- The poll, with a clock that does not advance along the chain. -/
def pollCall : ChainedCall .amd64 where
  state := {config := configFdState}
  inv := chainInvocation fun _ => 100
  ctx := pollContext
  program := .nestedFdPath
  effect := ⟨[genericRecord (chainInvocation fun _ => 100) pollContext 0 (pollContext.capture 0)],
    100,[],nestedFdPathFragments (chainInvocation fun _ => 100) pollContext
      (pendingSyscall (chainInvocation fun _ => 100) pollContext configFdState 100)⟩
  effect_eq := rfl
  chaining := rfl
  tid_ne := by decide
  exitInv := chainInvocation fun _ => 150
  exitCtx := ⟨7,1,{},[]⟩
  exitProgram := exitGeneric
  exit_fragments := fun _ hmem => absurd hmem List.not_mem_nil

/-- Lookups of a session whose syscalls all have their own enter program. -/
def chainTables : SyscallTables where
  name := fun _ => "poll"
  isPlainGenericEnterExitRoute := fun _ => false
  isStandaloneExitElisionRoute := fun _ => false

/-- An observer that has met a record it could not decode. -/
def taintedObserver : TraceIntegrity := (newTraceIntegrity true true true).invalidRecord

theorem admissible_taint (tables : SyscallTables) :
    AdmissibleRun tables {st := newTraceStateForSession {}} [.taint ⟨[],[],[]⟩] := by
  have hempty : ∀ V : Type, Enumerates [] (∅ : GoMap UInt32 V) :=
    fun V => ⟨List.nodup_nil,fun k =>
      ⟨fun h => absurd h List.not_mem_nil,fun h => absurd h Finmap.notMem_empty⟩⟩
  exact ⟨⟨hempty _,hempty _,hempty _⟩,trivial⟩

theorem pollCall_recoverable : Recoverable 100 (pollCall.parts.map partOf) := by
  have hall : ∀ part∈pollCall.parts.map partOf, ∀ s∈part.sections,
      s∈mergeSections [chainSection .struct 0 4096]
        [chainSection .fdPath payloadFDPathNestedArgIndex 3] := by
    decide
  exact ⟨⟨true,100,[chainSection .struct 0 4096]⟩,
    [⟨false,100,[chainSection .fdPath payloadFDPathNestedArgIndex 3]⟩],rfl,rfl,
    fun part hpart s hs => mem_mergeSections.mp (hall part hpart s hs)⟩

/-- The poll recovers its thread, because the clock has not advanced. -/
theorem chained_call_recovers_poll :
    OwnEnterRoute chainTables 7 ∧
    AdmissibleRun chainTables {st := newTraceStateForSession {}} [.taint ⟨[],[],[]⟩] ∧
    Lossless taintedObserver (numbered pollCall.records) ∧
    Recovers chainTables 7
      (run chainTables {st := newTraceStateForSession {}} [.taint ⟨[],[],[]⟩]).st taintedObserver
      (numbered pollCall.records) pollCall.parts := by
  have hlossless : Lossless taintedObserver (numbered pollCall.records) := by
    refine ⟨?_,?_,?_,trivial⟩
    all_goals decide +kernel
  refine ⟨⟨rfl,rfl⟩,admissible_taint chainTables,hlossless,?_⟩
  exact (chained_call_recovers_iff .amd64 pollCall chainTables ⟨rfl,rfl⟩ {} [.taint ⟨[],[],[]⟩]
    (admissible_taint chainTables) rfl taintedObserver rfl (numbered pollCall.records) hlossless
    (by decide) rfl).mpr pollCall_recoverable

/-- A vectored write whose buffer is captured behind its array of addresses. -/
def writevContext : EnterContext where
  sysID := 20
  capture := fun stage => if stage=0 then {sections := [chainSection .iovec 1 4096]}
    else {sections := [chainSection .bytes 1 8192]}

/-- The clock advances between the two programs of the write. -/
def writevClock (stage : ℕ) : UInt64 := 100+UInt64.ofNat stage

/-- The vectored write. -/
def writevCall : ChainedCall .amd64 where
  state := {}
  inv := chainInvocation writevClock
  ctx := writevContext
  program := .iovec
  effect := ⟨[genericRecord (chainInvocation writevClock) writevContext 0
      (writevContext.capture 0)],100,
    [genericRecord (chainInvocation writevClock) writevContext 1 (writevContext.capture 1)],[]⟩
  effect_eq := rfl
  chaining := rfl
  tid_ne := by decide
  exitInv := chainInvocation fun _ => 150
  exitCtx := ⟨20,8,{},[]⟩
  exitProgram := exitGeneric
  exit_fragments := fun _ hmem => absurd hmem List.not_mem_nil

/-- The write arrives completely after a loss, and its exit is reported without an enter while its
thread stays untrusted, because the second program has read a later time. -/
theorem writev_not_recovered :
    writevClock 0 ≤ writevClock 1 ∧
    OwnEnterRoute chainTables 20 ∧
    AdmissibleRun chainTables {st := newTraceStateForSession {}} [.taint ⟨[],[],[]⟩] ∧
    (run chainTables {st := newTraceStateForSession {}} [.taint ⟨[],[],[]⟩]).st.tainted=true ∧
    taintedObserver.snapshot.tainted=true ∧
    Lossless taintedObserver (numbered writevCall.records) ∧
    ((numbered writevCall.records).filter (own 7)).map content=
      writevCall.records.map content ∧
    ((results chainTables 7
      (run chainTables {st := newTraceStateForSession {}} [.taint ⟨[],[],[]⟩]).st
      (observeAll taintedObserver (numbered writevCall.records)).2).getLast?.map
        fun report => report.pendingEnter)=some none ∧
    (observeAll taintedObserver (numbered writevCall.records)).1.correlationTainted 7=true ∧
    ¬Recovers chainTables 7
      (run chainTables {st := newTraceStateForSession {}} [.taint ⟨[],[],[]⟩]).st taintedObserver
      (numbered writevCall.records) writevCall.parts := by
  have htainted : (observeAll taintedObserver
      (numbered writevCall.records)).1.correlationTainted 7=true := by
    decide +kernel
  refine ⟨by decide,⟨rfl,rfl⟩,admissible_taint chainTables,rfl,rfl,?_,rfl,?_,htainted,?_⟩
  · refine ⟨?_,?_,?_,trivial⟩
    all_goals decide +kernel
  · decide +kernel
  · intro hrecovers
    exact Bool.noConfusion (htainted.symm.trans hrecovers.2)

end Recovery

end StraceGo.EventInvocationChains

import StraceGo.BpfTracking

/-!
# What the syscall dispatchers do to the tracking maps

The operations of the two syscall edges on the tracking maps. An enter either
leaves the maps alone, drops what a foreign syscall had pending, arms the exec
slot, or saves a pending enter; an exit leaves them alone, drops a pending
enter of another syscall, or clears the enter it completes.
-/

namespace StraceGo.BpfSyscallTracking

open StraceGo.FiniteMaps StraceGo.EventEnvelope StraceGo.BpfRuntime StraceGo.BpfPendingState
open StraceGo.BpfEnterPrograms StraceGo.BpfLifecycle StraceGo.BpfDispatch StraceGo.BpfTracking

section ForeignInterface

/-- Tracking part of refusing a foreign syscall. -/
def rejectABI (inv : Invocation) (t : TrackingState) : TrackingState :=
  { clearPending inv.task t with pendingExecMap := t.pendingExecMap.erase inv.pid }

/-- A native syscall is not refused. -/
theorem rejectUnsupportedSyscallABI_native {inv : Invocation} (h : inv.nativeABI=true)
    (sysID : UInt32) (st : RuntimeState) :
    rejectUnsupportedSyscallABI inv sysID st=(st,false) := by
  unfold rejectUnsupportedSyscallABI
  rw [if_pos h]

/-- A foreign syscall drops what its task had pending. -/
theorem rejectUnsupportedSyscallABI_foreign {inv : Invocation} (h : inv.nativeABI=false)
    (sysID : UInt32) (st : RuntimeState) :
    ∃ rejected, rejectUnsupportedSyscallABI inv sysID st=(rejected,true) ∧
      rejected.toTrackingState=rejectABI inv st.toTrackingState := by
  unfold rejectUnsupportedSyscallABI rejectABI
  rw [h,if_neg Bool.false_ne_true,←clearPendingTaskState_tracking]
  refine ⟨_,rfl,?_⟩
  have hslot : (clearPendingTaskState inv st).pendingExecMap=st.pendingExecMap := by
    rw [clearPendingTaskState_tracking]
    rfl
  dsimp only
  rw [RuntimeState.tell_toTrackingState,hslot]

end ForeignInterface

section Enter

/-- Tracking part of arming the exec slot. -/
def armSlot (arch : Arch) (inv : Invocation) (sysID : UInt32) (t : TrackingState) :
    TrackingState :=
  if (isExecPayloadDirectSyscall arch sysID && inv.tid != inv.pid &&
      isLifecycleTaskTracked t inv.pid inv.tid &&
        inv.updateSucceeds .armPendingExecReplacement) then
    { t with pendingExecMap := t.pendingExecMap.insert inv.pid inv.tid }
  else t

/-- Write the storage of a task. -/
def store (task : TaskID) (state : PendingTaskState) (t : TrackingState) : TrackingState :=
  { t with pendingTaskStorage := t.pendingTaskStorage.insert task state }

/-- A later write of the same storage wins. -/
theorem store_store (task : TaskID) (state later : PendingTaskState) (t : TrackingState) :
    store task later (store task state t)=store task later t := by
  unfold store
  dsimp only
  rw [Finmap.insert_insert]

/-- Tracking part of saving a pending enter. -/
def saveEnter (inv : Invocation) (ctx : EnterContext) (time : UInt64) (t : TrackingState) :
    TrackingState :=
  if (t.pendingTaskStorage.lookup inv.task).isNone && !inv.storageAvailable then t
  else store inv.task ⟨pendingSyscall inv ctx t.config time,ctx.aux0.getD 0,true⟩ t

/-- Start time an enter program saves, absent when it saves nothing. -/
def savedTime (inv : Invocation) (ctx : EnterContext) : EnterProgram → Option UInt64
  | .terminating => none
  | .capture handles => if handles ctx.sysID then some (inv.ktime (.handler 0)) else none
  | .bpf => some (if ctx.args.get 0==bpfDirectProgLoad && ctx.chained 1 then
      inv.ktime (.handler 1) else inv.ktime (.handler 0))
  | _ => some (inv.ktime (.handler 0))

/-- Tracking part of the save of an enter program. -/
def saveProgram (inv : Invocation) (ctx : EnterContext) (program : EnterProgram)
    (t : TrackingState) : TrackingState :=
  match savedTime inv ctx program with
  | none => t
  | some time => saveEnter inv ctx time t

/-- Tracking part of an enter program. -/
def enterProgram (inv : Invocation) (ctx : EnterContext) (program : EnterProgram)
    (t : TrackingState) : TrackingState :=
  let t := saveProgram inv ctx program t
  match program with
  | .exec => if inv.tid != inv.pid && inv.updateSucceeds .enterExec then
      { t with pendingExecMap := t.pendingExecMap.insert inv.pid inv.tid } else t
  | _ => t

/-- Program of a route, the generic one where the slot is empty. -/
def routedEnter {arch : Arch} (routes : Routes arch) (ctx : EnterContext) :
    EnterProgram×EnterContext :=
  match routes.enter ctx.sysID with
  | some program => (program,ctx)
  | none => (.noPayloadGeneric,{ ctx with aux0 := none })

/-- Tracking part of a syscall enter. -/
def enter (arch : Arch) (routes : Routes arch) (inv : Invocation) (ctx : EnterContext)
    (t : TrackingState) : TrackingState :=
  match lookupLifecycleTaskFilterFlags t inv.pid inv.tid with
  | none => t
  | some flags =>
    if !inv.nativeABI then rejectABI inv t
    else if ctx.sysID=sysRtSigreturn arch then t
    else
      let t := armSlot arch inv ctx.sysID t
      if isPreExecSuppressedSyscall arch flags ctx.sysID || !isSelected arch t ctx.sysID then t
      else enterProgram inv (routedEnter routes ctx).2 (routedEnter routes ctx).1 t

/-- Arming the exec slot changes nothing else. -/
theorem armPendingExecReplacement_tracking (arch : Arch) (inv : Invocation) (sysID : UInt32)
    (st : RuntimeState) :
    (armPendingExecReplacement arch inv sysID st).toTrackingState=
      armSlot arch inv sysID st.toTrackingState := by
  unfold armPendingExecReplacement armSlot
  cases isExecPayloadDirectSyscall arch sysID with
  | false => rfl
  | true =>
    by_cases heq : inv.tid=inv.pid
    · rw [heq]
      simp
    · cases isLifecycleTaskTracked st.toTrackingState inv.pid inv.tid with
      | false => simp
      | true =>
        cases inv.updateSucceeds .armPendingExecReplacement with
        | false => simp [heq]
        | true => simp [heq]

/-- Clone flags do not decide tracking. -/
theorem capturePendingForkFlags_tracking (arch : Arch) (inv : Invocation) (sysID : UInt32)
    (args : SyscallArgs) (cloneArgs : Option UInt64) (st : RuntimeState) :
    (capturePendingForkFlags arch inv sysID args cloneArgs st).toTrackingState=
      st.toTrackingState := by
  unfold capturePendingForkFlags
  dsimp only
  split
  · rfl
  · split_ifs <;> rfl

/-- The saved time does not depend on the shared state. -/
theorem enterEffect_time (arch : Arch) (st : RuntimeState) (inv : Invocation)
    (ctx : EnterContext) (program : EnterProgram) :
    (enterEffect arch st inv ctx program).map EnterEffect.enterTime=savedTime inv ctx program := by
  cases program with
  | capture handles =>
    unfold enterEffect savedTime
    dsimp only
    split_ifs <;> rfl
  | bpf =>
    unfold enterEffect savedTime
    dsimp only
    split_ifs <;> rfl
  | terminating => rfl
  | exec => rfl
  | noPayloadGeneric => rfl
  | noPayloadDirect => rfl
  | marked => rfl
  | iovec => rfl
  | msg => rfl
  | mmsg => rfl
  | aio => rfl
  | nestedFdPath => rfl

/-- A save succeeds unless the storage of the task cannot be allocated. -/
theorem savePendingSyscallValue_tracking (inv : Invocation) (pending : PendingSyscall)
    (st : RuntimeState) :
    (savePendingSyscallValue inv pending st).1.toTrackingState=
      (if (st.pendingTaskStorage.lookup inv.task).isNone && !inv.storageAvailable then
        st.toTrackingState
      else store inv.task ⟨{ pending with cpuEnterTime := inv.cpuRuntime },0,true⟩
        st.toTrackingState) ∧
    (savePendingSyscallValue inv pending st).2=
      !((st.pendingTaskStorage.lookup inv.task).isNone && !inv.storageAvailable) := by
  unfold savePendingSyscallValue currentPendingTaskState
  dsimp only
  cases (st.pendingTaskStorage.lookup inv.task).isNone && !inv.storageAvailable with
  | true => exact ⟨rfl,rfl⟩
  | false =>
    rw [if_neg Bool.false_ne_true,if_neg Bool.false_ne_true]
    split_ifs
    · exact ⟨rfl,rfl⟩
    · exact ⟨rfl,rfl⟩
    · exact ⟨rfl,rfl⟩

/-- The auxiliary word goes to a valid pending enter. -/
theorem savePendingSyscallAux_tracking {inv : Invocation} {st : RuntimeState}
    {pending : PendingSyscall} {aux : UInt32} {t : TrackingState}
    (h : st.toTrackingState=store inv.task ⟨pending,aux,true⟩ t) (aux0 : UInt32) :
    (savePendingSyscallAux inv aux0 st).toTrackingState=store inv.task ⟨pending,aux0,true⟩ t := by
  have hlookup : currentPendingTaskState inv st.toTrackingState=some ⟨pending,aux,true⟩ := by
    rw [h]
    exact Finmap.lookup_insert _
  unfold savePendingSyscallAux
  rw [hlookup]
  change store inv.task ⟨pending,aux0,true⟩ st.toTrackingState=_
  rw [h,store_store]

/-- A save touches the current task's storage only. -/
theorem applyEnterEffect_tracking (inv : Invocation) (ctx : EnterContext) (effect : EnterEffect)
    (st : RuntimeState) :
    (applyEnterEffect inv ctx effect st).toTrackingState=
      saveEnter inv ctx effect.enterTime st.toTrackingState := by
  unfold applyEnterEffect
  dsimp only
  obtain ⟨hstate,hflag⟩ := savePendingSyscallValue_tracking inv
    (pendingSyscall inv ctx (st.tell (submitAll inv effect.records)).config effect.enterTime)
    (st.tell (submitAll inv effect.records))
  rcases hsave : savePendingSyscallValue inv (pendingSyscall inv ctx
    (st.tell (submitAll inv effect.records)).config effect.enterTime)
    (st.tell (submitAll inv effect.records)) with ⟨saved,flag⟩
  rw [hsave] at hstate hflag
  unfold saveEnter
  dsimp only at hstate hflag ⊢
  rw [RuntimeState.tell_toTrackingState] at hstate hflag ⊢
  cases hfail : (st.pendingTaskStorage.lookup inv.task).isNone && !inv.storageAvailable with
  | true =>
    rw [hfail] at hstate hflag
    rw [hflag]
    cases ctx.aux0 with
    | none => exact hstate
    | some aux0 => exact hstate
  | false =>
    rw [hfail,if_neg Bool.false_ne_true] at hstate
    rw [hfail] at hflag
    rw [hflag,if_neg Bool.false_ne_true]
    cases ctx.aux0 with
    | none => exact hstate
    | some aux0 =>
      dsimp only
      rw [Bool.not_false,if_pos rfl]
      rw [savePendingSyscallAux_tracking hstate]
      rfl

/-- Emitting and saving touches the current task's storage only. -/
theorem captureEnter_tracking (arch : Arch) (program : EnterProgram) (inv : Invocation)
    (ctx : EnterContext) (st : RuntimeState) :
    (captureEnter arch program inv ctx st).toTrackingState=
      saveProgram inv ctx program st.toTrackingState := by
  unfold captureEnter saveProgram
  rw [←enterEffect_time arch st]
  cases enterEffect arch st inv ctx program with
  | none => rfl
  | some effect => exact applyEnterEffect_tracking inv ctx effect st

/-- An enter program acts on the tracking maps as stated. -/
theorem runEnterProgram_tracking (arch : Arch) (program : EnterProgram) (inv : Invocation)
    (ctx : EnterContext) (st : RuntimeState) :
    (runEnterProgram arch program inv ctx st).toTrackingState=
      enterProgram inv ctx program st.toTrackingState := by
  cases program with
  | terminating =>
    change (enterTerminating inv ctx st).toTrackingState=st.toTrackingState
    unfold enterTerminating
    dsimp only
    rw [RuntimeState.tell_toTrackingState]
    split_ifs <;> rfl
  | exec =>
    unfold runEnterProgram enterProgram
    dsimp only
    rw [←captureEnter_tracking arch]
    by_cases heq : inv.tid=inv.pid
    · rw [if_pos heq,heq]
      simp
    · rw [if_neg heq]
      cases inv.updateSucceeds .enterExec with
      | false => simp
      | true => simp [heq]
  | noPayloadGeneric => exact captureEnter_tracking arch .noPayloadGeneric inv ctx st
  | noPayloadDirect => exact captureEnter_tracking arch .noPayloadDirect inv ctx st
  | capture handles => exact captureEnter_tracking arch (.capture handles) inv ctx st
  | marked => exact captureEnter_tracking arch .marked inv ctx st
  | iovec => exact captureEnter_tracking arch .iovec inv ctx st
  | msg => exact captureEnter_tracking arch .msg inv ctx st
  | mmsg => exact captureEnter_tracking arch .mmsg inv ctx st
  | aio => exact captureEnter_tracking arch .aio inv ctx st
  | nestedFdPath => exact captureEnter_tracking arch .nestedFdPath inv ctx st
  | bpf => exact captureEnter_tracking arch .bpf inv ctx st

/-- The enter dispatcher acts on the tracking maps as an enter. -/
theorem traceSysEnter_tracking (arch : Arch) (routes : Routes arch) (inv : Invocation)
    (ctx : EnterContext) (st : RuntimeState) :
    (traceSysEnter arch routes inv ctx st).toTrackingState=
      enter arch routes inv ctx st.toTrackingState := by
  unfold traceSysEnter enter
  cases lookupLifecycleTaskFilterFlags st.toTrackingState inv.pid inv.tid with
  | none => rfl
  | some flags =>
    dsimp only
    cases hnative : inv.nativeABI with
    | false =>
      obtain ⟨rejected,hreject,hstate⟩ := rejectUnsupportedSyscallABI_foreign hnative ctx.sysID st
      rw [hreject,Bool.not_false,if_pos rfl]
      exact hstate
    | true =>
      rw [rejectUnsupportedSyscallABI_native hnative,Bool.not_true,if_neg Bool.false_ne_true]
      dsimp only
      by_cases hsig : ctx.sysID=sysRtSigreturn arch
      · rw [if_pos hsig,if_pos hsig]
      rw [if_neg hsig,if_neg hsig,capturePendingForkFlags_tracking,
        armPendingExecReplacement_tracking]
      cases isPreExecSuppressedSyscall arch flags ctx.sysID with
      | true => exact armPendingExecReplacement_tracking arch inv ctx.sysID st
      | false =>
        rw [if_neg Bool.false_ne_true,Bool.false_or]
        split_ifs
        · rw [capturePendingForkFlags_tracking,armPendingExecReplacement_tracking]
        · unfold routedEnter
          cases routes.enter ctx.sysID with
          | none =>
            dsimp only
            rw [runEnterProgram_tracking,capturePendingForkFlags_tracking,
              armPendingExecReplacement_tracking]
          | some program =>
            dsimp only
            rw [runEnterProgram_tracking,capturePendingForkFlags_tracking,
              armPendingExecReplacement_tracking]

end Enter

section Exit

/-- Tracking part of an exit program. -/
def exitProgram (arch : Arch) (program : ExitProgram) (inv : Invocation) (ctx : ExitContext)
    (t : TrackingState) : TrackingState :=
  if !program.guard ctx.sysID then t
  else
    match lookupPendingSyscallForExit arch inv ctx.ret t with
    | none => t
    | some found =>
      if ¬(found.pending.sysID=ctx.sysID ∧ found.pending.tid=found.pendingTid) then
        { clearPending inv.task t with pendingExecMap := t.pendingExecMap.erase inv.pid }
      else if !program.handles found.pending.sysID then t
      else
        { clearPending inv.task t with pendingExecMap :=
          if found.pendingExecLookup || (isExecPayloadDirectSyscall arch found.pending.sysID &&
            found.pendingTid != found.pending.pid) then t.pendingExecMap.erase inv.pid
          else t.pendingExecMap }

/-- Program of an exit route, the generic one where the slot is empty. -/
def routedExit {arch : Arch} (routes : Routes arch) (sysID : UInt32) : ExitProgram :=
  (routes.exit sysID).getD exitGeneric

/-- Tracking part of a syscall exit. -/
def leave (arch : Arch) (routes : Routes arch) (inv : Invocation) (ctx : ExitContext)
    (t : TrackingState) : TrackingState :=
  if ctx.id < 0 then t
  else
    match lookupLifecycleTaskFilterFlags t inv.pid inv.tid with
    | none => t
    | some flags =>
      if !inv.nativeABI then rejectABI inv t
      else if ctx.sysID=sysRtSigreturn arch then t
      else if isPreExecSuppressedSyscall arch flags ctx.sysID || !isSelected arch t ctx.sysID then t
      else exitProgram arch (routedExit routes ctx.sysID) inv ctx t

/-- Unmatched exits do not decide tracking. -/
theorem recordUnmatchedExitIfNeeded_tracking (arch : Arch) (inv : Invocation) (sysID : UInt32)
    (ret : Int64) (st : RuntimeState) :
    (recordUnmatchedExitIfNeeded arch inv sysID ret st).toTrackingState=st.toTrackingState := by
  unfold recordUnmatchedExitIfNeeded
  split_ifs <;> rfl

/-- Clone flags do not decide tracking. -/
theorem clearPendingForkFlags_tracking (arch : Arch) (inv : Invocation) (sysID : UInt32)
    (st : RuntimeState) :
    (clearPendingForkFlags arch inv sysID st).toTrackingState=st.toTrackingState := by
  unfold clearPendingForkFlags
  split_ifs <;> rfl

/-- An exit program acts on the tracking maps as stated. -/
theorem runExitProgram_tracking (arch : Arch) (program : ExitProgram) (inv : Invocation)
    (ctx : ExitContext) (st : RuntimeState) :
    (runExitProgram arch program inv ctx st).toTrackingState=
      exitProgram arch program inv ctx st.toTrackingState := by
  unfold runExitProgram exitProgram
  cases program.guard ctx.sysID with
  | false => rfl
  | true =>
    rw [Bool.not_true,if_neg Bool.false_ne_true]
    cases lookupPendingSyscallForExit arch inv ctx.ret st.toTrackingState with
    | none => exact recordUnmatchedExitIfNeeded_tracking arch inv ctx.sysID ctx.ret st
    | some found =>
      dsimp only
      unfold validatePendingSyscallExit
      by_cases hmatch : found.pending.sysID=ctx.sysID ∧ found.pending.tid=found.pendingTid
      · rw [if_pos hmatch,if_neg (not_not.mpr hmatch)]
        dsimp only
        cases program.handles found.pending.sysID with
        | false => rfl
        | true =>
          rw [Bool.not_true,if_neg Bool.false_ne_true,if_neg Bool.false_ne_true]
          exact consumePendingSyscall_tracking arch inv found _
      · rw [if_neg hmatch,if_pos hmatch]
        dsimp only
        rw [clearPendingTaskState_tracking,RuntimeState.tell_toTrackingState]
        rfl

/-- The exit dispatcher acts on the tracking maps as a leave. -/
theorem traceSysExit_tracking (arch : Arch) (routes : Routes arch) (inv : Invocation)
    (ctx : ExitContext) (st : RuntimeState) :
    (traceSysExit arch routes inv ctx st).toTrackingState=
      leave arch routes inv ctx st.toTrackingState := by
  unfold traceSysExit leave
  by_cases hid : ctx.id < 0
  · rw [if_pos hid,if_pos hid]
  rw [if_neg hid,if_neg hid]
  cases lookupLifecycleTaskFilterFlags st.toTrackingState inv.pid inv.tid with
  | none => rfl
  | some flags =>
    dsimp only
    cases hnative : inv.nativeABI with
    | false =>
      obtain ⟨rejected,hreject,hstate⟩ := rejectUnsupportedSyscallABI_foreign hnative ctx.sysID st
      rw [hreject,Bool.not_false,if_pos rfl]
      exact hstate
    | true =>
      rw [rejectUnsupportedSyscallABI_native hnative,Bool.not_true,if_neg Bool.false_ne_true]
      dsimp only
      by_cases hsig : ctx.sysID=sysRtSigreturn arch
      · rw [if_pos hsig,if_pos hsig]
      rw [if_neg hsig,if_neg hsig,clearPendingForkFlags_tracking]
      cases isPreExecSuppressedSyscall arch flags ctx.sysID with
      | true => rfl
      | false =>
        rw [if_neg Bool.false_ne_true,Bool.false_or]
        split_ifs
        · exact clearPendingForkFlags_tracking arch inv ctx.sysID st
        · unfold routedExit
          cases routes.exit ctx.sysID with
          | none =>
            dsimp only [Option.getD_none]
            rw [runExitProgram_tracking,clearPendingForkFlags_tracking]
          | some program =>
            dsimp only [Option.getD_some]
            rw [runExitProgram_tracking,clearPendingForkFlags_tracking]

end Exit

end StraceGo.BpfSyscallTracking

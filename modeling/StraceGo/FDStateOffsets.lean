import StraceGo.FDStateReuse
import Mathlib.Logic.Function.Basic

/-!
# File offsets

The kernel keeps one offset for each open file. Descriptors refer to open
files, and a duplicate refers to the file of the descriptor it was made from.
The store keeps an offset for each descriptor instead, and a duplicate starts
with that of the old one. A transfer or a seek through one descriptor moves
the file under all others, whose records stay behind. So the records are the
kernel's offsets in every state of a run exactly if no step moves a file that
another descriptor has a record of.
-/

namespace StraceGo.FDStateOffsets

open EventEnvelope FiniteMaps EventTaskLifecycle KeyedMaps FDStateEvents FDState FDStateReuse

section Kernel

/-- Open files of a process, as the kernel has them. -/
structure OpenFiles where
  /-- File that a descriptor refers to. -/
  file : Int32 → Option ℕ
  /-- Offset of a file. -/
  offset : ℕ → Int64

namespace OpenFiles

variable (k : OpenFiles)

/-- Let a descriptor refer to a file, or to none. -/
def assign (fd : Int32) (file : Option ℕ) : OpenFiles :=
  {k with file := Function.update k.file fd file}

/-- Move a file to an offset. -/
def move (file : ℕ) (offset : Int64) : OpenFiles :=
  {k with offset := Function.update k.offset file offset}

variable {k}

theorem assign_self {fd : Int32} {file : Option ℕ} : (k.assign fd file).file fd=file := by
  dsimp only [assign]
  rw [Function.update_self]

theorem assign_of_ne {fd other : Int32} {file : Option ℕ} (h : other≠fd) :
    (k.assign fd file).file other=k.file other := by
  dsimp only [assign]
  rw [Function.update_of_ne h]

theorem move_self {file : ℕ} {offset : Int64} : (k.move file offset).offset file=offset := by
  dsimp only [move]
  rw [Function.update_self]

theorem move_of_ne {file other : ℕ} {offset : Int64} (h : other≠file) :
    (k.move file offset).offset other=k.offset other := by
  dsimp only [move]
  rw [Function.update_of_ne h]

end OpenFiles

/-- Exit of a successful syscall of a process; its number has the effects of its name. -/
structure Successful (tables : SyscallTables) (pid : ℤ) (update : FDStateUpdate) : Prop where
  /-- The record is a proper one. -/
  valid : update.source.view.valid=true
  /-- It is that of an exit. -/
  eventType : update.source.view.eventType=.exit
  /-- The syscall succeeded. -/
  ret : 0 ≤ update.source.view.ret
  /-- Its result is available. -/
  available : update.source.view.probeRetEnter≠3
  /-- The process. -/
  targetPID : update.targetPID=pid
  /-- The effects of its number. -/
  traits : syscallEventTraitsForView tables update.source.view update.name=
    syscallEventTraitsForName update.name

/-- What the kernel has done at the exit of an open without append, a duplication, a transfer, a
seek or a close. A new file has no descriptor before, and its snapshot, if one was captured, tells
its offset; no transfer ends beyond the range of offsets. -/
inductive Performs (update : FDStateUpdate) (k : OpenFiles) : OpenFiles → Prop
  | opened (file : ℕ) (hname : isOpenedPathFDStateSyscall update.name=true)
      (hnew : ∀ fd, k.file fd≠some file)
      (hsnapshot : ∀ observation,
        snapshotForFD update.source (fdRet update.source.view)=some observation →
        hasOffset observation=true → observation.offset=0) :
      Performs update k ((k.assign (fdRet update.source.view) (some file)).move file 0)
  | duplicated (old new : Int32) (file : ℕ)
      (hfds : duplicatedFDsFromView update.source.view update.name=some (old,new))
      (hopen : k.file old=some file) : Performs update k (k.assign new (some file))
  | transferred (file : ℕ) (hname : update.name=.read ∨ update.name=.write)
      (hopen : k.file (fdArg update.source.view.args[0])=some file)
      (hrange : (k.offset file).toInt+update.source.view.ret.toInt < 2^63) :
      Performs update k (k.move file (k.offset file+update.source.view.ret))
  | sought (file : ℕ) (hname : update.name=.lseek)
      (hopen : k.file (fdArg update.source.view.args[0])=some file) :
      Performs update k (k.move file update.source.view.ret)
  | closed (hname : update.name=.close) (hret : update.source.view.ret=0) :
      Performs update k (k.assign (fdArg update.source.view.args[0]) none)

/-- Offset that is recorded for a descriptor. -/
def recorded (st : FDStateStore) (pid : ℤ) (fd : Int32) : Option Int64 :=
  st.offsets.lookup (slotKey pid (.fd fd))

/-- Every record is the offset of the descriptor's file. -/
def Right (pid : ℤ) (st : FDStateStore) (k : OpenFiles) : Prop :=
  ∀ fd file o, k.file fd=some file → recorded st pid fd=some o → o=k.offset file

/-- No other descriptor has a record of a file that a step moves. -/
def MovesAlone (pid : ℤ) (st : FDStateStore) (update : FDStateUpdate) (k k' : OpenFiles) : Prop :=
  ∀ fd file, fd≠fdArg update.source.view.args[0] → k.file fd=some file →
    k'.offset file≠k.offset file → recorded st pid fd=none

/-- Whatever is written next to a descriptor with a file, the offset that is told before it is
that of the file, and the end of the write is in range. -/
def WritesAtOffset (tables : SyscallTables) (pid : ℤ) (st : FDStateStore) (k : OpenFiles) : Prop :=
  ∀ (update : FDStateUpdate) (orders : LoopOrders) (file : ℕ), update.name=.write →
    update.source.view.valid=true → 0 ≤ update.source.view.ret →
    k.file (fdArg update.source.view.args[0])=some file →
    (k.offset file).toInt+update.source.view.ret.toInt < 2^63 →
    ∀ o, (st.applyFDState tables update orders).bufferFileOffsetFromView update.source.view
        update.name pid=some o →
      o=k.offset file ∧
        (o+update.source.view.ret).toInt=o.toInt+update.source.view.ret.toInt

end Kernel

section Offsets

variable {tables : SyscallTables} {pid : ℤ} {st : FDStateStore} {update : FDStateUpdate}
  {orders : LoopOrders}

/-- Whether a syscall neither creates a pair nor closes a range. -/
def single (name : SyscallName) : Bool := !isFDArrayFDStateSyscall name && name != .closeRange

/-- Recording descriptors moves no offset. -/
theorem offsets_applyFDState (h : single update.name=true) :
    (st.applyFDState tables update orders).offsets=st.offsets ∧
      (st.applyFDState tables update orders).tainted=st.tainted := by
  unfold single at h
  rw [Bool.and_eq_true,Bool.not_eq_true',bne_iff_ne] at h
  have hwrites : updateFDStateOffsetsFromSource update.source update.name=[] := by
    unfold updateFDStateOffsetsFromSource
    exact if_pos (Or.inr (Or.inr h.1))
  unfold FDStateStore.applyFDState
  by_cases hskip : st.tainted=true ∨ shouldApplyFDStateEvent tables update.source.view update.name
      update.source.payloadSections=false
  · rw [if_pos hskip]
    exact ⟨rfl,rfl⟩
  · rw [if_neg hskip,if_neg h.2]
    unfold FDStateStore.recordFDState
    rw [hwrites]
    exact ⟨rfl,rfl⟩

/-- An exit without effects on offsets writes none. -/
theorem updateOffsetsFromView_of_not (hs : Successful tables pid update)
    (h : shouldApplyFDOffsetEvent tables update.source.view update.name=false)
    (states : Reader FDStateObservation) (read : Reader Int64) :
    updateOffsetsFromView update.name update.source.view states read=[] := by
  have hproper : ¬(update.source.view.valid=false ∨ update.source.view.probeRetEnter=3 ∨
      update.source.view.ret < 0) := by
    rw [hs.valid,not_or,not_or,Int64.not_lt]
    exact ⟨Bool.noConfusion,hs.available,hs.ret⟩
  unfold shouldApplyFDOffsetEvent at h
  rw [if_neg hproper,hs.traits] at h
  unfold updateOffsetsFromView
  rw [if_neg hproper]
  cases hname : update.name <;> rw [hname] at h <;>
    simp_all [syscallEventTraitsForName,isFDStateCreatorName,isOpenedPathFDStateSyscall,
      isDuplicatedFDStateSyscall,isFcntlFDStateSyscall]

/-- Snapshots that the offsets of an exit are taken from. -/
def statesAfter (tables : SyscallTables) (st : FDStateStore) (update : FDStateUpdate)
    (orders : LoopOrders) : Reader FDStateObservation :=
  fun slot => (st.applyFDState tables update orders).fdStates.lookup
    (slotKey update.targetPID slot)

/-- A write changes its own slot only. -/
theorem lookup_slot {V : Type} (m : GoMap String V) (w : Write FDSlot V) (slot : FDSlot) :
    (w.apply (slotKey pid) m).lookup (slotKey pid slot)=
      if slot=w.address then w.value else m.lookup (slotKey pid slot) := by
  rw [lookup_apply]
  by_cases hslot : slot=w.address
  · rw [if_pos hslot,if_pos (congrArg (slotKey pid) hslot)]
  · rw [if_neg hslot,if_neg fun hkey => hslot (slotKey_injective pid hkey)]

/-- What an exit leaves of a descriptor's offset. -/
theorem recorded_exitUpdate (hs : Successful tables pid update) (hsingle : single update.name=true)
    (htainted : st.tainted=false) (fd : Int32) :
    recorded (exitUpdate tables st update orders) pid fd=
      if shouldCleanupClosedFDEvent tables update.source.view update.name=true ∧
          fd=fdArg update.source.view.args[0] then none
      else (runWriter pid st.offsets (updateOffsetsFromView update.name update.source.view
        (statesAfter tables st update orders))).lookup (slotKey pid (.fd fd)) := by
  have happlied : (st.applyFDState tables update orders).offsets=st.offsets ∧
      (st.applyFDState tables update orders).tainted=st.tainted := offsets_applyFDState hsingle
  obtain ⟨hoffsets,hstill⟩ := happlied
  have hmoved : (if shouldApplyFDOffsetEvent tables update.source.view update.name=true then
      (st.applyFDState tables update orders).applyFDOffsets update.source.view update.name
        update.targetPID else st.applyFDState tables update orders).offsets=
      runWriter pid st.offsets (updateOffsetsFromView update.name update.source.view
        (statesAfter tables st update orders)) := by
    by_cases hmoves : shouldApplyFDOffsetEvent tables update.source.view update.name=true
    · rw [if_pos hmoves]
      unfold FDStateStore.applyFDOffsets
      rw [hstill,htainted,if_neg Bool.false_ne_true,hoffsets,←hs.targetPID]
      rfl
    · rw [if_neg hmoves]
      rw [Bool.not_eq_true] at hmoves
      unfold runWriter
      rw [updateOffsetsFromView_of_not hs hmoves,hoffsets]
      rfl
  unfold recorded exitUpdate FDStateStore.cleanupClosedFD
  dsimp only
  by_cases hcloses : shouldCleanupClosedFDEvent tables update.source.view update.name=true
  · rw [if_neg (by rw [hcloses]; exact Bool.noConfusion)]
    dsimp only
    rw [hmoved,hs.targetPID,applyWrites_cons,applyWrites_nil,lookup_slot]
    by_cases hfd : fd=fdArg update.source.view.args[0]
    · have hclosed : shouldCleanupClosedFDEvent tables update.source.view update.name=true ∧
          fd=fdArg update.source.view.args[0] := ⟨hcloses,hfd⟩
      rw [if_pos hclosed,hfd]
      exact if_pos rfl
    · have hkept : ¬(shouldCleanupClosedFDEvent tables update.source.view update.name=true ∧
          fd=fdArg update.source.view.args[0]) := fun hclosed => hfd hclosed.2
      rw [if_neg hkept]
      exact if_neg fun hslot => hfd (FDSlot.fd.inj hslot)
  · have hkept : ¬(shouldCleanupClosedFDEvent tables update.source.view update.name=true ∧
        fd=fdArg update.source.view.args[0]) := fun hclosed => hcloses hclosed.1
    rw [Bool.not_eq_true] at hcloses
    rw [if_pos hcloses,if_neg hkept,hmoved]

/-- The successful exits close a descriptor exactly if they are closes. -/
theorem shouldCleanup_iff (hs : Successful tables pid update) :
    shouldCleanupClosedFDEvent tables update.source.view update.name=true ↔
      update.name=.close ∧ update.source.view.ret=0 := by
  unfold shouldCleanupClosedFDEvent
  rw [hs.valid,hs.traits,Bool.true_and,Bool.and_eq_true,beq_iff_eq]
  exact and_congr_left fun _ => beq_iff_eq

/-- What an exit that is not a close leaves of the offsets. -/
theorem recorded_of_writes (hs : Successful tables pid update) (hsingle : single update.name=true)
    (htainted : st.tainted=false) (hclose : update.name≠.close) {writes : Writes Int64}
    (hwrites : updateOffsetsFromView update.name update.source.view
      (statesAfter tables st update orders)
      (fun slot => st.offsets.lookup (slotKey pid slot))=writes) (fd : Int32) :
    recorded (exitUpdate tables st update orders) pid fd=
      (applyWrites (slotKey pid) st.offsets writes).lookup (slotKey pid (.fd fd)) := by
  have hkept : ¬(shouldCleanupClosedFDEvent tables update.source.view update.name=true ∧
      fd=fdArg update.source.view.args[0]) :=
    fun hclosed => hclose ((shouldCleanup_iff hs).mp hclosed.1).1
  rw [recorded_exitUpdate hs hsingle htainted,if_neg hkept,←hwrites]
  rfl

/-- A write of one record changes that of its descriptor only. -/
theorem lookup_remember (m : GoMap String Int64) (n fd : Int32) (o : Int64) :
    (applyWrites (slotKey pid) m [remember n o]).lookup (slotKey pid (.fd fd))=
      if fd=n then some o else m.lookup (slotKey pid (.fd fd)) := by
  rw [applyWrites_cons,applyWrites_nil,lookup_slot]
  by_cases hfd : fd=n
  · rw [if_pos hfd,hfd]
    exact if_pos rfl
  · rw [if_neg hfd]
    exact if_neg fun hslot => hfd (FDSlot.fd.inj hslot)

section Kinds

variable (hs : Successful tables pid update) (htainted : st.tainted=false)

include hs

/-- The record of a proper, successful exit is not skipped. -/
theorem Successful.proper : ¬(update.source.view.valid=false ∨ update.source.view.probeRetEnter=3 ∨
    update.source.view.ret < 0) := by
  rw [hs.valid,not_or,not_or,Int64.not_lt]
  exact ⟨Bool.noConfusion,hs.available,hs.ret⟩

include htainted

/-- After an open the snapshot of the new descriptor is that of the event. -/
theorem statesAfter_opened (hname : isOpenedPathFDStateSyscall update.name=true) :
    statesAfter tables st update orders (.fd (fdRet update.source.view))=
      snapshotForFD update.source (fdRet update.source.view) := by
  have happlies : shouldApplyFDStateEvent tables update.source.view update.name
      update.source.payloadSections=true := by
    unfold shouldApplyFDStateEvent
    rw [hs.valid,hs.traits]
    cases hn : update.name <;> rw [hn] at hname <;>
      simp_all [syscallEventTraitsForName,isOpenedPathFDStateSyscall]
  have hproper : ¬(update.source.view.valid=false ∨ update.source.view.ret < 0 ∨
      isFDStateObservationSyscall update.name=false) := by
    unfold isFDStateObservationSyscall
    rw [hs.valid,hname,not_or,not_or,Int64.not_lt]
    exact ⟨Bool.noConfusion,hs.ret,Bool.noConfusion⟩
  have hskips : ¬(st.tainted=true ∨ shouldApplyFDStateEvent tables update.source.view update.name
      update.source.payloadSections=false) := by
    rw [htainted,happlies]
    exact fun h => h.elim Bool.noConfusion Bool.noConfusion
  have hwrites : updateFDStateObservationFromSource update.source update.name=
      forget (fdRet update.source.view)::
        ((snapshotForFD update.source (fdRet update.source.view)).map
          (remember (fdRet update.source.view))).toList := by
    unfold updateFDStateObservationFromSource
    rw [if_neg hproper]
    cases hn : update.name <;> rw [hn] at hname <;>
      simp_all [isOpenedPathFDStateSyscall,isFcntlFDStateSyscall,isFDArrayFDStateSyscall,
        fdStateTargetReplaced]
  have hrange : update.name≠.closeRange := by
    intro hn
    rw [hn] at hname
    exact Bool.noConfusion hname
  unfold statesAfter FDStateStore.applyFDState
  rw [if_neg hskips,if_neg hrange]
  unfold FDStateStore.recordFDState applyWrites
  rw [hwrites,List.foldl_append,List.foldl_cons]
  cases hsnapshot : snapshotForFD update.source (fdRet update.source.view) with
  | none =>
    dsimp only [Option.map_none,Option.toList_none,List.foldl_nil]
    rw [lookup_slot]
    exact if_pos rfl
  | some observation =>
    dsimp only [Option.map_some,Option.toList_some,List.foldl_cons,List.foldl_nil]
    rw [lookup_slot]
    exact if_pos rfl

/-- An open starts at the beginning of the file. -/
theorem recorded_opened (hname : isOpenedPathFDStateSyscall update.name=true)
    (hsnapshot : ∀ observation,
      snapshotForFD update.source (fdRet update.source.view)=some observation →
      hasOffset observation=true → observation.offset=0) (fd : Int32) :
    recorded (exitUpdate tables st update orders) pid fd=
      if fd=fdRet update.source.view then some 0 else recorded st pid fd := by
  have hkind : single update.name=true ∧ update.name≠.close ∧
      isFDStateCreatorName update.name=false := by
    cases hn : update.name <;> rw [hn] at hname <;>
      simp_all [isOpenedPathFDStateSyscall,single,isFDArrayFDStateSyscall,isFDStateCreatorName]
  have hstates : statesAfter tables st update orders (.fd (fdRet update.source.view))=
      snapshotForFD update.source (fdRet update.source.view) := statesAfter_opened hs htainted hname
  have hwrites : updateOffsetsFromView update.name update.source.view
      (statesAfter tables st update orders) (fun slot => st.offsets.lookup (slotKey pid slot))=
      remember (fdRet update.source.view) 0::
        (((snapshotForFD update.source (fdRet update.source.view)).filter hasOffset).map
          fun observation => remember (fdRet update.source.view) observation.offset).toList := by
    unfold updateOffsetsFromView
    rw [if_neg hs.proper,if_neg (by rw [hkind.2.2]; exact Bool.noConfusion),if_pos hname,hstates]
  rw [recorded_of_writes hs hkind.1 htainted hkind.2.1 hwrites]
  cases hsnap : (snapshotForFD update.source (fdRet update.source.view)).filter hasOffset with
  | none => exact lookup_remember _ _ _ _
  | some observation =>
    obtain ⟨hsome,hoffset⟩ := Option.filter_eq_some_iff.mp hsnap
    have hzero : observation.offset=0 := hsnapshot observation hsome hoffset
    rw [Option.map_some,Option.toList_some,applyWrites_cons]
    refine (lookup_remember _ _ _ _).trans ?_
    rw [hzero]
    by_cases hfd : fd=fdRet update.source.view
    · rw [if_pos hfd,if_pos hfd]
    · rw [if_neg hfd,if_neg hfd]
      refine (lookup_slot _ _ _).trans ?_
      exact if_neg fun hslot => hfd (FDSlot.fd.inj hslot)

/-- A duplicate has the offset of the old descriptor, if it has one. -/
theorem recorded_duplicated {old new : Int32}
    (hfds : duplicatedFDsFromView update.source.view update.name=some (old,new)) :
    (∀ fd, fd≠new →
        recorded (exitUpdate tables st update orders) pid fd=recorded st pid fd) ∧
      ∀ o, recorded (exitUpdate tables st update orders) pid new=some o →
        recorded st pid old=some o := by
  have hkind : single update.name=true ∧ update.name≠.close ∧
      isFDStateCreatorName update.name=false ∧ isOpenedPathFDStateSyscall update.name=false ∧
      (isDuplicatedFDStateSyscall update.name || isFcntlFDStateSyscall update.name)=true := by
    rcases (duplicatedFDsFromView_eq_some hfds).1 with hn | ⟨hn,_⟩ <;>
      cases hn' : update.name <;> rw [hn'] at hn <;>
      first | exact Bool.noConfusion hn | decide
  obtain ⟨hsingle,hclose,hcreator,hopened,hduplicated⟩ := hkind
  have hwrites : updateOffsetsFromView update.name update.source.view
      (statesAfter tables st update orders) (fun slot => st.offsets.lookup (slotKey pid slot))=
      (if old≠new then [forget new] else []) ++
        if isFcntlFDStateSyscall update.name &&
            (statesAfter tables st update orders (.fd new)).isNone then []
        else
          (recorded st pid old).elim [] fun o => [remember new o] := by
    unfold updateOffsetsFromView
    rw [if_neg hs.proper,if_neg (by rw [hcreator]; exact Bool.noConfusion),
      if_neg (by rw [hopened]; exact Bool.noConfusion),if_pos hduplicated,hfds]
    dsimp only [recorded]
    cases st.offsets.lookup (slotKey pid (.fd old)) <;> rfl
  have hforget : ∀ slot : FDSlot, slot≠.fd new ∨ old=new →
      (applyWrites (slotKey pid) st.offsets (if old≠new then [forget new] else [])).lookup
        (slotKey pid slot)=st.offsets.lookup (slotKey pid slot) := by
    intro slot hslot
    by_cases hsame : old=new
    · rw [if_neg (not_not.mpr hsame)]
      rfl
    · rw [if_pos hsame]
      rw [applyWrites_cons,applyWrites_nil,lookup_slot]
      exact if_neg (hslot.resolve_right hsame)
  have hcopied : ∀ fd, recorded (exitUpdate tables st update orders) pid fd=
      if fd=new ∧ (isFcntlFDStateSyscall update.name &&
          (statesAfter tables st update orders (.fd new)).isNone)=false ∧
          (recorded st pid old).isSome=true then recorded st pid old
      else (applyWrites (slotKey pid) st.offsets (if old≠new then [forget new] else [])).lookup
        (slotKey pid (.fd fd)) := by
    intro fd
    rw [recorded_of_writes hs hsingle htainted hclose hwrites]
    unfold applyWrites
    rw [List.foldl_append]
    cases hunknown : isFcntlFDStateSyscall update.name &&
        (statesAfter tables st update orders (.fd new)).isNone with
    | true => simp
    | false =>
      cases hbefore : recorded st pid old with
      | none => simp
      | some o =>
        refine (lookup_remember _ _ _ _).trans ?_
        simp
  refine ⟨fun fd hfd => ?_,fun o ho => ?_⟩
  · rw [hcopied,if_neg fun h => hfd h.1]
    exact hforget (.fd fd) (Or.inl fun hslot => hfd (FDSlot.fd.inj hslot))
  · rw [hcopied] at ho
    split_ifs at ho with hcopy hsame
    · exact ho
    · rw [applyWrites_cons,applyWrites_nil,lookup_slot] at ho
      exact absurd ((if_pos rfl).symm.trans ho) (Option.some_ne_none _).symm
    · rw [not_not.mp hsame]
      exact ho

/-- A transfer moves the offset of its descriptor. -/
theorem recorded_transferred (hname : update.name=.read ∨ update.name=.write) (fd : Int32) :
    recorded (exitUpdate tables st update orders) pid fd=
      if fd=fdArg update.source.view.args[0] then
        (recorded st pid fd).map (·+update.source.view.ret)
      else recorded st pid fd := by
  have hkind : single update.name=true ∧ update.name≠.close ∧
      isFDStateCreatorName update.name=false ∧ isOpenedPathFDStateSyscall update.name=false ∧
      (isDuplicatedFDStateSyscall update.name || isFcntlFDStateSyscall update.name)=false := by
    rcases hname with hn | hn <;> rw [hn] <;> decide
  obtain ⟨hsingle,hclose,hcreator,hopened,hduplicated⟩ := hkind
  have hwrites : updateOffsetsFromView update.name update.source.view
      (statesAfter tables st update orders) (fun slot => st.offsets.lookup (slotKey pid slot))=
      if update.source.view.ret=0 then []
      else (recorded st pid (fdArg update.source.view.args[0])).elim [] fun o =>
        [remember (fdArg update.source.view.args[0]) (o+update.source.view.ret)] := by
    unfold updateOffsetsFromView
    rw [if_neg hs.proper,if_neg (by rw [hcreator]; exact Bool.noConfusion),
      if_neg (by rw [hopened]; exact Bool.noConfusion),
      if_neg (by rw [hduplicated]; exact Bool.noConfusion),if_pos hname]
    dsimp only [recorded]
    cases st.offsets.lookup (slotKey pid (.fd (fdArg update.source.view.args[0]))) <;> rfl
  rw [recorded_of_writes hs hsingle htainted hclose hwrites]
  by_cases hret : update.source.view.ret=0
  · have hsame : (recorded st pid fd).map (·+update.source.view.ret)=recorded st pid fd := by
      rw [hret]
      cases recorded st pid fd with
      | none => rfl
      | some o => exact congrArg some (Int64.add_zero o)
    rw [if_pos hret,hsame,ite_self]
    rfl
  · rw [if_neg hret]
    cases hbefore : recorded st pid (fdArg update.source.view.args[0]) with
    | none =>
      by_cases hfd : fd=fdArg update.source.view.args[0]
      · rw [if_pos hfd,hfd,hbefore]
        exact hbefore
      · rw [if_neg hfd]
        rfl
    | some o =>
      refine (lookup_remember _ _ _ _).trans ?_
      by_cases hfd : fd=fdArg update.source.view.args[0]
      · rw [if_pos hfd,if_pos hfd,hfd,hbefore]
        rfl
      · rw [if_neg hfd,if_neg hfd]
        rfl

/-- A seek sets the offset of its descriptor. -/
theorem recorded_sought (hname : update.name=.lseek) (fd : Int32) :
    recorded (exitUpdate tables st update orders) pid fd=
      if fd=fdArg update.source.view.args[0] then some update.source.view.ret
      else recorded st pid fd := by
  have hsingle : single update.name=true := by rw [hname]; rfl
  have hwrites : updateOffsetsFromView update.name update.source.view
      (statesAfter tables st update orders) (fun slot => st.offsets.lookup (slotKey pid slot))=
      [remember (fdArg update.source.view.args[0]) update.source.view.ret] := by
    unfold updateOffsetsFromView
    rw [if_neg hs.proper,hname]
    rfl
  rw [recorded_of_writes hs hsingle htainted (by rw [hname]; exact SyscallName.noConfusion) hwrites]
  exact lookup_remember _ _ _ _

/-- A close forgets the offset of its descriptor. -/
theorem recorded_closed (hname : update.name=.close) (hret : update.source.view.ret=0)
    (fd : Int32) :
    recorded (exitUpdate tables st update orders) pid fd=
      if fd=fdArg update.source.view.args[0] then none else recorded st pid fd := by
  have hsingle : single update.name=true := by rw [hname]; rfl
  have hcloses : shouldCleanupClosedFDEvent tables update.source.view update.name=true :=
    (shouldCleanup_iff hs).mpr ⟨hname,hret⟩
  have hwrites : updateOffsetsFromView update.name update.source.view
      (statesAfter tables st update orders) (fun slot => st.offsets.lookup (slotKey pid slot))=
      [] := by
    unfold updateOffsetsFromView
    rw [if_neg hs.proper,hname]
    rfl
  rw [recorded_exitUpdate hs hsingle htainted]
  by_cases hfd : fd=fdArg update.source.view.args[0]
  · rw [if_pos ⟨hcloses,hfd⟩,if_pos hfd]
  · have hkept : ¬(shouldCleanupClosedFDEvent tables update.source.view update.name=true ∧
        fd=fdArg update.source.view.args[0]) := fun hclosed => hfd hclosed.2
    rw [if_neg hkept,if_neg hfd]
    unfold runWriter
    rw [hwrites]
    rfl

end Kinds

end Offsets

section Steps

variable {tables : SyscallTables} {pid : ℤ} {st : FDStateStore} {update : FDStateUpdate}
  {orders : LoopOrders} {k k' : OpenFiles}

/-- Syscalls that the kernel has performed neither create a pair nor close a range. -/
theorem Performs.single (h : Performs update k k') : single update.name=true := by
  cases h with
  | opened file hname =>
    cases hn : update.name <;> rw [hn] at hname <;> first | exact Bool.noConfusion hname | rfl
  | duplicated old new file hfds =>
    rcases (duplicatedFDsFromView_eq_some hfds).1 with hname | ⟨hname,_⟩ <;>
      cases hn : update.name <;> rw [hn] at hname <;> first | exact Bool.noConfusion hname | rfl
  | transferred file hname => rcases hname with hn | hn <;> rw [hn] <;> rfl
  | sought file hname => rw [hname]; rfl
  | closed hname => rw [hname]; rfl

/-- An exit that the kernel has performed loses no history. -/
theorem tainted_exitUpdate (hperforms : Performs update k k') :
    (exitUpdate tables st update orders).tainted=st.tainted := by
  have happlied : (st.applyFDState tables update orders).offsets=st.offsets ∧
      (st.applyFDState tables update orders).tainted=st.tainted :=
    offsets_applyFDState hperforms.single
  unfold exitUpdate FDStateStore.cleanupClosedFD FDStateStore.applyFDOffsets
  dsimp only
  split_ifs <;> exact happlied.2

/-- After a move of a descriptor's file the records are right exactly if no other descriptor had a
record of it. -/
theorem right_move_iff {after : FDStateStore} {n : Int32} {file : ℕ} {offset : Int64}
    (hright : Right pid st k) (hopen : k.file n=some file)
    (hmoved : ∀ o, recorded after pid n=some o → o=offset)
    (hothers : ∀ fd, fd≠n → recorded after pid fd=recorded st pid fd) :
    Right pid after (k.move file offset) ↔ ∀ fd other, fd≠n → k.file fd=some other →
      (k.move file offset).offset other≠k.offset other → recorded st pid fd=none := by
  constructor
  · intro hafter fd other hfd hother hmoves
    by_contra hrecord
    obtain ⟨o,ho⟩ := Option.ne_none_iff_exists'.mp hrecord
    have hbefore : o=k.offset other := hright fd other o hother ho
    have hnow : o=(k.move file offset).offset other :=
      hafter fd other o hother ((hothers fd hfd).trans ho)
    exact hmoves (hnow.symm.trans hbefore)
  · intro halone fd other o hother ho
    by_cases hfd : fd=n
    · have hfile : other=file := Option.some.inj (hother.symm.trans (hfd ▸ hopen))
      rw [hfile,hmoved o (hfd ▸ ho)]
      exact OpenFiles.move_self.symm
    · rw [hothers fd hfd] at ho
      by_contra hne
      have hmoves : (k.move file offset).offset other≠k.offset other :=
        fun hsame => hne ((hright fd other o hother ho).trans hsame.symm)
      rw [halone fd other hfd hother hmoves] at ho
      exact Option.some_ne_none o ho.symm

/-- A step keeps the records right exactly if it moves no file that another descriptor has a record
of. -/
theorem right_exitUpdate_iff (hs : Successful tables pid update) (hperforms : Performs update k k')
    (htainted : st.tainted=false) (hright : Right pid st k) :
    Right pid (exitUpdate tables st update orders) k' ↔ MovesAlone pid st update k k' := by
  cases hperforms with
  | opened file hname hnew hsnapshot =>
    have hrecorded : ∀ fd, recorded (exitUpdate tables st update orders) pid fd=_ :=
      recorded_opened hs htainted hname hsnapshot
    refine iff_of_true (fun fd other o hother ho => ?_) fun fd other _ hother hmoves => ?_
    · rw [hrecorded] at ho
      by_cases hfd : fd=fdRet update.source.view
      · rw [if_pos hfd] at ho
        have hfile : file=other := by
          rw [hfd] at hother
          exact Option.some.inj (OpenFiles.assign_self.symm.trans hother)
        rw [←hfile,←Option.some.inj ho]
        exact OpenFiles.move_self.symm
      · rw [if_neg hfd] at ho
        have hbefore : k.file fd=some other := (OpenFiles.assign_of_ne hfd).symm.trans hother
        have hfile : other≠file := fun hsame => hnew fd (hsame ▸ hbefore)
        rw [hright fd other o hbefore ho]
        exact (OpenFiles.move_of_ne hfile).symm
    · have hfile : other≠file := fun hsame => hnew fd (hsame ▸ hother)
      exact absurd (OpenFiles.move_of_ne hfile) hmoves
  | duplicated old new file hfds hopen =>
    have hrecorded : (∀ fd, fd≠new → recorded (exitUpdate tables st update orders) pid fd=_) ∧ _ :=
      recorded_duplicated hs htainted hfds
    obtain ⟨hothers,hcopy⟩ := hrecorded
    refine iff_of_true (fun fd other o hother ho => ?_) fun _ _ _ _ hmoves => absurd rfl hmoves
    by_cases hfd : fd=new
    · rw [hfd] at hother ho
      have hfile : file=other := Option.some.inj (OpenFiles.assign_self.symm.trans hother)
      exact hright old other o (hfile ▸ hopen) (hcopy o ho)
    · rw [hothers fd hfd] at ho
      exact hright fd other o ((OpenFiles.assign_of_ne hfd).symm.trans hother) ho
  | transferred file hname hopen hrange =>
    have hrecorded : ∀ fd, recorded (exitUpdate tables st update orders) pid fd=_ :=
      recorded_transferred hs htainted hname
    refine right_move_iff hright hopen (fun o ho => ?_) fun fd hfd => ?_
    · rw [hrecorded,if_pos rfl] at ho
      obtain ⟨before,hbefore,hsum⟩ := Option.map_eq_some_iff.mp ho
      rw [←hsum,hright _ file before hopen hbefore]
    · rw [hrecorded,if_neg hfd]
  | sought file hname hopen =>
    have hrecorded : ∀ fd, recorded (exitUpdate tables st update orders) pid fd=_ :=
      recorded_sought hs htainted hname
    refine right_move_iff hright hopen (fun o ho => ?_) fun fd hfd => ?_
    · rw [hrecorded,if_pos rfl] at ho
      exact (Option.some.inj ho).symm
    · rw [hrecorded,if_neg hfd]
  | closed hname hret =>
    have hrecorded : ∀ fd, recorded (exitUpdate tables st update orders) pid fd=_ :=
      recorded_closed hs htainted hname hret
    refine iff_of_true (fun fd other o hother ho => ?_) fun _ _ _ _ hmoves => absurd rfl hmoves
    rw [hrecorded] at ho
    by_cases hfd : fd=fdArg update.source.view.args[0]
    · rw [if_pos hfd] at ho
      exact absurd ho.symm (Option.some_ne_none o)
    · rw [if_neg hfd] at ho
      exact hright fd other o ((OpenFiles.assign_of_ne hfd).symm.trans hother) ho

/-- What is told before a write is the record of its descriptor. -/
theorem bufferFileOffsetFromView_write (hname : update.name=.write)
    (hvalid : update.source.view.valid=true) (htainted : st.tainted=false) :
    (st.applyFDState tables update orders).bufferFileOffsetFromView update.source.view
      update.name pid=recorded st pid (fdArg update.source.view.args[0]) := by
  have hsingle : single update.name=true := by rw [hname]; rfl
  have happlied : (st.applyFDState tables update orders).offsets=st.offsets ∧
      (st.applyFDState tables update orders).tainted=st.tainted := offsets_applyFDState hsingle
  unfold FDStateStore.bufferFileOffsetFromView
  rw [if_neg (by rw [hvalid]; exact Bool.noConfusion),if_pos hname,happlied.2,htainted,
    if_neg Bool.false_ne_true,happlied.1]
  rfl

/-- A write of nothing to a descriptor. -/
def writeNothing (pid : ℤ) (fd : Int32) : FDStateUpdate :=
  {source := ⟨({eventType := .exit, args := ⟨#[fd.toUInt32.toUInt64,0,0,0,0,0],rfl⟩} :
     TraceEventEnvelope).syscallView,[]⟩
   name := .write
   targetPID := pid}

theorem fdArg_writeNothing (fd : Int32) :
    fdArg (writeNothing pid fd).source.view.args[0]=fd := by
  change fd.toUInt32.toUInt64.toUInt32.toInt32=fd
  rw [UInt32.toUInt32_toUInt64]
  rfl

/-- The offsets told before writes are the kernel's exactly if the records are right. -/
theorem writesAtOffset_iff (htainted : st.tainted=false) :
    WritesAtOffset tables pid st k ↔ Right pid st k := by
  constructor
  · intro h fd file o hfile ho
    have hrange : (k.offset file).toInt+(0 : Int64).toInt < 2^63 := by
      have hlt : (k.offset file).toInt < 2^63 := Int64.toInt_lt _
      exact (add_zero (k.offset file).toInt).symm ▸ hlt
    have htold : (st.applyFDState tables (writeNothing pid fd) {}).bufferFileOffsetFromView
        (writeNothing pid fd).source.view (writeNothing pid fd).name pid=_ :=
      bufferFileOffsetFromView_write rfl rfl htainted
    rw [fdArg_writeNothing,ho] at htold
    refine (h (writeNothing pid fd) {} file rfl rfl (Int64.le_refl 0) ?_ hrange o htold).1
    rw [fdArg_writeNothing]
    exact hfile
  · intro hright update orders file hname hvalid hret hfile hrange o ho
    rw [bufferFileOffsetFromView_write hname hvalid htainted] at ho
    have hoffset : o=k.offset file := hright _ file o hfile ho
    refine ⟨hoffset,?_⟩
    have hlow : -2^63 ≤ o.toInt := Int64.le_toInt o
    have hret : 0 ≤ update.source.view.ret.toInt := Int64.le_iff_toInt_le.mp hret
    rw [←hoffset] at hrange
    rw [Int64.toInt_add,Int.bmod_eq_of_le] <;> omega

end Steps

section Runs

/-- One exit of a process. -/
structure Exit where
  /-- The event. -/
  update : FDStateUpdate
  /-- Orders of the store's loops. -/
  orders : LoopOrders
  /-- Open files after it. -/
  after : OpenFiles

variable {tables : SyscallTables} {pid : ℤ}

/-- Successful exits as the kernel has performed them, one after the other. -/
def Performed (tables : SyscallTables) (pid : ℤ) : OpenFiles → List Exit → Prop
  | _,[] => True
  | k,exit::rest => Successful tables pid exit.update ∧ Performs exit.update k exit.after ∧
    Performed tables pid exit.after rest

/-- No step of a run moves a file that another descriptor has a record of. -/
def AllAlone (tables : SyscallTables) (pid : ℤ) : FDStateStore → OpenFiles → List Exit → Prop
  | _,_,[] => True
  | st,k,exit::rest => MovesAlone pid st exit.update k exit.after ∧
    AllAlone tables pid (exitUpdate tables st exit.update exit.orders) exit.after rest

/-- A property of the store and the open files in every state of a run. -/
def EveryState (tables : SyscallTables) (p : FDStateStore → OpenFiles → Prop) :
    FDStateStore → OpenFiles → List Exit → Prop
  | st,k,[] => p st k
  | st,k,exit::rest => p st k ∧
    EveryState tables p (exitUpdate tables st exit.update exit.orders) exit.after rest

/-- The offsets told before writes are the kernel's in every state of a run exactly if no step moves
a file that another descriptor has a record of. -/
theorem known_offset_is_kernel_offset_iff {st : FDStateStore} {k : OpenFiles} {exits : List Exit}
    (hperformed : Performed tables pid k exits) (htainted : st.tainted=false)
    (hstart : Right pid st k) :
    EveryState tables (WritesAtOffset tables pid) st k exits ↔ AllAlone tables pid st k exits := by
  induction exits generalizing st k with
  | nil => exact iff_of_true ((writesAtOffset_iff htainted).mpr hstart) trivial
  | cons exit rest ih =>
    obtain ⟨hs,hperforms,hrest⟩ := hperformed
    have hstep : Right pid (exitUpdate tables st exit.update exit.orders) exit.after ↔
        MovesAlone pid st exit.update k exit.after :=
      right_exitUpdate_iff hs hperforms htainted hstart
    have hnext : (exitUpdate tables st exit.update exit.orders).tainted=false :=
      (tainted_exitUpdate hperforms).trans htainted
    have hfirst : ∀ {st : FDStateStore} {k : OpenFiles}, st.tainted=false →
        EveryState tables (WritesAtOffset tables pid) st k rest → Right pid st k := by
      intro st k ht hevery
      cases rest with
      | nil => exact (writesAtOffset_iff ht).mp hevery
      | cons _ _ => exact (writesAtOffset_iff ht).mp hevery.1
    constructor
    · intro h
      have hright := hfirst hnext h.2
      exact ⟨hstep.mp hright,(ih hrest hnext hright).mp h.2⟩
    · intro h
      have hright := hstep.mpr h.1
      exact ⟨(writesAtOffset_iff htainted).mpr hstart,(ih hrest hnext hright).mpr h.2⟩

/-- Syscall table of the samples. -/
def fileTables : SyscallTables :=
  ⟨fun id => if id=1 then "write" else if id=2 then "open" else if id=3 then "close" else "dup",
    fun _ => false,fun _ => false⟩

theorem sixArgs (fd : UInt64) : #[fd,0,0,0,0,0].size=6 := rfl

/-- Exit of a syscall on a descriptor. -/
def exitOn (name : SyscallName) (sysID : UInt32) (fd : UInt64) (ret : Int64) : FDStateUpdate :=
  {source := ⟨({eventType := .exit, sysID := sysID, ret := ret
                args := ⟨#[fd,0,0,0,0,0],sixArgs fd⟩} : TraceEventEnvelope).syscallView,[]⟩
   name := name
   targetPID := 100}

/-- A process without open files. -/
def noFiles : OpenFiles := ⟨fun _ => none,fun _ => 0⟩

/-- Its files after an open. -/
def oneFile : OpenFiles := (noFiles.assign 3 (some 0)).move 0 0

/-- Its files after a write of ten bytes. -/
def tenBytes : OpenFiles := oneFile.move 0 (oneFile.offset 0+10)

/-- An open, a write, a duplication, a close of the old descriptor and a write to the new one. -/
def writesThroughOne : List Exit :=
  [⟨exitOn .«open» 2 0 3,{},oneFile⟩,
   ⟨exitOn .write 1 3 10,{},tenBytes⟩,
   ⟨exitOn .dup 32 3 4,{},tenBytes.assign 4 (some 0)⟩,
   ⟨exitOn .close 3 3 0,{},(tenBytes.assign 4 (some 0)).assign 3 none⟩,
   ⟨exitOn .write 1 4 5,{},((tenBytes.assign 4 (some 0)).assign 3 none).move 0
     (((tenBytes.assign 4 (some 0)).assign 3 none).offset 0+5)⟩]

/-- An open, a duplication and a write to the new descriptor. -/
def writesThroughDuplicate : List Exit :=
  [⟨exitOn .«open» 2 0 3,{},oneFile⟩,
   ⟨exitOn .dup 32 3 4,{},oneFile.assign 4 (some 0)⟩,
   ⟨exitOn .write 1 4 10,{},(oneFile.assign 4 (some 0)).move 0
     ((oneFile.assign 4 (some 0)).offset 0+10)⟩]

theorem performs_open : Performs (exitOn .«open» 2 0 3) noFiles oneFile :=
  Performs.opened 0 rfl (fun _ => (Option.some_ne_none 0).symm) fun _ h =>
    absurd h.symm (Option.some_ne_none _)

/-- A step moves files alone if no other descriptor is open. -/
theorem movesAlone_of_only {st : FDStateStore} {update : FDStateUpdate} {k k' : OpenFiles}
    (h : ∀ fd, fd≠fdArg update.source.view.args[0] → k.file fd=none) :
    MovesAlone pid st update k k' := by
  intro fd file hfd hfile
  rw [h fd hfd] at hfile
  exact absurd hfile.symm (Option.some_ne_none file)

theorem file_oneFile {fd : Int32} (h : fd≠3) : oneFile.file fd=none := OpenFiles.assign_of_ne h

/-- A run that writes through one descriptor at a time. -/
theorem known_offset_is_kernel_offset_through_one :
    EveryState fileTables (WritesAtOffset fileTables 100) (newFDStateStoreFromSeed []) noFiles
      writesThroughOne := by
  have hperformed : Performed fileTables 100 noFiles writesThroughOne :=
    ⟨⟨rfl,rfl,by decide,by decide,rfl,by rfl⟩,performs_open,
     ⟨rfl,rfl,by decide,by decide,rfl,by rfl⟩,Performs.transferred 0 (Or.inr rfl) rfl (by decide),
     ⟨rfl,rfl,by decide,by decide,rfl,by rfl⟩,Performs.duplicated 3 4 0 rfl rfl,
     ⟨rfl,rfl,by decide,by decide,rfl,by rfl⟩,Performs.closed rfl rfl,
     ⟨rfl,rfl,by decide,by decide,rfl,by rfl⟩,Performs.transferred 0 (Or.inr rfl) rfl (by decide),
     trivial⟩
  have hstart : Right 100 (newFDStateStoreFromSeed []) noFiles :=
    fun _ file _ hfile => absurd hfile.symm (Option.some_ne_none file)
  refine (known_offset_is_kernel_offset_iff hperformed rfl hstart).mpr
    ⟨?_,?_,?_,?_,?_,trivial⟩
  · exact movesAlone_of_only fun _ _ => rfl
  · exact movesAlone_of_only fun fd hfd => file_oneFile hfd
  · exact fun _ _ _ _ hmoves => absurd rfl hmoves
  · exact fun _ _ _ _ hmoves => absurd rfl hmoves
  · refine movesAlone_of_only fun fd hfd => ?_
    by_cases hthree : fd=3
    · rw [hthree]
      exact OpenFiles.assign_self
    · have hfour : fd≠4 := hfd
      rw [OpenFiles.assign_of_ne hthree,OpenFiles.assign_of_ne hfour]
      exact file_oneFile hthree

/-- After a write through a duplicate the old descriptor's offset is behind. -/
theorem known_offset_is_behind_duplicate :
    ¬∀ (tables : SyscallTables) (pid : ℤ) (exits : List Exit),
      Performed tables pid noFiles exits →
      EveryState tables (WritesAtOffset tables pid) (newFDStateStoreFromSeed []) noFiles exits := by
  intro h
  have hperformed : Performed fileTables 100 noFiles writesThroughDuplicate :=
    ⟨⟨rfl,rfl,by decide,by decide,rfl,by rfl⟩,performs_open,
     ⟨rfl,rfl,by decide,by decide,rfl,by rfl⟩,Performs.duplicated 3 4 0 rfl rfl,
     ⟨rfl,rfl,by decide,by decide,rfl,by rfl⟩,Performs.transferred 0 (Or.inr rfl) rfl (by decide),
     trivial⟩
  obtain ⟨_,_,_,hlast⟩ := h fileTables 100 writesThroughDuplicate hperformed
  have hwrite := hlast (exitOn .write 1 3 5) {} 0 rfl rfl (by decide) rfl (by decide) 0 (by decide)
  exact absurd hwrite.1 (by decide)

end Runs

end StraceGo.FDStateOffsets

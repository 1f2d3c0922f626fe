import StraceGo.FDStateCloseRange

/-!
# Descriptors that survive an exec

A reference follows the close-on-exec flag of every descriptor through the
events of a run: the last event that determines the flag decides, a fork gives
the child the flags of its parent, and a closed descriptor has none. What the
store has recorded as known is what the reference says, except after a socket
that takes a number with a bit left over, or a fork to a number with bits left
over. An exec keeps only descriptors whose bit is known to be off.
-/

namespace StraceGo.FDStateExec

open EventEnvelope FiniteMaps EventTaskLifecycle GoText KeyedMaps FDStateEvents FDState FDStateKeys
  FDStateTable FDStateRefinement FDStateReuse FDStateCloseRange

/-- Close-on-exec flags of all descriptors, none where the flag is not known. -/
abbrev Flags : Type := FDKey → Option Bool

/-- Whether the argument of a call asks for close-on-exec. -/
def asksCloexec (view : SyscallEventView) (argIndex : Fin 6) : Bool :=
  view.args[argIndex] &&& 0x80000 != 0

instance (first last : UInt32) (fd : Int32) : Decidable (fdInRange first last fd) :=
  inferInstanceAs (Decidable (_ ∧ _ ∧ _))

/-- What a call says of the flag of a descriptor it returns. -/
def returnedFlag (view : SyscallEventView) (fd : Int32) (flag : Option Bool) :
    Option (Option Bool) :=
  if fd=fdRet view then some flag else none

/-- What a call says of the flag of a copy it makes of another descriptor. -/
def copiedFlag (view : SyscallEventView) (fd : Int32) (flag : Bool) : Option (Option Bool) :=
  if fd=fdRet view ∧ fdArg view.args[0]≠fd then some (some flag) else none

/-- What a call says of the flags of a pair it stores at an argument. -/
def pairedFlag (src : FDStateSource) (argIndex : ℤ) (fd : Int32) (flag : Bool) :
    Option (Option Bool) :=
  match fdArrayPayloadData src.payloadSections argIndex with
  | none => none
  | some pair => if fd=pair.1 ∨ fd=pair.2 then some (some flag) else none

/-- What a descriptor control says of the flag of a descriptor. -/
def controlledFlag (view : SyscallEventView) (fd : Int32) : Option (Option Bool) :=
  if view.args[1].toUInt32=0 then copiedFlag view fd false
  else if view.args[1].toUInt32=1030 then copiedFlag view fd true
  else if view.args[1].toUInt32=2 ∧ view.ret=0 ∧ fd=fdArg view.args[0] then
    some (some (view.args[2] &&& 1 != 0))
  else none

/-- What a range call says of the flag of a descriptor: closed ones have none. -/
def rangeFlag (view : SyscallEventView) (fd : Int32) : Option (Option Bool) :=
  if view.eventType=.exit ∧ view.ret=0 ∧ view.probeRetEnter≠3 ∧
      view.args[0].toUInt32 ≤ view.args[1].toUInt32 ∧ view.args[2].toUInt32 &&& ~~~6=0 ∧
      fdInRange view.args[0].toUInt32 view.args[1].toUInt32 fd then
    some (if view.args[2].toUInt32 &&& 4≠0 then some true else none)
  else none

/-- What a successful event says of the flag of a descriptor of its process, none if it does not
determine it. -/
def eventFlag (src : FDStateSource) (name : SyscallName) (fd : Int32) : Option (Option Bool) :=
  if src.view.valid=false ∨ src.view.ret < 0 then none
  else
    match name with
    | .«open» => returnedFlag src.view fd (some (asksCloexec src.view 1))
    | .openat | .openTree => returnedFlag src.view fd (some (asksCloexec src.view 2))
    | .openat2 => returnedFlag src.view fd
        ((openHowFlagsFromPayload src.payloadSections).map (· &&& 0x80000 != 0))
    | .creat => returnedFlag src.view fd (some false)
    | .socket => returnedFlag src.view fd (some (asksCloexec src.view 1))
    | .signalfd =>
      if fdArg src.view.args[0]=-1 then returnedFlag src.view fd (some false) else none
    | .signalfd4 =>
      if fdArg src.view.args[0]=-1 then returnedFlag src.view fd (some (asksCloexec src.view 3))
      else none
    | .eventfd | .epollCreate | .inotifyInit => returnedFlag src.view fd (some false)
    | .eventfd2 | .timerfdCreate => returnedFlag src.view fd (some (asksCloexec src.view 1))
    | .epollCreate1 | .inotifyInit1 => returnedFlag src.view fd (some (asksCloexec src.view 0))
    | .pidfdOpen => returnedFlag src.view fd (some true)
    | .dup | .dup2 => copiedFlag src.view fd false
    | .dup3 => copiedFlag src.view fd (asksCloexec src.view 2)
    | .fcntl | .fcntl64 => controlledFlag src.view fd
    | .pipe => pairedFlag src 0 fd false
    | .pipe2 => pairedFlag src 0 fd (asksCloexec src.view 1)
    | .socketpair => pairedFlag src 3 fd (asksCloexec src.view 1)
    | .closeRange => rangeFlag src.view fd
    | _ => none

/-- Flags after an event of a process. -/
def flagsAfterEvent (flags : Flags) (update : FDStateUpdate) : Flags := fun key =>
  if key.1≠update.targetPID then flags key
  else
    match key.2 with
    | .cwd => flags key
    | .fd n => (eventFlag update.source update.name n).getD (flags key)

/-- Flags after an operation. A child has the flags of its parent, and an exec closes what is
flagged. -/
def flagsAfter (flags : Flags) : FDStateOp → Flags
  | .applyFDState update => flagsAfterEvent flags update
  | .applyFDOffsets _ _ _ => flags
  | .cleanupClosedFD view name pid => fun key =>
    if view.valid=true ∧ name=.close ∧ view.ret=0 ∧ key=(pid,.fd (fdArg view.args[0])) then none
    else flags key
  | .inheritProcessState parentPID childPID => fun key =>
    if 0 < parentPID ∧ 0 < childPID ∧ key.1=childPID then flags (parentPID,key.2) else flags key
  | .cleanupProcess pid => fun key => if key.1=pid then none else flags key
  | .closeOnExecProcess pid => fun key =>
    if key.1=pid then (flags key).filter (!·) else flags key
  | .taintHistory => flags

/-- Flags after a run: what the last event that determines each of them says. -/
def lastFlags (ops : List FDStateOp) : Flags := ops.foldl flagsAfter fun _ => none

/-- What every caller ensures: the name of an event is the table's name of its number. -/
def Named (tables : SyscallTables) : FDStateOp → Prop
  | .applyFDState update => update.name=syscallName (tables.name update.source.view.sysID)
  | .cleanupClosedFD view name _ => name=syscallName (tables.name view.sysID)
  | _ => True

/-- An operation leaves no bit of a previous owner behind: a new socket has the flag already
recorded for its number, if any, and a child has no bits its parent does not have. -/
def LeavesNoBit (st : FDStateStore) : FDStateOp → Prop
  | .applyFDState update => update.name=.socket → update.source.view.valid=true →
    0 ≤ update.source.view.ret → ∀ enabled,
    st.fdCloexec.lookup (slotKey update.targetPID (.fd (fdRet update.source.view)))=some enabled →
      enabled=asksCloexec update.source.view 1
  | .inheritProcessState parentPID childPID => ∀ slot,
    st.fdCloexec.lookup (slotKey childPID slot)≠none →
      st.fdCloexec.lookup (slotKey parentPID slot)≠none
  | _ => True

/-- No operation of a run leaves a bit of a previous owner behind. -/
def LeavesNoBits (tables : SyscallTables) : FDStateStore → List (FDStateOp×LoopOrders) → Prop
  | _,[] => True
  | st,op::ops => LeavesNoBit st op.1 ∧ LeavesNoBits tables (st.perform tables op.1 op.2) ops

section Bits

variable {src : FDStateSource} {name : SyscallName} {pid : ℤ} {n : Int32} {f : FDKey → Option Bool}

/-- The code reads the flag from the low half of an argument. -/
theorem cloexecArg_eq_asksCloexec (view : SyscallEventView) (argIndex : Fin 6) :
    cloexecArg view argIndex=asksCloexec view argIndex := by
  have hmask : ∀ x : UInt64, x.toUInt32.toUInt64 &&& 0x80000=x &&& 0x80000 := by
    intro x
    apply UInt64.toNat_inj.mp
    rw [UInt64.toNat_and,UInt64.toNat_and,UInt32.toNat_toUInt64,UInt64.toNat_toUInt32,
      ←Nat.and_two_pow_sub_one_eq_mod,Nat.and_assoc]
    rfl
  unfold cloexecArg asksCloexec oCloexec
  rw [hmask]

/-- Reading a descriptor after its bit or another one is replaced. -/
theorem writeAll_replaceFDCloexec (hpid : 0 < pid) (hn : 0 ≤ n) (fd : Int32)
    (state : Option Bool) :
    writeAll (Prod.mk pid) f (replaceFDCloexec pid fd state) (pid,.fd n)=
      if n=fd then state else f (pid,.fd n) := by
  unfold replaceFDCloexec
  split_ifs with hguard heq heq
  · subst heq
    exact absurd hguard (by simp [Int32.not_lt.mpr hn,hpid])
  · rfl
  · subst heq
    simp [writeAll]
  · simp [writeAll,heq]

/-- A bit is written at a descriptor of a process only. -/
theorem writeAll_cloexec_slot {key : FDKey} {enabled : Bool}
    (h : writeAll (Prod.mk pid) f (updateFDCloexecFromSource src name pid) key=some enabled) :
    f key=some enabled ∨ 0 < key.1 ∧ ∃ n, key.2=.fd n ∧ 0 ≤ n := by
  have hreplace : ∀ fd state, ∀ w∈replaceFDCloexec pid fd state,
      0 < pid ∧ ∃ n, w.address=.fd n ∧ 0 ≤ n := by
    intro fd state w hw
    unfold replaceFDCloexec at hw
    split_ifs at hw with hguard
    · simp at hw
    · obtain rfl := List.mem_singleton.mp hw
      rw [not_or,not_le,Int32.not_lt] at hguard
      exact ⟨hguard.1,fd,rfl,hguard.2⟩
  have hwrites : ∀ w∈updateFDCloexecFromSource src name pid,
      0 < pid ∧ ∃ n, w.address=.fd n ∧ 0 ≤ n := by
    intro w hw
    unfold updateFDCloexecFromSource updateFcntlFDCloexec updateDuplicatedFDCloexec
      updateArrayFDCloexec at hw
    repeat' split at hw
    all_goals first
      | exact hreplace _ _ w hw
      | exact absurd hw List.not_mem_nil
      | rcases List.mem_append.mp hw with hw | hw <;> exact hreplace _ _ w hw
  by_cases htouched : ∃ w∈updateFDCloexecFromSource src name pid, (pid,w.address)=key
  · obtain ⟨w,hw,rfl⟩ := htouched
    exact Or.inr (hwrites w hw)
  · rw [writeAll_of_ne fun w hw hkey => htouched ⟨w,hw,hkey⟩] at h
    exact Or.inl h

/-- A record after an event is known only as the event says, or as before where it says nothing. -/
def Follows (before after : Option Bool) (flag : Option (Option Bool)) : Prop :=
  ∀ enabled, after=some enabled → flag=some (some enabled) ∨ flag=none ∧ before=some enabled

theorem follows_refl (before : Option Bool) : Follows before before none :=
  fun _ h => Or.inr ⟨rfl,h⟩

/-- The bit of a returned descriptor is what the call says, or forgotten. -/
theorem follows_returned (hpid : 0 < pid) (hn : 0 ≤ n) {state flag : Option Bool}
    (hstate : state=none ∨ state=flag) :
    Follows (f (pid,.fd n))
      (writeAll (Prod.mk pid) f (replaceFDCloexec pid (fdRet src.view) state) (pid,.fd n))
      (returnedFlag src.view n flag) := by
  intro enabled h
  rw [writeAll_replaceFDCloexec hpid hn] at h
  unfold returnedFlag
  split_ifs at h ⊢ with hret
  · rcases hstate with rfl | rfl
    · exact absurd h.symm (Option.some_ne_none enabled)
    · exact Or.inl (congrArg some h)
  · exact Or.inr ⟨rfl,h⟩

/-- The bit of a copy is what the call says. -/
theorem follows_copied (hpid : 0 < pid) (hn : 0 ≤ n)
    (hvalid : ¬(src.view.valid=false ∨ src.view.ret < 0))
    (hname : (isDuplicatedFDStateSyscall name ||
      isFcntlFDStateSyscall name && isFcntlFDStateCommand src.view.args)=true) {flag : Bool}
    (hflag : duplicatedFDCloexecState src.view name=some flag) :
    Follows (f (pid,.fd n))
      (writeAll (Prod.mk pid) f (updateDuplicatedFDCloexec name src.view pid) (pid,.fd n))
      (copiedFlag src.view n flag) := by
  intro enabled h
  unfold updateDuplicatedFDCloexec duplicatedFDsFromView at h
  rw [if_neg hvalid,if_pos hname] at h
  unfold copiedFlag
  dsimp only at h
  split_ifs at h with hsame
  · rw [if_neg]
    · exact Or.inr ⟨rfl,h⟩
    · rintro ⟨rfl,hne⟩
      exact hne hsame
  · rw [hflag,writeAll_replaceFDCloexec hpid hn] at h
    split_ifs at h with hret
    · subst hret
      rw [if_pos ⟨rfl,hsame⟩]
      exact Or.inl (congrArg some h)
    · rw [if_neg fun hcopy => hret hcopy.1]
      exact Or.inr ⟨rfl,h⟩

/-- The bits of a pair are what the call says. -/
theorem follows_paired (hpid : 0 < pid) (hn : 0 ≤ n) :
    Follows (f (pid,.fd n))
      (writeAll (Prod.mk pid) f (updateArrayFDCloexec src name pid) (pid,.fd n))
      (pairedFlag src (fdArrayArgIndex name) n (arrayFDCloexecEnabled src.view name)) := by
  intro enabled h
  unfold updateArrayFDCloexec at h
  unfold pairedFlag
  cases hpair : fdArrayPayloadData src.payloadSections (fdArrayArgIndex name) with
  | none =>
    rw [hpair] at h
    exact Or.inr ⟨rfl,h⟩
  | some pair =>
    rw [hpair] at h
    dsimp only at h ⊢
    unfold writeAll at h
    rw [List.foldl_append] at h
    change writeAll (Prod.mk pid) (writeAll (Prod.mk pid) f _) _ _=_ at h
    rw [writeAll_replaceFDCloexec hpid hn,writeAll_replaceFDCloexec hpid hn] at h
    split_ifs at h with hsecond hfirst
    · rw [if_pos (Or.inr hsecond)]
      exact Or.inl (congrArg some h)
    · rw [if_pos (Or.inl hfirst)]
      exact Or.inl (congrArg some h)
    · rw [if_neg (not_or.mpr ⟨hfirst,hsecond⟩)]
      exact Or.inr ⟨rfl,h⟩

/-- The bit after a descriptor control is what the call says. -/
theorem follows_controlled (hpid : 0 < pid) (hn : 0 ≤ n)
    (hvalid : ¬(src.view.valid=false ∨ src.view.ret < 0))
    (hname : isFcntlFDStateSyscall name=true) :
    Follows (f (pid,.fd n))
      (writeAll (Prod.mk pid) f (updateFcntlFDCloexec name src.view pid) (pid,.fd n))
      (controlledFlag src.view n) := by
  have hnames : name=.fcntl ∨ name=.fcntl64 := by
    cases name <;> simp_all [isFcntlFDStateSyscall]
  unfold updateFcntlFDCloexec controlledFlag
  by_cases hdup : src.view.args[1].toUInt32=0
  · rw [if_neg (by simp [hdup]),if_pos hdup]
    refine follows_copied hpid hn hvalid (by simp [hname,isFcntlFDStateCommand,hdup]) ?_
    rcases hnames with rfl | rfl <;> simp [duplicatedFDCloexecState,hdup]
  · by_cases hcloexec : src.view.args[1].toUInt32=1030
    · rw [if_neg (by simp [hcloexec]),if_neg hdup,if_pos hcloexec]
      refine follows_copied hpid hn hvalid (by simp [hname,isFcntlFDStateCommand,hcloexec]) ?_
      rcases hnames with rfl | rfl <;> simp [duplicatedFDCloexecState,hcloexec]
    · rw [if_neg hdup,if_neg hcloexec]
      by_cases hset : src.view.args[1].toUInt32=2 ∧ src.view.ret=0
      · rw [if_pos hset]
        intro enabled h
        rw [writeAll_replaceFDCloexec hpid hn] at h
        split_ifs at h with hfd
        · rw [if_pos ⟨hset.1,hset.2,hfd⟩]
          exact Or.inl (congrArg some h)
        · rw [if_neg fun hthree => hfd hthree.2.2]
          exact Or.inr ⟨rfl,h⟩
      · rw [if_neg hset,if_neg fun hthree => hset ⟨hthree.1,hthree.2.1⟩]
        have hnone : updateDuplicatedFDCloexec name src.view pid=[] := by
          unfold updateDuplicatedFDCloexec duplicatedFDsFromView
          rcases hnames with rfl | rfl <;>
            simp [isDuplicatedFDStateSyscall,isFcntlFDStateCommand,hdup,hcloexec]
        rw [hnone]
        exact follows_refl _

/-- The bit of an anonymous descriptor is what the call says, or forgotten without a snapshot. -/
theorem follows_creator (hpid : 0 < pid) (hn : 0 ≤ n)
    (hvalid : ¬(src.view.valid=false ∨ src.view.ret < 0))
    {policy : FDStateSource → FDCreatorState} (hpolicy : fdCreatorPolicyFor name=some policy) :
    Follows (f (pid,.fd n))
      (writeAll (Prod.mk pid) f (updateFDCloexecFromSource src name pid) (pid,.fd n))
      ((policy src).cloexec.bind fun flag => returnedFlag src.view n (some flag)) := by
  unfold updateFDCloexecFromSource
  rw [if_neg hvalid,hpolicy]
  dsimp only
  split_ifs with hsnapshot
  · cases (policy src).cloexec with
    | none =>
      intro enabled h
      rw [writeAll_replaceFDCloexec hpid hn] at h
      split_ifs at h
      exact Or.inr ⟨rfl,h⟩
    | some flag => exact follows_returned hpid hn (Or.inl rfl)
  · cases (policy src).cloexec with
    | none => exact follows_refl _
    | some flag => exact follows_returned hpid hn (Or.inr rfl)

/-- What an event other than a socket or a range call leaves of a bit is what the event says. -/
theorem follows_event (hpid : 0 < pid) (hn : 0 ≤ n) (hsocket : name≠.socket)
    (hrange : name≠.closeRange) :
    Follows (f (pid,.fd n))
      (writeAll (Prod.mk pid) f (updateFDCloexecFromSource src name pid) (pid,.fd n))
      (eventFlag src name n) := by
  by_cases hvalid : src.view.valid=false ∨ src.view.ret < 0
  · unfold updateFDCloexecFromSource eventFlag
    rw [if_pos hvalid,if_pos hvalid]
    exact follows_refl _
  · cases hpolicy : fdCreatorPolicyFor name with
    | some policy =>
      have hcreator := follows_creator hpid hn hvalid hpolicy (f := f)
      refine Eq.mp (congrArg _ ?_) hcreator
      unfold eventFlag
      rw [if_neg hvalid]
      cases name <;> simp only [fdCreatorPolicyFor,reduceCtorEq,Option.some.injEq] at hpolicy <;>
        subst hpolicy <;>
        simp only [signalfdPolicy,simpleFDCreatorPolicy,pidfdCreatorPolicy,
          cloexecArg_eq_asksCloexec,Option.bind_some] <;>
        by_cases hnew : fdArg src.view.args[0]=-1 <;> simp [hnew]
    | none =>
      unfold updateFDCloexecFromSource eventFlag
      rw [if_neg hvalid,if_neg hvalid,hpolicy]
      cases name <;> simp only [fdCreatorPolicyFor,reduceCtorEq,ne_eq,not_true,
        not_false_iff] at hpolicy hsocket hrange
      case «open» | openat | openat2 | openTree | creat =>
        exact follows_returned hpid hn (Or.inr rfl)
      case dup | dup2 | dup3 => exact follows_copied hpid hn hvalid rfl rfl
      case fcntl | fcntl64 => exact follows_controlled hpid hn hvalid rfl
      case pipe | pipe2 | socketpair => exact follows_paired hpid hn
      all_goals exact follows_refl _

end Bits

/-- What is recorded of the flags is what the reference says. -/
structure Proven (t : DescriptorTable) (flags : Flags) : Prop where
  /-- After a loss nothing is recorded. -/
  lost : t.tainted=true → ∀ key, t.fdCloexec key=none
  /-- Bits belong to descriptors of processes. -/
  slot : ∀ key enabled, t.fdCloexec key=some enabled → 0 < key.1 ∧ ∃ n, key.2=.fd n ∧ 0 ≤ n
  /-- A recorded bit is the flag. -/
  flag : ∀ key enabled, t.fdCloexec key=some enabled → flags key=some enabled

section Steps

variable {tables : SyscallTables} {t : DescriptorTable} {flags : Flags}

/-- Bits that stay as they are keep to flags that stay as they are. -/
theorem Proven.of_le (h : Proven t flags) {u : DescriptorTable} {flags' : Flags}
    (hlost : u.tainted=true → ∀ key, u.fdCloexec key=none)
    (hle : ∀ key enabled, u.fdCloexec key=some enabled →
      t.fdCloexec key=some enabled ∧ (flags key=some enabled → flags' key=some enabled)) :
    Proven u flags' where
  lost := hlost
  slot key enabled hbit := h.slot key enabled (hle key enabled hbit).1
  flag key enabled hbit :=
    (hle key enabled hbit).2 (h.flag key enabled (hle key enabled hbit).1)

/-- Without sections, a call that does not change descriptors determines no flag. -/
theorem eventFlag_of_traits {src : FDStateSource} {name : SyscallName} {n : Int32}
    (hsections : src.payloadSections=[])
    (h : (syscallEventTraitsForName name).stateIo=true ∨
      (syscallEventTraitsForName name).state=false) : eventFlag src name n=none := by
  have hpair : ∀ argIndex flag, pairedFlag src argIndex n flag=none := by
    intro argIndex flag
    simp [pairedFlag,hsections,fdArrayPayloadData]
  unfold eventFlag
  by_cases hvalid : src.view.valid=false ∨ src.view.ret < 0
  · rw [if_pos hvalid]
  · rw [if_neg hvalid]
    cases name
    case pipe | pipe2 | socketpair => exact hpair _ _
    case bind | getsockname | close | chdir | fchdir | read | write | pwrite64 | lseek | other =>
      rfl
    all_goals exact absurd h (by decide)

/-- A call that determines a flag is recorded. -/
theorem applies_of_eventFlag {update : FDStateUpdate} {n : Int32}
    (hname : update.name=syscallName (tables.name update.source.view.sysID))
    (h : eventFlag update.source update.name n≠none) :
    shouldApplyFDStateEvent tables update.source.view update.name
      update.source.payloadSections=true := by
  have hvalid : update.source.view.valid≠false := fun hvalid => h (if_pos (Or.inl hvalid))
  unfold shouldApplyFDStateEvent
  rw [syscallEventTraitsForView_eq hname]
  split_ifs with hsections hio
  · rfl
  · exact absurd (eventFlag_of_traits (not_not.mp hsections) (Or.inl hio)) h
  · by_contra hstate
    exact h (eventFlag_of_traits (not_not.mp hsections) (Or.inr (by simpa using hstate)))

/-- What a range call of a process leaves of a bit is what the call says. -/
theorem follows_range {view : SyscallEventView} {pid : ℤ} {n : Int32} (hpid : 0 < pid)
    (hvalid : view.valid=true) :
    Follows (t.fdCloexec (pid,.fd n)) ((t.updateCloseRangeState view pid).fdCloexec (pid,.fd n))
      (rangeFlag view n) := by
  have hin : inRange pid view.args[0].toUInt32 view.args[1].toUInt32 (pid,.fd n)=true ↔
      fdInRange view.args[0].toUInt32 view.args[1].toUInt32 n := by
    rw [inRange_iff]
    constructor
    · rintro ⟨fd,heq,hfd⟩
      obtain rfl := FDSlot.fd.inj (Prod.mk.inj heq).2
      exact hfd
    · exact fun hfd => ⟨n,rfl,hfd⟩
  intro enabled h
  unfold rangeFlag
  unfold DescriptorTable.updateCloseRangeState at h
  by_cases hguard : view.eventType=.exit ∧ view.ret=0 ∧ view.probeRetEnter≠3 ∧
      view.args[0].toUInt32 ≤ view.args[1].toUInt32 ∧ view.args[2].toUInt32 &&& ~~~6=0 ∧
      fdInRange view.args[0].toUInt32 view.args[1].toUInt32 n
  · rw [if_pos hguard]
    obtain ⟨hexit,hret,hprobe,hrange,hflags,hfd⟩ := hguard
    have hcloses := IsCloseRange.closesRange ⟨hvalid,hexit,hret,hprobe,hrange,hflags⟩ hpid
    rw [if_neg (by simp [hcloses])] at h
    left
    by_cases hcloexec : view.args[2].toUInt32 &&& 4≠0
    · rw [if_pos hcloexec] at h ⊢
      by_cases hknown : t.known (pid,.fd n)=true
      · rw [←h]
        simp [DescriptorTable.markRange,hin.mpr hfd,hknown]
      · have hbit : t.fdCloexec (pid,.fd n)=some enabled := by
          simpa [DescriptorTable.markRange,hknown] using h
        simp [DescriptorTable.known,hbit] at hknown
    · rw [if_neg hcloexec] at h ⊢
      simp [DescriptorTable.removeRange,dropWhere_const,hin.mpr hfd] at h
  · rw [if_neg hguard]
    right
    refine ⟨rfl,?_⟩
    split_ifs at h with hcloses hcloexec
    · exact h
    all_goals
      have hout : inRange pid view.args[0].toUInt32 view.args[1].toUInt32 (pid,.fd n)=false := by
        by_contra hinside
        have hview := (isCloseRange_of_closesRange (by simpa using hcloses)).1
        exact hguard ⟨hview.exit,hview.ret,hview.probe,hview.range,hview.flags,
          hin.mp (by simpa using hinside)⟩
    · simpa [DescriptorTable.markRange,hout] using h
    · simpa [DescriptorTable.removeRange,dropWhere_const,hout] using h

/-- What is recorded before a range call is looked at. -/
theorem fdCloexec_recordFDState_closeRange {update : FDStateUpdate}
    (hname : update.name=.closeRange) : (t.recordFDState update).fdCloexec=t.fdCloexec := by
  unfold DescriptorTable.recordFDState
  dsimp only
  have hwrites : updateFDCloexecFromSource update.source update.name update.targetPID=[] := by
    simp [updateFDCloexecFromSource,hname,fdCreatorPolicyFor,isOpenedPathFDStateSyscall,
      isDuplicatedFDStateSyscall,isFcntlFDStateSyscall,isFDArrayFDStateSyscall]
  rw [hwrites]
  rfl

/-- A bit after an event belongs to a descriptor of a process, if it did not exist before. -/
theorem slot_applyFDState {update : FDStateUpdate} {key : FDKey} {enabled : Bool}
    (h : (t.applyFDState tables update).fdCloexec key=some enabled) :
    t.fdCloexec key=some enabled ∨ 0 < key.1 ∧ ∃ n, key.2=.fd n ∧ 0 ≤ n := by
  unfold DescriptorTable.applyFDState at h
  split_ifs at h with hskip hname
  · exact Or.inl h
  · have hrecord := fdCloexec_recordFDState_closeRange (t := t) hname
    unfold DescriptorTable.updateCloseRangeState at h
    split_ifs at h with hcloses hcloexec
    · exact Or.inl (hrecord ▸ h)
    · have hpid := (isCloseRange_of_closesRange (by simpa using hcloses)).2
      simp only [DescriptorTable.markRange,hrecord] at h
      split_ifs at h with hmarked
      · obtain ⟨n,rfl,hn,-⟩ := inRange_iff.mp hmarked.1
        exact Or.inr ⟨hpid,n,rfl,by simpa [Int32.le_iff_toInt_le] using hn⟩
      · exact Or.inl h
    · simp only [DescriptorTable.removeRange,hrecord,dropWhere_const] at h
      split_ifs at h
      exact Or.inl h
  · exact writeAll_cloexec_slot h

/-- What an event leaves of a bit is what the event says. -/
theorem follows_applyFDState {update : FDStateUpdate} {n : Int32}
    (hlost : t.tainted=true → ∀ key, t.fdCloexec key=none) (hpid : 0 < update.targetPID)
    (hn : 0 ≤ n) (hnamed : update.name=syscallName (tables.name update.source.view.sysID))
    (hsocket : update.name=.socket → update.source.view.valid=true →
      0 ≤ update.source.view.ret → ∀ enabled,
      t.fdCloexec (update.targetPID,.fd (fdRet update.source.view))=some enabled →
        enabled=asksCloexec update.source.view 1) :
    Follows (t.fdCloexec (update.targetPID,.fd n))
      ((t.applyFDState tables update).fdCloexec (update.targetPID,.fd n))
      (eventFlag update.source update.name n) := by
  intro enabled h
  unfold DescriptorTable.applyFDState at h
  split_ifs at h with hskip hname
  · rcases hskip with htainted | hnot
    · rw [hlost htainted] at h
      exact absurd h.symm (Option.some_ne_none enabled)
    · right
      refine ⟨?_,h⟩
      by_contra hflag
      rw [applies_of_eventFlag hnamed hflag] at hnot
      exact Bool.noConfusion hnot
  · rw [hname]
    unfold eventFlag
    have hrecord := fdCloexec_recordFDState_closeRange (t := t) hname
    by_cases hvalid : update.source.view.valid=false ∨ update.source.view.ret < 0
    · rw [if_pos hvalid]
      refine Or.inr ⟨rfl,?_⟩
      have hcloses : FDStateStore.closesRange update.source.view update.targetPID=false := by
        rw [Bool.eq_false_iff]
        intro hcloses
        have hview := (isCloseRange_of_closesRange hcloses).1
        rw [hview.valid,hview.ret] at hvalid
        exact absurd hvalid (by decide)
      unfold DescriptorTable.updateCloseRangeState at h
      rw [if_pos hcloses,hrecord] at h
      exact h
    · rw [if_neg hvalid]
      have hfollows := follows_range hpid (by simpa using (not_or.mp hvalid).1) enabled h
      rw [hrecord] at hfollows
      exact hfollows
  · by_cases hsock : update.name=.socket
    · have hwrites : updateFDCloexecFromSource update.source update.name update.targetPID=[] := by
        simp [updateFDCloexecFromSource,hsock,fdCreatorPolicyFor,isOpenedPathFDStateSyscall,
          isDuplicatedFDStateSyscall,isFcntlFDStateSyscall,isFDArrayFDStateSyscall]
      have hbit : t.fdCloexec (update.targetPID,.fd n)=some enabled := by
        unfold DescriptorTable.recordFDState at h
        dsimp only at h
        rw [hwrites] at h
        exact h
      rw [hsock]
      unfold eventFlag
      by_cases hvalid : update.source.view.valid=false ∨ update.source.view.ret < 0
      · rw [if_pos hvalid]
        exact Or.inr ⟨rfl,hbit⟩
      · rw [if_neg hvalid]
        obtain ⟨hvalid,hret⟩ := not_or.mp hvalid
        dsimp only
        unfold returnedFlag
        by_cases hreturned : n=fdRet update.source.view
        · subst hreturned
          rw [if_pos rfl,hsocket hsock (by simpa using hvalid) (Int64.not_lt.mp hret) enabled hbit]
          exact Or.inl rfl
        · rw [if_neg hreturned]
          exact Or.inr ⟨rfl,hbit⟩
    · exact follows_event hpid hn hsock hname enabled h

/-- An event keeps the bits to the flags. -/
theorem Proven.applyFDState (h : Proven t flags) {update : FDStateUpdate}
    (hnamed : update.name=syscallName (tables.name update.source.view.sysID))
    (hsocket : update.name=.socket → update.source.view.valid=true →
      0 ≤ update.source.view.ret → ∀ enabled,
      t.fdCloexec (update.targetPID,.fd (fdRet update.source.view))=some enabled →
        enabled=asksCloexec update.source.view 1) :
    Proven (t.applyFDState tables update) (flagsAfterEvent flags update) := by
  have hslot : ∀ key enabled, (t.applyFDState tables update).fdCloexec key=some enabled →
      0 < key.1 ∧ ∃ n, key.2=.fd n ∧ 0 ≤ n := by
    intro key enabled hbit
    rcases slot_applyFDState hbit with hbefore | hnew
    · exact h.slot key enabled hbefore
    · exact hnew
  refine ⟨?_,hslot,?_⟩
  · intro htainted key
    have hbefore : t.tainted=true := by
      unfold DescriptorTable.applyFDState at htainted
      split_ifs at htainted with hskip hname
      · exact htainted
      · rw [updateCloseRangeState_table_tainted] at htainted
        exact htainted
      · exact htainted
    unfold DescriptorTable.applyFDState
    rw [if_pos (Or.inl hbefore),h.lost hbefore]
  · intro key enabled hbit
    obtain ⟨hpid,n,hn,hpositive⟩ := hslot key enabled hbit
    unfold flagsAfterEvent
    split_ifs with hother
    · have hframe : ((t.perform tables (.applyFDState update)).entry key)=t.entry key :=
        entry_perform_of_ne fun hsame => hother hsame.symm
      exact h.flag key enabled ((congrArg FDEntry.cloexec hframe).symm.trans hbit)
    · obtain ⟨owner,slot⟩ := key
      obtain rfl : owner=update.targetPID := not_not.mp hother
      obtain rfl : slot=.fd n := hn
      have hfollows := follows_applyFDState h.lost hpid hpositive hnamed hsocket enabled hbit
      rcases hfollows with hflag | ⟨hnone,hbefore⟩
      · simp [hflag]
      · simpa [hnone] using h.flag _ enabled hbefore

/-- Closing a descriptor keeps the bits to the flags. -/
theorem Proven.cleanupClosedFD (h : Proven t flags) {view : SyscallEventView} {name : SyscallName}
    {pid : ℤ} (hname : name=syscallName (tables.name view.sysID)) :
    Proven (t.cleanupClosedFD tables view name pid)
      (flagsAfter flags (.cleanupClosedFD view name pid)) := by
  have htraits : syscallEventTraitsForView tables view name=syscallEventTraitsForName name := by
    unfold syscallEventTraitsForView syscallEventTraitsByID
    rw [←hname]
    split_ifs <;> rfl
  have hcleanup : shouldCleanupClosedFDEvent tables view name=
      (view.valid && name==.close && view.ret==0) := by
    unfold shouldCleanupClosedFDEvent
    rw [htraits]
    rfl
  unfold DescriptorTable.cleanupClosedFD flagsAfter
  rw [hcleanup]
  by_cases hclose : view.valid=true ∧ name=.close ∧ view.ret=0
  · obtain ⟨hvalid,hclosed,hret⟩ := hclose
    rw [if_neg (by simp [hvalid,hclosed,hret])]
    have hwrite : ∀ key, writeAll (Prod.mk pid) t.fdCloexec [forget (fdArg view.args[0])] key=
        if key=(pid,.fd (fdArg view.args[0])) then none else t.fdCloexec key := by
      intro key
      by_cases hkey : key=(pid,.fd (fdArg view.args[0])) <;> simp [writeAll,forget,hkey]
    refine h.of_le ?_ ?_
    · intro htainted key
      dsimp only
      rw [if_pos hclosed,hwrite,h.lost htainted]
      split_ifs <;> rfl
    · intro key enabled hbit
      dsimp only at hbit
      rw [if_pos hclosed,hwrite] at hbit
      split_ifs at hbit with hkey
      refine ⟨hbit,fun hflag => ?_⟩
      dsimp only
      rw [if_neg fun hall => hkey hall.2.2.2]
      exact hflag
  · rw [if_pos (by simpa [and_assoc] using hclose)]
    refine h.of_le h.lost fun key enabled hbit => ⟨hbit,fun hflag => ?_⟩
    dsimp only
    rw [if_neg fun hall => hclose ⟨hall.1,hall.2.1,hall.2.2.1⟩]
    exact hflag

/-- A fork to a process without bits of its own keeps the bits to the flags. -/
theorem Proven.inheritProcessState (h : Proven t flags) {parentPID childPID : ℤ}
    (hsafe : ∀ slot, t.fdCloexec (childPID,slot)≠none → t.fdCloexec (parentPID,slot)≠none) :
    Proven (t.inheritProcessState parentPID childPID)
      (flagsAfter flags (.inheritProcessState parentPID childPID)) := by
  unfold DescriptorTable.inheritProcessState
  simp only [flagsAfter]
  split_ifs with hguard
  · refine h.of_le h.lost fun key enabled hbit => ⟨hbit,fun hflag => ?_⟩
    split_ifs with hfork
    · obtain ⟨hparent,hchild,hkey⟩ := hfork
      have hsame : parentPID=childPID := by omega
      rw [hsame,←hkey]
      exact hflag
    · exact hflag
  · obtain ⟨hparent,hchild,hne⟩ : 0 < parentPID ∧ 0 < childPID ∧ parentPID≠childPID := by omega
    have hbit : ∀ key enabled, inheritFrom parentPID childPID t.fdCloexec key=some enabled →
        if key.1=childPID then t.fdCloexec (parentPID,key.2)=some enabled
        else t.fdCloexec key=some enabled := by
      intro key enabled hbit
      unfold inheritFrom at hbit
      split_ifs at hbit ⊢ with hkey
      · cases hown : t.fdCloexec (parentPID,key.2) with
        | some bit =>
          rw [hown] at hbit
          exact hbit
        | none =>
          rw [hown,Option.none_or,show key=(childPID,key.2) from Prod.ext hkey rfl] at hbit
          exact absurd hown (hsafe key.2 (by rw [hbit]; exact Option.some_ne_none enabled))
      · exact hbit
    refine ⟨?_,?_,?_⟩
    · intro htainted key
      simp [inheritFrom,h.lost htainted]
    · intro key enabled hafter
      have hcase := hbit key enabled hafter
      split_ifs at hcase with hkey
      · exact ⟨by omega,(h.slot _ enabled hcase).2⟩
      · exact h.slot key enabled hcase
    · intro key enabled hafter
      have hcase := hbit key enabled hafter
      split_ifs at hcase with hkey
      · rw [if_pos ⟨hparent,hchild,hkey⟩]
        exact h.flag _ enabled hcase
      · rw [if_neg fun hfork => hkey hfork.2.2]
        exact h.flag key enabled hcase

/-- An exec keeps the bits to the flags. -/
theorem Proven.closeOnExecProcess (h : Proven t flags) (pid : ℤ) :
    Proven (t.closeOnExecProcess pid) (flagsAfter flags (.closeOnExecProcess pid)) := by
  unfold DescriptorTable.closeOnExecProcess
  simp only [flagsAfter]
  split_ifs with hpid
  · refine h.of_le h.lost fun key enabled hbit => ⟨hbit,fun hflag => ?_⟩
    have hpositive := (h.slot key enabled hbit).1
    rw [if_neg (by omega)]
    exact hflag
  · refine h.of_le ?_ ?_
    · intro htainted key
      simp [dropWhere,h.lost htainted]
    · intro key enabled hbit
      obtain ⟨hbefore,hkept⟩ := Option.filter_eq_some_iff.mp hbit
      refine ⟨hbefore,fun hflag => ?_⟩
      split_ifs with hkey
      · rw [hflag]
        simpa [hkey] using hkept
      · exact hflag

/-- Every operation keeps the bits to the flags. -/
theorem Proven.perform {st : FDStateStore} (h : Proven t flags) (hst : Represents st t)
    {op : FDStateOp} (hnamed : Named tables op) (hsafe : LeavesNoBit st op) :
    Proven (t.perform tables op) (flagsAfter flags op) := by
  have hbits : ∀ pid slot, st.fdCloexec.lookup (slotKey pid slot)=t.fdCloexec (pid,slot) :=
    fun pid slot => hst.fdCloexec.lookup (pid,slot)
  cases op with
  | applyFDState update =>
    apply h.applyFDState hnamed
    intro hname hvalid hret enabled hbit
    exact hsafe hname hvalid hret enabled ((hbits _ _).trans hbit)
  | applyFDOffsets view name pid =>
    have heq : (t.applyFDOffsets view name pid).fdCloexec=t.fdCloexec ∧
        (t.applyFDOffsets view name pid).tainted=t.tainted := by
      unfold DescriptorTable.applyFDOffsets
      split_ifs <;> exact ⟨rfl,rfl⟩
    change Proven (t.applyFDOffsets view name pid) flags
    refine h.of_le ?_ ?_
    · rw [heq.1,heq.2]
      exact h.lost
    · rw [heq.1]
      exact fun _ _ hbit => ⟨hbit,id⟩
  | cleanupClosedFD view name pid => exact h.cleanupClosedFD hnamed
  | inheritProcessState parentPID childPID =>
    apply h.inheritProcessState
    intro slot hchild
    rw [←hbits] at hchild ⊢
    exact hsafe slot hchild
  | cleanupProcess pid =>
    refine h.of_le ?_ ?_
    · intro htainted key
      simp [DescriptorTable.perform,DescriptorTable.cleanupProcess,dropWhere,h.lost htainted]
    · intro key enabled hbit
      simp only [DescriptorTable.perform,DescriptorTable.cleanupProcess,dropWhere_const] at hbit
      simp only [flagsAfter]
      split_ifs at hbit with hkey
      rw [if_neg (by simpa using hkey)]
      exact ⟨hbit,id⟩
  | closeOnExecProcess pid => exact h.closeOnExecProcess pid
  | taintHistory =>
    change Proven t.taintHistory flags
    unfold DescriptorTable.taintHistory
    split_ifs with htainted
    · exact h
    · exact ⟨fun _ _ => rfl,fun _ _ hbit => absurd hbit.symm (Option.some_ne_none _),
        fun _ _ hbit => absurd hbit.symm (Option.some_ne_none _)⟩

end Steps

section Runs

variable {tables : SyscallTables} {st : FDStateStore} {t : DescriptorTable} {flags : Flags}

/-- Every run that leaves no bits of previous owners behind keeps the bits to the flags. -/
theorem Proven.run (h : Proven t flags) (hst : Represents st t)
    {ops : List (FDStateOp×LoopOrders)} (hcovered : CoveredRun tables st ops)
    (hnamed : ∀ op∈ops, Named tables op.1) (hsafe : LeavesNoBits tables st ops) :
    Proven (t.run tables (ops.map Prod.fst)) ((ops.map Prod.fst).foldl flagsAfter flags) := by
  induction ops generalizing st t flags with
  | nil => exact h
  | cons op ops ih =>
    exact ih (h.perform hst (hnamed op List.mem_cons_self) hsafe.1) (hst.perform op.1 hcovered.1)
      hcovered.2 (fun other hother => hnamed other (List.mem_cons_of_mem op hother)) hsafe.2

/-- An exec keeps a descriptor exactly if its bit is known to be off. -/
theorem entry_closeOnExecProcess_fd {pid : ℤ} (hpid : 0 < pid) (n : Int32) :
    (t.closeOnExecProcess pid).entry (pid,.fd n)=
      if t.fdCloexec (pid,.fd n)=some false then t.entry (pid,.fd n) else {} := by
  unfold DescriptorTable.closeOnExecProcess
  rw [if_neg (by omega)]
  simp only [DescriptorTable.entry,dropWhere_const,DescriptorTable.closedByExec]
  cases hbit : t.fdCloexec (pid,.fd n) with
  | none => simp [dropWhere,hbit]
  | some enabled => cases enabled <;> simp [dropWhere,hbit]

/-- An exec keeps the working directory. -/
theorem entry_closeOnExecProcess_cwd {pid : ℤ} (hcwd : t.fdCloexec (pid,.cwd)=none) :
    (t.closeOnExecProcess pid).entry (pid,.cwd)=t.entry (pid,.cwd) := by
  unfold DescriptorTable.closeOnExecProcess
  split_ifs
  · rfl
  · simp only [DescriptorTable.entry,dropWhere_const,DescriptorTable.closedByExec]
    simp [dropWhere,hcwd]

/-- An exec leaves the other processes. -/
theorem entry_closeOnExecProcess_of_ne {pid : ℤ} {key : FDKey} (h : key.1≠pid) :
    (t.closeOnExecProcess pid).entry key=t.entry key := by
  have hframe : (t.perform ⟨fun _ => "",fun _ => false,fun _ => false⟩
      (.closeOnExecProcess pid)).entry key=t.entry key :=
    entry_perform_of_ne fun hsame => h hsame.symm
  exact hframe

/-- An exec keeps the image. -/
theorem represents_closeOnExecProcess (h : Represents st t) {orders : LoopOrders}
    (hcover : LoopsCover orders st) (pid : ℤ) :
    Represents (st.closeOnExecProcess orders pid) (t.closeOnExecProcess pid) := by
  have hcovered : Covered st (.closeOnExecProcess pid) orders := hcover
  have hperform : Represents
      (st.perform ⟨fun _ => "",fun _ => false,fun _ => false⟩ (.closeOnExecProcess pid) orders)
      (t.perform ⟨fun _ => "",fun _ => false,fun _ => false⟩ (.closeOnExecProcess pid)) :=
    h.perform _ hcovered
  exact hperform

/-- A second exec of the same process changes nothing. -/
theorem closeOnExecProcess_twice {pid : ℤ} (hpid : 0 < pid)
    (hcwd : t.fdCloexec (pid,.cwd)=none) :
    (t.closeOnExecProcess pid).closeOnExecProcess pid=t.closeOnExecProcess pid := by
  apply eq_of_entry
  · unfold DescriptorTable.closeOnExecProcess
    split_ifs <;> rfl
  · rintro ⟨owner,slot⟩
    by_cases howner : owner=pid
    · subst howner
      cases slot with
      | cwd =>
        have hcwd' : (t.closeOnExecProcess owner).fdCloexec (owner,.cwd)=none :=
          (congrArg FDEntry.cloexec (entry_closeOnExecProcess_cwd hcwd)).trans hcwd
        exact entry_closeOnExecProcess_cwd hcwd'
      | fd n =>
        have hentry := entry_closeOnExecProcess_fd (t := t) hpid n
        rw [entry_closeOnExecProcess_fd hpid n]
        have hbit := congrArg FDEntry.cloexec hentry
        change (t.closeOnExecProcess owner).fdCloexec (owner,.fd n)=_ at hbit
        rw [hbit,hentry]
        by_cases hoff : t.fdCloexec (owner,.fd n)=some false
        · rw [if_pos hoff]
          exact if_pos hoff
        · rw [if_neg hoff]
          exact if_neg (Option.some_ne_none false).symm
    · exact entry_closeOnExecProcess_of_ne howner

end Runs

section Samples

/-- Process 100 creates a close-on-exec socket. -/
def createdCloexecSocket (fd : Int64) : FDStateUpdate where
  source := {
    view := ({
      eventType := .exit
      pid := 100
      tid := 100
      sysID := 41
      ret := fd
      args := ⟨#[2,0x80001,0,0,0,0],rfl⟩} : TraceEventEnvelope).syscallView
    payloadSections := []}
  name := .socket
  targetPID := 100

/-- Process 100 opens a file as descriptor three and creates a close-on-exec socket. -/
def openAndSocket (fd : Int64) : List (FDStateOp×LoopOrders) :=
  [(.applyFDState openedFile,{}),(.applyFDState (createdCloexecSocket fd),{})]

theorem coveredRun_openAndSocket (fd : Int64) :
    CoveredRun sampleTables (newFDStateStoreFromSeed []) (openAndSocket fd) :=
  ⟨fun hname => absurd hname (by decide),fun hname => absurd hname (by simp [createdCloexecSocket]),
    trivial⟩

theorem named_openAndSocket (fd : Int64) :
    ∀ op∈openAndSocket fd, Named sampleTables op.1 := by
  intro op hop
  simp only [openAndSocket,List.mem_cons,List.not_mem_nil,or_false] at hop
  rcases hop with rfl | rfl
  · change SyscallName.«open»=syscallName (sampleTables.name 2)
    decide
  · change SyscallName.socket=syscallName (sampleTables.name 41)
    decide

/-- The descriptor of the file has a path after an exec, whatever the socket's number. -/
theorem path_after_exec {fd : Int64} (hfd : fd=3 ∨ fd=4) {orders : LoopOrders}
    (hcover : LoopsCover orders
      ((newFDStateStoreFromSeed []).run sampleTables (openAndSocket fd))) :
    (storeEntry (((newFDStateStoreFromSeed []).run sampleTables
      (openAndSocket fd)).closeOnExecProcess orders 100) (100,.fd 3)).path≠none := by
  have hrep := (represents_newFDStateStoreFromSeed []).run (coveredRun_openAndSocket fd)
  have hexec := storeEntry_of_represents (represents_closeOnExecProcess hrep hcover 100)
  rw [hexec,entry_closeOnExecProcess_fd (by decide)]
  rcases hfd with rfl | rfl <;> decide

end Samples

end StraceGo.FDStateExec

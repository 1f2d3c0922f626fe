import StraceGo.EventSyscallCorrelation
import Mathlib.Tactic.Abel

/-!
# Ownership in the correlation state

Every recycled cell has one holder: the free stack, a pending enter, a stored
exit, or an update that is still out. Under that invariant the pools are
invisible. The state then behaves as its contents: for every thread the open
enter and the stored exit, as plain values. Each operation is shown to keep the
invariant and to act on the contents by the plain operation of the same name.
-/

namespace StraceGo.EventSyscallOwnership

open EventEnvelope FiniteMaps ObjectPool EventPayloadStorage EventSyscallCorrelation

/-- An open enter as a value. -/
structure EnterValue extends SyscallEnterData where
  /-- Merged payload sections. -/
  sections : List PayloadSection
  deriving DecidableEq

/-- A stored exit as a value. -/
structure ExitValue where
  /-- The exit record. -/
  view : SyscallEventView
  /-- Its payload sections. -/
  sections : List PayloadSection
  deriving DecidableEq

/-- What the correlation state remembers, free of cells. -/
structure Contents where
  /-- Open enter of every thread. -/
  pending : UInt32 → Option EnterValue
  /-- Stored exit of every thread. -/
  exits : UInt32 → Option ExitValue
  /-- Rendered exec arguments by thread. -/
  pendingExecArgs : GoMap ℤ String
  /-- Names of suspended syscalls by thread. -/
  suspendedSyscalls : GoMap ℤ String

namespace Contents

variable (a : Contents)

/-- Replace the open enter of a thread. -/
def setPending (tid : UInt32) (v : Option EnterValue) : Contents :=
  {a with pending := Function.update a.pending tid v}

/-- Replace the stored exit of a thread. -/
def setExit (tid : UInt32) (v : Option ExitValue) : Contents :=
  {a with exits := Function.update a.exits tid v}

/-- Enter data opened by an enter record. -/
def openedValue (view : SyscallEventView) (payload : List PayloadSection) : EnterValue where
  toSyscallEnterData := TraceSyscallCorrelationState.enterData view
  sections := payload

/-- Enter data after another enter record of the same syscall. -/
def mergedValue (v : EnterValue) (view : SyscallEventView) (payload : List PayloadSection) :
    EnterValue where
  toSyscallEnterData :=
    TraceSyscallCorrelationState.mergedEnterData v.toSyscallEnterData view
  sections := mergeSections v.sections payload

/-- Whether a thread's open enter belongs to a record's syscall. -/
def sameSyscall (view : SyscallEventView) : Bool :=
  (a.pending view.tid).any (·.sysID==view.sysID)

/-- Open enter of a thread after an enter record. -/
def enteredValue (view : SyscallEventView) (payload : List PayloadSection) : EnterValue :=
  match a.pending view.tid with
  | none => openedValue view payload
  | some v => if v.sysID=view.sysID then mergedValue v view payload else openedValue view payload

/-- Remember an enter record. -/
def rememberEnterEvent (view : SyscallEventView) (payload : List PayloadSection) : Contents :=
  a.setPending view.tid (some (a.enteredValue view payload))

/-- Remember a partial record. -/
def rememberPayloadFragment (view : SyscallEventView) (payload : List PayloadSection) : Contents :=
  a.setPending view.tid ((a.pending view.tid).map fun v =>
    if v.sysID≠view.sysID then v else {v with sections := mergeSections v.sections payload})

/-- Stored exit that an enter record releases. -/
def takenExit (view : SyscallEventView) : Option ExitValue :=
  (a.exits view.tid).filter fun e => e.view.sysID==view.sysID && e.view.enterTime==view.enterTime

/-- Enter value an exit record consumes. -/
def consumedEnter (view : SyscallEventView) : Option EnterValue :=
  if view.isExit=false then none else (a.pending view.tid).filter (·.sysID==view.sysID)

/-- Forget the open enter of an exit record's thread. -/
def consumeEnterEvent (view : SyscallEventView) : Contents :=
  if view.isExit=false then a else a.setPending view.tid none

/-- Enter value made up from an exit record. -/
def synthesizedValue (view : SyscallEventView) : EnterValue where
  pid := view.pid
  tid := view.tid
  sysID := view.sysID
  enterTime := view.enterTime
  args := view.args
  probeRetEnter := -1
  genericEnterRaw := true
  unfinishedPrinted := false
  sections := []

/-- Note that the unfinished line of an open enter is out. -/
def markUnfinishedPrinted (tid : UInt32) : Contents :=
  a.setPending tid ((a.pending tid).map fun v => {v with unfinishedPrinted := true})

/-- Forget a thread. -/
def clearTask (tid : UInt32) : Contents where
  pending := Function.update a.pending tid none
  exits := Function.update a.exits tid none
  pendingExecArgs := a.pendingExecArgs.erase tid.toNat
  suspendedSyscalls := a.suspendedSyscalls.erase tid.toNat

end Contents

variable (c : TraceSyscallCorrelationState)

/-- Open enter of a thread as a value. -/
def pendingAt (tid : UInt32) : Option EnterValue :=
  (c.pendingSyscalls.lookup tid).map fun pending =>
    {toSyscallEnterData := pending.toSyscallEnterData
     sections := readSections c.payload pending.payloadSections}

/-- Stored exit of a thread as a value. -/
def exitAt (tid : UInt32) : Option ExitValue :=
  (c.pendingExits.lookup tid).map fun pending =>
    {view := pending.view, sections := readSections c.payload pending.payloadSections}

/-- A transferred snapshot as a value. -/
def snapshotAt (ref : Ref) : EnterValue where
  toSyscallEnterData := (c.snapshots.read ref).toSyscallEnterData
  sections := readSections c.payload (c.snapshots.read ref).payloadSections

/-- What the state remembers. -/
def contents : Contents where
  pending := pendingAt c
  exits := exitAt c
  pendingExecArgs := c.pendingExecArgs
  suspendedSyscalls := c.suspendedSyscalls

/-- Storages held by open enters. -/
def pendingHeld (t : Table UInt32 PendingSyscallState) : Multiset Ref :=
  t.sum fun pending => owned pending.payloadStorage

/-- Storages held by stored exits. -/
def exitsHeld (t : Table UInt32 PendingExitState) : Multiset Ref :=
  t.sum fun pending => owned pending.payloadStorage

/-- Storages held by the snapshots that are out. -/
def liveHeld (p : Pool PendingSyscallSnapshot) (live : Multiset Ref) : Multiset Ref :=
  (live.map fun ref => owned (p.read ref).payloadStorage).sum

/-- A slice shows all of its holder's storage. -/
def Shows (p : PayloadPool) (storage : Option Ref) (slice : Option PayloadSlice) : Prop :=
  slice=payloadSectionsFromStorage p storage

/-- Every cell has exactly one holder; `live` are the snapshots that are out, `loose` the
storages of exits that are out. -/
structure Owned (c : TraceSyscallCorrelationState) (live loose : Multiset Ref) : Prop where
  /-- Pending cells are free or under one thread. -/
  pending : c.pendingSyscalls.Balanced
  /-- Exit cells are free or under one thread. -/
  exits : c.pendingExits.Balanced
  /-- Snapshot cells are free or out. -/
  snapshots : c.snapshots.Balanced live
  /-- Storages are free or with one holder. -/
  payload : Sound c.payload (pendingHeld c.pendingSyscalls+
    (exitsHeld c.pendingExits+(liveHeld c.snapshots live+loose)))
  /-- Pending slices are current. -/
  pendingShows : ∀ tid pending, c.pendingSyscalls.lookup tid=some pending →
    Shows c.payload pending.payloadStorage pending.payloadSections
  /-- Exit slices are current. -/
  exitsShow : ∀ tid pending, c.pendingExits.lookup tid=some pending →
    Shows c.payload pending.payloadStorage pending.payloadSections
  /-- Snapshot slices are current. -/
  snapshotsShow : ∀ ref∈live,
    Shows c.payload (c.snapshots.read ref).payloadStorage (c.snapshots.read ref).payloadSections

theorem owned_empty : Owned {} 0 0 where
  pending := Table.balanced_empty
  exits := Table.balanced_empty
  snapshots := Pool.balanced_empty
  payload := sound_empty
  pendingShows := fun _ _ h => nomatch h
  exitsShow := fun _ _ h => nomatch h
  snapshotsShow := fun _ h => absurd h (Multiset.notMem_zero _)

/-- The state is properly owned, remembers `a`, and the snapshots that are out read as `out`. -/
structure Represents (c : TraceSyscallCorrelationState) (live loose : Multiset Ref)
    (out : Ref → EnterValue) (a : Contents) : Prop where
  /-- Every cell has one holder. -/
  isOwned : Owned c live loose
  /-- The remembered values. -/
  contents_eq : contents c=a
  /-- The values of the snapshots that are out. -/
  out_eq : ∀ ref∈live, snapshotAt c ref=out ref

section Frames

variable {c} {out : Ref → EnterValue} {a : Contents} {p q : PayloadPool}
  {held live loose : Multiset Ref} {storage : Option Ref}
  {slice : Option PayloadSlice} {tid : UInt32}

theorem Shows.readSections_eq (h : Shows p storage slice) :
    readSections p slice=storedSections p storage := by
  rw [h,readSections_payloadSectionsFromStorage]

/-- A slice stays current while its storage is left alone. -/
theorem Shows.of_agrees (h : Shows p storage slice) (hagrees : Agrees p q held)
    (hsub : owned storage ⊆ held) : Shows q storage slice := by
  unfold Shows at *
  rw [h,hagrees.payloadSectionsFromStorage hsub]

/-- A slice shows the same sections while its storage is left alone. -/
theorem Shows.readSections_of_agrees (h : Shows p storage slice) (hagrees : Agrees p q held)
    (hsub : owned storage ⊆ held) : readSections q slice=readSections p slice := by
  rw [h.readSections_eq,(h.of_agrees hagrees hsub).readSections_eq,hagrees.storedSections hsub]

theorem owned_subset_pendingHeld {t : Table UInt32 PendingSyscallState}
    {pending : PendingSyscallState} (h : t.lookup tid=some pending) :
    owned pending.payloadStorage ⊆ pendingHeld t :=
  fun _ hmem => Table.mem_sum.mpr ⟨tid,pending,h,hmem⟩

theorem owned_subset_exitsHeld {t : Table UInt32 PendingExitState} {pending : PendingExitState}
    (h : t.lookup tid=some pending) : owned pending.payloadStorage ⊆ exitsHeld t :=
  fun _ hmem => Table.mem_sum.mpr ⟨tid,pending,h,hmem⟩

theorem owned_subset_liveHeld {snapshots : Pool PendingSyscallSnapshot} {ref : Ref}
    (h : ref∈live) : owned (snapshots.read ref).payloadStorage ⊆ liveHeld snapshots live := by
  intro other hmem
  unfold liveHeld
  obtain ⟨rest,rfl⟩ := Multiset.exists_cons_of_mem h
  rw [Multiset.map_cons,Multiset.sum_cons]
  exact Multiset.mem_add.mpr (.inl hmem)

/-- The value of a pending enter, read in a payload pool. -/
def enterValue (p : PayloadPool) (pending : PendingSyscallState) : EnterValue where
  toSyscallEnterData := pending.toSyscallEnterData
  sections := readSections p pending.payloadSections

/-- Storages held by a pending enter that may be absent. -/
def optionHeld (pending : Option PendingSyscallState) : Multiset Ref :=
  match pending with
  | none => 0
  | some pending => owned pending.payloadStorage

/-- An open enter keeps its value while its storage is left alone. -/
theorem pendingAt_of_agrees {d : TraceSyscallCorrelationState}
    (hlookup : d.pendingSyscalls.lookup tid=c.pendingSyscalls.lookup tid)
    (hagrees : Agrees c.payload d.payload held)
    (hshows : ∀ pending, c.pendingSyscalls.lookup tid=some pending →
      Shows c.payload pending.payloadStorage pending.payloadSections ∧
        owned pending.payloadStorage ⊆ held) :
    pendingAt d tid=pendingAt c tid := by
  unfold pendingAt
  rw [hlookup]
  cases htid : c.pendingSyscalls.lookup tid with
  | none => rfl
  | some pending =>
    obtain ⟨hshow,hsub⟩ := hshows pending htid
    rw [Option.map_some,Option.map_some,hshow.readSections_of_agrees hagrees hsub]

/-- A stored exit keeps its value while its storage is left alone. -/
theorem exitAt_of_agrees {d : TraceSyscallCorrelationState}
    (hlookup : d.pendingExits.lookup tid=c.pendingExits.lookup tid)
    (hagrees : Agrees c.payload d.payload held)
    (hshows : ∀ pending, c.pendingExits.lookup tid=some pending →
      Shows c.payload pending.payloadStorage pending.payloadSections ∧
        owned pending.payloadStorage ⊆ held) :
    exitAt d tid=exitAt c tid := by
  unfold exitAt
  rw [hlookup]
  cases htid : c.pendingExits.lookup tid with
  | none => rfl
  | some pending =>
    obtain ⟨hshow,hsub⟩ := hshows pending htid
    rw [Option.map_some,Option.map_some,hshow.readSections_of_agrees hagrees hsub]

/-- Storages held outside one thread's pending enter. -/
def besidesPending (c : TraceSyscallCorrelationState) (tid : UInt32) (live loose : Multiset Ref) :
    Multiset Ref :=
  pendingHeld (c.pendingSyscalls.discard tid)+
    (exitsHeld c.pendingExits+(liveHeld c.snapshots live+loose))

/-- Storages held outside one thread's stored exit. -/
def besidesExit (c : TraceSyscallCorrelationState) (tid : UInt32) (live loose : Multiset Ref) :
    Multiset Ref :=
  pendingHeld c.pendingSyscalls+
    (exitsHeld (c.pendingExits.discard tid)+(liveHeld c.snapshots live+loose))

/-- Changing one thread's pending enter and its storage leaves every other holder alone. -/
theorem Represents.replacePending {t : Table UInt32 PendingSyscallState} {v : Option EnterValue}
    (hc : Represents c live loose out a) (tid : UInt32) (new : Option PendingSyscallState)
    (hvalue : new.map (enterValue q)=v) (hbalanced : t.Balanced)
    (hlookup : ∀ j, t.lookup j=if j=tid then new else c.pendingSyscalls.lookup j)
    (hheld : pendingHeld t=optionHeld new+pendingHeld (c.pendingSyscalls.discard tid))
    (hsound : Sound q (optionHeld new+besidesPending c tid live loose))
    (hagrees : Agrees c.payload q (besidesPending c tid live loose))
    (hshows : ∀ pending, new=some pending →
      Shows q pending.payloadStorage pending.payloadSections) :
    Represents {c with payload := q, pendingSyscalls := t} live loose out
      (a.setPending tid v) := by
  have h := hc.isOwned
  have hothers : ∀ j, j≠tid → ∀ pending, c.pendingSyscalls.lookup j=some pending →
      Shows c.payload pending.payloadStorage pending.payloadSections ∧
        owned pending.payloadStorage ⊆ besidesPending c tid live loose := by
    intro j hne pending hj
    have hkept : (c.pendingSyscalls.discard tid).lookup j=some pending := by
      rw [Table.lookup_discard h.pending,if_neg hne,hj]
    refine ⟨h.pendingShows j pending hj,fun other hmem => ?_⟩
    simp only [besidesPending,Multiset.mem_add]
    exact .inl (owned_subset_pendingHeld hkept hmem)
  have hexits : ∀ j pending, c.pendingExits.lookup j=some pending →
      Shows c.payload pending.payloadStorage pending.payloadSections ∧
        owned pending.payloadStorage ⊆ besidesPending c tid live loose := by
    intro j pending hj
    refine ⟨h.exitsShow j pending hj,fun other hmem => ?_⟩
    simp only [besidesPending,Multiset.mem_add]
    exact .inr (.inl (owned_subset_exitsHeld hj hmem))
  have hlive : ∀ ref∈live, owned (c.snapshots.read ref).payloadStorage ⊆
      besidesPending c tid live loose := by
    intro ref href other hmem
    simp only [besidesPending,Multiset.mem_add]
    exact .inr (.inr (.inl (owned_subset_liveHeld href hmem)))
  refine ⟨?_,?_,?_⟩
  · refine ⟨hbalanced,h.exits,h.snapshots,?_,?_,?_,?_⟩
    · dsimp only
      rw [hheld,add_assoc]
      exact hsound
    · intro j pending hj
      dsimp only at hj ⊢
      rw [hlookup] at hj
      split_ifs at hj with hjt
      · exact hshows pending hj
      · exact (hothers j hjt pending hj).1.of_agrees hagrees (hothers j hjt pending hj).2
    · intro j pending hj
      exact (hexits j pending hj).1.of_agrees hagrees (hexits j pending hj).2
    · intro ref href
      exact (h.snapshotsShow ref href).of_agrees hagrees (hlive ref href)
  · rw [←hc.contents_eq]
    unfold contents Contents.setPending
    congr 1
    · funext j
      by_cases hjt : j=tid
      · rw [hjt,Function.update_self]
        unfold pendingAt
        dsimp only
        rw [hlookup,if_pos rfl,←hvalue]
        rfl
      · rw [Function.update_of_ne hjt]
        apply pendingAt_of_agrees _ hagrees (hothers j hjt)
        dsimp only
        rw [hlookup,if_neg hjt]
    · funext j
      exact exitAt_of_agrees rfl hagrees (hexits j)
  · intro ref href
    rw [←hc.out_eq ref href]
    unfold snapshotAt
    dsimp only
    rw [(h.snapshotsShow ref href).readSections_of_agrees hagrees (hlive ref href)]

/-- Changing one thread's stored exit and its storage leaves every other holder alone. -/
theorem Represents.replaceExit {t : Table UInt32 PendingExitState}
    (hc : Represents c live loose out a) (tid : UInt32) (new : PendingExitState)
    (hbalanced : t.Balanced)
    (hlookup : ∀ j, t.lookup j=if j=tid then some new else c.pendingExits.lookup j)
    (hheld : exitsHeld t=owned new.payloadStorage+exitsHeld (c.pendingExits.discard tid))
    (hsound : Sound q (owned new.payloadStorage+besidesExit c tid live loose))
    (hagrees : Agrees c.payload q (besidesExit c tid live loose))
    (hshows : Shows q new.payloadStorage new.payloadSections) :
    Represents {c with payload := q, pendingExits := t} live loose out
      (a.setExit tid (some ⟨new.view,readSections q new.payloadSections⟩)) := by
  have h := hc.isOwned
  have hpendings : ∀ j pending, c.pendingSyscalls.lookup j=some pending →
      Shows c.payload pending.payloadStorage pending.payloadSections ∧
        owned pending.payloadStorage ⊆ besidesExit c tid live loose := by
    intro j pending hj
    refine ⟨h.pendingShows j pending hj,fun other hmem => ?_⟩
    simp only [besidesExit,Multiset.mem_add]
    exact .inl (owned_subset_pendingHeld hj hmem)
  have hothers : ∀ j, j≠tid → ∀ pending, c.pendingExits.lookup j=some pending →
      Shows c.payload pending.payloadStorage pending.payloadSections ∧
        owned pending.payloadStorage ⊆ besidesExit c tid live loose := by
    intro j hne pending hj
    have hkept : (c.pendingExits.discard tid).lookup j=some pending := by
      rw [Table.lookup_discard h.exits,if_neg hne,hj]
    refine ⟨h.exitsShow j pending hj,fun other hmem => ?_⟩
    simp only [besidesExit,Multiset.mem_add]
    exact .inr (.inl (owned_subset_exitsHeld hkept hmem))
  have hlive : ∀ ref∈live, owned (c.snapshots.read ref).payloadStorage ⊆
      besidesExit c tid live loose := by
    intro ref href other hmem
    simp only [besidesExit,Multiset.mem_add]
    exact .inr (.inr (.inl (owned_subset_liveHeld href hmem)))
  refine ⟨?_,?_,?_⟩
  · refine ⟨h.pending,hbalanced,h.snapshots,?_,?_,?_,?_⟩
    · dsimp only
      rw [hheld,add_assoc,add_left_comm]
      exact hsound
    · intro j pending hj
      exact (hpendings j pending hj).1.of_agrees hagrees (hpendings j pending hj).2
    · intro j pending hj
      dsimp only at hj ⊢
      rw [hlookup] at hj
      split_ifs at hj with hjt
      · obtain rfl := Option.some.inj hj
        exact hshows
      · exact (hothers j hjt pending hj).1.of_agrees hagrees (hothers j hjt pending hj).2
    · intro ref href
      exact (h.snapshotsShow ref href).of_agrees hagrees (hlive ref href)
  · rw [←hc.contents_eq]
    unfold contents Contents.setExit
    congr 1
    · funext j
      exact pendingAt_of_agrees rfl hagrees (hpendings j)
    · funext j
      by_cases hjt : j=tid
      · rw [hjt,Function.update_self]
        unfold exitAt
        dsimp only
        rw [hlookup,if_pos rfl]
        rfl
      · rw [Function.update_of_ne hjt]
        apply exitAt_of_agrees _ hagrees (hothers j hjt)
        dsimp only
        rw [hlookup,if_neg hjt]
  · intro ref href
    rw [←hc.out_eq ref href]
    unfold snapshotAt
    dsimp only
    rw [(h.snapshotsShow ref href).readSections_of_agrees hagrees (hlive ref href)]

end Frames

section Operations

variable {c} {out : Ref → EnterValue} {a : Contents} {live loose : Multiset Ref}
  {view : SyscallEventView} {tid : UInt32} {pending : PendingSyscallState}

theorem Represents.pending_eq (h : Represents c live loose out a) (tid : UInt32) :
    a.pending tid=(c.pendingSyscalls.lookup tid).map (enterValue c.payload) := by
  rw [←h.contents_eq]
  rfl

theorem Represents.exits_eq (h : Represents c live loose out a) (tid : UInt32) :
    a.exits tid=(c.pendingExits.lookup tid).map fun pending =>
      ⟨pending.view,readSections c.payload pending.payloadSections⟩ := by
  rw [←h.contents_eq]
  rfl

/-- Storages split at a thread's open enter. -/
theorem Represents.sound_of_pending (h : Represents c live loose out a)
    (htid : c.pendingSyscalls.lookup tid=some pending) :
    Sound c.payload (owned pending.payloadStorage+besidesPending c tid live loose) := by
  have hsound := h.isOwned.payload
  rw [pendingHeld,Table.sum_discard _ h.isOwned.pending htid,add_assoc] at hsound
  exact hsound

/-- Without an open enter, all storages are held by others. -/
theorem Represents.sound_of_idle (h : Represents c live loose out a)
    (htid : c.pendingSyscalls.lookup tid=none) :
    Sound c.payload (besidesPending c tid live loose) := by
  unfold besidesPending
  rw [Table.discard_of_lookup_eq_none htid]
  exact h.isOwned.payload

theorem setPending_self (a : Contents) (tid : UInt32) : a.setPending tid (a.pending tid)=a := by
  unfold Contents.setPending
  rw [Function.update_eq_self]

theorem setExit_self (a : Contents) (tid : UInt32) : a.setExit tid (a.exits tid)=a := by
  unfold Contents.setExit
  rw [Function.update_eq_self]

theorem setPending_setPending (a : Contents) (tid : UInt32) (v w : Option EnterValue) :
    (a.setPending tid v).setPending tid w=a.setPending tid w := by
  unfold Contents.setPending
  dsimp only
  rw [Function.update_idem]

theorem setExit_setExit (a : Contents) (tid : UInt32) (v w : Option ExitValue) :
    (a.setExit tid v).setExit tid w=a.setExit tid w := by
  unfold Contents.setExit
  dsimp only
  rw [Function.update_idem]

/-- Setting an absent enter to absent changes nothing. -/
theorem setPending_none_of_idle (h : a.pending tid=none) : a.setPending tid none=a := by
  rw [←h,setPending_self]

/-- Setting an absent exit to absent changes nothing. -/
theorem setExit_none_of_absent (h : a.exits tid=none) : a.setExit tid none=a := by
  rw [←h,setExit_self]

theorem enterValue_pendingWith (data : SyscallEnterData) (p : PayloadPool) (storage : Option Ref) :
    enterValue p (TraceSyscallCorrelationState.pendingWith data p storage)=
      ⟨data,storedSections p storage⟩ := by
  unfold enterValue TraceSyscallCorrelationState.pendingWith
  rw [readSections_payloadSectionsFromStorage]

/-- Recycling a thread's open enter forgets it. -/
theorem Represents.releasePendingSyscall (h : Represents c live loose out a) (tid : UInt32) :
    Represents (c.releasePendingSyscall tid) live loose out (a.setPending tid none) := by
  unfold TraceSyscallCorrelationState.releasePendingSyscall
  cases htid : c.pendingSyscalls.lookup tid with
  | none =>
    dsimp only
    rw [setPending_none_of_idle (by rw [h.pending_eq,htid,Option.map_none])]
    exact h
  | some pending =>
    obtain ⟨hsound,hagrees⟩ := (h.sound_of_pending htid).release
    apply h.replacePending tid none rfl (Table.discard_balanced h.isOwned.pending)
    · exact fun j => Table.lookup_discard h.isOwned.pending
    · rw [optionHeld,zero_add]
    · rw [optionHeld,zero_add]
      exact hsound
    · exact hagrees
    · exact fun _ hnone => nomatch hnone

/-- A pending enter with a written storage carries the sections of that storage. -/
theorem Represents.writePending {q : PayloadPool} {storage : Option Ref}
    {sections : List PayloadSection} {t : Table UInt32 PendingSyscallState}
    (h : Represents c live loose out a) (data : SyscallEnterData)
    (hstores : Stores c.payload q (besidesPending c tid live loose) storage sections)
    (hbalanced : t.Balanced)
    (hlookup : ∀ j, t.lookup j=if j=tid then
      some (TraceSyscallCorrelationState.pendingWith data q storage)
      else c.pendingSyscalls.lookup j)
    (hheld : pendingHeld t=owned storage+pendingHeld (c.pendingSyscalls.discard tid)) :
    Represents {c with payload := q, pendingSyscalls := t} live loose out
      (a.setPending tid (some ⟨data,sections⟩)) := by
  refine h.replacePending tid (some (TraceSyscallCorrelationState.pendingWith data q storage)) ?_
    hbalanced hlookup hheld hstores.sound hstores.agrees ?_
  · rw [Option.map_some,enterValue_pendingWith,hstores.stored]
  · exact fun _ hsome => Option.some.inj hsome ▸ rfl

/-- Opening an enter stores the record's data and sections. -/
theorem Represents.openPendingSyscall (h : Represents c live loose out a)
    (hidle : a.pending view.tid=none) (payload : List PayloadSection) :
    Represents (c.openPendingSyscall view payload) live loose out
      (a.setPending view.tid (some (Contents.openedValue view payload))) := by
  have htid : c.pendingSyscalls.lookup view.tid=none := by
    rw [h.pending_eq] at hidle
    exact Option.map_eq_none_iff.mp hidle
  have hstores := copy_stores (h.sound_of_idle htid) payload
  apply h.writePending _ hstores (Table.store_balanced h.isOwned.pending htid)
  · exact fun j => Table.lookup_store h.isOwned.pending
  · rw [pendingHeld,Table.sum_store _ h.isOwned.pending htid,
      Table.discard_of_lookup_eq_none htid]
    rfl

/-- Merging extends the sections of an open enter. -/
theorem Represents.mergePending (h : Represents c live loose out a)
    (htid : c.pendingSyscalls.lookup tid=some pending) (data : SyscallEnterData)
    (payload : List PayloadSection) :
    Represents (c.mergePending tid pending data payload) live loose out
      (a.setPending tid (some ⟨data,
        mergeSections (enterValue c.payload pending).sections payload⟩)) := by
  have hstores := merge_stores (h.sound_of_pending htid) payload
  rw [enterValue,(h.isOwned.pendingShows tid pending htid).readSections_eq]
  apply h.writePending _ hstores (Table.modify_balanced h.isOwned.pending)
  · intro j
    rw [Table.lookup_modify h.isOwned.pending,htid]
    rfl
  · rw [pendingHeld,Table.sum_modify _ h.isOwned.pending htid]
    rfl

/-- An enter record opens or extends its thread's enter. -/
theorem Represents.rememberEnterEvent (h : Represents c live loose out a)
    (view : SyscallEventView) (payload : List PayloadSection) :
    Represents (c.rememberEnterEvent view payload).1 live loose out
      (a.rememberEnterEvent view payload) ∧
      (c.rememberEnterEvent view payload).2=!a.sameSyscall view := by
  have hpending := h.pending_eq view.tid
  unfold TraceSyscallCorrelationState.rememberEnterEvent Contents.rememberEnterEvent
    Contents.enteredValue Contents.sameSyscall
  cases htid : c.pendingSyscalls.lookup view.tid with
  | none =>
    rw [htid,Option.map_none] at hpending
    rw [hpending]
    exact ⟨h.openPendingSyscall hpending payload,rfl⟩
  | some pending =>
    rw [htid,Option.map_some] at hpending
    rw [hpending]
    dsimp only
    by_cases hsame : pending.sysID=view.sysID
    · have hvalue : (enterValue c.payload pending).sysID=view.sysID := hsame
      rw [if_pos hsame,if_pos hvalue,Option.any_some,hvalue,beq_self_eq_true]
      exact ⟨h.mergePending htid _ payload,rfl⟩
    · have hvalue : ¬(enterValue c.payload pending).sysID=view.sysID := hsame
      rw [if_neg hsame,if_neg hvalue,Option.any_some,beq_eq_false_iff_ne.mpr hvalue]
      have hreleased := h.releasePendingSyscall view.tid
      have hidle : (a.setPending view.tid none).pending view.tid=none := Function.update_self ..
      have hopened := hreleased.openPendingSyscall hidle payload
      rw [setPending_setPending] at hopened
      exact ⟨hopened,rfl⟩

/-- A partial record extends the open enter of its syscall. -/
theorem Represents.rememberPayloadFragment (h : Represents c live loose out a)
    (view : SyscallEventView) (payload : List PayloadSection) :
    Represents (c.rememberPayloadFragment view payload) live loose out
      (a.rememberPayloadFragment view payload) := by
  have hpending := h.pending_eq view.tid
  unfold TraceSyscallCorrelationState.rememberPayloadFragment Contents.rememberPayloadFragment
  cases htid : c.pendingSyscalls.lookup view.tid with
  | none =>
    rw [htid,Option.map_none] at hpending
    rw [hpending,Option.map_none,setPending_none_of_idle hpending]
    exact h
  | some pending =>
    rw [htid,Option.map_some] at hpending
    rw [hpending,Option.map_some]
    dsimp only
    by_cases hsame : pending.sysID≠view.sysID
    · have hvalue : (enterValue c.payload pending).sysID≠view.sysID := hsame
      rw [if_pos hsame,if_pos hvalue,←hpending,setPending_self]
      exact h
    · have hvalue : ¬(enterValue c.payload pending).sysID≠view.sysID := hsame
      rw [if_neg hsame,if_neg hvalue]
      exact h.mergePending htid _ payload

/-- Recycling loose storages leaves every holder alone. -/
theorem Represents.replacePayload {q : PayloadPool} {kept : Multiset Ref}
    (h : Represents c live loose out a)
    (hsound : Sound q (pendingHeld c.pendingSyscalls+
      (exitsHeld c.pendingExits+(liveHeld c.snapshots live+kept))))
    (hagrees : Agrees c.payload q (pendingHeld c.pendingSyscalls+
      (exitsHeld c.pendingExits+(liveHeld c.snapshots live+kept)))) :
    Represents {c with payload := q} live kept out a := by
  have hpendings : ∀ j pending, c.pendingSyscalls.lookup j=some pending →
      Shows c.payload pending.payloadStorage pending.payloadSections ∧
        owned pending.payloadStorage ⊆ pendingHeld c.pendingSyscalls+
          (exitsHeld c.pendingExits+(liveHeld c.snapshots live+kept)) := by
    intro j pending hj
    refine ⟨h.isOwned.pendingShows j pending hj,fun other hmem => ?_⟩
    simp only [Multiset.mem_add]
    exact .inl (owned_subset_pendingHeld hj hmem)
  have hexits : ∀ j pending, c.pendingExits.lookup j=some pending →
      Shows c.payload pending.payloadStorage pending.payloadSections ∧
        owned pending.payloadStorage ⊆ pendingHeld c.pendingSyscalls+
          (exitsHeld c.pendingExits+(liveHeld c.snapshots live+kept)) := by
    intro j pending hj
    refine ⟨h.isOwned.exitsShow j pending hj,fun other hmem => ?_⟩
    simp only [Multiset.mem_add]
    exact .inr (.inl (owned_subset_exitsHeld hj hmem))
  have hlive : ∀ ref∈live, owned (c.snapshots.read ref).payloadStorage ⊆
      pendingHeld c.pendingSyscalls+
        (exitsHeld c.pendingExits+(liveHeld c.snapshots live+kept)) := by
    intro ref href other hmem
    simp only [Multiset.mem_add]
    exact .inr (.inr (.inl (owned_subset_liveHeld href hmem)))
  refine ⟨⟨h.isOwned.pending,h.isOwned.exits,h.isOwned.snapshots,hsound,?_,?_,?_⟩,?_,?_⟩
  · intro j pending hj
    exact (hpendings j pending hj).1.of_agrees hagrees (hpendings j pending hj).2
  · intro j pending hj
    exact (hexits j pending hj).1.of_agrees hagrees (hexits j pending hj).2
  · intro ref href
    exact (h.isOwned.snapshotsShow ref href).of_agrees hagrees (hlive ref href)
  · rw [←h.contents_eq]
    unfold contents
    congr 1
    · funext j
      exact pendingAt_of_agrees rfl hagrees (hpendings j)
    · funext j
      exact exitAt_of_agrees rfl hagrees (hexits j)
  · intro ref href
    rw [←h.out_eq ref href]
    unfold snapshotAt
    dsimp only
    rw [(h.isOwned.snapshotsShow ref href).readSections_of_agrees hagrees (hlive ref href)]

/-- A loose storage can be recycled. -/
theorem Represents.releaseLoose {storage : Option Ref}
    (h : Represents c live (owned storage+loose) out a) :
    Represents {c with payload := releasePayloadStorage c.payload storage} live loose out a := by
  have hsound : Sound c.payload (owned storage+(pendingHeld c.pendingSyscalls+
      (exitsHeld c.pendingExits+(liveHeld c.snapshots live+loose)))) := by
    have hheld : owned storage+(pendingHeld c.pendingSyscalls+
        (exitsHeld c.pendingExits+(liveHeld c.snapshots live+loose)))=
        pendingHeld c.pendingSyscalls+(exitsHeld c.pendingExits+
          (liveHeld c.snapshots live+(owned storage+loose))) := by abel
    rw [hheld]
    exact h.isOwned.payload
  exact h.replacePayload hsound.release.1 hsound.release.2

/-- Taking a stored exit leaves its storage with the caller. -/
theorem Represents.discardExit {pending : PendingExitState} (h : Represents c live loose out a)
    (htid : c.pendingExits.lookup tid=some pending) :
    Represents {c with pendingExits := c.pendingExits.discard tid} live
      (owned pending.payloadStorage+loose) out (a.setExit tid none) := by
  refine ⟨⟨h.isOwned.pending,Table.discard_balanced h.isOwned.exits,h.isOwned.snapshots,
    ?_,h.isOwned.pendingShows,?_,h.isOwned.snapshotsShow⟩,?_,h.out_eq⟩
  · have hsound := h.isOwned.payload
    rw [exitsHeld,Table.sum_discard _ h.isOwned.exits htid] at hsound
    have hheld : pendingHeld c.pendingSyscalls+(exitsHeld (c.pendingExits.discard tid)+
        (liveHeld c.snapshots live+(owned pending.payloadStorage+loose)))=
        pendingHeld c.pendingSyscalls+(owned pending.payloadStorage+
          exitsHeld (c.pendingExits.discard tid)+(liveHeld c.snapshots live+loose)) := by abel
    rw [hheld]
    exact hsound
  · intro j other hj
    rw [Table.lookup_discard h.isOwned.exits] at hj
    split_ifs at hj
    exact h.isOwned.exitsShow j other hj
  · rw [←h.contents_eq]
    unfold contents Contents.setExit
    congr 1
    funext j
    unfold exitAt
    dsimp only
    rw [Table.lookup_discard h.isOwned.exits]
    by_cases hjt : j=tid
    · rw [if_pos hjt,hjt,Function.update_self]
      rfl
    · rw [if_neg hjt,Function.update_of_ne hjt]

/-- Storages of an exit that was taken. -/
def takenHeld (taken : Option PendingExitState) : Multiset Ref :=
  match taken with
  | none => 0
  | some pending => owned pending.payloadStorage

/-- The value of a stored exit, read in a payload pool. -/
def exitValue (p : PayloadPool) (pending : PendingExitState) : ExitValue where
  view := pending.view
  sections := readSections p pending.payloadSections

/-- Taking a thread's stored exit. -/
theorem Represents.takePendingExitForTID (h : Represents c live loose out a) (tid : UInt32) :
    Represents (c.takePendingExitForTID tid).1 live
      (takenHeld (c.takePendingExitForTID tid).2+loose) out (a.setExit tid none) ∧
      (c.takePendingExitForTID tid).2.map (exitValue c.payload)=a.exits tid := by
  have hexit := h.exits_eq tid
  unfold TraceSyscallCorrelationState.takePendingExitForTID
  cases htid : c.pendingExits.lookup tid with
  | none =>
    rw [htid,Option.map_none] at hexit
    rw [setExit_none_of_absent hexit,hexit,takenHeld,zero_add]
    exact ⟨h,rfl⟩
  | some pending =>
    rw [htid] at hexit
    exact ⟨h.discardExit htid,hexit.symm⟩

/-- Taking the stored exit of an enter record. -/
theorem Represents.takePendingExit (h : Represents c live loose out a) (view : SyscallEventView) :
    Represents (c.takePendingExit view).1 live (takenHeld (c.takePendingExit view).2+loose) out
      (a.setExit view.tid none) ∧
      (c.takePendingExit view).2.map (exitValue c.payload)=a.takenExit view := by
  obtain ⟨htaken,hvalue⟩ := h.takePendingExitForTID view.tid
  unfold TraceSyscallCorrelationState.takePendingExit Contents.takenExit
  rw [←hvalue]
  revert htaken
  rcases c.takePendingExitForTID view.tid with ⟨d,taken⟩
  intro htaken
  cases taken with
  | none => exact ⟨htaken,rfl⟩
  | some pending =>
    dsimp only
    rw [Option.map_some,Option.filter_some]
    by_cases hother : pending.view.sysID≠view.sysID ∨ pending.view.enterTime≠view.enterTime
    · have hmatch : ((exitValue c.payload pending).view.sysID==view.sysID &&
          (exitValue c.payload pending).view.enterTime==view.enterTime)=false := by
        dsimp only [exitValue]
        rcases hother with hne | hne
        · rw [beq_eq_false_iff_ne.mpr hne,Bool.false_and]
        · rw [beq_eq_false_iff_ne.mpr hne,Bool.and_false]
      rw [if_pos hother,hmatch]
      refine ⟨?_,rfl⟩
      rw [takenHeld,zero_add]
      exact htaken.releaseLoose
    · have hboth := not_or.mp hother
      have hmatch : ((exitValue c.payload pending).view.sysID==view.sysID &&
          (exitValue c.payload pending).view.enterTime==view.enterTime)=true := by
        rw [Bool.and_eq_true]
        exact ⟨beq_iff_eq.mpr (not_ne_iff.mp hboth.1),beq_iff_eq.mpr (not_ne_iff.mp hboth.2)⟩
      rw [if_neg hother,hmatch]
      exact ⟨htaken,rfl⟩

/-- Dropping a thread's stored exit. -/
theorem Represents.dropPendingExit (h : Represents c live loose out a) (tid : UInt32) :
    Represents (c.dropPendingExit tid) live loose out (a.setExit tid none) := by
  have htaken := (h.takePendingExitForTID tid).1
  unfold TraceSyscallCorrelationState.dropPendingExit
  revert htaken
  rcases c.takePendingExitForTID tid with ⟨d,taken⟩
  intro htaken
  cases taken with
  | none =>
    rw [takenHeld,zero_add] at htaken
    exact htaken
  | some pending => exact htaken.releaseLoose

/-- Storing an exit replaces the earlier one of its thread. -/
theorem Represents.rememberPendingExit (h : Represents c live loose out a)
    (view : SyscallEventView) (payload : List PayloadSection) :
    Represents (c.rememberPendingExit view payload) live loose out
      (a.setExit view.tid (some ⟨view,payload⟩)) := by
  have hdropped := h.dropPendingExit view.tid
  have htid : (c.dropPendingExit view.tid).pendingExits.lookup view.tid=none := by
    have hnone : (a.setExit view.tid none).exits view.tid=none := Function.update_self ..
    rw [hdropped.exits_eq] at hnone
    exact Option.map_eq_none_iff.mp hnone
  have hsound : Sound (c.dropPendingExit view.tid).payload
      (besidesExit (c.dropPendingExit view.tid) view.tid live loose) := by
    unfold besidesExit
    rw [Table.discard_of_lookup_eq_none htid]
    exact hdropped.isOwned.payload
  have hstores := copy_stores hsound payload
  have hopened := hdropped.replaceExit view.tid ⟨view,_,payloadSectionsFromStorage _ _⟩
    (Table.store_balanced hdropped.isOwned.exits htid)
    (fun j => Table.lookup_store hdropped.isOwned.exits) (by
      rw [exitsHeld,Table.sum_store _ hdropped.isOwned.exits htid,
        Table.discard_of_lookup_eq_none htid]
      rfl) hstores.sound hstores.agrees rfl
  rw [setExit_setExit,readSections_payloadSectionsFromStorage,hstores.stored] at hopened
  exact hopened

/-- The value of a snapshot, read in a payload pool. -/
def snapshotValue (p : PayloadPool) (snapshot : PendingSyscallSnapshot) : EnterValue where
  toSyscallEnterData := snapshot.toSyscallEnterData
  sections := readSections p snapshot.payloadSections

/-- A stored snapshot takes over a loose storage. -/
theorem Represents.storeSnapshot (snapshot : PendingSyscallSnapshot)
    (h : Represents c live (owned snapshot.payloadStorage+loose) out a)
    (hshows : Shows c.payload snapshot.payloadStorage snapshot.payloadSections) :
    Represents (c.storeSnapshot snapshot).1 ((c.storeSnapshot snapshot).2::ₘlive) loose
      (Function.update out (c.storeSnapshot snapshot).2 (snapshotValue c.payload snapshot)) a := by
  have hbalanced := Pool.acquire_balanced h.isOwned.snapshots
  have hself : (c.storeSnapshot snapshot).1.snapshots.read (c.storeSnapshot snapshot).2=snapshot :=
    Pool.read_write_self (hbalanced.lt (Multiset.mem_cons_self _ _))
  have hne : ∀ ref∈live, ref≠(c.storeSnapshot snapshot).2 := by
    rintro ref href rfl
    exact Pool.acquire_notMem h.isOwned.snapshots href
  have hother : ∀ ref∈live,
      (c.storeSnapshot snapshot).1.snapshots.read ref=c.snapshots.read ref := by
    intro ref href
    exact (Pool.read_write_ne (hne ref href)).trans
      (Pool.read_acquire (h.isOwned.snapshots.lt href))
  refine ⟨⟨h.isOwned.pending,h.isOwned.exits,Pool.write_balanced hbalanced,?_,
    h.isOwned.pendingShows,h.isOwned.exitsShow,?_⟩,h.contents_eq,?_⟩
  · have hlive : liveHeld (c.storeSnapshot snapshot).1.snapshots
        ((c.storeSnapshot snapshot).2::ₘlive)=
        owned snapshot.payloadStorage+liveHeld c.snapshots live := by
      unfold liveHeld
      rw [Multiset.map_cons,Multiset.sum_cons,hself]
      congr 2
      apply Multiset.map_congr rfl
      intro ref href
      rw [hother ref href]
    rw [hlive,add_assoc,add_left_comm (owned snapshot.payloadStorage)]
    exact h.isOwned.payload
  · intro ref href
    rcases Multiset.mem_cons.mp href with rfl | href
    · rw [hself]
      exact hshows
    · rw [hother ref href]
      exact h.isOwned.snapshotsShow ref href
  · intro ref href
    rcases Multiset.mem_cons.mp href with rfl | href
    · rw [Function.update_self,snapshotAt,hself]
      rfl
    · rw [Function.update_of_ne (hne ref href),←h.out_eq ref href,snapshotAt,hother ref href]
      rfl

/-- A detached enter leaves its storage with the caller. -/
theorem Represents.detachPending (h : Represents c live loose out a)
    (htid : c.pendingSyscalls.lookup tid=some pending) :
    Represents (c.detachPending tid) live (owned pending.payloadStorage+loose) out
      (a.setPending tid none) := by
  refine ⟨⟨Table.discard_balanced h.isOwned.pending,h.isOwned.exits,h.isOwned.snapshots,
    ?_,?_,h.isOwned.exitsShow,h.isOwned.snapshotsShow⟩,?_,h.out_eq⟩
  · have hsound := h.isOwned.payload
    rw [pendingHeld,Table.sum_discard _ h.isOwned.pending htid] at hsound
    have hheld : pendingHeld (c.pendingSyscalls.discard tid)+(exitsHeld c.pendingExits+
        (liveHeld c.snapshots live+(owned pending.payloadStorage+loose)))=
        owned pending.payloadStorage+pendingHeld (c.pendingSyscalls.discard tid)+
          (exitsHeld c.pendingExits+(liveHeld c.snapshots live+loose)) := by abel
    change Sound c.payload (pendingHeld (c.pendingSyscalls.discard tid)+(exitsHeld c.pendingExits+
      (liveHeld c.snapshots live+(owned pending.payloadStorage+loose))))
    rw [hheld]
    exact hsound
  · intro j other hj
    change (c.pendingSyscalls.discard tid).lookup j=some other at hj
    rw [Table.lookup_discard h.isOwned.pending] at hj
    split_ifs at hj
    exact h.isOwned.pendingShows j other hj
  · rw [←h.contents_eq]
    unfold contents Contents.setPending
    congr 1
    funext j
    unfold pendingAt TraceSyscallCorrelationState.detachPending
    dsimp only
    rw [Table.lookup_discard h.isOwned.pending]
    by_cases hjt : j=tid
    · rw [if_pos hjt,hjt,Function.update_self]
      rfl
    · rw [if_neg hjt,Function.update_of_ne hjt]

/-- Snapshots out after an operation that may hand out one. -/
def withSnapshot (snapshot : Option Ref) (live : Multiset Ref) : Multiset Ref :=
  match snapshot with
  | none => live
  | some ref => ref::ₘlive

/-- Values of the snapshots out after an operation that may hand out one. -/
def withValue (snapshot : Option Ref) (value : Option EnterValue) (out : Ref → EnterValue) :
    Ref → EnterValue :=
  match snapshot,value with
  | some ref,some v => Function.update out ref v
  | _,_ => out

/-- An exit record consumes its thread's enter, as a snapshot if it is the same syscall. -/
theorem Represents.consumeEnterEvent (h : Represents c live loose out a)
    (view : SyscallEventView) :
    Represents (c.consumeEnterEvent view).1 (withSnapshot (c.consumeEnterEvent view).2 live) loose
      (withValue (c.consumeEnterEvent view).2 (a.consumedEnter view) out)
      (a.consumeEnterEvent view) ∧
      (c.consumeEnterEvent view).2.isSome=(a.consumedEnter view).isSome := by
  have hpending := h.pending_eq view.tid
  unfold TraceSyscallCorrelationState.consumeEnterEvent Contents.consumedEnter
    Contents.consumeEnterEvent
  by_cases hexit : view.isExit=false
  · rw [if_pos hexit,if_pos hexit,if_pos hexit]
    exact ⟨h,rfl⟩
  rw [if_neg hexit,if_neg hexit,if_neg hexit]
  cases htid : c.pendingSyscalls.lookup view.tid with
  | none =>
    rw [htid,Option.map_none] at hpending
    rw [hpending,setPending_none_of_idle hpending]
    exact ⟨h,rfl⟩
  | some pending =>
    rw [htid,Option.map_some] at hpending
    rw [hpending,Option.filter_some]
    dsimp only
    by_cases hsame : pending.sysID≠view.sysID
    · have hvalue : ((enterValue c.payload pending).sysID==view.sysID)=false :=
        beq_eq_false_iff_ne.mpr hsame
      rw [if_pos hsame,hvalue]
      exact ⟨h.releasePendingSyscall view.tid,rfl⟩
    · have hvalue : ((enterValue c.payload pending).sysID==view.sysID)=true :=
        beq_iff_eq.mpr (not_ne_iff.mp hsame)
      rw [if_neg hsame,hvalue]
      have hsnapshot := Represents.storeSnapshot
        {toSyscallEnterData := pending.toSyscallEnterData
         payloadStorage := pending.payloadStorage
         payloadSections := payloadSectionsFromStorage c.payload pending.payloadStorage}
        (h.detachPending htid) rfl
      have hshow : snapshotValue c.payload
          {toSyscallEnterData := pending.toSyscallEnterData
           payloadStorage := pending.payloadStorage
           payloadSections := payloadSectionsFromStorage c.payload pending.payloadStorage}=
          enterValue c.payload pending := by
        unfold enterValue snapshotValue
        rw [h.isOwned.pendingShows view.tid pending htid]
      refine ⟨?_,rfl⟩
      change Represents _ _ _ (Function.update out _ (enterValue c.payload pending)) _
      rw [←hshow]
      exact hsnapshot

/-- A made-up enter is a snapshot without sections. -/
theorem Represents.synthesizeGenericEnter (h : Represents c live loose out a)
    (view : SyscallEventView) :
    Represents (c.synthesizeGenericEnter view).1 ((c.synthesizeGenericEnter view).2::ₘlive) loose
      (Function.update out (c.synthesizeGenericEnter view).2
        (Contents.synthesizedValue view)) a := by
  have hloose : Represents c live (owned none+loose) out a := by
    rw [owned,zero_add]
    exact h
  exact Represents.storeSnapshot _ hloose rfl

/-- Recycling a snapshot frees it with its storage. -/
theorem Represents.releasePendingSnapshot {snapshot : Option Ref}
    (h : Represents c (withSnapshot snapshot live) loose out a) :
    Represents (c.releasePendingSnapshot snapshot) live loose out a := by
  cases snapshot with
  | none => exact h
  | some ref =>
    have hbalanced : c.snapshots.Balanced (ref::ₘlive) := h.isOwned.snapshots
    have hother : ∀ other∈live,
        (c.snapshots.release ref {}).read other=c.snapshots.read other := by
      intro other hmem
      apply Pool.read_release_ne
      rintro rfl
      exact (Multiset.nodup_cons.mp hbalanced.nodup).1 hmem
    have hout : Represents {c with snapshots := c.snapshots.release ref {}} live
        (owned (c.snapshots.read ref).payloadStorage+loose) out a := by
      refine ⟨⟨h.isOwned.pending,h.isOwned.exits,Pool.release_balanced hbalanced,?_,
        h.isOwned.pendingShows,h.isOwned.exitsShow,?_⟩,h.contents_eq,?_⟩
      · have hsound := h.isOwned.payload
        have hlive : liveHeld (c.snapshots.release ref {}) live=liveHeld c.snapshots live := by
          unfold liveHeld
          congr 1
          apply Multiset.map_congr rfl
          intro other hmem
          rw [hother other hmem]
        have hcons : liveHeld c.snapshots (withSnapshot (some ref) live)=
            owned (c.snapshots.read ref).payloadStorage+liveHeld c.snapshots live := by
          unfold liveHeld withSnapshot
          rw [Multiset.map_cons,Multiset.sum_cons]
        rw [hcons,add_assoc,add_left_comm (owned (c.snapshots.read ref).payloadStorage)] at hsound
        dsimp only
        rw [hlive]
        exact hsound
      · intro other hmem
        dsimp only
        rw [hother other hmem]
        exact h.isOwned.snapshotsShow other (Multiset.mem_cons_of_mem hmem)
      · intro other hmem
        rw [←h.out_eq other (Multiset.mem_cons_of_mem hmem)]
        unfold snapshotAt
        dsimp only
        rw [hother other hmem]
    exact hout.releaseLoose

/-- Marking an unfinished line changes one flag. -/
theorem Represents.markUnfinishedPrinted (h : Represents c live loose out a) (tid : UInt32) :
    Represents (c.markUnfinishedPrinted tid) live loose out (a.markUnfinishedPrinted tid) := by
  have hpending := h.pending_eq tid
  unfold TraceSyscallCorrelationState.markUnfinishedPrinted Contents.markUnfinishedPrinted
  rw [hpending]
  cases htid : c.pendingSyscalls.lookup tid with
  | none =>
    rw [htid,Option.map_none] at hpending
    rw [Option.map_none,Option.map_none,setPending_none_of_idle hpending]
    exact h
  | some pending =>
    refine h.replacePending tid (some {pending with unfinishedPrinted := true}) rfl
      (Table.modify_balanced h.isOwned.pending) ?_ ?_ ?_ (fun _ _ => rfl) ?_
    · intro j
      rw [Table.lookup_modify h.isOwned.pending,htid]
      rfl
    · rw [pendingHeld,Table.sum_modify _ h.isOwned.pending htid]
      rfl
    · have hsound := h.sound_of_pending htid
      exact hsound
    · intro other hsome
      obtain rfl := Option.some.inj hsome
      exact h.isOwned.pendingShows tid pending htid

/-- The text maps hold no cells. -/
theorem Represents.setTexts (h : Represents c live loose out a)
    (execArgs suspended : GoMap ℤ String) :
    Represents {c with pendingExecArgs := execArgs, suspendedSyscalls := suspended} live loose out
      {a with pendingExecArgs := execArgs, suspendedSyscalls := suspended} := by
  refine ⟨⟨h.isOwned.pending,h.isOwned.exits,h.isOwned.snapshots,h.isOwned.payload,
    h.isOwned.pendingShows,h.isOwned.exitsShow,h.isOwned.snapshotsShow⟩,?_,h.out_eq⟩
  rw [←h.contents_eq]
  rfl

/-- Clearing a thread forgets all of its data. -/
theorem Represents.clearTask (h : Represents c live loose out a) (tid : UInt32) :
    Represents (c.clearTask tid) live loose out (a.clearTask tid) := by
  have hargs : a.pendingExecArgs=c.pendingExecArgs := by rw [←h.contents_eq,contents]
  have hsuspended : a.suspendedSyscalls=c.suspendedSyscalls := by rw [←h.contents_eq,contents]
  have htexts := h.setTexts (c.pendingExecArgs.erase tid.toNat)
    (c.suspendedSyscalls.erase tid.toNat)
  unfold Contents.clearTask
  rw [hargs,hsuspended]
  exact (htexts.releasePendingSyscall tid).dropPendingExit tid

end Operations

end StraceGo.EventSyscallOwnership
